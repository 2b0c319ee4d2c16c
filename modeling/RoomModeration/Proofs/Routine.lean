import RoomModeration.Proofs.Parallel
import RoomModeration.Proofs.Run

/-!
# What is kept as a matter of routine

Most of what the bot does opens or closes no welcome room. A property that none of the parts of such
steps disturbs is related to nothing but itself by a likeness, and so all of these steps keep it.
It endures if it is also kept where the feed is written down, where the bot learns that it is out of
a room, and where welcome rooms are opened and closed.

## Main definitions

* `Alone` : worlds with a property, related to themselves.
* `Routine` : the parts of steps keep a property.

## Main results

* `Routine.likeness` : such worlds are related by a likeness.
* `Routine.happening` : whatever happens keeps a property of this kind.
-/

namespace RoomModeration

open BotM RoomModeration.Bot

variable [Surroundings] {α : Type} {I : World → Prop}

/-- Worlds with a property are related to themselves. -/
def Alone (I : World → Prop) (v w : World) : Prop :=
  v = w ∧ I v

theorem Keeps.respects {step : BotM α} (h : Keeps I step) : Respects (Alone I) step := by
  rintro v _ ⟨rfl, hv⟩
  exact ⟨rfl, rfl, h v hv⟩

theorem Respects.keeps {step : BotM α} (h : Respects (Alone I) step) : Keeps I step :=
  fun _ hw => (h ⟨rfl, hw⟩).2.2

/-- Saying what is going on is respected, if the property does not mind what is said. -/
theorem Alone.during (hI : ∀ (w : World) (activities : List Activity), I w →
    I { w with activities := activities }) (activity : Activity) {x y : BotM α}
    (hxy : Parallel (Alone I) x y) :
    Parallel (Alone I) (BotM.during activity x) (BotM.during activity y) := by
  rintro v _ ⟨rfl, hv⟩
  obtain ⟨hresult, hsame, hdone⟩ := hxy (v := { v with activities := v.activities ++ [activity] })
    ⟨rfl, hI v _ hv⟩
  exact ⟨hresult, congrArg (fun u => { u with activities := v.activities }) hsame, hI _ _ hdone⟩

/-- The parts of steps keep a property: idling, changes that leave the welcome rooms and the moment
of being ready alone, and calls other than for new rooms. -/
structure Routine (I : World → Prop) : Prop where
  idle : Undisturbed I
  change : ∀ f : Bot → Bot, (∀ b, (f b).welcome = b.welcome ∧ (f b).readyTs = b.readyTs) →
    Keeps I (change f)
  call : ∀ c : Call, (∀ request, c ≠ .create request) → Keeps I (call c).run

namespace Routine

theorem congruence (h : Routine I) : Congruence (Alone I) where
  bot hvw := congrArg World.bot hvw.1
  noteAll notices := (Keeps.noteAll h.idle notices).respects
  countBy _ n hc := (Keeps.countBy h.idle hc n).respects
  change f hf := (h.change f fun b => ⟨(hf b).1, (hf b).2.1⟩).respects
  call c hc := (h.call c hc).respects
  spawn job _ _ := (Keeps.spawn h.idle job).respects
  during activity _ _ := Alone.during (fun w _ => h.idle (idle_activities w _)) activity

theorem likeness (h : Routine I) : Likeness (Alone I) :=
  h.congruence.likeness

variable (h : Routine I) (hrecord : ∀ o : Occurrence, o.call? = none → Keeps I (record o))
  (hleft : ∀ room, Keeps I (handleLeft room)) (hevict : ∀ room why, Keeps I (evict room why))
  (hwelcome : ∀ source member, Keeps I (welcomeNewcomer source member))

include h hrecord hleft

theorem applyBatch (batch : FeedBatch) : Keeps I (applyBatch batch) :=
  brings_applyBatch h.idle h.idle batch (hrecord _ rfl)
    (fun entry _ e _ => (h.likeness.applyEvent entry.1 e).keeps)
    (Keeps.forM fun room _ => .discard (hleft room)) (h.change _ fun _ => ⟨rfl, rfl⟩)

theorem subsists : Subsists I where
  idle := h.idle
  report o ho _ := hrecord o ho
  ask := (h.likeness.attempt "joined_rooms" .joinedRooms rfl nofun).keeps
  measure := h.change _ fun _ => ⟨rfl, rfl⟩
  shutdown := .bind (.note h.idle _) fun _ => h.change _ fun _ => ⟨rfl, rfl⟩
  batch := h.applyBatch hrecord hleft
  reconcile := h.likeness.reconcile.keeps
  join := .bind .getConfig fun _ => (h.likeness.joinEach _).keeps
  rejoin room := (h.likeness.rejoin room).keeps
  leave room := (h.likeness.leaveRoom room).keeps

include hevict hwelcome

theorem endures : Endures I where
  toSubsists := h.subsists hrecord hleft
  evict := hevict
  welcome := hwelcome

/-- Whatever happens keeps such a property, if becoming ready does. -/
theorem happening (x : Happening) (hready : ∀ readyTs, x = .start readyTs →
    Keeps I (BotM.change fun b => { b with readyTs := readyTs })) : Keeps I x.run :=
  (h.endures hrecord hleft hevict hwelcome).happening x hready
    fun room sender body _ => (h.likeness.receiveChat room sender body).keeps

end Routine

end RoomModeration
