import RoomModeration.Proofs.Abiding
import RoomModeration.Proofs.Room.Welcoming

/-!
# Records and presence

A record is meant to exist while the bot is in the room. What the bot knows of its presence is in
the history: it enters a room when the homeserver names it in answer to a join, and it has left when
the homeserver lets it leave or a batch tells so. This file shows that the last of these is the
entering for each room with a record, and that no room has one right after a batch has told that the
bot is out of it, unless the bot has created the room itself.

A room that the bot has created is a welcome room. It has no record at first; but a command can take
it in like any other room, and then the two ways of closing it, which take it out of the registry
and leave the records alone, leave the record behind. The end of the file has such a run.

In a run each happening is done to its end before the next. So nothing is said of a batch that tells
of a departure while a job waits for the homeserver between its joining the room and its beginning
the record; the run at the end of the file has nothing of this kind.

## Main definitions

* `Move`, `lastMove?` : how the bot has moved last with respect to a room.
* `Opened` : the bot has created a room.
* `World.Tallies` : the record of a room agrees with the history.
* `Recedes` : what can at most be lost with respect to a room.

## Main results

* `lasts_tallies` : that the record of a room agrees with the history lasts.
* `record_within_presence` : a room with a record was entered last, or the bot has created it.
* `record_outlives_presence` : a record of a welcome room stays behind.
-/

namespace RoomModeration

open BotM RoomModeration.Bot

/-! ### Moves -/

/-- How the bot can have moved with respect to a room. -/
inductive Move where
  /-- The bot has entered the room. -/
  | entered
  /-- The bot has left the room or was made to. -/
  | left
  deriving DecidableEq, Repr

/-- How the bot has moved with respect to a room in an occurrence, if it has. -/
def Occurrence.move? (room : RoomId) : Occurrence → Option Move
  | called _ _ (.join _ _) (.ok joined) => if joined = room then some .entered else none
  | called _ _ (.leave other) (.ok _) => if other = room then some .left else none
  | applied batch => if batch.left.contains room then some .left else none
  | _ => none

/-- How the bot has moved last with respect to a room. -/
def lastMove? (room : RoomId) (history : List Occurrence) : Option Move :=
  history.findSome? (·.move? room)

/-- The room that the bot has created in an occurrence, if it has created one. -/
def Occurrence.created? : Occurrence → Option RoomId
  | called _ _ (.create _) (.ok room) => some room
  | _ => none

/-- The bot has created a room. -/
def Opened (room : RoomId) (history : List Occurrence) : Prop :=
  ∃ o ∈ history, o.created? = some room

instance (room : RoomId) (history : List Occurrence) : Decidable (Opened room history) :=
  inferInstanceAs (Decidable (∃ o ∈ history, o.created? = some room))

section

variable {room : RoomId} {o : Occurrence} {history : List Occurrence}

theorem lastMove?_cons_of_none (h : o.move? room = none) :
    lastMove? room (o :: history) = lastMove? room history := by
  rw [lastMove?, List.findSome?_cons_of_isNone, lastMove?]
  rw [h]
  rfl

theorem lastMove?_cons_of_some {m : Move} (h : o.move? room = some m) :
    lastMove? room (o :: history) = some m := by
  rw [lastMove?, List.findSome?_cons_of_isSome, h]
  rw [h]
  rfl

theorem Opened.cons (h : Opened room history) : Opened room (o :: history) := by
  obtain ⟨p, hmem, hcreated⟩ := h
  exact ⟨p, List.mem_cons_of_mem _ hmem, hcreated⟩

end

section

variable [Surroundings] {w w' w'' : World} {room : RoomId} {excused : Prop}

/-- The record of a room agrees with the history: if there is one, the room was entered last, unless
the bot has created it or is excused; and only rooms that the bot has created are welcome rooms. -/
structure World.Tallies (room : RoomId) (excused : Prop) (w : World) : Prop where
  registered : w.bot.welcome.contains room = true → Opened room w.history
  tracked : w.bot.rooms.isTracked room = true →
    lastMove? room w.history = some .entered ∨ Opened room w.history ∨ excused

/-- The record of a room is gone, unless the bot has created the room. -/
structure World.Cleared (room : RoomId) (w : World) : Prop where
  registered : w.bot.welcome.contains room = true → Opened room w.history
  tracked : w.bot.rooms.isTracked room = true → Opened room w.history

theorem World.Cleared.tallies (h : w.Cleared room) : w.Tallies room excused :=
  ⟨h.registered, fun htracked => .inr (.inl (h.tracked htracked))⟩

/-- In a room that the bot has created everything is excused. -/
theorem World.tallies_of_opened (h : Opened room w.history) : w.Tallies room excused :=
  ⟨fun _ => h, fun _ => .inr (.inl h)⟩

/-! ### What can be lost -/

/-- With respect to a room at most something is lost: it gets neither a record nor an entry in the
registry, and if the bot moves at all, it enters the room. -/
structure Recedes (room : RoomId) (w w' : World) : Prop where
  tracked : w'.bot.rooms.isTracked room = true → w.bot.rooms.isTracked room = true
  registered : w'.bot.welcome.contains room = true → w.bot.welcome.contains room = true
  lastMove : lastMove? room w'.history = lastMove? room w.history ∨
    lastMove? room w'.history = some .entered
  opened : Opened room w.history → Opened room w'.history

namespace Recedes

theorem refl (room : RoomId) (w : World) : Recedes room w w :=
  ⟨id, id, .inl rfl, id⟩

theorem trans (h : Recedes room w w') (h' : Recedes room w' w'') : Recedes room w w'' where
  tracked htracked := h.tracked (h'.tracked htracked)
  registered hregistered := h.registered (h'.registered hregistered)
  lastMove := by
    obtain hsame | hentered := h'.lastMove
    · rw [hsame]
      exact h.lastMove
    · exact .inr hentered
  opened hopened := h'.opened (h.opened hopened)

/-- Only the bot changes. -/
theorem of_bot (history : w'.history = w.history)
    (tracked : w'.bot.rooms.isTracked room = true → w.bot.rooms.isTracked room = true)
    (registered : w'.bot.welcome.contains room = true → w.bot.welcome.contains room = true) :
    Recedes room w w' :=
  ⟨tracked, registered, .inl (by rw [history]), fun hopened => by rwa [history]⟩

/-- Only the history changes, by something that is no move out of the room. -/
theorem of_history {o : Occurrence} (bot : w'.bot = w.bot) (history : w'.history = o :: w.history)
    (hmove : o.move? room = none ∨ o.move? room = some .entered) : Recedes room w w' where
  tracked := by rw [bot]; exact id
  registered := by rw [bot]; exact id
  lastMove := by
    rw [history]
    exact hmove.imp lastMove?_cons_of_none lastMove?_cons_of_some
  opened := by
    rw [history]
    exact Opened.cons

/-- What the feed brings is written down. -/
theorem record (o : Occurrence) (w : World) (hmove : o.move? room = none) :
    Recedes room w ((BotM.record o).run w).2 :=
  .of_history rfl rfl (.inl hmove)

theorem tallies (h : Recedes room w w') (hw : w.Tallies room excused) :
    w'.Tallies room excused where
  registered hregistered := h.opened (hw.registered (h.registered hregistered))
  tracked htracked := by
    obtain hsame | hentered := h.lastMove
    · rw [hsame]
      exact (hw.tracked (h.tracked htracked)).imp_right (·.imp_left h.opened)
    · exact .inl hentered

theorem cleared (h : Recedes room w w') (hw : w.Cleared room) : w'.Cleared room where
  registered hregistered := h.opened (hw.registered (h.registered hregistered))
  tracked htracked := h.opened (hw.tracked (h.tracked htracked))

end Recedes

/-- The permission to do anything but leave rooms, create them, begin records and register welcome
rooms. -/
def Staying : Permission where
  Allows _
    | .call (.leave _) | .call (.create _) | .report => False
    | .change (.seeded ..) | .change (.registered _) => False
    | .aside | .call _ | .change _ => True
  aside _ := trivial

instance : Minding.Within Staying where
  allows {_ d} h := by
    cases d with
    | aside => trivial
    | report => exact h.elim
    | call c =>
      cases c with
      | leave | create => cases h.2
      | _ => trivial
    | change c =>
      cases c with
      | seeded | registered => exact h.elim
      | _ => trivial

instance : Entering.Within Staying where
  allows {_ d} h := by
    cases d with
    | aside => trivial
    | report | change => exact h.elim
    | call c =>
      cases c with
      | leave | create => exact h.elim
      | _ => trivial

/-- A call that neither leaves a room nor creates one is no move out of any room. -/
theorem Occurrence.move?_called {c : Call} (hc : Staying.Allows w (.call c)) (before : Bot)
    (activities : List Activity) (result : Except ActionError c.Reply) :
    (called before activities c result).move? room = none ∨
      (called before activities c result).move? room = some .entered := by
  cases c with
  | leave | create => exact hc.elim
  | join asked via =>
    cases result with
    | error => exact .inl rfl
    | ok joined =>
      by_cases hroom : joined = room
      · exact .inr (if_pos hroom)
      · exact .inl (if_neg hroom)
  | _ => exact .inl rfl

/-- Whoever stays loses at most something. -/
theorem Trace.recedes {K : Permission} [K.Within Staying] (h : Trace K w w') (room : RoomId) :
    Recedes room w w' := by
  refine (h.within : Trace Staying w w').invariant (I := Recedes room w) (fun hd hleads hv => ?_)
    (.refl room w)
  refine hv.trans ?_
  cases hleads with
  | aside bot history =>
    exact .of_bot history (by rw [bot]; exact id) (by rw [bot]; exact id)
  | report => exact hd.elim
  | call c result bot history => exact .of_history bot history (Occurrence.move?_called hd _ _ _)
  | change c bot history =>
    refine .of_bot history (fun htracked => ?_) fun hregistered => ?_
    · rw [bot] at htracked
      refine Change.isTracked_of_isTracked_apply ?_ htracked
      rintro members banned config rfl
      exact hd
    · rw [bot] at hregistered
      cases c with
      | seeded | registered => exact hd.elim
      | unregistered other => exact (Bot.unregister_keeps _ other).2.2 room hregistered
      | _ => exact hregistered

/-! ### Steps -/

theorem Series.recedes {l : List (Sanction × Bool)} (h : Series w l w') (room : RoomId) :
    Recedes room w w' := by
  have htrace : Trace Staying w w' := by
    refine h.trace (fun _ a => ?_) fun _ a => ?_
    all_goals
      obtain ⟨other, member, reason?⟩ := a
      cases reason? with
      | some reason => trivial
      | none => trivial
  exact htrace.recedes room

theorem Edited.recedes {α : Type} {edit : Config.Edit α} {result : Except HandlerError Unit}
    (h : Edited edit w w' result) (room : RoomId) : Recedes room w w' := by
  cases h with
  | failed e fails bot config history =>
    exact .of_bot history (by rw [bot]; exact id) (by rw [bot]; exact id)
  | made a edits bot history =>
    exact .of_bot history (by rw [bot]; exact id) (by rw [bot]; exact id)

/-- Reading the modes of a record anew begins none. -/
theorem recedes_of_refreshed {other : RoomId} {store : ConfigStore}
    (bot : w'.bot = ({ w.bot with store := store } : Bot).refreshModes other)
    (history : w'.history = w.history) : Recedes room w w' := by
  refine .of_bot history (fun htracked => ?_) (by rw [bot]; exact id)
  rw [bot] at htracked
  exact Change.isTracked_of_isTracked_apply (c := .refreshed other)
    (b := { w.bot with store := store }) nofun htracked

theorem ModesSet.recedes {set : RoomId} (h : ModesSet set w w') (room : RoomId) :
    Recedes room w w' := by
  cases h with
  | failed minding => exact minding.recedes room
  | made store monitored others v bot history minding =>
    exact (recedes_of_refreshed bot history).trans (minding.recedes room)

/-- Entering a room begins its record, and it is this room that was entered last. -/
theorem Joined.tallies {asked : RoomId} {result : Except ActionError RoomId}
    (h : Joined asked w w' result) (hw : w.Tallies room excused) : w'.Tallies room excused := by
  cases h with
  | failed e entering => exact (entering.recedes room).tallies hw
  | entered joined members banned bot history =>
    by_cases hroom : joined = room
    · have hentered : lastMove? room w'.history = some .entered := by
        rw [history, lastMove?_cons_of_none rfl, lastMove?_cons_of_none rfl]
        exact lastMove?_cons_of_some (if_pos hroom)
      refine ⟨fun hregistered => ?_, fun _ => .inl hentered⟩
      rw [bot] at hregistered
      rw [history]
      exact (hw.registered hregistered).cons.cons.cons
    · refine Recedes.tallies (w := w) ⟨fun htracked => ?_, ?_, .inl ?_, fun hopened => ?_⟩ hw
      · rw [bot] at htracked
        exact (RoomStore.isTracked_put_of_ne hroom).symm.trans htracked
      · rw [bot]
        exact id
      · rw [history, lastMove?_cons_of_none rfl, lastMove?_cons_of_none rfl]
        exact lastMove?_cons_of_none (if_neg hroom)
      · rw [history]
        exact hopened.cons.cons.cons

/-- Leaving a room ends its record. -/
theorem Left.tallies {other : RoomId} {result : Except ActionError Unit}
    (h : Left other w w' result) (hw : w.Tallies room excused) : w'.Tallies room excused := by
  cases h with
  | refused e called =>
    exact (Recedes.of_history called.bot called.history (.inl rfl)).tallies hw
  | left bot history =>
    by_cases hroom : other = room
    · subst hroom
      refine ⟨fun hregistered => ?_, fun htracked => ?_⟩
      · rw [bot] at hregistered
        rw [history]
        exact (hw.registered hregistered).cons
      · rw [bot, RoomStore.isTracked_eq_isSome] at htracked
        change ((w.bot.rooms.drop other).find? other).isSome = true at htracked
        rw [RoomStore.find?_drop, if_pos rfl] at htracked
        cases htracked
    · refine Recedes.tallies (w := w) ⟨fun htracked => ?_, ?_, .inl ?_, fun hopened => ?_⟩ hw
      · rw [bot] at htracked
        exact RoomStore.isTracked_of_isTracked_drop htracked
      · rw [bot]
        exact id
      · rw [history]
        exact lastMove?_cons_of_none (if_neg hroom)
      · rw [history]
        exact hopened.cons

theorem TakenIn.tallies {asked : RoomId} (h : TakenIn asked w w')
    (hw : w.Tallies room excused) : w'.Tallies room excused := by
  cases h with
  | known minding => exact (minding.recedes room).tallies hw
  | refused e joined => exact joined.tallies hw
  | unwritten joined v entered e edited =>
    exact (edited.recedes room).tallies (entered.tallies hw)
  | written joined v₁ v₂ v₃ entered edited bot history minding =>
    have hrefreshed : Recedes room v₂ v₃ := recedes_of_refreshed bot history
    exact (((edited.recedes room).trans hrefreshed).trans (minding.recedes room)).tallies
      (entered.tallies hw)

theorem GivenUp.tallies {origin : CommandOrigin} {given : RoomId} (h : GivenUp origin given w w')
    (hw : w.Tallies room excused) : w'.Tallies room excused := by
  cases h with
  | unknown minding => exact (minding.recedes room).tallies hw
  | unwritten e edited => exact (edited.recedes room).tallies hw
  | unconfirmed v edited e called =>
    have hsent : Recedes room v w' := .of_history called.bot called.history (.inl rfl)
    exact ((edited.recedes room).trans hsent).tallies hw
  | parted v₁ v₂ v₃ edited called result left spoken =>
    have hsent : Recedes room v₁ v₂ := .of_history called.bot called.history (.inl rfl)
    have hleft : v₃.Tallies room excused :=
      left.tallies (((edited.recedes room).trans hsent).tallies hw)
    exact ((spoken.within : Trace Minding v₃ w').recedes room).tallies hleft

/-- Only a room that the bot has created is closed as a welcome room. -/
theorem keeps_tallies_evict (other : RoomId) (why : Eviction) :
    Keeps (·.Tallies room excused) (evict other why) := by
  intro w hw
  cases hregistered : w.bot.welcome.contains other with
  | false =>
    rw [run_evict_of_not_contains why hregistered]
    exact hw
  | true =>
    obtain ⟨-, hclosed, result, hhistory⟩ := closed_evict why hregistered
    by_cases hroom : other = room
    · subst hroom
      refine World.tallies_of_opened ?_
      rw [hhistory]
      exact (hw.registered hregistered).cons
    · let removed : World := { w with bot := (w.bot.unregister other).2 }
      have hforgotten : Recedes room w removed := by
        obtain ⟨hrooms, -, hwelcome⟩ := w.bot.unregister_keeps other
        refine .of_bot rfl (fun htracked => ?_) (hwelcome room)
        rwa [show removed.bot.rooms = w.bot.rooms from hrooms] at htracked
      have hleft : Recedes room removed ((evict other why).run w).2 := by
        refine .of_history hclosed.bot hhistory (.inl ?_)
        cases result with
        | ok _ => exact if_neg hroom
        | error e => rfl
      exact (hforgotten.trans hleft).tallies hw

theorem Hosted.tallies {source : RoomId} {member : MemberId} (h : Hosted source member w w')
    (hw : w.Tallies room excused) : w'.Tallies room excused := by
  cases h with
  | refused e bot history =>
    have hasked : Recedes room w w' := .of_history bot history (.inl rfl)
    exact hasked.tallies hw
  | opened created made bot history greeting =>
    by_cases hroom : created = room
    · subst hroom
      refine World.tallies_of_opened ?_
      rw [history]
      exact ⟨_, List.mem_append_right _ List.mem_cons_self, rfl⟩
    · let asked : World := { w with
        history := .called w.bot w.activities (.create (w.bot.config.welcome.creation member))
          (.ok created) :: w.history }
      let registered : World := { asked with
        bot := w.bot.register ⟨created, member, source, w.now⟩ }
      have hasked : Recedes room w asked := .of_history rfl rfl (.inl rfl)
      have hregistered : Recedes room asked registered := by
        refine .of_bot rfl id fun hcontains => ?_
        exact (WelcomeRegistry.contains_of_contains_register hcontains).resolve_right hroom
      have hgreeted : Trace Speaking registered w' :=
        Greeting.trace (w := registered) (bot ▸ greeting) bot history
      have hspoken : Recedes room registered w' :=
        (hgreeted.within : Trace Minding registered w').recedes room
      exact ((hasked.trans hregistered).trans hspoken).tallies hw

/-- When the bot is no longer in a room, the record is ended, unless it is that of a welcome
room. -/
theorem Departed.cleared (h : Departed room w w') (hw : w.Tallies room excused) :
    w'.Cleared room := by
  cases h with
  | forgotten registered bot history =>
    have hopened : Opened room w'.history := history ▸ hw.registered registered
    exact ⟨fun _ => hopened, fun _ => hopened⟩
  | ended unregistered bot history =>
    refine ⟨fun hregistered => ?_, fun htracked => ?_⟩
    · rw [bot] at hregistered
      rw [history]
      exact hw.registered hregistered
    · rw [bot, RoomStore.isTracked_eq_isSome] at htracked
      change ((w.bot.rooms.drop room).find? room).isSome = true at htracked
      rw [RoomStore.find?_drop, if_pos rfl] at htracked
      cases htracked

/-! ### Batches -/

theorem minding_preserves_tallies : Minding.Preserves (·.Tallies room excused) :=
  fun _ _ _ hd hleads => ((Trace.single hd hleads).recedes room).tallies

theorem abides_tallies (room : RoomId) (excused : Prop) : Abides (·.Tallies room excused) where
  minding := minding_preserves_tallies
  series h := (h.recedes room).tallies
  modesSet h := (h.recedes room).tallies
  takenIn _ _ h := h.tallies
  givenUp _ _ h := h.tallies

/-- A batch that tells that the bot is no longer in a room clears its record. While the batch is
being taken up the record may be there, because the history tells of the departure already. -/
theorem brings_cleared {batch : FeedBatch} (hleft : batch.left.contains room = true) :
    Brings (·.Tallies room excused) (·.Cleared room) (applyBatch batch) := by
  have htallies : Abides (·.Tallies room True) := abides_tallies room True
  have hcleared : Minding.Preserves (·.Cleared room) :=
    fun _ _ _ hd hleads => ((Trace.single hd hleads).recedes room).cleared
  have hrecord : Keeps (·.Tallies room True) (record (.applied batch)) :=
    fun _ hw => ⟨fun hregistered => (hw.registered hregistered).cons, fun _ => .inr (.inr trivial)⟩
  have hdepart : Brings (·.Tallies room True) (·.Cleared room)
      (batch.left.toList.forM fun other => discard (handleLeft other)) := by
    refine Brings.forM (a := room) (Std.ExtTreeSet.mem_toList.2 hleft) (fun other => ?_) ?_
      fun other => ?_
    · exact .discard ((does_handleLeft other).keeps htallies.minding)
    · exact fun w hw => (departed_handleLeft room w).cleared hw
    · exact .discard ((does_handleLeft other).keeps hcleared)
  have hcursor : Does Minding (change fun b => { b with cursor := some batch.nextBatch }) :=
    .change (.cursorMoved batch.nextBatch) (fun _ => rfl) fun _ => trivial
  have hbatch := brings_applyBatch htallies.minding.undisturbed hcleared.undisturbed batch hrecord
    (fun entry _ e _ => htallies.event entry.1 e) hdepart (hcursor.keeps hcleared)
  intro w hw
  exact hbatch w ⟨hw.registered, fun _ => .inr (.inr trivial)⟩

theorem keeps_tallies_applyBatch (room : RoomId) (excused : Prop) (batch : FeedBatch) :
    Keeps (·.Tallies room excused) (applyBatch batch) := by
  have h : Abides (·.Tallies room excused) := abides_tallies room excused
  cases hleft : batch.left.contains room with
  | true => exact fun w hw => (brings_cleared hleft w hw).tallies
  | false =>
    have hrecord : Keeps (·.Tallies room excused) (record (.applied batch)) := by
      have hmove : (Occurrence.applied batch).move? room = none :=
        if_neg (by rw [hleft]; exact Bool.false_ne_true)
      exact fun w => (Recedes.record _ w hmove).tallies
    have hcursor : Does Minding (change fun b => { b with cursor := some batch.nextBatch }) :=
      .change (.cursorMoved batch.nextBatch) (fun _ => rfl) fun _ => trivial
    have hdepart : Keeps (·.Tallies room excused)
        (batch.left.toList.forM fun other => discard (handleLeft other)) :=
      .forM fun other _ => .discard ((does_handleLeft other).keeps h.minding)
    exact brings_applyBatch h.minding.undisturbed h.minding.undisturbed batch hrecord
      (fun entry _ e _ => h.event entry.1 e) hdepart (hcursor.keeps h.minding)

/-! ### Runs -/

/-- That the record of a room agrees with the history lasts. -/
theorem lasts_tallies (room : RoomId) (excused : Prop) : Lasts (·.Tallies room excused) := by
  have h : Abides (·.Tallies room excused) := abides_tallies room excused
  have hjoin : ∀ asked, Keeps (·.Tallies room excused) (joinRoom asked).run :=
    fun asked w => (joined_joinRoom asked w).tallies
  have hspeaking : Speaking.Preserves (·.Tallies room excused) := h.minding.within
  have hreport : ∀ o : Occurrence, o.call? = none → (∀ batch, o ≠ .applied batch) →
      o.move? room = none := by
    intro o hcall happlied
    cases o with
    | called => cases hcall
    | applied batch => exact absurd rfl (happlied batch)
    | polled | answered => rfl
  exact {
    minding := h.minding
    report := fun o hcall happlied w => (Recedes.record o w (hreport o hcall happlied)).tallies
    chat := h.chat
    batch := keeps_tallies_applyBatch room excused
    reconcile := h.reconcile
    join := .bind (Does.getConfig.keeps hspeaking) fun config =>
      keeps_joinEach hspeaking.undisturbed fun asked _ => hjoin asked
    rejoin := fun asked => keeps_rejoin hspeaking.undisturbed asked fun w _ => hjoin asked w
    leave := fun other w => (left_leaveRoom other w).tallies
    evict := keeps_tallies_evict
    welcome := fun source member w => (hosted_welcomeNewcomer source member w).tallies }

theorem Reachable.tallies (h : Reachable w) (room : RoomId) : w.Tallies room False :=
  h.invariant (fun _ _ _ => ⟨nofun, nofun⟩) (lasts_tallies room False).happening

/-- In every run, each of its happenings done to its end before the next, each room with a record
was entered last, of all that is known of the presence of the bot in it; and right after a batch
that names a room as left, the room has no record. The only exceptions are rooms that the bot has
created itself. -/
theorem record_within_presence (h : Reachable w) :
    (∀ room, w.bot.rooms.isTracked room = true →
      lastMove? room w.history = some .entered ∨ Opened room w.history) ∧
    ∀ batch : FeedBatch, ∀ room, batch.left.contains room = true →
      ((applyBatch batch).run w).2.bot.rooms.isTracked room = true →
        Opened room ((applyBatch batch).run w).2.history := by
  refine ⟨fun room htracked => ?_, fun batch room hleft => ?_⟩
  · obtain hentered | hopened | hfalse := (h.tallies room).tracked htracked
    · exact .inl hentered
    · exact .inr hopened
    · exact hfalse.elim
  · exact (brings_cleared hleft w (h.tallies room)).tracked

end

/-! ### A record that stays behind -/

namespace Sample

/-- A newcomer. -/
def bob : MemberId := ⟨"@bob:x"⟩

/-- The room in which the newcomer is welcomed. -/
def parlour : RoomId := ⟨"!new:x"⟩

/-- A configuration that monitors the lobby, in which newcomers are welcomed and the moderator gives
commands. -/
def hospitable : Config :=
  { Config.ofHomeserver ⟨"", "", "", none, none, none⟩ with
    admins := .ofList [alice]
    rooms := .ofList
      [(lobby, RoomConfig.mk (.ofList [RoomMode.administration, RoomMode.welcome]) ∅)] }

/-- A batch that brings one event. -/
def news (room : RoomId) (event : Event) : FeedBatch :=
  ⟨"", (∅ : RoomMap (List Event)).insert room [event], ∅, 0⟩

/-- A batch that tells that the bot is no longer in the welcome room. -/
def dismissal : FeedBatch :=
  ⟨"", ∅, (∅ : RoomSet).insert parlour, 0⟩

/-- The bot starts, the newcomer joins the lobby, the job of opening a welcome room is done, and the
moderator has the bot take this room in. -/
def welcoming : List Happening :=
  [.start 0, .batch (news lobby (.membership bob bob .join none 1)), .work 3,
    .chat lobby alice "!room add !new:x"]

/-- The newcomer leaves the welcome room, and the job of closing it is done. -/
def parting : List Happening :=
  [.batch (news parlour (.membership bob bob .leave none 2)), .work 3]

end Sample

section

attribute [local instance] Sample.surroundings

/-- The world in which the welcome room has been taken in. -/
def Sample.hospitality : World :=
  let bot := Bot.initial ⟨"@warden:x"⟩ (.inMemory Sample.hospitable)
  (World.initial bot ()).after Sample.welcoming

/-- The lobby has a record, and it was entered last. -/
theorem lobby_entered_last : Reachable Sample.hospitality ∧
    Sample.hospitality.bot.rooms.isTracked Sample.lobby = true ∧
    lastMove? Sample.lobby Sample.hospitality.history = some .entered := by
  have hreachable : Reachable Sample.hospitality := (Reachable.initial _ _ _).after _
  have htracked : Sample.hospitality.bot.rooms.isTracked Sample.lobby = true := by decide +kernel
  refine ⟨hreachable, htracked, ?_⟩
  exact ((record_within_presence hreachable).1 Sample.lobby htracked).resolve_right
    (by decide +kernel)

/-- The welcome room that was taken in has a record still when a batch tells that the bot is no
longer in it, and also when the bot has left it because the newcomer has left. -/
theorem record_outlives_presence :
    (Reachable (Sample.hospitality.after [.batch Sample.dismissal]) ∧
      (Sample.hospitality.after [.batch Sample.dismissal]).bot.rooms.isTracked Sample.parlour =
        true ∧
      lastMove? Sample.parlour (Sample.hospitality.after [.batch Sample.dismissal]).history =
        some .left) ∧
    (Reachable (Sample.hospitality.after Sample.parting) ∧
      (Sample.hospitality.after Sample.parting).bot.rooms.isTracked Sample.parlour = true ∧
      lastMove? Sample.parlour (Sample.hospitality.after Sample.parting).history =
        some .left) := by
  have hreachable : Reachable Sample.hospitality := (Reachable.initial _ _ _).after _
  exact ⟨⟨hreachable.after _, by decide +kernel⟩, hreachable.after _, by decide +kernel⟩

end

end RoomModeration
