import RoomModeration.Proofs.Agenda
import RoomModeration.Proofs.Room.Meaning
import RoomModeration.Proofs.Room.Monitored

/-!
# Rooms that the bot has lost

A batch names the rooms that the bot is no longer in, one after the other. Unless such a room is a
welcome room, its record is ended there and then. After that nothing but entering the room begins a
record again: the homeserver has to let the bot in, to name this very room, and to tell who is in it
and who is banned there. As long as there is no record, what happens in the room is of no interest.

## Main definitions

* `World.facing`, `World.departures`, `Happening.departures` : the departures of a batch, and the
  worlds in which they are dealt with.
* `Entered` : a room has been entered, and all has been told of it.
* `World.Lacks` : a room has no record unless it has been entered.
* `Elsewhere` : the permission to do anything but begin the record of a room.

## Main results

* `lasts_lacks` : that a room has no record unless it has been entered lasts.
* `lacks_of_departure` : this is how it is after a departure.
* `still_applyRoom` : changes of membership in a room without a record lead to nothing.
-/

namespace RoomModeration

open BotM RoomModeration.Bot

variable [Surroundings] {w w' v u : World} {x : Happening} {batch : FeedBatch} {room : RoomId}

/-! ### Departures -/

/-- What a batch leads to before its departures are dealt with. -/
def beginBatch (batch : FeedBatch) : BotM Unit := do
  count .syncBatches
  countBy .malformedEvents batch.malformed
  if batch.malformed > 0 then note (.malformedEvents batch.malformed)
  batch.joined.toList.forM fun entry => applyRoom entry.1 entry.2

/-- The world in which the bot comes to the departures of a batch. -/
def World.facing (w : World) (batch : FeedBatch) : World :=
  ((beginBatch batch).run
    { w with
      history := .applied batch :: w.history
      activities := w.activities ++ [.syncBatch batch.nextBatch] }).2

/-- Departures together with the worlds in which they are dealt with, one after the other. -/
def World.departures (w : World) : List RoomId → List (World × RoomId)
  | [] => []
  | room :: rest => (w, room) :: World.departures ((handleLeft room).run w).2 rest

/-- The batch that is applied, if one is, and the world in which it is applied. -/
def Happening.applies? (w : World) : Happening → Option (World × FeedBatch)
  | .batch arrived => some (w, arrived)
  | .work place => (w.ready[place]?.bind Job.batch?).map fun batch =>
      ({ w with ready := w.ready.eraseIdx place, history := .answered (.ok batch) :: w.history },
        batch)
  | _ => none

/-- The departures that a happening brings, together with the worlds in which they are dealt
with. -/
def Happening.departures (w : World) (x : Happening) : List (World × RoomId) :=
  match x.applies? w with
  | some (v, batch) => (v.facing batch).departures batch.left.toList
  | none => []

/-- A batch is applied by dealing with its departures and moving on in the feed. -/
theorem run_applyBatch (batch : FeedBatch) (w : World) :
    let dealt := ((batch.left.toList.forM fun room => discard (handleLeft room)).run
      (w.facing batch)).2
    ((applyBatch batch).run w).2 =
      { dealt with
        bot := { dealt.bot with cursor := some batch.nextBatch }
        activities := w.activities } := by
  unfold World.facing beginBatch applyBatch
  by_cases hmalformed : batch.malformed > 0
  · simp only [if_pos hmalformed]
    rfl
  · simp only [if_neg hmalformed]
    rfl

/-- After a batch that a job has brought the feed is polled again. -/
theorem run_work_of_applies {place : Nat}
    (h : (Happening.work place).applies? w = some (v, batch)) :
    ∃ start since, ((Happening.work place).run.run w).2 =
      ((sleep 0 (.poll start since false)).run ((applyBatch batch).run v).2).2 := by
  dsimp only [Happening.applies?] at h
  cases hplace : w.ready[place]? with
  | none =>
    rw [hplace] at h
    cases h
  | some job =>
    rw [hplace] at h
    rw [run_work_of_some hplace]
    cases job with
    | receive start since fullState result =>
      cases result with
      | ok brought =>
        cases h
        exact ⟨start, _, rfl⟩
      | error e => cases h
    | _ => cases h

/-- A batch is applied as a whole, and if a job has brought it, the feed is polled again then. -/
theorem run_of_applies (h : x.applies? w = some (v, batch)) :
    (x.run.run w).2 = ((applyBatch batch).run v).2 ∨
      ∃ start since, (x.run.run w).2 =
        ((sleep 0 (.poll start since false)).run ((applyBatch batch).run v).2).2 := by
  cases x with
  | batch arrived =>
    cases h
    exact .inl rfl
  | work place => exact .inr (run_work_of_applies h)
  | _ => cases h

/-- After a departure has been dealt with the bot only minds its business until the batch has been
applied. -/
theorem trace_of_mem_departures (h : (u, room) ∈ x.departures w) :
    Trace Minding ((handleLeft room).run u).2 (x.run.run w).2 := by
  have hleft : Does Minding (discard (handleLeft room)) := .discard (does_handleLeft room)
  have hforM : ∀ (rooms : List RoomId) (v : World), (u, room) ∈ v.departures rooms →
      Trace Minding ((handleLeft room).run u).2
        ((rooms.forM fun room => discard (handleLeft room)).run v).2 := by
    intro rooms
    induction rooms with
    | nil => exact fun _ h => absurd h List.not_mem_nil
    | cons other rest ih =>
      intro v hv
      obtain hhead | htail := List.mem_cons.1 hv
      · cases hhead
        exact Does.forM (fun other => .discard (does_handleLeft other)) rest _
      · exact ih _ htail
  unfold Happening.departures at h
  cases happlies : x.applies? w with
  | none =>
    rw [happlies] at h
    cases h
  | some applied =>
    obtain ⟨v, batch⟩ := applied
    rw [happlies] at h
    have hdealt := hforM _ _ h
    have happlied : Trace Minding ((handleLeft room).run u).2 ((applyBatch batch).run v).2 := by
      rw [run_applyBatch]
      refine hdealt.trans (.single (d := .change (.cursorMoved batch.nextBatch)) trivial ?_)
      exact .change _ rfl rfl
    obtain hrun | ⟨start, since, hrun⟩ := run_of_applies happlies
    · rwa [hrun]
    · rw [hrun]
      exact happlied.step (.sleep _ _)

/-! ### Entering a room again -/

/-- A room has been entered: the homeserver has named it in answer to a join, and then it has told
who is in it and who is banned there. -/
def Entered (room : RoomId) (since : List Occurrence) : Prop :=
  ∃ newer older before activities asked via members banned,
    since = newer ++ .called before activities (.bannedMembers room) (.ok banned) ::
      .called before activities (.listMembers room) (.ok members) ::
      .called before activities (.join asked via) (.ok room) :: older

omit [Surroundings] in
theorem Entered.cons {since : List Occurrence} (h : Entered room since) (o : Occurrence) :
    Entered room (o :: since) := by
  obtain ⟨newer, older, before, activities, asked, via, members, banned, rfl⟩ := h
  exact ⟨o :: newer, older, before, activities, asked, via, members, banned, rfl⟩

/-- Since there was a certain history, a room has a record only if it has been entered. -/
def World.Lacks (room : RoomId) (base : List Occurrence) (w : World) : Prop :=
  ∃ since, w.history = since ++ base ∧
    (w.bot.rooms.isTracked room = true → Entered room since)

/-- The permission to do anything but begin the record of a room. -/
def Elsewhere (room : RoomId) : Permission where
  Allows _
    | .change (.seeded other ..) => other ≠ room
    | _ => True
  aside _ := trivial

instance : (Sparing room).Within (Elsewhere room) where
  allows {_ d} h := by
    cases d with
    | change c =>
      cases c with
      | seeded => exact h
      | _ => trivial
    | _ => trivial

instance : Minding.Within (Elsewhere room) :=
  have : Minding.Within (Sparing room) := .trans Minding Tending (Sparing room)
  .trans Minding (Sparing room) (Elsewhere room)

instance : Roaming.Within (Elsewhere room) :=
  have : Roaming.Within (Sparing room) := .trans Roaming Tending (Sparing room)
  .trans Roaming (Sparing room) (Elsewhere room)

variable {base : List Occurrence}

/-- Whatever does not begin the record of the room preserves that it lacks one. -/
theorem preserves_lacks (room : RoomId) (base : List Occurrence) :
    (Elsewhere room).Preserves (World.Lacks room base) := by
  rintro w w' d hallows hleads ⟨since, hsince, hentered⟩
  cases hleads with
  | aside bot history =>
    exact ⟨since, history.trans hsince, by rwa [bot]⟩
  | report o _ bot history =>
    refine ⟨o :: since, by rw [history, hsince, List.cons_append], fun htracked => ?_⟩
    rw [bot] at htracked
    exact (hentered htracked).cons _
  | call c result bot history =>
    refine ⟨_ :: since, by rw [history, hsince, List.cons_append], fun htracked => ?_⟩
    rw [bot] at htracked
    exact (hentered htracked).cons _
  | change c bot history =>
    refine ⟨since, history.trans hsince, fun htracked => hentered ?_⟩
    rw [bot] at htracked
    refine Change.isTracked_of_isTracked_apply ?_ htracked
    rintro members banned config rfl
    exact hallows rfl

theorem Trace.lacks {K : Permission} [K.Within (Elsewhere room)] (h : Trace K w w')
    (hw : w.Lacks room base) : w'.Lacks room base :=
  (preserves_lacks room base).trace h.within hw

theorem Edited.elsewhere {α : Type} {edit : Config.Edit α} {written : Except HandlerError PUnit}
    (h : Edited edit w w' written) : Trace (Elsewhere room) w w' := by
  have hstored : w'.bot = { w.bot with store := w'.bot.store } → w'.history = w.history →
      Trace (Elsewhere room) w w' := fun bot history =>
    .single (d := .change (.stored w'.bot.store)) trivial (.change _ bot history)
  cases h with
  | failed e fails bot config history => exact hstored bot history
  | made a edits bot history activities => exact hstored bot history

theorem Joined.lacks {asked : RoomId} {result : Except ActionError RoomId}
    (h : Joined asked w w' result) (hw : w.Lacks room base) : w'.Lacks room base := by
  by_cases hresult : result = .ok room
  · subst hresult
    obtain ⟨since, hsince, -⟩ := hw
    cases h with
    | entered _ members banned bot history =>
      refine ⟨.called w.bot (w.entering asked) (.bannedMembers room) (.ok banned) ::
        .called w.bot (w.entering asked) (.listMembers room) (.ok members) ::
        .called w.bot (w.entering asked) (.join asked asked.server?.toList) (.ok room) :: since,
        by rw [history, hsince]; rfl, fun _ => ?_⟩
      exact ⟨[], since, _, _, _, _, _, _, rfl⟩
  · exact (h.trace_of_ne hresult).lacks hw

theorem abides_lacks (room : RoomId) (base : List Occurrence) :
    Abides (World.Lacks room base) where
  minding := (preserves_lacks room base).within
  series h := (preserves_lacks room base).trace
    (h.trace (fun _ _ => trivial) fun _ a => by
      obtain ⟨other, member, reason?⟩ := a
      cases reason? <;> trivial)
  modesSet {w w' set} h hw := by
    cases h with
    | failed minding => exact minding.lacks hw
    | made store monitored others v bot history minding =>
      have hstored : Trace (Elsewhere room) w { w with bot := { w.bot with store := store } } :=
        .single (d := .change (.stored store)) trivial (.change _ rfl rfl)
      have hrefreshed : Trace (Elsewhere room) { w with bot := { w.bot with store := store } } v :=
        .single (d := .change (.refreshed set)) trivial (.change _ bot history)
      exact minding.lacks ((preserves_lacks room base).trace (hstored.trans hrefreshed) hw)
  takenIn _ _ h hw := by
    cases h with
    | known minding => exact minding.lacks hw
    | refused e joined => exact joined.lacks hw
    | unwritten joined v entered e edited =>
      exact (preserves_lacks room base).trace edited.elsewhere (entered.lacks hw)
    | written joined v₁ v₂ v₃ entered edited bot history minding =>
      have hv₂ := (preserves_lacks room base).trace edited.elsewhere (entered.lacks hw)
      have hrefreshed : Trace Minding v₂ v₃ :=
        .single (d := .change (.refreshed joined)) trivial (.change _ bot history)
      exact minding.lacks (hrefreshed.lacks hv₂)
  givenUp _ _ h hw := by
    obtain hroaming | ⟨v, hedited, hroaming⟩ := h.roaming
    · exact hroaming.lacks hw
    · exact hroaming.lacks ((preserves_lacks room base).trace hedited.elsewhere hw)

/-- That a room has no record unless it has been entered lasts. -/
theorem lasts_lacks (room : RoomId) (base : List Occurrence) : Lasts (World.Lacks room base) :=
  have h : Abides (World.Lacks room base) := abides_lacks room base
  have hjoin : ∀ asked, Keeps (World.Lacks room base) (joinRoom asked).run :=
    fun asked w hw => (joined_joinRoom asked w).lacks hw
  .of_roaming (preserves_lacks room base).within h.chat h.event h.reconcile
    (.bind .getConfig fun _ => keeps_joinEach h.minding.undisturbed fun asked _ => hjoin asked)
    fun asked => keeps_rejoin h.minding.undisturbed asked fun w _ => hjoin asked w

/-- A departure ends the record of the room, unless it is a welcome room. -/
theorem isTracked_handleLeft (h : w.bot.welcome.contains room = false) :
    ((handleLeft room).run w).2.bot.rooms.isTracked room = false := by
  rw [(handleLeft_of_not_contains h).1]
  change (w.bot.rooms.drop room).isTracked room = false
  rw [RoomStore.isTracked_eq_isSome, RoomStore.find?_drop, if_pos rfl]
  rfl

/-- After a departure the room has no record unless it has been entered again, whatever happens
then; only where the bot has opened the room itself its record is left alone. -/
theorem lacks_of_departure (h : (u, room) ∈ x.departures w)
    (hwelcome : u.bot.welcome.contains room = false) (ys : List Happening) :
    ((x.run.run w).2.after ys).Lacks room u.history := by
  obtain ⟨-, hhistory, -⟩ := handleLeft_of_not_contains hwelcome
  have hdropped : ((handleLeft room).run u).2.Lacks room u.history := by
    refine ⟨[], hhistory, fun htracked => ?_⟩
    rw [isTracked_handleLeft hwelcome] at htracked
    cases htracked
  have hdone : (x.run.run w).2.Lacks room u.history := (trace_of_mem_departures h).lacks hdropped
  exact after_invariant (fun y _ => (lasts_lacks room u.history).happening y) hdone

/-! ### What happens in a room without a record -/

/-- Nothing happens but that the operator is told and something is counted. -/
structure Still (w w' : World) : Prop extends Alike w w' where
  agenda : w'.agenda = w.agenda

theorem Still.refl (w : World) : Still w w :=
  ⟨.refl w, rfl⟩

theorem Still.trans (h : Still w v) (h' : Still v w') : Still w w' :=
  ⟨h.toAlike.trans h'.toAlike, h'.agenda.trans h.agenda⟩

theorem still_applyEvent {e : Event} (htracked : w.bot.rooms.isTracked room = false)
    (he : e.isMembership = true) : Still w ((applyEvent room e).run w).2 := by
  have hnote : ∀ (notice : Notice) (v : World), Still v ((note notice).run v).2 :=
    fun _ _ => ⟨⟨rfl, rfl, rfl⟩, rfl⟩
  have hobserve : ∀ v t, v.bot = w.bot → Still v ((observeTransition room t).run v).2 := by
    intro v t hv
    unfold observeTransition
    rw [run_bind, run_getBot]
    dsimp only
    rw [hv, htracked]
    split
    · exact .refl v
    · exact hnote _ v
  unfold applyEvent
  rw [run_bind, run_getBot]
  dsimp only
  cases hmeaning : e.meaning w.bot.selfId w.bot.readyTs w.bot.rooms room with
  | stale => exact ⟨⟨rfl, rfl, rfl⟩, rfl⟩
  | chat sender body =>
    obtain ⟨-, -, hbody⟩ := Event.chat_of_meaning hmeaning
    rw [Event.textBody?_eq_none_of_isMembership he] at hbody
    cases hbody
  | membership t =>
    dsimp only
    split
    · exact (hnote _ w).trans (hobserve _ t rfl)
    · exact hobserve w t rfl
  | profile member => exact hnote _ w
  | ignored => exact .refl w

/-- Membership events of a room without a record change no record and lead to no call; nothing is
put off because of them either, unless the room is a welcome room by then. -/
theorem still_applyRoom {events : List Event} (htracked : w.bot.rooms.isTracked room = false)
    (hevents : ∀ e ∈ events, e.isMembership = true) :
    Alike w ((applyRoom room events).run w).2 ∧
      (w.bot.welcome.contains room = false → Still w ((applyRoom room events).run w).2) := by
  have hforM : Still w ((events.forM (applyEvent room)).run w).2 := by
    induction events generalizing w with
    | nil => exact .refl w
    | cons e rest ih =>
      have hhead := still_applyEvent htracked (hevents e List.mem_cons_self)
      refine hhead.trans (ih ?_ fun e he => hevents e (List.mem_cons_of_mem _ he))
      rwa [hhead.bot]
  unfold applyRoom
  rw [run_bind, run_getBot]
  dsimp only
  cases hwelcome : w.bot.welcome.contains room with
  | true =>
    refine ⟨?_, nofun⟩
    rw [if_pos rfl]
    split
    · exact ⟨rfl, rfl, rfl⟩
    · exact .refl w
  | false =>
    rw [if_neg Bool.false_ne_true]
    split
    · exact ⟨⟨rfl, rfl, rfl⟩, fun _ => ⟨⟨rfl, rfl, rfl⟩, rfl⟩⟩
    · exact ⟨hforM.toAlike, fun _ => hforM⟩

end RoomModeration
