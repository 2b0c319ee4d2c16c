import RoomModeration.Proofs.BanList.Reconciliation
import RoomModeration.Proofs.Resemblance
import RoomModeration.Proofs.Room.Ledger
import RoomModeration.Proofs.Room.Monitored

/-!
# The start

A bot that is not passive and has done nothing yet starts in three phases. It asks which rooms it is
in and tries to leave each of them that it does not monitor; then it asks its way into each room
that it monitors, one after the other; and then it unites the ban lists. Whatever the homeserver
refuses concerns one room only, and the phases follow each other all the same. Until all of this is
done the bot is not ready, so that no event counts.

Nothing is assumed about the configuration, but for its not being passive, or about what the
homeserver answers: the rooms that it lists may be listed twice, the rooms that it lets the bot into
may be others than those that were asked for, and two of them may be the same.

## Main definitions

* `Vacated` : trying to leave rooms, one after the other.
* `Visit`, `Visited` : asking one's way into rooms, one after the other.
* `Phases` : the phases of a start.
* `Started` : what a start comes to.

## Main results

* `vacated_leaveEach`, `visited_joinEach` : the loops of the start come to that.
* `Visited.isTracked_iff` : which rooms are tracked afterwards.
* `phases_start` : a start goes through these phases.
* `started_start` : what a start comes to.
-/

namespace RoomModeration

open BotM RoomModeration.Bot

/-! ### Leaving and entering several rooms -/

/-- Some rooms are to be left, one after the other. Those that the homeserver lets the bot leave
lose their records. -/
inductive Vacated (activities : List Activity) : Bot → List RoomId → List Occurrence → Bot → Prop
  | nil (b : Bot) : Vacated activities b [] [] b
  | left {b b' : Bot} (room : RoomId) {rooms : List RoomId} {made : List Occurrence}
      (rest : Vacated activities (b.dropRoom room) rooms made b') :
      Vacated activities b (room :: rooms) (.called b activities (.leave room) (.ok ()) :: made) b'
  | refused {b b' : Bot} (room : RoomId) (e : ActionError) {rooms : List RoomId}
      {made : List Occurrence} (rest : Vacated activities b rooms made b') :
      Vacated activities b (room :: rooms)
        (.called b activities (.leave room) (.error e) :: made) b'

/-- The asking of one's way into a room. -/
structure Visit where
  /-- The room that is asked for. -/
  asked : RoomId
  /-- The calls, the latest first. -/
  made : List Occurrence
  /-- What the bot is told. -/
  answer : Except ActionError RoomReport

/-- The calls of a visit, in order. -/
def Visit.calls (visit : Visit) : List Occurrence :=
  visit.made.reverse

/-- Rooms are visited one after the other. -/
inductive Visited (activities : List Activity) : Bot → List Visit → Bot → Prop
  | nil (b : Bot) : Visited activities b [] b
  | cons {b b' : Bot} (visit : Visit) {visits : List Visit}
      (inquiry : Inquiry b (activities ++ [.roomBootstrap visit.asked]) visit.asked visit.made
        visit.answer)
      (rest : Visited activities (b.informed visit.asked visit.answer) visits b') :
      Visited activities b (visit :: visits) b'

/-- The room that the bot has asked its way into in an occurrence, if it has. -/
def Occurrence.entry? : Occurrence → Option RoomId
  | called _ _ (.join room _) _ => some room
  | _ => none

/-- The bot as it was when an occurrence began, if the occurrence tells. -/
def Occurrence.bot? : Occurrence → Option Bot
  | called before .. | polled before _ => some before
  | answered _ | applied _ => none

/-- The rooms that are to be left at a start: those that are listed and not monitored. -/
def Config.foreign (c : Config) : Except ActionError (List RoomId) → List RoomId
  | .ok rooms => rooms.filter (!c.isMonitored ·)
  | .error _ => []

namespace Vacated

variable {activities : List Activity} {b b' : Bot} {rooms : List RoomId} {made : List Occurrence}

theorem store_eq (h : Vacated activities b rooms made b') : b'.store = b.store := by
  induction h with
  | nil => rfl
  | left _ _ ih | refused _ _ _ ih => exact ih

/-- There is one attempt for each room, in order. -/
theorem calls (h : Vacated activities b rooms made b') :
    made.map Occurrence.call? = rooms.map fun room => some (.leave room) := by
  induction h with
  | nil => rfl
  | left room _ ih | refused room _ _ ih => exact congrArg (some (.leave room) :: ·) ih

theorem isTracked_of_isTracked (h : Vacated activities b rooms made b') {room : RoomId}
    (htracked : b'.rooms.isTracked room = true) : b.rooms.isTracked room = true := by
  induction h with
  | nil => exact htracked
  | left other _ ih => exact RoomStore.isTracked_of_isTracked_drop (ih htracked)
  | refused _ _ _ ih => exact ih htracked

end Vacated

namespace Visited

variable {activities : List Activity} {b b' : Bot} {visits : List Visit}

theorem store_eq (h : Visited activities b visits b') : b'.store = b.store := by
  induction h with
  | nil => rfl
  | cons visit _ _ ih => rw [ih]; cases visit.answer <;> rfl

theorem exists_inquiry (h : Visited activities b visits b') :
    ∀ visit ∈ visits, ∃ before, Inquiry before (activities ++ [.roomBootstrap visit.asked])
      visit.asked visit.made visit.answer := by
  induction h with
  | nil => simp
  | @cons b _ visit _ inquiry _ ih => exact List.forall_mem_cons.2 ⟨⟨b, inquiry⟩, ih⟩

/-- What is tracked afterwards was tracked before, or the bot has been told all about it. -/
theorem isTracked_iff (h : Visited activities b visits b') (room : RoomId) :
    b'.rooms.isTracked room = true ↔ b.rooms.isTracked room = true ∨
      ∃ visit ∈ visits, ∃ report, visit.answer = .ok report ∧ report.room = room := by
  induction h with
  | nil => simp
  | @cons b _ visit _ _ _ ih =>
    have hvisit : (b.informed visit.asked visit.answer).rooms.isTracked room = true ↔
        b.rooms.isTracked room = true ∨ ∃ report, visit.answer = .ok report ∧
          report.room = room := by
      cases visit.answer with
      | error e => simp [Bot.informed]
      | ok report =>
        simp only [RoomStore.isTracked_eq_isSome, Bot.informed, Bot.seed, RoomStore.seed,
          RoomStore.find?_put, RoomRecord.seeded_id]
        by_cases hroom : room = report.room
        · simp [hroom]
        · simp [hroom, Ne.symm hroom]
    rw [ih, hvisit]
    simp [or_assoc]

end Visited

/-! ### The loops -/

section

variable [Surroundings]

/-- Leaving rooms. -/
theorem vacated_leaveEach (rooms : List RoomId) (w : World) :
    ∃ made, Vacated w.activities w.bot rooms made ((leaveEach rooms).run w).2.bot ∧
      Adds w made ((leaveEach rooms).run w).2 := by
  induction rooms generalizing w with
  | nil => exact ⟨[], .nil w.bot, .of_alike (.refl w)⟩
  | cons room rest ih =>
    have hleft := left_leaveRoom room w
    simp only [leaveEach, run_bind]
    rcases hrun : (leaveRoom room).run.run w with ⟨result, v⟩
    rw [hrun] at hleft
    cases hleft with
    | refused e called =>
      obtain ⟨made, hmade, hadds⟩ := ih ((note (.foreignRoomNotLeft room e)).run v).2
      have hnoted : Adds v [] ((note (.foreignRoomNotLeft room e)).run v).2 :=
        .of_alike (quiet_note _ v)
      refine ⟨_, .refused room e ?_, called.adds.trans (hnoted.trans hadds)⟩
      rw [← called.bot, ← called.activities]
      exact hmade
    | left bot history activities =>
      obtain ⟨made, hmade, hadds⟩ := ih v
      have hcalled : Adds w [.called w.bot w.activities (.leave room) (.ok ())] v :=
        ⟨history, activities⟩
      refine ⟨_, .left room ?_, hcalled.trans hadds⟩
      rw [← bot, ← activities]
      exact hmade

/-- Entering rooms. -/
theorem visited_joinEach (rooms : List RoomId) (w : World) :
    ∃ visits, Visited w.activities w.bot visits ((joinEach rooms).run w).2.bot ∧
      visits.map Visit.asked = rooms ∧
      Adds w (visits.flatMap Visit.calls) ((joinEach rooms).run w).2 := by
  induction rooms generalizing w with
  | nil => exact ⟨[], .nil w.bot, rfl, .of_alike (.refl w)⟩
  | cons room rest ih =>
    obtain ⟨made, answer, hinquired, hresult⟩ := inquired_joinRoom room w
    simp only [joinEach, run_bind]
    rcases hrun : (joinRoom room).run.run w with ⟨result, v⟩
    rw [hrun] at hinquired hresult
    dsimp only at hinquired hresult
    have hmade : Adds w (Visit.calls ⟨room, made, answer⟩) v :=
      ⟨by rw [Visit.calls, List.reverse_reverse, hinquired.history], hinquired.activities⟩
    have hrest : ∀ v' : World, Alike v v' → ∃ visits,
        Visited w.activities w.bot visits ((joinEach rest).run v').2.bot ∧
          visits.map Visit.asked = room :: rest ∧
          Adds w (visits.flatMap Visit.calls) ((joinEach rest).run v').2 := by
      intro v' halike
      obtain ⟨visits, hvisits, hasked, hadds⟩ := ih v'
      refine ⟨⟨room, made, answer⟩ :: visits, .cons _ hinquired.inquiry ?_,
        congrArg (room :: ·) hasked, hmade.trans ((Adds.of_alike halike).trans hadds)⟩
      rw [← hinquired.bot, ← halike.bot, ← hinquired.activities, ← halike.activities]
      exact hvisits
    cases result with
    | ok joined => exact hrest v (.refl v)
    | error e => exact hrest _ (quiet_note (.monitoredRoomNotJoined room e) v)

/-- Leaving the rooms that are not monitored, after asking which rooms there are. -/
theorem vacated_leaveForeignRooms (w : World) :
    ∃ listing made, Vacated w.activities w.bot (w.bot.config.foreign listing) made
        (leaveForeignRooms.run w).2.bot ∧
      Adds w (.called w.bot w.activities .joinedRooms listing :: made)
        (leaveForeignRooms.run w).2 := by
  have hcalled := called_attempt "joined_rooms" .joinedRooms w
  simp only [leaveForeignRooms, run_bind]
  rcases hrun : (attempt "joined_rooms" .joinedRooms).run.run w with ⟨listing, v⟩
  rw [hrun] at hcalled
  cases listing with
  | error e =>
    have hnoted : Alike v ((note (.joinedRoomsUnknown e)).run v).2 := quiet_note _ v
    refine ⟨.error e, [], ?_, hcalled.adds.trans (.of_alike hnoted)⟩
    change Vacated _ w.bot [] [] ((note (.joinedRoomsUnknown e)).run v).2.bot
    rw [hnoted.bot, hcalled.bot]
    exact .nil w.bot
  | ok rooms =>
    obtain ⟨made, hmade, hadds⟩ :=
      vacated_leaveEach (rooms.filter (!v.bot.config.isMonitored ·)) v
    refine ⟨.ok rooms, made, ?_, hcalled.adds.trans hadds⟩
    rw [← hcalled.bot, ← hcalled.activities]
    exact hmade

/-! ### Before the bot is ready -/

/-- The bot will be ready at a moment that it has not reached in anything it has done so far. -/
def World.Awaits (ts : Timestamp) (w : World) : Prop :=
  w.bot.readyTs = ts ∧ ∀ o ∈ w.history, ∀ before, o.bot? = some before → before.readyTs = ts

theorem World.Awaits.of_eq {ts : Timestamp} {w w' : World} (h : w.Awaits ts)
    (hbot : w'.bot = w.bot) (hhistory : w'.history = w.history) : w'.Awaits ts :=
  ⟨(congrArg Bot.readyTs hbot).trans h.1, fun o ho => h.2 o (hhistory ▸ ho)⟩

theorem routine_awaits (ts : Timestamp) : Routine (·.Awaits ts) where
  idle _ _ h hw := hw.of_eq h.bot h.history
  change f hf w hw := ⟨(hf w.bot).2.trans hw.1, hw.2⟩
  call c _ w hw := by
    rw [run_call]
    refine ⟨hw.1, List.forall_mem_cons.2 ⟨?_, hw.2⟩⟩
    rintro before ⟨⟩
    exact hw.1

/-! ### The whole start -/

/-- The phases of a start: the worlds after leaving rooms, after entering rooms, and after uniting
the ban lists, with what has been done in each of them. -/
structure Phases (w : World) (listing : Except ActionError (List RoomId))
    (leaving : List Occurrence) (alone : World) (visits : List Visit) (settled : World)
    (banning : List Occurrence) (united : World) : Prop where
  vacated : Vacated w.activities w.bot (w.bot.config.foreign listing) leaving alone.bot
  left : Adds w (.called w.bot w.activities .joinedRooms listing :: leaving) alone
  visited : Visited w.activities alone.bot visits settled.bot
  asked : visits.map Visit.asked = w.bot.config.monitoredRooms
  entered : Adds alone (visits.flatMap Visit.calls) settled
  reconciled : ∃ given issued, Reconciled settled banning given issued united
  awaits : ∀ ts, w.Awaits ts → united.Awaits ts

/-- What a bot that is not passive does after it has left rooms. -/
def moveIn (ts : Timestamp) : BotM Unit := do
  let joined ← joinEach (← getConfig).monitoredRooms
  note (.monitoredRoomsJoined joined (← getConfig).monitoredRooms.length)
  discard reconcile
  becomeReady ts

theorem run_becomeReady (ts : Timestamp) (w : World) :
    ((becomeReady ts).run w).2.bot = { w.bot with readyTs := ts } ∧
      ((becomeReady ts).run w).2.history = w.history :=
  ⟨rfl, rfl⟩

theorem run_start (ts : Timestamp) (w : World) (hactive : w.bot.config.bot.passive = false) :
    ∃ begun, Alike w begun ∧
      (start ts).run w = (moveIn ts).run (leaveForeignRooms.run begun).2 := by
  refine ⟨_, quiet_note (.botStarting w.bot.selfId false w.bot.config.actions.dryRun) w, ?_⟩
  unfold start moveIn becomeReady
  simp only [run_bind, run_getBot, hactive, Bool.not_false, if_true]

theorem run_moveIn (ts : Timestamp) (w : World) :
    ∃ told, Alike ((joinEach w.bot.config.monitoredRooms).run w).2 told ∧
      (moveIn ts).run w = (becomeReady ts).run (reconcile.run told).2 := by
  let entered := (joinEach w.bot.config.monitoredRooms).run w
  exact ⟨_, quiet_note (.monitoredRoomsJoined entered.1
    entered.2.bot.config.monitoredRooms.length) entered.2, rfl⟩

/-- A bot that is not passive starts in these phases, and is ready in the end. -/
theorem phases_start (ts : Timestamp) (w : World) (hactive : w.bot.config.bot.passive = false) :
    ∃ listing leaving alone visits settled banning united,
      Phases w listing leaving alone visits settled banning united ∧
        ((start ts).run w).2.bot = { united.bot with readyTs := ts } ∧
        ((start ts).run w).2.history = united.history := by
  obtain ⟨begun, hbegun, hstart⟩ := run_start ts w hactive
  obtain ⟨listing, leaving, hvacated, hleft⟩ := vacated_leaveForeignRooms begun
  have hleaving : ∀ t, Keeps (·.Awaits t) leaveForeignRooms := fun t =>
    keeps_leaveForeignRooms (routine_awaits t).idle
      ((routine_awaits t).likeness.attempt "joined_rooms" .joinedRooms rfl nofun).keeps
      fun room => ((routine_awaits t).likeness.leaveRoom room).keeps
  have halone := fun t => hleaving t begun
  generalize (leaveForeignRooms.run begun).2 = alone at hstart hvacated hleft halone
  obtain ⟨told, htold, hmoved⟩ := run_moveIn ts alone
  obtain ⟨visits, hvisited, hasked, hentered⟩ :=
    visited_joinEach alone.bot.config.monitoredRooms alone
  have hsettled := fun t =>
    ((routine_awaits t).likeness.joinEach alone.bot.config.monitoredRooms).keeps alone
  generalize ((joinEach alone.bot.config.monitoredRooms).run alone).2 = settled
    at htold hvisited hentered hsettled
  obtain ⟨l, hl, hmap, -⟩ := reconcile_series told
  obtain ⟨banning, hreconciled⟩ := hl.reconciled hmap
  have hunited := fun t => (routine_awaits t).likeness.reconcile.keeps told
  generalize (reconcile.run told).2 = united at hmoved hl hreconciled hunited
  have hready := run_becomeReady ts united
  rw [hstart, hmoved]
  have hconfig : alone.bot.config = w.bot.config :=
    congrArg ConfigStore.config (hvacated.store_eq.trans (congrArg Bot.store hbegun.bot))
  rw [hleft.activities, hbegun.activities] at hvisited
  rw [hbegun.bot, hbegun.activities] at hvacated hleft
  rw [hconfig] at hasked
  rw [← htold.bot] at hvisited
  refine ⟨listing, leaving, alone, visits, told, banning, united,
    ⟨hvacated, (Adds.of_alike hbegun).trans hleft, hvisited, hasked, ?_, ⟨_, _, hreconciled⟩,
      fun t ht => ?_⟩, hready⟩
  · exact ⟨htold.history.trans hentered.history, htold.activities.trans hentered.activities⟩
  · have hbefore := hsettled t (halone t (ht.of_eq hbegun.bot hbegun.history))
    exact hunited t (hbefore.of_eq htold.bot htold.history)

/-! ### What has been done -/

/-- The rooms that the bot has asked its way into, the latest one first. -/
def enteredRooms (history : List Occurrence) : List RoomId :=
  history.filterMap Occurrence.entry?

omit [Surroundings] in
theorem Vacated.moves {activities : List Activity} {b b' : Bot} {rooms : List RoomId}
    {made : List Occurrence} (h : Vacated activities b rooms made b') :
    made.filterMap Occurrence.leave? = rooms ∧ made.filterMap Occurrence.entry? = [] := by
  induction h with
  | nil => exact ⟨rfl, rfl⟩
  | left room _ ih | refused room _ _ ih => exact ⟨congrArg (room :: ·) ih.1, ih.2⟩

omit [Surroundings] in
theorem Inquiry.moves {b : Bot} {activities : List Activity} {room : RoomId}
    {made : List Occurrence} {answer : Except ActionError RoomReport}
    (h : Inquiry b activities room made answer) :
    made.reverse.filterMap Occurrence.leave? = [] ∧
      made.reverse.filterMap Occurrence.entry? = [room] := by
  cases h with
  | barred | membersUntold | bansUntold | allTold => exact ⟨rfl, rfl⟩

omit [Surroundings] in
theorem Visited.moves {activities : List Activity} {b b' : Bot} {visits : List Visit}
    (h : Visited activities b visits b') :
    (visits.flatMap Visit.calls).filterMap Occurrence.leave? = [] ∧
      (visits.flatMap Visit.calls).filterMap Occurrence.entry? = visits.map Visit.asked := by
  induction h with
  | nil => exact ⟨rfl, rfl⟩
  | cons visit inquiry _ ih =>
    simp only [List.flatMap_cons, List.filterMap_append, Visit.calls, inquiry.moves, ih,
      List.map_cons, List.singleton_append, List.append_nil, and_self]

theorem Reconciled.moves {w w' : World} {made : List Occurrence}
    {given : List (RoomId × MemberId)} {issued : Nat} (h : Reconciled w made given issued w') :
    made.filterMap Occurrence.leave? = [] ∧ made.filterMap Occurrence.entry? = [] := by
  have hbans : ∀ o ∈ made, o.ban?.isSome := by
    cases hdry : w.bot.config.actions.dryRun with
    | true => simp [(h.dry hdry).1]
    | false => exact (h.wet hdry).1
  have hno : ∀ o : Occurrence, o.ban?.isSome → o.leave? = none ∧ o.entry? = none := by
    intro o ho
    cases o with
    | called _ _ c _ =>
      cases c with
      | ban => exact ⟨rfl, rfl⟩
      | _ => cases ho
    | _ => cases ho
  rw [List.filterMap_eq_nil_iff, List.filterMap_eq_nil_iff]
  exact ⟨fun o ho => (hno o (hbans o ho)).1, fun o ho => (hno o (hbans o ho)).2⟩

/-- What is tracked does not depend on the uniting of the ban lists. -/
theorem Reconciled.isTracked_eq {w w' : World} {made : List Occurrence}
    {given : List (RoomId × MemberId)} {issued : Nat} (h : Reconciled w made given issued w')
    (room : RoomId) : w'.bot.rooms.isTracked room = w.bot.rooms.isTracked room := by
  rw [RoomStore.isTracked_eq_isSome, RoomStore.isTracked_eq_isSome]
  cases hfind : w.bot.rooms.find? room with
  | none => rw [h.untracked room hfind]
  | some r =>
    obtain ⟨r', hr', -⟩ := h.records room r hfind
    rw [hr']
    rfl

/-- What a start of a bot comes to: what it is told of the rooms that it is in, its attempts to
leave some of them, its visits to others, and the bans that it gives in the end. -/
structure Started (b : Bot) (listing : Except ActionError (List RoomId)) (leaving : List Occurrence)
    (visits : List Visit) (banning : List Occurrence) (ts : Timestamp) (w : World) : Prop where
  /-- What has been done, in order: the bot asks which rooms it is in, leaves some, visits others,
  and then bans are given. -/
  history : w.history = (.called b [] .joinedRooms listing :: leaving ++
    visits.flatMap Visit.calls ++ banning).reverse
  /-- There is one attempt to leave each room that is listed and not monitored. -/
  attempted : leaving.map Occurrence.call? = (b.config.foreign listing).map fun room =>
    some (.leave room)
  /-- Each monitored room is visited once. -/
  visited : visits.map Visit.asked = b.config.monitoredRooms
  nodup : b.config.monitoredRooms.Nodup
  inquired : ∀ visit ∈ visits, ∃ before, Inquiry before [.roomBootstrap visit.asked] visit.asked
    visit.made visit.answer
  /-- The bans are those that are missing after all visits. -/
  reconciled : ∃ settled united given issued,
    settled.history = (.called b [] .joinedRooms listing :: leaving ++
      visits.flatMap Visit.calls).reverse ∧
    Reconciled settled banning given issued united ∧ w.bot = { united.bot with readyTs := ts }
  /-- No other rooms have been left, -/
  left : (leftRooms w.history).reverse = b.config.foreign listing
  /-- and no others have been entered. -/
  entered : (enteredRooms w.history).reverse = b.config.monitoredRooms
  /-- The rooms that are tracked are those of which the bot has been told everything. -/
  isTracked_iff : ∀ room, w.bot.rooms.isTracked room = true ↔
    ∃ visit ∈ visits, ∃ report, visit.answer = .ok report ∧ report.room = room
  /-- In all that has been done the bot was not ready, -/
  unready : ∀ o ∈ w.history, ∀ before, o.bot? = some before → before.readyTs = Int64.maxValue
  /-- and now it is. -/
  ready : w.bot.readyTs = ts

/-- A bot that is not passive and has done nothing before tries to leave each room that it is in and
does not monitor, asks its way into each room that it monitors, gives the bans that are missing
then, and is ready after all of this, whatever the homeserver refuses. -/
theorem started_start (selfId : MemberId) (store : ConfigStore) (server : Surroundings.Server)
    (ts : Timestamp) (hactive : store.config.bot.passive = false) :
    ∃ listing leaving visits banning, Started (.initial selfId store) listing leaving visits banning
      ts ((start ts).run (.initial (.initial selfId store) server)).2 := by
  obtain ⟨listing, leaving, alone, visits, settled, banning, united, h, hbot, hhistory⟩ :=
    phases_start ts (.initial (.initial selfId store) server) hactive
  obtain ⟨given, issued, hreconciled⟩ := h.reconciled
  generalize ((start ts).run (.initial (.initial selfId store) server)).2 = w at hbot hhistory
  have hsettled : settled.history = (.called (.initial selfId store) [] .joinedRooms listing ::
      leaving ++ visits.flatMap Visit.calls).reverse := by
    rw [h.entered.history, h.left.history]
    simp [World.initial]
  have hdone : w.history = (.called (.initial selfId store) [] .joinedRooms listing :: leaving ++
      visits.flatMap Visit.calls ++ banning).reverse := by
    rw [hhistory, hreconciled.history, hsettled, ← List.reverse_append]
  have hawaits : united.Awaits Int64.maxValue := h.awaits _ ⟨rfl, fun o ho => nomatch ho⟩
  refine ⟨listing, leaving, visits, banning, hdone, h.vacated.calls, h.asked,
    Std.ExtTreeMap.nodup_keys, h.visited.exists_inquiry,
    ⟨settled, united, given, issued, hsettled, hreconciled, hbot⟩, ?_, ?_, fun room => ?_,
    fun o ho => hawaits.2 o (hhistory ▸ ho), by rw [hbot]⟩
  · rw [leftRooms, hdone, List.filterMap_reverse, List.reverse_reverse, List.filterMap_append,
      List.filterMap_append, List.filterMap_cons_none rfl, h.vacated.moves.1, h.visited.moves.1,
      hreconciled.moves.1, List.append_nil, List.append_nil]
    rfl
  · rw [enteredRooms, hdone, List.filterMap_reverse, List.reverse_reverse, List.filterMap_append,
      List.filterMap_append, List.filterMap_cons_none rfl, h.vacated.moves.2, h.visited.moves.2,
      hreconciled.moves.2, h.asked, List.append_nil]
    rfl
  · rw [hbot, hreconciled.isTracked_eq, h.visited.isTracked_iff]
    refine or_iff_right fun htracked => ?_
    exact absurd (h.vacated.isTracked_of_isTracked htracked) Bool.false_ne_true

end

namespace Sample

/-- What a homeserver answers in whose lobby a member is banned. It lists a room twice that the bot
does not let be, lets it out of the garret only, does not tell who is in the attic, knows the cellar
under another name, and refuses to ban. -/
def reluctant : (c : Call) → Except ActionError c.Reply
  | .joinedRooms => .ok [garret, lobby, cellar, garret]
  | .leave room => if room = garret then .ok () else .error (.decode "")
  | .join room _ => .ok (if room = cellarAlias then cellar else room)
  | .listMembers room => if room = attic then .error (.decode "") else .ok ∅
  | .bannedMembers room => .ok (if room = lobby then .ofList [(mallory, "spam")] else ∅)
  | .ban .. => .error (.decode "")
  | c => .ok (reply c)

/-- Surroundings with such a homeserver. -/
@[reducible] def reluctance : Surroundings where
  Server := Unit
  homeserver :=
    { answer := fun c s => (⟨reluctant c, []⟩, s)
      poll := fun _ s => (⟨⟨.error (.decode ""), []⟩, 0⟩, s) }
  render := id
  fileText := fun _ => .error ""
  jitterMs := 0

/-- A configuration that monitors the lobby, the attic, and the cellar under its other name. -/
def reluctantStore : ConfigStore :=
  .inMemory
    { Config.ofHomeserver ⟨"", "", "", none, none, none⟩ with
      rooms := .ofList [(lobby, RoomConfig.mk modes ∅), (attic, RoomConfig.mk modes ∅),
        (cellarAlias, RoomConfig.mk modes ∅)] }

end Sample

section

attribute [local instance] Sample.reluctance

namespace Sample

/-- The world after a start there. -/
def reluctantWorld : World :=
  ((start 5).run (.initial (.initial ⟨"@warden:x"⟩ reluctantStore) ())).2

end Sample

/-- The bot leaves the garret as often as it is listed and tries to leave the cellar, asks its way
into all three rooms, tracks the lobby and the cellar, and is refused a ban. -/
theorem started_in_spite_of_refusals : Sample.reluctantStore.config.bot.passive = false ∧
    (∃ listing leaving visits banning, Started (.initial ⟨"@warden:x"⟩ Sample.reluctantStore)
      listing leaving visits banning 5 Sample.reluctantWorld) ∧
    (leftRooms Sample.reluctantWorld.history).reverse =
      [Sample.garret, Sample.cellar, Sample.garret] ∧
    (enteredRooms Sample.reluctantWorld.history).reverse =
      [Sample.attic, Sample.lobby, Sample.cellarAlias] ∧
    [Sample.lobby, Sample.attic, Sample.cellar, Sample.cellarAlias].map
      Sample.reluctantWorld.bot.rooms.isTracked = [true, false, true, false] ∧
    Sample.reluctantWorld.history.filterMap Occurrence.ban? = [(Sample.cellar, Sample.mallory)] :=
  ⟨rfl, started_start ⟨"@warden:x"⟩ Sample.reluctantStore () 5 rfl, by decide +kernel⟩

end

end RoomModeration
