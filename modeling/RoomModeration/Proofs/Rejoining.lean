import RoomModeration.Proofs.Room.Absence

/-!
# Coming back to lost rooms

When the bot learns that it is out of a monitored room, it puts off one attempt to come back. The
attempt first waits to be given its timer, then for its moment and then for its turn; along all of
this it stands for the same room and the same moment, so that the attempts that wait can be read off
the agenda. What is shown is that this account is kept: a departure adds one entry to it, an attempt
that is made takes one away, and in virtual time it does so at the moment of the entry. Nothing else
changes it, however departures, commands about the room and attempts that fail may interleave. Each
of these is done to its end before the next begins: no departure comes while an attempt waits for
the answer to its joining the room.

## Main definitions

* `Agenda.attempts` : the attempts that wait, each with its moment.
* `Agenda.Owes` : what waits, and that no timer is overdue.
* `World.summons?`, `Happening.scheduled`, `Happening.attempted` : the attempts that departures put
  off, and those that are made.
* `Tried` : what an attempt comes to.

## Main results

* `owes_happening`, `owes_after` : the account in one step and along a run.
* `tried_rejoin` : an attempt is one join, if the room is still monitored.
* `unfolds_advanceTo` : the driver, as long as it keeps up, runs in virtual time.
* `one_attempt_per_departure` : each departure leads to one attempt, made at its moment, and until
  the room is entered again nothing that happens in it matters.
-/

namespace RoomModeration

open BotM RoomModeration.Bot

/-! ### The account -/

/-- The room that a job brings the bot back to and the moment at which it is due, if the job is
about coming back and its turn is at a certain moment. -/
def Job.attempt? (moment : Nat) : Job → Option (RoomId × Nat)
  | awaitRejoin room delaySecs => some (room, moment + delaySecs * 1000)
  | rejoin room => some (room, moment)
  | _ => none

theorem Job.le_of_attempt?_eq_some {job : Job} {moment : Nat} {attempt : RoomId × Nat}
    (h : job.attempt? moment = some attempt) : moment ≤ attempt.2 := by
  cases job with
  | awaitRejoin room delaySecs =>
    cases h
    exact Nat.le_add_right _ _
  | rejoin room =>
    cases h
    exact Nat.le_refl _
  | _ => cases h

theorem Job.attempt?_eq_none {job : Job} (h : job.isReturn = false) (moment : Nat) :
    job.attempt? moment = none := by
  cases job with
  | awaitRejoin | rejoin => cases h
  | _ => rfl

namespace Agenda

variable {a : Agenda} {due : List (RoomId × Nat)}

/-- The attempts to come back that wait, each with its moment. -/
def attempts (a : Agenda) : List (RoomId × Nat) :=
  a.timers.filterMap (fun timer => timer.job.attempt? timer.deadline) ++
    a.ready.filterMap (·.attempt? a.now)

/-- These attempts wait, and no timer is overdue. -/
structure Owes (due : List (RoomId × Nat)) (a : Agenda) : Prop where
  attempts : a.attempts.Perm due
  punctual : a.Punctual

theorem attempts_behind (a : Agenda) (job : Job) :
    ({ a with ready := a.ready ++ [job] } : Agenda).attempts =
      a.attempts ++ (job.attempt? a.now).toList := by
  simp only [attempts, List.filterMap_append, List.append_assoc]
  cases hjob : job.attempt? a.now <;> simp [hjob]

namespace Owes

theorem behind (h : a.Owes due) (job : Job) :
    ({ a with ready := a.ready ++ [job] } : Agenda).Owes (due ++ (job.attempt? a.now).toList) := by
  refine ⟨?_, h.punctual⟩
  rw [attempts_behind]
  exact h.attempts.append_right _

theorem before (h : a.Owes due) (job : Job) :
    ({ a with ready := job :: a.ready } : Agenda).Owes (due ++ (job.attempt? a.now).toList) := by
  refine ⟨?_, h.punctual⟩
  have hsame : ({ a with ready := job :: a.ready } : Agenda).attempts.Perm
      ({ a with ready := a.ready ++ [job] } : Agenda).attempts :=
    ((List.perm_append_singleton job a.ready).symm.filterMap _).append_left _
  exact hsame.trans (h.behind job).attempts

theorem later (h : a.Owes due) (ms : Nat) (job : Job) :
    ({ a with timers := a.timers ++ [⟨a.now + ms, job⟩] } : Agenda).Owes
      (due ++ (job.attempt? (a.now + ms)).toList) := by
  constructor
  · have hadded : ({ a with timers := a.timers ++ [⟨a.now + ms, job⟩] } : Agenda).attempts.Perm
        (a.attempts ++ (job.attempt? (a.now + ms)).toList) := by
      simp only [Agenda.attempts, List.filterMap_append, List.append_assoc]
      refine .append_left _ ?_
      cases hjob : job.attempt? (a.now + ms) with
      | none => simp [hjob]
      | some attempt => simpa [hjob] using (List.perm_append_singleton attempt _).symm
    exact hadded.trans (h.attempts.append_right _)
  · intro timer htimer
    obtain hold | hnew := List.mem_append.1 htimer
    · exact h.punctual timer hold
    · obtain rfl := List.mem_singleton.1 hnew
      exact Nat.le_add_right _ _

/-- Taking a job out of the queue takes its attempt off the account. -/
theorem take (h : a.Owes due) {place : Nat} {job : Job} (hjob : a.ready[place]? = some job) :
    ∃ rest, ({ a with ready := a.ready.eraseIdx place } : Agenda).Owes rest ∧
      (rest ++ (job.attempt? a.now).toList).Perm due := by
  obtain ⟨hplace, rfl⟩ := List.getElem?_eq_some_iff.1 hjob
  have hrest : ({ a with ready := a.ready.eraseIdx place } : Agenda).Owes
      ({ a with ready := a.ready.eraseIdx place } : Agenda).attempts := ⟨.refl _, h.punctual⟩
  refine ⟨_, hrest, (hrest.before a.ready[place]).attempts.symm.trans (.trans ?_ h.attempts)⟩
  exact ((List.getElem_cons_eraseIdx_perm hplace).filterMap _).append_left _

/-- No attempt that waits is overdue. -/
theorem not_overdue (h : a.Owes due) : ∀ attempt ∈ a.attempts, a.now ≤ attempt.2 := by
  intro attempt hattempt
  obtain htimer | hready := List.mem_append.1 hattempt
  · obtain ⟨timer, hmem, hjob⟩ := List.mem_filterMap.1 htimer
    exact Nat.le_trans (h.punctual timer hmem) (Job.le_of_attempt?_eq_some hjob)
  · obtain ⟨job, -, hjob⟩ := List.mem_filterMap.1 hready
    exact Job.le_of_attempt?_eq_some hjob

/-- When time passes with nothing ready, every attempt keeps its moment. -/
theorem elapse (h : a.Owes due) {ms : Nat} (hready : a.ready = [])
    (htimers : ∀ timer ∈ a.timers, a.now + ms ≤ timer.deadline) :
    ({ a with now := a.now + ms } : Agenda).Owes due := by
  refine ⟨?_, htimers⟩
  have hsame : ({ a with now := a.now + ms } : Agenda).attempts = a.attempts := by
    simp only [Agenda.attempts, hready, List.filterMap_nil]
  rw [hsame]
  exact h.attempts

/-- What becomes ready is due at that very moment. -/
theorem wake (h : a.Owes due) :
    (⟨a.now, a.ready ++ (byDeadline (a.timers.filter (·.deadline ≤ a.now))).map (·.job),
      a.timers.filter (a.now < ·.deadline)⟩ : Agenda).Owes due := by
  let moment (timer : Timer) : Option (RoomId × Nat) := timer.job.attempt? timer.deadline
  let woken := byDeadline (a.timers.filter (·.deadline ≤ a.now))
  let waiting := a.timers.filter (a.now < ·.deadline)
  have hwoken : woken.Perm (a.timers.filter (·.deadline ≤ a.now)) := perm_byDeadline _
  have hmoment : (woken.map (·.job)).filterMap (·.attempt? a.now) = woken.filterMap moment := by
    rw [List.filterMap_map]
    refine List.filterMap_congr fun timer htimer => ?_
    obtain ⟨hmem, hdue⟩ := List.mem_filter.1 (hwoken.mem_iff.1 htimer)
    have hnow : timer.deadline = a.now :=
      Nat.le_antisymm (of_decide_eq_true hdue) (h.punctual timer hmem)
    change timer.job.attempt? a.now = timer.job.attempt? timer.deadline
    rw [hnow]
  have hsplit : (woken ++ waiting).Perm a.timers := perm_due_later a.now a.timers
  have hready : ((a.ready ++ woken.map (·.job)).filterMap (·.attempt? a.now)).Perm
      (woken.filterMap moment ++ a.ready.filterMap (·.attempt? a.now)) := by
    rw [List.filterMap_append, hmoment]
    exact List.perm_append_comm
  have htimers : (waiting.filterMap moment ++ woken.filterMap moment).Perm
      (a.timers.filterMap moment) := by
    rw [← List.filterMap_append]
    exact (List.perm_append_comm.trans hsplit).filterMap moment
  have hsame : (waiting.filterMap moment ++
      (a.ready ++ woken.map (·.job)).filterMap (·.attempt? a.now)).Perm a.attempts := by
    refine (hready.append_left _).trans ?_
    rw [← List.append_assoc]
    exact htimers.append_right _
  exact ⟨hsame.trans h.attempts, fun timer htimer => h.punctual timer (List.mem_filter.1 htimer).1⟩

/-- No attempt belongs to a start. -/
theorem cancel (h : a.Owes due) (number : Nat) :
    let kept (job : Job) : Bool := job.start? != some number
    (⟨a.now, a.ready.filter kept, a.timers.filter fun timer => kept timer.job⟩ : Agenda).Owes
      due := by
  intro kept
  have hdropped : ∀ job moment, Job.attempt? moment job =
      if kept job = true then job.attempt? moment else none := by
    intro job moment
    cases job with
    | awaitRejoin | rejoin => rfl
    | _ => exact (ite_self none).symm
  have hsame : (⟨a.now, a.ready.filter kept, a.timers.filter fun timer => kept timer.job⟩ :
      Agenda).attempts = a.attempts := by
    simp only [Agenda.attempts, List.filterMap_filter, ← hdropped]
  refine ⟨.trans (.of_eq hsame) h.attempts,
    fun timer htimer => h.punctual timer (List.mem_filter.1 htimer).1⟩

end Owes

end Agenda

theorem indifferent_owes (due : List (RoomId × Nat)) : Indifferent (Agenda.Owes due) where
  behind {a job} hjob h := by
    have hadded := h.behind job
    rwa [Job.attempt?_eq_none hjob, Option.toList_none, List.append_nil] at hadded
  before {a job} hjob h := by
    have hadded := h.before job
    rwa [Job.attempt?_eq_none hjob, Option.toList_none, List.append_nil] at hadded
  later {a job ms} hjob h := by
    have hadded := h.later ms job
    rwa [Job.attempt?_eq_none hjob, Option.toList_none, List.append_nil] at hadded

section

variable [Surroundings] {w w' : World} {x : Happening} {room : RoomId}
  {due : List (RoomId × Nat)}

theorem owes_sleep (ms : Nat) (job : Job) (h : w.agenda.Owes due) :
    ((sleep ms job).run w).2.agenda.Owes (due ++ (job.attempt? (w.now + ms)).toList) := by
  rw [run_sleep]
  split
  · next hms =>
    rw [hms]
    exact h.before job
  · exact h.later ms job

/-! ### Departures -/

/-- Whether a departure is that from a monitored room that is no welcome room. -/
def World.loses (w : World) (room : RoomId) : Bool :=
  w.bot.config.isMonitored room && !w.bot.welcome.contains room

/-- The attempt to come back that a departure leads to, if it leads to one. -/
def World.summons? (w : World) (room : RoomId) : Option (RoomId × Nat) :=
  if w.loses room then some (room, w.now + w.bot.config.bot.rejoinDelaySecs * 1000) else none

/-- The attempts that some departures lead to, each of them in the world in which it is dealt
with. -/
def summoned (departures : List (World × RoomId)) : List (RoomId × Nat) :=
  departures.filterMap fun departure => departure.1.summons? departure.2

/-- The attempts that the departures of a happening lead to. -/
def Happening.scheduled (w : World) (x : Happening) : List (RoomId × Nat) :=
  summoned (x.departures w)

/-- A departure puts off one job if a monitored room is lost, and otherwise none. -/
theorem agenda_handleLeft (room : RoomId) (w : World) :
    ((handleLeft room).run w).2.agenda =
      if w.loses room then
        { w.agenda with
          ready := w.ready ++ [.awaitRejoin room w.bot.config.bot.rejoinDelaySecs] }
      else w.agenda := by
  unfold World.loses handleLeft
  rw [run_bind, run_getBot]
  dsimp only
  cases hwelcome : w.bot.welcome.contains room with
  | true =>
    obtain ⟨entry, hentry⟩ := Bot.unregister_of_contains hwelcome
    rw [hentry, Bool.not_true, Bool.and_false, if_neg Bool.false_ne_true]
    rfl
  | false =>
    rw [Bot.unregister_of_not_contains hwelcome, Bool.not_false, Bool.and_true]
    dsimp only
    rw [run_bind]
    have hend : ((endRecord room).run w).2.agenda = w.agenda ∧
        ((endRecord room).run w).2.bot.config = w.bot.config := by
      unfold endRecord
      rw [run_bind, run_getBot]
      dsimp only
      split
      · exact ⟨rfl, rfl⟩
      · exact ⟨rfl, rfl⟩
    generalize ((endRecord room).run w).2 = v at hend
    obtain ⟨hagenda, hconfig⟩ := hend
    rw [run_bind, run_getConfig]
    dsimp only
    rw [hconfig, ← hagenda]
    split
    · change (⟨v.now, v.ready ++ [_], v.timers⟩ : Agenda) = ⟨v.now, w.ready ++ [_], v.timers⟩
      rw [show v.ready = w.ready from congrArg Agenda.ready hagenda]
    · rfl

/-- Each departure puts off its own attempt only. -/
theorem attempts_handleLeft (room : RoomId) (w : World) :
    ((handleLeft room).run w).2.agenda.attempts =
      w.agenda.attempts ++ (w.summons? room).toList := by
  rw [agenda_handleLeft, World.summons?]
  split
  · exact w.agenda.attempts_behind _
  · exact (List.append_nil _).symm

theorem owes_handleLeft (room : RoomId) (h : w.agenda.Owes due) :
    ((handleLeft room).run w).2.agenda.Owes (due ++ (w.summons? room).toList) := by
  rw [agenda_handleLeft, World.summons?]
  split
  · exact h.behind (.awaitRejoin room w.bot.config.bot.rejoinDelaySecs)
  · simpa using h

/-- Departures that are dealt with one after the other. -/
theorem owes_departures (rooms : List RoomId) (h : w.agenda.Owes due) :
    ((rooms.forM fun room => discard (handleLeft room)).run w).2.agenda.Owes
      (due ++ summoned (w.departures rooms)) := by
  induction rooms generalizing w due with
  | nil =>
    rw [World.departures, summoned, List.filterMap_nil, List.append_nil]
    exact h
  | cons room rest ih =>
    have hrest := ih (owes_handleLeft room h)
    rw [List.append_assoc] at hrest
    have hcons : summoned (w.departures (room :: rest)) =
        (w.summons? room).toList ++ summoned (((handleLeft room).run w).2.departures rest) := by
      rw [World.departures, summoned, List.filterMap_cons, summoned]
      cases w.summons? room <;> rfl
    rw [hcons]
    exact hrest

/-- What a batch brings for the joined rooms puts no attempt off. -/
theorem owes_facing (batch : FeedBatch) (h : w.agenda.Owes due) :
    (w.facing batch).agenda.Owes due := by
  have hlikeness := (indifferent_owes due).resemblance.toLikeness
  have hbegin : Respects (Alone fun w => w.agenda.Owes due) (beginBatch batch) := by
    refine .bind (hlikeness.count _ nofun) fun _ => .bind (hlikeness.countBy _ _ nofun) fun _ => ?_
    exact .first_if (hlikeness.note _) fun _ => .each fun entry _ => hlikeness.applyRoom _ _
  exact hbegin.keeps _ h

theorem owes_applyBatch (batch : FeedBatch) (h : w.agenda.Owes due) :
    ((applyBatch batch).run w).2.agenda.Owes
      (due ++ summoned ((w.facing batch).departures batch.left.toList)) := by
  rw [run_applyBatch]
  exact owes_departures _ (owes_facing batch h)

/-! ### Attempts -/

/-- The attempt that a happening makes, if it makes one, with the moment at which it is made. -/
def Happening.attempted (w : World) : Happening → List (RoomId × Nat)
  | .work place =>
    match w.ready[place]? with
    | some (.rejoin room) => [(room, w.now)]
    | _ => []
  | _ => []

/-- What an attempt to come back to a room comes to: nothing is put off, and there is one join if
the room is still monitored, and otherwise no call at all. -/
structure Tried (room : RoomId) (w w' : World) : Prop where
  agenda : w'.agenda = w.agenda
  monitored : w.bot.config.isMonitored room = true → ∃ since, w'.history = since ++ w.history ∧
    (since.filterMap Occurrence.call?).filter Call.isMove = [.join room room.server?.toList]
  unmonitored : w.bot.config.isMonitored room = false → w'.history = w.history

/-- Entering a room takes one join, whether it succeeds or not. -/
theorem moves_joinRoom (room : RoomId) (w : World) :
    ∃ since, ((joinRoom room).run.run w).2.history = since ++ w.history ∧
      (since.filterMap Occurrence.call?).filter Call.isMove =
        [.join room room.server?.toList] := by
  obtain ⟨made, answer, h, -⟩ := inquired_joinRoom room w
  refine ⟨made, h.history, ?_⟩
  cases h.inquiry with
  | barred | membersUntold | bansUntold | allTold => rfl

theorem tried_rejoin (room : RoomId) (w : World) : Tried room w ((Bot.rejoin room).run w).2 := by
  unfold Bot.rejoin
  rw [run_bind, run_getConfig]
  dsimp only
  cases hmonitored : w.bot.config.isMonitored room with
  | false =>
    refine ⟨rfl, fun h => ?_, fun _ => rfl⟩
    rw [hmonitored] at h
    cases h
  | true =>
    rw [Bool.not_true, if_neg Bool.false_ne_true, run_bind]
    have hmoves := moves_joinRoom room w
    have hagenda := agenda_joinRoom room w
    have hno : ¬ w.bot.config.isMonitored room = false := by
      rw [hmonitored]
      decide
    rcases hrun : (joinRoom room).run.run w with ⟨e | joined, v⟩
    · rw [hrun] at hmoves hagenda
      exact ⟨hagenda, fun _ => hmoves, fun h => absurd h hno⟩
    · rw [hrun] at hmoves hagenda
      exact ⟨hagenda, fun _ => hmoves, fun h => absurd h hno⟩

/-! ### Runs -/

/-- Applying a batch puts off the attempts that its departures lead to. -/
theorem owes_of_applies {v : World} {batch : FeedBatch} (hv : v.agenda.Owes due)
    (happlies : x.applies? w = some (v, batch)) :
    (x.run.run w).2.agenda.Owes (due ++ x.scheduled w) := by
  have happlied : ((applyBatch batch).run v).2.agenda.Owes (due ++ x.scheduled w) := by
    rw [Happening.scheduled, Happening.departures, happlies]
    exact owes_applyBatch batch hv
  obtain hrun | ⟨start, since, hrun⟩ := run_of_applies happlies
  · rwa [hrun]
  · rw [hrun]
    exact (indifferent_owes _).keeps_sleep 0 rfl _ happlied

theorem Happening.scheduled_of_applies_eq_none (h : x.applies? w = none) :
    x.scheduled w = [] := by
  rw [scheduled, departures, h]
  rfl

/-- Doing a job keeps the account, up to the attempt that the job makes and those that the
departures of a batch put off. -/
theorem owes_work {place : Nat} {job : Job} (h : w.agenda.Owes due)
    (hjob : w.ready[place]? = some job) :
    let x : Happening := .work place
    ∃ due', (x.run.run w).2.agenda.Owes due' ∧
      (due' ++ x.attempted w).Perm (due ++ x.scheduled w) := by
  intro x
  let v : World := { w with ready := w.ready.eraseIdx place }
  obtain ⟨rest, hv, hrest⟩ : ∃ rest, v.agenda.Owes rest ∧
      (rest ++ (job.attempt? w.now).toList).Perm due := h.take hjob
  have hrun : (x.run.run w).2 = (job.run.run v).2 := run_work_of_some hjob
  have happlies : x.applies? w = job.batch?.map fun batch =>
      ({ v with history := .answered (.ok batch) :: w.history }, batch) := by
    simp only [x, Happening.applies?, hjob]
    rfl
  cases hreturn : job.isReturn with
  | false =>
    have hattempted : x.attempted w = [] := by
      simp only [x, Happening.attempted, hjob]
      cases job with
      | rejoin room => cases hreturn
      | _ => rfl
    rw [Job.attempt?_eq_none hreturn, Option.toList_none, List.append_nil] at hrest
    rw [hattempted]
    cases hbatch : job.batch? with
    | some batch =>
      rw [hbatch] at happlies
      have hv' : ({ v with history := .answered (.ok batch) :: w.history } : World).agenda.Owes
          rest := hv
      exact ⟨_, owes_of_applies hv' happlies, by simpa using hrest.append_right _⟩
    | none =>
      rw [hbatch] at happlies
      rw [Happening.scheduled_of_applies_eq_none happlies, hrun]
      have hkeeps := ((indifferent_owes rest).resemblance.job hreturn
        fun batch h => by rw [hbatch] at h; cases h).keeps
      exact ⟨rest, hkeeps v hv, by simpa using hrest⟩
  | true =>
    rw [hrun]
    cases job with
    | awaitRejoin room delaySecs =>
      rw [Happening.scheduled_of_applies_eq_none happlies, List.append_nil]
      refine ⟨_, owes_sleep (delaySecs * 1000) (.rejoin room) hv, ?_⟩
      have hattempted : x.attempted w = [] := by simp only [x, Happening.attempted, hjob]
      rw [hattempted, List.append_nil]
      exact hrest
    | rejoin room =>
      rw [Happening.scheduled_of_applies_eq_none happlies, List.append_nil]
      have hattempted : x.attempted w = [(room, w.now)] := by
        simp only [x, Happening.attempted, hjob]
      rw [hattempted]
      refine ⟨rest, ?_, hrest⟩
      rw [Job.run, (tried_rejoin room v).agenda]
      exact hv
    | _ => cases hreturn

/-- In virtual time, whatever happens keeps the account, up to the attempts that it puts off and the
one that it makes. -/
theorem owes_happening (x : Happening) (h : w.agenda.Owes due) (htimely : x.isTimely w = true) :
    ∃ due', (x.run.run w).2.agenda.Owes due' ∧
      (due' ++ x.attempted w).Perm (due ++ x.scheduled w) := by
  have hlikeness := (indifferent_owes due).resemblance
  have hsame : x.applies? w = none → x.attempted w = [] → (x.run.run w).2.agenda.Owes due →
      ∃ due', (x.run.run w).2.agenda.Owes due' ∧
        (due' ++ x.attempted w).Perm (due ++ x.scheduled w) := by
    intro happlies hattempted howes
    rw [hattempted, Happening.scheduled_of_applies_eq_none happlies]
    exact ⟨due, howes, .refl _⟩
  cases x with
  | start readyTs => exact hsame rfl rfl ((hlikeness.start readyTs).keeps w h)
  | batch arrived => exact ⟨_, owes_of_applies h rfl, .of_eq (List.append_nil _)⟩
  | chat room sender body =>
    exact hsame rfl rfl ((hlikeness.receiveChat room sender body).keeps w h)
  | work place =>
    cases hjob : w.ready[place]? with
    | some job => exact owes_work h hjob
    | none =>
      refine hsame ?_ ?_ ?_
      · simp only [Happening.applies?, hjob]
        rfl
      · simp only [Happening.attempted, hjob]
      · rwa [run_work_of_none hjob]
  | elapse ms =>
    obtain ⟨hready, htimers⟩ := Bool.and_eq_true_iff.1 htimely
    refine hsame rfl rfl (h.elapse (List.isEmpty_iff.1 hready) fun timer htimer => ?_)
    exact of_decide_eq_true (List.all_eq_true.1 htimers timer htimer)
  | wake => exact hsame rfl rfl h.wake
  | cancel => exact hsame rfl rfl (h.cancel _)

/-- Along a run in virtual time, the attempts that are still waiting and those that have been made
are those that departures have put off. -/
theorem owes_after {xs : List Happening} (h : w.agenda.Owes due) (htimely : w.timely xs = true) :
    ∃ due', (w.after xs).agenda.Owes due' ∧
      (due' ++ w.collect (fun v x => x.attempted v) xs).Perm
        (due ++ w.collect (fun v x => x.scheduled v) xs) := by
  induction xs generalizing w due with
  | nil => exact ⟨due, h, .refl _⟩
  | cons x xs ih =>
    obtain ⟨hhead, htail⟩ := Bool.and_eq_true_iff.1 htimely
    obtain ⟨due₁, hdue₁, hperm₁⟩ := owes_happening x h hhead
    obtain ⟨due₂, hdue₂, hperm₂⟩ := ih hdue₁ htail
    refine ⟨due₂, hdue₂, ?_⟩
    rw [World.collect, World.collect]
    generalize World.collect _ _ xs = made at hperm₂ ⊢
    generalize World.collect _ _ xs = put at hperm₂ ⊢
    have hmade : (due₂ ++ (x.attempted w ++ made)).Perm (due₁ ++ put ++ x.attempted w) := by
      refine (List.perm_append_comm.append_left due₂).trans ?_
      rw [← List.append_assoc]
      exact hperm₂.append_right _
    have hput : (due₁ ++ put ++ x.attempted w).Perm (due ++ (x.scheduled w ++ put)) := by
      rw [List.append_assoc]
      refine (List.perm_append_comm.append_left due₁).trans ?_
      rw [← List.append_assoc, ← List.append_assoc]
      exact hperm₁.append_right _
    exact hmade.trans hput

/-! ### The driver -/

/-- Whether the driver has always done all that is ready when it lets time pass. -/
def keepsUp (stops : Bot → Bool) (limit jobs : Nat) : Nat → World → Bool
  | 0, _ => true
  | fuel + 1, w =>
    let v := ((settle jobs).run w).2
    stops v.bot || v.ready.isEmpty &&
      match nextDeadline? v limit with
      | none => true
      | some deadline =>
        keepsUp stops limit jobs fuel (Bot.wake.run { v with now := max v.now deadline }).2

/-- A run in virtual time leads from one world to another. -/
def World.Unfolds (w w' : World) : Prop :=
  ∃ xs, w.timely xs = true ∧ w.after xs = w'

namespace World.Unfolds

theorem refl (w : World) : w.Unfolds w :=
  ⟨[], rfl, rfl⟩

theorem cons (x : Happening) (hx : x.isTimely w = true) (h : (x.run.run w).2.Unfolds w') :
    w.Unfolds w' := by
  obtain ⟨xs, htimely, hafter⟩ := h
  exact ⟨x :: xs, Bool.and_eq_true_iff.2 ⟨hx, htimely⟩, hafter⟩

theorem trans {w₁ w₂ : World} (h : w.Unfolds w₁) (h' : w₁.Unfolds w₂) : w.Unfolds w₂ := by
  obtain ⟨xs, htimely, rfl⟩ := h
  induction xs generalizing w with
  | nil => exact h'
  | cons x xs ih =>
    obtain ⟨hx, hxs⟩ := Bool.and_eq_true_iff.1 htimely
    exact cons x hx (ih hxs h')

/-- No timer ever becomes overdue. -/
theorem punctual (h : w.Unfolds w') (hw : w.agenda.Punctual) : w'.agenda.Punctual := by
  obtain ⟨xs, htimely, rfl⟩ := h
  obtain ⟨due, hdue, -⟩ := owes_after (w := w) ⟨.refl _, hw⟩ htimely
  exact hdue.punctual

/-- Doing what is ready takes no time. -/
theorem settle (fuel : Nat) (w : World) : w.Unfolds ((Bot.settle fuel).run w).2 := by
  induction fuel generalizing w with
  | zero => exact refl w
  | succ fuel ih =>
    unfold Bot.settle
    rw [run_bind]
    obtain ⟨bot, server, now, ready, timers, starts, counters, history, activities, log⟩ := w
    cases ready with
    | nil => exact refl _
    | cons job rest => exact cons (.work 0) rfl (ih _)

/-- Moving the clock forward, if nothing is ready and no timer is set for an earlier moment. -/
theorem moveTo {moment : Nat} (hready : w.ready = []) (hpunctual : w.agenda.Punctual)
    (htimers : ∀ timer ∈ w.timers, moment ≤ timer.deadline) :
    w.Unfolds { w with now := max w.now moment } := by
  have hnow : w.now + (moment - w.now) = max w.now moment := by omega
  have htimely : (Happening.elapse (moment - w.now)).isTimely w = true := by
    refine Bool.and_eq_true_iff.2 ⟨List.isEmpty_iff.2 hready, List.all_eq_true.2 fun timer h => ?_⟩
    rw [hnow]
    exact decide_eq_true (Nat.max_le.2 ⟨hpunctual timer h, htimers timer h⟩)
  refine cons (.elapse (moment - w.now)) htimely ?_
  change World.Unfolds { w with now := w.now + (moment - w.now) } _
  rw [hnow]
  exact refl _

end World.Unfolds

theorem le_of_nextDeadline?_eq_some {limit deadline : Nat}
    (h : nextDeadline? w limit = some deadline) :
    ∀ timer ∈ w.timers, deadline ≤ timer.deadline := by
  intro timer htimer
  obtain ⟨hmem, hleast⟩ := List.min?_eq_some_iff.1 h
  have hlimit : deadline ≤ limit := of_decide_eq_true (List.mem_filter.1 hmem).2
  by_cases hdue : timer.deadline ≤ limit
  · exact hleast _ (List.mem_filter.2 ⟨List.mem_map_of_mem htimer, decide_eq_true hdue⟩)
  · omega

theorem le_of_nextDeadline?_eq_none {limit : Nat} (h : nextDeadline? w limit = none) :
    ∀ timer ∈ w.timers, limit ≤ timer.deadline := by
  intro timer htimer
  by_contra hbefore
  have hmem : timer.deadline ∈ (w.timers.map (·.deadline)).filter (· ≤ limit) :=
    List.mem_filter.2 ⟨List.mem_map_of_mem htimer, decide_eq_true (by omega)⟩
  rw [List.min?_eq_none_iff.1 h] at hmem
  cases hmem

/-- As long as it keeps up, the driver runs in virtual time. -/
theorem unfolds_advanceTo {stops : Bot → Bool} {limit jobs fuel : Nat}
    (hpunctual : w.agenda.Punctual) (hkeeps : keepsUp stops limit jobs fuel w = true) :
    w.Unfolds ((advanceTo stops limit jobs fuel).run w).2 := by
  induction fuel generalizing w with
  | zero => exact .refl w
  | succ fuel ih =>
    unfold keepsUp at hkeeps
    unfold advanceTo
    rw [run_bind]
    have hsettled := World.Unfolds.settle jobs w
    refine hsettled.trans ?_
    have hpunctual' := hsettled.punctual hpunctual
    generalize ((settle jobs).run w).2 = v at hkeeps hpunctual' ⊢
    rw [run_bind, run_getBot]
    dsimp only at hkeeps ⊢
    split
    · exact .refl v
    · next hgoes =>
      obtain ⟨hready, hrest⟩ := Bool.and_eq_true_iff.1
        ((Bool.or_eq_true_iff.1 hkeeps).resolve_left hgoes)
      rw [run_bind, run_get]
      dsimp only
      cases hnext : nextDeadline? v limit with
      | none =>
        exact .moveTo (List.isEmpty_iff.1 hready) hpunctual' (le_of_nextDeadline?_eq_none hnext)
      | some deadline =>
        rw [hnext] at hrest
        have hmoved := World.Unfolds.moveTo (List.isEmpty_iff.1 hready) hpunctual'
          (le_of_nextDeadline?_eq_some hnext)
        have hwoken := hmoved.trans (.cons .wake rfl (.refl _))
        exact hwoken.trans (ih (hwoken.punctual hpunctual') hrest)

/-! ### Departures and attempts -/

/-- Where an attempt is made. -/
theorem tried_work {place : Nat} (h : w.ready[place]? = some (.rejoin room)) :
    Tried room { w with ready := w.ready.eraseIdx place }
      ((Happening.work place).run.run w).2 := by
  rw [run_work_of_some h]
  exact tried_rejoin room { w with ready := w.ready.eraseIdx place }

/-- Each departure from a monitored room that is no welcome room leads to one attempt to come back.
Along every run in virtual time, and whatever the homeserver answers: the attempts that are made,
each at its moment, and those that wait for theirs are those that such departures have put off, with
the delay that was configured then; what was due before now has been made, as often as it was put
off. An attempt is one join if the room is still monitored then, and otherwise nothing, and it puts
nothing off, however it ends. Each of the departures puts off its own attempt only, and ends the
record of the room; there is none until the room has been entered again, whatever happens then, and
while there is none, changes of membership in the room lead to no call and to no other record. -/
theorem one_attempt_per_departure (selfId : MemberId) (store : ConfigStore)
    (server : Surroundings.Server) (xs : List Happening)
    (htimely : (World.initial (Bot.initial selfId store) server).timely xs = true) :
    let w₀ : World := World.initial (Bot.initial selfId store) server
    let w := w₀.after xs
    let put := w₀.collect (fun v x => x.scheduled v) xs
    let made := w₀.collect (fun v x => x.attempted v) xs
    put.Perm (made ++ w.agenda.attempts) ∧
      (∀ attempt : RoomId × Nat, attempt.2 < w.now → made.count attempt = put.count attempt) ∧
      (∀ place room, w.ready[place]? = some (.rejoin room) →
        Tried room { w with ready := w.ready.eraseIdx place }
          ((Happening.work place).run.run w).2) ∧
      (∀ (x : Happening) (u : World) (room : RoomId), (u, room) ∈ x.departures w →
        ((handleLeft room).run u).2.agenda.attempts =
            u.agenda.attempts ++ (u.summons? room).toList ∧
          (u.bot.welcome.contains room = false →
            ((handleLeft room).run u).2.bot.rooms.isTracked room = false ∧
              ∀ ys : List Happening, ((x.run.run w).2.after ys).Lacks room u.history)) ∧
      ∀ (v : World) (room : RoomId) (events : List Event),
        v.bot.rooms.isTracked room = false → (∀ e ∈ events, e.isMembership = true) →
          Alike v ((applyRoom room events).run v).2 := by
  intro w₀ w put made
  have hbegin : w₀.agenda.Owes [] := ⟨.refl _, fun timer h => absurd h List.not_mem_nil⟩
  obtain ⟨due, hdue, hperm⟩ := owes_after hbegin htimely
  have hput : put.Perm (made ++ w.agenda.attempts) := by
    refine hperm.symm.trans (List.perm_append_comm.trans ?_)
    exact hdue.attempts.symm.append_left _
  refine ⟨hput, fun attempt hpast => ?_, fun place room => tried_work,
    fun x u room hdeparture => ⟨attempts_handleLeft room u, fun hwelcome => ?_⟩,
    fun v room events htracked hevents => (still_applyRoom htracked hevents).1⟩
  · have hwaiting : w.agenda.attempts.count attempt = 0 :=
      List.count_eq_zero.2 fun h => absurd (hdue.not_overdue attempt h) (Nat.not_le.2 hpast)
    rw [hput.count_eq, List.count_append, hwaiting, Nat.add_zero]
  · exact ⟨isTracked_handleLeft hwelcome, lacks_of_departure hdeparture hwelcome⟩

end

/-! ### Two attempts -/

namespace Sample

/-- What a homeserver answers that lets nobody into the attic. -/
def barred : (c : Call) → Except ActionError c.Reply
  | .join room _ => if room = attic then .error (.decode "") else .ok room
  | c => .ok (reply c)

/-- Surroundings with such a homeserver. -/
@[reducible] def barring : Surroundings where
  Server := Unit
  homeserver :=
    { answer := fun c s => (⟨barred c, []⟩, s)
      poll := fun _ s => (⟨⟨.error (.decode ""), []⟩, 0⟩, s) }
  render := id
  fileText := fun _ => .error ""
  jitterMs := 0

/-- A batch tells that the bot is out of the lobby, the attic and a room that it does not monitor.
Later it tries to come back. -/
def expulsion : List Happening :=
  [.start 0, .cancel, .batch ⟨"s1", ∅, .ofList [lobby, attic, garret], 0⟩, .work 0, .work 0,
    .elapse 5000, .wake, .work 0, .work 0, .elapse 1]

end Sample

section

attribute [local instance] Sample.barring

/-- One attempt for the lobby, which succeeds, and one for the attic, which fails; then no attempt
waits any more. -/
theorem expulsion_tried_once :
    let w₀ : World := World.initial (Bot.initial ⟨"@warden:x"⟩ (.inMemory Sample.config)) ()
    w₀.timely Sample.expulsion = true ∧
      (∀ room ∈ [Sample.lobby, Sample.attic],
        (w₀.collect (fun v x => x.attempted v) Sample.expulsion).count (room, 5000) = 1) ∧
      (w₀.after Sample.expulsion).agenda.attempts = [] ∧
      (w₀.after Sample.expulsion).bot.rooms.isTracked Sample.lobby = true ∧
      (w₀.after Sample.expulsion).bot.rooms.isTracked Sample.attic = false := by
  have htimely : (World.initial (Bot.initial ⟨"@warden:x"⟩ (.inMemory Sample.config)) ()).timely
      Sample.expulsion = true := by decide +kernel
  have hmade := (one_attempt_per_departure ⟨"@warden:x"⟩ (.inMemory Sample.config) ()
    Sample.expulsion htimely).2.1
  dsimp only at hmade ⊢
  have hpast : 5000 < ((World.initial (Bot.initial ⟨"@warden:x"⟩ (.inMemory Sample.config))
      ()).after Sample.expulsion).now := by decide +kernel
  refine ⟨htimely, fun room hroom => ?_, by decide +kernel, by decide +kernel, by decide +kernel⟩
  rw [hmade (room, 5000) hpast]
  revert room
  decide +kernel

end

end RoomModeration
