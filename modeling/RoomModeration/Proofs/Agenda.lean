import Mathlib.Data.List.Perm.Basic
import RoomModeration.Proofs.Resemblance
import RoomModeration.Proofs.Room.Joining
import RoomModeration.Proofs.Routine

/-!
# What is put off

The agenda of the bot is what it has put off, and what time it is. Almost everything that the bot
does puts off at most work that is not about coming back to a room; a property of agendas that does
not mind such work is kept by all of it.

In virtual time the clock moves only when nothing is ready, and it never moves past a moment for
which a timer is set.

## Main definitions

* `Agenda`, `World.agenda` : what is put off.
* `World.jobs` : the jobs that wait, ready or not.
* `Agenda.Punctual` : no timer is overdue.
* `Indifferent` : a property of agendas does not mind other work.
* `Happening.isTimely`, `World.timely` : runs in virtual time.
* `World.collect` : what is to be told of the happenings of a run.

## Main results

* `perm_jobs_take`, `perm_jobs_wake` : no job that waits gets lost but one whose turn it is.
* `Indifferent.resemblance` : whatever is not about coming back to rooms keeps such a property.
-/

namespace RoomModeration

open BotM RoomModeration.Bot

/-- What the bot has put off, and what time it is. -/
structure Agenda where
  /-- The time, in milliseconds. -/
  now : Nat
  /-- The jobs that are ready. -/
  ready : List Job
  /-- The jobs that wait for a moment. -/
  timers : List Timer

/-- No timer is overdue. -/
def Agenda.Punctual (a : Agenda) : Prop :=
  ∀ timer ∈ a.timers, a.now ≤ timer.deadline

/-- A property of agendas does not mind that work other than coming back to a room is put off. -/
structure Indifferent (J : Agenda → Prop) : Prop where
  behind : ∀ {a : Agenda} {job : Job}, job.isReturn = false → J a →
    J { a with ready := a.ready ++ [job] }
  before : ∀ {a : Agenda} {job : Job}, job.isReturn = false → J a →
    J { a with ready := job :: a.ready }
  later : ∀ {a : Agenda} {job : Job} {ms : Nat}, job.isReturn = false → J a →
    J { a with timers := a.timers ++ [⟨a.now + ms, job⟩] }

variable [Surroundings] {J : Agenda → Prop} {α : Type}

/-- The agenda of a world. -/
def World.agenda (w : World) : Agenda :=
  ⟨w.now, w.ready, w.timers⟩

/-! ### Virtual time -/

/-- Whether a happening is in virtual time: time passes only when nothing is ready, and not beyond
the moment of a timer. -/
def Happening.isTimely (w : World) : Happening → Bool
  | .elapse ms => w.ready.isEmpty && w.timers.all fun timer => w.now + ms ≤ timer.deadline
  | _ => true

/-- Whether several happenings are in virtual time, one after the other. -/
def World.timely (w : World) : List Happening → Bool
  | [] => true
  | x :: xs => x.isTimely w && World.timely (x.run.run w).2 xs

/-- What is to be told of several happenings, each of them in the world that it meets. -/
def World.collect (tell : World → Happening → List α) (w : World) : List Happening → List α
  | [] => []
  | x :: xs => tell w x ++ World.collect tell (x.run.run w).2 xs

/-! ### The jobs that wait -/

/-- The jobs that wait. -/
def World.jobs (w : World) : List Job :=
  w.ready ++ w.timers.map (·.job)

/-- Taking a job out of the queue leaves the others. -/
theorem perm_jobs_take {w : World} {place : Nat} {job : Job} (h : w.ready[place]? = some job) :
    (job :: ({ w with ready := w.ready.eraseIdx place } : World).jobs).Perm w.jobs := by
  obtain ⟨hplace, rfl⟩ := List.getElem?_eq_some_iff.1 h
  exact (List.getElem_cons_eraseIdx_perm hplace).append_right _

omit [Surroundings] in
/-- The timers are those that are due, in order, and those that are not. -/
theorem perm_due_later (now : Nat) (timers : List Timer) :
    (byDeadline (timers.filter (·.deadline ≤ now)) ++ timers.filter (now < ·.deadline)).Perm
      timers := by
  have hlater : timers.filter (now < ·.deadline) =
      timers.filter fun timer => !decide (timer.deadline ≤ now) := by
    refine List.filter_congr fun timer _ => ?_
    rw [← decide_not]
    exact decide_eq_decide.2 Nat.not_le.symm
  rw [hlater]
  exact ((perm_byDeadline _).append_right _).trans
    (List.filter_append_perm (fun timer : Timer => timer.deadline ≤ now) timers)

/-- Making ready what is due leaves the jobs that wait the same. -/
theorem perm_jobs_wake (w : World) : (Bot.wake.run w).2.jobs.Perm w.jobs := by
  change (w.ready ++ (byDeadline (w.timers.filter (·.deadline ≤ w.now))).map (·.job) ++
    (w.timers.filter (w.now < ·.deadline)).map (·.job)).Perm (w.ready ++ w.timers.map (·.job))
  rw [List.append_assoc, ← List.map_append]
  exact ((perm_due_later w.now w.timers).map _).append_left _

/-- Cancelling the work of the latest start takes its jobs away. -/
theorem jobs_cancel (w : World) : (Bot.cancel.run w).2.jobs =
    w.jobs.filter fun job => job.start? != some (w.starts - 1) := by
  change w.ready.filter _ ++ (w.timers.filter _).map (·.job) = _
  rw [World.jobs, List.filter_append, List.filter_map]
  rfl

/-! ### Indifference -/

/-- What leaves the agenda as it is keeps each of its properties. -/
theorem keeps_agenda {step : BotM α} (h : ∀ w, (step.run w).2.agenda = w.agenda) :
    Keeps (fun w => J w.agenda) step := by
  intro w hw
  rwa [h w]

theorem run_sleep (ms : Nat) (job : Job) (w : World) :
    ((sleep ms job).run w).2 =
      if ms = 0 then { w with ready := job :: w.ready }
      else { w with timers := w.timers ++ [⟨w.now + ms, job⟩] } := rfl

theorem agenda_attempt (action : String) (c : Call) (w : World) :
    ((attempt action c).run.run w).2.agenda = w.agenda := by
  obtain ⟨counters, log, hrun⟩ := run_attempt action c w
  rw [hrun]
  rfl

/-- Entering a room puts nothing off. -/
theorem agenda_joinRoom (room : RoomId) (w : World) :
    ((joinRoom room).run.run w).2.agenda = w.agenda := by
  have hsettle : ∀ joined v, v.agenda = w.agenda →
      ((settleIn room joined).run.run v).2.agenda = w.agenda := fun joined =>
    Keeps.bind_except (I := fun v => v.agenda = w.agenda)
      (keeps_agenda (J := (· = w.agenda)) (agenda_attempt _ _)) fun _ =>
        .bind_except (keeps_agenda (J := (· = w.agenda)) (agenda_attempt _ _)) fun _ =>
          keeps_agenda (J := (· = w.agenda)) fun _ => rfl
  have hasked := agenda_attempt "join" (.join room room.server?.toList)
    { w with activities := w.entering room }
  rw [run_joinRoom]
  rcases hrun : (attempt "join" (.join room room.server?.toList)).run.run
    { w with activities := w.entering room } with ⟨e | joined, v⟩
  · rw [hrun] at hasked
    exact hasked
  · rw [hrun] at hasked
    dsimp only
    refine hsettle joined _ ?_
    split
    · exact hasked
    · exact hasked

namespace Indifferent

variable (h : Indifferent J)

include h

theorem keeps_sleep (ms : Nat) {job : Job} (hjob : job.isReturn = false) :
    Keeps (fun w => J w.agenda) (sleep ms job) := by
  intro w hw
  rw [run_sleep]
  split
  · exact h.before hjob hw
  · exact h.later hjob hw

theorem keeps_pollFeed (start : Nat) (since : Option String) (fullState : Bool) :
    Keeps (fun w => J w.agenda) (pollFeed start since fullState) := by
  intro w hw
  have hrest : ∀ (answer : PollAnswer) (request : PollRequest), Keeps (fun w => J w.agenda) (do
      noteAll answer.notices
      record (.polled w.bot request)
      sleep answer.delayMs (.receive start since fullState answer.result)) :=
    fun answer _ => .bind (keeps_agenda fun _ => rfl) fun _ =>
      .bind (keeps_agenda fun _ => rfl) fun _ => h.keeps_sleep answer.delayMs rfl
  exact hrest _ _ { w with server := _ } hw

theorem congruence : Congruence (Alone fun w => J w.agenda) where
  bot hvw := congrArg World.bot hvw.1
  noteAll _ := (keeps_agenda fun _ => rfl).respects
  countBy _ _ _ := (keeps_agenda fun _ => rfl).respects
  change _ _ := (keeps_agenda fun _ => rfl).respects
  call _ _ := (keeps_agenda fun _ => rfl).respects
  spawn _ hjob _ := Keeps.respects fun _ hw => h.behind hjob hw
  during activity _ _ := Alone.during (fun _ _ hw => hw) activity

/-- Whatever is not about coming back to rooms keeps a property of agendas that does not mind other
work. -/
theorem resemblance : Resemblance (Alone fun w => J w.agenda) where
  toLikeness := h.congruence.likeness
  dryRun hvw := congrArg (·.bot.config.actions.dryRun) hvw.1
  clock hvw := congrArg World.now hvw.1
  starts hvw := congrArg World.starts hvw.1
  evicted _ := (keeps_agenda fun _ => rfl).respects
  alter _ _ _ := (keeps_agenda fun _ => rfl).respects
  restart _ := (keeps_agenda fun _ => rfl).respects
  record _ _ := (keeps_agenda fun _ => rfl).respects
  create _ := (keeps_agenda fun _ => rfl).respects
  sleep ms _ hjob _ := (h.keeps_sleep ms hjob).respects
  spawnFeed _ hjob := Keeps.respects fun _ hw => h.behind (Job.isReturn_of_isFeed hjob) hw
  sleepFeed ms _ hjob := (h.keeps_sleep ms (Job.isReturn_of_isFeed hjob)).respects
  poll start since fullState := (h.keeps_pollFeed start since fullState).respects

end Indifferent

end RoomModeration
