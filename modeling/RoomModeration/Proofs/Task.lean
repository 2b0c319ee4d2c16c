import RoomModeration.Proofs.BanList.Warrant
import RoomModeration.Proofs.Resemblance
import RoomModeration.Proofs.Routine

/-!
# Operations in any order

In a run the operations of the bot follow each other in the ways in which events, commands and the
driver call for them. What holds however they follow each other is said of tasks: a task is whatever
can happen, or one of the operations by itself. So an eviction may come at any moment and for any
room, as it does when a sweep goes on with rooms that it had found before another task was done.

## Main definitions

* `Task` : whatever can happen, and the operations by themselves.
* `World.doing` : what several tasks lead to.
* `Anything` : the permission to do anything.

## Main results

* `does_task` : a task is a row of deeds.
* `Routine.task` : every task keeps what the parts of steps keep.
-/

namespace RoomModeration

open BotM RoomModeration.Bot

/-- What the bot can be made to do. -/
inductive Task where
  /-- Something happens. -/
  | happen (x : Happening)
  /-- It enters a room. -/
  | join (room : RoomId)
  /-- It leaves a room. -/
  | leave (room : RoomId)
  /-- It bans a member or lifts a ban. -/
  | give (a : Sanction)
  /-- It carries a ban or the lifting of one over to other rooms. -/
  | carry (a : Sanction)
  /-- It reads the modes of a record anew. -/
  | refresh (room : RoomId)
  /-- It takes up a change of membership. -/
  | observe (room : RoomId) (t : Transition)
  /-- It unites the ban lists. -/
  | reconcile
  /-- It comes back to a room. -/
  | rejoin (room : RoomId)
  /-- It learns that it is no longer in a room. -/
  | depart (room : RoomId)
  /-- It opens a welcome room. -/
  | welcome (source : RoomId) (member : MemberId)
  /-- It closes a welcome room. -/
  | evict (room : RoomId) (why : Eviction)
  /-- It closes the welcome rooms that have reached their age at a moment. -/
  | sweep (moment : Nat)

variable [Surroundings] {w : World}

/-- What a task leads to. -/
def Task.run : Task → BotM Unit
  | happen x => x.run
  | join room => discard (joinRoom room).run
  | leave room => discard (leaveRoom room).run
  | give a => discard a.give.run
  | carry a => discard a.carry
  | refresh room => Bot.refresh room
  | observe room t => observeTransition room t
  | reconcile => discard Bot.reconcile
  | rejoin room => Bot.rejoin room
  | depart room => discard (handleLeft room)
  | welcome source member => welcomeNewcomer source member
  | evict room why => discard (Bot.evict room why)
  | sweep moment => discard (Bot.sweep moment)

/-- What several tasks lead to, one after the other. -/
def World.doing (w : World) (tasks : List Task) : World :=
  tasks.foldl (fun w task => (task.run.run w).2) w

/-- What every task of several keeps, all of them keep. -/
theorem doing_invariant {I : World → Prop} {tasks : List Task}
    (hI : ∀ task ∈ tasks, Keeps I task.run) (hw : I w) : I (w.doing tasks) := by
  induction tasks generalizing w with
  | nil => exact hw
  | cons task tasks ih =>
    exact ih (fun other hother => hI other (List.mem_cons_of_mem _ hother))
      (hI task List.mem_cons_self w hw)

/-! ### Tasks as rows of deeds -/

/-- The permission to do anything. -/
def Anything : Permission where
  Allows _ _ := True
  aside _ := trivial

instance (K : Permission) : K.Within Anything where
  allows _ := trivial

/-- To have come so far by some deeds is not disturbed when nothing happens. -/
theorem undisturbed_trace (K : Permission) (w : World) : Undisturbed (Trace K w) :=
  fun _ _ h hv => hv.trans (.aside h.bot h.history)

theorem does_sweep (moment : Nat) : Does Roaming (Bot.sweep moment) := fun w =>
  keeps_sweep (undisturbed_trace Roaming w) (fun room why _ hv => hv.step (does_evict room why))
    moment w (.refl w)

theorem Series.done {l : List (Sanction × Bool)} {w' : World} (h : Series w l w') :
    Trace Anything w w' :=
  h.trace (fun _ _ => trivial) fun _ _ => trivial

theorem does_observeTransition (room : RoomId) (t : Transition) :
    Does Anything (observeTransition room t) := by
  intro w
  obtain ⟨-, halike⟩ | ⟨-, -, l, hl, -⟩ := observeTransition_cases room t w
  · exact .aside halike.bot halike.history
  · exact (trace_onStore t room w).within.trans hl.done

/-- A task is a row of deeds. -/
theorem does_task (task : Task) : Does Anything task.run := by
  cases task with
  | happen x => exact (does_warranted x).within
  | join room => exact .discard (does_joinRoom room).within
  | leave room => exact .discard (does_leaveRoom room).within
  | give a =>
    exact .discard fun w => (a.sanctioned_give w).trace (fun _ => trivial) fun _ => trivial
  | carry a =>
    refine .discard fun w => ?_
    obtain ⟨l, hl, -⟩ := carry_series a w
    exact hl.done
  | refresh room => exact (does_refresh room).within
  | observe room t => exact does_observeTransition room t
  | reconcile => exact .discard does_reconcile.within
  | rejoin room => exact (does_rejoin room).within
  | depart room => exact .discard (does_handleLeft room).within
  | welcome source member => exact (does_welcomeNewcomer source member).within
  | evict room why => exact .discard (does_evict room why).within
  | sweep moment => exact .discard (does_sweep moment).within

theorem trace_doing (w : World) (tasks : List Task) : Trace Anything w (w.doing tasks) :=
  doing_invariant (fun task _ _ hv => hv.step (does_task task)) (.refl w)

/-! ### Tasks as routine -/

theorem Likeness.give {R : World → World → Prop} (h : Likeness R) (a : Sanction) :
    Respects R a.give.run := by
  obtain ⟨room, member, reason?⟩ := a
  cases reason? with
  | some reason => exact h.banMember room member reason
  | none => exact h.unbanMember room member

theorem Likeness.carry {R : World → World → Prop} (h : Likeness R) (a : Sanction) :
    Respects R a.carry := by
  obtain ⟨room, member, reason?⟩ := a
  cases reason? with
  | some reason => exact h.propagateBan room member reason
  | none => exact h.propagateUnban room member

/-- Whether a task is an operation on rooms that opens or closes no welcome room. -/
def Task.isOfRooms : Task → Bool
  | join _ | leave _ | give _ | carry _ | refresh _ | observe .. | reconcile | rejoin _ => true
  | _ => false

theorem Likeness.task {R : World → World → Prop} (h : Likeness R) {task : Task}
    (htask : task.isOfRooms = true) : Respects R task.run := by
  cases task with
  | join room => exact .discard (h.joinRoom room)
  | leave room => exact .discard (h.leaveRoom room)
  | give a => exact .discard (h.give a)
  | carry a => exact .discard (h.carry a)
  | refresh room => exact h.refresh room
  | observe room t => exact h.observeTransition room t
  | reconcile => exact .discard h.reconcile
  | rejoin room => exact h.rejoin room
  | _ => cases htask

/-- Every task is respected, if it is when something happens and where the bot learns that it is out
of a room. -/
theorem Affinity.task {R : World → World → Prop} (h : Affinity R) {task : Task}
    (hhappen : ∀ x, task = .happen x → Respects R x.run)
    (hleft : ∀ room, Respects R (Bot.handleLeft room)) : Respects R task.run := by
  cases htask : task.isOfRooms with
  | true => exact h.toLikeness.task htask
  | false =>
    cases task with
    | happen x => exact hhappen x rfl
    | depart room => exact .discard (hleft room)
    | welcome source member => exact h.welcomeNewcomer source member
    | evict room why => exact .discard (h.evict room why)
    | sweep moment => exact .discard (h.sweep moment)
    | _ => cases htask

section

variable {I : World → Prop} (h : Routine I)

include h

/-- Every task keeps what the parts of steps keep, if it is kept where the feed is written down,
where the bot becomes ready or learns that it is out of a room, and where welcome rooms are opened
and closed. -/
theorem Routine.task (hrecord : ∀ o : Occurrence, o.call? = none → Keeps I (record o))
    (hready : ∀ readyTs, Keeps I (BotM.change fun b => { b with readyTs := readyTs }))
    (hleft : ∀ room, Keeps I (handleLeft room)) (hevict : ∀ room why, Keeps I (Bot.evict room why))
    (hwelcome : ∀ source member, Keeps I (welcomeNewcomer source member)) (task : Task) :
    Keeps I task.run := by
  cases htask : task.isOfRooms with
  | true => exact (h.likeness.task htask).keeps
  | false =>
    cases task with
    | happen x => exact h.happening hrecord hleft hevict hwelcome x fun readyTs _ => hready readyTs
    | depart room => exact .discard (hleft room)
    | welcome source member => exact hwelcome source member
    | evict room why => exact .discard (hevict room why)
    | sweep moment => exact .discard (keeps_sweep h.idle hevict moment)
    | _ => cases htask

end

end RoomModeration
