import RoomModeration.Proofs.Agenda
import RoomModeration.Proofs.Task

/-!
# What takes no time

Time passes by itself, and nothing that the bot does takes any. While it does something the clock
stands still, and what has been put off goes on waiting; and as no command changes what is decided
about welcome rooms, that stays as it is, too. Only when time passes, when timers go off and when
work is cancelled are there jobs and timers that are gone afterwards, and of course a job that is
done does not wait any more.

## Main definitions

* `Steady` : nothing of this has changed.
* `Task.isSteady` : a task is neither the passing of time nor about the jobs that wait.

## Main results

* `Steady.resemblance` : the parts of steps are steady.
* `Steady.job`, `Steady.task` : jobs are steady, and so are tasks.
-/

namespace RoomModeration

open BotM RoomModeration.Bot

variable [Surroundings] {t u v w : World} {α : Type}

/-- The clock has stood still, what was put off waits, and what is decided about welcome rooms has
not changed. -/
structure Steady (u v : World) : Prop where
  now : v.now = u.now
  ready : u.ready ⊆ v.ready
  timers : u.timers ⊆ v.timers
  welcome : v.bot.config.welcome = u.bot.config.welcome

namespace Steady

theorem refl (u : World) : Steady u u :=
  ⟨rfl, List.Subset.refl _, List.Subset.refl _, rfl⟩

theorem trans (h : Steady t u) (h' : Steady u v) : Steady t v :=
  ⟨h'.now.trans h.now, List.Subset.trans h.ready h'.ready, List.Subset.trans h.timers h'.timers,
    h'.welcome.trans h.welcome⟩

/-- What leaves the agenda and what is decided about welcome rooms as they are is steady. -/
theorem respects {step : BotM α} (hagenda : ∀ w, (step.run w).2.agenda = w.agenda)
    (hwelcome : ∀ w, (step.run w).2.bot.config.welcome = w.bot.config.welcome) :
    Respects (Alone (Steady u)) step := by
  refine Keeps.respects fun w hw => hw.trans ?_
  have hready : (step.run w).2.ready = w.ready := congrArg Agenda.ready (hagenda w)
  have htimers : (step.run w).2.timers = w.timers := congrArg Agenda.timers (hagenda w)
  exact ⟨congrArg Agenda.now (hagenda w), hready ▸ List.Subset.refl _,
    htimers ▸ List.Subset.refl _, hwelcome w⟩

theorem spawn (job : Job) : Respects (Alone (Steady u)) (BotM.spawn job) :=
  Keeps.respects fun _ hw =>
    hw.trans ⟨rfl, List.subset_append_left _ _, List.Subset.refl _, rfl⟩

theorem sleep (ms : Nat) (job : Job) : Respects (Alone (Steady u)) (BotM.sleep ms job) := by
  refine Keeps.respects fun w hw => hw.trans ?_
  rw [run_sleep]
  split
  · exact ⟨rfl, List.subset_cons_self _ _, List.Subset.refl _, rfl⟩
  · exact ⟨rfl, List.Subset.refl _, List.subset_append_left _ _, rfl⟩

theorem change {f : Bot → Bot} (hf : ∀ b, (f b).store = b.store) :
    Respects (Alone (Steady u)) (BotM.change f) :=
  respects (fun _ => rfl) fun w => congrArg (fun s => s.config.welcome) (hf w.bot)

theorem attempt (action : String) (c : Call) :
    Respects (Alone (Steady u)) (BotM.attempt action c).run := by
  refine respects (agenda_attempt action c) fun w => ?_
  obtain ⟨counters, log, hrun⟩ := run_attempt action c w
  rw [hrun]

theorem pollFeed (start : Nat) (since : Option String) (fullState : Bool) :
    Respects (Alone (Steady u)) (pollFeed start since fullState) := by
  refine Keeps.respects fun w hw => ?_
  have hrest : ∀ (answer : PollAnswer) (request : PollRequest), Keeps (Steady u) (do
      BotM.noteAll answer.notices
      BotM.record (.polled w.bot request)
      BotM.sleep answer.delayMs (.receive start since fullState answer.result)) :=
    fun answer _ => .bind (respects (fun _ => rfl) fun _ => rfl).keeps fun _ =>
      .bind (respects (fun _ => rfl) fun _ => rfl).keeps fun _ => (sleep _ _).keeps
  rw [run_pollFeed]
  exact hrest _ _ _ (hw.trans ⟨rfl, List.Subset.refl _, List.Subset.refl _, rfl⟩)

theorem likeness : Likeness (Alone (Steady u)) where
  outward hvw := congrArg (·.bot.outward) hvw.1
  noteAll _ := respects (fun _ => rfl) fun _ => rfl
  countBy _ _ _ := respects (fun _ => rfl) fun _ => rfl
  change _ _ hf := change fun b => (hf b).1
  configure _ hedit := respects (fun _ => rfl) fun w =>
    ConfigStore.welcome_update hedit w.bot.store
  call _ _ _ := respects (fun _ => rfl) fun _ => rfl
  banMember _ _ _ := .ban (respects (fun _ => rfl) fun _ => rfl)
    (fun _ => respects (fun _ => rfl) fun _ => rfl) (attempt _ _) (change fun _ => rfl)
  unbanMember _ _ := .unban (respects (fun _ => rfl) fun _ => rfl)
    (fun _ => respects (fun _ => rfl) fun _ => rfl) (attempt _ _) (change fun _ => rfl)
  spawn job _ _ := spawn job
  during activity _ _ :=
    Alone.during (fun _ _ hw => ⟨hw.now, hw.ready, hw.timers, hw.welcome⟩) activity

/-- The parts of steps are steady. -/
theorem resemblance : Resemblance (Alone (Steady u)) where
  toLikeness := likeness
  dryRun hvw := congrArg (·.bot.config.actions.dryRun) hvw.1
  clock hvw := congrArg World.now hvw.1
  starts hvw := congrArg World.starts hvw.1
  create _ := respects (fun _ => rfl) fun _ => rfl
  evicted _ := respects (fun _ => rfl) fun _ => rfl
  alter _ _ hf := change fun b => (hf b).1
  sleep ms job _ _ := sleep ms job
  restart _ := respects (fun _ => rfl) fun _ => rfl
  spawnFeed job _ := spawn job
  sleepFeed ms job _ := sleep ms job
  record _ _ := respects (fun _ => rfl) fun _ => rfl
  poll := pollFeed

theorem handleLeft (room : RoomId) : Respects (Alone (Steady u)) (handleLeft room) :=
  resemblance.handleLeft fun _ => spawn _

theorem applyBatch (batch : FeedBatch) : Respects (Alone (Steady u)) (applyBatch batch) :=
  resemblance.applyBatch handleLeft (change fun _ => rfl)

/-- Doing a job that has been taken out of the queue is steady. -/
theorem job (job : Job) (w : World) : Steady w (job.run.run w).2 :=
  (resemblance.anyJob (fun _ _ => sleep _ _) applyBatch job).keeps w (refl w)

theorem sweep (moment : Nat) (w : World) : Steady w ((Bot.sweep moment).run w).2 :=
  (resemblance.sweep moment).keeps w (refl w)

end Steady

/-- Whether a task is neither the passing of time nor about the jobs that wait. -/
def Task.isSteady : Task → Bool
  | happen (.start _) | happen (.batch _) | happen (.chat ..) => true
  | happen _ => false
  | _ => true

/-- Such a task is steady. -/
theorem Steady.task {task : Task} (htask : task.isSteady = true) (w : World) :
    Steady w (task.run.run w).2 := by
  have h : Resemblance (Alone (Steady w)) := resemblance
  have hdone : Respects (Alone (Steady w)) task.run := by
    refine h.toAffinity.task (fun x hx => ?_) handleLeft
    subst hx
    cases x with
    | start readyTs => exact h.start readyTs
    | batch arrived => exact applyBatch arrived
    | chat room sender body => exact .discard (h.receiveChat room sender body)
    | work | elapse | wake | cancel => cases htask
  exact hdone.keeps w (refl w)

end RoomModeration
