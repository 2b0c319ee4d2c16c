import RoomModeration.Proofs.Room.Ledger
import RoomModeration.Proofs.Steadiness

/-!
# How long welcome rooms live

A sweep closes the welcome rooms that have reached their age by a moment, all of them and no others,
and it counts them, whether the homeserver lets the bot leave them or not. Sweeps come at intervals:
the first of them one interval after they were begun, and each of the others one interval after the
one before it was made, even if that was made late.

So a welcome room meets a sweep within an interval after it has reached its age. What carries this
along a run is the moment for which the next sweep is put off: it is at most one interval away, and
at most an interval and the age of a welcome room after any registered one was opened. The only
exception are welcome rooms that were too old already when the sweeps were begun; the first sweep
closes them.

Sweeps go on until the work of the start is cancelled. When one is due it may still wait for its
turn, and nothing is said of the ages of welcome rooms until it has been made.

## Main definitions

* `Swept` : what a sweep comes to.
* `Tended` : what becomes of the registry in a task.
* `Watched` : a sweep is to come in time.
* `World.UpToDate` : no sweep is due.

## Main results

* `swept_sweep` : what the bot does when it sweeps.
* `tended_task` : a task registers welcome rooms that were registered or have just been opened.
* `Watched.task`, `Watched.doing` : in a task and along a run, a sweep is to come in time.
* `welcome_rooms_live_their_lifetime` : welcome rooms are closed at their age and not before.
-/

namespace RoomModeration

open BotM RoomModeration.Bot

/-- The milliseconds for which a welcome room may be open. -/
def WelcomeConfig.lifetimeMs (c : WelcomeConfig) : Nat :=
  c.lifetimeSecs * 1000

/-- The milliseconds between two sweeps. -/
def WelcomeConfig.intervalMs (c : WelcomeConfig) : Nat :=
  periodMs c.sweepSecs

theorem WelcomeConfig.intervalMs_ne_zero (c : WelcomeConfig) : c.intervalMs ≠ 0 := by
  unfold intervalMs periodMs
  omega

section

variable [Surroundings] {w u v v' : World} {number : Nat}

/-! ### Sweeping -/

/-- The welcome rooms that have reached their age at a moment are closed, so many of them, and the
others are kept. -/
structure Swept (moment : Nat) (w : World) (closed : Nat) (w' : World) : Prop where
  entries : w'.bot.welcome.entries =
    w.bot.welcome.entries.filter fun entry => entry.age moment < w.bot.config.welcome.lifetimeMs
  size : closed + w'.bot.welcome.size = w.bot.welcome.size
  timeouts : w'.evictions "timeout" = w.evictions "timeout" + closed

/-- Closing some registered welcome rooms leaves the others. -/
theorem run_evictAll {l : List WelcomeRoom} (hdistinct : (l.map (·.id)).Nodup)
    (hregistered : ∀ entry ∈ l, w.bot.welcome.contains entry.id = true) :
    ((evictAll l).run w).1 = l.length ∧
      ((evictAll l).run w).2.bot.welcome.entries =
        w.bot.welcome.entries.filter (fun entry => entry.id ∉ l.map (·.id)) ∧
      ((evictAll l).run w).2.evictions "timeout" = w.evictions "timeout" + l.length := by
  induction l generalizing w with
  | nil => exact ⟨rfl, (List.filter_eq_self.2 fun _ _ => rfl).symm, rfl⟩
  | cons entry rest ih =>
    obtain ⟨hfresh, hrest⟩ := List.nodup_cons.1 hdistinct
    obtain ⟨htrue, hclosed, -⟩ := closed_evict .timeout (hregistered entry List.mem_cons_self)
    let u := ((evict entry.id .timeout).run w).2
    have hwelcome : u.bot.welcome = w.bot.welcome.erase entry.id :=
      (congrArg Bot.welcome hclosed.bot).trans (Bot.welcome_unregister hclosed.registered)
    have hstill : ∀ other ∈ rest, u.bot.welcome.contains other.id = true := by
      intro other hother
      have hne : other.id ≠ entry.id := fun hsame =>
        hfresh (List.mem_map.2 ⟨other, hother, hsame⟩)
      rw [hwelcome, WelcomeRegistry.contains_iff, WelcomeRegistry.ids_erase]
      exact (List.mem_erase_of_ne hne).2
        (WelcomeRegistry.contains_iff.1 (hregistered other (List.mem_cons_of_mem _ hother)))
    obtain ⟨hcount, hentries, htimeouts⟩ := ih hrest hstill
    have hrun : (evictAll (entry :: rest)).run w =
        (((evictAll rest).run u).1 + 1, ((evictAll rest).run u).2) := by
      conv_lhs => unfold evictAll
      rw [run_bind, htrue]
      rfl
    rw [hrun]
    refine ⟨congrArg (· + 1) hcount, ?_, ?_⟩
    · rw [hentries, hwelcome, WelcomeRegistry.erase, List.filter_filter]
      refine List.filter_congr fun other _ => ?_
      rw [Bool.eq_iff_iff]
      simp [and_comm]
    · rw [htimeouts, hclosed.evictions, if_pos (by decide), List.length_cons, Nat.add_assoc,
        Nat.add_comm 1]

/-- Sweeping closes exactly the welcome rooms that have reached their age. -/
theorem swept_sweep (moment : Nat) (w : World) :
    Swept moment w ((Bot.sweep moment).run w).1 ((Bot.sweep moment).run w).2 := by
  let lifetime := w.bot.config.welcome.lifetimeMs
  let expired := w.bot.welcome.expired moment lifetime
  have hsub : expired.Sublist w.bot.welcome.entries := List.filter_sublist
  have hdistinct := w.bot.welcome.distinct
  obtain ⟨hcount, hentries, htimeouts⟩ := run_evictAll (w := w) (hdistinct.sublist (hsub.map _))
    fun entry hentry => WelcomeRegistry.contains_iff.2 (List.mem_map_of_mem (hsub.subset hentry))
  -- As no two entries share an identifier, those that are left are those that are young enough.
  have hleft : w.bot.welcome.entries.filter (fun entry => entry.id ∉ expired.map (·.id)) =
      w.bot.welcome.entries.filter fun entry => entry.age moment < lifetime := by
    refine List.filter_congr fun entry hentry => decide_eq_decide.2 ?_
    rw [← Nat.not_le, not_iff_not]
    constructor
    · intro hmem
      obtain ⟨other, hother, hid⟩ := List.mem_map.1 hmem
      obtain rfl : other = entry :=
        List.inj_on_of_nodup_map hdistinct (hsub.subset hother) hentry hid
      exact of_decide_eq_true (List.mem_filter.1 hother).2
    · intro hage
      exact List.mem_map_of_mem (List.mem_filter.2 ⟨hentry, decide_eq_true hage⟩)
  rw [hleft] at hentries
  have hrun : ((Bot.sweep moment).run w).1 = ((evictAll expired).run w).1 ∧
      ((Bot.sweep moment).run w).2.bot = ((evictAll expired).run w).2.bot ∧
      ((Bot.sweep moment).run w).2.counters = ((evictAll expired).run w).2.counters := by
    unfold Bot.sweep
    rw [run_bind, run_getBot, run_bind]
    dsimp only
    split
    · exact ⟨rfl, rfl, rfl⟩
    · exact ⟨rfl, rfl, rfl⟩
  obtain ⟨hresult, hbot, hcounters⟩ := hrun
  have hsplit := w.bot.welcome.entries.length_eq_length_filter_add
    fun entry => lifetime ≤ entry.age moment
  simp only [← decide_not, Nat.not_le] at hsplit
  refine ⟨by rw [hbot, hentries], ?_, ?_⟩
  · rw [hresult, hcount, WelcomeRegistry.size, hbot, hentries, WelcomeRegistry.size]
    exact hsplit.symm
  · rw [World.evictions, hcounters, hresult, hcount]
    exact htimeouts

/-! ### While no time passes -/

/-- Welcome rooms that are registered were registered before or have just been opened; and none has
been closed at its age, if that was not to happen. -/
structure Tended (patient : Prop) (w w' : World) : Prop where
  entries : ∀ entry ∈ w'.bot.welcome.entries,
    entry ∈ w.bot.welcome.entries ∨ entry.openedAt = w.now
  timeouts : patient → w'.evictions "timeout" = w.evictions "timeout"

variable {patient : Prop}

theorem Tended.refl (patient : Prop) (w : World) : Tended patient w w :=
  ⟨fun _ => .inl, fun _ => rfl⟩

/-- Whatever leaves the registry and what has been counted as closed as they are. -/
theorem Tended.of_same (h : Tended patient u v) (hwelcome : v'.bot.welcome = v.bot.welcome)
    (hevictions : v'.evictions "timeout" = v.evictions "timeout") : Tended patient u v' :=
  ⟨hwelcome ▸ h.entries, fun hpatient => hevictions.trans (h.timeouts hpatient)⟩

/-- A welcome room is closed for another reason than its age, if that was not to happen. -/
theorem Tended.closed {room : RoomId} {reason : String} (h : Tended patient u v)
    (hclosed : Closed room reason v v') (hreason : patient → reason ≠ "timeout") :
    Tended patient u v' := by
  refine ⟨fun entry hentry => ?_, fun hpatient => ?_⟩
  · rw [hclosed.bot, Bot.welcome_unregister hclosed.registered] at hentry
    exact h.entries entry (List.mem_filter.1 hentry).1
  · rw [hclosed.evictions, if_neg (hreason hpatient)]
    exact h.timeouts hpatient

theorem keeps_tended_evict {why : Eviction} (hwhy : patient → why ≠ .timeout) (room : RoomId) :
    Keeps (Tended patient u) (evict room why) := by
  intro v hv
  cases hregistered : v.bot.welcome.contains room with
  | false =>
    rw [run_evict_of_not_contains why hregistered]
    exact hv
  | true =>
    refine hv.closed (closed_evict why hregistered).2.1 fun hpatient => ?_
    cases why with
    | departure => decide
    | timeout => exact absurd rfl (hwhy hpatient)

theorem keeps_tended_handleLeft (room : RoomId) : Keeps (Tended patient u) (handleLeft room) := by
  intro v hv
  cases hregistered : v.bot.welcome.contains room with
  | false =>
    obtain ⟨hbot, -, hevictions⟩ := handleLeft_of_not_contains hregistered
    exact hv.of_same (by rw [hbot]; rfl) (hevictions _)
  | true => exact hv.closed (closed_handleLeft hregistered).1 fun _ => by decide

theorem tended_welcomeNewcomer (source : RoomId) (member : MemberId) (w : World) :
    Tended patient w ((welcomeNewcomer source member).run w).2 := by
  cases hosted_welcomeNewcomer source member w with
  | refused e bot _ evictions => exact (Tended.refl patient w).of_same (by rw [bot]) (evictions _)
  | opened room made bot _ _ evictions =>
    refine ⟨fun entry hentry => ?_, fun _ => evictions _⟩
    rw [bot] at hentry
    rcases List.mem_append.1 hentry with hold | hnew
    · exact .inl (List.mem_filter.1 hold).1
    · obtain rfl := List.mem_singleton.1 hnew
      exact .inr rfl

/-- What neither opens nor closes welcome rooms leaves the registry alone. -/
theorem routine_tended (patient : Prop) (u : World) : Routine (Tended patient u) where
  idle _ _ hidle hv := hv.of_same (congrArg Bot.welcome hidle.bot) (hidle.evictions _)
  change _ hf v hv := hv.of_same (hf v.bot).1 rfl
  call _ _ _ hv := hv.of_same rfl rfl

theorem subsists_tended (patient : Prop) (u : World) : Subsists (Tended patient u) :=
  (routine_tended patient u).subsists (fun _ _ _ hv => hv.of_same rfl rfl) keeps_tended_handleLeft

/-- Whether a job is a sweep. -/
def Job.isSweep : Job → Bool
  | sweep .. => true
  | _ => false

/-- What becomes of the registry when a job is done; if none is to be closed at its age, the job is
no sweep. -/
theorem tended_job {job : Job} (hjob : patient → job.isSweep = false) (w : World) :
    Tended patient w (job.run.run w).2 := by
  have hrefl := Tended.refl patient w
  cases hhosting : job.isHosting with
  | false => exact (subsists_tended patient w).job hhosting w hrefl
  | true =>
    cases job with
    | greet source member => exact tended_welcomeNewcomer source member w
    | closeWelcome room =>
      have hclose : Keeps (Tended patient w) (evict room .departure) :=
        keeps_tended_evict (fun _ => by decide) room
      exact hclose.discard w hrefl
    | sweep start period =>
      have himpatient : ¬patient := fun hpatient => Bool.noConfusion (hjob hpatient)
      have hidle := (routine_tended patient w).idle
      have hdone : Keeps (Tended patient w) (do
          discard <| Bot.sweep w.now
          BotM.sleep period (.sweep start period)) :=
        .bind (.discard (keeps_sweep hidle (fun room _ => keeps_tended_evict
          (fun hpatient => absurd hpatient himpatient) room) w.now)) fun _ => .sleep hidle _ _
      exact hdone w hrefl
    | _ => cases hhosting

/-- Whether a task may close welcome rooms at their age. -/
def Task.mayExpire (w : World) : Task → Bool
  | happen (.work place) => w.ready[place]?.any (·.isSweep)
  | evict _ .timeout | sweep _ => true
  | _ => false

/-- What becomes of the registry in a task; if none is to be closed at its age, the task closes none
at its age. -/
theorem tended_task {task : Task} (htask : patient → task.mayExpire w = false) :
    Tended patient w (task.run.run w).2 := by
  have hrefl := Tended.refl patient w
  have hroutine := routine_tended patient w
  have hsubsists := subsists_tended patient w
  cases hrooms : task.isOfRooms with
  | true => exact (hroutine.likeness.task hrooms).keeps w hrefl
  | false =>
    cases task with
    | happen x =>
      cases x with
      | start readyTs => exact hsubsists.start readyTs (fun _ hv => hv.of_same rfl rfl) w hrefl
      | batch arrived => exact hsubsists.batch arrived w hrefl
      | chat room sender body =>
        exact Keeps.discard (hroutine.likeness.receiveChat room sender body).keeps w hrefl
      | work place =>
        change Tended patient w ((Happening.work place).run.run w).2
        cases hplace : w.ready[place]? with
        | none => rwa [run_work_of_none hplace]
        | some job =>
          have hjob : patient → job.isSweep = false := fun hpatient => by
            simpa [Task.mayExpire, hplace] using htask hpatient
          rw [run_work_of_some hplace]
          have hdone := tended_job hjob { w with ready := w.ready.eraseIdx place }
          exact ⟨hdone.entries, hdone.timeouts⟩
      | elapse | wake | cancel => exact hrefl.of_same rfl rfl
    | depart room => exact Keeps.discard (keeps_tended_handleLeft room) w hrefl
    | welcome source member => exact tended_welcomeNewcomer source member w
    | evict room why =>
      refine Keeps.discard (keeps_tended_evict (fun hpatient hwhy => ?_) room) w hrefl
      subst hwhy
      exact Bool.noConfusion (htask hpatient)
    | sweep moment =>
      have himpatient : ¬patient := fun hpatient => Bool.noConfusion (htask hpatient)
      exact Keeps.discard (keeps_sweep hroutine.idle (fun room _ => keeps_tended_evict
        (fun hpatient => absurd hpatient himpatient) room) moment) w hrefl
    | _ => cases hrooms

/-! ### Sweeps to come -/

/-- The sweep of a start, as often as it comes. -/
def WelcomeConfig.watch (c : WelcomeConfig) (number : Nat) : Job :=
  .sweep number c.intervalMs

/-- A welcome room is too old already. -/
structure Overdue (w : World) (entry : WelcomeRoom) : Prop where
  registered : entry ∈ w.bot.welcome.entries
  old : w.bot.config.welcome.lifetimeMs < entry.age w.now

/-- Sweeps were begun in one world, and in another one the next of them is to come in time: it is
ready, or it is put off for a moment that is at most an interval away, and at most an interval and
the age of a welcome room after any registered one was opened. Welcome rooms that were too old
already when the sweeps were begun meet the first of them. -/
structure Watched (w : World) (number : Nat) (v : World) : Prop where
  welcome : v.bot.config.welcome = w.bot.config.welcome
  next : w.bot.config.welcome.watch number ∈ v.ready ∨
    ∃ moment, ⟨moment, w.bot.config.welcome.watch number⟩ ∈ v.timers ∧
      moment ≤ v.now + w.bot.config.welcome.intervalMs ∧
      ∀ entry ∈ v.bot.welcome.entries,
        moment ≤ entry.openedAt + w.bot.config.welcome.lifetimeMs +
            w.bot.config.welcome.intervalMs ∨
          Overdue w entry ∧ moment ≤ w.now + w.bot.config.welcome.intervalMs

namespace Watched

/-- When the sweeps have been begun, the first of them is an interval away. -/
theorem begin (w : World) (number : Nat) :
    Watched w number ((Job.beginSweeps number).run.run w).2 := by
  have hrun : ((Job.beginSweeps number).run.run w).2 =
      ((sleep w.bot.config.welcome.intervalMs (w.bot.config.welcome.watch number)).run w).2 := rfl
  rw [hrun, run_sleep, if_neg w.bot.config.welcome.intervalMs_ne_zero]
  refine ⟨rfl, .inr ⟨_, List.mem_append_right _ (List.mem_singleton_self _), Nat.le_refl _,
    fun entry hentry => ?_⟩⟩
  by_cases hold : w.bot.config.welcome.lifetimeMs < entry.age w.now
  · exact .inr ⟨⟨hentry, hold⟩, Nat.le_refl _⟩
  · left
    unfold WelcomeRoom.age at hold
    omega

/-- While no time passes and nothing that waits is taken away, the next sweep is still to come in
time, also for welcome rooms that have just been opened. -/
theorem steady (h : Watched w number u) (hsteady : Steady u v) (htended : Tended False u v) :
    Watched w number v := by
  refine ⟨hsteady.welcome.trans h.welcome, ?_⟩
  obtain hready | ⟨moment, htimer, hsoon, hentries⟩ := h.next
  · exact .inl (hsteady.ready hready)
  · refine .inr ⟨moment, hsteady.timers htimer, hsteady.now ▸ hsoon, fun entry hentry => ?_⟩
    obtain hold | hnew := htended.entries entry hentry
    · exact hentries entry hold
    · left
      omega

/-- When the sweep has been made, the next one is an interval away, and no welcome room is left that
will be too old by then. -/
theorem watch (hwelcome : u.bot.config.welcome = w.bot.config.welcome) :
    Watched w number ((w.bot.config.welcome.watch number).run.run u).2 := by
  let swept := ((Bot.sweep u.now).run u).2
  have hswept := swept_sweep u.now u
  have hsteady : Steady u swept := Steady.sweep u.now u
  have hrun : ((w.bot.config.welcome.watch number).run.run u).2 =
      ((sleep w.bot.config.welcome.intervalMs (w.bot.config.welcome.watch number)).run swept).2 :=
    rfl
  rw [hrun, run_sleep, if_neg w.bot.config.welcome.intervalMs_ne_zero]
  refine ⟨hsteady.welcome.trans hwelcome, .inr ⟨_, List.mem_append_right _
    (List.mem_singleton_self _), Nat.le_refl _, fun entry hentry => .inl ?_⟩⟩
  have hmem : entry ∈ swept.bot.welcome.entries := hentry
  rw [hswept.entries, hwelcome] at hmem
  have hyoung : entry.age u.now < w.bot.config.welcome.lifetimeMs :=
    of_decide_eq_true (List.mem_filter.1 hmem).2
  have hnow : swept.now = u.now := hsteady.now
  unfold WelcomeRoom.age at hyoung
  omega

/-- Taking another job out of the queue leaves the sweep. -/
theorem take (h : Watched w number v) {place : Nat} {job : Job}
    (hplace : v.ready[place]? = some job) (hother : job ≠ w.bot.config.welcome.watch number) :
    Watched w number { v with ready := v.ready.eraseIdx place } := by
  refine ⟨h.welcome, h.next.imp_left fun hready => ?_⟩
  obtain ⟨hlt, rfl⟩ := List.getElem?_eq_some_iff.1 hplace
  have hmem := (List.getElem_cons_eraseIdx_perm hlt).mem_iff.2 hready
  exact (List.mem_cons.1 hmem).resolve_left fun hsame => hother hsame.symm

theorem work (h : Watched w number v) (place : Nat) :
    Watched w number ((Happening.work place).run.run v).2 := by
  cases hplace : v.ready[place]? with
  | none => rwa [run_work_of_none hplace]
  | some job =>
    rw [run_work_of_some hplace]
    by_cases hwatch : job = w.bot.config.welcome.watch number
    · subst hwatch
      exact watch h.welcome
    · exact (h.take hplace hwatch).steady (Steady.job job _) (tended_job False.elim _)

theorem elapse (h : Watched w number v) (ms : Nat) :
    Watched w number { v with now := v.now + ms } := by
  refine ⟨h.welcome, h.next.imp_right ?_⟩
  rintro ⟨moment, htimer, hsoon, hentries⟩
  refine ⟨moment, htimer, ?_, hentries⟩
  dsimp only
  omega

/-- A sweep whose moment has come becomes ready. -/
theorem wake (h : Watched w number v) : Watched w number (Bot.wake.run v).2 := by
  refine ⟨h.welcome, ?_⟩
  obtain hready | ⟨moment, htimer, hsoon, hentries⟩ := h.next
  · exact .inl (List.mem_append_left _ hready)
  · by_cases hdue : moment ≤ v.now
    · left
      refine List.mem_append_right _ (List.mem_map.2 ⟨⟨moment, _⟩, ?_, rfl⟩)
      exact (perm_byDeadline _).mem_iff.2 (List.mem_filter.2 ⟨htimer, decide_eq_true hdue⟩)
    · exact .inr ⟨moment, List.mem_filter.2 ⟨htimer, decide_eq_true (Nat.not_le.1 hdue)⟩, hsoon,
        hentries⟩

/-- Only a cancellation ends the sweeps. -/
theorem task (h : Watched w number v) {task : Task} (htask : task ≠ .happen .cancel) :
    Watched w number (task.run.run v).2 := by
  cases hsteady : task.isSteady with
  | true => exact h.steady (Steady.task hsteady v) (tended_task False.elim)
  | false =>
    cases task with
    | happen x =>
      cases x with
      | start | batch | chat => cases hsteady
      | work place => exact h.work place
      | elapse ms => exact h.elapse ms
      | wake => exact h.wake
      | cancel => exact absurd rfl htask
    | _ => cases hsteady

/-- Along a run without cancellations, the next sweep is always to come in time. -/
theorem doing (h : Watched w number v) {tasks : List Task}
    (htasks : ∀ task ∈ tasks, task ≠ .happen .cancel) : Watched w number (v.doing tasks) :=
  doing_invariant (I := Watched w number) (fun task htask _ hv => hv.task (htasks task htask)) h

end Watched

/-- No sweep is due: none is ready, and the timers of all of them are set for later. -/
def World.UpToDate (v : World) (watch : Job) : Prop :=
  watch ∉ v.ready ∧ ∀ timer ∈ v.timers, timer.job = watch → v.now < timer.deadline

/-- When no sweep is due, a welcome room is not older than it may be by more than an interval. -/
theorem Watched.age_lt (h : Watched w number v)
    (hdone : v.UpToDate (w.bot.config.welcome.watch number)) {entry : WelcomeRoom}
    (hentry : entry ∈ v.bot.welcome.entries) :
    entry.age v.now < w.bot.config.welcome.lifetimeMs + w.bot.config.welcome.intervalMs ∨
      Overdue w entry ∧ v.now < w.now + w.bot.config.welcome.intervalMs := by
  obtain hready | ⟨moment, htimer, -, hentries⟩ := h.next
  · exact absurd hready hdone.1
  · have hlater : v.now < moment := hdone.2 _ htimer rfl
    refine (hentries entry hentry).imp (fun hsoon => ?_) fun hold => ⟨hold.1, by omega⟩
    have hpos := Nat.pos_of_ne_zero w.bot.config.welcome.intervalMs_ne_zero
    unfold WelcomeRoom.age
    omega

theorem Watched.watch_mem_jobs (h : Watched w number v) :
    w.bot.config.welcome.watch number ∈ v.jobs := by
  obtain hready | ⟨moment, htimer, -⟩ := h.next
  · exact List.mem_append_left _ hready
  · exact List.mem_append_right _ (List.mem_map.2 ⟨⟨moment, _⟩, htimer, rfl⟩)

/-! ### Closing at their age -/

/-- Doing the job of a sweep is sweeping at the moment when it is done. -/
theorem swept_work {place start period : Nat}
    (hplace : v.ready[place]? = some (.sweep start period)) :
    ∃ closed, Swept v.now v closed ((Happening.work place).run.run v).2 := by
  let u : World := { v with ready := v.ready.eraseIdx place }
  have hswept := swept_sweep v.now u
  have hrun : ((Happening.work place).run.run v).2 =
      ((sleep period (.sweep start period)).run ((Bot.sweep v.now).run u).2).2 :=
    run_work_of_some hplace
  rw [hrun, run_sleep]
  split
  · exact ⟨_, hswept.entries, hswept.size, hswept.timeouts⟩
  · exact ⟨_, hswept.entries, hswept.size, hswept.timeouts⟩

/-- Whether a task leaves it to the sweeps to close welcome rooms at their age. -/
def Task.isPatient : Task → Bool
  | evict _ .timeout | sweep _ => false
  | _ => true

/-- If it is left to the sweeps, only a sweep closes welcome rooms at their age. -/
theorem timeouts_task {task : Task} (htask : task.isPatient = true) (v : World) :
    (task.run.run v).2.evictions "timeout" = v.evictions "timeout" ∨
      ∃ closed, Swept v.now v closed (task.run.run v).2 := by
  cases hmay : task.mayExpire v with
  | false => exact .inl ((tended_task fun _ : True => hmay).timeouts trivial)
  | true =>
    right
    unfold Task.mayExpire at hmay
    split at hmay
    · next place =>
      cases hplace : v.ready[place]? with
      | none => simp [hplace] at hmay
      | some job =>
        rw [hplace] at hmay
        cases job with
        | sweep start period => exact swept_work hplace
        | _ => cases hmay
    · cases htask
    · cases htask
    · cases hmay

/-- Sweeping at a moment closes the welcome rooms that have reached their age by then, all of them
and no others, and counts them, whatever the homeserver answers. Once sweeps have been begun, what
is decided about welcome rooms stays as it is, and a next sweep always waits, until the work is
cancelled. If it is left to the sweeps to close welcome rooms at their age, nothing else does so,
whatever is done, and each of them sweeps at the moment when it is made. And whenever no sweep is
due, each registered welcome room is younger than the age that it may reach and an interval
together, unless it was too old already when the sweeps were begun and the first of them is still to
come. -/
theorem welcome_rooms_live_their_lifetime :
    (∀ (w : World) (moment : Nat),
      Swept moment w ((Bot.sweep moment).run w).1 ((Bot.sweep moment).run w).2) ∧
    ∀ (w : World) (number : Nat) (tasks : List Task),
      (∀ task ∈ tasks, task ≠ .happen .cancel) →
        let welcome := w.bot.config.welcome
        let v := ((Job.beginSweeps number).run.run w).2.doing tasks
        v.bot.config.welcome = welcome ∧ welcome.watch number ∈ v.jobs ∧
        (∀ task : Task, task.isPatient = true →
          (task.run.run v).2.evictions "timeout" = v.evictions "timeout" ∨
            ∃ closed, Swept v.now v closed (task.run.run v).2) ∧
        (v.UpToDate (welcome.watch number) → ∀ entry ∈ v.bot.welcome.entries,
          entry.age v.now < welcome.lifetimeMs + welcome.intervalMs ∨
            Overdue w entry ∧ v.now < w.now + welcome.intervalMs) := by
  refine ⟨fun w moment => swept_sweep moment w, fun w number tasks htasks => ?_⟩
  have hwatched := (Watched.begin w number).doing htasks
  exact ⟨hwatched.welcome, hwatched.watch_mem_jobs, fun task htask => timeouts_task htask _,
    fun hdone entry hentry => hwatched.age_lt hdone hentry⟩

end

/-! ### A welcome room and its sweeps -/

namespace Sample

/-- A welcome room is opened when the sweeps have just been begun. Almost an hour later the first
sweep is made, and a minute after it the second. -/
def vigil : List Task :=
  [.welcome lobby bob, .happen (.elapse 3500000), .happen .wake, .happen (.work 0),
    .happen (.elapse 60000), .happen .wake, .happen (.work 0)]

/-- After another minute the third sweep is ready. -/
def vigilant : List Task :=
  vigil ++ [.happen (.elapse 60000), .happen .wake]

end Sample

section

attribute [local instance] Sample.surroundings

/-- Forty seconds before its hour is over the room is still open, and no sweep is due; twenty
seconds after it the third sweep closes it. -/
theorem parlour_closed_by_third_sweep :
    let w : World := World.initial (Bot.initial ⟨"@warden:x"⟩ (.inMemory Sample.hospitable)) ()
    let w₀ := ((Job.beginSweeps 0).run.run w).2
    let v := w₀.doing Sample.vigil
    let v' := w₀.doing Sample.vigilant
    let swept := ((Happening.work 0).run.run v').2
    (∀ task ∈ Sample.vigil ++ Sample.vigilant, task ≠ .happen .cancel) ∧
      v.now = 3560000 ∧ v.bot.welcome.contains Sample.parlour = true ∧
      v.UpToDate (w.bot.config.welcome.watch 0) ∧
      (∀ entry ∈ v.bot.welcome.entries, entry.age v.now < 3660000) ∧
      (Task.happen (.work 0)).isPatient = true ∧
      (∃ closed, Swept v'.now v' closed swept) ∧
      swept.bot.welcome.contains Sample.parlour = false := by
  intro w w₀ v v' swept
  have hvigil : ∀ task ∈ Sample.vigil, task ≠ .happen .cancel := by simp [Sample.vigil]
  have hvigilant : ∀ task ∈ Sample.vigilant, task ≠ .happen .cancel := by
    simp [Sample.vigilant, Sample.vigil]
  have hv : ((Job.beginSweeps 0).run.run w).2.doing Sample.vigil = v := rfl
  have hlives := (welcome_rooms_live_their_lifetime.2 w 0 Sample.vigil hvigil).2.2.2
  have hcloses := (welcome_rooms_live_their_lifetime.2 w 0 Sample.vigilant hvigilant).2.2.1
  have hready : v.ready = [] := List.isEmpty_iff.1 (by decide +kernel)
  have htimers : (v.timers.all fun timer => v.now < timer.deadline) = true := by decide +kernel
  have hdone : v.UpToDate (w.bot.config.welcome.watch 0) :=
    ⟨hready ▸ List.not_mem_nil, fun timer htimer _ =>
      of_decide_eq_true (List.all_eq_true.1 htimers timer htimer)⟩
  have hbound : w.bot.config.welcome.lifetimeMs + w.bot.config.welcome.intervalMs = 3660000 := by
    decide +kernel
  have hcounted : swept.evictions "timeout" ≠ v'.evictions "timeout" := by decide +kernel
  have hyoung : ∀ entry ∈ v.bot.welcome.entries, entry.age v.now < 3660000 := by
    intro entry hentry
    rw [hv, hbound] at hlives
    refine (hlives hdone entry hentry).resolve_right fun hold => ?_
    exact absurd hold.1.registered List.not_mem_nil
  exact ⟨fun task htask => (List.mem_append.1 htask).elim (hvigil task) (hvigilant task),
    by decide +kernel, by decide +kernel, hdone, hyoung, rfl,
    (hcloses (.happen (.work 0)) rfl).resolve_left hcounted, by decide +kernel⟩

end

end RoomModeration
