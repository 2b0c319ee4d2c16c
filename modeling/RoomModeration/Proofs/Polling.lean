import RoomModeration.Proofs.Room.Absence

/-!
# Reading the feed

The bot reads the feed by polling: it asks for what there is since a cursor, waits for the answer,
applies the batch if there is one, and asks again. A poll that fails changes neither the cursor nor
whether the full state is asked for, and a batch without a cursor leaves the cursor where it was.

What is read is compared with what the homeserver has answered to the polls, whatever that is. The
steps of reading that the history tells of are determined by these results: each of them is taken
once and in order, and each poll asks as the results before it demand. When all of a batch has been
applied, the bot notes where it has come to; what it has noted when it polls shows that there is
nothing left of the batches before. Between the polls anything else may happen. The work of the
start may also be cancelled, and then the feed is not read any further; a result that is on its way
at that moment is lost.

Nothing is said of two starts that read at the same time, nor of batches that come from elsewhere
than the feed.

## Main definitions

* `FeedStep`, `World.feed` : the steps of reading that the history tells of.
* `resumption?`, `reached?` : where the feed is read on, and where the bot has come to.
* `course` : the steps that some results of polls lead to.
* `FeedProgress`, `World.progress` : how far the bot is with reading.
* `Proceeds` : what comes next when a job of reading has been done.
* `Happening.polled`, `Turn` : what the homeserver answers when it is polled, and what a happening
  does to the progress.
* `Polling` : the progress that some results of polls lead to.

## Main results

* `progress_job` : a job that is not about reading the feed leaves the progress as it is.
* `progress_applyBatch` : applying a batch, the bot comes to its cursor.
* `proceeds_job`, `turn_happening` : the progress in one step.
* `polling_after` : the progress along a run.
* `feed_read_through` : the feed is read without gaps or repeats.
-/

namespace RoomModeration

open BotM RoomModeration.Bot

/-! ### Results -/

/-- What comes of a poll. -/
abbrev PollResult := Except ActionError FeedBatch

/-- The cursors of the batches among some results of polls, in order. -/
def cursors (results : List PollResult) : List String :=
  results.filterMap fun result => result.toOption.map FeedBatch.nextBatch

/-- Where the feed is read on after some results: at the latest cursor that is not empty. -/
def resumption? (results : List PollResult) : Option String :=
  ((cursors results).filter (· ≠ "")).getLast?

/-- Where the bot has come to after some results: to the latest cursor, be it empty or not. -/
def reached? (begun : Option String) (results : List PollResult) : Option String :=
  (cursors results).getLast?.or begun

/-- Whether no poll has succeeded. -/
def noneSucceeded (results : List PollResult) : Bool :=
  !results.any Except.isOk

/-- A step of reading the feed. -/
inductive FeedStep where
  /-- The bot asks, when it has come so far, for what there is since a cursor. -/
  | asked (reached since : Option String) (fullState : Bool)
  /-- The answer arrives. -/
  | answered (result : PollResult)
  /-- A batch is applied. -/
  | applied (batch : FeedBatch)

/-- The step of reading that an occurrence is, if it is one. -/
def Occurrence.feedStep? : Occurrence → Option FeedStep
  | called .. => none
  | polled before request => some (.asked before.cursor request.since request.fullState)
  | answered result => some (.answered result)
  | applied batch => some (.applied batch)

/-- How the feed is asked after some results. -/
def asking (begun : Option String) (earlier : List PollResult) : FeedStep :=
  .asked (reached? begun earlier) (resumption? earlier) (noneSucceeded earlier)

/-- What is done with a result. -/
def taking : PollResult → List FeedStep
  | .ok batch => [.answered (.ok batch), .applied batch]
  | .error e => [.answered (.error e)]

/-- The steps that some results of polls lead to after earlier ones: for each of them the feed is
asked, and then the result is taken. -/
def course (begun : Option String) (earlier : List PollResult) : List PollResult → List FeedStep
  | [] => []
  | result :: rest =>
    asking begun earlier :: taking result ++ course begun (earlier ++ [result]) rest

section

variable {begun : Option String} (earlier results : List PollResult)

@[simp] theorem cursors_append_ok (batch : FeedBatch) :
    cursors (results ++ [.ok batch]) = cursors results ++ [batch.nextBatch] := by
  rw [cursors, List.filterMap_append]
  rfl

@[simp] theorem cursors_append_error (e : ActionError) :
    cursors (results ++ [.error e]) = cursors results := by
  rw [cursors, List.filterMap_append]
  exact List.append_nil _

theorem resumption?_append_ok (batch : FeedBatch) : resumption? (results ++ [.ok batch]) =
    if batch.nextBatch = "" then resumption? results else some batch.nextBatch := by
  rw [resumption?, cursors_append_ok, List.filter_append]
  by_cases hempty : batch.nextBatch = ""
  · simp [hempty, resumption?]
  · simp [hempty]

@[simp] theorem resumption?_append_error (e : ActionError) :
    resumption? (results ++ [.error e]) = resumption? results := by
  simp only [resumption?, cursors_append_error]

@[simp] theorem reached?_append_ok (batch : FeedBatch) :
    reached? begun (results ++ [.ok batch]) = some batch.nextBatch := by
  simp [reached?]

@[simp] theorem reached?_append_error (e : ActionError) :
    reached? begun (results ++ [.error e]) = reached? begun results := by
  simp only [reached?, cursors_append_error]

@[simp] theorem noneSucceeded_append_ok (batch : FeedBatch) :
    noneSucceeded (results ++ [.ok batch]) = false := by
  simp [noneSucceeded, Except.isOk, Except.toBool]

@[simp] theorem noneSucceeded_append_error (e : ActionError) :
    noneSucceeded (results ++ [.error e]) = noneSucceeded results := by
  simp [noneSucceeded, Except.isOk, Except.toBool]

/-- One result more leads to one poll more. -/
theorem course_append (last : PollResult) : course begun earlier (results ++ [last]) =
    course begun earlier results ++ asking begun (earlier ++ results) :: taking last := by
  induction results generalizing earlier with
  | nil => simp [course]
  | cons result rest ih => simp [course, ih]

end

/-! ### Progress -/

/-- How far the bot is with reading the feed. -/
structure FeedProgress where
  /-- The jobs of reading that wait. -/
  jobs : List Job
  /-- The steps of reading that the history tells of, in order. -/
  steps : List FeedStep
  /-- Where the bot has come to. -/
  reached : Option String

section

variable [Surroundings] {w v w' : World} {p begun : FeedProgress} {number : Nat}
  {results : List PollResult}

/-- The steps of reading that the history tells of, in order. -/
def World.feed (w : World) : List FeedStep :=
  (w.history.filterMap Occurrence.feedStep?).reverse

/-- How far the bot is with reading the feed. -/
def World.progress (w : World) : FeedProgress where
  jobs := w.jobs.filter Job.isFeed
  steps := w.feed
  reached := w.bot.cursor

/-- What does not touch the progress keeps it. -/
theorem keeps_of_progress {α : Type} {step : BotM α}
    (h : ∀ w, (step.run w).2.progress = w.progress) : Keeps (·.progress = p) step :=
  fun w hw => (h w).trans hw

theorem progress_of_jobs {jobs : List Job} (hjobs : w'.jobs.filter Job.isFeed = jobs)
    (hhistory : w'.history = w.history) (hcursor : w'.bot.cursor = w.bot.cursor) :
    w'.progress = { w.progress with jobs := jobs } := by
  simp only [World.progress, World.feed, hjobs, hhistory, hcursor]

theorem progress_spawn (job : Job) (hjob : job.isFeed = false) (w : World) :
    ((spawn job).run w).2.progress = w.progress := by
  refine progress_of_jobs ?_ rfl rfl
  change ((w.ready ++ [job]) ++ w.timers.map (·.job)).filter Job.isFeed = _
  simp [World.jobs, hjob]

theorem progress_sleep {job : Job} (hjob : job.isFeed = false) (ms : Nat) (w : World) :
    ((sleep ms job).run w).2.progress = w.progress := by
  rw [run_sleep]
  split
  · refine progress_of_jobs ?_ rfl rfl
    change ((job :: w.ready) ++ w.timers.map (·.job)).filter Job.isFeed = _
    simp [World.jobs, hjob]
  · refine progress_of_jobs ?_ rfl rfl
    change (w.ready ++ (w.timers ++ [Timer.mk _ job]).map (·.job)).filter Job.isFeed = _
    simp [World.jobs, hjob]

theorem congruence_progress (p : FeedProgress) : Congruence (Alone (·.progress = p)) where
  bot hvw := congrArg World.bot hvw.1
  noteAll _ := (keeps_of_progress fun _ => rfl).respects
  countBy _ _ _ := (keeps_of_progress fun _ => rfl).respects
  change f hf := by
    refine (keeps_of_progress fun w => ?_).respects
    change FeedProgress.mk w.progress.jobs w.progress.steps (f w.bot).cursor = w.progress
    rw [(hf w.bot).2.2]
    rfl
  call _ _ := (keeps_of_progress fun _ => rfl).respects
  spawn _ _ hfeed := (keeps_of_progress (progress_spawn _ hfeed)).respects
  during activity _ _ := Alone.during (fun _ _ hw => hw) activity

theorem affinity_progress (p : FeedProgress) : Affinity (Alone (·.progress = p)) where
  toLikeness := (congruence_progress p).likeness
  dryRun hvw := congrArg (·.bot.config.actions.dryRun) hvw.1
  clock hvw := congrArg World.now hvw.1
  create _ := (keeps_of_progress fun _ => rfl).respects
  evicted _ := (keeps_of_progress fun _ => rfl).respects
  alter f _ hf := by
    refine (keeps_of_progress fun w => ?_).respects
    change FeedProgress.mk w.progress.jobs w.progress.steps (f w.bot).cursor = w.progress
    rw [(hf w.bot).2]
    rfl
  sleep ms _ _ hfeed := (keeps_of_progress (progress_sleep hfeed ms)).respects

/-- Jobs that are not about reading the feed leave the progress as it is. -/
theorem progress_job {job : Job} (hjob : job.isFeed = false) (w : World) :
    (job.run.run w).2.progress = w.progress := by
  have h := affinity_progress w.progress
  cases hreturn : job.isReturn with
  | false => exact (h.chore hreturn hjob).keeps w rfl
  | true =>
    cases job with
    | awaitRejoin room delay => exact progress_sleep rfl _ w
    | rejoin room => exact (h.rejoin room).keeps w rfl
    | _ => cases hreturn

/-! ### Batches -/

theorem progress_handleLeft (room : RoomId) (w : World) :
    ((handleLeft room).run w).2.progress = w.progress :=
  ((affinity_progress w.progress).handleLeft fun _ =>
    (keeps_of_progress (progress_spawn _ rfl)).respects).keeps w rfl

/-- What a batch brings for the joined rooms is not about the feed. -/
theorem progress_beginBatch (batch : FeedBatch) (w : World) :
    ((beginBatch batch).run w).2.progress = w.progress := by
  have h := affinity_progress w.progress
  have hbegin : Respects (Alone (·.progress = w.progress)) (beginBatch batch) :=
    .bind (h.count _ nofun) fun _ => .bind (h.countBy _ _ nofun) fun _ =>
      .first_if (h.note _) fun _ => .each fun entry _ => h.applyRoom _ _
  exact hbegin.keeps w rfl

/-- Applying a batch, the bot comes to its cursor, and nothing else of the progress is touched. -/
theorem progress_applyBatch (batch : FeedBatch) (w : World) :
    ((applyBatch batch).run w).2.progress =
      { w.progress with
        steps := w.progress.steps ++ [.applied batch]
        reached := some batch.nextBatch } := by
  let written : World := { w with
    history := .applied batch :: w.history
    activities := w.activities ++ [.syncBatch batch.nextBatch] }
  have hdealt : ∀ v : World, ((batch.left.toList.forM fun room => discard (handleLeft room)).run
      v).2.progress = v.progress := fun v => Keeps.forM (I := (·.progress = v.progress))
    (fun room _ => .discard (keeps_of_progress (progress_handleLeft room))) v rfl
  have hall := (hdealt (w.facing batch)).trans (progress_beginBatch batch written)
  rw [run_applyBatch]
  generalize ((batch.left.toList.forM fun room => discard (handleLeft room)).run
    (w.facing batch)).2 = dealt at hall ⊢
  change FeedProgress.mk dealt.progress.jobs dealt.progress.steps (some batch.nextBatch) = _
  rw [hall]
  change FeedProgress.mk w.progress.jobs written.feed (some batch.nextBatch) = _
  rw [World.feed, List.filterMap_cons]
  simp only [Occurrence.feedStep?, List.reverse_cons]
  rfl

/-! ### Jobs of reading -/

theorem filter_eq_nil_of_progress (hnone : w.progress.jobs = []) :
    w.ready.filter Job.isFeed = [] ∧ (w.timers.map (·.job)).filter Job.isFeed = [] :=
  List.append_eq_nil_iff.1 ((List.filter_append _ _).symm.trans hnone)

/-- Putting off the only job of reading that waits. -/
theorem progress_spawn_feed {job : Job} (hjob : job.isFeed = true)
    (hnone : w.progress.jobs = []) :
    ((spawn job).run w).2.progress = { w.progress with jobs := [job] } := by
  obtain ⟨hready, htimers⟩ := filter_eq_nil_of_progress hnone
  refine progress_of_jobs ?_ rfl rfl
  change ((w.ready ++ [job]) ++ w.timers.map (·.job)).filter Job.isFeed = [job]
  rw [List.filter_append, List.filter_append, hready, htimers, List.filter_cons_of_pos hjob]
  rfl

theorem progress_sleep_feed {job : Job} (hjob : job.isFeed = true) (ms : Nat)
    (hnone : w.progress.jobs = []) :
    ((sleep ms job).run w).2.progress = { w.progress with jobs := [job] } := by
  obtain ⟨hready, htimers⟩ := filter_eq_nil_of_progress hnone
  rw [run_sleep]
  split
  · refine progress_of_jobs ?_ rfl rfl
    change ((job :: w.ready) ++ w.timers.map (·.job)).filter Job.isFeed = [job]
    rw [List.filter_append, List.filter_cons_of_pos hjob, hready, htimers]
    rfl
  · refine progress_of_jobs ?_ rfl rfl
    change (w.ready ++ (w.timers ++ [Timer.mk _ job]).map (·.job)).filter Job.isFeed = [job]
    rw [List.map_append, List.filter_append, List.filter_append, hready, htimers]
    exact List.filter_cons_of_pos hjob

/-- Writing something down that the feed has brought. -/
theorem progress_record (o : Occurrence) (w : World) :
    ((record o).run w).2.progress =
      { w.progress with steps := w.progress.steps ++ o.feedStep?.toList } := by
  change FeedProgress.mk w.progress.jobs
    ((o :: w.history).filterMap Occurrence.feedStep?).reverse w.progress.reached = _
  rw [List.filterMap_cons]
  cases o.feedStep? with
  | none => simp [World.progress, World.feed]
  | some step => simp [World.progress, World.feed]

/-- What the homeserver answers if a job polls it. -/
def Job.polled (w : World) : Job → List PollResult
  | poll _ since fullState =>
    [(Surroundings.homeserver.poll ⟨since, w.bot.config.bot.syncTimeoutMs, fullState⟩
      w.server).1.result]
  | _ => []

/-- What comes next when the job of reading that waited has been done. -/
inductive Proceeds (p : FeedProgress) : Job → List PollResult → FeedProgress → Prop
  /-- The feed is asked from its beginning. -/
  | begun (number : Nat) :
      Proceeds p (.beginFeed number) [] { p with jobs := [.poll number none true] }
  /-- The feed has been asked, and the answer is on its way. -/
  | asked (number : Nat) (since : Option String) (fullState : Bool) (result : PollResult) :
      Proceeds p (.poll number since fullState) [result]
        { p with
          jobs := [.receive number since fullState result]
          steps := p.steps ++ [.asked p.reached since fullState] }
  /-- A batch has been applied, and the feed is asked for the next one. -/
  | applied (number : Nat) (since : Option String) (fullState : Bool) (batch : FeedBatch) :
      Proceeds p (.receive number since fullState (.ok batch)) []
        { jobs :=
            [.poll number (if batch.nextBatch = "" then since else some batch.nextBatch) false]
          steps := p.steps ++ [.answered (.ok batch), .applied batch]
          reached := some batch.nextBatch }
  /-- The poll has failed, and it is tried again. -/
  | failed (number : Nat) (since : Option String) (fullState : Bool) (e : ActionError) :
      Proceeds p (.receive number since fullState (.error e)) []
        { p with
          jobs := [.poll number since fullState]
          steps := p.steps ++ [.answered (.error e)] }

theorem proceeds_poll (number : Nat) (since : Option String) (fullState : Bool)
    (hnone : w.progress.jobs = []) :
    let job : Job := .poll number since fullState
    Proceeds w.progress job (job.polled w) (job.run.run w).2.progress := by
  intro job
  let request : PollRequest := ⟨since, w.bot.config.bot.syncTimeoutMs, fullState⟩
  let polled := Surroundings.homeserver.poll request w.server
  let noted : World := ((noteAll polled.1.notices).run { w with server := polled.2 }).2
  let asked : World := ((record (.polled w.bot request)).run noted).2
  have hasked : asked.progress = _ := progress_record (.polled w.bot request) noted
  have hdone : (job.run.run w).2.progress =
      { asked.progress with jobs := [.receive number since fullState polled.1.result] } :=
    progress_sleep_feed rfl polled.1.delayMs ((congrArg FeedProgress.jobs hasked).trans hnone)
  rw [hdone, hasked]
  exact .asked number since fullState polled.1.result

theorem proceeds_receive (number : Nat) (since : Option String) (fullState : Bool)
    (result : PollResult) (hnone : w.progress.jobs = []) :
    let job : Job := .receive number since fullState result
    Proceeds w.progress job (job.polled w) (job.run.run w).2.progress := by
  intro job
  let answered : World := ((record (.answered result)).run w).2
  have hanswered : answered.progress = _ := progress_record (.answered result) w
  cases result with
  | ok batch =>
    let applied : World := ((applyBatch batch).run answered).2
    have happlied : applied.progress = _ := progress_applyBatch batch answered
    rw [hanswered] at happlied
    have hdone : (job.run.run w).2.progress =
        { applied.progress with jobs := [.poll number
          (if batch.nextBatch = "" then since else some batch.nextBatch) false] } :=
      progress_sleep_feed rfl 0 ((congrArg FeedProgress.jobs happlied).trans hnone)
    rw [hdone, happlied, List.append_assoc]
    exact .applied number since fullState batch
  | error e =>
    let noted : World := ((do
      count (.actionFailures "sync" e.code)
      note (.pollFailed e (← getConfig).bot.pollRetrySecs) : BotM Unit).run answered).2
    have hdone : (job.run.run w).2.progress =
        { noted.progress with jobs := [.poll number since fullState] } :=
      progress_sleep_feed rfl _ ((congrArg FeedProgress.jobs hanswered).trans hnone)
    have hnoted : noted.progress = answered.progress := rfl
    rw [hdone, hnoted, hanswered]
    exact .failed number since fullState e

/-- The only job of reading that waits is done, and the next one is put off. -/
theorem proceeds_job {job : Job} (hjob : job.isFeed = true) (hnone : w.progress.jobs = []) :
    Proceeds w.progress job (job.polled w) (job.run.run w).2.progress := by
  cases job with
  | beginFeed number =>
    have hdone : ((Job.beginFeed number).run.run w).2.progress =
        { w.progress with jobs := [.poll number none true] } :=
      progress_sleep_feed (w := ((note .feedStarted).run w).2) rfl 0 hnone
    rw [hdone]
    exact .begun number
  | poll number since fullState => exact proceeds_poll number since fullState hnone
  | receive number since fullState result =>
    exact proceeds_receive number since fullState result hnone
  | _ => cases hjob

/-! ### Happenings -/

/-- What the homeserver answers if it is polled. -/
def Happening.polled (w : World) : Happening → List PollResult
  | .work place => w.ready[place]?.toList.flatMap (Job.polled w)
  | _ => []

/-- Whether a happening begins to read the feed anew, or brings a batch that the feed has not
brought. -/
def Happening.isIntake : Happening → Bool
  | .start _ | .batch _ => true
  | _ => false

/-- What a happening does to the progress. -/
inductive Turn (x : Happening) (w w' : World) : Prop
  /-- It is not about the feed. -/
  | other (polled : x.polled w = []) (progress : w'.progress = w.progress)
  /-- The work of the start is cancelled. -/
  | cancelled (cancel : x = .cancel) (polled : x.polled w = [])
      (progress : w'.progress = { w.progress with jobs := [] })
  /-- The job of reading that waits is done. -/
  | read (job : Job) (only : w.progress.jobs = [job])
      (proceeds : Proceeds { w.progress with jobs := [] } job (x.polled w) w'.progress)

omit [Surroundings] in
theorem eq_of_perm_of_length_le_one {l l' : List Job} (h : l.Perm l') (hlength : l'.length ≤ 1) :
    l = l' := by
  match l', hlength with
  | [], _ => exact List.perm_nil.1 h
  | [job], _ => exact List.perm_singleton.1 h

omit [Surroundings] in
theorem filter_of_length_le_one (kept : Job → Bool) {l : List Job} (hlength : l.length ≤ 1) :
    l.filter kept = l ∨ l.filter kept = [] := by
  match l, hlength with
  | [], _ => exact .inl rfl
  | [job], _ =>
    by_cases hjob : kept job = true
    · exact .inl (List.filter_cons_of_pos hjob)
    · exact .inr (List.filter_cons_of_neg hjob)

/-- Doing a job is either doing the job of reading that waits, or it is not about the feed. -/
theorem turn_work (place : Nat) (hone : w.progress.jobs.length ≤ 1) :
    Turn (.work place) w ((Happening.work place).run.run w).2 := by
  cases hplace : w.ready[place]? with
  | none =>
    refine .other (by simp [Happening.polled, hplace]) ?_
    rw [run_work_of_none hplace]
  | some job =>
    let v : World := { w with ready := w.ready.eraseIdx place }
    have hrun : ((Happening.work place).run.run w).2 = (job.run.run v).2 := run_work_of_some hplace
    have hpolled : (Happening.work place).polled w = job.polled v := by
      simp only [Happening.polled, hplace, Option.toList_some, List.flatMap_singleton]
      rfl
    have htaken : ((job :: v.jobs).filter Job.isFeed).Perm w.progress.jobs :=
      (perm_jobs_take hplace).filter _
    cases hjob : job.isFeed with
    | false =>
      rw [List.filter_cons_of_neg (by simp [hjob])] at htaken
      have hsame : v.progress = w.progress :=
        progress_of_jobs (eq_of_perm_of_length_le_one htaken hone) rfl rfl
      refine .other ?_ ?_
      · rw [hpolled]
        cases job with
        | poll => cases hjob
        | _ => rfl
      · rw [hrun, progress_job hjob, hsame]
    | true =>
      -- As no more than one job of reading waits, none is left when this one is taken.
      rw [List.filter_cons_of_pos hjob] at htaken
      have hnone : v.progress.jobs = [] := by
        have hlength : v.progress.jobs.length + 1 = w.progress.jobs.length := htaken.length_eq
        exact List.eq_nil_of_length_eq_zero (by omega)
      have honly : w.progress.jobs = [job] := by
        rw [show v.jobs.filter Job.isFeed = [] from hnone] at htaken
        exact List.perm_singleton.1 htaken.symm
      have hproceeds := proceeds_job hjob hnone
      rw [← hpolled, ← hrun] at hproceeds
      have hv : v.progress = { w.progress with jobs := [] } :=
        congrArg (fun jobs => { w.progress with jobs := jobs }) hnone
      rw [hv] at hproceeds
      exact .read job honly hproceeds

/-- Cancelling the work of the latest start takes the job of reading away, or it leaves it. -/
theorem turn_cancel (hone : w.progress.jobs.length ≤ 1) :
    Turn .cancel w ((Happening.cancel).run.run w).2 := by
  have hjobs : ((Happening.cancel).run.run w).2.progress =
      { w.progress with jobs :=
        w.progress.jobs.filter fun job => job.start? != some (w.starts - 1) } := by
    change FeedProgress.mk ((Bot.cancel.run w).2.jobs.filter Job.isFeed) w.feed w.bot.cursor = _
    rw [jobs_cancel, List.filter_filter]
    simp only [World.progress, List.filter_filter, Bool.and_comm]
  obtain hsame | hnone := filter_of_length_le_one
    (fun job : Job => job.start? != some (w.starts - 1)) hone
  · rw [hsame] at hjobs
    exact .other rfl hjobs
  · rw [hnone] at hjobs
    exact .cancelled rfl rfl hjobs

theorem turn_happening {x : Happening} (hx : x.isIntake = false)
    (hone : w.progress.jobs.length ≤ 1) : Turn x w (x.run.run w).2 := by
  cases x with
  | start | batch => cases hx
  | chat room sender body =>
    exact .other rfl (((affinity_progress w.progress).receiveChat room sender body).keeps w rfl)
  | work place => exact turn_work place hone
  | elapse ms => exact .other rfl rfl
  | wake =>
    refine .other rfl (progress_of_jobs ?_ rfl rfl)
    exact eq_of_perm_of_length_le_one ((perm_jobs_wake w).filter _) hone
  | cancel => exact turn_cancel hone

/-! ### Runs -/

/-- The progress of a start that the results of its polls have led to so far. -/
inductive Polling (begun : FeedProgress) (number : Nat) : List PollResult → FeedProgress → Prop
  /-- The feed has not been asked yet. -/
  | beginning : Polling begun number [] { begun with jobs := [.beginFeed number] }
  /-- All results have been taken, and the feed is to be asked again. -/
  | due (results : List PollResult) :
      Polling begun number results
        { jobs := [.poll number (resumption? results) (noneSucceeded results)]
          steps := begun.steps ++ course begun.reached [] results
          reached := reached? begun.reached results }
  /-- The feed has been asked, and the last result is on its way. -/
  | waiting (earlier : List PollResult) (last : PollResult) :
      Polling begun number (earlier ++ [last])
        { jobs := [.receive number (resumption? earlier) (noneSucceeded earlier) last]
          steps := begun.steps ++ course begun.reached [] earlier ++ [asking begun.reached earlier]
          reached := reached? begun.reached earlier }

omit [Surroundings] in
/-- When the job of reading that waited has been done, the results so far lead to the progress that
there is then. -/
theorem Polling.proceed {p' : FeedProgress} {job : Job} {given : List PollResult}
    (h : Polling begun number results p) (honly : p.jobs = [job])
    (hproceeds : Proceeds { p with jobs := [] } job given p') :
    Polling begun number (results ++ given) p' := by
  cases h with
  | beginning =>
    obtain rfl : Job.beginFeed number = job := List.singleton_inj.1 honly
    cases hproceeds
    have hdue : Polling begun number [] _ := .due []
    rw [course, List.append_nil] at hdue
    exact hdue
  | due =>
    obtain rfl := List.singleton_inj.1 honly
    cases hproceeds with
    | asked _ _ _ result => exact .waiting results result
  | waiting earlier last =>
    obtain rfl := List.singleton_inj.1 honly
    rw [List.append_assoc]
    have hdue : Polling begun number (earlier ++ [last]) _ := .due _
    rw [course_append, List.nil_append] at hdue
    cases hproceeds with
    | applied _ _ _ batch =>
      rw [resumption?_append_ok, noneSucceeded_append_ok, reached?_append_ok] at hdue
      simpa [taking] using hdue
    | failed _ _ _ e =>
      rw [resumption?_append_error, noneSucceeded_append_error, reached?_append_error] at hdue
      simpa [taking] using hdue

omit [Surroundings] in
/-- One job of reading waits, as long as the work of the start is not cancelled. -/
theorem Polling.jobs_eq (h : Polling begun number results p) : ∃ job, p.jobs = [job] := by
  cases h with
  | beginning | due | waiting => exact ⟨_, rfl⟩

/-- When the work of the start has been cancelled, the feed is not read any further. -/
theorem progress_of_cancelled {xs : List Happening} (hxs : ∀ x ∈ xs, x.isIntake = false)
    (hnone : w.progress.jobs = []) :
    w.collect Happening.polled xs = [] ∧ (w.after xs).progress = w.progress := by
  induction xs generalizing w with
  | nil => exact ⟨rfl, rfl⟩
  | cons x xs ih =>
    obtain ⟨hx, hrest⟩ := List.forall_mem_cons.1 hxs
    have hsame : x.polled w = [] ∧ (x.run.run w).2.progress = w.progress := by
      cases turn_happening hx (by rw [hnone]; exact Nat.zero_le 1) with
      | other polled progress => exact ⟨polled, progress⟩
      | cancelled _ polled progress =>
        rw [← hnone] at progress
        exact ⟨polled, progress⟩
      | read job only =>
        rw [hnone] at only
        cases only
    obtain ⟨hpolled, hprogress⟩ := ih hrest ((congrArg FeedProgress.jobs hsame.2).trans hnone)
    refine ⟨?_, hprogress.trans hsame.2⟩
    rw [World.collect, hsame.1, hpolled]
    rfl

/-- Along a run each result is taken in its turn, until the work of the start is cancelled. -/
theorem polling_after {xs : List Happening} (hxs : ∀ x ∈ xs, x.isIntake = false)
    (h : Polling begun number results w.progress) :
    ∃ p, Polling begun number (results ++ w.collect Happening.polled xs) p ∧
      ((w.after xs).progress = p ∨
        .cancel ∈ xs ∧ (w.after xs).progress = { p with jobs := [] }) := by
  induction xs generalizing w results with
  | nil => exact ⟨w.progress, by simpa [World.collect] using h, .inl rfl⟩
  | cons x xs ih =>
    obtain ⟨hx, hrest⟩ := List.forall_mem_cons.1 hxs
    -- One job of reading waits, so that a happening leaves the progress alone, takes it one step
    -- further, or ends it.
    obtain ⟨only, honly⟩ := h.jobs_eq
    have hgo : Polling begun number (results ++ x.polled w) (x.run.run w).2.progress →
        ∃ p, Polling begun number (results ++ w.collect Happening.polled (x :: xs)) p ∧
          ((w.after (x :: xs)).progress = p ∨
            .cancel ∈ x :: xs ∧ (w.after (x :: xs)).progress = { p with jobs := [] }) := by
      intro hnext
      obtain ⟨p, hp, hdone⟩ := ih hrest hnext
      rw [List.append_assoc] at hp
      exact ⟨p, hp, hdone.imp_right fun hcancelled =>
        ⟨List.mem_cons_of_mem _ hcancelled.1, hcancelled.2⟩⟩
    cases turn_happening hx (by rw [honly]; exact Nat.le_refl 1) with
    | other polled progress =>
      refine hgo ?_
      rwa [polled, progress, List.append_nil]
    | read job only proceeds => exact hgo (h.proceed only proceeds)
    | cancelled cancel polled progress =>
      obtain ⟨hpolled, hprogress⟩ :=
        progress_of_cancelled hrest (congrArg FeedProgress.jobs progress)
      refine ⟨w.progress, ?_, .inr ⟨cancel ▸ List.mem_cons_self, hprogress.trans progress⟩⟩
      rwa [World.collect, polled, hpolled, List.append_nil, List.append_nil]

/-- Becoming ready, the bot puts off to begin reading. -/
theorem progress_becomeReady (ts : Timestamp) (hnone : w.progress.jobs = []) :
    ((becomeReady ts).run w).2.progress =
      { w.progress with jobs := [.beginFeed w.starts] } := by
  let ready : World := { w with bot := { w.bot with readyTs := ts }, starts := w.starts + 1 }
  let reading : World := ((spawn (.beginFeed w.starts)).run ready).2
  have hreading : reading.progress = { w.progress with jobs := [.beginFeed w.starts] } :=
    progress_spawn_feed (w := ready) rfl hnone
  have hswept := progress_spawn (.beginSweeps w.starts) rfl reading
  exact (progress_spawn (.beginHeartbeats w.starts) rfl _).trans (hswept.trans hreading)

/-- A start does not read anything yet. -/
theorem progress_start (ts : Timestamp) (hnone : w.progress.jobs = []) :
    ∃ number, ((Bot.start ts).run w).2.progress =
      { w.progress with jobs := [.beginFeed number] } := by
  have hprepared : (prepare.run w).2.progress = w.progress :=
    (affinity_progress w.progress).prepare.keeps w rfl
  have hready := progress_becomeReady ts ((congrArg FeedProgress.jobs hprepared).trans hnone)
  rw [hprepared] at hready
  refine ⟨(prepare.run w).2.starts, ?_⟩
  rw [run_start_eq]
  exact hready

/-- The feed is read without gaps or repeats. From a start on, whatever the homeserver answers to
the polls and whatever else happens in between, each result is taken in its turn before the feed is
asked again, unless the last one is still on its way: its batch is applied, if it has one, and the
next poll goes on where the last cursor that was not empty says, and asks for the full state as long
as none has succeeded. It goes on like this until the work of the start is cancelled, and each batch
has been applied as a whole when the next poll is put off. -/
theorem feed_read_through (w : World) (ts : Timestamp) (xs : List Happening)
    (hidle : ∀ job ∈ w.jobs, job.isFeed = false) (hxs : ∀ x ∈ xs, x.isIntake = false) :
    let w' := w.after (.start ts :: xs)
    let given := w.collect Happening.polled (.start ts :: xs)
    (w'.feed = w.feed ++ course w.bot.cursor [] given ∨
      ∃ earlier last, given = earlier ++ [last] ∧
        w'.feed = w.feed ++ course w.bot.cursor [] earlier ++ [asking w.bot.cursor earlier]) ∧
    (.cancel ∉ xs → ∃ job, w'.jobs.filter Job.isFeed = [job]) ∧
    ∀ before x rest v batch, xs = before ++ x :: rest →
      x.applies? (w.after (.start ts :: before)) = some (v, batch) →
      ∃ number since, w.after (.start ts :: before ++ [x]) =
        ((sleep 0 (.poll number since false)).run ((applyBatch batch).run v).2).2 := by
  intro w' given
  have hnone : w.progress.jobs = [] :=
    List.filter_eq_nil_iff.2 fun job hjob => by simp [hidle job hjob]
  obtain ⟨number, hstart⟩ := progress_start ts hnone
  have hbegin : Polling w.progress number [] ((Bot.start ts).run w).2.progress := by
    rw [hstart]
    exact .beginning
  obtain ⟨p, hp, hdone⟩ := polling_after hxs hbegin
  rw [List.nil_append] at hp
  have hgiven : ((Bot.start ts).run w).2.collect Happening.polled xs = given := rfl
  rw [hgiven] at hp
  have hfeed : w'.feed = p.steps := by
    obtain hsame | ⟨-, hcancelled⟩ := hdone
    · exact congrArg FeedProgress.steps hsame
    · exact congrArg FeedProgress.steps hcancelled
  refine ⟨?_, fun hcancel => ?_, fun before x rest v batch hsplit happlies => ?_⟩
  · rw [hfeed]
    generalize given = results at hp
    cases hp with
    | beginning => exact .inl (List.append_nil _).symm
    | due => exact .inl rfl
    | waiting earlier last => exact .inr ⟨earlier, last, rfl, rfl⟩
  · obtain ⟨job, hjob⟩ := hp.jobs_eq
    have hsame := hdone.resolve_right fun hcancelled => hcancel hcancelled.1
    exact ⟨job, (congrArg FeedProgress.jobs hsame).trans hjob⟩
  · have hx := hxs x (by rw [hsplit]; simp)
    have hafter : w.after (.start ts :: before ++ [x]) =
        (x.run.run (w.after (.start ts :: before))).2 := World.after_append _ _ _
    rw [hafter]
    cases x with
    | work place => exact run_work_of_applies happlies
    | start | batch => cases hx
    | chat | elapse | wake | cancel => cases happlies

end

namespace Sample

/-- Surroundings in which the polls come to given results, one after the other. -/
@[reducible] def scripted : Surroundings where
  Server := List PollResult
  homeserver :=
    { answer := fun c s => (⟨.ok (reply c), []⟩, s)
      poll := fun _ s => (⟨⟨s.headD (.error (.decode "")), []⟩, 0⟩, s.tail) }
  render := id
  fileText := fun _ => .error ""
  jitterMs := 0

/-- Failures, a batch without a cursor, and batches in which a member is banned and a room is
lost. -/
def script : List PollResult :=
  [.error (.decode ""), .ok ⟨"", ∅, ∅, 0⟩, .ok ⟨"s1", .ofList [(lobby, [ban])], ∅, 0⟩,
    .error (.decode ""), .ok ⟨"s2", ∅, .ofList [attic], 0⟩]

/-- After each failure the bot waits; in between a member says something, and a sweep is put off. -/
def reading : List Happening :=
  [.work 0, .work 0, .work 0, .work 0, .chat lobby mallory "!help", .elapse 5000, .wake, .work 1,
    .work 0, .work 0, .work 0, .work 0, .work 0, .elapse 5000, .wake, .work 1, .work 0, .work 0]

end Sample

section

attribute [local instance] Sample.scripted

/-- The full state is asked for twice, until a poll has succeeded, and then the feed is read on from
its beginning, from there to the first cursor, twice, and so on; the answer to the last poll is on
its way. -/
theorem script_read_through :
    let w : World := .initial (.initial ⟨"@warden:x"⟩ (.inMemory Sample.config)) Sample.script
    let w' := w.after (.start 0 :: Sample.reading)
    let given := w.collect Happening.polled (.start 0 :: Sample.reading)
    (∀ job ∈ w.jobs, job.isFeed = false) ∧ (∀ x ∈ Sample.reading, x.isIntake = false) ∧
    ((w'.feed = w.feed ++ course w.bot.cursor [] given ∨
        ∃ earlier last, given = earlier ++ [last] ∧
          w'.feed = w.feed ++ course w.bot.cursor [] earlier ++ [asking w.bot.cursor earlier]) ∧
      (.cancel ∉ Sample.reading → ∃ job, w'.jobs.filter Job.isFeed = [job]) ∧
      ∀ before x rest v batch, Sample.reading = before ++ x :: rest →
        x.applies? (w.after (.start 0 :: before)) = some (v, batch) →
        ∃ number since, w.after (.start 0 :: before ++ [x]) =
          ((sleep 0 (.poll number since false)).run ((applyBatch batch).run v).2).2) ∧
    (cursors given, given.length) = (["", "s1", "s2"], 6) ∧
    (w'.feed.filterMap fun
      | .asked reached since fullState => some (reached, since, fullState)
      | _ => none) =
      [(none, none, true), (none, none, true), (some "", none, false),
        (some "s1", some "s1", false), (some "s1", some "s1", false),
        (some "s2", some "s2", false)] := by
  intro w w' given
  have hidle : ∀ job ∈ w.jobs, job.isFeed = false := nofun
  have hreading : ∀ x ∈ Sample.reading, x.isIntake = false := by decide
  exact ⟨hidle, hreading, feed_read_through w 0 Sample.reading hidle hreading,
    by decide +kernel, by decide +kernel⟩

end

end RoomModeration
