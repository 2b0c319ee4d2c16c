import RoomModeration.Proofs.Authority
import RoomModeration.Proofs.Resemblance

/-!
# What is never told

Two bots in the same state, but with other passwords, and with other sessions or none, cannot be
told apart by what they do: whatever happens, they ask the same of the homeserver, post the same
messages and take the same messages for commands. So nothing that anyone can read depends on the
password or the session. That there is a password at all can be read, so both bots have one.

The two may go on to differ in their configurations, but only in what is out of sight, and in the
states of the bot that their histories remember with each call.

## Main definitions

* `Secrets` : the password and the session.
* `World.outward` : a world as far as it can be seen.
* `Task.outcome?`, `World.outcomes` : what became of the messages received.
* `Undistinguished` : two worlds that look the same.

## Main results

* `resemblance_undistinguished` : no step tells such worlds apart.
* `secrets_never_told` : the same is asked, posted and answered, whatever the secrets are.
-/

namespace RoomModeration

open BotM RoomModeration.Bot

/-- The password and the session. -/
structure Secrets where
  /-- The password of the account. -/
  password : String
  /-- The token of the session. -/
  accessToken : Option String
  /-- The device of the session. -/
  device : Option String
  /-- The member the session belongs to. -/
  user : Option MemberId

/-- The bot with other secrets. -/
def Bot.withSecrets (b : Bot) (s : Secrets) : Bot :=
  let homeserver : HomeserverConfig := { b.config.homeserver with
    password := s.password, accessToken := s.accessToken, device := s.device, user := s.user }
  { b with store := { b.store with config := { b.config with homeserver := homeserver } } }

theorem Bot.outward_withSecrets (b : Bot) {s s' : Secrets} (hs : s.password ≠ "")
    (hs' : s'.password ≠ "") : (b.withSecrets s).outward = (b.withSecrets s').outward := by
  have hmasked : maskedPassword s.password = maskedPassword s'.password := by
    rw [maskedPassword_of_ne hs, maskedPassword_of_ne hs']
  have hhomeserver : (b.withSecrets s).config.homeserver.outward =
      (b.withSecrets s').config.homeserver.outward :=
    congrArg (fun password => { b.config.homeserver.clearSession with password := password })
      hmasked
  exact congrArg (fun h => { b with store := { b.store.outward with
    config := { b.config.outward with homeserver := h } } }) hhomeserver

/-- An occurrence as far as it can be seen. -/
def Occurrence.outward : Occurrence → Occurrence
  | called before activities c result => called before.outward activities c result
  | polled before request => polled before.outward request
  | answered result => answered result
  | applied batch => applied batch

/-- What the homeserver was asked for, if it was asked for anything. -/
def Occurrence.asked? : Occurrence → Option Asked
  | called _ _ c _ => some (.call c)
  | polled _ request => some (.poll request)
  | answered _ | applied _ => none

theorem Occurrence.asked?_outward (o : Occurrence) : o.outward.asked? = o.asked? := by
  cases o <;> rfl

section

variable [Surroundings] {v w : World}

/-- A world as far as it can be seen. -/
def World.outward (w : World) : World :=
  { w with bot := w.bot.outward, history := w.history.map Occurrence.outward }

/-- The world of a bot with other secrets. -/
def World.withSecrets (w : World) (s : Secrets) : World :=
  { w with bot := w.bot.withSecrets s }

/-- Two worlds look the same, and the bot runs dry in both or in neither. -/
structure Undistinguished (v w : World) : Prop where
  outward : v.outward = w.outward
  dryRun : v.bot.config.actions.dryRun = w.bot.config.actions.dryRun

namespace Undistinguished

theorem bot (h : Undistinguished v w) : v.bot.outward = w.bot.outward :=
  congrArg World.bot h.outward

theorem server (h : Undistinguished v w) : v.server = w.server :=
  show v.outward.server = w.outward.server from congrArg World.server h.outward

theorem now (h : Undistinguished v w) : v.now = w.now :=
  show v.outward.now = w.outward.now from congrArg World.now h.outward

theorem ready (h : Undistinguished v w) : v.ready = w.ready :=
  show v.outward.ready = w.outward.ready from congrArg World.ready h.outward

theorem starts (h : Undistinguished v w) : v.starts = w.starts :=
  show v.outward.starts = w.outward.starts from congrArg World.starts h.outward

theorem activities (h : Undistinguished v w) : v.activities = w.activities :=
  show v.outward.activities = w.outward.activities from congrArg World.activities h.outward

/-- A change of the world that can be seen as one, and leaves the configuration alone. -/
theorem moved (h : Undistinguished v w) {f g : World → World}
    (hseen : ∀ u, (f u).outward = g u.outward) (hstore : ∀ u, (f u).bot.store = u.bot.store) :
    Undistinguished (f v) (f w) where
  outward := by rw [hseen, hseen, h.outward]
  dryRun := by
    have hdry := h.dryRun
    unfold Bot.config at hdry ⊢
    rwa [hstore, hstore]

theorem modify {f : World → World} (hseen : ∀ u, (f u).outward = f u.outward)
    (hstore : ∀ u, (f u).bot.store = u.bot.store) :
    Respects Undistinguished (modify f : BotM Unit) :=
  fun _ _ h => ⟨rfl, h.moved hseen hstore⟩

theorem withBot (h : Undistinguished v w) {b b' : Bot} (hb : b.outward = b'.outward)
    (hdry : b.config.actions.dryRun = b'.config.actions.dryRun) :
    Undistinguished { v with bot := b } { w with bot := b' } := by
  refine ⟨?_, hdry⟩
  change ({ v.outward with bot := b.outward } : World) = { w.outward with bot := b'.outward }
  rw [h.outward, hb]

theorem noteAll (notices : List Notice) : Respects Undistinguished (BotM.noteAll notices) :=
  modify (fun _ => rfl) fun _ => rfl

theorem note (notice : Notice) : Respects Undistinguished (BotM.note notice) :=
  modify (fun _ => rfl) fun _ => rfl

theorem countBy (c : Counter) (n : Nat) : Respects Undistinguished (BotM.countBy c n) :=
  modify (fun _ => rfl) fun _ => rfl

theorem change {f : Bot → Bot} (hseen : ∀ b, (f b).outward = f b.outward)
    (hstore : ∀ b, (f b).store = b.store) : Respects Undistinguished (BotM.change f) := by
  refine modify (fun u => ?_) fun u => hstore u.bot
  exact congrArg (fun bot => { u.outward with bot := bot }) (hseen u.bot)

theorem configure {γ : Type} {edit : Config.Edit γ} (hedit : edit.Discreet) :
    Respects Undistinguished (BotM.configure edit) := by
  intro v w h
  obtain ⟨hresult, hstore⟩ := ConfigStore.update_congr hedit (congrArg Bot.store h.bot)
  have hdry : (v.bot.store.update edit).2.config.actions.dryRun =
      (w.bot.store.update edit).2.config.actions.dryRun := by
    rw [ConfigStore.actions_update hedit, ConfigStore.actions_update hedit]
    exact h.dryRun
  have hbots := h.withBot (Bot.outward_withStore h.bot hstore) hdry
  have hnotices : Notice.ofUpdate (v.bot.store.update edit) =
      Notice.ofUpdate (w.bot.store.update edit) := by
    change Notice.ofUpdate ((v.bot.store.update edit).1, (v.bot.store.update edit).2) = _
    rw [hresult]
    exact ConfigStore.ofUpdate_outward hstore _
  refine ⟨hresult, ?_⟩
  change Undistinguished
    ((BotM.noteAll (Notice.ofUpdate (v.bot.store.update edit))).run _).2
    ((BotM.noteAll (Notice.ofUpdate (w.bot.store.update edit))).run _).2
  rw [hnotices]
  exact (noteAll _ hbots).2

/-- A call finds the homeserver in the same state. -/
theorem call (c : Call) : Respects Undistinguished (BotM.call c).run := by
  intro v w h
  rw [run_call, run_call]
  refine ⟨by rw [h.server], ?_⟩
  let after (u : World) : World := { u with
    server := (Surroundings.homeserver.answer c u.server).2
    history := .called u.bot u.activities c (Surroundings.homeserver.answer c u.server).1.result ::
      u.history
    log := ((Surroundings.homeserver.answer c u.server).1.notices.map
      (⟨u.activities, ·⟩)).reverse ++ u.log }
  exact h.moved (f := after) (g := after) (fun _ => rfl) fun _ => rfl

theorem attempt (action : String) (c : Call) :
    Respects Undistinguished (BotM.attempt action c).run := by
  refine .bind (call c) fun result => ?_
  cases result with
  | ok _ => exact .pure _
  | error e => exact .bind (countBy _ 1) fun _ => .pure _

/-- Both bots ban, or both run dry. -/
private theorem of_eq {act : ActionM Unit} {a : Sanction} {action : String} {would done : Notice}
    (hact : act = do
      if (← getConfig).actions.dryRun then BotM.note would
      else
        let _ ← BotM.attempt action a.call
        BotM.note done
      BotM.change (·.sanction a)) :
    Respects Undistinguished act.run := by
  have hrecord : Respects Undistinguished (BotM.change (·.sanction a)) :=
    change (fun _ => rfl) fun _ => rfl
  intro v w h
  rw [hact, run_bind_except, run_bind_except, run_lift, run_lift, run_getConfig, run_getConfig]
  dsimp only
  rw [h.dryRun]
  cases w.bot.config.actions.dryRun with
  | true => exact (Parallel.bind_except (.lift (note would)) fun _ => .lift hrecord) h
  | false =>
    exact (Parallel.bind_except (attempt action a.call) fun _ =>
      .bind_except (.lift (note done)) fun _ => .lift hrecord) h

theorem spawn (job : Job) : Respects Undistinguished (BotM.spawn job) :=
  modify (fun _ => rfl) fun _ => rfl

theorem during {α : Type} (activity : Activity) {x y : BotM α}
    (hxy : Parallel Undistinguished x y) :
    Parallel Undistinguished (BotM.during activity x) (BotM.during activity y) := by
  intro v w h
  let begun (u : World) : World := { u with activities := u.activities ++ [activity] }
  obtain ⟨hresult, hdone⟩ := hxy (h.moved (f := begun) (g := begun) (fun _ => rfl) fun _ => rfl)
  refine ⟨hresult, ?_⟩
  let ended (u : World) : World := { u with activities := w.activities }
  have hended := hdone.moved (f := ended) (g := ended) (fun _ => rfl) fun _ => rfl
  change Undistinguished { (x.run (begun v)).2 with activities := v.activities } _
  rw [h.activities]
  exact hended

end Undistinguished

theorem likeness_undistinguished : Likeness Undistinguished where
  outward h := h.bot
  noteAll := Undistinguished.noteAll
  countBy c n _ := Undistinguished.countBy c n
  change _ hseen hkept := Undistinguished.change hseen fun b => (hkept b).1
  configure _ hedit := Undistinguished.configure hedit
  call c _ _ := Undistinguished.call c
  banMember room member reason := Undistinguished.of_eq (a := ⟨room, member, some reason⟩) rfl
  unbanMember room member := Undistinguished.of_eq (a := ⟨room, member, none⟩) rfl
  spawn job _ _ := Undistinguished.spawn job
  during := Undistinguished.during

namespace Undistinguished

theorem sleep (ms : Nat) (job : Job) : Respects Undistinguished (BotM.sleep ms job) := by
  refine modify (fun u => ?_) fun u => ?_
  · split
    · rfl
    · rfl
  · split
    · rfl
    · rfl

/-- Two occurrences that look the same are written down. -/
theorem record {o o' : Occurrence} (ho : o.outward = o'.outward) :
    Parallel Undistinguished (BotM.record o) (BotM.record o') := by
  intro v w h
  refine ⟨rfl, ?_, h.dryRun⟩
  change ({ v.outward with history := o.outward :: v.outward.history } : World) =
    { w.outward with history := o'.outward :: w.outward.history }
  rw [ho, h.outward]

/-- The homeserver is asked the same for more, and answers the same. -/
theorem poll (start : Nat) (since : Option String) (fullState : Bool) :
    Respects Undistinguished (pollFeed start since fullState) := by
  intro v w h
  have hrest : ∀ (answer : PollAnswer) (request : PollRequest),
      Parallel Undistinguished
        (do
          BotM.noteAll answer.notices
          BotM.record (.polled v.bot request)
          BotM.sleep answer.delayMs (.receive start since fullState answer.result))
        (do
          BotM.noteAll answer.notices
          BotM.record (.polled w.bot request)
          BotM.sleep answer.delayMs (.receive start since fullState answer.result)) := by
    intro answer request
    have hpolled : (Occurrence.polled v.bot request).outward =
        (Occurrence.polled w.bot request).outward :=
      congrArg (Occurrence.polled · request) h.bot
    exact .bind (noteAll _) fun _ => .bind (record hpolled) fun _ => sleep _ _
  have htimeout : v.bot.config.bot.syncTimeoutMs = w.bot.config.bot.syncTimeoutMs := by
    have hseen := congrArg (·.config.bot.syncTimeoutMs) h.bot
    exact hseen
  rw [run_pollFeed, run_pollFeed, htimeout, h.server]
  let asked (u : World) : World := { u with server :=
    (Surroundings.homeserver.poll ⟨since, w.bot.config.bot.syncTimeoutMs, fullState⟩ w.server).2 }
  exact hrest _ _ (h.moved (f := asked) (g := asked) (fun _ => rfl) fun _ => rfl)

end Undistinguished

/-- Steps do not tell such worlds apart. -/
theorem resemblance_undistinguished : Resemblance Undistinguished where
  toLikeness := likeness_undistinguished
  dryRun h := h.dryRun
  clock h := h.now
  starts h := h.starts
  create _ := Undistinguished.call _
  evicted _ := Undistinguished.countBy _ 1
  alter _ hseen hkept := Undistinguished.change hseen fun b => (hkept b).1
  sleep ms job _ _ := Undistinguished.sleep ms job
  spawnFeed job _ := Undistinguished.spawn job
  sleepFeed ms job _ := Undistinguished.sleep ms job
  restart _ := Undistinguished.modify (fun _ => rfl) fun _ => rfl
  record _ _ := Undistinguished.record rfl
  poll := Undistinguished.poll

namespace Undistinguished

theorem handleLeft (room : RoomId) : Respects Undistinguished (handleLeft room) :=
  resemblance_undistinguished.handleLeft fun _ => spawn _

theorem applyBatch (batch : FeedBatch) : Respects Undistinguished (applyBatch batch) :=
  resemblance_undistinguished.applyBatch handleLeft (change (fun _ => rfl) fun _ => rfl)

theorem job (job : Job) : Respects Undistinguished job.run :=
  resemblance_undistinguished.anyJob (fun _ _ => sleep _ _) applyBatch job

theorem happening (x : Happening) : Respects Undistinguished x.run := by
  have h := resemblance_undistinguished
  cases x with
  | start readyTs => exact h.start readyTs
  | batch arrived => exact applyBatch arrived
  | chat room sender body => exact .discard (h.receiveChat room sender body)
  | work place =>
    intro v w hR
    unfold Happening.run workAt
    rw [run_bind, run_bind, run_get, run_get]
    dsimp only
    rw [hR.ready]
    cases w.ready[place]? with
    | none => exact ⟨rfl, hR⟩
    | some found =>
      let taken (u : World) : World := { u with ready := w.ready.eraseIdx place }
      exact job found (hR.moved (f := taken) (g := taken) (fun _ => rfl) fun _ => rfl)
  | elapse ms => exact modify (fun _ => rfl) fun _ => rfl
  | wake => exact modify (fun _ => rfl) fun _ => rfl
  | cancel => exact modify (fun _ => rfl) fun _ => rfl

theorem task (task : Task) : Respects Undistinguished task.run :=
  resemblance_undistinguished.toAffinity.task (fun x _ => happening x) handleLeft

end Undistinguished

/-! ### Runs -/

/-- What became of the message that a task is about, if it is about one. -/
def Task.outcome? (w : World) : Task → Option ChatOutcome
  | happen (.chat room sender body) => some ((receiveChat room sender body).run w).1
  | _ => none

/-- What became of the messages that several tasks are about. -/
def World.outcomes (w : World) : List Task → List ChatOutcome
  | [] => []
  | task :: tasks => (task.outcome? w).toList ++ World.outcomes (task.run.run w).2 tasks

namespace Undistinguished

theorem outcome?_eq (h : Undistinguished v w) (task : Task) :
    task.outcome? v = task.outcome? w := by
  have hchat := fun room sender body =>
    (resemblance_undistinguished.receiveChat room sender body h).1
  unfold Task.outcome?
  split
  · exact congrArg some (hchat _ _ _)
  · rfl

/-- Whatever is done, such worlds stay so, and the same becomes of all messages. -/
theorem doing (h : Undistinguished v w) (tasks : List Task) :
    v.outcomes tasks = w.outcomes tasks ∧ Undistinguished (v.doing tasks) (w.doing tasks) := by
  induction tasks generalizing v w with
  | nil => exact ⟨rfl, h⟩
  | cons task tasks ih =>
    obtain ⟨houtcomes, hdone⟩ := ih (Undistinguished.task task h).2
    exact ⟨congrArg₂ (·.toList ++ ·) (h.outcome?_eq task) houtcomes, hdone⟩

theorem asked_eq (h : Undistinguished v w) :
    v.history.filterMap Occurrence.asked? = w.history.filterMap Occurrence.asked? := by
  have hforget : ∀ history : List Occurrence, history.filterMap Occurrence.asked? =
      (history.map Occurrence.outward).filterMap Occurrence.asked? := by
    intro history
    rw [List.filterMap_map]
    exact List.filterMap_congr fun o _ => o.asked?_outward.symm
  have hhistory : v.history.map Occurrence.outward = w.history.map Occurrence.outward :=
    show v.outward.history = w.outward.history from congrArg World.history h.outward
  rw [hforget v.history, hforget w.history, hhistory]

end Undistinguished

/-- Whatever the bot is made to do, its password, if it has one, and its session make no difference
to what it asks of the homeserver and posts, to what becomes of the messages that it receives, or to
anything else that can be seen. -/
theorem secrets_never_told (w : World) {s s' : Secrets} (hs : s.password ≠ "")
    (hs' : s'.password ≠ "") (tasks : List Task) :
    ((w.withSecrets s).doing tasks).history.filterMap Occurrence.asked? =
        ((w.withSecrets s').doing tasks).history.filterMap Occurrence.asked? ∧
      (w.withSecrets s).outcomes tasks = (w.withSecrets s').outcomes tasks ∧
      ((w.withSecrets s).doing tasks).outward = ((w.withSecrets s').doing tasks).outward := by
  have hbegin : Undistinguished (w.withSecrets s) (w.withSecrets s') := by
    refine ⟨?_, rfl⟩
    exact congrArg (fun bot => { w.outward with bot := bot }) (w.bot.outward_withSecrets hs hs')
  obtain ⟨houtcomes, hdone⟩ := hbegin.doing tasks
  exact ⟨hdone.asked_eq, houtcomes, hdone.outward⟩

end

namespace Sample

/-- A password and a session. -/
def secrets : Secrets := ⟨"hunter2", some "token", some "device", some warden⟩

/-- The bot starts, the moderator asks for the password and for a text that there is none of, and
sets another password. -/
def inquiry : List Task :=
  [.happen (.start 0), .happen (.chat lobby alice "!password get"),
    .happen (.chat lobby alice "!vars get token"), .sweep 0,
    .happen (.chat lobby alice "!password set swordfish")]

end Sample

section

attribute [local instance] Sample.surroundings

/-- The moderator learns that there is a password, and the same as of another password without a
session. -/
theorem inquiry_reveals_no_secrets :
    let w : World := World.initial (Bot.initial Sample.warden (.inMemory Sample.guarded)) ()
    let other : Secrets := ⟨"letmein", none, none, none⟩
    (Sample.secrets.password ≠ "" ∧ other.password ≠ "") ∧
      (((w.withSecrets Sample.secrets).doing Sample.inquiry).history.filterMap Occurrence.asked? =
          ((w.withSecrets other).doing Sample.inquiry).history.filterMap Occurrence.asked? ∧
        (w.withSecrets Sample.secrets).outcomes Sample.inquiry =
          (w.withSecrets other).outcomes Sample.inquiry ∧
        ((w.withSecrets Sample.secrets).doing Sample.inquiry).outward =
          ((w.withSecrets other).doing Sample.inquiry).outward) ∧
      (((w.withSecrets other).doing Sample.inquiry).history.filterMap Occurrence.asked?).contains
        (.call (.send Sample.lobby (.plain "password: ********"))) = true := by
  intro w other
  have hsecrets : Sample.secrets.password ≠ "" := by decide
  have hother : other.password ≠ "" := by decide
  exact ⟨⟨hsecrets, hother⟩, secrets_never_told w hsecrets hother Sample.inquiry,
    by decide +kernel⟩

end

end RoomModeration
