import RoomModeration.Bot.Feed
import RoomModeration.Bot.Start
import RoomModeration.Proofs.Deed
import RoomModeration.Proofs.Outward

/-!
# Two runs side by side

Two steps run in parallel if from related worlds they come to the same result and to related worlds.
A step respects a relation of worlds if it runs in parallel with itself.

Almost every step of the bot is made of a few parts, and asks for nothing but what can be seen of
the bot and what the homeserver answers. A relation that those parts respect is a likeness: whatever
is made of them respects it as well. The parts that open and close welcome rooms are not among them,
and neither are those that read the feed and those that put off coming back to a room. Bans and
unbans count as parts, since they are done in one way in a dry run and in another way otherwise.

A likeness may relate different worlds, and then it says what makes no difference to the bot. It may
also relate worlds to themselves only, and then it says what the bot leaves as it is. A congruence
relates worlds with the same bot, and then less has to be said for it to be a likeness.

## Main definitions

* `Parallel`, `Respects` : steps from related worlds.
* `Likeness` : a relation that the parts of steps respect.
* `Congruence` : a relation of worlds with the same bot that the smallest parts of steps respect.

## Main results

* `Likeness.handle`, `Likeness.receiveChat` : commands and messages.
* `Likeness.applyEvent`, `Likeness.applyRoom` : what an event and the events of a room lead to.
* `Likeness.joinEach`, `Likeness.reconcile` : what a start is made of.
* `Congruence.likeness` : a congruence is a likeness.
-/

namespace RoomModeration

open BotM RoomModeration.Bot

variable [Surroundings] {R : World → World → Prop} {α β ε : Type}

/-- From related worlds two steps come to the same result and to related worlds. -/
def Parallel (R : World → World → Prop) (x y : BotM α) : Prop :=
  ∀ ⦃v w : World⦄, R v w → (x.run v).1 = (y.run w).1 ∧ R (x.run v).2 (y.run w).2

/-- From related worlds a step comes to the same result and to related worlds. -/
def Respects (R : World → World → Prop) (step : BotM α) : Prop :=
  Parallel R step step

namespace Parallel

theorem pure (a : α) : Parallel R (pure a : BotM α) (Pure.pure a) :=
  fun _ _ h => ⟨rfl, h⟩

theorem bind {x y : BotM α} {f g : α → BotM β} (hx : Parallel R x y)
    (hf : ∀ a, Parallel R (f a) (g a)) : Parallel R (x >>= f) (y >>= g) := by
  intro v w h
  obtain ⟨hresult, hrest⟩ := hx h
  rw [run_bind, run_bind, hresult]
  exact hf _ hrest

theorem discard {x y : BotM α} (hx : Parallel R x y) : Parallel R (discard x) (discard y) :=
  bind hx fun _ => pure _

theorem forM {step : α → BotM PUnit} {f : α → α} {l : List α}
    (h : ∀ a ∈ l, Parallel R (step a) (step (f a))) :
    Parallel R (l.forM step) ((l.map f).forM step) := by
  induction l with
  | nil => exact pure ()
  | cons a l ih =>
    exact bind (h a List.mem_cons_self) fun _ => ih fun b hb => h b (List.mem_cons_of_mem _ hb)

theorem each {step : α → BotM PUnit} {l : List α} (h : ∀ a ∈ l, Respects R (step a)) :
    Respects R (l.forM step) := by
  have hforM : Parallel R (l.forM step) ((l.map id).forM step) := forM h
  rwa [List.map_id] at hforM

/-- Something is done first where a condition holds. -/
theorem first_if {c : Prop} [Decidable c] {x : BotM Unit} {f g : Unit → BotM β}
    (hx : Respects R x) (hf : ∀ u, Parallel R (f u) (g u)) :
    Parallel R (if c then x >>= fun u => f u else f ())
      (if c then x >>= fun u => g u else g ()) := by
  split
  · exact bind hx hf
  · exact hf ()

theorem pure_except (a : α) : Respects R (Pure.pure a : ExceptT ε BotM α).run :=
  fun _ _ h => ⟨rfl, h⟩

theorem throw (e : ε) : Respects R (MonadExcept.throw e : ExceptT ε BotM α).run :=
  fun _ _ h => ⟨rfl, h⟩

theorem lift {x : BotM α} (hx : Respects R x) : Respects R (liftM x : ExceptT ε BotM α).run :=
  fun _ _ h => ⟨congrArg Except.ok (hx h).1, (hx h).2⟩

theorem bind_except {x : ExceptT ε BotM α} {f : α → ExceptT ε BotM β} (hx : Respects R x.run)
    (hf : ∀ a, Respects R (f a).run) : Respects R (x >>= f).run := by
  intro v w h
  obtain ⟨hresult, hrest⟩ := hx h
  rw [run_bind_except, run_bind_except]
  cases hv : x.run.run v with
  | mk result v' =>
    cases hw : x.run.run w with
    | mk result' w' =>
      rw [hv, hw] at hresult hrest
      obtain rfl : result = result' := hresult
      cases result with
      | ok a => exact hf a hrest
      | error e => exact ⟨rfl, hrest⟩

theorem discard_except {x : ExceptT ε BotM α} (hx : Respects R x.run) :
    Respects R (Functor.discard x : ExceptT ε BotM PUnit).run :=
  bind_except hx fun _ => pure_except _

theorem acting {act : ActionM α} (hact : Respects R act.run) : Respects R (acting act).run :=
  bind hact fun _ => pure _

theorem tryEach {act : RoomId → ActionM Unit} {succeeded : BotM Unit}
    {failed : RoomId → ActionError → BotM Unit} (hact : ∀ room, Respects R (act room).run)
    (hsucceeded : Respects R succeeded) (hfailed : ∀ room e, Respects R (failed room e))
    (rooms : List RoomId) : Respects R (tryEach act succeeded failed rooms) := by
  induction rooms with
  | nil => exact pure _
  | cons room rest ih =>
    refine bind (hact room) fun result => ?_
    cases result with
    | ok _ => exact bind hsucceeded fun _ => bind ih fun _ => pure _
    | error e => exact bind (hfailed room e) fun _ => ih

section

variable {room : RoomId} {member : MemberId} {reason : String} (hlook : Respects R getConfig)
  (hnote : ∀ notice, Respects R (note notice))

include hlook hnote

/-- A ban is respected if its parts are. -/
theorem ban (hask : Respects R (attempt "ban" (.ban room member reason)).run)
    (hban : Respects R (change fun b =>
      { b with rooms := (b.rooms.applyBan room member reason).2 })) :
    Respects R (banMember room member reason).run := by
  refine bind_except (lift hlook) fun config => ?_
  dsimp only
  split
  · exact bind_except (lift (hnote _)) fun _ => lift hban
  · exact bind_except hask fun _ => bind_except (lift (hnote _)) fun _ => lift hban

/-- The lifting of a ban is respected if its parts are. -/
theorem unban (hask : Respects R (attempt "unban" (.unban room member)).run)
    (hunban : Respects R (change fun b =>
      { b with rooms := (b.rooms.applyUnban room member).2 })) :
    Respects R (unbanMember room member).run := by
  refine bind_except (lift hlook) fun config => ?_
  dsimp only
  split
  · exact bind_except (lift (hnote _)) fun _ => lift hunban
  · exact bind_except hask fun _ => bind_except (lift (hnote _)) fun _ => lift hunban

end

end Parallel

/-- Whether a job is about coming back to a room. -/
def Job.isReturn : Job → Bool
  | awaitRejoin .. | rejoin _ => true
  | _ => false

/-- Whether a job is about reading the feed. -/
def Job.isFeed : Job → Bool
  | beginFeed _ | poll .. | receive .. => true
  | _ => false

omit [Surroundings] in
theorem Job.isReturn_of_isFeed {job : Job} (h : job.isFeed = true) : job.isReturn = false := by
  cases job with
  | awaitRejoin | rejoin => cases h
  | _ => rfl

/-- A relation of worlds is a likeness if these parts of steps respect it: notices, counting
anything but closed welcome rooms, changes that do not depend on what cannot be seen and leave the
configuration, the welcome rooms, the moment of being ready and the cursor alone, discreet changes
of the configuration, calls other than for new rooms, bans and unbans, putting off work other than
coming back to a room and reading the feed, and saying what is going on; and if it holds only
between worlds whose bots look the same. -/
structure Likeness (R : World → World → Prop) : Prop where
  outward : ∀ {v w : World}, R v w → v.bot.outward = w.bot.outward
  noteAll : ∀ notices, Respects R (noteAll notices)
  countBy : ∀ (c : Counter) (n : Nat), c.family ≠ .welcomeEvictions → Respects R (countBy c n)
  change : ∀ f : Bot → Bot, (∀ b, (f b).outward = f b.outward) →
    (∀ b, (f b).store = b.store ∧ (f b).welcome = b.welcome ∧ (f b).readyTs = b.readyTs ∧
      (f b).cursor = b.cursor) → Respects R (change f)
  configure : ∀ {γ : Type} (edit : Config.Edit γ), edit.Discreet → Respects R (configure edit)
  call : ∀ c : Call, c.isModeration = false → (∀ request, c ≠ .create request) →
    Respects R (call c).run
  banMember : ∀ room member reason, Respects R (banMember room member reason).run
  unbanMember : ∀ room member, Respects R (unbanMember room member).run
  spawn : ∀ job : Job, job.isReturn = false → job.isFeed = false → Respects R (spawn job)
  during : ∀ {γ : Type} (activity : Activity) {x y : BotM γ}, Parallel R x y →
    Parallel R (during activity x) (during activity y)

namespace Likeness

section

variable (h : Likeness R)

include h

/-! ### Looking at the bot -/

/-- What is done after a look at the bot depends on what can be seen of it only. -/
theorem look {f : Bot → BotM β} (hseen : ∀ b, f b = f b.outward) (hf : ∀ b, Respects R (f b)) :
    Respects R (getBot >>= f) := by
  intro v w hR
  rw [run_bind, run_bind, run_getBot, run_getBot]
  dsimp only
  rw [hseen v.bot, hseen w.bot, h.outward hR]
  exact hf _ hR

theorem look_config {f : Config → BotM β} (hseen : ∀ c, f c = f c.outward)
    (hf : ∀ c, Respects R (f c)) : Respects R (getConfig >>= f) :=
  h.look (f := fun b => f b.config) (fun b => hseen b.config) fun b => hf b.config

theorem look_except {f : Bot → ExceptT ε BotM β} (hseen : ∀ b, f b = f b.outward)
    (hf : ∀ b, Respects R (f b).run) :
    Respects R ((liftM getBot : ExceptT ε BotM Bot) >>= f).run :=
  h.look (f := fun b => (f b).run) (fun b => congrArg ExceptT.run (hseen b)) hf

theorem look_config_except {f : Config → ExceptT ε BotM β} (hseen : ∀ c, f c = f c.outward)
    (hf : ∀ c, Respects R (f c).run) :
    Respects R ((liftM getConfig : ExceptT ε BotM Config) >>= f).run :=
  h.look_config (f := fun c => (f c).run) (fun c => congrArg ExceptT.run (hseen c)) hf

/-! ### The parts of steps -/

theorem note (notice : Notice) : Respects R (note notice) :=
  h.noteAll [notice]

theorem count (c : Counter) (hc : c.family ≠ .welcomeEvictions) : Respects R (count c) :=
  h.countBy c 1 hc

theorem attempt (action : String) (c : Call) (hmoderation : c.isModeration = false)
    (hcreate : ∀ request, c ≠ .create request) : Respects R (attempt action c).run := by
  refine .bind (h.call c hmoderation hcreate) fun result => ?_
  cases result with
  | ok _ => exact .pure _
  | error e => exact .bind (h.count _ nofun) fun _ => .pure _

theorem editing {γ : Type} {edit : Config.Edit γ} (hedit : edit.Discreet) :
    Respects R (editing edit).run :=
  .bind (h.configure edit hedit) fun _ => .pure _

/-! ### Rooms -/

theorem endRecord (room : RoomId) : Respects R (endRecord room) :=
  h.look (fun _ => rfl) fun _ => .first_if (h.note _) fun _ =>
    h.change _ (fun _ => rfl) fun _ => ⟨rfl, rfl, rfl, rfl⟩

theorem joinRoom (room : RoomId) : Respects R (joinRoom room).run := by
  refine h.during _ (Parallel.bind_except (h.attempt _ _ rfl nofun) fun joined => ?_)
  have hbegin : ∀ members banned config, Respects R (beginRecord joined members banned config) :=
    fun _ _ _ => .bind (h.note _) fun _ => h.change _ (fun _ => rfl) fun _ => ⟨rfl, rfl, rfl, rfl⟩
  have hrest : Respects R (do
      let members ← BotM.attempt "list_members" (.listMembers joined)
      let banned ← BotM.attempt "banned_members" (.bannedMembers joined)
      beginRecord joined members.keys banned ((← BotM.getConfig).roomConfig room)
      BotM.note (.roomJoined joined)
      return joined : ActionM RoomId).run :=
    .bind_except (h.attempt _ _ rfl nofun) fun _ => .bind_except (h.attempt _ _ rfl nofun) fun _ =>
      h.look_config_except (fun _ => rfl) fun _ => .bind_except (.lift (hbegin _ _ _)) fun _ =>
        .bind_except (.lift (h.note _)) fun _ => .pure_except _
  dsimp only
  split
  · exact .bind_except (.lift (h.note _)) fun _ => hrest
  · exact hrest

theorem leaveRoom (room : RoomId) : Respects R (leaveRoom room).run :=
  .bind_except (h.attempt _ _ rfl nofun) fun _ => .bind_except (.lift (h.endRecord room)) fun _ =>
    .lift (h.note _)

theorem send (room : RoomId) (message : Message) : Respects R (send room message).run := by
  refine .bind (h.attempt _ _ rfl nofun) fun result => ?_
  cases result with
  | ok _ => exact .pure _
  | error e => exact .bind (h.note _) fun _ => .pure _

theorem displayName (room : RoomId) : Respects R (displayName room) := by
  refine .bind (h.attempt _ _ rfl nofun) fun result => ?_
  cases result with
  | ok _ => exact .pure _
  | error e => exact .pure _

theorem displayNames (rooms : List RoomId) : Respects R (displayNames rooms) := by
  induction rooms with
  | nil => exact .pure _
  | cons room rest ih => exact .bind (h.displayName room) fun _ => .bind ih fun _ => .pure _

theorem joinEach (rooms : List RoomId) : Respects R (joinEach rooms) := by
  induction rooms with
  | nil => exact .pure _
  | cons room rest ih =>
    refine .bind (h.joinRoom room) fun result => ?_
    cases result with
    | ok _ => exact .bind ih fun _ => .pure _
    | error e => exact .bind (h.note _) fun _ => ih

theorem rejoin (room : RoomId) : Respects R (Bot.rejoin room) := by
  refine h.look_config (fun _ => rfl) fun config => ?_
  split
  · exact h.note _
  · refine .bind (h.joinRoom room) fun result => ?_
    cases result with
    | ok _ => exact h.note _
    | error e => exact h.note _

/-! ### Ban lists -/

theorem propagateBan (source : RoomId) (member : MemberId) (reason : String) :
    Respects R (propagateBan source member reason) :=
  h.look (fun _ => rfl) fun _ =>
    .bind (.tryEach (fun _ => h.banMember _ _ _) (h.count (.propagations "ban") nofun)
      (fun _ _ => h.note _) _) fun _ => .first_if (h.note _) fun _ => .pure _

theorem propagateUnban (source : RoomId) (member : MemberId) :
    Respects R (propagateUnban source member) :=
  h.look (fun _ => rfl) fun _ =>
    .bind (.tryEach (fun _ => h.unbanMember _ _) (h.count (.propagations "unban") nofun)
      (fun _ _ => h.note _) _) fun _ => .first_if (h.note _) fun _ => .pure _

theorem reconcile : Respects R reconcile := by
  have hall : ∀ missing, Respects R (banAll missing) := by
    intro missing
    induction missing with
    | nil => exact .pure _
    | cons first rest ih =>
      refine .bind (h.banMember _ _ _) fun result => ?_
      cases result with
      | ok _ => exact .bind ih fun _ => .pure _
      | error e => exact .bind (h.note _) fun _ => ih
  exact h.look (fun _ => rfl) fun _ => .bind (hall _) fun _ => .bind (h.note _) fun _ => .pure _

/-! ### Commands -/

theorem reply (origin : CommandOrigin) (text : String) : Respects R (reply origin text).run :=
  .acting (h.send _ _)

theorem replyMarkdown (origin : CommandOrigin) (text : String) :
    Respects R (replyMarkdown origin text).run :=
  .acting (h.send _ _)

theorem requireMonitored (room : RoomId) : Respects R (requireMonitored room).run := by
  refine h.look_config_except (fun _ => rfl) fun config => ?_
  split
  · exact .throw _
  · exact .pure_except _

theorem refresh (room : RoomId) : Respects R (refresh room) :=
  h.change _ (fun _ => rfl) fun _ => ⟨rfl, rfl, rfl, rfl⟩

theorem helpText : Respects R helpText := by
  refine h.look_config (fun _ => rfl) fun config => ?_
  dsimp only
  split
  · exact .pure _
  · split
    · exact .pure _
    · exact .bind (h.note _) fun _ => .pure _

theorem report (origin : CommandOrigin) (verb : String) (member : MemberId)
    (names : RoomMap String) (rooms : List RoomId) :
    Respects R (report origin verb member names rooms).run := by
  induction rooms with
  | nil => exact .pure_except _
  | cons room rest ih => exact .bind_except (h.reply origin _) fun _ => ih

/-- What is told when a ban or an unban has been carried out. -/
theorem tell (origin : CommandOrigin) (verb nowhere : String) (member : MemberId) (notice : Notice)
    (rooms : List RoomId) :
    Respects R (do
      BotM.note notice
      if rooms.isEmpty then Bot.reply origin nowhere
      else Bot.report origin verb member (← Bot.displayNames rooms) rooms : HandlerM Unit).run := by
  refine .bind_except (.lift (h.note _)) fun _ => ?_
  split
  · exact h.reply origin _
  · exact .bind_except (.lift (h.displayNames _)) fun _ => h.report _ _ _ _ _

theorem handleBan (origin : CommandOrigin) (member : MemberId) (reason : String) :
    Respects R (handleBan origin member reason).run := by
  refine h.look_except (fun _ => rfl) fun bot => ?_
  dsimp only
  split
  · exact .bind_except (.acting (h.banMember _ _ _)) fun _ =>
      .bind_except (.lift (h.propagateBan _ _ _)) fun _ => h.tell _ _ _ _ _ _
  · exact .bind_except (.lift (h.propagateBan _ _ _)) fun _ => h.tell _ _ _ _ _ _

theorem handleUnban (origin : CommandOrigin) (member : MemberId) :
    Respects R (handleUnban origin member).run := by
  refine h.look_except (fun _ => rfl) fun bot => ?_
  dsimp only
  split
  · exact .bind_except (.acting (h.unbanMember _ _)) fun _ =>
      .bind_except (.lift (h.propagateUnban _ _)) fun _ => h.tell _ _ _ _ _ _
  · exact .bind_except (.lift (h.propagateUnban _ _)) fun _ => h.tell _ _ _ _ _ _

/-- What is told when something may have been changed. -/
theorem tellChange (origin : CommandOrigin) (changed : Bool) (notice : Notice) (yes no : String) :
    Respects R (if changed then do
        BotM.note notice
        Bot.reply origin yes
      else Bot.reply origin no : HandlerM Unit).run := by
  split
  · exact .bind_except (.lift (h.note _)) fun _ => h.reply origin _
  · exact h.reply origin _

theorem handleAdmin (origin : CommandOrigin) (action : AdminAction) :
    Respects R (handleAdmin origin action).run := by
  cases action with
  | grant member =>
    exact .bind_except (h.editing (Config.discreet_grantAdmin _)) fun _ => h.tellChange _ _ _ _ _
  | revoke member =>
    exact .bind_except (h.editing (Config.discreet_revokeAdmin _)) fun _ => h.tellChange _ _ _ _ _
  | list =>
    refine h.look_config_except (fun _ => rfl) fun config => ?_
    dsimp only
    split
    · exact h.reply origin _
    · exact h.reply origin _

theorem handleRoom (origin : CommandOrigin) (action : RoomAction) :
    Respects R (handleRoom origin action).run := by
  cases action with
  | add room =>
    refine h.look_config_except (fun _ => rfl) fun config => ?_
    split
    · exact h.reply origin _
    · exact .bind_except (.acting (h.joinRoom room)) fun joined =>
        .bind_except (.discard_except (h.editing (Config.discreet_addRoom _))) fun _ =>
          .bind_except (.lift (h.refresh joined)) fun _ =>
            .bind_except (.lift (h.note _)) fun _ => h.reply origin _
  | del room =>
    refine .bind_except (h.requireMonitored room) fun _ =>
      .bind_except (.discard_except (h.editing (Config.discreet_removeRoom _))) fun _ =>
        .bind_except (.lift (h.note _)) fun _ =>
          .bind_except (h.reply origin _) fun _ =>
            .bind_except (.lift (h.leaveRoom room)) fun result => ?_
    cases result with
    | ok _ => exact .pure_except _
    | error e => exact .lift (h.note _)
  | list =>
    refine h.look_config_except (fun _ => rfl) fun config => ?_
    dsimp only
    split
    · exact h.reply origin _
    · exact .bind_except (.lift (h.displayNames _)) fun names =>
        h.look_config_except (fun _ => rfl) fun _ => h.replyMarkdown origin _
  | modeAdd room mode =>
    exact .bind_except (h.requireMonitored room) fun _ =>
      .bind_except (h.editing (Config.discreet_editRoom _ _)) fun _ =>
        .bind_except (.lift (h.refresh room)) fun _ => h.tellChange _ _ _ _ _
  | modeDel room mode =>
    exact .bind_except (h.requireMonitored room) fun _ =>
      .bind_except (h.editing (Config.discreet_editRoom _ _)) fun _ =>
        .bind_except (.lift (h.refresh room)) fun _ => h.tellChange _ _ _ _ _
  | modeList room =>
    exact .bind_except (h.requireMonitored room) fun _ =>
      h.look_config_except (fun _ => rfl) fun _ => h.reply origin _
  | paramSet room mode value =>
    exact .bind_except (h.requireMonitored room) fun _ =>
      .bind_except (h.editing (Config.discreet_editRoom _ _)) fun _ =>
        .bind_except (.lift (h.refresh room)) fun _ => .bind_except (.lift (h.note _)) fun _ =>
          h.reply origin _

theorem handleVars (origin : CommandOrigin) (action : VarsAction) :
    Respects R (handleVars origin action).run := by
  cases action with
  | set name payload =>
    exact .bind_except (h.editing (Config.discreet_setVar _ _)) fun _ => h.reply origin _
  | get name =>
    refine h.look_config_except (fun _ => rfl) fun config => ?_
    cases config.var? name with
    | some payload => exact h.reply origin _
    | none => exact .throw _
  | del name =>
    refine .bind_except (h.editing (Config.discreet_deleteVar name)) fun deleted => ?_
    cases deleted with
    | some _ => exact h.reply origin _
    | none => exact .throw _
  | list =>
    refine h.look_config_except (fun _ => rfl) fun config => ?_
    dsimp only
    split
    · exact h.reply origin _
    · exact h.reply origin _

theorem handleSetting (origin : CommandOrigin) (setting : Setting) (action : SettingAction) :
    Respects R (handleSetting origin setting action).run := by
  cases action with
  | get =>
    refine h.look_config_except (fun c => ?_) fun _ => h.reply origin _
    exact congrArg (fun shown => Bot.reply origin s!"{setting.name}: {shown}")
      (setting.shown_outward c).symm
  | set value =>
    exact .bind_except (h.editing (Config.discreet_setSetting _ _)) fun _ =>
      .bind_except (.lift (h.note _)) fun _ => h.reply origin _

theorem handleReboot (origin : CommandOrigin) : Respects R (handleReboot origin).run :=
  h.look_config_except (fun _ => rfl) fun _ => .bind_except (.lift (h.note _)) fun _ =>
    .bind_except (h.reply origin _) fun _ => .lift (h.spawn _ rfl rfl)

theorem handle (origin : CommandOrigin) (command : Command) :
    Respects R (handle command.handler origin command).run := by
  cases command with
  | version => exact h.reply origin _
  | help => exact .bind_except (.lift h.helpText) fun _ => h.replyMarkdown origin _
  | ban member reason => exact h.handleBan origin member reason
  | unban member => exact h.handleUnban origin member
  | say room text => exact .bind_except (.lift (h.note _)) fun _ => .acting (h.send _ _)
  | admin action => exact h.handleAdmin origin action
  | room action => exact h.handleRoom origin action
  | vars action => exact h.handleVars origin action
  | setting setting action => exact h.handleSetting origin setting action
  | reboot => exact h.handleReboot origin

/-! ### Messages -/

theorem obey (origin : CommandOrigin) (command : Command) : Respects R (obey origin command) := by
  have hexecute : Respects R (execute origin command).run :=
    .bind (h.handle origin command) fun _ => .bind (h.count _ nofun) fun _ => .pure _
  refine .bind (h.during _ hexecute) fun result => ?_
  cases result with
  | ok _ => exact .pure _
  | error e =>
    refine .bind (h.count _ nofun) fun _ => .bind (h.note _) fun _ => ?_
    cases e.reply? with
    | some text => exact .bind (.discard (h.send _ _)) fun _ => .pure _
    | none => exact .pure _

theorem receiveChat (room : RoomId) (sender : MemberId) (body : String) :
    Respects R (receiveChat room sender body) := by
  refine h.look (fun _ => rfl) fun bot => ?_
  split
  · exact .pure _
  · split
    · exact .pure _
    · split
      · exact .bind (h.note _) fun _ => .pure _
      · split
        · exact .bind (h.note _) fun _ => .bind (.discard (h.send _ _)) fun _ => .pure _
        · exact h.obey _ _

/-! ### Events -/

theorem updateRooms {γ : Type} (f : RoomStore → γ × RoomStore) : Respects R (updateRooms f) :=
  h.look (fun _ => rfl) fun _ =>
    .bind (h.change _ (fun _ => rfl) fun _ => ⟨rfl, rfl, rfl, rfl⟩) fun _ => .pure _

theorem applyTransition (room : RoomId) (t : Transition) : Respects R (applyTransition room t) := by
  cases t with
  | join member =>
    refine .bind (h.updateRooms _) fun outcome => h.look (fun _ => rfl) fun bot => ?_
    split
    · exact h.spawn _ rfl rfl
    · exact .pure _
  | leave member => exact .discard (h.updateRooms _)
  | unban member moderator =>
    refine .bind (.discard (h.updateRooms _)) fun _ => h.look (fun _ => rfl) fun bot => ?_
    split
    · exact .discard (h.propagateUnban _ _)
    · exact .pure _
  | ban member moderator reason propagate =>
    refine .bind (.discard (h.updateRooms _)) fun _ => ?_
    split
    · exact .discard (h.propagateBan _ _ _)
    · exact h.note _
  | other membership => exact h.note _

theorem observeTransition (room : RoomId) (t : Transition) :
    Respects R (observeTransition room t) := by
  refine h.look (fun _ => rfl) fun bot => ?_
  split
  · exact .pure _
  · split
    · exact h.note _
    · exact .bind (h.count _ nofun) fun _ => h.applyTransition room t

theorem applyEvent (room : RoomId) (e : Event) : Respects R (applyEvent room e) := by
  refine h.look (fun _ => rfl) fun bot => ?_
  split
  · exact h.count _ nofun
  · exact .discard (h.receiveChat _ _ _)
  · exact .first_if (h.note _) fun _ => h.observeTransition _ _
  · exact h.note _
  · exact .pure _

/-- What the events of a room lead to. -/
theorem applyRoom (room : RoomId) (events : List Event) : Respects R (applyRoom room events) := by
  refine h.look (fun _ => rfl) fun bot => ?_
  split
  · split
    · exact h.spawn _ rfl rfl
    · exact .pure _
  · split
    · exact h.note _
    · exact .each fun e _ => h.applyEvent room e

end

end Likeness

/-! ### Worlds with the same bot -/

/-- A relation of worlds is a congruence if notices, calls other than for new rooms, changes that
leave the welcome rooms, the moment of being ready and the cursor alone, counting anything but
closed welcome rooms, putting off work other than coming back to a room and reading the feed, and
saying what is going on respect it, and it holds only between worlds with the same bot. -/
structure Congruence (R : World → World → Prop) : Prop where
  bot : ∀ {v w : World}, R v w → v.bot = w.bot
  noteAll : ∀ notices, Respects R (noteAll notices)
  countBy : ∀ (c : Counter) (n : Nat), c.family ≠ .welcomeEvictions → Respects R (countBy c n)
  change : ∀ f : Bot → Bot, (∀ b, (f b).welcome = b.welcome ∧ (f b).readyTs = b.readyTs ∧
    (f b).cursor = b.cursor) → Respects R (change f)
  call : ∀ c : Call, (∀ request, c ≠ .create request) → Respects R (call c).run
  spawn : ∀ job : Job, job.isReturn = false → job.isFeed = false → Respects R (spawn job)
  during : ∀ {γ : Type} (activity : Activity) {x y : BotM γ}, Parallel R x y →
    Parallel R (during activity x) (during activity y)

namespace Congruence

section

variable (h : Congruence R)

include h

theorem getBot : Respects R getBot :=
  fun _ _ hR => ⟨h.bot hR, hR⟩

theorem getConfig : Respects R getConfig :=
  fun _ _ hR => ⟨congrArg Bot.config (h.bot hR), hR⟩

theorem note (notice : Notice) : Respects R (note notice) :=
  h.noteAll [notice]

theorem attempt (action : String) (c : Call) (hc : ∀ request, c ≠ .create request) :
    Respects R (attempt action c).run := by
  refine .bind (h.call c hc) fun result => ?_
  cases result with
  | ok _ => exact .pure _
  | error e => exact .bind (h.countBy _ 1 nofun) fun _ => .pure _

theorem configure {γ : Type} (edit : Config.Edit γ) : Respects R (configure edit) :=
  .bind h.getBot fun _ => .bind (h.change _ fun _ => ⟨rfl, rfl, rfl⟩) fun _ =>
    .bind (h.noteAll _) fun _ => .pure _

theorem banMember (room : RoomId) (member : MemberId) (reason : String) :
    Respects R (banMember room member reason).run :=
  .ban h.getConfig h.note (h.attempt _ _ nofun) (h.change _ fun _ => ⟨rfl, rfl, rfl⟩)

theorem unbanMember (room : RoomId) (member : MemberId) :
    Respects R (unbanMember room member).run :=
  .unban h.getConfig h.note (h.attempt _ _ nofun) (h.change _ fun _ => ⟨rfl, rfl, rfl⟩)

/-- A congruence is a likeness: worlds with the same bot look the same. -/
theorem likeness : Likeness R where
  outward hR := congrArg Bot.outward (h.bot hR)
  noteAll := h.noteAll
  countBy := h.countBy
  change f _ hf := h.change f fun b => (hf b).2
  configure edit _ := h.configure edit
  call c _ hc := h.call c hc
  banMember := h.banMember
  unbanMember := h.unbanMember
  spawn := h.spawn
  during := h.during

end

end Congruence

end RoomModeration
