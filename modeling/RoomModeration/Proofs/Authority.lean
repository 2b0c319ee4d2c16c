import RoomModeration.Proofs.Room.Welcoming
import RoomModeration.Proofs.Room.Meaning
import RoomModeration.Proofs.Room.Presence
import RoomModeration.Proofs.Task

/-!
# Without an admin

Only an admin can make the bot change its configuration, enter a room that it does not monitor, or
post anything but a greeting in a room that it has just created. So in a run in which no admin but
the bot itself sends a message, none of this ever happens, whatever else the feed brings and however
the homeserver answers. The bot may be an admin by its own configuration; its messages are no
commands.

A batch in which an admin does send a message is found in the history, and from there on nothing is
promised.

## Main definitions

* `Powerless` : a sender who can give no commands.
* `Greets` : a message is the greeting in a room that was just created.
* `Faithful` : the configuration is as it was, and only so much has been done.
* `Modest` : the permission to do what needs no admin.

## Main results

* `endures_calm` : a world stays faithful until an admin sends a message.
* `faithful_without_admins` : runs without messages of admins are faithful throughout.
-/

namespace RoomModeration

open BotM RoomModeration.Bot

/-- A sender can give no commands: they are no admin, or they are the bot itself. -/
def Powerless (selfId : MemberId) (config : Config) (sender : MemberId) : Prop :=
  config.isAdmin sender = true → sender = selfId

/-- No message of a batch is from someone who can give commands. -/
def FeedBatch.Powerless (selfId : MemberId) (config : Config) (batch : FeedBatch) : Prop :=
  ∀ entry ∈ batch.joined.toList, ∀ e ∈ entry.2, e.textBody?.isSome = true →
    RoomModeration.Powerless selfId config e.sender

instance (selfId : MemberId) (config : Config) (batch : FeedBatch) :
    Decidable (batch.Powerless selfId config) :=
  inferInstanceAs (Decidable (∀ entry ∈ batch.joined.toList, ∀ e ∈ entry.2,
    e.textBody?.isSome = true → config.isAdmin e.sender = true → e.sender = selfId))

section

variable [Surroundings] {selfId : MemberId} {store : ConfigStore} {w w' : World}

/-! ### What needs no admin -/

/-- A message is the greeting for a newcomer in a room, and all that has happened since the bot
created this room for the newcomer is that it asked for the name of the room joined. -/
def Greets (config : Config) (room : RoomId) (message : Message) (older : List Occurrence) :
    Prop :=
  ∃ source member template name asking creating activities before rest,
    config.welcomeTemplate? source = some template ∧
    message = .greeting template member (nameOr source name) ∧
    older = .called asking activities (.displayName source) name ::
      .called creating before (.create (config.welcome.creation member)) (.ok room) :: rest

/-- An occurrence needs no admin: a call was made with the configuration as it was, and if it was to
enter a room, this room is monitored, and if it was to post, the message was a greeting. -/
def Occurrence.Innocent (store : ConfigStore) (older : List Occurrence) : Occurrence → Prop
  | called before _ (.join room _) _ =>
    before.store = store ∧ store.config.isMonitored room = true
  | called before _ (.send room message) _ =>
    before.store = store ∧ Greets store.config room message older
  | called before _ _ _ => before.store = store
  | polled .. | answered _ | applied _ => True

/-- The bot is the one that it was, with the configuration that it had, and nothing has occurred
that needs an admin. -/
structure Faithful (selfId : MemberId) (store : ConfigStore) (w : World) : Prop where
  self : w.bot.selfId = selfId
  kept : w.bot.store = store
  innocent : ∀ newer o older, w.history = newer ++ o :: older → o.Innocent store older

/-- The permission to do what needs no admin, but for greeting. -/
def Modest (store : ConfigStore) : Permission where
  Allows _
    | .call (.join room _) => store.config.isMonitored room = true
    | .call (.send ..) | .change (.stored _) => False
    | .aside | .report | .call _ | .change _ => True
  aside _ := trivial

namespace Faithful

theorem of_eq (h : Faithful selfId store w) (hself : w'.bot.selfId = w.bot.selfId)
    (hstore : w'.bot.store = w.bot.store) (hhistory : w'.history = w.history) :
    Faithful selfId store w' where
  self := hself.trans h.self
  kept := hstore.trans h.kept
  innocent := hhistory ▸ h.innocent

theorem cons (h : Faithful selfId store w) (hbot : w'.bot = w.bot) {o : Occurrence}
    (hhistory : w'.history = o :: w.history) (ho : o.Innocent store w.history) :
    Faithful selfId store w' where
  self := by rw [hbot, h.self]
  kept := by rw [hbot, h.kept]
  innocent newer p older heq := by
    rw [hhistory] at heq
    cases newer with
    | nil =>
      obtain ⟨rfl, rfl⟩ := List.cons.inj heq
      exact ho
    | cons _ newer => exact h.innocent newer p older (List.cons.inj heq).2

/-- A call that is neither to enter a room nor to post needs no admin. -/
theorem call (h : Faithful selfId store w) (hbot : w'.bot = w.bot) {c : Call}
    {result : Except ActionError c.Reply} {activities : List Activity}
    (hhistory : w'.history = .called w.bot activities c result :: w.history)
    (hc : (Modest store).Allows w (.call c)) : Faithful selfId store w' := by
  refine h.cons hbot hhistory ?_
  cases c with
  | join => exact ⟨h.kept, hc⟩
  | send => exact hc.elim
  | _ => exact h.kept

end Faithful

theorem preserves_faithful (selfId : MemberId) (store : ConfigStore) :
    (Modest store).Preserves (Faithful selfId store) := by
  intro w w' d hd hleads hw
  cases hleads with
  | aside bot history => exact hw.of_eq (by rw [bot]) (by rw [bot]) history
  | call c result bot history => exact hw.call bot history hd
  | change c bot history =>
    refine hw.of_eq (by rw [bot, c.selfId_apply]) ?_ history
    rw [bot]
    refine Change.store_apply (fun store hc => ?_) w.bot
    subst hc
    exact hd
  | report o noCall bot history =>
    refine hw.cons bot history ?_
    cases o with
    | called => cases noCall
    | polled | answered | applied => trivial

/-- Opening a welcome room needs no admin, and neither does greeting there. -/
theorem Faithful.hosted (h : Faithful selfId store w) {source : RoomId} {member : MemberId}
    (hhosted : Hosted source member w w') : Faithful selfId store w' := by
  cases hhosted with
  | refused e bot history => exact h.call bot history trivial
  | opened room made bot history greeting =>
    let registered : World := { w with
      bot := w.bot.register ⟨room, member, source, w.now⟩
      history := .called w.bot w.activities (.create (w.bot.config.welcome.creation member))
        (.ok room) :: w.history }
    let created : World := { w with history := registered.history }
    have hcreated : Faithful selfId store created := h.call rfl rfl trivial
    have hregistered : Faithful selfId store registered := hcreated.of_eq rfl rfl rfl
    have hbot : w'.bot = registered.bot := bot
    rw [hbot] at greeting
    cases greeting with
    | silent => exact hregistered.of_eq (by rw [hbot]) (by rw [hbot]) history
    | spoken template some name result =>
      let asked : World := { registered with
        history := .called registered.bot w.activities (.displayName source) name ::
          registered.history }
      have hasked : Faithful selfId store asked := hregistered.call rfl rfl trivial
      refine hasked.cons hbot history ⟨h.kept, ?_⟩
      have hconfig : w.bot.config = store.config := congrArg ConfigStore.config h.kept
      refine ⟨source, member, template, name, registered.bot, w.bot, w.activities, w.activities,
        w.history, ?_, rfl, ?_⟩
      · rw [← hconfig]
        exact some
      · rw [← hconfig]

/-! ### Until an admin sends a message -/

/-- A batch with a message of someone who can give commands has been applied. -/
def Led (selfId : MemberId) (config : Config) (history : List Occurrence) : Prop :=
  ∃ batch, .applied batch ∈ history ∧ ¬ batch.Powerless selfId config

/-- A world is calm if it is faithful, or someone who can give commands has sent a message. -/
def Calm (selfId : MemberId) (store : ConfigStore) (w : World) : Prop :=
  Faithful selfId store w ∨ Led selfId store.config w.history

theorem preserves_led (K : Permission) (selfId : MemberId) (config : Config) :
    K.Preserves fun w => Led selfId config w.history := by
  rintro w w' d _ hleads ⟨batch, hmem, hled⟩
  refine ⟨batch, ?_, hled⟩
  cases hleads with
  | aside _ history | change _ _ history =>
    rw [history]
    exact hmem
  | report o _ _ history | call _ _ _ history =>
    rw [history]
    exact List.mem_cons_of_mem _ hmem

theorem preserves_calm (selfId : MemberId) (store : ConfigStore) :
    (Modest store).Preserves (Calm selfId store) :=
  fun _ _ _ hd hleads hw => hw.imp (preserves_faithful selfId store hd hleads)
    (preserves_led _ selfId store.config hd hleads)

theorem keeps_calm {α : Type} {step : BotM α} (hdoes : Does Anything step)
    (hstep : ∀ w, Faithful selfId store w → Calm selfId store (step.run w).2) :
    Keeps (Calm selfId store) step := by
  rintro w (hfaithful | hled)
  · exact hstep w hfaithful
  · exact .inr (hdoes.keeps (preserves_led Anything selfId store.config) w hled)

/-- Giving and lifting bans needs no admin. -/
theorem Series.faithful {l : List (Sanction × Bool)} (h : Series w l w')
    (hw : Faithful selfId store w) : Faithful selfId store w' := by
  refine (preserves_faithful selfId store).trace (h.trace (fun _ a => ?_) fun _ a => ?_) hw
  · obtain ⟨room, member, reason?⟩ := a
    cases reason? <;> trivial
  · obtain ⟨room, member, reason?⟩ := a
    cases reason? <;> trivial

theorem keeps_calm_receiveChat {sender : MemberId} (hsender : Powerless selfId store.config sender)
    (room : RoomId) (body : String) : Keeps (Calm selfId store) (receiveChat room sender body) := by
  refine keeps_calm (fun w => (receiveChat_cases room sender body w).warranted.within)
    fun w hw => .inl ?_
  have hunheeded : sender = w.bot.selfId ∨ w.bot.config.mayCommand room sender = false := by
    rw [Config.mayCommand, show w.bot.config = store.config from congrArg _ hw.kept, hw.self]
    cases hadmin : store.config.isAdmin sender with
    | true => exact .inl (hsender hadmin)
    | false => exact .inr (Bool.and_false _)
  have halike := alike_receiveChat hunheeded body
  exact hw.of_eq (by rw [halike.bot]) (by rw [halike.bot]) halike.history

/-- An event needs no admin, unless it is a message of one. -/
theorem keeps_calm_applyEvent {e : Event}
    (he : e.textBody?.isSome = true → Powerless selfId store.config e.sender) (room : RoomId) :
    Keeps (Calm selfId store) (applyEvent room e) := by
  refine keeps_calm (does_applyEvent room e).within fun w hw => ?_
  cases hmeaning : e.meaning w.bot.selfId w.bot.readyTs w.bot.rooms room with
  | chat sender body =>
    obtain ⟨-, rfl, htext⟩ := Event.chat_of_meaning hmeaning
    have hrun : (applyEvent room e).run w = (discard (receiveChat room e.sender body)).run w := by
      unfold applyEvent
      rw [run_bind, run_getBot]
      dsimp only
      rw [hmeaning]
    rw [hrun]
    exact keeps_calm_receiveChat (he (by rw [htext]; rfl)) room body w (.inl hw)
  | stale | membership | profile | ignored =>
    cases applyEvent_cases room e w with
    | passed _ alike => exact .inl (hw.of_eq (by rw [alike.bot]) (by rw [alike.bot]) alike.history)
    | message sender body meaning =>
      rw [hmeaning] at meaning
      cases meaning
    | changed t _ _ _ l series => exact .inl (series.faithful (hw.of_eq rfl rfl rfl))

theorem keeps_calm_handleLeft (room : RoomId) : Keeps (Calm selfId store) (handleLeft room) := by
  refine keeps_calm (does_handleLeft room).within fun w hw => .inl ?_
  cases departed_handleLeft room w with
  | forgotten _ bot history =>
    have hbot : ((handleLeft room).run w).2.bot = (Change.unregistered room).apply w.bot := bot
    refine hw.of_eq ?_ ?_ history
    · rw [hbot, Change.selfId_apply]
    · rw [hbot, Change.store_apply (c := .unregistered room) fun _ => nofun]
  | ended _ bot history => exact hw.of_eq (by rw [bot]; rfl) (by rw [bot]; rfl) history

/-- A batch needs no admin; if there is a message of one in it, a world is calm all the same. -/
theorem keeps_calm_applyBatch (batch : FeedBatch) :
    Keeps (Calm selfId store) (applyBatch batch) := by
  have hcalm := (preserves_calm selfId store).undisturbed
  have hled := (preserves_led Anything selfId store.config).undisturbed
  by_cases hbatch : batch.Powerless selfId store.config
  · have hrecord : Does (Modest store) (record (.applied batch)) := .record rfl fun _ => trivial
    have hcursor : Does (Modest store)
        (change fun b => { b with cursor := some batch.nextBatch }) :=
      .change (.cursorMoved batch.nextBatch) (fun _ => rfl) fun _ => trivial
    exact brings_applyBatch hcalm hcalm batch (hrecord.keeps (preserves_calm selfId store))
      (fun entry hentry e he => keeps_calm_applyEvent (hbatch entry hentry e he) entry.1)
      (Keeps.forM fun room _ => .discard (keeps_calm_handleLeft room))
      (hcursor.keeps (preserves_calm selfId store))
  · have hkeeps {α : Type} {step : BotM α} (h : Does Anything step) :
        Keeps (fun w => Led selfId store.config w.history) step :=
      h.keeps (preserves_led Anything selfId store.config)
    have hbrings : Brings (Calm selfId store) (fun w => Led selfId store.config w.history)
        (applyBatch batch) := by
      refine brings_applyBatch hled hled batch (fun w _ => ⟨batch, List.mem_cons_self, hbatch⟩)
        (fun entry _ e _ => hkeeps (does_applyEvent entry.1 e).within)
        (Keeps.forM fun room _ => .discard (hkeeps (does_handleLeft room).within)) (hkeeps ?_)
      exact .change (.cursorMoved batch.nextBatch) (fun _ => rfl) fun _ => trivial
    exact fun w hw => .inr (hbrings w hw)

/-- To enter a monitored room needs no admin. -/
theorem keeps_calm_joinRoom {room : RoomId} (h : store.config.isMonitored room = true) :
    Keeps (Calm selfId store) (joinRoom room).run :=
  Does.keeps (does_joinRoom_of_allows (fun _ => h) (fun _ _ => trivial) (fun _ _ => trivial)
    fun _ _ _ _ _ => trivial) (preserves_calm selfId store)

theorem keeps_calm_joinMonitored :
    Keeps (Calm selfId store) (getConfig >>= fun config => joinEach config.monitoredRooms) := by
  have hjoin : Keeps (Calm selfId store) (joinEach store.config.monitoredRooms) := by
    refine keeps_joinEach (preserves_calm selfId store).undisturbed fun room hroom => ?_
    rw [Config.monitoredRooms, Std.ExtTreeMap.mem_keys, ← Std.ExtTreeMap.contains_iff_mem] at hroom
    exact keeps_calm_joinRoom hroom
  refine keeps_calm (.bind .getConfig fun _ => (does_joinEach _).within) fun w hw => ?_
  rw [run_bind, run_getConfig, show w.bot.config = store.config from congrArg _ hw.kept]
  exact hjoin w (.inl hw)

theorem keeps_calm_rejoin (room : RoomId) : Keeps (Calm selfId store) (Bot.rejoin room) := by
  refine keeps_rejoin (preserves_calm selfId store).undisturbed room fun w hmonitored hw => ?_
  obtain hfaithful | hled := hw
  · rw [show w.bot.config = store.config from congrArg _ hfaithful.kept] at hmonitored
    exact keeps_calm_joinRoom hmonitored w (.inl hfaithful)
  · have hdoes : Does Anything (joinRoom room).run := (does_joinRoom room).within
    exact .inr (hdoes.keeps (preserves_led Anything selfId store.config) w hled)

theorem keeps_calm_leaveRoom (room : RoomId) : Keeps (Calm selfId store) (leaveRoom room).run := by
  refine keeps_calm (does_leaveRoom room).within fun w hw => .inl ?_
  have hleft := left_leaveRoom room w
  cases hrun : (leaveRoom room).run.run w with
  | mk result v =>
    rw [hrun] at hleft
    cases hleft with
    | refused e called => exact hw.call called.bot called.history trivial
    | left bot history =>
      let asked : World :=
        { w with history := .called w.bot w.activities (.leave room) (.ok ()) :: w.history }
      have hasked : Faithful selfId store asked := hw.call rfl rfl trivial
      exact hasked.of_eq (by rw [bot]; rfl) (by rw [bot]; rfl) history

theorem keeps_calm_evict (room : RoomId) (why : Eviction) :
    Keeps (Calm selfId store) (evict room why) := by
  refine keeps_calm (does_evict room why).within fun w hw => .inl ?_
  cases hregistered : w.bot.welcome.contains room with
  | false =>
    rw [run_evict_of_not_contains why hregistered]
    exact hw
  | true =>
    obtain ⟨-, hclosed, result, hhistory⟩ := closed_evict why hregistered
    let removed : World := { w with bot := (Change.unregistered room).apply w.bot }
    have hremoved : Faithful selfId store removed :=
      hw.of_eq (Change.selfId_apply _ _)
        (Change.store_apply (c := .unregistered room) (fun _ => nofun) _) rfl
    exact hremoved.call hclosed.bot hhistory trivial

/-- A world stays calm, but for messages that arrive by themselves. -/
theorem endures_calm (selfId : MemberId) (store : ConfigStore) : Endures (Calm selfId store) where
  idle := (preserves_calm selfId store).undisturbed
  report o ho _ := (Does.record ho fun _ => trivial).keeps (preserves_calm selfId store)
  ask := (Does.attempt "joined_rooms" fun _ => trivial).keeps (preserves_calm selfId store)
  measure := (Does.change .measured (fun _ => rfl) fun _ => trivial).keeps
    (preserves_calm selfId store)
  shutdown := (Does.bind (.note _) fun _ => .change .shutdownAsked (fun _ => rfl)
    fun _ => trivial).keeps (preserves_calm selfId store)
  batch := keeps_calm_applyBatch
  reconcile := keeps_calm does_reconcile.within fun w hw => by
    obtain ⟨l, hl, -⟩ := reconcile_series w
    exact .inl (hl.faithful hw)
  join := keeps_calm_joinMonitored
  rejoin := keeps_calm_rejoin
  leave := keeps_calm_leaveRoom
  evict := keeps_calm_evict
  welcome source member := keeps_calm (does_welcomeNewcomer source member).within fun w hw =>
    .inl (hw.hosted (hosted_welcomeNewcomer source member w))

/-- In a run in which no admin but the bot itself sends a message, neither by itself nor in any
batch that is applied, the bot has its configuration throughout, asks to enter monitored rooms only,
and posts nothing but greetings in rooms that it has just created. -/
theorem faithful_without_admins (selfId : MemberId) (store : ConfigStore)
    (server : Surroundings.Server) (xs : List Happening)
    (hchat : ∀ room sender body, .chat room sender body ∈ xs →
      Powerless selfId store.config sender)
    (hfeed : ∀ batch,
      .applied batch ∈ ((World.initial (Bot.initial selfId store) server).after xs).history →
        batch.Powerless selfId store.config) :
    ∀ before, before <+: xs →
      Faithful selfId store ((World.initial (Bot.initial selfId store) server).after before) := by
  rintro before ⟨rest, rfl⟩
  let w := (World.initial (Bot.initial selfId store) server).after before
  have hbegin : Faithful selfId store (World.initial (Bot.initial selfId store) server) :=
    ⟨rfl, rfl, fun newer o older heq => absurd heq (by simp [World.initial])⟩
  have hcalm : Calm selfId store w := by
    refine after_invariant (fun x hx => ?_) (.inl hbegin)
    refine (endures_calm selfId store).happening x (fun readyTs _ => ?_)
      fun room sender body h => ?_
    · exact (Does.change (.readied readyTs) (fun _ => rfl) fun _ => trivial).keeps
        (preserves_calm selfId store)
    · subst h
      exact keeps_calm_receiveChat (hchat room sender body (List.mem_append_left _ hx)) room body
  refine hcalm.resolve_right fun hled => ?_
  have hstill : Led selfId store.config (w.after rest).history :=
    after_invariant (I := fun v => Led selfId store.config v.history)
      (fun x _ => (does_warranted x).keeps (preserves_led _ selfId store.config)) hled
  obtain ⟨batch, hmem, hpower⟩ := hstill
  rw [World.after_append] at hfeed
  exact hpower (hfeed batch hmem)

end

namespace Sample

/-- The bot. -/
def warden : MemberId := ⟨"@warden:x"⟩

/-- A configuration in which the bot is an admin besides the moderator, and in which newcomers to
the lobby are greeted. -/
def guarded : Config :=
  { Config.ofHomeserver ⟨"", "", "", none, none, none⟩ with
    admins := .ofList [alice, warden]
    rooms := .ofList [(lobby, RoomConfig.mk (.ofList [RoomMode.administration, RoomMode.welcome])
      (.ofList [("WELCOME", "Hello")]))] }

/-- The bot starts, a member who is no admin and the bot itself say what would be commands of an
admin, a newcomer joins, and the job of greeting them is done. -/
def visit : List Happening :=
  [.start 0, .batch (news lobby (.chatMessage mallory "!room add !attic:x" 1)),
    .batch (news lobby (.chatMessage warden "!admin add @mallory:x" 2)),
    .batch (news lobby (.membership bob bob .join none 3)), .work 3]

end Sample

section

attribute [local instance] Sample.surroundings

/-- During the visit nobody but the bot is an admin, and one message is posted: the newcomer is
greeted. -/
theorem faithful_visit :
    let w₀ : World := World.initial (Bot.initial Sample.warden (.inMemory Sample.guarded)) ()
    (∀ room sender body, .chat room sender body ∈ Sample.visit →
      Powerless Sample.warden Sample.guarded sender) ∧
    (∀ batch, .applied batch ∈ (w₀.after Sample.visit).history →
      batch.Powerless Sample.warden Sample.guarded) ∧
    Sample.guarded.isAdmin Sample.warden = true ∧
    Faithful Sample.warden (.inMemory Sample.guarded) (w₀.after Sample.visit) ∧
    ((w₀.after Sample.visit).history.filterMap Occurrence.call?).contains
      (.send Sample.parlour (.formatted "Hello" "Hello")) = true := by
  intro w₀
  have hchat : ∀ room sender body, .chat room sender body ∈ Sample.visit →
      Powerless Sample.warden Sample.guarded sender := by
    intro room sender body hmem
    simp [Sample.visit] at hmem
  have hall : ((w₀.after Sample.visit).history.all fun
      | .applied batch => decide (batch.Powerless Sample.warden Sample.guarded)
      | _ => true) = true := by decide +kernel
  have hfeed : ∀ batch, .applied batch ∈ (w₀.after Sample.visit).history →
      batch.Powerless Sample.warden Sample.guarded :=
    fun batch hmem => of_decide_eq_true (List.all_eq_true.1 hall _ hmem)
  refine ⟨hchat, hfeed, by decide +kernel, ?_, by decide +kernel⟩
  exact faithful_without_admins _ _ _ Sample.visit hchat hfeed _ (List.prefix_refl _)

end

end RoomModeration
