import RoomModeration.Bot.Rooms
import RoomModeration.Proofs.Step
import Mathlib.Logic.Relation

/-!
# What the bot does, deed by deed

Every step of the bot is a row of deeds: it calls the homeserver, it changes what the bot keeps, it
writes down what the feed has brought, or it does something that concerns neither the bot nor the
history. What a step does is said once, as the deeds it is made of and what is known when each of
them is done; what holds along every row of such deeds then holds along the step.

A permission says which deeds may be done in which worlds, and it may lie within another one. Steps
that only speak, to the homeserver or to the operator, leave the bot as it is, give no bans and
enter or leave no rooms.

## Main definitions

* `Change`, `Deed` : the changes of the bot, and the deeds.
* `Alike` : nothing that matters has happened.
* `Permission.Within` : a permission lies within another one.
* `Trace` : a row of permitted deeds.
* `Does` : a step that is a row of permitted deeds, whatever world it begins in.
* `Speaking` : the permission to speak only.

## Main results

* `Trace.invariant` : what every permitted deed keeps, a row of them keeps.
* `Trace.bot_eq`, `Trace.failedModerations_eq` : speaking changes nothing.
-/

namespace RoomModeration

/-! ### Deeds -/

/-- Whether a call bans or lifts a ban. -/
def Call.isModeration : Call → Bool
  | ban .. | unban .. => true
  | _ => false

/-- Whether a call brings the bot into a room or out of one. -/
def Call.isMove : Call → Bool
  | join .. | leave _ | create _ => true
  | _ => false

/-- The call that an occurrence is about, if it is about one. -/
def Occurrence.call? : Occurrence → Option Call
  | called _ _ c _ => some c
  | polled .. | answered _ | applied _ => none

/-- Whether an occurrence is a ban or the lifting of one that the homeserver has refused. -/
def Occurrence.isFailedModeration : Occurrence → Bool
  | called _ _ (.ban ..) (.error _) | called _ _ (.unban ..) (.error _) => true
  | _ => false

theorem Occurrence.isFailedModeration_of_isModeration_eq_false {before : Bot}
    {activities : List Activity} {c : Call} {result : Except ActionError c.Reply}
    (h : c.isModeration = false) :
    (called before activities c result).isFailedModeration = false := by
  cases c with
  | ban | unban => cases h
  | _ => rfl

/-- A change of what the bot keeps. -/
inductive Change where
  /-- The configuration is kept anew. -/
  | stored (store : ConfigStore)
  /-- The record of a room is begun. -/
  | seeded (room : RoomId) (members : List MemberId) (banned : MemberMap String)
    (config : RoomConfig)
  /-- The record of a room is ended. -/
  | dropped (room : RoomId)
  /-- A member has joined. -/
  | joined (room : RoomId) (member : MemberId)
  /-- A member has left. -/
  | left (room : RoomId) (member : MemberId)
  /-- A member has been banned. -/
  | banned (room : RoomId) (member : MemberId) (reason : String)
  /-- A ban has been lifted. -/
  | unbanned (room : RoomId) (member : MemberId)
  /-- The modes of a record are read anew. -/
  | refreshed (room : RoomId)
  /-- A welcome room is registered. -/
  | registered (entry : WelcomeRoom)
  /-- A welcome room is taken out of the registry. -/
  | unregistered (room : RoomId)
  /-- The feed has come to a place. -/
  | cursorMoved (cursor : String)
  /-- The bot is ready from a moment on. -/
  | readied (ts : Timestamp)
  /-- The bot is asked to end. -/
  | shutdownAsked
  /-- The numbers of rooms are shown. -/
  | measured

/-- The bot after a change. -/
def Change.apply : Change → Bot → Bot
  | stored store, b => { b with store := store }
  | seeded room members bans config, b => b.seed room members bans config
  | dropped room, b => b.dropRoom room
  | joined room member, b => { b with rooms := (b.rooms.applyJoin room member).2 }
  | left room member, b => { b with rooms := (b.rooms.applyLeave room member).2 }
  | banned room member reason, b => { b with rooms := (b.rooms.applyBan room member reason).2 }
  | unbanned room member, b => { b with rooms := (b.rooms.applyUnban room member).2 }
  | refreshed room, b => b.refreshModes room
  | registered entry, b => b.register entry
  | unregistered room, b => (b.unregister room).2
  | cursorMoved cursor, b => { b with cursor := some cursor }
  | readied ts, b => { b with readyTs := ts }
  | shutdownAsked, b => { b with shutdown := true }
  | measured, b => { b with trackedGauge := b.rooms.size, welcomeGauge := b.welcome.size }

/-- The bot stays the same account. -/
theorem Change.selfId_apply (c : Change) (b : Bot) : (c.apply b).selfId = b.selfId := by
  cases c with
  | unregistered room =>
    change (b.unregister room).2.selfId = b.selfId
    unfold Bot.unregister
    split <;> rfl
  | _ => rfl

/-- The configuration is changed only where it is kept anew. -/
theorem Change.store_apply {c : Change} (hc : ∀ store, c ≠ .stored store) (b : Bot) :
    (c.apply b).store = b.store := by
  cases c with
  | stored store => exact absurd rfl (hc store)
  | unregistered room =>
    change (b.unregister room).2.store = b.store
    unfold Bot.unregister
    split <;> rfl
  | _ => rfl

/-- Something that the bot does at one go. -/
inductive Deed where
  /-- Something that concerns neither the bot nor the history. -/
  | aside
  /-- Something that the feed has brought is written down. -/
  | report
  /-- A call of the homeserver. -/
  | call (c : Call)
  /-- A change of the bot. -/
  | change (c : Change)

variable [Surroundings] {α β ε : Type} {w w' w'' : World}

/-- Two worlds are alike if they differ in nothing but queues, counters, notices and what is around
the bot. -/
structure Alike (w w' : World) : Prop where
  bot : w'.bot = w.bot
  history : w'.history = w.history
  activities : w'.activities = w.activities

theorem Alike.refl (w : World) : Alike w w :=
  ⟨rfl, rfl, rfl⟩

theorem Alike.symm (h : Alike w w') : Alike w' w :=
  ⟨h.bot.symm, h.history.symm, h.activities.symm⟩

theorem Alike.trans (h : Alike w w') (h' : Alike w' w'') : Alike w w'' :=
  ⟨h'.bot.trans h.bot, h'.history.trans h.history, h'.activities.trans h.activities⟩

/-- What a deed makes of a world. -/
inductive Deed.Leads (w w' : World) : Deed → Prop
  | aside (bot : w'.bot = w.bot) (history : w'.history = w.history) : Leads w w' .aside
  | report (o : Occurrence) (noCall : o.call? = none) (bot : w'.bot = w.bot)
      (history : w'.history = o :: w.history) : Leads w w' .report
  | call (c : Call) (result : Except ActionError c.Reply) (bot : w'.bot = w.bot)
      (history : w'.history = .called w.bot w.activities c result :: w.history) :
      Leads w w' (.call c)
  | change (c : Change) (bot : w'.bot = c.apply w.bot) (history : w'.history = w.history) :
      Leads w w' (.change c)

/-- Which deeds may be done in which worlds. What concerns neither the bot nor the history always
may. -/
structure Permission where
  /-- Whether a deed may be done in a world. -/
  Allows : World → Deed → Prop
  /-- Asides are always allowed. -/
  aside : ∀ w, Allows w .aside

/-- Whatever one permission allows, the other allows as well. -/
class Permission.Within (K L : Permission) : Prop where
  /-- What is allowed is allowed. -/
  allows : ∀ {w d}, K.Allows w d → L.Allows w d

instance (K : Permission) : K.Within K where
  allows h := h

theorem Permission.Within.trans (K L M : Permission) [hKL : K.Within L] [hLM : L.Within M] :
    K.Within M where
  allows h := hLM.allows (hKL.allows h)

variable {K L : Permission}

/-- A row of permitted deeds. -/
def Trace (K : Permission) : World → World → Prop :=
  Relation.ReflTransGen fun w w' => ∃ d, K.Allows w d ∧ Deed.Leads w w' d

namespace Trace

theorem refl (w : World) : Trace K w w :=
  Relation.ReflTransGen.refl

theorem trans (h : Trace K w w') (h' : Trace K w' w'') : Trace K w w'' :=
  Relation.ReflTransGen.trans h h'

theorem single {d : Deed} (hK : K.Allows w d) (h : Deed.Leads w w' d) : Trace K w w' :=
  Relation.ReflTransGen.single ⟨d, hK, h⟩

theorem aside (bot : w'.bot = w.bot) (history : w'.history = w.history) : Trace K w w' :=
  single (K.aside w) (.aside bot history)

theorem mono (hKL : ∀ w d, K.Allows w d → L.Allows w d) (h : Trace K w w') : Trace L w w' :=
  Relation.ReflTransGen.mono (fun _ _ ⟨d, hK, hd⟩ => ⟨d, hKL _ d hK, hd⟩) _ _ h

theorem within [K.Within L] (h : Trace K w w') : Trace L w w' :=
  h.mono fun _ _ => Permission.Within.allows

/-- What every permitted deed keeps, a row of them keeps. -/
theorem invariant {I : World → Prop}
    (hI : ∀ {w w' d}, K.Allows w d → Deed.Leads w w' d → I w → I w') (h : Trace K w w')
    (hw : I w) : I w' := by
  induction h with
  | refl => exact hw
  | tail _ hd ih =>
    obtain ⟨d, hK, hd⟩ := hd
    exact hI hK hd ih

/-- Deeds only add to the history. -/
theorem suffix (h : Trace K w w') : w.history <:+ w'.history := by
  refine h.invariant (I := fun v => w.history <:+ v.history) (fun _ hd hv => ?_) List.suffix_rfl
  cases hd with
  | aside _ history => rwa [history]
  | report o _ _ history => exact history ▸ hv.trans (List.suffix_cons o _)
  | call c result _ history => exact history ▸ hv.trans (List.suffix_cons _ _)
  | change c _ history => rwa [history]

end Trace

/-! ### Steps made of deeds -/

/-- A step is a row of permitted deeds, whatever world it begins in. -/
def Does (K : Permission) (step : BotM α) : Prop :=
  ∀ w : World, Trace K w (step.run w).2

namespace Does

theorem within [K.Within L] {step : BotM α} (h : Does K step) : Does L step :=
  fun w => (h w).within

theorem pure (a : α) : Does K (pure a : BotM α) :=
  fun w => .refl w

theorem bind {x : BotM α} {f : α → BotM β} (hx : Does K x) (hf : ∀ a, Does K (f a)) :
    Does K (x >>= f) :=
  fun w => (hx w).trans (hf _ _)

theorem discard {x : BotM α} (hx : Does K x) : Does K (discard x) :=
  fun w => hx w

theorem pure_except (a : α) : Does K (Pure.pure a : ExceptT ε BotM α).run :=
  fun w => .refl w

theorem throw (e : ε) : Does K (MonadExcept.throw e : ExceptT ε BotM α).run :=
  fun w => .refl w

theorem lift {x : BotM α} (hx : Does K x) : Does K (liftM x : ExceptT ε BotM α).run :=
  fun w => hx w

theorem bind_except {x : ExceptT ε BotM α} {f : α → ExceptT ε BotM β} (hx : Does K x.run)
    (hf : ∀ a, Does K (f a).run) : Does K (x >>= f).run := by
  intro w
  have hw := hx w
  rw [run_bind_except]
  cases hrun : x.run.run w with
  | mk result w' =>
    rw [hrun] at hw
    cases result with
    | ok a => exact hw.trans (hf a w')
    | error e => exact hw

theorem discard_except {x : ExceptT ε BotM α} (hx : Does K x.run) :
    Does K (Functor.discard x : ExceptT ε BotM PUnit).run :=
  bind_except hx fun _ => pure_except _

theorem forM {step : α → BotM PUnit} (h : ∀ a, Does K (step a)) (l : List α) :
    Does K (l.forM step) := by
  induction l with
  | nil => exact pure ()
  | cons a l ih => exact bind (h a) fun _ => ih

/-- Something is done first where a condition holds. -/
theorem first_if {c : Prop} [Decidable c] {x : BotM Unit} {f : Unit → BotM β} (hx : Does K x)
    (hf : ∀ u, Does K (f u)) : Does K (if c then x >>= fun u => f u else f ()) := by
  split
  · exact bind hx hf
  · exact hf ()

/-! ### The parts of steps -/

theorem get : Does K (MonadState.get : BotM World) :=
  fun w => .refl w

theorem getBot : Does K BotM.getBot :=
  fun w => .refl w

theorem getConfig : Does K BotM.getConfig :=
  fun w => .refl w

theorem note (notice : Notice) : Does K (BotM.note notice) :=
  fun _ => .aside rfl rfl

theorem count (c : Counter) : Does K (BotM.count c) :=
  fun _ => .aside rfl rfl

theorem spawn (job : Job) : Does K (BotM.spawn job) :=
  fun _ => .aside rfl rfl

theorem sleep (ms : Nat) (job : Job) : Does K (BotM.sleep ms job) := by
  intro w
  refine .aside ?_ ?_
  · change (if ms = 0 then _ else _ : World).bot = w.bot
    split <;> rfl
  · change (if ms = 0 then _ else _ : World).history = w.history
    split <;> rfl

theorem during {step : BotM α} (activity : Activity) (h : Does K step) :
    Does K (BotM.during activity step) := by
  intro w
  have hbegin : Trace K w { w with activities := w.activities ++ [activity] } := .aside rfl rfl
  exact (hbegin.trans (h _)).trans (.aside rfl rfl)

theorem change {f : Bot → Bot} (c : Change) (hf : ∀ b, f b = c.apply b)
    (hK : ∀ w, K.Allows w (.change c)) : Does K (BotM.change f) :=
  fun w => .single (hK w) (.change c (hf w.bot) rfl)

theorem record {o : Occurrence} (ho : o.call? = none) (hK : ∀ w, K.Allows w .report) :
    Does K (BotM.record o) :=
  fun w => .single (hK w) (.report o ho rfl rfl)

theorem attempt (action : String) {c : Call} (hK : ∀ w, K.Allows w (.call c)) :
    Does K (BotM.attempt action c).run := by
  intro w
  obtain ⟨counters, log, h⟩ := run_attempt action c w
  rw [h]
  exact .single (hK w) (.call c _ rfl rfl)

end Does

/-- A step that is a row of permitted deeds, after such a row. -/
theorem Trace.step {step : BotM α} (h : Trace K w w') (hstep : Does K step) :
    Trace K w (step.run w').2 :=
  h.trans (hstep w')

/-! ### Speaking -/

/-- The permission to speak to the homeserver and to the operator, and to do nothing else. -/
def Speaking : Permission where
  Allows _
    | .aside => True
    | .call c => c.isModeration = false ∧ c.isMove = false
    | .report | .change _ => False
  aside _ := trivial

/-- The number of bans and liftings of bans that the homeserver has refused so far. -/
def World.failedModerations (w : World) : Nat :=
  w.history.countP Occurrence.isFailedModeration

/-- Whoever may not change the bot leaves it as it is. -/
theorem Trace.bot_eq_of_no_change (hK : ∀ w c, ¬K.Allows w (.change c)) (h : Trace K w w') :
    w'.bot = w.bot := by
  refine h.invariant (I := fun v => v.bot = w.bot) (fun hd hleads hv => ?_) rfl
  cases hleads with
  | aside bot | report _ _ bot | call _ _ bot => exact bot.trans hv
  | change c => exact absurd hd (hK _ c)

/-- Speaking leaves the bot as it is. -/
theorem Trace.bot_eq (h : Trace Speaking w w') : w'.bot = w.bot :=
  h.bot_eq_of_no_change fun _ _ hd => hd

/-- Speaking gives no bans, and so none is refused. -/
theorem Trace.failedModerations_eq (h : Trace Speaking w w') :
    w'.failedModerations = w.failedModerations := by
  refine h.invariant (I := fun v => v.failedModerations = w.failedModerations)
    (fun hK hd hv => ?_) rfl
  cases hd with
  | aside _ history => rw [← hv, World.failedModerations, history, World.failedModerations]
  | call c result _ history =>
    rw [← hv, World.failedModerations, history, List.countP_cons_of_neg, World.failedModerations]
    simp [Occurrence.isFailedModeration_of_isModeration_eq_false hK.1]
  | report | change => exact hK.elim

end RoomModeration
