import RoomModeration.Proofs.Task

/-!
# Dry runs

In a dry run bans and unbans are recorded, and the homeserver is not asked for them. So a dry run
should come to the same as a run in which the homeserver accepts all of them: two bots moderate side
by side, one of them in a dry run, and what the dry one does not ask for is all that tells them
apart. The homeservers of the two need not be in the same state, as only one of them has been asked
to ban; what is asked of them is that they answer every other call alike, and go on doing so
whatever the second one has been asked for.

## Main definitions

* `Indulgent` : homeservers in two states answer alike, and the second accepts all bans and unbans.
* `Moderation`, `moderate` : what moderates, and several of them in a row.
* `DryBeside` : a dry run beside one that is not.

## Main results

* `likeness_dryBeside` : steps do not tell a dry run from one in which all bans are accepted.
* `dry_run_faithful` : the same records, results and replies, and the same calls but for bans.
-/

namespace RoomModeration

open BotM RoomModeration.Bot

/-! ### What happened -/

/-- A call, with how it ended. -/
def Occurrence.exchange? : Occurrence → Option ((c : Call) × Except ActionError c.Reply)
  | called _ _ c result => some ⟨c, result⟩
  | polled .. | answered _ | applied _ => none

/-- What an act of moderation comes to. -/
inductive Upshot where
  /-- Nothing is reported. -/
  | nothing
  /-- So many bans were given. -/
  | given (count : Nat)
  /-- The ban lists of these rooms were changed. -/
  | changed (rooms : List RoomId)
  /-- This became of a message. -/
  | outcome (outcome : ChatOutcome)
  deriving DecidableEq, Repr

/-- An act of moderation. -/
inductive Moderation where
  /-- The ban lists are united. -/
  | reconcile
  /-- A ban or the lifting of one is carried over to other rooms. -/
  | carry (a : Sanction)
  /-- A change of membership is taken up. -/
  | observe (room : RoomId) (t : Transition)
  /-- A command is carried out. -/
  | command (origin : CommandOrigin) (command : Command)
  /-- A message is received. -/
  | hear (room : RoomId) (sender : MemberId) (body : String)

section

variable [Surroundings]

/-- The world with dry runs switched on or off, and with the homeserver in a state. -/
def World.withDryRun (w : World) (dryRun : Bool) (server : Surroundings.Server) : World :=
  { w with bot := w.bot.withDryRun dryRun, server := server }

/-- What an act of moderation leads to. -/
def Moderation.run : Moderation → BotM Upshot
  | reconcile => return .given (← Bot.reconcile)
  | carry a => return .changed (← a.carry)
  | observe room t => do
    observeTransition room t
    return .nothing
  | command origin c => return .outcome (← obey origin c)
  | hear room sender body => return .outcome (← receiveChat room sender body)

/-- Several acts of moderation one after the other; gives what each of them came to, and the records
after it. -/
def moderate : List Moderation → BotM (List (Upshot × RoomStore))
  | [] => return []
  | act :: acts => do
    let upshot ← act.run
    let rooms := (← getBot).rooms
    return (upshot, rooms) :: (← moderate acts)

/-! ### Two runs -/

/-- The homeserver answers alike in related states, and goes on doing so; and in the second of them
it accepts all bans and unbans, which then make no difference. -/
structure Indulgent (S : Surroundings.Server → Surroundings.Server → Prop) : Prop where
  alike : ∀ {s t} (c : Call), c.isModeration = false → S s t →
    (Surroundings.homeserver.answer c s).1.result = (Surroundings.homeserver.answer c t).1.result ∧
      S (Surroundings.homeserver.answer c s).2 (Surroundings.homeserver.answer c t).2
  accepts : ∀ {s t} (c : Call), c.isModeration = true → S s t →
    (Surroundings.homeserver.answer c t).1.result.isOk = true ∧
      S s (Surroundings.homeserver.answer c t).2

/-- What a dry run has made of a history, beside what a run has made of another one in which bans
are asked for: no bans, and the same exchanges otherwise. -/
def BarsBans (older older' history history' : List Occurrence) : Prop :=
  ∃ made made', history = made ++ older ∧ history' = made' ++ older' ∧
    (∀ c ∈ made.filterMap Occurrence.call?, c.isModeration = false) ∧
    made.filterMap Occurrence.exchange? =
      (made'.filterMap Occurrence.exchange?).filter (!·.1.isModeration)

/-- A dry run beside one that is not dry. -/
structure DryBeside (S : Surroundings.Server → Surroundings.Server → Prop)
    (older older' : List Occurrence) (v w : World) : Prop where
  bot : v.bot.outward = w.bot.outward
  dry : v.bot.config.actions.dryRun = true
  wet : w.bot.config.actions.dryRun = false
  server : S v.server w.server
  history : BarsBans older older' v.history w.history

variable {S : Surroundings.Server → Surroundings.Server → Prop} {older older' : List Occurrence}

namespace DryBeside

/-- An exchange other than about a ban is had in both runs. -/
theorem call (hS : Indulgent S) (c : Call) (hc : c.isModeration = false) :
    Respects (DryBeside S older older') (BotM.call c).run := by
  intro v w h
  obtain ⟨hresult, hserver⟩ := hS.alike c hc h.server
  obtain ⟨made, made', hv, hw, hno, hsame⟩ := h.history
  rw [run_call, run_call]
  refine ⟨hresult, h.bot, h.dry, h.wet, hserver, ?_⟩
  refine ⟨_ :: made, _ :: made', congrArg (_ :: ·) hv, congrArg (_ :: ·) hw, ?_, ?_⟩
  · simpa [Occurrence.call?, hc] using hno
  · simp only [List.filterMap_cons, Occurrence.exchange?, hresult, hsame]
    rw [List.filter_cons_of_pos (by simp [hc])]

/-- A change of what can be seen is the same in both runs. -/
theorem change {f : Bot → Bot} (hseen : ∀ b, (f b).outward = f b.outward)
    (hstore : ∀ b, (f b).store = b.store) :
    Respects (DryBeside S older older') (BotM.change f) := by
  intro v w h
  refine ⟨rfl, ?_, ?_, ?_, h.server, h.history⟩
  · change (f v.bot).outward = (f w.bot).outward
    rw [hseen, hseen, h.bot]
  · change (f v.bot).store.config.actions.dryRun = true
    rw [hstore]
    exact h.dry
  · change (f w.bot).store.config.actions.dryRun = false
    rw [hstore]
    exact h.wet

/-- A discreet change of the configuration is the same in both runs. -/
theorem configure {γ : Type} {edit : Config.Edit γ} (hedit : edit.Discreet) :
    Respects (DryBeside S older older') (BotM.configure edit) := by
  intro v w h
  obtain ⟨hresult, hstore⟩ := ConfigStore.update_congr hedit (congrArg Bot.store h.bot)
  refine ⟨hresult, Bot.outward_withStore h.bot hstore, ?_, ?_, h.server, h.history⟩
  · exact (congrArg ActionsConfig.dryRun (ConfigStore.actions_update hedit v.bot.store)).trans h.dry
  · exact (congrArg ActionsConfig.dryRun (ConfigStore.actions_update hedit w.bot.store)).trans h.wet

/-- A ban is only recorded in one run, and in the other one it is recorded after it was accepted. -/
private theorem of_eq (hS : Indulgent S) {act : ActionM Unit} {a : Sanction} {action : String}
    {would done : Notice}
    (hact : act = do
      if (← getConfig).actions.dryRun then note would
      else
        let _ ← attempt action a.call
        note done
      BotM.change (·.sanction a)) :
    Respects (DryBeside S older older') act.run := by
  intro v w h
  have hc : a.call.isModeration = true := by
    unfold Sanction.call
    cases a.reason? <;> rfl
  obtain ⟨haccepted, hserver⟩ := hS.accepts a.call hc h.server
  obtain ⟨made, made', hv, hw, hno, hsame⟩ := h.history
  obtain ⟨counters, log, hattempt⟩ := run_attempt action a.call w
  rw [hact, run_bind_except, run_bind_except, run_lift, run_lift, run_getConfig, run_getConfig]
  dsimp only
  rw [if_pos h.dry, if_neg (by rw [h.wet]; decide), run_bind_except _ _ w, hattempt]
  cases hresult : (Surroundings.homeserver.answer a.call w.server).1.result with
  | error e => simp [hresult, Except.isOk, Except.toBool] at haccepted
  | ok reply =>
    refine ⟨rfl, ?_, h.dry, h.wet, hserver, made, _ :: made', hv, congrArg (_ :: ·) hw, hno, ?_⟩
    · change (v.bot.outward.sanction a) = w.bot.outward.sanction a
      rw [h.bot]
    · simp only [List.filterMap_cons, Occurrence.exchange?, hsame]
      rw [List.filter_cons_of_neg (by simp [hc])]

end DryBeside

/-- Steps do not tell a dry run from one in which all bans are accepted. -/
theorem likeness_dryBeside (hS : Indulgent S) : Likeness (DryBeside S older older') where
  outward h := h.bot
  noteAll _ _ _ h := ⟨rfl, h.bot, h.dry, h.wet, h.server, h.history⟩
  countBy _ _ _ _ _ h := ⟨rfl, h.bot, h.dry, h.wet, h.server, h.history⟩
  change _ hseen hkept := DryBeside.change hseen fun b => (hkept b).1
  configure _ hedit := DryBeside.configure hedit
  call c hc _ := DryBeside.call hS c hc
  banMember room member reason := DryBeside.of_eq hS (a := ⟨room, member, some reason⟩) rfl
  unbanMember room member := DryBeside.of_eq hS (a := ⟨room, member, none⟩) rfl
  spawn _ _ _ _ _ h := ⟨rfl, h.bot, h.dry, h.wet, h.server, h.history⟩
  during activity x y hxy := by
    intro v w h
    obtain ⟨hresult, hdone⟩ := hxy (v := { v with activities := v.activities ++ [activity] })
      (w := { w with activities := w.activities ++ [activity] })
      ⟨h.bot, h.dry, h.wet, h.server, h.history⟩
    exact ⟨hresult, hdone.bot, hdone.dry, hdone.wet, hdone.server, hdone.history⟩

/-! ### Moderating -/

theorem Likeness.moderation {R : World → World → Prop} (h : Likeness R) (act : Moderation) :
    Respects R act.run := by
  cases act with
  | reconcile => exact .bind h.reconcile fun _ => .pure _
  | carry a => exact .bind (h.carry a) fun _ => .pure _
  | observe room t => exact .bind (h.observeTransition room t) fun _ => .pure _
  | command origin c => exact .bind (h.obey origin c) fun _ => .pure _
  | hear room sender body => exact .bind (h.receiveChat room sender body) fun _ => .pure _

theorem Likeness.moderate {R : World → World → Prop} (h : Likeness R) (acts : List Moderation) :
    Respects R (moderate acts) := by
  induction acts with
  | nil => exact .pure _
  | cons act acts ih =>
    exact .bind (h.moderation act) fun _ => h.look (fun _ => rfl) fun _ => .bind ih fun _ => .pure _

/-- A dry run is faithful: whatever is done to moderate, it comes to the same as in a run in which
the homeserver accepts all bans, and so do the records after every act; in the dry run no bans are
asked for, and everything else that is asked and answered is the same in the same order. -/
theorem dry_run_faithful (hS : Indulgent S) (w : World) {s t : Surroundings.Server} (hst : S s t)
    (acts : List Moderation) :
    let dry := (moderate acts).run (w.withDryRun true s)
    let wet := (moderate acts).run (w.withDryRun false t)
    dry.1 = wet.1 ∧ BarsBans w.history w.history dry.2.history wet.2.history := by
  intro dry wet
  have hbeside : DryBeside S w.history w.history (w.withDryRun true s) (w.withDryRun false t) :=
    ⟨rfl, rfl, rfl, hst, [], [], rfl, rfl, nofun, rfl⟩
  obtain ⟨hresult, hdone⟩ := (likeness_dryBeside hS).moderate acts hbeside
  exact ⟨hresult, hdone.history⟩

end

namespace Sample

/-- A member is banned in the lobby, and then the bans are lifted by a command. -/
def dispute : List Moderation :=
  [.observe lobby (.ban mallory alice "spam" true), .reconcile,
    .command ⟨lobby, alice⟩ (.unban mallory)]

end Sample

section

attribute [local instance] Sample.surroundings

/-- The ban is carried over to the attic and both are lifted, which is three calls that the dry run
does not make; the command is answered in either run. -/
theorem dispute_run_dry :
    Indulgent (fun _ _ => True) ∧
    (let dry := (moderate Sample.dispute).run (Sample.world.withDryRun true ())
      let wet := (moderate Sample.dispute).run (Sample.world.withDryRun false ())
      dry.1 = wet.1 ∧
        BarsBans Sample.world.history Sample.world.history dry.2.history wet.2.history) ∧
    (((moderate Sample.dispute).run
      (Sample.world.withDryRun false ())).2.history.filterMap Occurrence.call?).countP
        Call.isModeration = 3 := by
  have hS : Indulgent (fun _ _ => True) :=
    ⟨fun _ _ _ => ⟨rfl, trivial⟩, fun _ _ _ => ⟨rfl, trivial⟩⟩
  refine ⟨hS, ?_, by decide +kernel⟩
  exact dry_run_faithful hS Sample.world trivial Sample.dispute

end

end RoomModeration
