import RoomModeration.Bot.BanList
import RoomModeration.Proofs.BanList.Sanction
import RoomModeration.Proofs.Deed

/-!
# Giving sanctions one after the other

Bans and unbans are carried over, and the ban lists are united, by giving sanctions one after the
other and passing over those that the homeserver refuses. Which of them were accepted is written
down beside them; the records then show the accepted ones and nothing else, and outside of a dry run
the history shows one call for each of them, in order.

## Main definitions

* `Sanctioned` : what giving one sanction comes to.
* `Series` : what giving some sanctions comes to.

## Main results

* `propagateBan_series`, `propagateUnban_series`, `banAll_series` : the loops of the bot are series.
* `Series.bot_eq`, `Series.dry`, `Series.wet` : what a series does to the records and to the
  history.
-/

namespace RoomModeration

open BotM RoomModeration.Bot

/-- The sanction that a call asks for and whether it was accepted, if the occurrence is such a
call. -/
def Occurrence.sanction? : Occurrence → Option (Sanction × Bool)
  | called _ _ (.ban room member reason) result => some (⟨room, member, some reason⟩, result.isOk)
  | called _ _ (.unban room member) result => some (⟨room, member, none⟩, result.isOk)
  | _ => none

theorem Occurrence.sanction?_called (before : Bot) (activities : List Activity) (a : Sanction)
    (result : Except ActionError a.call.Reply) :
    (called before activities a.call result).sanction? = some (a, result.isOk) := by
  obtain ⟨room, member, reason?⟩ := a
  cases reason? <;> rfl

theorem Occurrence.isFailedModeration_eq {o : Occurrence} {a : Sanction} {ok : Bool}
    (h : o.sanction? = some (a, ok)) : o.isFailedModeration = !ok := by
  cases o with
  | polled | answered | applied => cases h
  | called before activities c result =>
    cases c with
    | ban room member reason | unban room member =>
      obtain ⟨rfl, rfl⟩ := Prod.mk.inj (Option.some.inj h)
      cases result <;> rfl
    | _ => cases h

/-- The change by which a sanction is recorded. -/
def Sanction.change (a : Sanction) : Change :=
  match a.reason? with
  | some reason => .banned a.room a.member reason
  | none => .unbanned a.room a.member

/-- The bot after a sanction. -/
def Bot.sanction (b : Bot) (a : Sanction) : Bot :=
  { b with rooms := a.onStore b.rooms }

theorem Sanction.apply_change (a : Sanction) (b : Bot) : a.change.apply b = b.sanction a := by
  obtain ⟨room, member, reason?⟩ := a
  cases reason? <;> rfl

/-- The sanctions that were accepted. -/
def accepted (l : List (Sanction × Bool)) : List Sanction :=
  (l.filter Prod.snd).map Prod.fst

theorem accepted_sublist (l : List (Sanction × Bool)) : (accepted l).Sublist (l.map Prod.fst) :=
  List.filter_sublist.map _

variable [Surroundings] {w w₁ w' : World} {a : Sanction} {ok : Bool} {l : List (Sanction × Bool)}

/-- Gives a sanction. -/
def Sanction.give (a : Sanction) : ActionM Unit :=
  match a.reason? with
  | some reason => banMember a.room a.member reason
  | none => unbanMember a.room a.member

/-- What giving one sanction comes to: in a dry run it is only recorded, and otherwise there is one
call, whose outcome decides whether it is recorded. -/
structure Sanctioned (w : World) (a : Sanction) (ok : Bool) (w' : World) : Prop where
  bot : w'.bot = if ok then w.bot.sanction a else w.bot
  dry : w.bot.config.actions.dryRun = true → ok = true ∧ w'.history = w.history
  wet : w.bot.config.actions.dryRun = false → ∃ result : Except ActionError a.call.Reply,
    result.isOk = ok ∧ w'.history = .called w.bot w.activities a.call result :: w.history
  activities : w'.activities = w.activities

/-- What giving some sanctions comes to, each with whether it was accepted. -/
inductive Series : World → List (Sanction × Bool) → World → Prop
  | nil {w w' : World} (alike : Alike w w') : Series w [] w'
  | cons {w w₁ w' : World} {a : Sanction} {ok : Bool} {l : List (Sanction × Bool)}
      (head : Sanctioned w a ok w₁) (tail : Series w₁ l w') : Series w ((a, ok) :: l) w'

theorem Sanctioned.alike_right (h : Sanctioned w a ok w₁) (halike : Alike w₁ w') :
    Sanctioned w a ok w' where
  bot := halike.bot.trans h.bot
  dry hdry := ⟨(h.dry hdry).1, halike.history.trans (h.dry hdry).2⟩
  wet hwet := by
    obtain ⟨result, hok, hhistory⟩ := h.wet hwet
    exact ⟨result, hok, halike.history.trans hhistory⟩
  activities := halike.activities.trans h.activities

theorem Sanctioned.alike_left (halike : Alike w w₁) (h : Sanctioned w₁ a ok w') :
    Sanctioned w a ok w' := by
  obtain ⟨hbot, hhistory, hactivities⟩ := halike
  obtain ⟨bot, dry, wet, activities⟩ := h
  rw [hbot] at bot dry wet
  rw [hhistory] at dry wet
  rw [hactivities] at wet activities
  exact ⟨bot, dry, wet, activities⟩

theorem Series.alike_right (h : Series w l w₁) (halike : Alike w₁ w') : Series w l w' := by
  induction h with
  | nil hnil => exact .nil (hnil.trans halike)
  | cons head _ ih => exact .cons head (ih halike)

theorem Series.alike_left (halike : Alike w w₁) (h : Series w₁ l w') : Series w l w' := by
  cases h with
  | nil hnil => exact .nil (halike.trans hnil)
  | cons head tail => exact .cons (head.alike_left halike) tail

/-- What gives a sanction records it last, after a call unless it is a dry run; it ends as the call
ends. -/
private theorem sanctioned_of_eq {act : ActionM Unit} {action : String} {would done : Notice}
    (hact : act = do
      if (← getConfig).actions.dryRun then note would
      else
        let _ ← attempt action a.call
        note done
      change (·.sanction a)) (w : World) :
    Sanctioned w a (act.run.run w).1.isOk (act.run.run w).2 ∧
      ∀ e, (act.run.run w).1 = .error e →
        (act.run.run w).2.history = .called w.bot w.activities a.call (.error e) :: w.history := by
  rw [hact, run_bind_except, run_lift, run_getConfig]
  dsimp only
  cases hdry : w.bot.config.actions.dryRun with
  | true =>
    have hno : w.bot.config.actions.dryRun ≠ false := by rw [hdry]; decide
    rw [if_pos rfl]
    exact ⟨⟨rfl, fun _ => ⟨rfl, rfl⟩, fun hwet => absurd hwet hno, rfl⟩, fun e he => nomatch he⟩
  | false =>
    have hno : w.bot.config.actions.dryRun ≠ true := by rw [hdry]; decide
    rw [if_neg Bool.false_ne_true, run_bind_except]
    obtain ⟨counters, log, hattempt⟩ := run_attempt action a.call w
    rw [hattempt]
    cases (Surroundings.homeserver.answer a.call w.server).1.result with
    | ok reply =>
      exact ⟨⟨rfl, fun h => absurd h hno, fun _ => ⟨.ok reply, rfl, rfl⟩, rfl⟩,
        fun e he => nomatch he⟩
    | error refusal =>
      refine ⟨⟨rfl, fun h => absurd h hno, fun _ => ⟨.error refusal, rfl, rfl⟩, rfl⟩,
        fun e he => ?_⟩
      obtain rfl := Except.error.inj he
      rfl

/-- Giving a sanction ends well or ends with the error of its call. -/
theorem Sanction.sanctioned_give (a : Sanction) (w : World) :
    Sanctioned w a (a.give.run.run w).1.isOk (a.give.run.run w).2 := by
  obtain ⟨room, member, reason?⟩ := a
  cases reason? with
  | some reason => exact (sanctioned_of_eq rfl w).1
  | none => exact (sanctioned_of_eq rfl w).1

theorem Sanction.history_give_of_error {e : ActionError} (h : (a.give.run.run w).1 = .error e) :
    (a.give.run.run w).2.history = .called w.bot w.activities a.call (.error e) :: w.history := by
  obtain ⟨room, member, reason?⟩ := a
  cases reason? with
  | some reason => exact (sanctioned_of_eq rfl w).2 e h
  | none => exact (sanctioned_of_eq rfl w).2 e h

/-- Giving a sanction is a call, unless it is a dry run, and then a change, unless the homeserver
has refused it. -/
theorem Sanctioned.trace {K : Permission} (h : Sanctioned w a ok w')
    (hcall : w.bot.config.actions.dryRun = false → K.Allows w (.call a.call))
    (hchange : ∀ v, K.Allows v (.change a.change)) : Trace K w w' := by
  have hrecord : ∀ v : World, v.bot = w.bot → v.history = w'.history → Trace K v w' := by
    intro v hbot hhistory
    cases ok with
    | true =>
      refine .single (d := .change a.change) (hchange v) (.change _ ?_ hhistory.symm)
      rw [a.apply_change, hbot]
      exact h.bot
    | false => exact .aside (h.bot.trans hbot.symm) hhistory.symm
  cases hdry : w.bot.config.actions.dryRun with
  | true => exact hrecord w rfl (h.dry hdry).2.symm
  | false =>
    obtain ⟨result, -, hhistory⟩ := h.wet hdry
    have hasked : Trace K w
        { w with history := .called w.bot w.activities a.call result :: w.history } :=
      .single (hcall hdry) (.call a.call result rfl rfl)
    exact hasked.trans (hrecord _ rfl hhistory.symm)

theorem Series.trace {K : Permission} (h : Series w l w')
    (hcall : ∀ v (a : Sanction), K.Allows v (.call a.call))
    (hchange : ∀ v (a : Sanction), K.Allows v (.change a.change)) : Trace K w w' := by
  induction h with
  | nil alike => exact .aside alike.bot alike.history
  | @cons w w₁ w' a ok l head _ ih =>
    exact (head.trace (fun _ => hcall w a) fun v => hchange v a).trans ih

/-! ### The loops of the bot -/

/-- A step after which the world is alike. -/
def Quiet (step : BotM Unit) : Prop :=
  ∀ w, Alike w (step.run w).2

theorem quiet_note (notice : Notice) : Quiet (note notice) :=
  fun _ => ⟨rfl, rfl, rfl⟩

theorem quiet_count (c : Counter) : Quiet (count c) :=
  fun _ => ⟨rfl, rfl, rfl⟩

/-- Trying one and the same sanction in each of some rooms is a series. -/
theorem tryEach_series (member : MemberId) (reason? : Option String) {succeeded : BotM Unit}
    {failed : RoomId → ActionError → BotM Unit} (hs : Quiet succeeded)
    (hf : ∀ room e, Quiet (failed room e)) (rooms : List RoomId) (w : World) :
    let step :=
      tryEach (fun room => (⟨room, member, reason?⟩ : Sanction).give) succeeded failed rooms
    ∃ l, Series w l (step.run w).2 ∧ l.map Prod.fst = rooms.map (⟨·, member, reason?⟩) ∧
      (step.run w).1 = (accepted l).map (·.room) := by
  induction rooms generalizing w with
  | nil => exact ⟨[], .nil (.refl w), rfl, rfl⟩
  | cons room rest ih =>
    have hgive := Sanction.sanctioned_give ⟨room, member, reason?⟩ w
    simp only [tryEach, run_bind]
    cases hrun : (Sanction.give ⟨room, member, reason?⟩).run.run w with
    | mk result w₁ =>
      rw [hrun] at hgive
      cases result with
      | ok _ =>
        obtain ⟨l, hl, hmap, hres⟩ := ih (succeeded.run w₁).2
        refine ⟨_ :: l, .cons (hgive.alike_right (hs w₁)) hl, congrArg (_ :: ·) hmap, ?_⟩
        exact congrArg (room :: ·) hres
      | error e =>
        obtain ⟨l, hl, hmap, hres⟩ := ih ((failed room e).run w₁).2
        exact ⟨_ :: l, .cons (hgive.alike_right (hf room e w₁)) hl, congrArg (_ :: ·) hmap, hres⟩

/-- Trying one and the same sanction in some rooms and saying where that succeeded is a series. -/
private theorem tellTried_series (member : MemberId) (reason? : Option String)
    {succeeded : BotM Unit} {failed : RoomId → ActionError → BotM Unit} (hs : Quiet succeeded)
    (hf : ∀ room e, Quiet (failed room e)) (tell : List RoomId → Notice) (rooms : List RoomId)
    (w : World) :
    let step := do
      let tried ←
        tryEach (fun room => (⟨room, member, reason?⟩ : Sanction).give) succeeded failed rooms
      if !tried.isEmpty then note (tell tried)
      return tried
    ∃ l, Series w l (step.run w).2 ∧ l.map Prod.fst = rooms.map (⟨·, member, reason?⟩) ∧
      (step.run w).1 = (accepted l).map (·.room) := by
  obtain ⟨l, hl, hmap, hres⟩ := tryEach_series member reason? hs hf rooms w
  refine ⟨l, ?_, hmap, ?_⟩
  · rw [run_bind]
    split
    · exact hl.alike_right (quiet_note _ _)
    · exact hl
  · rw [run_bind]
    split
    · exact hres
    · exact hres

/-- Carrying a ban over is a series of bans in the targets. -/
theorem propagateBan_series (source : RoomId) (member : MemberId) (reason : String) (w : World) :
    let step := propagateBan source member reason
    ∃ l, Series w l (step.run w).2 ∧
      l.map Prod.fst = (w.bot.rooms.banTargets source member).map (⟨·, member, some reason⟩) ∧
      (step.run w).1 = (accepted l).map (·.room) :=
  tellTried_series member (some reason) (quiet_count (.propagations "ban"))
    (fun room e => quiet_note (.banPropagationFailed room member e))
    (fun tried => .banPropagated source member tried.length) _ w

/-- Carrying an unban over is a series of liftings in the targets. -/
theorem propagateUnban_series (source : RoomId) (member : MemberId) (w : World) :
    let step := propagateUnban source member
    ∃ l, Series w l (step.run w).2 ∧
      l.map Prod.fst = (w.bot.rooms.unbanTargets source member).map (⟨·, member, none⟩) ∧
      (step.run w).1 = (accepted l).map (·.room) :=
  tellTried_series member none (quiet_count (.propagations "unban"))
    (fun room e => quiet_note (.unbanPropagationFailed room member e))
    (fun tried => .unbanPropagated source member tried.length) _ w

/-- The sanction that a missing ban calls for. -/
def MissingBan.sanction (missing : MissingBan) : Sanction :=
  ⟨missing.room, missing.member, some missing.reason⟩

/-- Giving missing bans is a series of bans. -/
theorem banAll_series (missing : List MissingBan) (w : World) :
    ∃ l, Series w l ((banAll missing).run w).2 ∧ l.map Prod.fst = missing.map MissingBan.sanction ∧
      ((banAll missing).run w).1 = (accepted l).length := by
  induction missing generalizing w with
  | nil => exact ⟨[], .nil (.refl w), rfl, rfl⟩
  | cons missing rest ih =>
    have hgive := Sanction.sanctioned_give missing.sanction w
    simp only [banAll, run_bind]
    change Sanctioned w _ ((banMember missing.room missing.member missing.reason).run.run w).1.isOk
      ((banMember missing.room missing.member missing.reason).run.run w).2 at hgive
    cases hrun : (banMember missing.room missing.member missing.reason).run.run w with
    | mk result w₁ =>
      rw [hrun] at hgive
      cases result with
      | ok _ =>
        obtain ⟨l, hl, hmap, hres⟩ := ih w₁
        exact ⟨_ :: l, .cons hgive hl, congrArg (_ :: ·) hmap, congrArg (· + 1) hres⟩
      | error e =>
        let notice := Notice.reconciliationFailed missing.room missing.member e
        have hquiet := quiet_note notice
        obtain ⟨l, hl, hmap, hres⟩ := ih ((note notice).run w₁).2
        exact ⟨_ :: l, .cons (hgive.alike_right (hquiet w₁)) hl, congrArg (_ :: ·) hmap, hres⟩

/-! ### What a series comes to -/

namespace Series

/-- The records show the accepted sanctions; nothing else of the bot changes. -/
theorem bot_eq (h : Series w l w') :
    w'.bot = { w.bot with rooms := w.bot.rooms.sanctionAll (accepted l) } := by
  induction h with
  | nil alike => exact alike.bot
  | @cons w w₁ w' a ok l head _ ih =>
    rw [ih, head.bot]
    cases ok <;> rfl

theorem activities_eq (h : Series w l w') : w'.activities = w.activities := by
  induction h with
  | nil alike => exact alike.activities
  | cons head _ ih => exact ih.trans head.activities

/-- The record of a room is what the accepted sanctions of that room make of it. -/
theorem find?_eq (h : Series w l w') (room : RoomId) : w'.bot.rooms.find? room =
    (w.bot.rooms.find? room).map (·.sanctionAll ((accepted l).filter (·.room = room))) := by
  rw [h.bot_eq, RoomStore.find?_sanctionAll]

/-- In a dry run every sanction counts as accepted and no call is made. -/
theorem dry (h : Series w l w') (hdry : w.bot.config.actions.dryRun = true) :
    accepted l = l.map Prod.fst ∧ w'.history = w.history := by
  induction h with
  | nil alike => exact ⟨rfl, alike.history⟩
  | @cons w w₁ w' a ok l head _ ih =>
    obtain ⟨rfl, hhistory⟩ := head.dry hdry
    obtain ⟨haccepted, hrest⟩ := ih (by rw [head.bot]; exact hdry)
    exact ⟨congrArg (a :: ·) haccepted, hrest.trans hhistory⟩

/-- Outside of a dry run there is one call for each sanction, in order. -/
theorem wet (h : Series w l w') (hwet : w.bot.config.actions.dryRun = false) :
    ∃ made : List Occurrence, w'.history = made.reverse ++ w.history ∧
      made.map Occurrence.sanction? = l.map some := by
  induction h with
  | nil alike => exact ⟨[], alike.history, rfl⟩
  | @cons w w₁ w' a ok l head _ ih =>
    obtain ⟨result, hok, hhistory⟩ := head.wet hwet
    have hwet' : w₁.bot.config.actions.dryRun = false := by
      rw [head.bot]
      cases ok <;> exact hwet
    obtain ⟨made, hmade, hmap⟩ := ih hwet'
    refine ⟨.called w.bot w.activities a.call result :: made, ?_, ?_⟩
    · rw [hmade, hhistory, List.reverse_cons, List.append_assoc, List.singleton_append]
    · rw [List.map_cons, List.map_cons, Occurrence.sanction?_called, hok, hmap]

/-- Every sanction that was not accepted is a failed call. -/
theorem failedModerations_eq (h : Series w l w') :
    w'.failedModerations = w.failedModerations + l.countP (!·.2) := by
  induction h with
  | nil alike => rw [World.failedModerations, alike.history]; rfl
  | @cons w w₁ w' a ok l head _ ih =>
    rw [ih, List.countP_cons, ← Nat.add_assoc, Nat.add_right_comm]
    congr 1
    cases hdry : w.bot.config.actions.dryRun with
    | true =>
      obtain ⟨rfl, hhistory⟩ := head.dry hdry
      rw [World.failedModerations, hhistory]
      rfl
    | false =>
      obtain ⟨result, rfl, hhistory⟩ := head.wet hdry
      rw [World.failedModerations, hhistory, List.countP_cons,
        Occurrence.isFailedModeration_eq (Occurrence.sanction?_called ..)]
      rfl

/-- Where no call failed, all sanctions were accepted. -/
theorem accepted_eq (h : Series w l w') (hf : w'.failedModerations = w.failedModerations) :
    accepted l = l.map Prod.fst := by
  have hcount : l.countP (!·.2) = 0 := by
    have := h.failedModerations_eq
    omega
  rw [accepted, List.filter_eq_self.2]
  intro p hp
  simpa using List.countP_eq_zero.1 hcount p hp

end Series

end RoomModeration
