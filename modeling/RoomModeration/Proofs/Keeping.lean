import RoomModeration.Proofs.Deed

/-!
# What steps keep

A step keeps a property of worlds if the property holds after the step wherever it held before. What
every permitted deed preserves is kept by each step made of such deeds. A step that does something
else at one place keeps the property if this place does and the rest is made of such deeds; so what
a loop or a whole run keeps need be said of those places only.

Most properties are about the bot and the history, and some about how many welcome rooms have been
counted as closed. Giving notices, counting anything else and putting off work does not disturb
them.

## Main definitions

* `Permission.Preserves` : every permitted deed preserves a property.
* `Idle`, `Undisturbed` : nothing that matters happens, and a property does not mind that.
* `Keeps` : a step keeps a property.
* `Brings` : a step brings worlds from one property to another.

## Main results

* `Does.keeps` : a step of permitted deeds keeps what they preserve.
* `Keeps.bind`, `Keeps.forM` : steps put together.
-/

namespace RoomModeration

open BotM

variable [Surroundings] {α β γ : Type} {K L : Permission} {I P Q R : World → Prop}
  {w w' : World}

/-- Every permitted deed preserves a property of worlds. -/
def Permission.Preserves (K : Permission) (I : World → Prop) : Prop :=
  ∀ ⦃w w' : World⦄ ⦃d : Deed⦄, K.Allows w d → Deed.Leads w w' d → I w → I w'

/-- A step keeps a property of worlds. -/
def Keeps (I : World → Prop) (step : BotM α) : Prop :=
  ∀ w : World, I w → I (step.run w).2

theorem Permission.Preserves.trace (hI : K.Preserves I) (h : Trace K w w') (hw : I w) : I w' :=
  h.invariant (fun hK hd => hI hK hd) hw

theorem Permission.Preserves.alike (hI : K.Preserves I) (h : Alike w w') (hw : I w) : I w' :=
  hI (K.aside w) (.aside h.bot h.history) hw

theorem Permission.Preserves.mono (hI : L.Preserves I)
    (hKL : ∀ w d, K.Allows w d → L.Allows w d) : K.Preserves I :=
  fun w _ d hd hleads => hI (hKL w d hd) hleads

theorem Permission.Preserves.within [K.Within L] (hI : L.Preserves I) : K.Preserves I :=
  hI.mono fun _ _ => Permission.Within.allows

/-- What every change of the bot preserves holds of the bot as it is and held at every call. -/
theorem Permission.preserves_of_change (K : Permission) {P : Bot → Prop}
    (hP : ∀ (c : Change) (b : Bot), P b → P (c.apply b)) :
    K.Preserves fun w => P w.bot ∧ ∀ before activities c result,
      .called before activities c result ∈ w.history → P before := by
  rintro w w' d _ hleads ⟨hnow, hbefore⟩
  cases hleads with
  | aside bot history =>
    rw [bot, history]
    exact ⟨hnow, hbefore⟩
  | report o noCall bot history =>
    rw [bot, history]
    refine ⟨hnow, fun before activities c result hmem => ?_⟩
    rcases List.mem_cons.1 hmem with rfl | hold
    · cases noCall
    · exact hbefore before activities c result hold
  | call c result bot history =>
    rw [bot, history]
    refine ⟨hnow, fun before activities c result hmem => ?_⟩
    rcases List.mem_cons.1 hmem with hnew | hold
    · cases hnew
      exact hnow
    · exact hbefore before activities c result hold
  | change c bot history =>
    rw [bot, history]
    exact ⟨hP c w.bot hnow, hbefore⟩

/-! ### Idling -/

/-- Nothing that matters happens: the bot and the history stay as they are, and no welcome room is
counted as closed. -/
structure Idle (w w' : World) : Prop where
  bot : w'.bot = w.bot
  history : w'.history = w.history
  evictions : ∀ reason,
    w'.counters.get (.welcomeEvictions reason) = w.counters.get (.welcomeEvictions reason)

/-- A property of worlds does not mind that nothing happens. -/
def Undisturbed (I : World → Prop) : Prop :=
  ∀ ⦃w w' : World⦄, Idle w w' → I w → I w'

theorem Permission.Preserves.undisturbed (hI : K.Preserves I) : Undisturbed I :=
  fun _ _ h hw => hI (K.aside _) (.aside h.bot h.history) hw

theorem idle_activities (w : World) (activities : List Activity) :
    Idle w { w with activities := activities } :=
  ⟨rfl, rfl, fun _ => rfl⟩

/-- Counting anything but closed welcome rooms is idling. -/
theorem idle_advance {c : Counter} (hc : c.family ≠ .welcomeEvictions) (n : Nat) (w : World) :
    Idle w { w with counters := w.counters.advance c n } := by
  refine ⟨rfl, rfl, fun reason => ?_⟩
  have hne : c ≠ .welcomeEvictions reason := fun h => hc (congrArg Counter.family h)
  rw [Counters.get_advance, if_neg hne, Nat.add_zero]

/-! ### Steps put together -/

/-- A step of permitted deeds keeps what they preserve. -/
theorem Does.keeps {step : BotM α} (h : Does K step) (hI : K.Preserves I) : Keeps I step :=
  fun w hw => hI.trace (h w) hw

namespace Keeps

theorem pure (a : α) : Keeps I (pure a : BotM α) :=
  fun _ hw => hw

theorem bind {x : BotM α} {f : α → BotM β} (hx : Keeps I x) (hf : ∀ a, Keeps I (f a)) :
    Keeps I (x >>= f) :=
  fun w hw => hf _ _ (hx w hw)

theorem bind_bind {x : BotM α} {f : α → BotM β} {g : β → BotM γ} (hf : Keeps I (x >>= f))
    (hg : ∀ b, Keeps I (g b)) : Keeps I (x >>= fun a => f a >>= g) :=
  fun w hw => hg _ _ (hf w hw)

theorem discard {x : BotM α} (hx : Keeps I x) : Keeps I (discard x) :=
  fun w hw => hx w hw

theorem bind_except {ε : Type} {x : ExceptT ε BotM α} {f : α → ExceptT ε BotM β}
    (hx : Keeps I x.run) (hf : ∀ a, Keeps I (f a).run) : Keeps I (x >>= f).run := by
  intro w hw
  have hv := hx w hw
  rw [run_bind_except]
  cases hrun : x.run.run w with
  | mk result v =>
    rw [hrun] at hv
    cases result with
    | ok a => exact hf a v hv
    | error e => exact hv

theorem forM {step : α → BotM PUnit} {l : List α} (h : ∀ a ∈ l, Keeps I (step a)) :
    Keeps I (l.forM step) := by
  induction l with
  | nil => exact pure ()
  | cons a l ih =>
    exact bind (h a List.mem_cons_self) fun _ => ih fun b hb => h b (List.mem_cons_of_mem _ hb)

/-- Something is done first where a condition holds. -/
theorem first_if {c : Prop} [Decidable c] {x : BotM Unit} {f : Unit → BotM β} (hx : Keeps I x)
    (hf : ∀ u, Keeps I (f u)) : Keeps I (if c then x >>= fun u => f u else f ()) := by
  split
  · exact bind hx hf
  · exact hf ()

/-! ### Steps that idle -/

theorem get : Keeps I (MonadState.get : BotM World) :=
  fun _ hw => hw

theorem getBot : Keeps I BotM.getBot :=
  fun _ hw => hw

theorem getConfig : Keeps I BotM.getConfig :=
  fun _ hw => hw

theorem modify (hI : Undisturbed I) {f : World → World} (hf : ∀ w, Idle w (f w)) :
    Keeps I (modify f : BotM PUnit) :=
  fun w hw => hI (hf w) hw

theorem noteAll (hI : Undisturbed I) (notices : List Notice) : Keeps I (BotM.noteAll notices) :=
  modify hI fun _ => ⟨rfl, rfl, fun _ => rfl⟩

theorem note (hI : Undisturbed I) (notice : Notice) : Keeps I (BotM.note notice) :=
  modify hI fun _ => ⟨rfl, rfl, fun _ => rfl⟩

theorem countBy (hI : Undisturbed I) {c : Counter} (hc : c.family ≠ .welcomeEvictions) (n : Nat) :
    Keeps I (BotM.countBy c n) :=
  modify hI (idle_advance hc n)

theorem count (hI : Undisturbed I) {c : Counter} (hc : c.family ≠ .welcomeEvictions) :
    Keeps I (BotM.count c) :=
  countBy hI hc 1

theorem spawn (hI : Undisturbed I) (job : Job) : Keeps I (BotM.spawn job) :=
  modify hI fun _ => ⟨rfl, rfl, fun _ => rfl⟩

theorem sleep (hI : Undisturbed I) (ms : Nat) (job : Job) : Keeps I (BotM.sleep ms job) := by
  refine modify hI fun w => ?_
  split
  · exact ⟨rfl, rfl, fun _ => rfl⟩
  · exact ⟨rfl, rfl, fun _ => rfl⟩

end Keeps

/-! ### From one property to another -/

/-- A step brings worlds from one property to another. -/
def Brings (P Q : World → Prop) (step : BotM α) : Prop :=
  ∀ w : World, P w → Q (step.run w).2

namespace Brings

theorem bind {x : BotM α} {f : α → BotM β} (hx : Brings P Q x) (hf : ∀ a, Brings Q R (f a)) :
    Brings P R (x >>= f) :=
  fun w hw => hf _ _ (hx w hw)

/-- Something that keeps the property is done first where a condition holds. -/
theorem first_if {c : Prop} [Decidable c] {x : BotM Unit} {f : Unit → BotM β} (hx : Brings P P x)
    (hf : ∀ u, Brings P Q (f u)) : Brings P Q (if c then x >>= fun u => f u else f ()) := by
  split
  · exact bind hx hf
  · exact hf ()

/-- Going through a list brings about what one of its members brings about, if the members before
it and after it do not interfere. -/
theorem forM {step : α → BotM PUnit} {l : List α} {a : α} (ha : a ∈ l)
    (hP : ∀ b, Keeps P (step b)) (hstep : Brings P Q (step a)) (hQ : ∀ b, Keeps Q (step b)) :
    Brings P Q (l.forM step) := by
  induction l with
  | nil => cases ha
  | cons b l ih =>
    obtain rfl | hmem := List.mem_cons.1 ha
    · exact bind hstep fun _ => Keeps.forM fun b _ => hQ b
    · exact bind (hP b) fun _ => ih hmem

/-- What is going on is no matter of the bot or the history. -/
theorem during (hP : Undisturbed P) (hQ : Undisturbed Q) {step : BotM α} (activity : Activity)
    (h : Brings P Q step) : Brings P Q (BotM.during activity step) := by
  intro w hw
  have hbegin : P { w with activities := w.activities ++ [activity] } := hP (idle_activities w _) hw
  exact hQ (idle_activities _ w.activities) (h _ hbegin)

end Brings

end RoomModeration
