import RoomModeration.Proofs.Toml.Quoted
import RoomModeration.Toml.Scalar

/-!
# Numbers and truth values are read as they are written

A natural number is written as its decimal digits. No date, time or fraction consists of digits
alone, so the digits are read as an integer; the number is found again if it fits 64 bits.

## Main definitions

* `naturalBound` : the first natural number that does not fit.

## Main results

* `scalar?_toDigits` : a natural number is read as it is written.
* `scalar?_word` : the words for truth values are read as they are written.
-/

namespace RoomModeration.Toml

variable {s : List Char}

/-- The first natural number that no document can hold. -/
def naturalBound : Nat := 0x8000000000000000

/-! ### Digits -/

theorem isDigit_toDigits (n : Nat) : ∀ c ∈ Nat.toDigits 10 n, c.isDigit = true :=
  fun _ hc => Nat.isDigit_of_mem_toDigits (by decide) (by decide) hc

/-- Only zero is written with a zero in front. -/
theorem head?_toDigits_ne_zero {n : Nat} (hn : 0 < n) :
    (Nat.toDigits 10 n).head? ≠ some '0' := by
  induction n using Nat.strongRecOn with
  | ind n ih =>
    by_cases hsmall : n < 10
    · have hdigits : ∀ n < 10, 0 < n → [n.digitChar].head? ≠ some '0' := by decide
      rw [Nat.toDigits_of_lt_base hsmall]
      exact hdigits n hsmall hn
    · obtain ⟨c, t, hfront⟩ : ∃ c t, Nat.toDigits 10 (n / 10) = c :: t :=
        List.exists_cons_of_ne_nil Nat.toDigits_ne_nil
      have hhead := ih (n / 10) (by omega) (by omega)
      rw [Nat.toDigits_of_base_le (by decide) (by omega), hfront]
      rwa [hfront] at hhead

theorem hexDigit?_of_isDigit {c : Char} (hc : c.isDigit = true) :
    Text.hexDigit? c = some (c.toNat - '0'.toNat) := by
  simp only [Char.isDigit, Bool.and_eq_true, decide_eq_true_eq] at hc
  rw [Text.hexDigit?, if_pos]
  simp only [Bool.and_eq_true, decide_eq_true_eq]
  exact hc

theorem baseValue_toDigits (n : Nat) : baseValue 10 (Nat.toDigits 10 n) = n := by
  have hfold : ∀ digits : List Char, (∀ c ∈ digits, c.isDigit = true) → ∀ init,
      digits.foldl (fun n c => n * 10 + (Text.hexDigit? c).getD 0) init =
        Nat.ofDigitChars 10 digits init := by
    intro digits
    induction digits with
    | nil => exact fun _ _ => rfl
    | cons c digits ih =>
      intro hall init
      obtain ⟨hc, hdigits⟩ := List.forall_mem_cons.1 hall
      rw [List.foldl_cons, ih hdigits, Nat.ofDigitChars_cons, hexDigit?_of_isDigit hc, Nat.mul_comm]
      rfl
  rw [baseValue, hfold _ (isDigit_toDigits n), Nat.ofDigitChars_toDigits (by decide) (by decide)]

theorem groupedDigits?_eq_some (hall : ∀ c ∈ s, c.isDigit = true) (hne : s ≠ []) :
    groupedDigits? Char.isDigit s = some s := by
  induction s with
  | nil => exact absurd rfl hne
  | cons c s ih =>
    obtain ⟨hc, hs⟩ := List.forall_mem_cons.1 hall
    cases s with
    | nil => rw [groupedDigits?, if_pos hc]
    | cons d s =>
      have hunderscore : d ≠ '_' := ne_of_class (hs d List.mem_cons_self) (by decide)
      rw [groupedDigits?, if_pos hc, ih hs (List.cons_ne_nil _ _)]
      · rfl
      · nofun
      · exact fun t h => hunderscore (List.cons.inj h).1

theorem decimalDigits?_toDigits (n : Nat) :
    decimalDigits? (Nat.toDigits 10 n) = some (Nat.toDigits 10 n) := by
  rw [decimalDigits?, groupedDigits?_eq_some (isDigit_toDigits n) Nat.toDigits_ne_nil]
  change (if _ then none else _) = _
  rw [if_neg]
  simp only [Bool.and_eq_true, beq_iff_eq, decide_eq_true_eq, not_and]
  intro hzero
  cases n with
  | zero => decide
  | succ n => exact absurd hzero (head?_toDigits_ne_zero n.succ_pos)

/-! ### What digits are not -/

theorem signed_of_isDigit (hall : ∀ c ∈ s, c.isDigit = true) : signed s = (false, s) := by
  rw [signed.eq_def]
  split
  · exact absurd (hall _ List.mem_cons_self) (by decide)
  · exact absurd (hall _ List.mem_cons_self) (by decide)
  · rfl

theorem calendarDate?_of_isDigit (hall : ∀ c ∈ s, c.isDigit = true) :
    calendarDate? s = none := by
  rw [calendarDate?.eq_def]
  split
  · exact absurd (hall '-' (by simp)) (by decide)
  · rfl

theorem date?_of_isDigit (hall : ∀ c ∈ s, c.isDigit = true) : date? s = none := by
  have htime : timeOfDay? s = none := by
    rw [timeOfDay?.eq_def]
    split
    · exact absurd (hall ':' (by simp)) (by decide)
    · rfl
  rw [date?, calendarDate?_of_isDigit hall, htime]

theorem isFloat_of_isDigit (hall : ∀ c ∈ s, c.isDigit = true) : isFloat s = false := by
  have hsplit : ∀ isMark : Char → Bool, (∀ c, c.isDigit = true → isMark c = false) →
      splitAt? isMark s = none := by
    intro isMark hmark
    have hnone : s.dropWhile (!isMark ·) = [] := by
      rw [← List.append_nil s, List.dropWhile_append_of_pos]
      · rfl
      · intro c hc
        rw [hmark c (hall c hc)]
        rfl
    rw [splitAt?, hnone]
  have hmarks : ∀ c : Char, c.isDigit = true → (c == 'e' || c == 'E') = false ∧
      (c == '.') = false := by
    intro c hc
    rw [Bool.or_eq_false_iff, beq_eq_false_iff_ne, beq_eq_false_iff_ne, beq_eq_false_iff_ne]
    exact ⟨⟨ne_of_class hc (by decide), ne_of_class hc (by decide)⟩, ne_of_class hc (by decide)⟩
  have hword : ∀ c t, s = c :: t → c ≠ 'i' ∧ c ≠ 'n' := by
    rintro c t rfl
    have hc := hall c List.mem_cons_self
    exact ⟨ne_of_class hc (by decide), ne_of_class hc (by decide)⟩
  rw [isFloat, signed_of_isDigit hall]
  dsimp only
  rw [if_neg, hsplit _ fun c hc => (hmarks c hc).1]
  · dsimp only
    rw [hsplit _ fun c hc => (hmarks c hc).2]
    rfl
  · simp only [Bool.or_eq_true, beq_iff_eq, not_or]
    exact ⟨fun h => (hword _ _ h).1 rfl, fun h => (hword _ _ h).2 rfl⟩

theorem integer?_toDigits {n : Nat} (hn : n < naturalBound) :
    integer? (Nat.toDigits 10 n) = some (n : Int) := by
  have hall := isDigit_toDigits n
  have hfits : fitting? (n : Int) = some (n : Int) := by
    rw [fitting?, if_pos]
    have hmin : Int64.minValue.toInt = -0x8000000000000000 := rfl
    have hmax : Int64.maxValue.toInt = 0x7fffffffffffffff := rfl
    rw [hmin, hmax]
    rw [naturalBound] at hn
    omega
  rw [integer?]
  · rw [signed_of_isDigit hall]
    change (decimalDigits? (Nat.toDigits 10 n)).bind _ = _
    rw [decimalDigits?_toDigits]
    change fitting? (baseValue 10 (Nat.toDigits 10 n) : Nat) = _
    rw [baseValue_toDigits, hfits]
  all_goals
    intro t h
    rw [h] at hall
    exact absurd (hall _ (List.mem_cons_of_mem _ List.mem_cons_self)) (by decide)

/-! ### Scalars -/

/-- A scalar on one line is read up to the end of the line. -/
theorem scalar?_append (hall : ∀ c ∈ s, isScalar c = true) (rest : List Char) :
    scalar? (s ++ '\n' :: rest) = (ofScalar? s).map (·, '\n' :: rest) := by
  have hfront : (s ++ '\n' :: rest).takeWhile isScalar = s := by
    rw [List.takeWhile_append_of_pos hall, List.takeWhile_cons_of_neg (by decide), List.append_nil]
  have hrest : (s ++ '\n' :: rest).dropWhile isScalar = '\n' :: rest := by
    rw [List.dropWhile_append_of_pos hall, List.dropWhile_cons_of_neg (by decide)]
  rw [scalar?, hfront, hrest]
  split
  · next h => cases h
  · cases ofScalar? s <;> rfl

/-- A natural number is read as it is written. -/
theorem scalar?_toDigits {n : Nat} (hn : n < naturalBound) (rest : List Char) :
    scalar? (Nat.toDigits 10 n ++ '\n' :: rest) = some (.integer n, '\n' :: rest) := by
  have hall := isDigit_toDigits n
  have hword : ∀ word : List Char, (∃ c ∈ word, c.isDigit = false) →
      ¬(Nat.toDigits 10 n == word) = true := by
    rintro word ⟨c, hc, hdigit⟩ h
    rw [← beq_iff_eq.1 h] at hc
    rw [hall c hc] at hdigit
    cases hdigit
  rw [scalar?_append]
  · rw [ofScalar?, if_neg (hword _ ⟨'t', by decide⟩), if_neg (hword _ ⟨'f', by decide⟩),
      date?_of_isDigit hall, isFloat_of_isDigit hall, integer?_toDigits hn]
    rfl
  · intro c hc
    simp [isScalar, Char.isAlphanum, hall c hc]

/-- The words for truth values are read as they are written. -/
theorem scalar?_word (rest : List Char) :
    scalar? ('t' :: 'r' :: 'u' :: 'e' :: '\n' :: rest) = some (.boolean true, '\n' :: rest) ∧
      scalar? ('f' :: 'a' :: 'l' :: 's' :: 'e' :: '\n' :: rest) =
        some (.boolean false, '\n' :: rest) := by
  have htrue := scalar?_append (s := ['t', 'r', 'u', 'e']) (List.all_eq_true.1 rfl) rest
  have hfalse := scalar?_append (s := ['f', 'a', 'l', 's', 'e']) (List.all_eq_true.1 rfl) rest
  exact ⟨htrue, hfalse⟩

end RoomModeration.Toml
