import RoomModeration.Json.Value
import RoomModeration.Text.Decimal

/-!
# The tokens of a JSON text

A JSON text is a row of tokens between blanks: brackets, separators and scalars. A token that is
spelled correctly need not denote anything: a string may hold half of a surrogate pair, a number
may be larger than any double precision number. Such tokens are kept without a value, so that a
reader can pass over them in fields that it does not know.

## Main definitions

* `JsonToken` : the tokens.
* `JsonToken.scan` : the tokens of a text, or nothing if it has a spelling mistake.
-/

namespace RoomModeration

/-- A token of a JSON text. -/
inductive JsonToken where
  /-- The start of an object. -/
  | openObject
  /-- The end of an object. -/
  | closeObject
  /-- The start of an array. -/
  | openArray
  /-- The end of an array. -/
  | closeArray
  /-- Between a name and its value. -/
  | colon
  /-- Between items. -/
  | comma
  /-- The absent value. -/
  | null
  /-- A truth value. -/
  | bool (value : Bool)
  /-- A number, with its value if it is in range. -/
  | number (value : Option JsonNumber)
  /-- A string, with its value if it is a text. -/
  | string (value : Option String)
  deriving Repr

namespace JsonToken

/-! ### Strings -/

/-- A character of a string literal, or half of a surrogate pair. -/
inductive Unit where
  /-- A character. -/
  | scalar (c : Char)
  /-- A code unit that stands for a character only as one half of a pair. -/
  | half (code : Nat)
  deriving Repr

/-- The unit with this code. -/
def Unit.ofCode (code : Nat) : Unit :=
  if 0xD800 ≤ code && code < 0xE000 then .half code else .scalar (Char.ofNat code)

/-- The character that a one-letter escape stands for. -/
def escape? : Char → Option Char
  | '"' => some '"'
  | '\\' => some '\\'
  | '/' => some '/'
  | 'b' => some '\x08'
  | 'f' => some '\x0c'
  | 'n' => some '\n'
  | 'r' => some '\r'
  | 't' => some '\t'
  | _ => none

/-- The units of a string literal, read from behind its opening quote, and the text behind its
closing quote. -/
def stringUnits : List Char → Option (List Unit × List Char)
  | [] => none
  | '"' :: rest => some ([], rest)
  | '\\' :: 'u' :: a :: b :: c :: d :: rest => do
    let code ← Text.hexValue? [a, b, c, d]
    let (units, after) ← stringUnits rest
    return (.ofCode code :: units, after)
  | '\\' :: c :: rest => do
    let c ← escape? c
    let (units, after) ← stringUnits rest
    return (.scalar c :: units, after)
  | c :: rest =>
    if c.toNat < 0x20 || c == '\\' then none
    else do
      let (units, after) ← stringUnits rest
      return (.scalar c :: units, after)

/-- The text that units stand for: each half of a surrogate pair must have its other half. -/
def text? : List Unit → Option (List Char)
  | [] => some []
  | .scalar c :: rest => (c :: ·) <$> text? rest
  | .half high :: .half low :: rest =>
    if high < 0xDC00 && 0xDC00 ≤ low then
      (Char.ofNat (0x10000 + (high - 0xD800) * 0x400 + (low - 0xDC00)) :: ·) <$> text? rest
    else none
  | .half _ :: _ => none

/-! ### Numbers -/

/-- One or more decimal digits, and the text behind them. -/
def digitRun (s : List Char) : Option (List Char × List Char) :=
  let digits := s.takeWhile Char.isDigit
  if digits.isEmpty then none else some (digits, s.dropWhile Char.isDigit)

/-- The integer part of a number literal: a zero, or digits that do not start with one. -/
def integerPart : List Char → Option (List Char × List Char)
  | '0' :: rest => some (['0'], rest)
  | s => digitRun s

/-- The digits behind a decimal point, if there is one. -/
def fractionPart : List Char → Option (Option (List Char) × List Char)
  | '.' :: rest => (digitRun rest).map fun (digits, after) => (some digits, after)
  | s => some (none, s)

/-- A sign, if there is one: whether it is a minus, and the text behind it. -/
def signPart : List Char → Bool × List Char
  | '-' :: rest => (true, rest)
  | '+' :: rest => (false, rest)
  | s => (false, s)

/-- The exponent of a number literal, if there is one. -/
def exponentPart : List Char → Option (Option Int × List Char)
  | c :: rest =>
    if c == 'e' || c == 'E' then
      (digitRun (signPart rest).2).map fun (digits, after) =>
        let n := (Text.digitsValue digits : Int)
        (some (if (signPart rest).1 then -n else n), after)
    else some (none, c :: rest)
  | [] => some (none, [])

/-- The value of a number that is no integer literal, if it is in the range of double precision.
Numbers far too small for that range are zero. -/
def decimal? (negative : Bool) (mantissa : Nat) (exponent : Int) : Option JsonNumber :=
  if mantissa = 0 || Text.decimalSize mantissa exponent < -400 then some (.decimal 0 0)
  else if Text.exceedsDouble mantissa exponent then none
  else some (.decimal (if negative then -(mantissa : Int) else mantissa) exponent)

/-- The value of a number literal. An integer that fits 64 bits is exact; minus zero and all larger
integers are decimals. -/
def numberValue? (negative : Bool) (whole : List Char) (fraction : Option (List Char))
    (exponent : Option Int) : Option JsonNumber :=
  let n := Text.digitsValue whole
  match fraction, exponent with
  | none, none =>
    if negative then
      if n ≠ 0 && n ≤ 0x8000000000000000 then some (.integer (-(n : Int))) else decimal? true n 0
    else if n < 0x10000000000000000 then some (.integer n) else decimal? false n 0
  | _, _ =>
    let digits := fraction.getD []
    decimal? negative (Text.digitsValue (whole ++ digits)) (exponent.getD 0 - digits.length)

/-- An unsigned number literal under a sign: its value, if it is in range, and the text behind
it. -/
def unsignedLiteral (negative : Bool) (s : List Char) :
    Option (Option JsonNumber × List Char) := do
  let (whole, s) ← integerPart s
  let (fraction, s) ← fractionPart s
  let (exponent, s) ← exponentPart s
  return (numberValue? negative whole fraction exponent, s)

/-- A number literal: its value, if it is in range, and the text behind it. -/
def numberLiteral : List Char → Option (Option JsonNumber × List Char)
  | '-' :: rest => unsignedLiteral true rest
  | s => unsignedLiteral false s

/-! ### The row of tokens -/

/-- The token at the front of a text, and the text behind it. -/
def first? : List Char → Option (JsonToken × List Char)
  | '{' :: rest => some (openObject, rest)
  | '}' :: rest => some (closeObject, rest)
  | '[' :: rest => some (openArray, rest)
  | ']' :: rest => some (closeArray, rest)
  | ':' :: rest => some (colon, rest)
  | ',' :: rest => some (comma, rest)
  | 't' :: 'r' :: 'u' :: 'e' :: rest => some (bool true, rest)
  | 'f' :: 'a' :: 'l' :: 's' :: 'e' :: rest => some (bool false, rest)
  | 'n' :: 'u' :: 'l' :: 'l' :: rest => some (null, rest)
  | '"' :: rest => (stringUnits rest).map fun (units, after) =>
      (string ((text? units).map String.ofList), after)
  | s => (numberLiteral s).map fun (value, after) => (number value, after)

/-- The characters that may stand between tokens. -/
def isGap (c : Char) : Bool :=
  c == ' ' || c == '\t' || c == '\n' || c == '\r'

theorem stringUnits_length {s : List Char} {units : List Unit} {after : List Char}
    (h : stringUnits s = some (units, after)) : after.length < s.length := by
  fun_induction stringUnits s generalizing units after with
  | case1 => simp at h
  | case2 => simp_all
  | case3 a b c d rest ih =>
    simp only [Option.bind_eq_bind, Option.bind_eq_some_iff, Option.pure_def,
      Option.some.injEq, Prod.mk.injEq, Prod.exists] at h
    obtain ⟨_, _, _, _, h, _, rfl⟩ := h
    have := ih h
    simp only [List.length_cons]; omega
  | case4 c rest _ ih =>
    simp only [Option.bind_eq_bind, Option.bind_eq_some_iff, Option.pure_def,
      Option.some.injEq, Prod.mk.injEq, Prod.exists] at h
    obtain ⟨_, _, _, _, h, _, rfl⟩ := h
    have := ih h
    simp only [List.length_cons]; omega
  | case5 => simp at h
  | case6 c rest _ _ _ _ ih =>
    simp only [Option.bind_eq_bind, Option.bind_eq_some_iff, Option.pure_def,
      Option.some.injEq, Prod.mk.injEq, Prod.exists] at h
    obtain ⟨_, _, h, _, rfl⟩ := h
    have := ih h
    simp only [List.length_cons]; omega

theorem digitRun_length {s digits after : List Char} (h : digitRun s = some (digits, after)) :
    after.length < s.length := by
  simp only [digitRun, Option.ite_none_left_eq_some, Option.some.injEq, Prod.mk.injEq] at h
  obtain ⟨hne, rfl, rfl⟩ := h
  have hs := congrArg List.length (List.takeWhile_append_dropWhile (p := Char.isDigit) (l := s))
  rw [List.length_append] at hs
  have := List.length_pos_iff.2 (mt List.isEmpty_iff.2 hne)
  omega

theorem integerPart_length {s digits after : List Char}
    (h : integerPart s = some (digits, after)) : after.length < s.length := by
  unfold integerPart at h
  split at h
  · simp only [Option.some.injEq, Prod.mk.injEq] at h
    simp [← h.2]
  · exact digitRun_length h

theorem fractionPart_length {s after : List Char} {fraction : Option (List Char)}
    (h : fractionPart s = some (fraction, after)) : after.length ≤ s.length := by
  unfold fractionPart at h
  split at h
  · obtain ⟨⟨digits, rest⟩, hd, he⟩ := Option.map_eq_some_iff.1 h
    obtain ⟨-, rfl⟩ := Prod.mk.injEq .. ▸ he
    have := digitRun_length hd
    simp only [List.length_cons]; omega
  · simp only [Option.some.injEq, Prod.mk.injEq] at h
    simp [h.2]

theorem signPart_length (s : List Char) : (signPart s).2.length ≤ s.length := by
  unfold signPart
  split <;> simp

theorem exponentPart_length {s after : List Char} {exponent : Option Int}
    (h : exponentPart s = some (exponent, after)) : after.length ≤ s.length := by
  unfold exponentPart at h
  split at h
  · next c rest =>
    split at h
    · obtain ⟨⟨digits, _⟩, hd, he⟩ := Option.map_eq_some_iff.1 h
      obtain ⟨-, rfl⟩ := Prod.mk.injEq .. ▸ he
      have h₁ := digitRun_length hd
      have h₂ := signPart_length rest
      simp only [List.length_cons]; omega
    · simp only [Option.some.injEq, Prod.mk.injEq] at h
      simp [← h.2]
  · simp only [Option.some.injEq, Prod.mk.injEq] at h
    simp [← h.2]

theorem unsignedLiteral_length {negative : Bool} {s after : List Char} {value : Option JsonNumber}
    (h : unsignedLiteral negative s = some (value, after)) : after.length < s.length := by
  simp only [unsignedLiteral, Option.bind_eq_bind, Option.bind_eq_some_iff, Option.pure_def,
    Option.some.injEq, Prod.mk.injEq, Prod.exists] at h
  obtain ⟨_, _, h₁, _, _, h₂, _, _, h₃, _, rfl⟩ := h
  have := integerPart_length h₁
  have := fractionPart_length h₂
  have := exponentPart_length h₃
  omega

theorem numberLiteral_length {s after : List Char} {value : Option JsonNumber}
    (h : numberLiteral s = some (value, after)) : after.length < s.length := by
  unfold numberLiteral at h
  split at h
  · have := unsignedLiteral_length h
    simp only [List.length_cons]; omega
  · exact unsignedLiteral_length h

/-- A token takes at least one character. -/
theorem first?_length {s after : List Char} {token : JsonToken}
    (h : first? s = some (token, after)) : after.length < s.length := by
  unfold first? at h
  split at h
  all_goals first
    | (simp only [Option.some.injEq, Prod.mk.injEq] at h
       obtain ⟨-, rfl⟩ := h
       simp only [List.length_cons]; omega)
    | (obtain ⟨⟨units, rest⟩, hu, he⟩ := Option.map_eq_some_iff.1 h
       obtain ⟨-, rfl⟩ := Prod.mk.injEq .. ▸ he
       have := stringUnits_length hu
       simp only [List.length_cons]; omega)
    | (obtain ⟨⟨value, rest⟩, hv, he⟩ := Option.map_eq_some_iff.1 h
       obtain ⟨-, rfl⟩ := Prod.mk.injEq .. ▸ he
       exact numberLiteral_length hv)

/-- The tokens of a text, or nothing if it has a spelling mistake. -/
def scan (s : List Char) : Option (List JsonToken) :=
  match h : s.dropWhile isGap with
  | [] => some []
  | c :: rest =>
    match ht : first? (c :: rest) with
    | none => none
    | some (token, after) =>
      have : after.length < s.length :=
        Nat.lt_of_lt_of_le (h ▸ first?_length ht) (List.dropWhile_suffix isGap).length_le
      (token :: ·) <$> scan after
termination_by s.length

end JsonToken

end RoomModeration
