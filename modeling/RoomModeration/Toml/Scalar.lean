import RoomModeration.Toml.Value
import RoomModeration.Text.Decimal

/-!
# TOML numbers and dates

Numbers, dates and the words `true` and `false` are written without quotes. Such a scalar goes on as
long as letters, digits, signs, points and colons follow; a date may be set off from a time of day
by one space. What a scalar says depends on its form.

## Main definitions

* `Toml.scalar?` : what a scalar says.
* `Toml.integer?`, `Toml.isFloat`, `Toml.date?` : the forms.
-/

namespace RoomModeration.Toml

/-- The characters of a scalar. -/
def isScalar (c : Char) : Bool :=
  c.isAlphanum || c == '_' || c == '-' || c == '+' || c == '.' || c == ':'

/-! ### Numbers -/

/-- Digits of a class, in which a single underscore may stand between two: the digits without the
underscores. -/
def groupedDigits? (isDigit : Char → Bool) : List Char → Option (List Char)
  | [] => none
  | [c] => if isDigit c then some [c] else none
  | c :: '_' :: rest => if isDigit c then (c :: ·) <$> groupedDigits? isDigit rest else none
  | c :: rest => if isDigit c then (c :: ·) <$> groupedDigits? isDigit rest else none

/-- Whether a character is a hexadecimal digit. -/
def isHexDigit (c : Char) : Bool :=
  (Text.hexDigit? c).isSome

/-- A sign, if there is one: whether it is a minus, and what follows it. -/
def signed : List Char → Bool × List Char
  | '-' :: rest => (true, rest)
  | '+' :: rest => (false, rest)
  | s => (false, s)

/-- Digits of a decimal number, which start with a zero only if they are a single zero. -/
def decimalDigits? (s : List Char) : Option (List Char) := do
  let digits ← groupedDigits? Char.isDigit s
  if digits.head? == some '0' && digits.length > 1 then none else some digits

/-- The number that digits of some base stand for. -/
def baseValue (base : Nat) (digits : List Char) : Nat :=
  digits.foldl (fun n c => n * base + (Text.hexDigit? c).getD 0) 0

/-- The integer, if it fits 64 bits. -/
def fitting? (n : Int) : Option Int :=
  if Int64.minValue.toInt ≤ n ∧ n ≤ Int64.maxValue.toInt then some n else none

/-- An integer in base two, eight, ten or sixteen. -/
def integer? : List Char → Option Int
  | '0' :: 'x' :: rest => groupedDigits? isHexDigit rest >>= fun d => fitting? (baseValue 16 d)
  | '0' :: 'o' :: rest =>
    groupedDigits? (fun c => '0' ≤ c && c ≤ '7') rest >>= fun d => fitting? (baseValue 8 d)
  | '0' :: 'b' :: rest =>
    groupedDigits? (fun c => c == '0' || c == '1') rest >>= fun d => fitting? (baseValue 2 d)
  | s => do
    let (negative, rest) := signed s
    let digits ← decimalDigits? rest
    let n : Int := baseValue 10 digits
    fitting? (if negative then -n else n)

/-- The two sides of the first character of a class. -/
def splitAt? (isMark : Char → Bool) (s : List Char) : Option (List Char × List Char) :=
  match s.dropWhile (!isMark ·) with
  | [] => none
  | _ :: rest => some (s.takeWhile (!isMark ·), rest)

/-- Whether a text is a number with a fraction or an exponent, or one of the special numbers. A
positive number beyond the range of double precision is none. -/
def isFloat (s : List Char) : Bool :=
  let (negative, body) := signed s
  if body == ['i', 'n', 'f'] || body == ['n', 'a', 'n'] then true
  else
    let (mantissa, exponent) := match splitAt? (fun c => c == 'e' || c == 'E') body with
      | some (m, e) => (m, some e)
      | none => (body, none)
    let (whole, fraction) := match splitAt? (· == '.') mantissa with
      | some (w, f) => (w, some f)
      | none => (mantissa, none)
    (fraction.isSome || exponent.isSome) &&
      match decimalDigits? whole, fraction.elim (some []) (groupedDigits? Char.isDigit),
        exponent.elim (some (0 : Int)) fun e => do
          let (down, digits) := signed e
          let n : Int := baseValue 10 (← groupedDigits? Char.isDigit digits)
          return if down then -n else n with
      | some whole, some fraction, some exponent =>
        negative ||
          !Text.exceedsDouble (baseValue 10 (whole ++ fraction)) (exponent - fraction.length)
      | _, _, _ => false

/-! ### Dates and times -/

/-- A number of exactly two digits, within bounds. -/
def twoDigits? (low high : Nat) (a b : Char) : Option Nat :=
  if a.isDigit && b.isDigit then
    let n := baseValue 10 [a, b]
    if low ≤ n && n ≤ high then some n else none
  else none

/-- The number of days of a month. -/
def daysOf (year month : Nat) : Nat :=
  if month == 2 then
    if year % 4 == 0 && (year % 100 != 0 || year % 400 == 0) then 29 else 28
  else if month == 4 || month == 6 || month == 9 || month == 11 then 30
  else 31

/-- A calendar date, and what follows it. -/
def calendarDate? : List Char → Option (List Char × List Char)
  | y₁ :: y₂ :: y₃ :: y₄ :: '-' :: m₁ :: m₂ :: '-' :: d₁ :: d₂ :: rest =>
    if [y₁, y₂, y₃, y₄].all Char.isDigit then do
      let month ← twoDigits? 1 12 m₁ m₂
      let _ ← twoDigits? 1 (daysOf (baseValue 10 [y₁, y₂, y₃, y₄]) month) d₁ d₂
      return ([y₁, y₂, y₃, y₄, '-', m₁, m₂, '-', d₁, d₂], rest)
    else none
  | _ => none

/-- The digits of a fraction of a second as they are kept: nine of them at most, without zeros at
the end. -/
def fractionText (digits : List Char) : List Char :=
  match ((digits.take 9).reverse.dropWhile (· == '0')).reverse with
  | [] => []
  | kept => '.' :: kept

/-- A time of day, and what follows it. -/
def timeOfDay? : List Char → Option (List Char × List Char)
  | h₁ :: h₂ :: ':' :: m₁ :: m₂ :: ':' :: s₁ :: s₂ :: rest => do
    let _ ← twoDigits? 0 23 h₁ h₂
    let _ ← twoDigits? 0 59 m₁ m₂
    let _ ← twoDigits? 0 60 s₁ s₂
    let time := [h₁, h₂, ':', m₁, m₂, ':', s₁, s₂]
    match rest with
    | '.' :: fraction =>
      let digits := fraction.takeWhile Char.isDigit
      if digits.isEmpty then none
      else return (time ++ fractionText digits, fraction.dropWhile Char.isDigit)
    | _ => return (time, rest)
  | _ => none

/-- What may follow a date and a time: nothing, or the distance from universal time. -/
def offset? : List Char → Option (List Char)
  | [] => some []
  | ['Z'] => some ['Z']
  | ['z'] => some ['Z']
  | [sign, h₁, h₂, ':', m₁, m₂] =>
    if sign == '+' || sign == '-' then do
      let _ ← twoDigits? 0 23 h₁ h₂
      let _ ← twoDigits? 0 59 m₁ m₂
      return [sign, h₁, h₂, ':', m₁, m₂]
    else none
  | _ => none

/-- A date, a time, or both: its text. -/
def date? (s : List Char) : Option (List Char) :=
  match calendarDate? s with
  | some (day, []) => some day
  | some (day, mark :: rest) =>
    if mark == 'T' || mark == 't' || mark == ' ' then do
      let (time, rest) ← timeOfDay? rest
      let offset ← offset? rest
      return day ++ 'T' :: time ++ offset
    else none
  | none =>
    match timeOfDay? s with
    | some (time, []) => some time
    | _ => none

/-! ### Scalars -/

/-- What a scalar says. -/
def ofScalar? (s : List Char) : Option Toml :=
  if s == ['t', 'r', 'u', 'e'] then some (.boolean true)
  else if s == ['f', 'a', 'l', 's', 'e'] then some (.boolean false)
  else
    match date? s with
    | some text => some (.date (String.ofList text))
    | none => if isFloat s then some .float else .integer <$> integer? s

/-- A scalar, and what follows it. A calendar date may go on with a time of day after one space. -/
def scalar? (s : List Char) : Option (Toml × List Char) :=
  let front := s.takeWhile isScalar
  let rest := s.dropWhile isScalar
  match calendarDate? front, rest with
  | some (_, []), ' ' :: h :: more =>
    if h.isDigit then do
      let time := (h :: more).takeWhile isScalar
      return (← ofScalar? (front ++ ' ' :: time), (h :: more).dropWhile isScalar)
    else do return (← ofScalar? front, rest)
  | _, _ => do return (← ofScalar? front, rest)

end RoomModeration.Toml
