/-!
# Decimal and hexadecimal digits

Reading digits, and the question whether a decimal number is within the range of double precision.

## Main definitions

* `digitsValue` : the number that decimal digits stand for.
* `hexDigit?`, `hexValue?` : the number that hexadecimal digits stand for.
* `exceedsDouble` : whether a decimal rounds to no finite double precision number.
-/

namespace RoomModeration.Text

/-- The number that these decimal digits stand for. -/
def digitsValue (digits : List Char) : Nat :=
  digits.foldl (fun n c => n * 10 + (c.toNat - '0'.toNat)) 0

/-- The value of a hexadecimal digit. -/
def hexDigit? (c : Char) : Option Nat :=
  if '0' ≤ c && c ≤ '9' then some (c.toNat - '0'.toNat)
  else if 'a' ≤ c && c ≤ 'f' then some (c.toNat - 'a'.toNat + 10)
  else if 'A' ≤ c && c ≤ 'F' then some (c.toNat - 'A'.toNat + 10)
  else none

/-- The number that hexadecimal digits stand for. -/
def hexValue? (digits : List Char) : Option Nat :=
  digits.foldlM (fun n c => (n * 16 + ·) <$> hexDigit? c) 0

/-- The character with a given code, unless the code is half of a surrogate pair or too large. -/
def charOfCode? (code : Nat) : Option Char :=
  if h : code.isValidChar then some (Char.ofNatAux code h) else none

/-- The first number that rounds to no finite double precision number: halfway between the largest
of them and the next power of two. -/
def doubleBound : Nat :=
  Nat.pow 2 1024 - Nat.pow 2 970

/-- The number of digits before the decimal point of `mantissa * 10 ^ exponent`, which is negative
if the number starts with zeros behind the point. -/
def decimalSize (mantissa : Nat) (exponent : Int) : Int :=
  (Nat.toDigits 10 mantissa).length + exponent

/-- Whether `mantissa * 10 ^ exponent` rounds to no finite double precision number. -/
def exceedsDouble (mantissa : Nat) (exponent : Int) : Bool :=
  if mantissa = 0 || decimalSize mantissa exponent < -400 then false
  else if decimalSize mantissa exponent > 400 then true
  else if exponent ≥ 0 then doubleBound ≤ mantissa * Nat.pow 10 exponent.toNat
  else doubleBound * Nat.pow 10 (-exponent).toNat ≤ mantissa

end RoomModeration.Text
