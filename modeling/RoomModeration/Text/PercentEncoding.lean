import RoomModeration.Text.Decimal

/-!
# Percent encoding

A character that may not stand as it is in an address is written byte by byte: a percent sign and
two hexadecimal digits for each byte of its UTF-8 form.

## Main definitions

* `percentEncode` : a text in which only certain characters are kept.
* `percentDecode` : the bytes that an encoded text stands for.

## Main results

* `percentDecode_percentByte` : an encoded byte is decoded to itself.
-/

namespace RoomModeration.Text

/-- A hexadecimal digit in upper case. -/
def upperHexDigit (n : Nat) : Char :=
  (Nat.digitChar n).toUpper

/-- A byte in percent encoding. -/
def percentByte (b : UInt8) : List Char :=
  ['%', upperHexDigit (b.toNat / 16), upperHexDigit (b.toNat % 16)]

/-- A text in which only certain characters are kept and all others are encoded. -/
def percentEncode (keeps : Char → Bool) (s : List Char) : List Char :=
  s.flatMap fun c => if keeps c then [c] else (String.utf8EncodeChar c).flatMap percentByte

/-- The bytes that an encoded text stands for. A percent sign without two digits behind it stands
for itself. -/
def percentDecode : List Char → List UInt8
  | [] => []
  | '%' :: a :: b :: rest =>
    match hexDigit? a, hexDigit? b with
    | some x, some y => UInt8.ofNat (16 * x + y) :: percentDecode rest
    | _, _ => String.utf8EncodeChar '%' ++ percentDecode (a :: b :: rest)
  | c :: rest => String.utf8EncodeChar c ++ percentDecode rest

theorem hexDigit?_upperHexDigit {n : Nat} (h : n < 16) : hexDigit? (upperHexDigit n) = some n := by
  have : ∀ k : Fin 16, hexDigit? (upperHexDigit k) = some k.val := by decide
  exact this ⟨n, h⟩

/-- An encoded byte is decoded to itself. -/
theorem percentDecode_percentByte (b : UInt8) (rest : List Char) :
    percentDecode (percentByte b ++ rest) = b :: percentDecode rest := by
  have hb : b.toNat < 256 := b.toNat_lt
  have hq := hexDigit?_upperHexDigit (n := b.toNat / 16) (by omega)
  have hr := hexDigit?_upperHexDigit (n := b.toNat % 16) (by omega)
  have hv : UInt8.ofNat (16 * (b.toNat / 16) + b.toNat % 16) = b := by
    rw [Nat.div_add_mod]
    exact UInt8.ofNat_toNat
  simp only [percentByte, List.cons_append, List.nil_append, percentDecode, hq, hr, hv]

end RoomModeration.Text
