/-!
# Reading bytes as text

Bytes from outside need not be UTF-8. Where a text is wanted all the same, each stretch of bytes
that cannot be completed to a character is shown as one replacement character: a stretch ends
before the first byte with which no character goes on.

## Main definitions

* `OpenCharacter` : a character of which some bytes have been read.
* `decodeLossy` : the text that bytes are shown as.
-/

namespace RoomModeration.Text

/-- A character of which some bytes have been read. -/
structure OpenCharacter where
  /-- The bits read so far. -/
  value : Nat
  /-- The number of bytes still owed, less one. -/
  owed : Nat
  /-- The least byte that may come next. -/
  least : Nat
  /-- The greatest byte that may come next. -/
  greatest : Nat

/-- What the first byte of a character opens. A byte below `0x80` is a character of its own, and
some bytes open none. -/
def OpenCharacter.ofByte? (b : Nat) : Option OpenCharacter :=
  if 0xC2 ≤ b && b ≤ 0xDF then some ⟨b % 0x20, 0, 0x80, 0xBF⟩
  else if b == 0xE0 then some ⟨0, 1, 0xA0, 0xBF⟩
  else if b == 0xED then some ⟨0x0D, 1, 0x80, 0x9F⟩
  else if 0xE1 ≤ b && b ≤ 0xEF then some ⟨b % 0x10, 1, 0x80, 0xBF⟩
  else if b == 0xF0 then some ⟨0, 2, 0x90, 0xBF⟩
  else if 0xF1 ≤ b && b ≤ 0xF3 then some ⟨b % 0x08, 2, 0x80, 0xBF⟩
  else if b == 0xF4 then some ⟨4, 2, 0x80, 0x8F⟩
  else none

/-- What stands for bytes that are no character. -/
def replacement : Char := '\ufffd'

/-- The characters that bytes are shown as, when a character may be open before them. -/
def decodeAfter (opened : Option OpenCharacter) : List UInt8 → List Char
  | [] => if opened.isSome then [replacement] else []
  | byte :: rest =>
    let b := byte.toNat
    match opened.filter fun o => o.least ≤ b && b ≤ o.greatest with
    | some o =>
      let value := o.value * 0x40 + b % 0x40
      if o.owed = 0 then Char.ofNat value :: decodeAfter none rest
      else decodeAfter (some ⟨value, o.owed - 1, 0x80, 0xBF⟩) rest
    | none =>
      let broken := if opened.isSome then [replacement] else []
      if b < 0x80 then broken ++ Char.ofNat b :: decodeAfter none rest
      else
        match OpenCharacter.ofByte? b with
        | some o => broken ++ decodeAfter (some o) rest
        | none => broken ++ replacement :: decodeAfter none rest

/-- The text that bytes are shown as. -/
def decodeLossy (bytes : List UInt8) : String :=
  String.ofList (decodeAfter none bytes)

end RoomModeration.Text
