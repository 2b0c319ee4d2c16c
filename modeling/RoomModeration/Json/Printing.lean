import RoomModeration.Json.Value

/-!
# Writing JSON

A value is written without blanks. In a text, a quote and a backslash are written with a backslash
before them, and so are the controls; all else stands as it is.

## Main definitions

* `Json.toText` : the text of a value.
-/

namespace RoomModeration

namespace Json

/-- A control in hexadecimal digits. -/
def unicodeEscape (c : Char) : List Char :=
  ['\\', 'u', '0', '0', Nat.digitChar (c.toNat / 16), Nat.digitChar (c.toNat % 16)]

/-- A character of a text. -/
def escapeChar : Char → List Char
  | '"' => ['\\', '"']
  | '\\' => ['\\', '\\']
  | '\n' => ['\\', 'n']
  | '\r' => ['\\', 'r']
  | '\t' => ['\\', 't']
  | '\x08' => ['\\', 'b']
  | '\x0c' => ['\\', 'f']
  | c => if c.toNat < 0x20 then unicodeEscape c else [c]

/-- A text in quotes. -/
def quote (s : String) : String :=
  String.ofList ('"' :: s.toList.flatMap escapeChar ++ ['"'])

/-- A number. -/
def numberText : JsonNumber → String
  | .integer n => toString n
  | .decimal mantissa exponent => s!"{mantissa}e{exponent}"

mutual

/-- The text of a value. -/
def toText : Json → String
  | null => "null"
  | bool b => if b then "true" else "false"
  | number n => numberText n
  | string s => quote s
  | array items => "[" ++ String.intercalate "," (itemTexts items) ++ "]"
  | object fields => "\x7b" ++ String.intercalate "," (fieldTexts fields) ++ "\x7d"

/-- The texts of the items of an array. -/
def itemTexts : List Json → List String
  | [] => []
  | v :: rest => toText v :: itemTexts rest

/-- The texts of the fields of an object. -/
def fieldTexts : List (String × Json) → List String
  | [] => []
  | (name, v) :: rest => (quote name ++ ":" ++ toText v) :: fieldTexts rest

end

end Json

end RoomModeration
