import RoomModeration.Text.Decimal

/-!
# TOML strings and keys

A string has four forms: in double quotes with escapes or in single quotes without, each on one
line or, with the quote tripled, on several. Reading takes all forms. Writing takes the first form
that shows the text as it is, and escapes only if there is none.

## Main definitions

* `Toml.basic?`, `Toml.multiBasic?`, `Toml.literal?`, `Toml.multiLiteral?` : reading each form from
  behind its opening quotes.
* `Toml.stringLiteral?` : reading a string.
* `Toml.writeString`, `Toml.writeKey` : writing strings and keys.
-/

namespace RoomModeration.Toml

/-- The control characters that a string may not hold as they are; a tab is allowed everywhere, a
line feed is for the forms on several lines. -/
def isControl (c : Char) : Bool :=
  (c.toNat < 0x20 && c != '\t' && c != '\n') || c.toNat == 0x7F

/-- The characters that stand for themselves on one line. -/
def isPlain (c : Char) : Bool :=
  !isControl c && c != '\n'

/-- The character that a one-letter escape stands for. -/
def escape? : Char → Option Char
  | 'b' => some '\x08'
  | 't' => some '\t'
  | 'n' => some '\n'
  | 'f' => some '\x0c'
  | 'r' => some '\r'
  | '"' => some '"'
  | '\\' => some '\\'
  | _ => none

/-- The character whose code is written with these hexadecimal digits. -/
def codePoint? (digits : List Char) : Option Char :=
  Text.hexValue? digits >>= Text.charOfCode?

/-- Adds a character to the text of a string that has been read. -/
def consText (c : Char) (p : List Char × List Char) : List Char × List Char :=
  (c :: p.1, p.2)

/-! ### Reading -/

/-- A string in double quotes, from behind the opening quote: its text, and what follows it. -/
def basic? : List Char → Option (List Char × List Char)
  | [] => none
  | '"' :: rest => some ([], rest)
  | '\\' :: 'u' :: a :: b :: c :: d :: rest => do
    return consText (← codePoint? [a, b, c, d]) (← basic? rest)
  | '\\' :: 'U' :: a :: b :: c :: d :: e :: f :: g :: h :: rest => do
    return consText (← codePoint? [a, b, c, d, e, f, g, h]) (← basic? rest)
  | '\\' :: c :: rest => do return consText (← escape? c) (← basic? rest)
  | c :: rest => if isPlain c && c != '\\' then consText c <$> basic? rest else none

/-- Where the reader of a string on several lines is. -/
inductive Joining where
  /-- In the text. -/
  | text
  /-- Behind a backslash that ends its line. -/
  | lineEnd
  /-- Past such a line, before the next text. -/
  | indent
  deriving DecidableEq, Repr

/-- A string in tripled double quotes, from behind the opening quotes and the line break that may
follow them. A backslash at the end of a line joins the line with the next text. -/
def multiBasic? : Joining → List Char → Option (List Char × List Char)
  | _, [] => none
  | .indent, ' ' :: rest => multiBasic? .indent rest
  | .indent, '\t' :: rest => multiBasic? .indent rest
  | .indent, '\n' :: rest => multiBasic? .indent rest
  | .indent, '\r' :: '\n' :: rest => multiBasic? .indent rest
  | .lineEnd, ' ' :: rest => multiBasic? .lineEnd rest
  | .lineEnd, '\t' :: rest => multiBasic? .lineEnd rest
  | .lineEnd, '\n' :: rest => multiBasic? .indent rest
  | .lineEnd, '\r' :: '\n' :: rest => multiBasic? .indent rest
  | .lineEnd, _ => none
  | _, '"' :: '"' :: '"' :: '"' :: '"' :: rest => some (['"', '"'], rest)
  | _, '"' :: '"' :: '"' :: '"' :: rest => some (['"'], rest)
  | _, '"' :: '"' :: '"' :: rest => some ([], rest)
  | _, '\\' :: 'u' :: a :: b :: c :: d :: rest => do
    return consText (← codePoint? [a, b, c, d]) (← multiBasic? .text rest)
  | _, '\\' :: 'U' :: a :: b :: c :: d :: e :: f :: g :: h :: rest => do
    return consText (← codePoint? [a, b, c, d, e, f, g, h]) (← multiBasic? .text rest)
  | _, '\\' :: ' ' :: rest => multiBasic? .lineEnd rest
  | _, '\\' :: '\t' :: rest => multiBasic? .lineEnd rest
  | _, '\\' :: '\n' :: rest => multiBasic? .indent rest
  | _, '\\' :: '\r' :: '\n' :: rest => multiBasic? .indent rest
  | _, '\\' :: c :: rest => do return consText (← escape? c) (← multiBasic? .text rest)
  | _, '\r' :: '\n' :: rest => consText '\n' <$> multiBasic? .text rest
  | _, c :: rest =>
    if !isControl c && c != '\\' then consText c <$> multiBasic? .text rest else none

/-- A string in single quotes, from behind the opening quote. -/
def literal? : List Char → Option (List Char × List Char)
  | [] => none
  | '\'' :: rest => some ([], rest)
  | c :: rest => if isPlain c then consText c <$> literal? rest else none

/-- A string in tripled single quotes, from behind the opening quotes and the line break that may
follow them. -/
def multiLiteral? : List Char → Option (List Char × List Char)
  | [] => none
  | '\'' :: '\'' :: '\'' :: '\'' :: '\'' :: rest => some (['\'', '\''], rest)
  | '\'' :: '\'' :: '\'' :: '\'' :: rest => some (['\''], rest)
  | '\'' :: '\'' :: '\'' :: rest => some ([], rest)
  | '\r' :: '\n' :: rest => consText '\n' <$> multiLiteral? rest
  | c :: rest => if isControl c then none else consText c <$> multiLiteral? rest

/-- The text without the line break that it may start with. -/
def dropLineBreak : List Char → List Char
  | '\n' :: rest => rest
  | '\r' :: '\n' :: rest => rest
  | s => s

/-- A string in any form, and what follows it. -/
def stringLiteral? : List Char → Option (List Char × List Char)
  | '"' :: '"' :: '"' :: rest => multiBasic? .text (dropLineBreak rest)
  | '"' :: rest => basic? rest
  | '\'' :: '\'' :: '\'' :: rest => multiLiteral? (dropLineBreak rest)
  | '\'' :: rest => literal? rest
  | _ => none

/-- The characters of a key that needs no quotes. -/
def isBareKey (c : Char) : Bool :=
  c.isAlphanum || c == '_' || c == '-'

/-- A key, and what follows it. -/
def key? : List Char → Option (List Char × List Char)
  | '"' :: rest => basic? rest
  | '\'' :: rest => literal? rest
  | s =>
    let bare := s.takeWhile isBareKey
    if bare.isEmpty then none else some (bare, s.dropWhile isBareKey)

/-! ### Writing -/

/-- Four hexadecimal digits of a number. -/
def hex4 (n : Nat) : List Char :=
  let digit (k : Nat) : Char := (Nat.digitChar (n / Nat.pow 16 k % 16)).toUpper
  [digit 3, digit 2, digit 1, digit 0]

/-- A character of a string in double quotes on one line. -/
def writeChar (c : Char) : List Char :=
  if c == '\x08' then ['\\', 'b']
  else if c == '\t' then ['\\', 't']
  else if c == '\n' then ['\\', 'n']
  else if c == '\x0c' then ['\\', 'f']
  else if c == '\r' then ['\\', 'r']
  else if c == '"' then ['\\', '"']
  else if c == '\\' then ['\\', '\\']
  else if isControl c then '\\' :: 'u' :: hex4 c.toNat
  else [c]

/-- The inside of a string in double quotes on one line. -/
def writeBasic (s : List Char) : List Char :=
  s.flatMap writeChar

/-- The inside of a string in tripled double quotes. Line feeds stand for themselves, and so do
quotes, but the third in a row, counted from the last one that was escaped. -/
def writeMultiBasic : Nat → List Char → List Char
  | _, [] => []
  | run, '"' :: rest =>
    if run < 2 then '"' :: writeMultiBasic (run + 1) rest
    else '\\' :: '"' :: writeMultiBasic 0 rest
  | _, c :: rest => (if c == '\n' then ['\n'] else writeChar c) ++ writeMultiBasic 0 rest

/-- The length of the longest run of a character. -/
def longestRun (c : Char) (s : List Char) : Nat :=
  (s.foldl (fun (best, current) x =>
    if x == c then (max best (current + 1), current + 1) else (best, 0)) (0, 0)).1

/-- The four forms of a string. -/
inductive StringForm where
  /-- In double quotes. -/
  | basic
  /-- In single quotes. -/
  | literal
  /-- In tripled double quotes. -/
  | multiBasic
  /-- In tripled single quotes. -/
  | multiLiteral
  deriving DecidableEq, Repr

/-- The form that a text is written in: the first that shows it as it is, or else double quotes,
tripled if there is more than one line. -/
def StringForm.of (s : List Char) : StringForm :=
  let lines := s.contains '\n'
  let control := s.any isControl
  if !s.contains '"' && !s.contains '\\' && !lines && !control then basic
  else if !s.contains '\'' && !lines && !control then literal
  else if !s.contains '\\' && !control && longestRun '"' s ≤ 2 then multiBasic
  else if !control && longestRun '\'' s ≤ 2 then multiLiteral
  else if lines then multiBasic
  else basic

/-- The line break that a text of several lines is set off with. -/
def leadingBreak (s : List Char) : List Char :=
  if s.contains '\n' then ['\n'] else []

/-- A string in the form that fits it. -/
def writeString (s : List Char) : List Char :=
  match StringForm.of s with
  | .basic => '"' :: writeBasic s ++ ['"']
  | .literal => '\'' :: s ++ ['\'']
  | .multiBasic =>
    ['"', '"', '"'] ++ leadingBreak s ++ writeMultiBasic 0 s ++ ['"', '"', '"']
  | .multiLiteral => ['\'', '\'', '\''] ++ leadingBreak s ++ s ++ ['\'', '\'', '\'']

/-- A key, in quotes only if it needs them. -/
def writeKey (s : List Char) : List Char :=
  let control := s.any fun c => isControl c || c == '\n'
  if !s.isEmpty && s.all isBareKey then s
  else if !s.contains '"' && !s.contains '\\' && !control then
    '"' :: writeBasic s ++ ['"']
  else if !s.contains '\'' && !control then '\'' :: s ++ ['\'']
  else '"' :: writeBasic s ++ ['"']

end RoomModeration.Toml
