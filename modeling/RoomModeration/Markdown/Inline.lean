import RoomModeration.Text.Entity
import RoomModeration.Text.Punctuation
import RoomModeration.Text.Blank

/-!
# Inline Markdown

What a piece of running text consists of, and the parts of it that are found by looking at the
characters alone: code, links' destinations and titles, addresses and tags in angle brackets.

## Main definitions

* `Inline` : the parts of running text.
* `codeSpan?`, `linkTail?`, `angle?` : reading single parts.
-/

namespace RoomModeration.Markdown

/-- A part of running text. -/
inductive Inline where
  /-- Characters that stand for themselves. -/
  | text (s : String)
  /-- The end of a line that need not be kept. -/
  | softBreak
  /-- The end of a line that is kept. -/
  | hardBreak
  /-- Code. -/
  | code (s : String)
  /-- A tag, as it is written. -/
  | tag (s : String)
  /-- Emphasized text. -/
  | emphasis (content : List Inline)
  /-- Strongly emphasized text. -/
  | strong (content : List Inline)
  /-- Text that is struck through. -/
  | strikethrough (content : List Inline)
  /-- A link. -/
  | link (target title : String) (content : List Inline)
  /-- An image; its content stands for it where it cannot be shown. -/
  | image (target title : String) (content : List Inline)
  deriving Repr

/-! ### Characters -/

/-- The blank characters of ASCII. -/
def isSpace (c : Char) : Bool :=
  c == ' ' || c == '\t' || c == '\n' || c == '\r' || c == '\x0b' || c == '\x0c'

/-- A text with its escapes and character references resolved. -/
def plainText : List Char → List Char
  | [] => []
  | '\\' :: c :: rest =>
    if Text.isAsciiPunctuation c then c :: plainText rest else '\\' :: plainText (c :: rest)
  | '&' :: rest =>
    match h : Text.entity? rest with
    | some (c, after) =>
      have := Text.entity?_length h
      c :: plainText after
    | none => '&' :: plainText rest
  | c :: rest => c :: plainText rest
termination_by s => s.length

/-! ### Code -/

/-- What stands before the next run of exactly so many backticks, and what stands behind it. -/
def untilTicks (count : Nat) : Nat → List Char → Option (List Char × List Char)
  | 0, _ => none
  | fuel + 1, s =>
    let before := s.takeWhile (· != '`')
    let ticks := (s.dropWhile (· != '`')).takeWhile (· == '`')
    let rest := (s.dropWhile (· != '`')).dropWhile (· == '`')
    if ticks.isEmpty then none
    else if ticks.length = count then some (before, rest)
    else (untilTicks count fuel rest).map fun (inner, after) => (before ++ ticks ++ inner, after)

/-- The text of code: on one line, and without the space at either end that may set it off. -/
def codeText (s : List Char) : List Char :=
  let line := s.map fun c => if c == '\n' then ' ' else c
  if line.all (· == ' ') then line
  else match line with
    | ' ' :: rest => if rest.getLast? == some ' ' then rest.dropLast else line
    | _ => line

/-- A piece of code, from behind its opening backticks. -/
def codeSpan? (ticks : Nat) (s : List Char) : Option (Inline × List Char) :=
  (untilTicks ticks s.length s).map fun (inner, after) =>
    (.code (String.ofList (codeText inner)), after)

/-! ### Links -/

/-- A destination in angle brackets, from behind the opening one. -/
def bracketed? : List Char → Option (List Char × List Char)
  | [] => none
  | '>' :: rest => some ([], rest)
  | '<' :: _ | '\n' :: _ => none
  | '\\' :: c :: rest =>
    if c == '\n' then none else (bracketed? rest).map fun (d, after) => ('\\' :: c :: d, after)
  | c :: rest => (bracketed? rest).map fun (d, after) => (c :: d, after)

/-- A destination without brackets: it goes on to a blank, or to a parenthesis that closes more than
it has opened. -/
def bare (depth : Nat) : List Char → List Char × List Char
  | [] => ([], [])
  | '\\' :: c :: rest =>
    if Text.isAsciiPunctuation c then
      let (d, after) := bare depth rest
      ('\\' :: c :: d, after)
    else if isSpace c || c.toNat < 0x20 then (['\\'], c :: rest)
    else
      let (d, after) := bare depth rest
      ('\\' :: c :: d, after)
  | '(' :: rest =>
    let (d, after) := bare (depth + 1) rest
    ('(' :: d, after)
  | ')' :: rest =>
    if depth = 0 then ([], ')' :: rest)
    else
      let (d, after) := bare (depth - 1) rest
      (')' :: d, after)
  | c :: rest =>
    if isSpace c || c.toNat < 0x20 || c.toNat == 0x7F then ([], c :: rest)
    else
      let (d, after) := bare depth rest
      (c :: d, after)

/-- Whether every parenthesis that is not escaped is closed. -/
def balanced (depth : Nat) : List Char → Bool
  | [] => depth == 0
  | '\\' :: _ :: rest => balanced depth rest
  | '(' :: rest => balanced (depth + 1) rest
  | ')' :: rest => balanced (depth - 1) rest
  | _ :: rest => balanced depth rest

/-- A destination. -/
def destination? : List Char → Option (List Char × List Char)
  | '<' :: rest => bracketed? rest
  | s =>
    let (d, after) := bare 0 s
    if balanced 0 d then some (d, after) else none

/-- A title up to its closing mark; a title holds no blank line. -/
def titleUntil? (close : Char) : List Char → Option (List Char × List Char)
  | [] => none
  | '\\' :: c :: rest => (titleUntil? close rest).map fun (t, after) => ('\\' :: c :: t, after)
  | c :: rest =>
    if c == close then some ([], rest)
    else if c == '\n' && (rest.dropWhile fun c => c == ' ' || c == '\t').head? == some '\n' then
      none
    else if c == '(' && close == ')' then none
    else (titleUntil? close rest).map fun (t, after) => (c :: t, after)

/-- A title. -/
def title? : List Char → Option (List Char × List Char)
  | '"' :: rest => titleUntil? '"' rest
  | '\'' :: rest => titleUntil? '\'' rest
  | '(' :: rest => titleUntil? ')' rest
  | _ => none

/-- Where a link leads. -/
structure Target where
  /-- The destination. -/
  destination : String
  /-- The title; empty if there is none. -/
  title : String
  deriving DecidableEq, Repr

/-- A target from what is written. -/
def Target.ofSource (destination title : List Char) : Target :=
  ⟨String.ofList (plainText destination), String.ofList (plainText title)⟩

/-- The end of a link, up to its closing parenthesis. -/
def linkEnd? (destination title : List Char) (s : List Char) : Option (Target × List Char) :=
  match s.dropWhile isSpace with
  | ')' :: rest => some (.ofSource destination title, rest)
  | _ => none

/-- The target of a link in parentheses, from behind the opening one. -/
def linkTail? (s : List Char) : Option (Target × List Char) := do
  let s := s.dropWhile isSpace
  if s.head? == some ')' then linkEnd? [] [] s
  else
    let (d, after) ← destination? s
    match linkEnd? d [] after with
    | some found => some found
    | none =>
      if !(after.head?.any isSpace) then none
      else
        let (t, after) ← title? (after.dropWhile isSpace)
        linkEnd? d t after

/-! ### Angle brackets -/

/-- Whether a text is the scheme of an address. -/
def isScheme (s : List Char) : Bool :=
  2 ≤ s.length && s.length ≤ 32 && s.head?.any Char.isAlpha &&
    s.all fun c => c.isAlphanum || c == '+' || c == '.' || c == '-'

/-- Whether a text is an address with a scheme. -/
def isAddress (s : List Char) : Bool :=
  isScheme (s.takeWhile (· != ':')) && s.contains ':' &&
    s.all fun c => !isSpace c && 0x20 ≤ c.toNat && c != '<' && c != '>'

/-- Whether a text is a label of a host name. -/
def isHostLabel (s : List Char) : Bool :=
  !s.isEmpty && s.length ≤ 63 && s.head? != some '-' && s.getLast? != some '-' &&
    s.all fun c => c.isAlphanum || c == '-'

/-- Whether a text is a mail address. -/
def isMailAddress (s : List Char) : Bool :=
  let localPart := s.takeWhile (· != '@')
  let host := (s.dropWhile (· != '@')).drop 1
  s.contains '@' && !localPart.isEmpty &&
    localPart.all (fun c => c.isAlphanum || ".!#$%&'*+/=?^_`\x7b|\x7d~-".toList.contains c) &&
    (host.splitOn '.').all isHostLabel

/-- What follows the attributes of a tag, if they are well formed. -/
def skipAttributes? : Nat → List Char → Option (List Char)
  | 0, _ => none
  | fuel + 1, s =>
    let spaced := s.dropWhile isSpace
    match spaced with
    | [] => none
    | c :: _ =>
      if spaced.length = s.length || !(c.isAlpha || c == '_' || c == ':') then some spaced
      else
        let isNameChar (c : Char) := c.isAlphanum || c == '_' || c == '.' || c == ':' || c == '-'
        let named := spaced.dropWhile isNameChar
        match named.dropWhile isSpace with
        | '=' :: value =>
          match value.dropWhile isSpace with
          | '"' :: rest =>
            if rest.contains '"' then skipAttributes? fuel ((rest.dropWhile (· != '"')).drop 1)
            else none
          | '\'' :: rest =>
            if rest.contains '\'' then skipAttributes? fuel ((rest.dropWhile (· != '\'')).drop 1)
            else none
          | bareValue =>
            let isBare (c : Char) := !isSpace c && !"\"'=<>`".toList.contains c
            if bareValue.head?.any isBare then skipAttributes? fuel (bareValue.dropWhile isBare)
            else none
        | _ => skipAttributes? fuel named

/-- What follows an opening tag, from behind its opening bracket. -/
def openTag? (s : List Char) : Option (List Char) := do
  if !s.head?.any Char.isAlpha then none
  else
    match ← skipAttributes? (s.length + 1) (s.dropWhile fun c => c.isAlphanum || c == '-') with
    | '/' :: '>' :: rest => some rest
    | '>' :: rest => some rest
    | _ => none

/-- What follows a closing tag, from behind its slash. -/
def closeTag? (s : List Char) : Option (List Char) :=
  if !s.head?.any Char.isAlpha then none
  else match (s.dropWhile fun c => c.isAlphanum || c == '-').dropWhile isSpace with
    | '>' :: rest => some rest
    | _ => none

/-- What follows the first occurrence of a text. -/
def after? (pattern : List Char) : List Char → Option (List Char)
  | [] => if pattern.isEmpty then some [] else none
  | c :: rest =>
    if pattern.isPrefixOf (c :: rest) then some ((c :: rest).drop pattern.length)
    else after? pattern rest

/-- What follows a tag, a comment or the like, from behind its opening bracket. -/
def tagEnd? : List Char → Option (List Char)
  | '/' :: rest => closeTag? rest
  | '?' :: rest => after? ['?', '>'] rest
  | '!' :: '-' :: '-' :: rest => after? ['-', '-', '>'] rest
  | '!' :: '[' :: rest =>
    if "CDATA[".toList.isPrefixOf rest then after? [']', ']', '>'] rest else none
  | '!' :: rest => if rest.head?.any Char.isAlpha then after? ['>'] rest else none
  | s => openTag? s

/-- What stands in angle brackets, from behind the opening one: an address, which becomes a link, or
a tag. -/
def angle? (s : List Char) : Option (Inline × List Char) :=
  let inner := s.takeWhile (· != '>')
  let rest := (s.dropWhile (· != '>')).drop 1
  if s.contains '>' && isAddress inner then
    some (.link (String.ofList inner) "" [.text (String.ofList inner)], rest)
  else if s.contains '>' && isMailAddress inner then
    some (.link ("mailto:" ++ String.ofList inner) "" [.text (String.ofList inner)], rest)
  else (tagEnd? s).map fun rest =>
    (.tag (String.ofList ('<' :: s.take (s.length - rest.length))), rest)

end RoomModeration.Markdown
