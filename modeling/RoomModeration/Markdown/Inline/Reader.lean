import RoomModeration.Markdown.Inline.Pairing
import RoomModeration.Markdown.Inline.Reference

/-!
# Reading running text

Running text is read from left to right. Code, tags and escapes are taken as they come; marks and
opening brackets are kept until it is known what they belong to. A closing bracket ends a link if
an opening one stands before it and a target follows.

## Main definitions

* `readInline` : the parts of a running text.
-/

namespace RoomModeration.Markdown

/-- Whether marks between these characters may open emphasis. Nothing stands before the first
character of a line. -/
def mayOpen (mark : Char) (before after : Option Char) : Bool :=
  match after with
  | none => false
  | some next =>
    !Text.isBlank next &&
      match before with
      | none => true
      | some previous =>
        (mark == '*' && !Text.isPunctuation next) || Text.isBlank previous ||
          Text.isPunctuation previous

/-- Whether marks between these characters may close emphasis. -/
def mayClose (mark : Char) (before after : Option Char) : Bool :=
  match before with
  | none => false
  | some previous =>
    !Text.isBlank previous &&
      match after with
      | none => true
      | some next =>
        (mark == '*' && !Text.isPunctuation previous) || Text.isBlank next ||
          Text.isPunctuation next

/-- Whether a part is a blank character. -/
def Item.isBlank : Item → Bool
  | .char c => c == ' ' || c == '\t'
  | _ => false

/-- The end of a line: two blanks before it keep it. The parts stand in reverse. -/
def endLine (items : List Item) : List Item :=
  let size := (items.takeWhile Item.isBlank).length
  .part (if 2 ≤ size then .hardBreak else .softBreak) :: items.dropWhile Item.isBlank

/-- A text without the blanks that a line starts with. -/
def skipIndent (s : List Char) : List Char :=
  s.dropWhile fun c => c == ' ' || c == '\t'

/-- Looks backwards for the last bracket: gives what stands behind it, the bracket, and what stands
before it. -/
def findBracket (behind : List Item) :
    List Item → Option (List Item × (Bool × Bool × List Char) × List Item)
  | [] => none
  | .bracket isImage active after :: before => some (behind, (isImage, active, after), before)
  | item :: before => findBracket (item :: behind) before

/-- Takes the power to open a link from the brackets before one. -/
def deactivate (items : List Item) : List Item :=
  items.map fun item => match item with
    | .bracket false _ after => .bracket false false after
    | item => item

/-- The target that follows a closing bracket, for a bracket with this content. -/
def targetAfter? (definitions : Definitions) (content : List Char) :
    List Char → Option (Target × List Char)
  | '(' :: rest =>
    match linkTail? rest with
    | some found => some found
    | none => (definitions.find? content).map fun t => (t, '(' :: rest)
  | '[' :: rest =>
    match label? rest with
    | some (label, after) =>
      let name := if (normalLabel label).isEmpty then content else label
      (definitions.find? name).map fun t => (t, after)
    | none => (definitions.find? content).map fun t => (t, '[' :: rest)
  | s => (definitions.find? content).map fun t => (t, s)

/-- The parts after a closing bracket that stands before a text, and what is left of the text. -/
def closeBracket (definitions : Definitions) (items : List Item) (s : List Char) :
    List Item × List Char :=
  match findBracket [] items with
  | none => (.char ']' :: items, s)
  | some (behind, (isImage, active, after), before) =>
    let opened : List Item := if isImage then [.char '[', .char '!'] else [.char '[']
    let literal := (.char ']' :: (behind.reverse ++ opened ++ before), s)
    if !active then literal
    else
      let content := after.take (after.length - (s.length + 1))
      match targetAfter? definitions content s with
      | none => literal
      | some (target, rest) =>
        let inner := pairMarks behind
        if isImage then (.part (.image target.destination target.title inner) :: before, rest)
        else (.part (.link target.destination target.title inner) :: deactivate before, rest)

/-- The parts of a text to come, in reverse, behind those that have been read. -/
def scanInline (definitions : Definitions) :
    Nat → Option Char → List Item → List Char → List Item
  | 0, _, items, _ => items
  | fuel + 1, previous, items, s =>
    let scan := scanInline definitions fuel
    match s with
    | [] => items
    | '\n' :: rest => scan none (endLine items) (skipIndent rest)
    | '\\' :: '\n' :: rest => scan none (.part .hardBreak :: items) (skipIndent rest)
    | '\\' :: c :: rest =>
      if Text.isAsciiPunctuation c then scan (some c) (.char c :: items) rest
      else scan (some '\\') (.char '\\' :: items) (c :: rest)
    | '`' :: rest =>
      let more := rest.takeWhile (· == '`')
      let behind := rest.dropWhile (· == '`')
      match codeSpan? (more.length + 1) behind with
      | some (code, after) => scan (some '`') (.part code :: items) after
      | none => scan (some '`') (('`' :: more).map Item.char ++ items) behind
    | '<' :: rest =>
      match angle? rest with
      | some (part, after) => scan (some '>') (.part part :: items) after
      | none => scan (some '<') (.char '<' :: items) rest
    | '&' :: rest =>
      match Text.entity? rest with
      | some (c, after) => scan (some ';') (.char c :: items) after
      | none => scan (some '&') (.char '&' :: items) rest
    | '!' :: '[' :: rest => scan (some '[') (.bracket true true rest :: items) rest
    | '[' :: rest => scan (some '[') (.bracket false true rest :: items) rest
    | ']' :: rest =>
      let (items, after) := closeBracket definitions items rest
      scan (some (if after.length < rest.length then ')' else ']')) items after
    | c :: rest =>
      if c == '*' || c == '_' || c == '~' then
        let size := (rest.takeWhile (· == c)).length + 1
        let behind := rest.dropWhile (· == c)
        let canOpen := mayOpen c previous behind.head?
        let canClose := mayClose c previous behind.head?
        if (canOpen || canClose) && (c != '~' || size == 2) then
          scan (some c) (.marks ⟨c, size, size, canOpen, canClose⟩ :: items) behind
        else scan (some c) (List.replicate size (.char c) ++ items) behind
      else scan (some c) (.char c :: items) rest

/-- The parts of a running text. -/
def readInline (definitions : Definitions) (s : List Char) : List Inline :=
  let items := scanInline definitions (s.length + 1) none [] (skipIndent s)
  pairMarks (items.dropWhile Item.isBlank).reverse

end RoomModeration.Markdown
