import RoomModeration.Markdown.Block
import RoomModeration.Markdown.Inline
import RoomModeration.Text.AsciiCase

/-!
# How blocks start

What a line that begins a block looks like. Each block but the paragraph is known by its first
characters, behind at most three columns of blanks.

## Main definitions

* `Start` : the starts of blocks.
* `Line.start?` : the start that a line is.
* `delimiterRow?`, `tableCells` : the lines of a table.
-/

namespace RoomModeration.Markdown

/-- What marks an item of a list. Items that differ in it belong to different lists. -/
inductive Marker where
  /-- A bullet. -/
  | bullet (mark : Char)
  /-- A number with a mark behind it. -/
  | number (mark : Char) (value : Nat)
  deriving DecidableEq, Repr

/-- Whether two items can belong to one list. -/
def Marker.sameList : Marker → Marker → Bool
  | bullet a, bullet b => a == b
  | number a _, number b _ => a == b
  | _, _ => false

/-- What ends markup. -/
inductive MarkupEnd where
  /-- A line that holds one of these texts. -/
  | text (patterns : List (List Char))
  /-- A blank line. -/
  | blank
  deriving DecidableEq, Repr

/-- The start of a block. -/
inductive Start where
  /-- A quote goes on behind its mark. -/
  | quote (rest : Line)
  /-- An item of a list, whose later lines are indented so far. -/
  | item (marker : Marker) (width : Nat) (rest : Line)
  /-- A heading. -/
  | heading (level : Nat) (text : List Char)
  /-- A fence before code. -/
  | fence (mark : Char) (size indent : Nat) (info : List Char)
  /-- Markup. -/
  | markup (ending : MarkupEnd)
  /-- A thematic break. -/
  | rule
  /-- Code that is indented. -/
  | indented
  deriving Repr

/-- Whether a line holds nothing but blanks and at least three of one mark. -/
def isRule (s : List Char) : Bool :=
  let marks := s.filter fun c => c != ' ' && c != '\t'
  match marks with
  | c :: _ => (c == '*' || c == '-' || c == '_') && marks.all (· == c) && 3 ≤ marks.length
  | [] => false

/-- The level of the heading that an underline makes of the paragraph above it. -/
def underline? (s : List Char) : Option Nat :=
  let marks := Text.trimEnd s
  match marks with
  | '=' :: _ => if marks.all (· == '=') then some 1 else none
  | '-' :: _ => if marks.all (· == '-') then some 2 else none
  | _ => none

/-- The text of a heading, without the marks that may close it. -/
def headingText (s : List Char) : List Char :=
  let text := Text.trim s
  let opened := (text.reverse.dropWhile (· == '#')).reverse
  if opened.isEmpty then []
  else if opened.getLast?.any (fun c => c == ' ' || c == '\t') then Text.trimEnd opened
  else text

/-- A heading. -/
def heading? (s : List Char) : Option Start :=
  let level := (s.takeWhile (· == '#')).length
  let rest := s.dropWhile (· == '#')
  if level = 0 || 6 < level then none
  else if rest.head?.all fun c => c == ' ' || c == '\t' then
    some (.heading level (headingText rest))
  else none

/-- A fence before code. -/
def fence? (indent : Nat) (s : List Char) : Option Start :=
  match s with
  | mark :: _ =>
    let size := (s.takeWhile (· == mark)).length
    let info := Text.trim (s.dropWhile (· == mark))
    if (mark == '`' || mark == '~') && 3 ≤ size && !(mark == '`' && info.contains '`') then
      some (.fence mark size indent (plainText info))
    else none
  | [] => none

/-- Whether a line closes the code behind a fence. -/
def closesFence (mark : Char) (size : Nat) (l : Line) : Bool :=
  let s := l.content
  l.indent < 4 && size ≤ (s.takeWhile (· == mark)).length &&
    (s.dropWhile (· == mark)).all fun c => c == ' ' || c == '\t'

/-- The names of tags that begin markup of their own. -/
def markupTags : List String := ["address", "article", "aside", "base", "basefont", "blockquote",
  "body", "caption", "center", "col", "colgroup", "dd", "details", "dialog", "dir", "div", "dl",
  "dt", "fieldset", "figcaption", "figure", "footer", "form", "frame", "frameset", "h1", "h2", "h3",
  "h4", "h5", "h6", "head", "header", "hr", "html", "iframe", "legend", "li", "link", "main",
  "menu", "menuitem", "nav", "noframes", "ol", "optgroup", "option", "p", "param", "section",
  "source", "summary", "table", "tbody", "td", "tfoot", "th", "thead", "title", "tr", "track", "ul"]

/-- The names of tags whose content is taken as it is. -/
def verbatimTags : List String := ["script", "pre", "style"]

/-- The name at the start of a tag, in lower case, and what follows it. -/
def tagName (s : List Char) : String × List Char :=
  (String.ofList (Text.lower (s.takeWhile Char.isAlphanum)), s.dropWhile Char.isAlphanum)

/-- Markup, which may or may not stand directly below a paragraph. -/
def markupStart? (interrupting : Bool) : List Char → Option Start
  | '<' :: s =>
    let closing := s.head? == some '/'
    let (name, after) := tagName (if closing then s.drop 1 else s)
    let ended := after.head?.all fun c => isSpace c || c == '>'
    if !closing && verbatimTags.contains name && ended then
      some (.markup (.text (verbatimTags.map fun n => ("</" ++ n ++ ">").toList)))
    else if "!--".toList.isPrefixOf s then some (.markup (.text ["-->".toList]))
    else if s.head? == some '?' then some (.markup (.text ["?>".toList]))
    else if "![CDATA[".toList.isPrefixOf s then some (.markup (.text ["]]>".toList]))
    else if s.head? == some '!' && (s.drop 1).head?.any Char.isAlpha then
      some (.markup (.text [">".toList]))
    else if markupTags.contains name && (ended || "/>".toList.isPrefixOf after) then
      some (.markup .blank)
    else if interrupting then none
    else
      match if closing then closeTag? (s.drop 1) else openTag? s with
      | some rest => if rest.all isSpace then some (.markup .blank) else none
      | none => none
  | _ => none

/-- Whether a line ends markup that one of these texts ends. -/
def holdsAny (patterns : List (List Char)) (s : List Char) : Bool :=
  patterns.any fun p => (after? p (Text.lower s)).isSome

/-- A marker, the number of characters that it takes, and what follows it. -/
def marker? (s : List Char) : Option (Marker × Nat × List Char) :=
  match s with
  | c :: rest =>
    if c == '-' || c == '+' || c == '*' then some (.bullet c, 1, rest)
    else
      let digits := s.takeWhile Char.isDigit
      match s.dropWhile Char.isDigit with
      | d :: rest =>
        if !digits.isEmpty && digits.length ≤ 9 && (d == '.' || d == ')') then
          some (.number d (Text.digitsValue digits), digits.length + 1, rest)
        else none
      | [] => none
  | [] => none

/-- Whether a marker can stand directly below a paragraph. -/
def Marker.mayInterrupt : Marker → Bool
  | bullet _ => true
  | number _ value => value == 1

/-- An item of a list. Directly below a paragraph it must not be empty, and a numbered list must
begin with one. -/
def item? (interrupting : Bool) (l : Line) : Option Start := do
  let start := l.start
  let (marker, size, after) ← marker? start.chars
  let behind : Line := ⟨start.column + size, after⟩
  if !(after.head?.all fun c => c == ' ' || c == '\t') then none
  else if interrupting && (behind.isBlank || !marker.mayInterrupt) then none
  else
    let gap := if behind.isBlank || 5 ≤ behind.indent then 1 else behind.indent
    return .item marker (l.indent + size + gap) (behind.dropColumns gap)

/-- The start of a block that a line is, if it is one. A line directly below the lines of a
paragraph cannot start every block. -/
def Line.start? (interrupting : Bool) (l : Line) : Option Start :=
  if l.isBlank then none
  else if 4 ≤ l.indent then if interrupting then none else some .indented
  else
    let s := l.content
    match s with
    | '>' :: rest =>
      let behind : Line := ⟨l.column + l.indent + 1, rest⟩
      some (.quote (behind.dropColumns 1))
    | _ =>
      heading? s <|> fence? l.indent s <|> markupStart? interrupting s <|>
        (if isRule s then some .rule else none) <|> item? interrupting l

/-! ### Tables -/

/-- How a column is set, by its cell below the header. -/
def alignment? (cell : List Char) : Option Alignment :=
  let marks := cell.filter (· != ' ')
  let left := marks.head? == some ':'
  let right := 1 < marks.length && marks.getLast? == some ':'
  if !marks.all fun c => c == '-' || c == ':' then none
  else some (match left, right with
    | true, true => .center
    | true, false => .left
    | false, true => .right
    | false, false => .unset)

/-- The cells of a row, as they are written. A bar that is escaped belongs to its cell, without the
escape. -/
def splitCells : List Char → List (List Char)
  | [] => [[]]
  | '|' :: rest => [] :: splitCells rest
  | '\\' :: '|' :: rest =>
    match splitCells rest with
    | cell :: cells => ('|' :: cell) :: cells
    | [] => [['|']]
  | '\\' :: c :: rest =>
    match splitCells rest with
    | cell :: cells => ('\\' :: c :: cell) :: cells
    | [] => [['\\', c]]
  | c :: rest =>
    match splitCells rest with
    | cell :: cells => (c :: cell) :: cells
    | [] => [[c]]

/-- The cells of a row, without the blanks around them. Bars at the ends of the row enclose it. -/
def tableCells (s : List Char) : List (List Char) :=
  let row := Text.trim s
  let cells := splitCells (if row.head? == some '|' then row.drop 1 else row)
  let cells := if cells.getLast?.all (·.all isSpace) then cells.dropLast else cells
  cells.map Text.trim

/-- The columns of a table, by the line below its header. -/
def delimiterRow? (l : Line) : Option (List Alignment) :=
  let row := Text.trim l.chars
  if 4 ≤ l.indent || row.isEmpty then none
  else
    let cells := splitCells (if row.head? == some '|' then row.drop 1 else row)
    let cells := if cells.getLast?.all (·.all isSpace) then cells.dropLast else cells
    cells.mapM alignment?

/-- The columns of a table with this header, if the line below is as it should be. -/
def tableColumns? (header : List Char) (below : Line) : Option (List Alignment) := do
  let columns ← delimiterRow? below
  if (splitCells header).length < 2 || columns.length != (tableCells header).length then none
  else some columns

/-- A row with as many cells as there are columns. -/
def fitRow (columns : Nat) (cells : List (List Char)) : List (List Char) :=
  (cells ++ List.replicate columns []).take columns

end RoomModeration.Markdown
