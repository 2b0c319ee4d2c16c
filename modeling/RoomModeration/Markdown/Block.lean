import RoomModeration.Text.Blank

/-!
# Blocks of a Markdown document

A document is a row of blocks. Some blocks hold running text, which is kept here as it is written;
quotes and list items hold blocks in their turn.

## Main definitions

* `Block` : the blocks.
* `Line` : a line of which a part has been read.
-/

namespace RoomModeration.Markdown

/-- How the cells of a column are set. -/
inductive Alignment where
  /-- Not said. -/
  | unset
  /-- To the left. -/
  | left
  /-- In the middle. -/
  | center
  /-- To the right. -/
  | right
  deriving DecidableEq, Repr

/-- A block of a document. -/
inductive Block where
  /-- A paragraph. -/
  | paragraph (text : List Char)
  /-- A heading of a level from one to six. -/
  | heading (level : Nat) (text : List Char)
  /-- A quote. -/
  | quote (content : List Block)
  /-- A list, numbered from `start` or not at all. In a loose list paragraphs are set apart. -/
  | list (start : Option Nat) (loose : Bool) (items : List (List Block))
  /-- Lines of code, with what is said about the language. -/
  | code (info : List Char) (lines : List (List Char))
  /-- A thematic break. -/
  | rule
  /-- A table. -/
  | table (columns : List Alignment) (header : List (List Char)) (rows : List (List (List Char)))
  /-- Lines of markup, as they are written. -/
  | markup (lines : List (List Char))
  deriving Repr

/-- What is left of a line, and the column at which it starts. Tab stops are four columns apart. -/
structure Line where
  /-- The column at which the rest starts. -/
  column : Nat
  /-- The rest. -/
  chars : List Char
  deriving DecidableEq, Repr

namespace Line

/-- The number of columns that blanks take. -/
def widthFrom (column : Nat) : List Char → Nat
  | ' ' :: rest => 1 + widthFrom (column + 1) rest
  | '\t' :: rest => 4 - column % 4 + widthFrom (column + (4 - column % 4)) rest
  | _ => 0

/-- The number of columns by which a line is indented. -/
def indent (l : Line) : Nat :=
  widthFrom l.column l.chars

/-- A line from behind so many columns of blanks. A tab that is only partly passed leaves spaces. -/
def dropFrom (column n : Nat) : List Char → Line
  | ' ' :: rest => if n = 0 then ⟨column, ' ' :: rest⟩ else dropFrom (column + 1) (n - 1) rest
  | '\t' :: rest =>
    let width := 4 - column % 4
    if n = 0 then ⟨column, '\t' :: rest⟩
    else if width ≤ n then dropFrom (column + width) (n - width) rest
    else ⟨column + n, List.replicate (width - n) ' ' ++ rest⟩
  | s => ⟨column, s⟩

/-- A line from behind so many columns of blanks. -/
def dropColumns (n : Nat) (l : Line) : Line :=
  dropFrom l.column n l.chars

/-- A line from behind its blanks. -/
def content (l : Line) : List Char :=
  l.chars.dropWhile fun c => c == ' ' || c == '\t'

/-- A line from behind its blanks, with the column at which that is. -/
def start (l : Line) : Line :=
  ⟨l.column + l.indent, l.content⟩

/-- Whether nothing but blanks is left. -/
def isBlank (l : Line) : Bool :=
  l.content.isEmpty

end Line

/-- The lines of a text. -/
def splitLines : List Char → List (List Char)
  | [] => []
  | '\r' :: '\n' :: rest => [] :: splitLines rest
  | '\n' :: rest => [] :: splitLines rest
  | '\r' :: rest => [] :: splitLines rest
  | c :: rest =>
    match splitLines rest with
    | line :: lines => (c :: line) :: lines
    | [] => [[c]]

end RoomModeration.Markdown
