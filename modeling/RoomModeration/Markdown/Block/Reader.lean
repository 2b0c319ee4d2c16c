import RoomModeration.Markdown.Block.Start
import RoomModeration.Markdown.Inline.Reference

/-!
# Reading blocks

A document is read line by line. Quotes and list items that are open each take their part of the
line; what is left of it starts new blocks or goes on with the innermost one. A line that goes on
with a paragraph may leave out what the quotes and items around it ask for.

## Main definitions

* `Builder` : what is open, and what has been finished.
* `Document.read` : the blocks of a document.
-/

namespace RoomModeration.Markdown

/-- A finished part of a quote, an item or the document. -/
structure Entry where
  /-- Whether a blank line stands before it. -/
  blankBefore : Bool
  /-- The marker, if it is an item of a list, and whether its own blocks are set apart. -/
  marker : Option (Marker × Bool)
  /-- Its blocks. -/
  blocks : List Block

/-- What goes on from line to line. -/
inductive Leaf where
  /-- Nothing. -/
  | none
  /-- A paragraph, its last line first. -/
  | paragraph (lines : List (List Char))
  /-- Indented code, its last line first. -/
  | indented (lines : List (List Char))
  /-- Code behind a fence, its last line first. -/
  | fenced (mark : Char) (size indent : Nat) (info : List Char) (lines : List (List Char))
  /-- Markup, its last line first. -/
  | markup (ending : MarkupEnd) (lines : List (List Char))
  /-- A table, its last row first. -/
  | table (columns : List Alignment) (header : List (List Char)) (rows : List (List (List Char)))

/-- A quote, or an item with the indentation of its lines. -/
inductive Container where
  /-- A quote. -/
  | quote
  /-- An item of a list. -/
  | item (marker : Marker) (width : Nat)

/-- A quote or an item that is open. -/
structure Frame where
  /-- What it is. -/
  container : Container
  /-- Whether a blank line stands before it. -/
  blankBefore : Bool
  /-- What is finished in it, the latest part first. -/
  entries : List Entry

/-- What is open, and what has been finished. -/
structure Builder where
  /-- What is open, the innermost first. -/
  frames : List Frame
  /-- What is finished in the document itself, the latest part first. -/
  root : List Entry
  /-- What goes on from line to line. -/
  leaf : Leaf
  /-- Whether a blank line stands before it. -/
  leafBlank : Bool
  /-- Inside how many frames the last line was blank; absent if it was not. -/
  blankInside : Option Nat
  /-- The definitions. -/
  definitions : Definitions

/-! ### Finishing -/

/-- The lines of a text with line feeds between them. -/
def joinLines (lines : List (List Char)) : List Char :=
  (lines.intersperse ['\n']).flatten

/-- Puts entries together to blocks: items that follow each other make up a list. Each block comes
with whether a blank line stands before it. -/
def assemble : List Entry → List (Bool × Block)
  | [] => []
  | ⟨blank, none, blocks⟩ :: rest => blocks.map (fun b => (blank, b)) ++ assemble rest
  | ⟨blank, some (marker, loose), blocks⟩ :: rest =>
    let same (e : Entry) : Bool := e.marker.any fun m => m.1.sameList marker
    let others := rest.takeWhile same
    let apart := loose || others.any fun e => e.blankBefore || e.marker.any (·.2)
    let start := match marker with
      | .bullet _ => none
      | .number _ value => some value
    (blank, .list start apart (blocks :: others.map (·.blocks))) :: assemble (rest.dropWhile same)
termination_by entries => entries.length
decreasing_by
  · simp
  · have := (List.dropWhile_suffix (l := rest)
      (fun e => e.marker.any fun m => m.1.sameList marker)).length_le
    simp only [List.length_cons]
    omega

namespace Builder

/-- Nothing. -/
def empty : Builder where
  frames := []
  root := []
  leaf := .none
  leafBlank := false
  blankInside := none
  definitions := []

/-- Adds a finished part to the innermost frame. -/
def add (b : Builder) (entry : Entry) : Builder :=
  match b.frames with
  | [] => { b with root := entry :: b.root }
  | frame :: outer => { b with frames := { frame with entries := entry :: frame.entries } :: outer }

/-- Whether a blank line stands before what comes next in the innermost frame. -/
def afterBlank (b : Builder) : Bool :=
  b.blankInside.any (· ≤ b.frames.length)

/-- The lines of a text without the blank ones at its end; the last line first. -/
def dropBlankLines (lines : List (List Char)) : List (List Char) :=
  lines.dropWhile (·.all isSpace)

/-- Finishes what goes on from line to line. -/
def closeLeaf (b : Builder) : Builder :=
  let open_ := { b with leaf := .none }
  let block (x : Block) := open_.add ⟨b.leafBlank, none, [x]⟩
  match b.leaf with
  | .none => b
  | .paragraph lines =>
    let (found, text) := takeDefinitions lines.length (joinLines lines.reverse)
    let defined := { open_ with definitions := open_.definitions ++ found }
    if text.all isSpace then defined
    else defined.add ⟨b.leafBlank, none, [.paragraph text]⟩
  | .indented lines => block (.code [] (dropBlankLines lines).reverse)
  | .fenced _ _ _ info lines => block (.code info lines.reverse)
  | .markup _ lines => block (.markup lines.reverse)
  | .table columns header rows => block (.table columns header rows.reverse)

/-- The entry that a frame becomes. -/
def entryOf (frame : Frame) : Entry :=
  let blocks := assemble frame.entries.reverse
  match frame.container with
  | .quote => ⟨frame.blankBefore, none, [.quote (blocks.map Prod.snd)]⟩
  | .item marker _ =>
    ⟨frame.blankBefore, some (marker, (blocks.drop 1).any Prod.fst), blocks.map Prod.snd⟩

/-- Finishes the innermost frames, so many of them. -/
def closeFrames : Nat → Builder → Builder
  | 0, b => b
  | n + 1, b =>
    let closed := b.closeLeaf
    match closed.frames with
    | [] => closed
    | frame :: outer => closeFrames n ({ closed with frames := outer }.add (entryOf frame))

/-- Finishes all but the outermost frames, of which so many stay. -/
def closeTo (depth : Nat) (b : Builder) : Builder :=
  closeFrames (b.frames.length - depth) b

/-! ### Lines -/

/-- Whether the innermost frame is an item in which nothing stands yet. -/
def inEmptyItem (b : Builder) : Bool :=
  match b.frames, b.leaf with
  | ⟨.item .., _, []⟩ :: _, .none => true
  | _, _ => false

/-- Lets frames, the outermost first, take their part of a line. Gives how many of them did, how
many stand outside the last quote among them and including it, and what is left of the line. -/
def matchFrames (emptyItem : Bool) (line : Line) (done quoted : Nat) :
    List Frame → Nat × Nat × Line
  | [] => (done, quoted, line)
  | frame :: inner =>
    match frame.container with
    | .quote =>
      match line.content with
      | '>' :: rest =>
        if line.indent < 4 then
          let behind : Line := ⟨line.column + line.indent + 1, rest⟩
          matchFrames emptyItem (behind.dropColumns 1) (done + 1) (done + 1) inner
        else (done, quoted, line)
      | _ => (done, quoted, line)
    | .item _ width =>
      if line.isBlank then
        if emptyItem && inner.isEmpty then (done, quoted, line)
        else matchFrames emptyItem ⟨line.column, []⟩ (done + 1) quoted inner
      else if width ≤ line.indent then
        matchFrames emptyItem (line.dropColumns width) (done + 1) quoted inner
      else (done, quoted, line)

/-- Opens a frame. -/
def openFrame (b : Builder) (container : Container) : Builder :=
  let closed := b.closeLeaf
  { closed with frames := ⟨container, closed.afterBlank, []⟩ :: closed.frames }

/-- Begins something that goes on from line to line. -/
def openLeaf (b : Builder) (leaf : Leaf) : Builder :=
  let closed := b.closeLeaf
  { closed with leaf := leaf, leafBlank := closed.afterBlank }

/-- Adds a block that ends with its line. -/
def addBlock (b : Builder) (block : Block) : Builder :=
  let closed := b.closeLeaf
  closed.add ⟨closed.afterBlank, none, [block]⟩

/-- Adds a line of markup, and finishes the markup if the line ends it. -/
def addMarkup (b : Builder) (ending : MarkupEnd) (lines : List (List Char)) (line : List Char) :
    Builder :=
  let longer := { b with leaf := .markup ending (line :: lines) }
  match ending with
  | .text patterns => if holdsAny patterns line then longer.closeLeaf else longer
  | .blank => longer

/-- Goes on with a line of text. -/
def addText (b : Builder) (line : Line) : Builder :=
  match b.leaf with
  | .paragraph lines => { b with leaf := .paragraph (line.content :: lines) }
  | .table columns header rows =>
    { b with leaf := .table columns header (fitRow columns.length (tableCells line.chars) :: rows) }
  | _ => b.openLeaf (.paragraph [line.content])

/-- The table that a line makes of the one line of paragraph above it. -/
def tabled? (b : Builder) (line : Line) : Option Builder :=
  match b.leaf with
  | .paragraph [header] => (tableColumns? header line).map fun columns =>
      { b with leaf := .table columns (tableCells header) [] }
  | _ => none

/-- The heading that a line makes of the paragraph above it. -/
def underlined? (b : Builder) (line : Line) : Option Builder :=
  match b.leaf with
  | .paragraph lines =>
    if 4 ≤ line.indent then none
    else (underline? line.content).map fun level =>
      let text := Text.trimEnd (joinLines lines.reverse)
      { b with leaf := .none }.add ⟨b.leafBlank, none, [.heading level text]⟩
  | _ => none

/-- Goes on with a blank line. -/
def addBlank (b : Builder) (line : Line) : Builder :=
  match b.leaf with
  | .indented lines => { b with leaf := .indented ((line.dropColumns 4).chars :: lines) }
  | _ => b.closeLeaf

/-- Whether a paragraph goes on. -/
def inParagraph (b : Builder) : Bool :=
  match b.leaf with
  | .paragraph _ => true
  | _ => false

/-- The blocks that what is left of a line starts, at most so many, and then the text that is left.
The outermost frames, so many of them, have taken their part of the line; `fresh` says that none of
the blocks has been started by this line. Says with the result whether an item was opened and inside
how many frames a rest that is blank would be so. -/
def openBlocks (matched : Nat) (fresh : Bool) :
    Nat → Builder → Line → Bool → Nat → Builder × Bool × Option Nat
  | 0, b, _, opened, _ => (b, opened, none)
  | fuel + 1, b, line, opened, quoted =>
    let whole := matched == b.frames.length
    let below := b.inParagraph && whole
    let base := b.closeTo matched
    if line.isBlank then (base.addBlank line, opened, some quoted)
    else
      match line.start? (below && fresh) with
      | some (.quote rest) =>
        let deeper := base.openFrame .quote
        openBlocks (matched + 1) false fuel deeper rest opened (matched + 1)
      | some (.item marker width rest) =>
        openBlocks (matched + 1) false fuel (base.openFrame (.item marker width)) rest true quoted
      | some (.heading level text) => (base.addBlock (.heading level text), opened, none)
      | some .rule => (base.addBlock .rule, opened, none)
      | some (.fence mark size indent info) =>
        (base.openLeaf (.fenced mark size indent info []), opened, none)
      | some (.markup ending) =>
        ((base.openLeaf (.markup ending [])).addMarkup ending [] line.chars, opened, none)
      | some .indented =>
        if b.inParagraph && fresh then (b.addText line, opened, none)
        else
          let text := (line.dropColumns 4).chars
          match base.leaf with
          | .indented lines => ({ base with leaf := .indented (text :: lines) }, opened, none)
          | _ => (base.openLeaf (.indented [text]), opened, none)
      | none =>
        if fresh && b.inParagraph then (b.addText line, opened, none)
        else (base.addText line, opened, none)

/-- Goes on with a line that may make a table or a heading of the paragraph above it, or start
blocks. -/
def addOpen (matched quoted : Nat) (b : Builder) (line : Line) : Builder × Bool × Option Nat :=
  let whole := matched == b.frames.length
  match if whole then b.tabled? line <|> b.underlined? line else none with
  | some changed => (changed, false, none)
  | none => openBlocks matched true (line.chars.length + 1) b line false quoted

/-- Goes on with a line. -/
def addLine (b : Builder) (chars : List Char) : Builder :=
  let (matched, quoted, line) :=
    matchFrames b.inEmptyItem ⟨0, chars⟩ 0 0 b.frames.reverse
  let whole := matched == b.frames.length
  let ordinary :=
    let (next, opened, blank) := addOpen matched quoted b line
    { next with blankInside := if opened then none else blank }
  match b.leaf with
  | .fenced mark size indent info lines =>
    if !whole then ordinary
    else if closesFence mark size line then { b.closeLeaf with blankInside := none }
    else
      let text := (line.dropColumns (min indent line.indent)).chars
      { b with leaf := .fenced mark size indent info (text :: lines), blankInside := none }
  | .markup ending lines =>
    if !whole || (ending == .blank && line.isBlank) then ordinary
    else { b.addMarkup ending lines line.chars with blankInside := none }
  | _ => ordinary

end Builder

/-- A document that has been read. -/
structure Document where
  /-- The blocks. -/
  blocks : List Block
  /-- The named targets. -/
  definitions : Definitions

/-- The document that a text spells. -/
def Document.read (s : List Char) : Document :=
  let built := ((splitLines s).foldl Builder.addLine .empty).closeTo 0
  let closed := built.closeLeaf
  ⟨(assemble closed.root.reverse).map Prod.snd, closed.definitions⟩

end RoomModeration.Markdown
