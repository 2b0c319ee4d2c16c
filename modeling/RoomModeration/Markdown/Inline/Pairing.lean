import RoomModeration.Markdown.Inline

/-!
# Pairing emphasis marks

A run of asterisks, underscores or tildes may open emphasis, close it or do both, depending on what
stands around it. A closing run is paired with the nearest run before it that may open the same kind
of emphasis; what stands between them is emphasized, and marks in it that found no partner stand for
themselves.

## Main definitions

* `MarkRun` : a run of marks.
* `Item` : a part of running text in which marks are still to be paired.
* `pairMarks` : the parts with all marks paired.
-/

namespace RoomModeration.Markdown

/-- A run of equal marks. -/
structure MarkRun where
  /-- The mark. -/
  mark : Char
  /-- How many marks are left. -/
  count : Nat
  /-- How many marks there were. -/
  size : Nat
  /-- Whether the run may open emphasis. -/
  canOpen : Bool
  /-- Whether the run may close emphasis. -/
  canClose : Bool
  deriving DecidableEq, Repr

/-- A part of running text in which marks are still to be paired. -/
inductive Item where
  /-- A character that stands for itself. -/
  | char (c : Char)
  /-- A finished part. -/
  | part (p : Inline)
  /-- A run of marks. -/
  | marks (run : MarkRun)
  /-- A bracket that may open a link or an image, with the text behind it. An inactive one opens
  nothing. -/
  | bracket (isImage active : Bool) (after : List Char)
  deriving Repr

/-- Puts a character in front of running text. -/
def consChar (c : Char) : List Inline → List Inline
  | .text s :: rest => .text (String.ofList (c :: s.toList)) :: rest
  | rest => .text (String.singleton c) :: rest

/-- Puts characters in front of running text. -/
def consChars (cs : List Char) (rest : List Inline) : List Inline :=
  cs.foldr consChar rest

/-- Parts in which no mark finds a partner any more. -/
def settleItems (items : List Item) : List Inline :=
  items.foldr (fun item rest => match item with
    | .char c => consChar c rest
    | .part p => p :: rest
    | .marks run => consChars (List.replicate run.count run.mark) rest
    | .bracket isImage _ _ => consChars (if isImage then ['!', '['] else ['[']) rest) []

/-- Whether a run may open what another closes. Runs that may do both are only paired if their sizes
do not add up to a multiple of three, unless both are one. -/
def MarkRun.opens (opening closing : MarkRun) : Bool :=
  opening.mark == closing.mark && opening.canOpen &&
    (opening.mark == '~' || !(opening.canClose || closing.canOpen) ||
      (opening.size + closing.size) % 3 != 0 || (opening.size % 3 == 0 && closing.size % 3 == 0))

/-- Looks backwards for the run that opens what another closes: gives what stands between them, the
run, and what stands before it. -/
def findOpening (closing : MarkRun) (between : List Item) :
    List Item → Option (List Item × MarkRun × List Item)
  | [] => none
  | .marks run :: before =>
    if run.opens closing then some (between, run, before)
    else findOpening closing (.marks run :: between) before
  | item :: before => findOpening closing (item :: between) before

/-- How many marks of each run a pair takes. -/
def pairSize (opening closing : MarkRun) : Nat :=
  if opening.mark == '~' || (2 ≤ opening.count && 2 ≤ closing.count) then 2 else 1

/-- The emphasis that a pair of marks gives. -/
def emphasized (mark : Char) (size : Nat) (content : List Inline) : Inline :=
  if mark == '~' then .strikethrough content
  else if size = 2 then .strong content
  else .emphasis content

/-- A run without some of its marks, unless none would be left. -/
def remaining (run : MarkRun) (taken : Nat) : List Item :=
  if taken < run.count then [.marks { run with count := run.count - taken }] else []

/-- How much a part adds to what is still to be done. -/
def Item.pending : Item → Nat
  | .marks run => run.count + 1
  | _ => 1

/-- How much is still to be done. -/
def pending : List Item → Nat
  | [] => 0
  | item :: rest => item.pending + pending rest

theorem pending_append (a b : List Item) : pending (a ++ b) = pending a + pending b := by
  induction a with
  | nil => simp [pending]
  | cons item rest ih => simp [pending, ih, Nat.add_assoc]

theorem pairSize_pos (opening closing : MarkRun) : 0 < pairSize opening closing := by
  unfold pairSize
  split <;> omega

/-- Taking marks from a run leaves less to be done. -/
theorem pending_remaining_lt (run : MarkRun) {taken : Nat} (h : 0 < taken) :
    pending (remaining run taken) < run.count + 1 := by
  unfold remaining
  split
  · simp only [pending, Item.pending]
    omega
  · simp [pending]

/-- Pairs the marks of the parts to come with those of the parts that have been passed, which stand
in reverse. -/
def pairFrom (passed : List Item) : List Item → List Item
  | [] => passed.reverse
  | .marks run :: rest =>
    match if run.canClose then findOpening run [] passed else none with
    | some (between, opening, before) =>
      let size := pairSize opening run
      let part := Item.part (emphasized run.mark size (settleItems between))
      pairFrom (part :: (remaining opening size ++ before)) (remaining run size ++ rest)
    | none => pairFrom (.marks run :: passed) rest
  | item :: rest => pairFrom (item :: passed) rest
termination_by items => pending items
decreasing_by
  · have := pending_remaining_lt run (pairSize_pos opening run)
    simp only [pending, pending_append, Item.pending]
    omega
  · simp [pending, Item.pending]
  · simp only [pending, Item.pending]
    split <;> omega

/-- Running text with all marks paired. -/
def pairMarks (items : List Item) : List Inline :=
  settleItems (pairFrom [] items)

end RoomModeration.Markdown
