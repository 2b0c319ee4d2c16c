import RoomModeration.Markdown.Inline
import RoomModeration.Text.AsciiCase

/-!
# Named targets

A paragraph may begin with definitions that give names to targets. A link can then be written with
the name of its target. Names are compared without regard to the case of their letters and to the
amount of blanks in them.

## Main definitions

* `Definitions` : the named targets of a document.
* `label?` : reading a name in brackets.
* `takeDefinitions` : the definitions at the start of a paragraph.
-/

namespace RoomModeration.Markdown

/-- The named targets of a document; the first of a name counts. -/
abbrev Definitions := List (List Char × Target)

/-- A name in the form in which names are compared. -/
def normalLabel (s : List Char) : List Char :=
  let words := (s.splitOnP isSpace).filter (!·.isEmpty)
  Text.lower ((words.intersperse [' ']).flatten)

/-- The target of a name. -/
def Definitions.find? (d : Definitions) (label : List Char) : Option Target :=
  if (normalLabel label).isEmpty then none else d.lookup (normalLabel label)

/-- A name, from behind its opening bracket. -/
def label? : List Char → Option (List Char × List Char)
  | [] => none
  | ']' :: rest => some ([], rest)
  | '[' :: _ => none
  | '\\' :: c :: rest => (label? rest).map fun (l, after) => ('\\' :: c :: l, after)
  | c :: rest => (label? rest).map fun (l, after) => (c :: l, after)

/-- What follows the blanks on a line, if the line ends there. -/
def lineEnd? (s : List Char) : Option (List Char) :=
  match s.dropWhile fun c => c == ' ' || c == '\t' with
  | [] => some []
  | '\n' :: rest => some rest
  | _ => none

/-- A definition at the start of a text. -/
def definition? (s : List Char) : Option ((List Char × Target) × List Char) := do
  match s with
  | '[' :: rest =>
    match ← label? rest with
    | (label, ':' :: after) =>
      let source := after.dropWhile isSpace
      if source.isEmpty || (normalLabel label).isEmpty then none
      else
        let (d, after) ← destination? source
        if d.isEmpty && source.head? != some '<' then none
        else
          let titled := do
            if !after.head?.any isSpace then none
            else
              let (t, rest) ← title? (after.dropWhile isSpace)
              return ((normalLabel label, Target.ofSource d t), ← lineEnd? rest)
          match titled with
          | some found => some found
          | none => return ((normalLabel label, Target.ofSource d []), ← lineEnd? after)
    | _ => none
  | _ => none

/-- The definitions at the start of a paragraph, at most so many, and what follows them. -/
def takeDefinitions : Nat → List Char → Definitions × List Char
  | 0, s => ([], s)
  | fuel + 1, s =>
    match definition? s with
    | none => ([], s)
    | some (found, rest) =>
      let (more, rest) := takeDefinitions fuel rest
      (found :: more, rest)

end RoomModeration.Markdown
