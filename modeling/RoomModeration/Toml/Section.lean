import RoomModeration.Toml.Quoted

/-!
# Writing TOML documents

A document is written as a row of sections: entries under the header of their table, the entries of
the document itself first. A blank line stands before each header. Rows of two and more items take
one line for each item.

## Main definitions

* `Toml.Written` : what an entry can hold that is written here.
* `Toml.Section` : a table with its path.
* `Toml.writeSections` : the text of a document.
-/

namespace RoomModeration.Toml

/-- A value that is written after its key. -/
inductive Written where
  /-- A text. -/
  | text (value : String)
  /-- A natural number. -/
  | natural (value : Nat)
  /-- A truth value. -/
  | boolean (value : Bool)
  /-- A row of texts. -/
  | texts (values : List String)
  deriving DecidableEq, Repr

/-- The entries of one table. -/
structure Section where
  /-- The path of the table; empty for the document itself. -/
  path : List String
  /-- The entries, in their order. -/
  entries : List (String × Written)
  deriving DecidableEq, Repr

/-- The text of a value. -/
def Written.toText : Written → List Char
  | text s => writeString s.toList
  | natural n => Nat.toDigits 10 n
  | boolean true => ['t', 'r', 'u', 'e']
  | boolean false => ['f', 'a', 'l', 's', 'e']
  | texts [] => ['[', ']']
  | texts [s] => '[' :: writeString s.toList ++ [']']
  | texts values =>
    ['[', '\n'] ++
      values.flatMap (fun s => [' ', ' ', ' ', ' '] ++ writeString s.toList ++ [',', '\n']) ++ [']']

/-- The line of an entry. -/
def writeEntry (entry : String × Written) : List Char :=
  writeKey entry.1.toList ++ [' ', '=', ' '] ++ entry.2.toText ++ ['\n']

/-- A path of keys, with points between them. -/
def writePath : List String → List Char
  | [] => []
  | [key] => writeKey key.toList
  | key :: path => writeKey key.toList ++ '.' :: writePath path

/-- The text of a section. -/
def Section.toText (s : Section) : List Char :=
  (if s.path.isEmpty then [] else ['\n', '['] ++ writePath s.path ++ [']', '\n']) ++
    s.entries.flatMap writeEntry

/-- The text of a document. -/
def writeSections (sections : List Section) : String :=
  String.ofList (sections.flatMap Section.toText)

end RoomModeration.Toml
