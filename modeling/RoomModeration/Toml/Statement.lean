import RoomModeration.Toml.Scalar
import RoomModeration.Toml.Quoted

/-!
# The statements of a TOML document

A document is a row of statements, one a line at most: an entry, the header of a table, or the
header of one more table in a row of tables. Keys are paths of simple keys. A value may be a row of
values in brackets, over several lines if need be, or a table in braces.

## Main definitions

* `Toml.Statement` : the statements.
* `Toml.Statement.readAll?` : the statements of a document.
* `Toml.value?` : reading a value.
* `Toml.Node`, `Toml.Builder` : what is still being put together; see `Toml.Builder.insert?`.
-/

namespace RoomModeration.Toml

/-! ### Tables under construction -/

/-- A part of a document under construction. Tables remember how they came about, because that
decides whether later statements may add to them. -/
inductive Node where
  /-- A value that is complete. -/
  | value (value : Toml)
  /-- A table. It is `implicit` if only a longer path has named it, and `dotted` if that path
  belonged to an entry. -/
  | table (implicit dotted : Bool) (entries : List (String × Node))
  /-- The tables of a row, the last one first. -/
  | tables (rows : List (List (String × Node)))

/-- A table under construction. -/
structure Builder where
  /-- Whether only a longer path has named it. -/
  implicit : Bool
  /-- Whether that path belonged to an entry. -/
  dotted : Bool
  /-- The entries so far, the last one first. -/
  entries : List (String × Node)

namespace Builder

/-- A table named by itself, without entries. -/
def empty : Builder := ⟨false, false, []⟩

/-- The entry of a table. -/
def get? (t : Builder) (key : String) : Option Node :=
  Fields.lookup key t.entries

/-- The table with an entry, in place of an earlier one. -/
def set (t : Builder) (key : String) (node : Node) : Builder :=
  { t with entries := (key, node) :: t.entries.filter (·.1 != key) }

/-- Changes the table at the end of a path, making the tables on the way that are not there. The
path of an entry may not lead through a table that has a header of its own. -/
def alter? (ofEntry : Bool) (f : Builder → Option Builder) :
    List String → Builder → Option Builder
  | [], t => f t
  | key :: path, t => do
    match t.get? key with
    | none =>
      let child ← alter? ofEntry f path ⟨true, ofEntry, []⟩
      return t.set key (.table child.implicit child.dotted child.entries)
    | some (.value _) => none
    | some (.tables []) => none
    | some (.tables (row :: rows)) =>
      let child ← alter? ofEntry f path ⟨false, false, row⟩
      return t.set key (.tables (child.entries :: rows))
    | some (.table implicit dotted entries) =>
      if ofEntry && !implicit then none
      else
        let child ← alter? ofEntry f path ⟨implicit, dotted, entries⟩
        return t.set key (.table child.implicit child.dotted child.entries)

/-- Adds an entry to a table. No entry is given twice, and a path never adds to a table that came
about in another way. -/
def insert? (path : List String) (key : String) (value : Toml) (t : Builder) : Option Builder :=
  alter? true (fun child =>
    if child.dotted == path.isEmpty || (child.get? key).isSome then none
    else some (child.set key (.value value))) path t

end Builder

mutual

/-- The value of a finished part. -/
def Node.toToml : Node → Toml
  | .value v => v
  | .table _ _ entries => .table (Node.entriesToToml entries)
  | .tables rows => .array (Node.rowsToToml rows).reverse

/-- The values of the entries of a table. -/
def Node.entriesToToml : List (String × Node) → List (String × Toml)
  | [] => []
  | (key, node) :: rest => (key, node.toToml) :: Node.entriesToToml rest

/-- The values of the tables of a row. -/
def Node.rowsToToml : List (List (String × Node)) → List Toml
  | [] => []
  | row :: rest => .table (Node.entriesToToml row) :: Node.rowsToToml rest

end

/-- The value of a finished table. -/
def Builder.toToml (t : Builder) : Toml :=
  .table (Node.entriesToToml t.entries)

/-! ### Gaps -/

/-- The characters between words of one line. -/
def isSpace (c : Char) : Bool :=
  c == ' ' || c == '\t'

/-- The text behind the spaces it starts with. -/
def skipSpaces (s : List Char) : List Char :=
  s.dropWhile isSpace

/-- The characters of a comment. -/
def isComment (c : Char) : Bool :=
  isPlain c

/-- The text behind spaces and a comment. -/
def skipComment (s : List Char) : List Char :=
  match skipSpaces s with
  | '#' :: rest => rest.dropWhile isComment
  | s => s

/-- The text behind the end of a line, if the line ends here. -/
def lineEnd? : List Char → Option (List Char)
  | [] => some []
  | '\n' :: rest => some rest
  | '\r' :: '\n' :: rest => some rest
  | _ => none

/-- The text behind spaces, line ends and comments, as they may stand between the values of a row;
`inComment` says that a comment has begun. -/
def skipLines : Bool → List Char → List Char
  | _, '\n' :: rest => skipLines false rest
  | _, '\r' :: '\n' :: rest => skipLines false rest
  | inComment, c :: rest =>
    if inComment then if isComment c then skipLines true rest else c :: rest
    else if isSpace c then skipLines false rest
    else if c == '#' then skipLines true rest
    else c :: rest
  | _, [] => []

/-! ### Keys -/

/-- The most simple keys a path may have, and the most rows and tables that may be nested in one
another. -/
def maxDepth : Nat := 79

/-- A path of at most so many simple keys, and what follows it. -/
def keyPath? : Nat → List Char → Option (List String × List Char)
  | 0, _ => none
  | limit + 1, s => do
    let (key, rest) ← key? (skipSpaces s)
    match skipSpaces rest with
    | '.' :: rest => do
      let (path, rest) ← keyPath? limit rest
      return (String.ofList key :: path, rest)
    | rest => return ([String.ofList key], rest)

/-! ### Values -/

/-- Values between brackets, from behind the opening bracket. -/
def rowItems? (read : List Char → Option (Toml × List Char)) (s : List Char) :
    Option (List Toml × List Char) :=
  match skipLines false s with
  | ']' :: rest => some ([], rest)
  | next => do
    let (value, rest) ← read next
    match skipLines false rest with
    | ']' :: rest => some ([value], rest)
    | ',' :: rest =>
      if rest.length < s.length then do
        let (values, rest) ← rowItems? read rest
        return (value :: values, rest)
      else none
    | _ => none
termination_by s.length

/-- An entry, from its key on, and what follows it. -/
def entry? (read : List Char → Option (Toml × List Char)) (s : List Char) :
    Option ((List String × Toml) × List Char) := do
  match ← keyPath? maxDepth s with
  | (path, '=' :: rest) => do
    let (value, rest) ← read (skipSpaces rest)
    return ((path, value), rest)
  | _ => none

/-- Entries between braces, from behind the opening brace or a comma. -/
def braceEntries? (read : List Char → Option (Toml × List Char)) (s : List Char) :
    Option (List (List String × Toml) × List Char) := do
  let (entry, rest) ← entry? read s
  match skipSpaces rest with
  | '\x7d' :: rest => some ([entry], rest)
  | ',' :: rest =>
    if rest.length < s.length then do
      let (entries, rest) ← braceEntries? read rest
      return (entry :: entries, rest)
    else none
  | _ => none
termination_by s.length

/-- Adds an entry whose key is a path. -/
def Builder.insertPath? (t : Builder) (entry : List String × Toml) : Option Builder :=
  match entry.1.getLast? with
  | some key => t.insert? entry.1.dropLast key entry.2
  | none => none

/-- A value with at most so many rows and tables nested in one another, and what follows it. -/
def value? : Nat → List Char → Option (Toml × List Char)
  | _, '"' :: rest => do
    let (text, rest) ← stringLiteral? ('"' :: rest)
    return (.string (String.ofList text), rest)
  | _, '\'' :: rest => do
    let (text, rest) ← stringLiteral? ('\'' :: rest)
    return (.string (String.ofList text), rest)
  | limit + 1, '[' :: rest => do
    let (values, rest) ← rowItems? (value? limit) rest
    return (.array values, rest)
  | limit + 1, '\x7b' :: rest =>
    match skipSpaces rest with
    | '\x7d' :: rest => some (.table [], rest)
    | _ => do
      let (entries, rest) ← braceEntries? (value? limit) rest
      return ((← entries.foldlM Builder.insertPath? .empty).toToml, rest)
  | _, s => scalar? s

/-! ### Statements -/

/-- A statement of a document. -/
inductive Statement where
  /-- An entry of the current table. -/
  | entry (path : List String) (value : Toml)
  /-- The header of a table. -/
  | table (path : List String)
  /-- The header of one more table in a row of tables. -/
  | row (path : List String)

/-- The statement of a line that holds one, and what follows it. -/
def Statement.read? : List Char → Option (Statement × List Char)
  | '[' :: '[' :: rest => do
    match ← keyPath? maxDepth rest with
    | (path, ']' :: ']' :: rest) => return (.row path, rest)
    | _ => none
  | '[' :: rest => do
    match ← keyPath? maxDepth rest with
    | (path, ']' :: rest) => return (.table path, rest)
    | _ => none
  | s => do
    let ((path, value), rest) ← entry? (value? maxDepth) s
    return (.entry path value, rest)

/-- The statements of a text. -/
def Statement.readAll? (s : List Char) : Option (List Statement) :=
  match skipComment s with
  | [] => some []
  | next => do
    match lineEnd? next with
    | some rest =>
      if rest.length < s.length then readAll? rest else none
    | none =>
      let (statement, rest) ← read? (skipSpaces s)
      let rest ← lineEnd? (skipComment rest)
      if rest.length < s.length then (statement :: ·) <$> readAll? rest else none
termination_by s.length

end RoomModeration.Toml
