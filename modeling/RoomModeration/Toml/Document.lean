import RoomModeration.Toml.Statement

/-!
# TOML documents

The statements of a document are carried out one after the other. Entries go to the table whose
header came last, or to the document itself before the first header.

## Main definitions

* `Toml.Draft` : a document under construction.
* `Toml.Draft.carryOut?` : the effect of a statement.
* `Toml.ofText?` : the table that a text spells.
-/

namespace RoomModeration.Toml

/-- A document under construction. -/
structure Draft where
  /-- The document so far. -/
  root : Builder
  /-- The path of the current table, to which entries go. -/
  path : List String

namespace Draft

/-- A document without statements. -/
def empty : Draft := ⟨.empty, []⟩

/-- Gives a table a header of its own. The table may be there already only if no header and no
entry has named it before; then it keeps its entries. -/
def beginTable? (key : String) (parent : Builder) : Option Builder :=
  match parent.get? key with
  | none => some (parent.set key (.table false false []))
  | some (.table true false entries) => some (parent.set key (.table false false entries))
  | some _ => none

/-- Adds a table to a row of tables. -/
def beginRow? (key : String) (parent : Builder) : Option Builder :=
  match parent.get? key with
  | none => some (parent.set key (.tables [[]]))
  | some (.tables rows) => some (parent.set key (.tables ([] :: rows)))
  | some _ => none

/-- A header with the given effect on the table above the one it names. -/
def header? (effect : String → Builder → Option Builder) (path : List String) (d : Draft) :
    Option Draft := do
  let key ← path.getLast?
  return ⟨← d.root.alter? false (effect key) path.dropLast, path⟩

/-- The effect of a statement. -/
def carryOut? (d : Draft) : Statement → Option Draft
  | .entry path value => do
    return { d with root := ← d.root.alter? false (·.insertPath? (path, value)) d.path }
  | .table path => d.header? beginTable? path
  | .row path => d.header? beginRow? path

end Draft

/-- The text without the mark that some editors put in front of it. -/
def skipByteOrderMark : List Char → List Char
  | '\ufeff' :: rest => rest
  | s => s

/-- The table that a text spells. -/
def ofText? (text : String) : Option Toml := do
  let statements ← Statement.readAll? (skipByteOrderMark text.toList)
  let draft ← statements.foldlM Draft.carryOut? .empty
  return draft.root.toToml

end RoomModeration.Toml
