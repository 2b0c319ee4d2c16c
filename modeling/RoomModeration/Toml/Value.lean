import RoomModeration.Fields

/-!
# TOML values

What a TOML document says, and how records are read out of it. A record is written as a table, or
as an array that gives its fields in their order; further items of such an array are passed over.
A date reads as a table with a single private entry, which holds its text.

## Main definitions

* `Toml` : the values.
* `Toml.entries?` : the entries of a table.
* `Toml.fields?` : the fields of a record, each one if it is there.
-/

namespace RoomModeration

/-- A TOML value. -/
inductive Toml where
  /-- A text. -/
  | string (value : String)
  /-- An integer that fits 64 bits. -/
  | integer (value : Int)
  /-- A number with a fraction or an exponent; its value is never asked for. -/
  | float
  /-- A truth value. -/
  | boolean (value : Bool)
  /-- A date, a time, or both. -/
  | date (text : String)
  /-- A row of values. -/
  | array (items : List Toml)
  /-- Named values, each name once. -/
  | table (entries : List (String × Toml))
  deriving Repr

namespace Toml

instance : Inhabited Toml := ⟨float⟩

/-- The name of the private entry of a date. -/
def dateKey : String := "$__toml_private_datetime"

/-- The entries of a table. -/
def entries? : Toml → Option (List (String × Toml))
  | table entries => some entries
  | date text => some [(dateKey, .string text)]
  | _ => none

/-- The fields of a record with these names, each one if the value gives it. -/
def fields? (names : List String) : Toml → Option (List (Option Toml))
  | array items => some (names.mapIdx fun i _ => items[i]?)
  | v => v.entries?.map fun entries => names.map (Fields.lookup · entries)

/-- A text. -/
def string? : Toml → Option String
  | string s => some s
  | _ => none

/-- A truth value. -/
def boolean? : Toml → Option Bool
  | boolean b => some b
  | _ => none

/-- A natural number below a bound. -/
def natural? (bound : Nat) : Toml → Option Nat
  | integer n => if 0 ≤ n ∧ n < bound then some n.toNat else none
  | _ => none

/-- A row of values. -/
def items? : Toml → Option (List Toml)
  | array items => some items
  | _ => none

/-- A choice among words: the word itself, or a table whose only entry has the word for its name
and nothing for its value. -/
def choice? : Toml → Option String
  | string s => some s
  | table [(name, .table [])] => some name
  | table [(name, .array [])] => some name
  | _ => none

end Toml

end RoomModeration
