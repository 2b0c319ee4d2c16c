import Std.Data.ExtTreeMap

/-!
# Named fields

Rows of named values, as they occur in objects and tables, and the rules for reading a record out
of them: a field that must be there, and a field that has a default.

## Main definitions

* `Fields.insert`, `Fields.normal` : rows in the order of their names, each name once.
* `Fields.lookup` : the value under a name.
* `Fields.required?`, `Fields.orDefault?` : reading a field.

## Main results

* `Fields.lookup_insert_self`, `Fields.lookup_insert_of_ne` : what inserting does to look-ups.
-/

namespace RoomModeration.Fields

variable {α β : Type}

/-- The fields with one more, which takes the place of an earlier one of the same name. -/
def insert (name : String) (value : α) : List (String × α) → List (String × α)
  | [] => [(name, value)]
  | (n, v) :: rest =>
    match compare name n with
    | .lt => (name, value) :: (n, v) :: rest
    | .eq => (name, value) :: rest
    | .gt => (n, v) :: insert name value rest

/-- The fields in the order of their names; of several with one name the last stays. -/
def normal (fields : List (String × α)) : List (String × α) :=
  fields.foldl (fun done (name, value) => insert name value done) []

/-- The value under a name. -/
def lookup (name : String) : List (String × α) → Option α
  | [] => none
  | (n, v) :: rest => if name = n then some v else lookup name rest

/-- A field that must be there. -/
def required? (read : β → Option α) (field : Option β) : Option α :=
  field >>= read

/-- A field that has a default when it is missing. -/
def orDefault? (default : α) (read : β → Option α) : Option β → Option α
  | none => some default
  | some v => read v

/-- A field is found under the name it was inserted with. -/
@[simp] theorem lookup_insert_self (name : String) (value : α) (fields : List (String × α)) :
    lookup name (insert name value fields) = some value := by
  induction fields with
  | nil => simp [insert, lookup]
  | cons p rest ih =>
    obtain ⟨n, v⟩ := p
    unfold insert
    split
    · simp [lookup]
    · simp [lookup]
    · next h =>
      have hne : name ≠ n := by
        rintro rfl
        simp at h
      simp [lookup, hne, ih]

/-- Inserting a field leaves all others as they are. -/
theorem lookup_insert_of_ne {name other : String} (hne : other ≠ name) (value : α)
    (fields : List (String × α)) :
    lookup other (insert name value fields) = lookup other fields := by
  induction fields with
  | nil => simp [insert, lookup, hne]
  | cons p rest ih =>
    obtain ⟨n, v⟩ := p
    unfold insert
    split
    · simp [lookup, hne]
    · next h =>
      have heq : name = n := Std.LawfulEqOrd.eq_of_compare h
      simp [lookup, hne, ← heq]
    · by_cases hn : other = n <;> simp [lookup, hn, ih]

end RoomModeration.Fields
