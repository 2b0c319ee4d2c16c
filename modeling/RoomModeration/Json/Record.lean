import RoomModeration.Json.Document
import RoomModeration.Id

/-!
# Records in JSON

A record with named fields is written as an object, or as an array that gives the fields in their
order. In an object, unknown fields are passed over whatever they hold, and a known field may stand
only once; an array may end early but holds no more values than there are fields. Whether a field
may be missing is decided where the record is read; nothing but a field that is optional, or that
may hold any value, accepts the absent value.

## Main definitions

* `JsonDocument.fields?`, `Json.fields?` : the fields of a record, each one if it is there.
* `Json.optionalString?` and its companions : what a field may hold.
-/

namespace RoomModeration

/-- The fields of a record with these names, each one if the document gives it. -/
def JsonDocument.fields? (names : List String) : JsonDocument → Option (List (Option JsonDocument))
  | .object fields =>
    if fields.all (·.1.isSome) then
      names.mapM fun name =>
        match fields.filter (·.1 == some name) with
        | [] => some none
        | [(_, d)] => some (some d)
        | _ => none
    else none
  | .array items =>
    if items.length ≤ names.length then some (names.mapIdx fun i _ => items[i]?) else none
  | _ => none

/-- The fields of a record with these names, each one if the value gives it. -/
def Json.fields? (names : List String) : Json → Option (List (Option Json))
  | .object fields => some (names.map fun name => Fields.lookup name fields)
  | .array items =>
    if items.length ≤ names.length then some (names.mapIdx fun i _ => items[i]?) else none
  | _ => none

/-- The values of fields, in which arrays and objects are nested at most `depth` deep. -/
def JsonDocument.values? (depth : Nat) (fields : List (Option JsonDocument)) :
    Option (List (Option Json)) :=
  fields.mapM fun
    | none => some none
    | some d => some <$> d.toJson? depth

namespace Json

/-- A text that may be absent. -/
def optionalString? : Json → Option (Option String)
  | null => some none
  | string s => some (some s)
  | _ => none

/-- An integer that fits 64 bits with a sign. -/
def int64? : Json → Option Int64
  | number (.integer n) =>
    if Int64.minValue.toInt ≤ n ∧ n ≤ Int64.maxValue.toInt then some (Int64.ofInt n) else none
  | _ => none

/-- A member identifier. -/
def memberId? (v : Json) : Option MemberId :=
  MemberId.mk <$> v.asString?

/-- A room identifier. -/
def roomId? (v : Json) : Option RoomId :=
  RoomId.mk <$> v.asString?

/-- The fields that are there, of which some may be missing. -/
def ofOptionalFields (fields : List (String × Option Json)) : Json :=
  ofFields (fields.filterMap fun (name, value) => value.map (name, ·))

end Json

end RoomModeration
