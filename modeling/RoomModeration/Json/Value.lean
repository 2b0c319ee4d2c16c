import RoomModeration.Fields

/-!
# JSON values

A JSON value as the bot keeps it: event contents it does not look into, and the bodies it sends.
Numbers are exact decimals; the integers among them that fit a machine word stand apart, because
only those are accepted where an integer is called for. The fields of an object are kept in the
order of their names, each name once.

## Main definitions

* `Json` : the values.
* `Json.ofFields` : the object with given fields, in normal form.
* `Json.get?` : the field of an object.
-/

namespace RoomModeration

/-- A JSON number. -/
inductive JsonNumber where
  /-- An integer that fits 64 bits, signed or unsigned. -/
  | integer (value : Int)
  /-- Any other number, as a decimal `mantissa * 10 ^ exponent`. -/
  | decimal (mantissa exponent : Int)
  deriving DecidableEq, Repr

/-- A JSON value. -/
inductive Json where
  /-- The absent value. -/
  | null
  /-- A truth value. -/
  | bool (value : Bool)
  /-- A number. -/
  | number (value : JsonNumber)
  /-- A text. -/
  | string (value : String)
  /-- A row of values. -/
  | array (items : List Json)
  /-- Named values. -/
  | object (fields : List (String × Json))
  deriving Repr

namespace Json

instance : Inhabited Json := ⟨null⟩

/-- An integer. -/
def int (n : Int) : Json :=
  number (.integer n)

/-- The object with these fields; of several with one name the last stays. -/
def ofFields (fields : List (String × Json)) : Json :=
  object (Fields.normal fields)

/-- The field of an object; other values have none. -/
def get? (name : String) : Json → Option Json
  | object fields => Fields.lookup name fields
  | _ => none

/-- The text that a value is, if it is one. -/
def asString? : Json → Option String
  | string s => some s
  | _ => none

end Json

end RoomModeration
