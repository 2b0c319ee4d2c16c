import RoomModeration.Log.Filter
import RoomModeration.Bot.State
import RoomModeration.Json.Printing

/-!
# Log lines

A notice becomes a line for people or an object for programs. Around it stand the activities during
which it was given.

## Main definitions

* `LogEntry.pretty` : the line for people.
* `LogEntry.toJson` : the object for programs.
* `LogEntry.line` : either of them, as a text.
* `shownEntries` : the entries that a filter shows.
-/

namespace RoomModeration

namespace FieldValue

/-- A value as it stands in a line. -/
def text : FieldValue → String
  | bare s => s
  | quoted s => Description.inQuotes s
  | natural n => toString n
  | boolean b => if b then "true" else "false"

/-- A value as it stands in an object. -/
def toJson : FieldValue → Json
  | bare s | quoted s => .string s
  | natural n => .int n
  | boolean b => .bool b

end FieldValue

namespace LogEntry

/-- A name with a value. -/
def assign (name value : String) : String :=
  name ++ "=" ++ value

/-- An activity as it stands in a line. -/
def activityText (a : Activity) : String :=
  let (name, fields) := a.description
  name ++ "\x7b" ++ String.intercalate " " (fields.map fun (k, v) => assign k v) ++ "\x7d:"

/-- An activity as it stands in an object. -/
def activityJson (a : Activity) : Json :=
  let (name, fields) := a.description
  Json.ofFields (fields.map (fun (k, v) => (k, Json.string v)) ++
    if fields.any (·.1 == "name") then [] else [("name", .string name)])

/-- A character of a message. A control that a terminal obeys is shown by its code. -/
def visibleChar (c : Char) : List Char :=
  let hex := Nat.toDigits 16 c.toNat
  if "\x07\x08\x0c\x1b\x7f".toList.contains c then
    '\\' :: 'x' :: List.replicate (2 - hex.length) '0' ++ hex
  else if 0x80 ≤ c.toNat && c.toNat < 0xA0 then '\\' :: 'u' :: '\x7b' :: hex ++ ['\x7d']
  else [c]

/-- A message in which controls are shown by their codes. -/
def visible (message : String) : String :=
  String.ofList (message.toList.flatMap visibleChar)

/-- The line of an entry. -/
def pretty (e : LogEntry) : String :=
  let d := e.notice.description
  let around := String.join (e.activities.map activityText)
  let fields := d.fields.map fun (name, value) => " " ++ assign name value.text
  d.level.name ++ " " ++ around ++ (if around = "" then "" else " ") ++ d.target ++ ": " ++
    visible d.message ++ String.join fields

/-- The object of an entry. -/
def toJson (e : LogEntry) : Json :=
  let d := e.notice.description
  let around := match e.activities.getLast? with
    | none => []
    | some inner => [("span", activityJson inner),
        ("spans", Json.array (e.activities.map activityJson))]
  Json.ofFields ([("level", .string d.level.name), ("target", .string d.target),
    ("fields", Json.ofFields (("message", Json.string d.message) ::
      d.fields.map fun (name, value) => (name, value.toJson)))] ++ around)

/-- An entry in one of the two forms. -/
def line (e : LogEntry) : LogFormat → String
  | .pretty => e.pretty
  | .json => e.toJson.toText

end LogEntry

/-- The entries that a filter shows, each with the activities that it shows. -/
def shownEntries (f : LogFilter) (entries : List LogEntry) : List LogEntry :=
  entries.filterMap fun e =>
    if f.shows e.activities e.notice.description then
      some { e with activities := e.activities.filter f.showsActivity }
    else none

end RoomModeration
