import RoomModeration.Id

/-!
# Greetings

The text of a greeting is a template with two placeholders, one for the newcomer and one for the
name of the room joined.

## Main definitions

* `replaceAll` : every occurrence of a text, from left to right, replaced by another.
* `renderGreeting` : a template with its placeholders filled in.
-/

namespace RoomModeration

/-- Every occurrence of a pattern, from left to right, replaced. Occurrences do not overlap, and
what was put in is not searched again. An empty pattern occurs nowhere. -/
def replaceAll (pattern replacement : List Char) (s : List Char) : List Char :=
  match s with
  | [] => []
  | c :: rest =>
    if pattern.isEmpty then c :: rest
    else if pattern.isPrefixOf (c :: rest) then
      replacement ++ replaceAll pattern replacement (rest.drop (pattern.length - 1))
    else c :: replaceAll pattern replacement rest
termination_by s.length
decreasing_by all_goals simp; try omega

/-- The placeholder for the newcomer. -/
def memberPlaceholder : List Char := ['\x7b', 'm', 'e', 'm', 'b', 'e', 'r', '\x7d']

/-- The placeholder for the name of the room. -/
def roomPlaceholder : List Char := ['\x7b', 'r', 'o', 'o', 'm', '\x7d']

/-- A template with its placeholders filled in: first those for the newcomer, then those for the
room. -/
def renderGreeting (template : String) (member : MemberId) (roomName : String) : String :=
  String.ofList (replaceAll roomPlaceholder roomName.toList
    (replaceAll memberPlaceholder member.text.toList template.toList))

end RoomModeration
