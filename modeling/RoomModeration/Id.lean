import RoomModeration.Text.Blank
import Std.Data.ExtTreeMap
import Std.Data.ExtTreeSet

/-!
# Room and member identifiers

An identifier is a sigil, a local part, a colon and the name of a server. Rooms and members have
types of their own, so that one can never stand where the other is meant. Identifiers that come
from the homeserver or from the configuration are taken as they are; only what a person types is
checked, by `RoomId.parse` and `MemberId.parse`.

Identifiers are ordered by their text, code point by code point, which is also the order of their
UTF-8 bytes.

## Main definitions

* `serverPart` : the server named by a well formed identifier.
* `RoomId`, `MemberId` : the two kinds of identifier.
* `RoomId.parse`, `MemberId.parse` : reading an identifier that a person typed.
-/

namespace RoomModeration

/-- The server named by a text of the form `<sigil><local part>:<server>`: the part after the
first colon, provided that both parts are non-empty and no blank occurs anywhere. -/
def serverPart (sigils : List Char) : List Char → Option (List Char)
  | [] => none
  | sigil :: rest =>
    if sigils.contains sigil then
      match rest.dropWhile (· != ':') with
      | _ :: server =>
        if (rest.takeWhile (· != ':')).isEmpty || server.isEmpty ||
            (sigil :: rest).any Text.isBlank then none
        else some server
      | [] => none
    else none

/-- A text that names a server starts with a sigil and has no blanks. -/
theorem exists_sigil_of_serverPart {sigils text : List Char}
    (h : (serverPart sigils text).isSome = true) :
    ∃ sigil rest, text = sigil :: rest ∧ sigils.contains sigil = true ∧
      ∀ c ∈ text, Text.isBlank c = false := by
  cases text with
  | nil => cases h
  | cons sigil rest =>
    rw [serverPart] at h
    by_cases hsigil : sigils.contains sigil = true
    · rw [if_pos hsigil] at h
      split at h
      · split at h
        · cases h
        · next hwell =>
          simp only [Bool.or_eq_true, not_or, Bool.not_eq_true] at hwell
          refine ⟨sigil, rest, rfl, hsigil, fun c hc => ?_⟩
          simpa using List.any_eq_false.1 hwell.2 c hc
      · cases h
    · rw [if_neg hsigil] at h
      cases h

/-- The two kinds of identifier. -/
inductive IdKind where
  /-- A room or a room alias. -/
  | room
  /-- A member. -/
  | member
  deriving DecidableEq, Repr

/-- The word for a kind of identifier. -/
def IdKind.name : IdKind → String
  | .room => "room"
  | .member => "member"

/-- The characters an identifier of this kind may start with. -/
def IdKind.sigils : IdKind → List Char
  | .room => ['!', '#']
  | .member => ['@']

/-- A text that was meant as an identifier and does not have the form of one. -/
structure IdError where
  /-- What the text was meant as. -/
  kind : IdKind
  /-- The rejected text. -/
  value : String
  deriving DecidableEq, Repr

/-- The wording of an identifier error. -/
def IdError.message (e : IdError) : String :=
  s!"invalid {e.kind.name} id '{e.value}'"

/-- A room identifier `!opaque:server` or alias `#alias:server`. -/
structure RoomId where
  /-- The identifier as it is written. -/
  text : String
  deriving DecidableEq, Repr

/-- A member identifier `@localpart:server`. -/
structure MemberId where
  /-- The identifier as it is written. -/
  text : String
  deriving DecidableEq, Repr

instance : Ord RoomId := ⟨compareOn RoomId.text⟩

instance : Std.TransOrd RoomId := inferInstanceAs (Std.TransCmp (compareOn RoomId.text))

instance : Std.LawfulEqOrd RoomId where
  compare_self {a} := Std.ReflOrd.compare_self (a := RoomId.text a)
  eq_of_compare {a b} h := by
    have h' : a.text = b.text := Std.LawfulEqOrd.eq_of_compare h
    cases a; cases b; simpa using h'

instance : Ord MemberId := ⟨compareOn MemberId.text⟩

instance : Std.TransOrd MemberId := inferInstanceAs (Std.TransCmp (compareOn MemberId.text))

instance : Std.LawfulEqOrd MemberId where
  compare_self {a} := Std.ReflOrd.compare_self (a := MemberId.text a)
  eq_of_compare {a b} h := by
    have h' : a.text = b.text := Std.LawfulEqOrd.eq_of_compare h
    cases a; cases b; simpa using h'

/-! ### Rooms -/

/-- The server named by a room identifier, if the identifier is well formed. -/
def RoomId.server? (room : RoomId) : Option String :=
  (serverPart IdKind.room.sigils room.text.toList).map String.ofList

/-- Reads a room identifier that a person typed. -/
def RoomId.parse (raw : String) : Except IdError RoomId :=
  if (serverPart IdKind.room.sigils raw.toList).isSome then .ok ⟨raw⟩
  else .error ⟨.room, raw⟩

theorem RoomId.parse_eq_ok_iff {raw : String} {room : RoomId} :
    parse raw = .ok room ↔
      room = ⟨raw⟩ ∧ (serverPart IdKind.room.sigils raw.toList).isSome = true := by
  rw [parse]
  split
  · next h =>
    exact ⟨fun heq => ⟨(Except.ok.inj heq).symm, h⟩, fun heq => congrArg Except.ok heq.1.symm⟩
  · next h => exact ⟨nofun, fun heq => absurd heq.2 h⟩

/-- An alias starts with `#`; only a join resolves it. -/
def RoomId.isAlias (room : RoomId) : Bool :=
  room.text.toList.head? == some '#'

/-! ### Members -/

/-- The server named by a member identifier, if the identifier is well formed. -/
def MemberId.server? (member : MemberId) : Option String :=
  (serverPart IdKind.member.sigils member.text.toList).map String.ofList

/-- Reads a member identifier that a person typed. -/
def MemberId.parse (raw : String) : Except IdError MemberId :=
  if (serverPart IdKind.member.sigils raw.toList).isSome then .ok ⟨raw⟩
  else .error ⟨.member, raw⟩

theorem MemberId.parse_eq_ok_iff {raw : String} {member : MemberId} :
    parse raw = .ok member ↔
      member = ⟨raw⟩ ∧ (serverPart IdKind.member.sigils raw.toList).isSome = true := by
  rw [parse]
  split
  · next h =>
    exact ⟨fun heq => ⟨(Except.ok.inj heq).symm, h⟩, fun heq => congrArg Except.ok heq.1.symm⟩
  · next h => exact ⟨nofun, fun heq => absurd heq.2 h⟩

/-- A set of members. -/
abbrev MemberSet := Std.ExtTreeSet MemberId

/-- A map from members. -/
abbrev MemberMap (α : Type) := Std.ExtTreeMap MemberId α

/-- A map from rooms. -/
abbrev RoomMap (α : Type) := Std.ExtTreeMap RoomId α

/-- A set of rooms. -/
abbrev RoomSet := Std.ExtTreeSet RoomId

end RoomModeration
