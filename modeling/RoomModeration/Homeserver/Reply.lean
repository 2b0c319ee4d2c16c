import RoomModeration.Event

/-!
# Reply bodies

What the homeserver answers to the requests of the bot.

## Main definitions

* `Session` : the answer to a login.
* `Reply.session?` and its companions : reading an answer.
* `Refusal` : why a request was refused.
-/

namespace RoomModeration

/-- A session of the bot's account. -/
structure Session where
  /-- The token that proves the session in later requests. -/
  accessToken : String
  /-- The device the session belongs to. -/
  device : Option String
  /-- The member the session belongs to. -/
  user : MemberId
  deriving DecidableEq, Repr

/-- Why a request was refused. -/
structure Refusal where
  /-- The code of the cause. -/
  code : String
  /-- The cause in words. -/
  text : String
  deriving DecidableEq, Repr

/-- Reads one reply body. -/
abbrev ReplyReader (α : Type) := JsonDocument → Option α

namespace Reply

/-- Reads a record of plain fields. -/
def record? {α : Type} (names : List String) (read : List (Option Json) → Option α) :
    ReplyReader α := fun d => do
  read (← JsonDocument.values? (JsonDocument.maxDepth - 1) (← d.fields? names))

/-- The answer to a login. -/
def session? : ReplyReader Session :=
  record? ["access_token", "device_id", "user_id"] fun
    | [token, device, user] => do
      return ⟨← Fields.required? Json.asString? token,
        ← Fields.orDefault? none Json.optionalString? device,
        ← Fields.required? Json.memberId? user⟩
    | _ => none

/-- The member a token belongs to. -/
def whoami? : ReplyReader MemberId :=
  record? ["user_id"] fun
    | [user] => Fields.required? Json.memberId? user
    | _ => none

/-- The room that was created or joined. -/
def room? : ReplyReader RoomId :=
  record? ["room_id"] fun
    | [room] => Fields.required? Json.roomId? room
    | _ => none

/-- The rooms that the bot is in. -/
def joinedRooms? : ReplyReader (List RoomId) :=
  record? ["joined_rooms"] fun
    | [some (.array rooms)] => rooms.mapM Json.roomId?
    | _ => none

/-- The members of a room with their display names, where they have one. -/
def joinedMembers? : ReplyReader (MemberMap (Option String)) := fun d => do
  match ← d.fields? ["joined"] with
  | [none] => return ∅
  | [some (.object fields)] => do
    let profile? : ReplyReader (Option String) := fun d => do
      let values ← JsonDocument.values? (JsonDocument.maxDepth - 3) (← d.fields? ["display_name"])
      Fields.orDefault? none Json.optionalString? values.head?.join
    let entries ← fields.mapM fun (name, d) => do return (MemberId.mk (← name), ← profile? d)
    return Std.ExtTreeMap.ofList entries
  | _ => none

/-- The membership events of a room. -/
def members? : ReplyReader (List Event) := fun d => do
  match ← d.fields? ["chunk"] with
  | [none] => return []
  | [some (.array items)] => items.mapM (Event.ofDocument? (JsonDocument.maxDepth - 2))
  | _ => none

/-- The name of a room; empty if it has none. -/
def roomName? : ReplyReader String :=
  record? ["name"] fun
    | [name] => Fields.orDefault? "" Json.asString? name
    | _ => none

/-- Why a request was refused. -/
def refusal? : ReplyReader Refusal :=
  record? ["errcode", "error"] fun
    | [code, text] => do
      return ⟨← Fields.required? Json.asString? code, ← Fields.orDefault? "" Json.asString? text⟩
    | _ => none

/-- An answer of which nothing matters but that it is one. -/
def anything? : ReplyReader Unit := fun d =>
  (fun _ => ()) <$> d.toJson? JsonDocument.maxDepth

/-- What a text says to a reader. -/
def ofText? {α : Type} (read : ReplyReader α) (text : String) : Option α :=
  JsonDocument.ofText? text.toList >>= read

end Reply

end RoomModeration
