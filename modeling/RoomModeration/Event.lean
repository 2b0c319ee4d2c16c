import RoomModeration.Json.Record

/-!
# Timeline events

An event of a room's timeline. Only the fields that the bot looks at have types of their own; the
content stays a JSON value until it is asked about.

## Main definitions

* `Event` : the events, with `Event.toJson` and `Event.ofJson?` as their wire form.
* `Membership`, `MemberContent` : what a membership event says.
* `Event.membership`, `Event.chatMessage` : building events.
* `Event.subject`, `Event.memberContent`, `Event.textBody?` : asking about events.
-/

namespace RoomModeration

/-- A point in time as the homeserver gives it: milliseconds, as a signed 64-bit integer. -/
abbrev Timestamp := Int64

/-- An event of a room's timeline. -/
structure Event where
  /-- The type of the event. -/
  kind : String
  /-- The identifier given by the server. -/
  eventId : String
  /-- The member who sent the event. -/
  sender : MemberId
  /-- When the server received it. -/
  timestamp : Timestamp
  /-- The key of a state event; that of a membership event names its subject. -/
  stateKey : Option String
  /-- What the event says. -/
  content : Json
  deriving Repr

/-- The state of a member in a room. -/
inductive Membership where
  /-- The member is in the room. -/
  | join
  /-- The member is outside: left, kicked, or no longer banned. -/
  | leave
  /-- The member is banned. -/
  | ban
  /-- Any other word. -/
  | other (word : String)
  deriving DecidableEq, Repr

namespace Membership

/-- The word that stands for a membership on the wire. -/
def word : Membership → String
  | join => "join"
  | leave => "leave"
  | ban => "ban"
  | other w => w

/-- The membership that a word denotes. -/
def ofWord (w : String) : Membership :=
  if w = "join" then join
  else if w = "leave" then leave
  else if w = "ban" then ban
  else other w

end Membership

/-- The content of a membership event. -/
structure MemberContent where
  /-- The new state of the member. -/
  membership : Membership
  /-- The reason a moderator gave. -/
  reason : Option String
  /-- The display name of the member. -/
  displayName : Option String
  deriving DecidableEq, Repr

namespace MemberContent

/-- The wire form. -/
def toJson (c : MemberContent) : Json :=
  Json.ofOptionalFields [
    ("membership", some (.string c.membership.word)),
    ("reason", c.reason.map .string),
    ("displayname", c.displayName.map .string)]

/-- Reads the wire form. -/
def ofJson? (v : Json) : Option MemberContent := do
  match ← v.fields? ["membership", "reason", "displayname"] with
  | [membership, reason, displayName] => do
    let membership ← Fields.required? Json.asString? membership
    let reason ← Fields.orDefault? none Json.optionalString? reason
    let displayName ← Fields.orDefault? none Json.optionalString? displayName
    return ⟨.ofWord membership, reason, displayName⟩
  | _ => none

end MemberContent

/-- What the content of an event says about a membership. -/
inductive ContentReading where
  /-- The event is no membership event. -/
  | unrelated
  /-- The content of a membership event has not the form it should have. -/
  | malformed
  /-- The event says this. -/
  | content (content : MemberContent)
  deriving DecidableEq, Repr

namespace Event

/-- The type of membership events. -/
def memberKind : String := "m.room.member"

/-- The type of chat messages. -/
def messageKind : String := "m.room.message"

/-- The message type of plain text. -/
def textMessage : String := "m.text"

/-! ### Building events -/

/-- The event by which `sender` changes the membership of `subject`. -/
def membership (sender subject : MemberId) (membership : Membership) (reason : Option String)
    (timestamp : Timestamp) : Event where
  kind := memberKind
  eventId := ""
  sender := sender
  timestamp := timestamp
  stateKey := some subject.text
  content := MemberContent.toJson ⟨membership, reason, none⟩

/-- A plain text message. -/
def chatMessage (sender : MemberId) (body : String) (timestamp : Timestamp) : Event where
  kind := messageKind
  eventId := ""
  sender := sender
  timestamp := timestamp
  stateKey := none
  content := Json.ofFields [("msgtype", .string textMessage), ("body", .string body)]

/-! ### Asking about events -/

/-- Whether this is a membership event. -/
def isMembership (e : Event) : Bool :=
  e.kind == memberKind

/-- What the content says about a membership. -/
def memberContent (e : Event) : ContentReading :=
  if e.isMembership then
    match MemberContent.ofJson? e.content with
    | some c => .content c
    | none => .malformed
  else .unrelated

/-- The member a membership event is about: the one its state key names, or else its sender. -/
def subject (e : Event) : MemberId :=
  match e.stateKey with
  | some key => if key = "" then e.sender else ⟨key⟩
  | none => e.sender

/-- The text of a plain text message. -/
def textBody? (e : Event) : Option String :=
  if e.kind = messageKind ∧ (e.content.get? "msgtype" >>= Json.asString?) = some textMessage then
    e.content.get? "body" >>= Json.asString?
  else none

/-! ### The wire form -/

/-- The names of the fields, in order. -/
def fieldNames : List String :=
  ["type", "event_id", "sender", "origin_server_ts", "state_key", "content"]

/-- The wire form. -/
def toJson (e : Event) : Json :=
  Json.ofOptionalFields [
    ("type", some (.string e.kind)),
    ("event_id", some (.string e.eventId)),
    ("sender", some (.string e.sender.text)),
    ("origin_server_ts", some (.int e.timestamp.toInt)),
    ("state_key", e.stateKey.map .string),
    ("content", some e.content)]

/-- The event with these fields. -/
def ofFields? : List (Option Json) → Option Event
  | [kind, eventId, sender, timestamp, stateKey, content] => do
    let kind ← Fields.required? Json.asString? kind
    let eventId ← Fields.orDefault? "" Json.asString? eventId
    let sender ← Fields.required? Json.memberId? sender
    let timestamp ← Fields.orDefault? 0 Json.int64? timestamp
    let stateKey ← Fields.orDefault? none Json.optionalString? stateKey
    return ⟨kind, eventId, sender, timestamp, stateKey, content.getD .null⟩
  | _ => none

/-- Reads the wire form. -/
def ofJson? (v : Json) : Option Event :=
  v.fields? fieldNames >>= ofFields?

/-- Reads an event out of a document in which arrays and objects are nested at most `depth`
deep. -/
def ofDocument? (depth : Nat) (d : JsonDocument) : Option Event := do
  let fields ← d.fields? fieldNames
  let values ← JsonDocument.values? (depth - 1) fields
  ofFields? values

/-- The event that a text spells. -/
def ofText? (text : String) : Option Event :=
  JsonDocument.ofText? text.toList >>= ofDocument? JsonDocument.maxDepth

end Event

end RoomModeration
