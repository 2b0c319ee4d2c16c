import RoomModeration.Event

/-!
# Request bodies

What the bot sends to the homeserver with its requests.

## Main definitions

* `Login`, `RoomCreation`, `Message` : the bodies with a choice in them.
* `memberBody` : the body of a ban or an unban.
-/

namespace RoomModeration

/-- A login with a password. -/
structure Login where
  /-- The local part or the full identifier of the account. -/
  user : String
  /-- The password of the account. -/
  password : String
  /-- The device of an earlier session, which is used again. -/
  device : Option String
  deriving DecidableEq, Repr

/-- The body of a login. -/
def Login.toJson (l : Login) : Json :=
  Json.ofOptionalFields [
    ("type", some (.string "m.login.password")),
    ("identifier", some (Json.ofFields [
      ("type", .string "m.id.user"),
      ("user", .string l.user)])),
    ("password", some (.string l.password)),
    ("device_id", l.device.map .string),
    ("initial_device_display_name", some (.string "roomwarden"))]

/-- The body of a request about a member. An empty reason is left out. -/
def memberBody (member : MemberId) (reason : String) : Json :=
  Json.ofOptionalFields [
    ("user_id", some (.string member.text)),
    ("reason", if reason = "" then none else some (.string reason))]

/-- Who can find a room. -/
inductive Visibility where
  /-- The room is listed in the directory. -/
  | listed
  /-- The room is not listed. -/
  | hidden
  deriving DecidableEq, Repr

/-- The word for a visibility. -/
def Visibility.word : Visibility → String
  | listed => "public"
  | hidden => "private"

/-- The rules a room starts with. -/
inductive Preset where
  /-- Members come by invitation. -/
  | privateChat
  /-- Members come by invitation and share the creator's power. -/
  | trustedPrivateChat
  /-- Anyone may come. -/
  | publicChat
  deriving DecidableEq, Repr

/-- The word for a preset. -/
def Preset.word : Preset → String
  | privateChat => "private_chat"
  | trustedPrivateChat => "trusted_private_chat"
  | publicChat => "public_chat"

/-- A name drawn at random when a request is sent. No decision depends on it, so it is only ever
shown as what it is. -/
def freshName : String := "<32 hex digits>"

/-- The creation of a room. -/
structure RoomCreation where
  /-- Who can find the room. -/
  visibility : Visibility
  /-- The local part of the alias under which the room is published. -/
  localAlias : Option String
  /-- The name of the room. -/
  name : Option String
  /-- The topic of the room. -/
  topic : Option String
  /-- Who is invited. -/
  invite : List MemberId
  /-- The rules the room starts with. -/
  preset : Preset
  /-- Whether the room is a conversation between two. -/
  isDirect : Bool
  deriving DecidableEq, Repr

namespace RoomCreation

/-- A private room for a conversation with one member. -/
def direct (member : MemberId) : RoomCreation where
  visibility := .hidden
  localAlias := none
  name := none
  topic := none
  invite := [member]
  preset := .trustedPrivateChat
  isDirect := true

/-- The body of a room creation. -/
def toJson (r : RoomCreation) : Json :=
  Json.ofOptionalFields [
    ("visibility", some (.string r.visibility.word)),
    ("room_alias_name", r.localAlias.map .string),
    ("name", r.name.map .string),
    ("topic", r.topic.map .string),
    ("invite", if r.invite.isEmpty then none else some (.array (r.invite.map (.string ·.text)))),
    ("preset", some (.string r.preset.word)),
    ("is_direct", some (.bool r.isDirect))]

end RoomCreation

/-- A message that the bot posts. -/
inductive Message where
  /-- Plain text. -/
  | plain (body : String)
  /-- Plain text together with its rendered form. -/
  | formatted (body html : String)
  deriving DecidableEq, Repr

/-- The body of a message. -/
def Message.toJson : Message → Json
  | plain body => Json.ofFields [
      ("msgtype", .string Event.textMessage),
      ("body", .string body)]
  | formatted body html => Json.ofFields [
      ("msgtype", .string Event.textMessage),
      ("body", .string body),
      ("format", .string "org.matrix.custom.html"),
      ("formatted_body", .string html)]

end RoomModeration
