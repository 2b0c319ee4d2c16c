import RoomModeration.Client.Link
import RoomModeration.Homeserver.Call

/-!
# Endpoints

Every call goes to an endpoint of the homeserver, with a body where it has something to say.

## Main definitions

* `Endpoint`, `Endpoint.url` : the endpoints and their addresses.
* `Call.endpoint`, `Call.body?` : where a call goes, and what it carries.
* `PollRequest.endpoint` : where a poll goes.
-/

namespace RoomModeration

/-- An endpoint, and how it is used. -/
structure Endpoint where
  /-- How requests to it are meant. -/
  method : Method
  /-- The segments of its path, behind those that all endpoints share. -/
  segments : List String
  /-- Its parameters, in order. -/
  parameters : List (String × String)
  deriving DecidableEq, Repr

namespace Endpoint

/-- The segments that the paths of all endpoints share. -/
def sharedSegments : List String := ["_matrix", "client", "v3"]

/-- An endpoint without parameters that belongs to a room. -/
def ofRoom (method : Method) (room : RoomId) (tail : List String) : Endpoint where
  method := method
  segments := "rooms" :: room.text :: tail
  parameters := []

/-- The endpoint at which a session is opened. -/
def login : Endpoint := ⟨.post, ["login"], []⟩

/-- The address of an endpoint at a homeserver. -/
def url (e : Endpoint) (base : Url) : Url :=
  e.parameters.foldl (fun u (name, value) => u.withParameter name value)
    (base.withoutTrailingSlash.pushAll (sharedSegments ++ e.segments))

end Endpoint

/-- Where a call goes. -/
def Call.endpoint : Call → Endpoint
  | whoami => ⟨.get, ["account", "whoami"], []⟩
  | join room via => ⟨.post, ["join", room.text], via.map fun server => ("server_name", server)⟩
  | leave room => .ofRoom .post room ["leave"]
  | ban room _ _ => .ofRoom .post room ["ban"]
  | unban room _ => .ofRoom .post room ["unban"]
  | create _ => ⟨.post, ["createRoom"], []⟩
  | listMembers room => .ofRoom .get room ["joined_members"]
  | bannedMembers room =>
    { Endpoint.ofRoom .get room ["members"] with parameters := [("membership", "ban")] }
  | displayName room => .ofRoom .get room ["state", "m.room.name", ""]
  | joinedRooms => ⟨.get, ["joined_rooms"], []⟩
  | send room _ => .ofRoom .put room ["send", Event.messageKind, freshName]

/-- What a call carries. -/
def Call.body? : Call → Option Json
  | join .. | leave _ => some (.ofFields [])
  | ban _ member reason => some (memberBody member reason)
  | unban _ member => some (memberBody member "")
  | create request => some request.toJson
  | send _ message => some message.toJson
  | whoami | listMembers _ | bannedMembers _ | displayName _ | joinedRooms => none

/-- Where a poll goes. -/
def PollRequest.endpoint (request : PollRequest) : Endpoint where
  method := .get
  segments := ["sync"]
  parameters := ("timeout", toString request.timeoutMs) ::
    request.since.toList.map (fun cursor => ("since", cursor)) ++
    if request.fullState then [("full_state", "true")] else []

end RoomModeration
