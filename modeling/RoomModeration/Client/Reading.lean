import RoomModeration.Client.Link
import RoomModeration.Homeserver.Call
import RoomModeration.Text.Utf8

/-!
# Reading responses

A response that grants a request is read by what the call asks for. Any other response is a refusal;
one that does not say why is shown as it is.

## Main definitions

* `Response.read` : what a response says to a reader.
* `Call.reader`, `Call.excuse?`, `Call.remarks` : what a call makes of a response.
-/

namespace RoomModeration

namespace Response

/-- Why a request was refused. -/
def refusal (r : Response) : ActionError :=
  match r.document? >>= Reply.refusal? with
  | some refusal => .api r.status refusal.code refusal.text
  | none => .api r.status "M_UNKNOWN" (Text.decodeLossy r.body)

/-- What a response says to a reader. -/
def read {α : Type} (reader : ReplyReader α) (r : Response) : Except ActionError α :=
  if r.isSuccess then
    match r.document? >>= reader with
    | some a => .ok a
    | none => .error (.transport "error decoding response body" [])
  else .error r.refusal

end Response

/-- The members of a room under their display names; one without is shown by identifier. -/
def namedMembers (members : MemberMap (Option String)) : MemberMap String :=
  members.map fun member name => name.getD member.text

/-- Who is banned, by the membership events of a room. An event that cannot be read is passed
over; of several about one member the last counts. -/
def banList (events : List Event) : MemberMap String :=
  .ofList (events.filterMap fun e =>
    match e.memberContent with
    | .content ⟨.ban, reason, _⟩ => some (e.subject, reason.getD "")
    | _ => none)

/-- What a call reads in the response that grants it. A room without a name is shown by
identifier. -/
def Call.reader : (call : Call) → ReplyReader call.Reply
  | whoami => Reply.whoami?
  | join .. | create _ => Reply.room?
  | leave _ | ban .. | unban .. | send .. => Reply.anything?
  | listMembers _ => fun d => namedMembers <$> Reply.joinedMembers? d
  | bannedMembers _ => fun d => banList <$> Reply.members? d
  | displayName room => fun d =>
    (fun name => if name = "" then room.text else name) <$> Reply.roomName? d
  | joinedRooms => Reply.joinedRooms?

/-- What a call is answered with although it was refused: a room whose name is not found is shown
by identifier. -/
def Call.excuse? : (call : Call) → ActionError → Option call.Reply
  | displayName room, .api 404 _ _ => some room.text
  | _, _ => none

/-- What there is to say about the response that grants a call. -/
def Call.remarks : Call → Response → List Notice
  | bannedMembers room, response =>
    let events := (response.document? >>= Reply.members?).getD []
    List.replicate (events.countP (·.memberContent == .malformed)) (.malformedBanEntry room)
  | _, _ => []

end RoomModeration
