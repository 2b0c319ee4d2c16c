import RoomModeration.Homeserver.Body
import RoomModeration.Homeserver.Failure
import RoomModeration.Feed.Batch
import RoomModeration.Log.Notice

/-!
# Calls to the homeserver

All that the bot ever asks of the homeserver. Each call has its own kind of reply. A homeserver is
anything that answers calls, with a state of its own; nothing is assumed about it, so any call may
fail at any time.

## Main definitions

* `Call`, `Call.Reply` : the calls, and what each is answered with.
* `Answer` : an answer, and what there is to say about it.
* `PollRequest`, `PollAnswer` : asking for the next batch of the feed.
* `Homeserver` : what answers.
-/

namespace RoomModeration

/-- A call to the homeserver. -/
inductive Call where
  /-- Which member the bot is. -/
  | whoami
  /-- Enter a room, which these servers know of. -/
  | join (room : RoomId) (via : List String)
  /-- Leave a room. -/
  | leave (room : RoomId)
  /-- Ban a member from a room. -/
  | ban (room : RoomId) (member : MemberId) (reason : String)
  /-- Lift a ban. -/
  | unban (room : RoomId) (member : MemberId)
  /-- Open a room. -/
  | create (request : RoomCreation)
  /-- Who is in a room, under which display names. -/
  | listMembers (room : RoomId)
  /-- Who is banned from a room, and why. -/
  | bannedMembers (room : RoomId)
  /-- The name of a room. -/
  | displayName (room : RoomId)
  /-- Which rooms the bot is in. -/
  | joinedRooms
  /-- Post a message. -/
  | send (room : RoomId) (message : Message)
  deriving DecidableEq, Repr

namespace Call

/-- What a call is answered with. -/
abbrev Reply : Call → Type
  | whoami => MemberId
  | join .. => RoomId
  | leave _ => Unit
  | ban .. => Unit
  | unban .. => Unit
  | create _ => RoomId
  | listMembers _ => MemberMap String
  | bannedMembers _ => MemberMap String
  | displayName _ => String
  | joinedRooms => List RoomId
  | send .. => Unit

/-- The name of a call. -/
def name : Call → String
  | whoami => "whoami"
  | join .. => "join"
  | leave _ => "leave"
  | ban .. => "ban"
  | unban .. => "unban"
  | create _ => "create"
  | listMembers _ => "list_members"
  | bannedMembers _ => "banned_members"
  | displayName _ => "room_display_name"
  | joinedRooms => "joined_rooms"
  | send _ (.plain _) => "send_plain"
  | send _ (.formatted ..) => "send_formatted"

/-- The room a call is about, if it is about one. -/
def room? : Call → Option RoomId
  | join room _ | leave room | ban room .. | unban room _ | listMembers room | bannedMembers room
  | displayName room | send room _ => some room
  | whoami | create _ | joinedRooms => none

end Call

/-- A request for the next batch of the feed. -/
structure PollRequest where
  /-- Where the feed goes on; absent at its beginning. -/
  since : Option String
  /-- How long the homeserver may wait for something to happen, in milliseconds. -/
  timeoutMs : Nat
  /-- Whether the complete state of all rooms is asked for. -/
  fullState : Bool
  deriving DecidableEq, Repr

/-- An answer of the homeserver. -/
structure Answer (α : Type) where
  /-- What is answered. -/
  result : Except ActionError α
  /-- What the operator may want to know of the way there and back. -/
  notices : List Notice

/-- The answer to a poll. -/
structure PollAnswer extends Answer FeedBatch where
  /-- How many milliseconds it takes to arrive. -/
  delayMs : Nat

/-- What answers calls and polls, with a state of its own. -/
structure Homeserver (S : Type) where
  /-- The answer to a call. -/
  answer : (call : Call) → S → Answer call.Reply × S
  /-- The answer to a poll. -/
  poll : PollRequest → S → PollAnswer × S

/-- What the bot has asked of the homeserver. -/
inductive Asked where
  /-- A call. -/
  | call (call : Call)
  /-- A poll. -/
  | poll (request : PollRequest)
  deriving DecidableEq, Repr

namespace Asked

/-- The name of what was asked. -/
def name : Asked → String
  | call c => c.name
  | poll _ => "poll"

/-- The text of the room that was asked about; empty if it was about none. -/
def roomText : Asked → String
  | call c => c.room?.elim "" RoomId.text
  | poll _ => ""

end Asked

end RoomModeration
