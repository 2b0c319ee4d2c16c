import RoomModeration.Homeserver.Call

/-!
# A homeserver in memory

A small homeserver that keeps its rooms in memory. It can be told to refuse calls, and the batches
of its feed are prepared beforehand. It keeps a log of all that it was asked.

## Main definitions

* `InMemory` : the state of the homeserver.
* `InMemory.homeserver` : how it answers.
-/

namespace RoomModeration

/-- A room of the homeserver. -/
structure HostedRoom where
  /-- Who is in it. -/
  members : MemberSet
  /-- Who is banned, and why. -/
  banned : MemberMap String
  /-- Its name. -/
  name : Option String

/-- A room without members. -/
def HostedRoom.empty : HostedRoom := ⟨∅, ∅, none⟩

/-- A rule by which calls are refused. -/
structure RefusalRule where
  /-- The name of the calls. -/
  call : String
  /-- The room of the calls, or `*` for all calls of that name. -/
  room : String
  /-- What the calls are answered with. -/
  error : ActionError
  deriving DecidableEq, Repr

/-- Whether a rule is about what was asked. -/
def RefusalRule.applies (r : RefusalRule) (asked : Asked) : Bool :=
  r.call == asked.name && (r.room == "*" || r.room == asked.roomText)

/-- A line of the homeserver's log. -/
structure LoggedCall where
  /-- What was asked. -/
  asked : Asked
  /-- The code of the error with which it was refused. -/
  failed : Option String
  deriving DecidableEq, Repr

/-- The state of a homeserver in memory. -/
structure InMemory where
  /-- The account of the bot. -/
  account : MemberId
  /-- The rooms. -/
  rooms : RoomMap HostedRoom
  /-- The rooms that the bot is in. -/
  joined : RoomSet
  /-- The rooms that aliases stand for. -/
  aliases : RoomMap RoomId
  /-- The rules by which calls are refused; the first that applies counts. -/
  rules : List RefusalRule
  /-- The next batches of the feed. -/
  polls : List (Except ActionError FeedBatch)
  /-- The number of rooms created. -/
  created : Nat
  /-- What was asked, the latest question first. -/
  log : List LoggedCall

namespace InMemory

/-- A homeserver without rooms. -/
def empty (account : MemberId) : InMemory where
  account := account
  rooms := ∅
  joined := ∅
  aliases := ∅
  rules := []
  polls := []
  created := 0
  log := []

/-- The room with an identifier; one that is not there is empty. -/
def room (s : InMemory) (id : RoomId) : HostedRoom :=
  s.rooms[id]?.getD .empty

/-- The homeserver with a room changed. -/
def withRoom (s : InMemory) (id : RoomId) (f : HostedRoom → HostedRoom) : InMemory :=
  { s with rooms := s.rooms.insert id (f (s.room id)) }

/-- The answer to a call that is not refused. -/
def obey (s : InMemory) : (call : Call) → call.Reply × InMemory
  | .whoami => (s.account, s)
  | .join id _ =>
    let id := s.aliases[id]?.getD id
    (id, { s.withRoom id fun r => { r with members := r.members.insert s.account } with
      joined := s.joined.insert id })
  | .leave id => ((), { s with joined := s.joined.erase id })
  | .ban id member reason =>
    ((), s.withRoom id fun r =>
      { r with members := r.members.erase member, banned := r.banned.insert member reason })
  | .unban id member => ((), s.withRoom id fun r => { r with banned := r.banned.erase member })
  | .create _ =>
    let id : RoomId := ⟨s!"!welcome{s.created + 1}:x"⟩
    (id, { s with created := s.created + 1, joined := s.joined.insert id })
  | .listMembers id => (.ofList ((s.room id).members.toList.map fun m => (m, m.text)), s)
  | .bannedMembers id => ((s.room id).banned, s)
  | .displayName id => ((s.room id).name.getD id.text, s)
  | .joinedRooms => (s.joined.toList, s)
  | .send _ _ => ((), s)

/-- Writes a line into the log. -/
def record (s : InMemory) (asked : Asked) (failed : Option String) : InMemory :=
  { s with log := ⟨asked, failed⟩ :: s.log }

/-- The error with which something is refused. -/
def refusal? (s : InMemory) (asked : Asked) : Option ActionError :=
  (s.rules.find? (·.applies asked)).map RefusalRule.error

/-- The answer to a call. -/
def answer (call : Call) (s : InMemory) : Answer call.Reply × InMemory :=
  match s.refusal? (.call call) with
  | some e => (⟨.error e, []⟩, s.record (.call call) (some e.code))
  | none =>
    let (reply, s) := (s.record (.call call) none).obey call
    (⟨.ok reply, []⟩, s)

/-- The batch that ends a poll in which nothing has happened. -/
def quietBatch (request : PollRequest) : FeedBatch where
  nextBatch := request.since.getD ""
  joined := ∅
  left := ∅
  malformed := 0

/-- An answer that arrives after some time. -/
def pollAnswer (delayMs : Nat) (result : Except ActionError FeedBatch) : PollAnswer where
  result := result
  notices := []
  delayMs := delayMs

/-- The answer to a poll: the next batch at once, or else nothing new after the full time. -/
def poll (request : PollRequest) (s : InMemory) : PollAnswer × InMemory :=
  match s.refusal? (.poll request) with
  | some e => (pollAnswer 0 (.error e), s.record (.poll request) (some e.code))
  | none =>
    let s := s.record (.poll request) none
    match s.polls with
    | [] => (pollAnswer request.timeoutMs (.ok (quietBatch request)), s)
    | next :: rest => (pollAnswer 0 next, { s with polls := rest })

/-- How a homeserver in memory answers. -/
def homeserver : Homeserver InMemory where
  answer := answer
  poll := poll

end InMemory

end RoomModeration
