import RoomModeration.Room.Store
import RoomModeration.Event

/-!
# What an event means for a room

An event is read against the record of its room: a join of a member who is present is a change of
profile, and a departure of a member who is banned is the lifting of the ban. Events at or before
the moment the bot became ready are stale and mean nothing.

## Main definitions

* `Transition` : a change of membership.
* `Meaning` : what an event means.
* `Event.meaning` : reading an event against the store.
-/

namespace RoomModeration

/-- A change of membership. -/
inductive Transition where
  /-- A member joins. -/
  | join (member : MemberId)
  /-- A member leaves. -/
  | leave (member : MemberId)
  /-- The ban of a member is lifted. -/
  | unban (member moderator : MemberId)
  /-- A member is banned; `propagate` is false when the bot itself gave the ban. -/
  | ban (member moderator : MemberId) (reason : String) (propagate : Bool)
  /-- Any other membership, or one that cannot be read. -/
  | other (membership : String)
  deriving DecidableEq, Repr

/-- The word for a kind of transition. -/
def Transition.kind : Transition → String
  | join _ => "join"
  | leave _ => "leave"
  | unban .. => "unban"
  | ban .. => "ban"
  | other _ => "other"

/-- What an event means. -/
inductive Meaning where
  /-- Nothing: it is from before the bot was ready. -/
  | stale
  /-- A chat message. -/
  | chat (sender : MemberId) (body : String)
  /-- A change of membership. -/
  | membership (transition : Transition)
  /-- A change of profile of a member who is present. -/
  | profile (member : MemberId)
  /-- Nothing the bot knows of. -/
  | ignored
  deriving DecidableEq, Repr

/-- What a well formed membership event means for a room that is not stale. -/
def MemberContent.meaning (content : MemberContent) (selfId : MemberId) (store : RoomStore)
    (room : RoomId) (sender subject : MemberId) : Meaning :=
  match content.membership with
  | .join =>
    if store.isMember room subject then .profile subject else .membership (.join subject)
  | .leave =>
    .membership (if store.isBanned room subject then .unban subject sender else .leave subject)
  | .ban => .membership (.ban subject sender (content.reason.getD "") (sender != selfId))
  | .other word => .membership (.other word)

/-- What an event means for a room, to a bot of this identity that became ready at this moment. -/
def Event.meaning (e : Event) (selfId : MemberId) (readyTs : Timestamp) (store : RoomStore)
    (room : RoomId) : Meaning :=
  if e.timestamp ≤ readyTs then .stale
  else
    match e.textBody? with
    | some body => .chat e.sender body
    | none =>
      match e.memberContent with
      | .unrelated => .ignored
      | .malformed => .membership (.other "")
      | .content content => content.meaning selfId store room e.sender e.subject

end RoomModeration
