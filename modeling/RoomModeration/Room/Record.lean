import RoomModeration.Id
import RoomModeration.Mode

/-!
# Room records

What the bot knows of a room it has joined: who is in it, who is banned and why, and a copy of the
modes and parameters that the configuration gives the room. No member is ever both present and
banned.

## Main definitions

* `RoomRecord` : the record of one room.
* `RoomRecord.isBanTarget` : whether bans of other rooms are carried over to this one.
* `RoomRecord.join`, `leave`, `ban`, `unban` : changes concerning one member.
-/

namespace RoomModeration

/-- What the bot knows of a joined room. -/
structure RoomRecord where
  /-- The room. -/
  id : RoomId
  /-- The members who are present. -/
  members : MemberSet
  /-- The banned members, each with the reason, which may be empty. -/
  banned : MemberMap String
  /-- The modes that the configuration gives the room. -/
  modes : ModeSet
  /-- The mode parameters that the configuration gives the room. -/
  params : ModeMap String

namespace RoomRecord

/-- Whether a mode is on. -/
def hasMode (r : RoomRecord) (mode : RoomMode) : Bool :=
  r.modes.contains mode

/-- Whether the bot has the power to ban here. -/
def canBan (r : RoomRecord) : Bool :=
  r.modes.toList.any RoomMode.grantsBanPower

/-- Whether bans in this room are shared with other rooms. -/
def syncsBans (r : RoomRecord) : Bool :=
  r.hasMode .banlistSync

/-- Whether bans and unbans of other rooms are carried over to this one. -/
def isBanTarget (r : RoomRecord) : Bool :=
  r.syncsBans && r.canBan

/-- Whether a member is banned. -/
def lists (r : RoomRecord) (member : MemberId) : Bool :=
  r.banned.contains member

/-- The record of a room just joined. Members that are reported both as present and as banned are
banned. -/
def seeded (id : RoomId) (members : List MemberId) (banned : MemberMap String) (modes : ModeSet)
    (params : ModeMap String) : RoomRecord where
  id := id
  members := Std.ExtTreeSet.ofList (members.filter (!banned.contains ·))
  banned := banned
  modes := modes
  params := params

/-- The member is present, and not banned any more. -/
def join (r : RoomRecord) (member : MemberId) : RoomRecord :=
  { r with members := r.members.insert member, banned := r.banned.erase member }

/-- The member is not present. -/
def leave (r : RoomRecord) (member : MemberId) : RoomRecord :=
  { r with members := r.members.erase member }

/-- The member is banned for this reason, whatever the reason was before, and not present. -/
def ban (r : RoomRecord) (member : MemberId) (reason : String) : RoomRecord :=
  { r with members := r.members.erase member, banned := r.banned.insert member reason }

/-- The member is not banned. -/
def unban (r : RoomRecord) (member : MemberId) : RoomRecord :=
  { r with banned := r.banned.erase member }

/-- The configuration gives the room other modes and parameters. -/
def withModes (r : RoomRecord) (modes : ModeSet) (params : ModeMap String) : RoomRecord :=
  { r with modes := modes, params := params }

@[simp] theorem seeded_id (id : RoomId) (members : List MemberId) (banned : MemberMap String)
    (modes : ModeSet) (params : ModeMap String) :
    (seeded id members banned modes params).id = id := rfl

@[simp] theorem join_id (r : RoomRecord) (member : MemberId) : (r.join member).id = r.id := rfl

@[simp] theorem leave_id (r : RoomRecord) (member : MemberId) : (r.leave member).id = r.id := rfl

@[simp] theorem ban_id (r : RoomRecord) (member : MemberId) (reason : String) :
    (r.ban member reason).id = r.id := rfl

@[simp] theorem unban_id (r : RoomRecord) (member : MemberId) : (r.unban member).id = r.id := rfl

end RoomRecord

end RoomModeration
