import RoomModeration.Bot.Rooms

/-!
# Carrying bans over

Rooms that share their bans and in which the bot can ban are the targets. A ban in one room is
repeated in every target that does not list the member yet, and an unban in every target that does;
rooms that agree already are left alone. A call that fails concerns its own room only.

At the start the ban lists of all sharing rooms are united and every target is brought up to the
union.

Which rooms are visited, and with what, is fixed before the first of them is visited.

## Main definitions

* `Bot.propagateBan`, `Bot.propagateUnban` : carrying one change over.
* `RoomStore.banUnion` : the united ban lists.
* `Bot.reconcile` : bringing all targets up to the union.
-/

namespace RoomModeration

open BotM

/-- The targets of a ban: all but the room it comes from and those that list the member. -/
def RoomStore.banTargets (s : RoomStore) (source : RoomId) (member : MemberId) : List RoomId :=
  (s.recordsWhere fun r => r.id != source && r.isBanTarget && !r.lists member).map (·.id)

/-- The targets of an unban: all that list the member, but the room it comes from. -/
def RoomStore.unbanTargets (s : RoomStore) (source : RoomId) (member : MemberId) : List RoomId :=
  (s.recordsWhere fun r => r.id != source && r.isBanTarget && r.lists member).map (·.id)

/-- The ban lists of all rooms that share their bans, united; of several reasons for one member the
first stays. -/
def RoomStore.banUnion (s : RoomStore) : MemberMap String :=
  (s.recordsWhere (·.syncsBans)).foldl
    (fun union r =>
      r.banned.toList.foldl (fun union (m, reason) => union.insertIfNew m reason) union)
    ∅

/-- A ban that is missing in a room. -/
structure MissingBan where
  /-- The room. -/
  room : RoomId
  /-- The member who should be banned there. -/
  member : MemberId
  /-- The reason for it. -/
  reason : String
  deriving DecidableEq, Repr

/-- The bans that the targets miss. -/
def RoomStore.missingBans (s : RoomStore) : List MissingBan :=
  (s.recordsWhere (·.isBanTarget)).flatMap fun r =>
    s.banUnion.toList.filterMap fun (m, reason) =>
      if r.lists m then none else some ⟨r.id, m, reason⟩

namespace Bot

variable [Surroundings]

/-- Tries an action in each of some rooms; gives the rooms in which it succeeded. -/
def tryEach (act : RoomId → ActionM Unit) (succeeded : BotM Unit)
    (failed : RoomId → ActionError → BotM Unit) : List RoomId → BotM (List RoomId)
  | [] => return []
  | room :: rest => do
    match ← (act room).run with
    | .ok () => do
      succeeded
      return room :: (← tryEach act succeeded failed rest)
    | .error e => do
      failed room e
      tryEach act succeeded failed rest

/-- Repeats a ban in every target; gives the rooms in which that succeeded. -/
def propagateBan (source : RoomId) (member : MemberId) (reason : String) : BotM (List RoomId) := do
  let applied ← tryEach (banMember · member reason) (count (.propagations "ban"))
    (fun room e => note (.banPropagationFailed room member e))
    ((← getBot).rooms.banTargets source member)
  if !applied.isEmpty then note (.banPropagated source member applied.length)
  return applied

/-- Repeats an unban in every target; gives the rooms in which that succeeded. -/
def propagateUnban (source : RoomId) (member : MemberId) : BotM (List RoomId) := do
  let applied ← tryEach (unbanMember · member) (count (.propagations "unban"))
    (fun room e => note (.unbanPropagationFailed room member e))
    ((← getBot).rooms.unbanTargets source member)
  if !applied.isEmpty then note (.unbanPropagated source member applied.length)
  return applied

/-- Gives missing bans; says how many succeeded. -/
def banAll : List MissingBan → BotM Nat
  | [] => return 0
  | missing :: rest => do
    match ← (banMember missing.room missing.member missing.reason).run with
    | .ok () => return (← banAll rest) + 1
    | .error e => do
      note (.reconciliationFailed missing.room missing.member e)
      banAll rest

/-- Brings every target up to the union of the ban lists; says how many bans were given. -/
def reconcile : BotM Nat := do
  let rooms := (← getBot).rooms
  let issued ← banAll rooms.missingBans
  note (.reconciled rooms.banUnion.size (rooms.recordsWhere (·.isBanTarget)).length issued)
  return issued

end Bot

end RoomModeration
