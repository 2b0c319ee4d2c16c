import RoomModeration.Bot.BanList
import RoomModeration.Room.Transition

/-!
# Changes of membership

What the bot does when a membership has changed in a room: it updates the record of the room, and
then greets a newcomer or carries a ban or an unban over to other rooms. What it did itself it does
not carry over again.

## Main definitions

* `Bot.applyTransition` : what a change of membership leads to.
* `Bot.handleLeft` : what happens when the bot is no longer in a room.
-/

namespace RoomModeration.Bot

open BotM

variable [Surroundings]

/-- Changes the records, and gives what the change says of the records before. -/
def updateRooms {α : Type} (f : RoomStore → α × RoomStore) : BotM α := do
  let (result, rooms) := f (← getBot).rooms
  change fun b => { b with rooms := rooms }
  return result

/-- What a change of membership leads to. -/
def applyTransition (room : RoomId) : Transition → BotM Unit
  | .join member => do
    let outcome ← updateRooms (·.applyJoin room member)
    let bot ← getBot
    if outcome = .joined ∧ member ≠ bot.selfId ∧ bot.rooms.hasMode room .welcome then
      spawn (.greet room member)
  | .leave member => discard <| updateRooms (·.applyLeave room member)
  | .unban member moderator => do
    discard <| updateRooms (·.applyUnban room member)
    if moderator ≠ (← getBot).selfId then discard <| propagateUnban room member
  | .ban member moderator reason propagate => do
    discard <| updateRooms (·.applyBan room member reason)
    if propagate then discard <| propagateBan room member reason
    else note (.banNotPropagated room member moderator)
  | .other membership => note (.unhandledMembership room membership)

/-- What happens when the bot is no longer in a room: a welcome room is forgotten, and so is the
record of any other; a monitored room is rejoined later. Says whether it will be. -/
def handleLeft (room : RoomId) : BotM Bool := do
  match (← getBot).unregister room with
  | (some _, bot) => do
    change fun _ => bot
    note (.welcomeClosedRemotely room)
    count (.welcomeEvictions "remote")
    return false
  | (none, _) => do
    endRecord room
    let config ← getConfig
    if config.isMonitored room then do
      note (.rejoinScheduled room config.bot.rejoinDelaySecs)
      spawn (.awaitRejoin room config.bot.rejoinDelaySecs)
      return true
    else do
      note (.unmonitoredRoomGone room)
      return false

/-- The one attempt to come back to a room that is still monitored. -/
def rejoin (room : RoomId) : BotM Unit := do
  if !(← getConfig).isMonitored room then note (.rejoinSkipped room)
  else
    match ← (joinRoom room).run with
    | .ok _ => note (.rejoined room)
    | .error e => note (.rejoinFailed room e)

end RoomModeration.Bot
