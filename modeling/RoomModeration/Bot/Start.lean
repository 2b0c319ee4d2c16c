import RoomModeration.Bot.BanList

/-!
# Starting the bot

The bot leaves the rooms that it does not monitor, joins those that it does, and brings their ban
lists up to date; only then events count and the lasting work begins. A passive bot only joins. A
room that fails is passed over.

## Main definitions

* `Bot.start` : the whole start.
-/

namespace RoomModeration.Bot

open BotM

variable [Surroundings]

/-- Leaves rooms; one that fails is passed over. -/
def leaveEach : List RoomId → BotM Unit
  | [] => return ()
  | room :: rest => do
    if let .error e ← (leaveRoom room).run then note (.foreignRoomNotLeft room e)
    leaveEach rest

/-- Leaves the rooms that are not monitored. -/
def leaveForeignRooms : BotM Unit := do
  match ← (attempt "joined_rooms" .joinedRooms).run with
  | .error e => note (.joinedRoomsUnknown e)
  | .ok rooms => do
    let config ← getConfig
    leaveEach (rooms.filter (!config.isMonitored ·))

/-- Joins rooms; says how many succeeded. -/
def joinEach : List RoomId → BotM Nat
  | [] => return 0
  | room :: rest => do
    match ← (joinRoom room).run with
    | .ok _ => return (← joinEach rest) + 1
    | .error e => do
      note (.monitoredRoomNotJoined room e)
      joinEach rest

/-- Starts the bot. Events after the given moment count from then on, and the lasting work begins
as soon as the start is over. -/
def start (readyTs : Timestamp) : BotM Unit := do
  let bot ← getBot
  let passive := bot.config.bot.passive
  note (.botStarting bot.selfId passive bot.config.actions.dryRun)
  if !passive then leaveForeignRooms
  let joined ← joinEach (← getConfig).monitoredRooms
  note (.monitoredRoomsJoined joined (← getConfig).monitoredRooms.length)
  if !passive then discard reconcile
  change fun b => { b with readyTs := readyTs }
  let number := (← get).starts
  modify fun w => { w with starts := number + 1 }
  spawn (.beginFeed number)
  spawn (.beginSweeps number)
  spawn (.beginHeartbeats number)

end RoomModeration.Bot
