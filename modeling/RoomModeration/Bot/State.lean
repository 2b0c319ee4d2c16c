import RoomModeration.Config.Store
import RoomModeration.Homeserver.Call
import RoomModeration.Log.Notice
import RoomModeration.Room.Store
import RoomModeration.Welcome.Registry
import RoomModeration.Bot.Counter

/-!
# The state of the bot

The bot keeps its configuration, the records of its rooms and the open welcome rooms. Around it is a
world with a homeserver, a clock, work that waits to be done and a history of what was done. All of
it is data: a step of the bot is a function from worlds to worlds.

Work is cut into jobs. A job runs to its end before the next one begins; jobs that are ready wait in
a queue, and jobs that have to wait for a moment have a timer. What happens while a job waits for
the answer to a call is not modelled: a batch that names a room as left comes before a job that
enters the room again or after it, and never between the call of that job and the record it begins.

## Main definitions

* `Bot` : what the bot itself keeps.
* `Job`, `Timer` : work that waits.
* `Occurrence` : an entry of the history.
* `Surroundings` : what answers the bot.
* `World` : the bot and what is around it.
-/

namespace RoomModeration

/-- What the bot itself keeps. -/
structure Bot where
  /-- The account of the bot. -/
  selfId : MemberId
  /-- The configuration. -/
  store : ConfigStore
  /-- The records of the joined rooms. -/
  rooms : RoomStore
  /-- The open welcome rooms. -/
  welcome : WelcomeRegistry
  /-- Events at or before this moment are stale. -/
  readyTs : Timestamp
  /-- Where the feed has come to. -/
  cursor : Option String
  /-- Whether someone has asked the bot to end. -/
  shutdown : Bool
  /-- The number of tracked rooms, as it is shown to the operator. -/
  trackedGauge : Nat
  /-- The number of welcome rooms, as it is shown to the operator. -/
  welcomeGauge : Nat

namespace Bot

/-- A bot that has done nothing yet. Until it is ready all events are stale. -/
def initial (selfId : MemberId) (store : ConfigStore) : Bot where
  selfId := selfId
  store := store
  rooms := ∅
  welcome := ∅
  readyTs := Int64.maxValue
  cursor := none
  shutdown := false
  trackedGauge := 0
  welcomeGauge := 0

/-- The configuration of the bot. -/
def config (b : Bot) : Config :=
  b.store.config

/-- Whether the bot can ban in a room, by its configuration. -/
def canBanIn (b : Bot) (room : RoomId) : Bool :=
  b.config.isModeEnabled room .selfModerator || b.config.isModeEnabled room .selfAdministrator

/-- The bot with a record begun. -/
def seed (b : Bot) (room : RoomId) (members : List MemberId) (banned : MemberMap String)
    (config : RoomConfig) : Bot :=
  let rooms := b.rooms.seed room members banned config.modes config.typedParams
  { b with rooms := rooms, trackedGauge := rooms.size }

/-- The bot without the record of a room. -/
def dropRoom (b : Bot) (room : RoomId) : Bot :=
  let rooms := b.rooms.drop room
  { b with
    rooms := rooms
    trackedGauge := if b.rooms.isTracked room then rooms.size else b.trackedGauge }

/-- The bot with one more welcome room. -/
def register (b : Bot) (entry : WelcomeRoom) : Bot :=
  let welcome := b.welcome.register entry
  { b with welcome := welcome, welcomeGauge := welcome.size }

/-- Takes the entry of a welcome room out of the registry. -/
def unregister (b : Bot) (room : RoomId) : Option WelcomeRoom × Bot :=
  match b.welcome.remove room with
  | (some entry, welcome) =>
    (some entry, { b with welcome := welcome, welcomeGauge := welcome.size })
  | (none, _) => (none, b)

/-- The bot with the modes and parameters of a record read anew from the configuration. -/
def refreshModes (b : Bot) (room : RoomId) : Bot :=
  let config := b.config.roomConfig room
  { b with rooms := b.rooms.setModes room config.modes config.typedParams }

end Bot

/-- Work that waits to be done. The jobs of reading the feed, sweeping and giving signs of life
belong to a start of the bot and are cancelled together; they carry its number. -/
inductive Job where
  /-- Open a welcome room for a newcomer. -/
  | greet (source : RoomId) (member : MemberId)
  /-- Close a welcome room that its member has left. -/
  | closeWelcome (room : RoomId)
  /-- Wait before rejoining a room. -/
  | awaitRejoin (room : RoomId) (delaySecs : Nat)
  /-- Rejoin a room, if it is still monitored. -/
  | rejoin (room : RoomId)
  /-- Wait before a restart. -/
  | awaitReboot (delaySecs : Nat)
  /-- Ask for the end. -/
  | reboot
  /-- Begin to read the feed. -/
  | beginFeed (start : Nat)
  /-- Poll for the next batch. -/
  | poll (start : Nat) (since : Option String) (fullState : Bool)
  /-- Take the answer to a poll. -/
  | receive (start : Nat) (since : Option String) (fullState : Bool)
      (result : Except ActionError FeedBatch)
  /-- Begin to look at the ages of the welcome rooms. -/
  | beginSweeps (start : Nat)
  /-- Look at the ages of the welcome rooms. -/
  | sweep (start periodSecs : Nat)
  /-- Begin to give signs of life. -/
  | beginHeartbeats (start : Nat)
  /-- Give a sign of life. -/
  | heartbeat (start periodSecs : Nat)

/-- The number of the start that a job belongs to, if it belongs to one. -/
def Job.start? : Job → Option Nat
  | beginFeed n | poll n _ _ | receive n _ _ _ | beginSweeps n | sweep n _ | beginHeartbeats n
  | heartbeat n _ => some n
  | greet _ _ | closeWelcome _ | awaitRejoin _ _ | rejoin _ | awaitReboot _ | reboot => none

/-- A job that waits for a moment. -/
structure Timer where
  /-- The moment, in milliseconds. -/
  deadline : Nat
  /-- What is to be done then. -/
  job : Job

/-- An entry of the history: something that happened between the bot and the homeserver. -/
inductive Occurrence where
  /-- The bot made a call when it was in this state and about these activities, and the call ended
  so. -/
  | called (before : Bot) (activities : List Activity) (call : Call)
    (result : Except ActionError call.Reply)
  /-- The bot asked for the next batch of the feed when it was in this state. -/
  | polled (before : Bot) (request : PollRequest)
  /-- The answer to a poll arrived. -/
  | answered (result : Except ActionError FeedBatch)
  /-- A batch was applied. -/
  | applied (batch : FeedBatch)

/-- A notice with the activities during which it was given, outermost first. -/
structure LogEntry where
  /-- The activities. -/
  activities : List Activity
  /-- The notice. -/
  notice : Notice
  deriving DecidableEq, Repr

/-- What answers the bot. -/
class Surroundings where
  /-- The states of the homeserver. -/
  Server : Type
  /-- How the homeserver answers. -/
  homeserver : Homeserver Server
  /-- The HTML form of a Markdown text. -/
  render : String → String
  /-- The text of a file, or why it cannot be read. -/
  fileText : String → Except String String
  /-- What is added to the pause after a failed poll, in milliseconds. -/
  jitterMs : Nat

/-- The bot and what is around it. -/
structure World [Surroundings] where
  /-- The bot. -/
  bot : Bot
  /-- The homeserver. -/
  server : Surroundings.Server
  /-- The time, in milliseconds from some origin. -/
  now : Nat
  /-- The jobs that are ready, the next one first. -/
  ready : List Job
  /-- The jobs that wait, in the order in which their timers were set. -/
  timers : List Timer
  /-- How often the bot has been started. -/
  starts : Nat
  /-- How far the counters have come. -/
  counters : Counters
  /-- What happened between the bot and the homeserver, the latest occurrence first. -/
  history : List Occurrence
  /-- The activities that are going on, outermost first. -/
  activities : List Activity
  /-- The notices given, the latest one first. -/
  log : List LogEntry

/-- The world of a bot that has done nothing yet. -/
def World.initial [Surroundings] (bot : Bot) (server : Surroundings.Server) : World where
  bot := bot
  server := server
  now := 0
  ready := []
  timers := []
  starts := 0
  counters := []
  history := []
  activities := []
  log := []

end RoomModeration
