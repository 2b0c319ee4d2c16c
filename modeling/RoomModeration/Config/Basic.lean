import RoomModeration.Id
import RoomModeration.Mode
import RoomModeration.Command.Basic

/-!
# The configuration

What the operator has decided: who may give commands, where the homeserver is, how the bot behaves,
and which rooms it looks after.

A parameter of a mode is kept under the name of the mode in any case of its letters, as the operator
wrote it. There are two ways of looking it up: `RoomConfig.param?` takes the first key that names
the mode, and `RoomConfig.typedParams` goes through all keys in order, so that the last one stays.

## Main definitions

* `Config` and its sections.
* `Config.ofHomeserver` : the configuration with defaults for all the rest.
-/

namespace RoomModeration

/-- A map from names. -/
abbrev NameMap (α : Type) := Std.ExtTreeMap String α

/-- The connection to the homeserver. The last three fields hold the session of an earlier login. -/
structure HomeserverConfig where
  /-- The URL of the homeserver. -/
  url : String
  /-- The login name. -/
  login : String
  /-- The password of the account. -/
  password : String
  /-- The token of the session. -/
  accessToken : Option String
  /-- The device of the session. -/
  device : Option String
  /-- The member the session belongs to. -/
  user : Option MemberId
  deriving DecidableEq, Repr

/-- The connection without its session, so that the next start logs in anew. -/
def HomeserverConfig.clearSession (h : HomeserverConfig) : HomeserverConfig :=
  { h with accessToken := none, device := none, user := none }

/-- How the bot behaves. -/
structure BotConfig where
  /-- What a message starts with that is a command. -/
  commandPrefix : String
  /-- Whether the bot only listens and answers commands. -/
  passive : Bool
  /-- The file with the text of the help. -/
  helpFile : Option String
  /-- How long a poll may take, in milliseconds. -/
  syncTimeoutMs : Nat
  /-- How long to wait before rejoining a room, in seconds. -/
  rejoinDelaySecs : Nat
  /-- How long to wait after a failed poll, in seconds. -/
  pollRetrySecs : Nat
  /-- The time between two signs of life, in seconds. -/
  heartbeatSecs : Nat
  /-- How long to wait before a restart, in seconds. -/
  rebootDelaySecs : Nat
  /-- The port on which counters can be read; zero for none. -/
  metricsPort : Nat
  deriving DecidableEq, Repr

/-- The behaviour of a bot of which nothing is said. -/
def BotConfig.default : BotConfig where
  commandPrefix := "!"
  passive := false
  helpFile := none
  syncTimeoutMs := 10000
  rejoinDelaySecs := 5
  pollRetrySecs := 5
  heartbeatSecs := 1800
  rebootDelaySecs := 5
  metricsPort := 0

/-- How calls to the homeserver are made. -/
structure ActionsConfig where
  /-- Whether bans and unbans are only recorded. -/
  dryRun : Bool
  /-- How many calls a second are made in the long run. -/
  actionsPerSecond : Nat
  /-- How many calls may be made at once. -/
  burst : Nat
  deriving DecidableEq, Repr

/-- How calls are made if nothing is said. -/
def ActionsConfig.default : ActionsConfig where
  dryRun := false
  actionsPerSecond := 2
  burst := 5

/-- The welcome rooms. -/
structure WelcomeConfig where
  /-- The age at which a welcome room is closed, in seconds. -/
  lifetimeSecs : Nat
  /-- The time between two looks at the ages, in seconds. -/
  sweepSecs : Nat
  /-- The name of a welcome room. -/
  roomName : String
  /-- The topic of a welcome room. -/
  roomTopic : Option String
  deriving DecidableEq, Repr

/-- The welcome rooms if nothing is said. -/
def WelcomeConfig.default : WelcomeConfig where
  lifetimeSecs := 3600
  sweepSecs := 60
  roomName := "Welcome"
  roomTopic := none

/-- The form of log lines. -/
inductive LogFormat where
  /-- For people. -/
  | pretty
  /-- For programs. -/
  | json
  deriving DecidableEq, Repr

/-- The word for a form of log lines. -/
def LogFormat.word : LogFormat → String
  | pretty => "pretty"
  | json => "json"

/-- What is logged. -/
structure LoggingConfig where
  /-- Which events are logged. -/
  level : String
  /-- The form of the lines. -/
  format : LogFormat
  deriving DecidableEq, Repr

/-- What is logged if nothing is said. -/
def LoggingConfig.default : LoggingConfig where
  level := "info"
  format := .pretty

/-- What is decided about one room. -/
structure RoomConfig where
  /-- The modes that are on. -/
  modes : ModeSet
  /-- The parameters of modes, under the names of the modes in any case. -/
  params : NameMap String

namespace RoomConfig

/-- A room about which nothing is decided. -/
def default : RoomConfig where
  modes := ∅
  params := ∅

/-- The parameter of a mode: the first, in the order of the keys, whose key names the mode. -/
def param? (r : RoomConfig) (mode : RoomMode) : Option String :=
  (r.params.toList.find? fun p => Text.sameWord p.1 mode.name).map Prod.snd

/-- All parameters whose keys name modes; of several for one mode the last, in the order of the
keys, stays. -/
def typedParams (r : RoomConfig) : ModeMap String :=
  .ofList (r.params.toList.filterMap fun (key, value) =>
    (RoomMode.ofName? key).map fun mode => (mode, value))

end RoomConfig

/-- The configuration. -/
structure Config where
  /-- Who may give commands. -/
  admins : MemberSet
  /-- The connection to the homeserver. -/
  homeserver : HomeserverConfig
  /-- How the bot behaves. -/
  bot : BotConfig
  /-- How calls to the homeserver are made. -/
  actions : ActionsConfig
  /-- The welcome rooms. -/
  welcome : WelcomeConfig
  /-- What is logged. -/
  logging : LoggingConfig
  /-- Texts under names of their own. -/
  vars : NameMap String
  /-- The monitored rooms. -/
  rooms : RoomMap RoomConfig

namespace Config

/-- The configuration of which nothing is said but the connection. -/
def ofHomeserver (homeserver : HomeserverConfig) : Config where
  admins := ∅
  homeserver := homeserver
  bot := .default
  actions := .default
  welcome := .default
  logging := .default
  vars := ∅
  rooms := ∅

/-! ### Questions -/

/-- Whether a member may give commands. -/
def isAdmin (c : Config) (member : MemberId) : Bool :=
  c.admins.contains member

/-- Whether a room is monitored. -/
def isMonitored (c : Config) (room : RoomId) : Bool :=
  c.rooms.contains room

/-- The monitored rooms, in order. -/
def monitoredRooms (c : Config) : List RoomId :=
  c.rooms.keys

/-- What is decided about a room; nothing, if it is not monitored. -/
def roomConfig (c : Config) (room : RoomId) : RoomConfig :=
  c.rooms[room]?.getD .default

/-- Whether a mode is on in a room. -/
def isModeEnabled (c : Config) (room : RoomId) (mode : RoomMode) : Bool :=
  (c.roomConfig room).modes.contains mode

/-- The parameter of a mode in a room. -/
def param? (c : Config) (room : RoomId) (mode : RoomMode) : Option String :=
  c.rooms[room]? >>= (·.param? mode)

/-- The text stored under a name. -/
def var? (c : Config) (name : String) : Option String :=
  c.vars[name]?

/-- The value of a connection setting. -/
def setting (c : Config) : Setting → String
  | .login => c.homeserver.login
  | .host => c.homeserver.url
  | .password => c.homeserver.password

end Config

end RoomModeration
