import RoomModeration.Config.Basic

/-!
# Problems of a configuration

A configuration can be read and still make no sense. All its problems are found at once, in a fixed
order, before anything is done with it.

## Main definitions

* `ConfigProblem` : the problems, with `ConfigProblem.message` as their wording.
* `Config.problems` : the problems of a configuration.
-/

namespace RoomModeration

/-- A problem of a configuration. -/
inductive ConfigProblem where
  /-- There is no URL. -/
  | missingUrl
  /-- The URL is none that the bot can use. -/
  | invalidUrl (url : String)
  /-- There is nothing to log in with. -/
  | missingCredentials
  /-- Every message would be a command. -/
  | emptyPrefix
  /-- A monitored room has no room identifier. -/
  | invalidRoom (id : String)
  /-- An admin has no member identifier. -/
  | invalidAdmin (id : String)
  /-- A number is zero that must not be. -/
  | zero (name : String)
  /-- The file with the help does not exist. -/
  | helpFileNotFound (path : String)
  deriving DecidableEq, Repr

/-- The wording of a problem. -/
def ConfigProblem.message : ConfigProblem → String
  | missingUrl => "homeserver.url is required"
  | invalidUrl url => s!"homeserver.url must start with http:// or https://, got '{url}'"
  | missingCredentials =>
    "homeserver.login and homeserver.password are required when no access_token is stored"
  | emptyPrefix => "bot.prefix must not be empty"
  | invalidRoom id => s!"invalid room id in [rooms]: '{id}'"
  | invalidAdmin id => s!"invalid member id in admins: '{id}'"
  | zero name => s!"{name} must be greater than zero"
  | helpFileNotFound path => s!"bot.help_file does not exist: {path}"

namespace Config

/-- Whether a URL has one of the schemes that the bot can use. -/
def hasKnownScheme (url : String) : Bool :=
  "http://".toList.isPrefixOf url.toList || "https://".toList.isPrefixOf url.toList

/-- Problems of the connection. -/
def homeserverProblems (h : HomeserverConfig) : List ConfigProblem :=
  (if h.url = "" then [.missingUrl]
    else if hasKnownScheme h.url then [] else [.invalidUrl h.url]) ++
  if h.accessToken.all (· = "") && (h.login = "" || h.password = "") then [.missingCredentials]
  else []

/-- The numbers that must not be zero. -/
def positiveNumbers (c : Config) : List (String × Nat) :=
  [("bot.sync_timeout_ms", c.bot.syncTimeoutMs),
    ("bot.heartbeat_secs", c.bot.heartbeatSecs),
    ("welcome.lifetime_secs", c.welcome.lifetimeSecs),
    ("welcome.sweep_secs", c.welcome.sweepSecs),
    ("actions.actions_per_second", c.actions.actionsPerSecond),
    ("actions.burst", c.actions.burst)]

/-- All problems of a configuration, given which files exist. -/
def problems (fileExists : String → Bool) (c : Config) : List ConfigProblem :=
  homeserverProblems c.homeserver ++
  (if c.bot.commandPrefix = "" then [.emptyPrefix] else []) ++
  c.rooms.keys.filterMap (fun room =>
    if (RoomId.parse room.text).isOk then none else some (.invalidRoom room.text)) ++
  c.admins.toList.filterMap (fun admin =>
    if (MemberId.parse admin.text).isOk then none else some (.invalidAdmin admin.text)) ++
  c.positiveNumbers.filterMap (fun (name, n) => if n = 0 then some (.zero name) else none) ++
  c.bot.helpFile.toList.filterMap fun path =>
    if fileExists path then none else some (.helpFileNotFound path)

end Config

end RoomModeration
