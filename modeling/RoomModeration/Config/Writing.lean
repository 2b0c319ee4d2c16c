import RoomModeration.Config.Basic
import RoomModeration.Toml.Section

/-!
# Writing the configuration

The text that the configuration is kept in. Every section is written in full, defaults included;
only values that are absent are left out.

## Main definitions

* `Config.sections` : the configuration as tables.
* `Config.toText` : the text of a configuration.
-/

namespace RoomModeration

namespace Config

open Toml (Section Written)

/-- An entry that is left out when it has no value. -/
def optionalEntry (key : String) (value : Option String) : List (String × Written) :=
  (value.map fun s => (key, Written.text s)).toList

/-- The entries of the connection. -/
def homeserverEntries (h : HomeserverConfig) : List (String × Written) :=
  [("url", .text h.url), ("login", .text h.login), ("password", .text h.password)] ++
    optionalEntry "access_token" h.accessToken ++ optionalEntry "device_id" h.device ++
    optionalEntry "user_id" (h.user.map MemberId.text)

/-- The entries of the behaviour. -/
def botEntries (b : BotConfig) : List (String × Written) :=
  [("prefix", .text b.commandPrefix), ("passive", .boolean b.passive)] ++
    optionalEntry "help_file" b.helpFile ++
    [("sync_timeout_ms", .natural b.syncTimeoutMs),
      ("rejoin_delay_secs", .natural b.rejoinDelaySecs),
      ("poll_retry_secs", .natural b.pollRetrySecs),
      ("heartbeat_secs", .natural b.heartbeatSecs),
      ("reboot_delay_secs", .natural b.rebootDelaySecs),
      ("metrics_port", .natural b.metricsPort)]

/-- The entries of the calls. -/
def actionsEntries (a : ActionsConfig) : List (String × Written) :=
  [("dry_run", .boolean a.dryRun), ("actions_per_second", .natural a.actionsPerSecond),
    ("burst", .natural a.burst)]

/-- The entries of the welcome rooms. -/
def welcomeEntries (w : WelcomeConfig) : List (String × Written) :=
  [("lifetime_secs", .natural w.lifetimeSecs), ("sweep_secs", .natural w.sweepSecs),
    ("room_name", .text w.roomName)] ++ optionalEntry "room_topic" w.roomTopic

/-- The entries of the log. -/
def loggingEntries (l : LoggingConfig) : List (String × Written) :=
  [("level", .text l.level), ("format", .text l.format.word)]

/-- The entries of a map from names. -/
def nameEntries (m : NameMap String) : List (String × Written) :=
  m.toList.map fun (name, value) => (name, .text value)

/-- The tables of one room. -/
def roomSections (room : RoomId) (r : RoomConfig) : List Section :=
  [⟨["rooms", room.text], [("modes", .texts (r.modes.toList.map RoomMode.name))]⟩,
    ⟨["rooms", room.text, "params"], nameEntries r.params⟩]

/-- The configuration as tables. -/
def sections (c : Config) : List Section :=
  [⟨[], [("admins", .texts (c.admins.toList.map MemberId.text))]⟩,
    ⟨["homeserver"], homeserverEntries c.homeserver⟩,
    ⟨["bot"], botEntries c.bot⟩,
    ⟨["actions"], actionsEntries c.actions⟩,
    ⟨["welcome"], welcomeEntries c.welcome⟩,
    ⟨["logging"], loggingEntries c.logging⟩,
    ⟨["vars"], nameEntries c.vars⟩] ++
    if c.rooms.isEmpty then [⟨["rooms"], []⟩]
    else c.rooms.toList.flatMap fun (room, r) => roomSections room r

/-- The text of a configuration. -/
def toText (c : Config) : String :=
  Toml.writeSections c.sections

end Config

end RoomModeration
