import RoomModeration.Config.Basic
import RoomModeration.Toml.Document

/-!
# Reading the configuration

The configuration is a TOML document. Every section but the connection may be missing, and so may
most entries of a section; each then has its default. Entries that are not known are passed over.

## Main definitions

* `Config.ofText?` : the configuration that a text spells.
-/

namespace RoomModeration

/-- Numbers of seconds and milliseconds; no document can hold a larger one. -/
def durationBound : Nat := 0x8000000000000000

namespace Config

/-- A member identifier. -/
def readMember? (v : Toml) : Option MemberId :=
  MemberId.mk <$> v.string?

/-- A set of members. -/
def readMembers? (v : Toml) : Option MemberSet := do
  return .ofList (← (← v.items?).mapM readMember?)

/-- The mode with this canonical name. -/
def modeOfCanonicalName? (name : String) : Option RoomMode :=
  RoomMode.all.find? (·.name == name)

/-- A set of modes. -/
def readModes? (v : Toml) : Option ModeSet := do
  return .ofList (← (← v.items?).mapM fun v => v.choice? >>= modeOfCanonicalName?)

/-- A map from names. -/
def readNameMap? {α : Type} (read : Toml → Option α) (v : Toml) : Option (NameMap α) := do
  return .ofList (← (← v.entries?).mapM fun (name, v) => do return (name, ← read v))

/-- A form of log lines. -/
def readLogFormat? (v : Toml) : Option LogFormat := do
  match ← v.choice? with
  | "pretty" => some .pretty
  | "json" => some .json
  | _ => none

/-- The connection to the homeserver. -/
def readHomeserver? (v : Toml) : Option HomeserverConfig := do
  match ← v.fields? ["url", "login", "password", "access_token", "device_id", "user_id"] with
  | [url, login, password, token, device, user] => do
    return {
      url := ← Fields.required? Toml.string? url
      login := ← Fields.orDefault? "" Toml.string? login
      password := ← Fields.orDefault? "" Toml.string? password
      accessToken := ← Fields.orDefault? none (some <$> Toml.string? ·) token
      device := ← Fields.orDefault? none (some <$> Toml.string? ·) device
      user := ← Fields.orDefault? none (some <$> readMember? ·) user }
  | _ => none

/-- How the bot behaves. -/
def readBot? (v : Toml) : Option BotConfig := do
  let d := BotConfig.default
  let secs := Toml.natural? durationBound
  match ← v.fields? ["prefix", "passive", "help_file", "sync_timeout_ms", "rejoin_delay_secs",
    "poll_retry_secs", "heartbeat_secs", "reboot_delay_secs", "metrics_port"] with
  | [commandPrefix, passive, help, timeout, rejoin, retry, heartbeat, reboot, port] => do
    return {
      commandPrefix := ← Fields.orDefault? d.commandPrefix Toml.string? commandPrefix
      passive := ← Fields.orDefault? d.passive Toml.boolean? passive
      helpFile := ← Fields.orDefault? d.helpFile (some <$> Toml.string? ·) help
      syncTimeoutMs := ← Fields.orDefault? d.syncTimeoutMs secs timeout
      rejoinDelaySecs := ← Fields.orDefault? d.rejoinDelaySecs secs rejoin
      pollRetrySecs := ← Fields.orDefault? d.pollRetrySecs secs retry
      heartbeatSecs := ← Fields.orDefault? d.heartbeatSecs secs heartbeat
      rebootDelaySecs := ← Fields.orDefault? d.rebootDelaySecs secs reboot
      metricsPort := ← Fields.orDefault? d.metricsPort (Toml.natural? 0x10000) port }
  | _ => none

/-- How calls to the homeserver are made. -/
def readActions? (v : Toml) : Option ActionsConfig := do
  let d := ActionsConfig.default
  match ← v.fields? ["dry_run", "actions_per_second", "burst"] with
  | [dryRun, rate, burst] => do
    return {
      dryRun := ← Fields.orDefault? d.dryRun Toml.boolean? dryRun
      actionsPerSecond := ← Fields.orDefault? d.actionsPerSecond (Toml.natural? 0x100000000) rate
      burst := ← Fields.orDefault? d.burst (Toml.natural? 0x100000000) burst }
  | _ => none

/-- The welcome rooms. -/
def readWelcome? (v : Toml) : Option WelcomeConfig := do
  let d := WelcomeConfig.default
  let secs := Toml.natural? durationBound
  match ← v.fields? ["lifetime_secs", "sweep_secs", "room_name", "room_topic"] with
  | [lifetime, sweep, name, topic] => do
    return {
      lifetimeSecs := ← Fields.orDefault? d.lifetimeSecs secs lifetime
      sweepSecs := ← Fields.orDefault? d.sweepSecs secs sweep
      roomName := ← Fields.orDefault? d.roomName Toml.string? name
      roomTopic := ← Fields.orDefault? d.roomTopic (some <$> Toml.string? ·) topic }
  | _ => none

/-- What is logged. -/
def readLogging? (v : Toml) : Option LoggingConfig := do
  let d := LoggingConfig.default
  match ← v.fields? ["level", "format"] with
  | [level, format] => do
    return {
      level := ← Fields.orDefault? d.level Toml.string? level
      format := ← Fields.orDefault? d.format readLogFormat? format }
  | _ => none

/-- What is decided about one room. -/
def readRoom? (v : Toml) : Option RoomConfig := do
  match ← v.fields? ["modes", "params"] with
  | [modes, params] => do
    return {
      modes := ← Fields.orDefault? ∅ readModes? modes
      params := ← Fields.orDefault? ∅ (readNameMap? Toml.string?) params }
  | _ => none

/-- The monitored rooms. -/
def readRooms? (v : Toml) : Option (RoomMap RoomConfig) := do
  return .ofList (← (← v.entries?).mapM fun (name, v) => do return (RoomId.mk name, ← readRoom? v))

/-- The configuration that a document holds. -/
def ofToml? (v : Toml) : Option Config := do
  match ← v.fields? ["admins", "homeserver", "bot", "actions", "welcome", "logging", "vars",
    "rooms"] with
  | [admins, homeserver, bot, actions, welcome, logging, vars, rooms] => do
    return {
      admins := ← Fields.orDefault? ∅ readMembers? admins
      homeserver := ← Fields.required? readHomeserver? homeserver
      bot := ← Fields.orDefault? .default readBot? bot
      actions := ← Fields.orDefault? .default readActions? actions
      welcome := ← Fields.orDefault? .default readWelcome? welcome
      logging := ← Fields.orDefault? .default readLogging? logging
      vars := ← Fields.orDefault? ∅ (readNameMap? Toml.string?) vars
      rooms := ← Fields.orDefault? ∅ readRooms? rooms }
  | _ => none

/-- The configuration that a text spells. -/
def ofText? (text : String) : Option Config :=
  Toml.ofText? text >>= ofToml?

end Config

end RoomModeration
