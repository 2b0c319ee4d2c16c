import RoomModeration.Bot.Schedule
import RoomModeration.Client.Login
import RoomModeration.Markdown.Html

/-!
# What is around the program

The program is started with a path and finds files, a network and a clock. It sees all of this only
through what is gathered here.

## Main definitions

* `Environment` : what is around the program.
* `Environment.surroundings` : what answers its bot.
-/

namespace RoomModeration

/-- What is around the program. -/
structure Environment (L : Type) where
  /-- The path of the configuration file. -/
  configPath : String
  /-- The bytes of a file, or why it cannot be read. -/
  bytes : String → Except String ByteArray
  /-- Whether there is a file or a directory under a path. -/
  isPath : String → Bool
  /-- Why each attempt to write the configuration file fails, if it does. -/
  writeFailure? : Nat → Option String
  /-- The filter of log lines that the operator has asked for at the start. -/
  filterText : Option String
  /-- Why the figures cannot be shown at a port, if they cannot. -/
  portFailure? : Nat → Option String
  /-- The link to the homeserver. -/
  link : Link L
  /-- The state of the link at the start. -/
  linkState : L
  /-- The time at which the bot is ready. -/
  clock : Timestamp
  /-- What is added to the pause after a failed poll, in milliseconds. -/
  jitterMs : Nat
  /-- How long after the login the operator ends the program, in milliseconds. -/
  signalMs : Nat

namespace Environment

variable {L : Type}

/-- The path of the configuration file if none is given. -/
def defaultPath : String := "roomwarden.toml"

/-- The text of a file, or why it cannot be read. -/
def fileText (env : Environment L) (path : String) : Except String String := do
  let bytes ← env.bytes path
  match String.fromUTF8? bytes with
  | some text => return text
  | none => throw ConfigFile.notText

/-- The configuration that is kept in the configuration file. -/
def openConfig (env : Environment L) : Except ConfigError ConfigStore :=
  match env.fileText env.configPath with
  | .error cause => .error (.io cause)
  | .ok text => ConfigStore.load env.configPath text env.writeFailure?

/-- What answers the bot. -/
@[reducible] def surroundings (env : Environment L) : Surroundings where
  Server := Client L
  homeserver := Client.homeserver env.link
  render := Markdown.toHtml
  fileText := env.fileText
  jitterMs := env.jitterMs

end Environment

end RoomModeration
