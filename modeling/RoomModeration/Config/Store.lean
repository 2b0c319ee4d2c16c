import RoomModeration.Config.Reading
import RoomModeration.Config.Writing
import RoomModeration.Homeserver.Failure
import RoomModeration.Homeserver.Reply

/-!
# Keeping the configuration

The configuration changes while the bot runs. A change is tried on a copy; if the configuration is
kept in a file, the copy is written there first, and only then does it become the configuration. So
the file is never behind, and a change that fails has changed nothing.

## Main definitions

* `Config.Edit` : changes that may fail and have a result.
* `ConfigStore` : a configuration and where it is kept.
* `ConfigStore.update` : making a change.
-/

namespace RoomModeration

/-- A change of the configuration, which may fail and has a result. -/
abbrev Config.Edit (α : Type) := Config → Except ConfigError (α × Config)

namespace Config

/-- Makes a member an admin; says whether the member was none before. -/
def grantAdmin (member : MemberId) : Edit Bool := fun c =>
  .ok (!c.admins.contains member, { c with admins := c.admins.insert member })

/-- Takes a member off the list of admins; says whether the member was on it. -/
def revokeAdmin (member : MemberId) : Edit Bool := fun c =>
  .ok (c.admins.contains member, { c with admins := c.admins.erase member })

/-- Starts monitoring a room; says whether it was not monitored before. -/
def addRoom (room : RoomId) : Edit Bool := fun c =>
  if c.rooms.contains room then .ok (false, c)
  else .ok (true, { c with rooms := c.rooms.insert room .default })

/-- Stops monitoring a room; says whether it was monitored. -/
def removeRoom (room : RoomId) : Edit Bool := fun c =>
  .ok (c.rooms.contains room, { c with rooms := c.rooms.erase room })

/-- Changes what is decided about a monitored room. -/
def editRoom {α : Type} (room : RoomId) (f : RoomConfig → α × RoomConfig) : Edit α := fun c =>
  match c.rooms[room]? with
  | none => .error (.unknownRoom room)
  | some r => .ok ((f r).1, { c with rooms := c.rooms.insert room (f r).2 })

/-- Switches a mode on; says whether it was off. -/
def addMode (room : RoomId) (mode : RoomMode) : Edit Bool :=
  editRoom room fun r => (!r.modes.contains mode, { r with modes := r.modes.insert mode })

/-- Switches a mode off; says whether it was on. -/
def removeMode (room : RoomId) (mode : RoomMode) : Edit Bool :=
  editRoom room fun r => (r.modes.contains mode, { r with modes := r.modes.erase mode })

/-- The parameters with one for a mode, in place of all that are kept under its name in any
case. -/
def withParam (params : NameMap String) (mode : RoomMode) (value : String) : NameMap String :=
  (params.filter fun key _ => !Text.sameWord key mode.name).insert mode.name value

/-- Gives a mode its parameter. -/
def setParam (room : RoomId) (mode : RoomMode) (value : String) : Edit Unit :=
  editRoom room fun r => ((), { r with params := withParam r.params mode value })

/-- Stores a text under a name. -/
def setVar (name payload : String) : Edit Unit := fun c =>
  .ok ((), { c with vars := c.vars.insert name payload })

/-- Forgets a name; gives the text that was stored under it. -/
def deleteVar (name : String) : Edit (Option String) := fun c =>
  .ok (c.vars[name]?, { c with vars := c.vars.erase name })

/-- The connection with a setting changed. -/
def withSetting (h : HomeserverConfig) (setting : Setting) (value : String) : HomeserverConfig :=
  match setting with
  | .login => { h with login := value }
  | .host => { h with url := value }
  | .password => { h with password := value }

/-- Changes a connection setting and forgets the session, so that the next start logs in anew. -/
def setSetting (setting : Setting) (value : String) : Edit Unit := fun c =>
  .ok ((), { c with homeserver := (withSetting c.homeserver setting value).clearSession })

/-- Remembers a session. -/
def storeSession (session : Session) : Edit Unit := fun c =>
  .ok ((), { c with homeserver := { c.homeserver with
    accessToken := some session.accessToken
    device := session.device
    user := some session.user } })

end Config

/-- A file that the configuration is kept in. Writing to it may fail. -/
structure ConfigFile where
  /-- The path of the file. -/
  path : String
  /-- What is in it. -/
  text : String
  /-- How often it has been tried to write to it. -/
  attempts : Nat
  /-- Why each attempt to write fails, if it does. -/
  failure? : Nat → Option String

/-- A configuration and, if it is kept anywhere, where. -/
structure ConfigStore where
  /-- The configuration. -/
  config : Config
  /-- The file that it is kept in. -/
  file : Option ConfigFile

namespace ConfigFile

/-- Why a file that does not exist can be neither read nor written. -/
def notFound : String := "No such file or directory (os error 2)"

/-- Why bytes that are no UTF-8 cannot be read. -/
def notText : String := "stream did not contain valid UTF-8"

/-- Writes a text; a failed attempt leaves what is in the file. -/
def write (f : ConfigFile) (text : String) : Except ConfigError Unit × ConfigFile :=
  match f.failure? f.attempts with
  | some cause => (.error (.io cause), { f with attempts := f.attempts + 1 })
  | none => (.ok (), { f with text := text, attempts := f.attempts + 1 })

end ConfigFile

namespace ConfigStore

/-- A configuration that is kept nowhere. -/
def inMemory (config : Config) : ConfigStore := ⟨config, none⟩

/-- Makes a change. -/
def update {α : Type} (edit : Config.Edit α) (s : ConfigStore) :
    Except ConfigError α × ConfigStore :=
  match edit s.config with
  | .error e => (.error e, s)
  | .ok (a, config) =>
    match s.file with
    | none => (.ok a, { s with config := config })
    | some file =>
      match file.write config.toText with
      | (.error e, file) => (.error e, { s with file := some file })
      | (.ok (), file) => (.ok a, ⟨config, some file⟩)

/-- Reads a configuration out of a file, in which it is kept from then on. -/
def load (path text : String) (failure? : Nat → Option String) : Except ConfigError ConfigStore :=
  match Config.ofText? text with
  | none => .error .parse
  | some config => .ok ⟨config, some ⟨path, text, 0, failure?⟩⟩

/-- Reads a configuration out of a file of bytes. -/
def loadBytes (path : String) (bytes : ByteArray) (failure? : Nat → Option String) :
    Except ConfigError ConfigStore :=
  match String.fromUTF8? bytes with
  | none => .error (.io ConfigFile.notText)
  | some text => load path text failure?

end ConfigStore

end RoomModeration
