import RoomModeration.Id
import RoomModeration.Mode

/-!
# Commands

What an admin can ask of the bot in a room. The text form of these commands is read in
`RoomModeration.Command.Word` and `RoomModeration.Command.Grammar`; here is only what they mean.

## Main definitions

* `Command` : a complete command.
* `Command.name` : the word a command starts with, under which it is counted and logged.
-/

namespace RoomModeration

/-- A change to the list of admins, or a question about it. -/
inductive AdminAction where
  /-- Make the member an admin. -/
  | grant (member : MemberId)
  /-- Take the member off the list. -/
  | revoke (member : MemberId)
  /-- Name all admins. -/
  | list
  deriving DecidableEq, Repr

/-- A change to the monitored rooms, or a question about them. -/
inductive RoomAction where
  /-- Start monitoring a room. -/
  | add (room : RoomId)
  /-- Stop monitoring a room. -/
  | del (room : RoomId)
  /-- Name all monitored rooms. -/
  | list
  /-- Switch a mode on. -/
  | modeAdd (room : RoomId) (mode : RoomMode)
  /-- Switch a mode off. -/
  | modeDel (room : RoomId) (mode : RoomMode)
  /-- Name the modes of a room. -/
  | modeList (room : RoomId)
  /-- Give a mode its parameter. -/
  | paramSet (room : RoomId) (mode : RoomMode) (value : String)
  deriving DecidableEq, Repr

/-- A change to the text variables, or a question about them. -/
inductive VarsAction where
  /-- Store a text under a name. -/
  | set (name payload : String)
  /-- Post the text stored under a name. -/
  | get (name : String)
  /-- Forget a name. -/
  | del (name : String)
  /-- Name all variables. -/
  | list
  deriving DecidableEq, Repr

/-- A setting of the connection to the homeserver. -/
inductive Setting where
  /-- The login name. -/
  | login
  /-- The URL of the homeserver. -/
  | host
  /-- The password of the account. -/
  | password
  deriving DecidableEq, Repr

/-- The command word of a setting. -/
def Setting.name : Setting → String
  | .login => "login"
  | .host => "host"
  | .password => "password"

/-- Reading or changing a setting. -/
inductive SettingAction where
  /-- Reply with the value. -/
  | get
  /-- Replace the value. -/
  | set (value : String)
  deriving DecidableEq, Repr

/-- A complete command. -/
inductive Command where
  /-- Which version is running. -/
  | version
  /-- What can be asked. -/
  | help
  /-- About the admins. -/
  | admin (action : AdminAction)
  /-- Ban a member everywhere; the reason may be empty. -/
  | ban (member : MemberId) (reason : String)
  /-- Lift a member's bans everywhere. -/
  | unban (member : MemberId)
  /-- About the monitored rooms. -/
  | room (action : RoomAction)
  /-- About the text variables. -/
  | vars (action : VarsAction)
  /-- Post a text in some room. -/
  | say (room : RoomId) (text : String)
  /-- About the connection. -/
  | setting (setting : Setting) (action : SettingAction)
  /-- Restart the bot. -/
  | reboot
  deriving DecidableEq, Repr

/-- The word a command starts with. -/
def Command.name : Command → String
  | version => "version"
  | help => "help"
  | admin _ => "admin"
  | ban .. => "ban"
  | unban _ => "unban"
  | room _ => "room"
  | vars _ => "vars"
  | say .. => "say"
  | setting s _ => s.name
  | reboot => "reboot"

/-- All command words, as they are listed to a user. -/
def Command.words : String :=
  "version, help, admin, ban, unban, room, vars, say, login, host, password, reboot"

/-- The room a room action is about, if it is about one. -/
def RoomAction.room? : RoomAction → Option RoomId
  | add room | del room | modeAdd room _ | modeDel room _ | modeList room | paramSet room _ _ =>
    some room
  | list => none

end RoomModeration
