import RoomModeration.Bot.BanList
import RoomModeration.Bot.Help
import RoomModeration.Version

/-!
# Carrying out commands

Each command is carried out by a handler for commands of its kind. A handler refuses the commands
of other kinds. What a handler has to say goes to the room that the command came from.

## Main definitions

* `CommandOrigin` : where a command comes from.
* `Handler` : the handlers, with `Bot.handle` as what each does.
* `Bot.execute` : carrying out a command.
-/

namespace RoomModeration

/-- Where a command comes from. -/
structure CommandOrigin where
  /-- The room it was given in. -/
  room : RoomId
  /-- The admin who gave it. -/
  sender : MemberId
  deriving DecidableEq, Repr

/-- The handlers of commands. -/
inductive Handler where
  /-- Says which version is running. -/
  | version
  /-- Posts the help. -/
  | help
  /-- Bans. -/
  | ban
  /-- Lifts bans. -/
  | unban
  /-- Posts for an admin. -/
  | say
  /-- Changes the list of admins. -/
  | admin
  /-- Changes the monitored rooms. -/
  | room
  /-- Changes the text variables. -/
  | vars
  /-- Changes the connection. -/
  | setting
  /-- Restarts the bot. -/
  | reboot
  deriving DecidableEq, Repr

/-- The handler of a command. -/
def Command.handler : Command → Handler
  | version => .version
  | help => .help
  | admin _ => .admin
  | ban .. => .ban
  | unban _ => .unban
  | room _ => .room
  | vars _ => .vars
  | say .. => .say
  | setting .. => .setting
  | reboot => .reboot

/-- The modes of a room, as they are told to an admin. -/
def RoomConfig.describeModes (r : RoomConfig) : String :=
  if r.modes.isEmpty then "none"
  else String.intercalate ", " (r.modes.toList.map RoomMode.name)

/-- What an admin is shown of a setting. A password is never shown. -/
def Setting.shown (setting : Setting) (value : String) : String :=
  if value = "" then "(unset)"
  else match setting with
    | .password => "********"
    | .login | .host => value

namespace Bot

open BotM

variable [Surroundings]

/-- An action as part of a command. -/
def acting {α : Type} (act : ActionM α) : HandlerM α := ExceptT.mk do
  return (← act.run).mapError .action

/-- A change of the configuration as part of a command. -/
def editing {α : Type} (edit : Config.Edit α) : HandlerM α := ExceptT.mk do
  return (← configure edit).mapError .config

/-- Refuses a command about a room that is not monitored. -/
def requireMonitored (room : RoomId) : HandlerM Unit := do
  if !(← getConfig).isMonitored room then throw (.roomNotMonitored room)

/-- Reads the modes and parameters of a record anew. -/
def refresh (room : RoomId) : BotM Unit :=
  change (·.refreshModes room)

/-- Posts a reply. -/
def reply (origin : CommandOrigin) (text : String) : HandlerM Unit :=
  acting (post origin.room text)

/-- Posts a reply in Markdown. -/
def replyMarkdown (origin : CommandOrigin) (text : String) : HandlerM Unit :=
  acting (postMarkdown origin.room text)

/-! ### Questions -/

/-- The text of the help: that of the operator, if it can be read. -/
def helpText : BotM String := do
  let config := (← getConfig).bot
  match config.helpFile with
  | none => return Help.builtin config.commandPrefix
  | some path =>
    match Surroundings.fileText path with
    | .ok text => return text
    | .error cause => do
      note (.helpFileFailed path cause)
      return Help.builtin config.commandPrefix

/-! ### Moderation -/

/-- Tells in which rooms something was done, one reply a room. -/
def report (origin : CommandOrigin) (verb : String) (member : MemberId) (names : RoomMap String) :
    List RoomId → HandlerM Unit
  | [] => return ()
  | room :: rest => do
    reply origin s!"{verb} {member.text} in {names[room]?.getD room.text}"
    report origin verb member names rest

/-- Bans a member in the room of the command, where that is possible and new, and in all targets. -/
def handleBan (origin : CommandOrigin) (member : MemberId) (reason : String) : HandlerM Unit := do
  let rooms := (← getBot).rooms
  let here := rooms.canBan origin.room && !rooms.isBanned origin.room member
  if here then acting (banMember origin.room member reason)
  let others ← propagateBan origin.room member reason
  let banned := (if here then [origin.room] else []) ++ others
  note (.banCommanded member origin.sender banned.length)
  if banned.isEmpty then reply origin s!"{member.text} was not banned anywhere new"
  else report origin "Banned" member (← displayNames banned) banned

/-- Lifts the bans of a member in the room of the command and in all targets. -/
def handleUnban (origin : CommandOrigin) (member : MemberId) : HandlerM Unit := do
  let rooms := (← getBot).rooms
  let here := rooms.canBan origin.room && rooms.isBanned origin.room member
  if here then acting (unbanMember origin.room member)
  let others ← propagateUnban origin.room member
  let unbanned := (if here then [origin.room] else []) ++ others
  note (.unbanCommanded member origin.sender unbanned.length)
  if unbanned.isEmpty then reply origin s!"{member.text} was not banned in any room I moderate"
  else report origin "Unbanned" member (← displayNames unbanned) unbanned

/-! ### Configuration -/

/-- Changes the list of admins, or names them. -/
def handleAdmin (origin : CommandOrigin) : AdminAction → HandlerM Unit
  | .grant member => do
    if ← editing (Config.grantAdmin member) then do
      note (.adminGranted member origin.sender)
      reply origin s!"{member.text} is now an admin"
    else reply origin s!"{member.text} is already an admin"
  | .revoke member => do
    if ← editing (Config.revokeAdmin member) then do
      note (.adminRevoked member origin.sender)
      reply origin s!"{member.text} is no longer an admin"
    else reply origin s!"{member.text} is not an admin"
  | .list => do
    let admins := (← getConfig).admins.toList.map MemberId.text
    if admins.isEmpty then reply origin "No admins configured"
    else reply origin ("Admins: " ++ String.intercalate ", " admins)

/-- The line about a room in the list of monitored rooms. -/
def roomLine (config : Config) (names : RoomMap String) (room : RoomId) : String :=
  let r := config.roomConfig room
  let params := r.params.toList.map fun (mode, value) => s!" ({mode}={value})"
  s!"- **{names[room]?.getD room.text}** `{room.text}`: {r.describeModes}" ++ String.join params

/-- Changes the monitored rooms, their modes and parameters, or names them. -/
def handleRoom (origin : CommandOrigin) : RoomAction → HandlerM Unit
  | .add room => do
    if (← getConfig).isMonitored room then reply origin s!"{room.text} is already monitored"
    else
      let joined ← acting (joinRoom room)
      discard <| editing (Config.addRoom joined)
      refresh joined
      note (.roomAdded joined origin.sender)
      reply origin s!"Now monitoring {joined.text}"
  | .del room => do
    requireMonitored room
    discard <| editing (Config.removeRoom room)
    note (.roomRemoved room origin.sender)
    reply origin s!"Stopped monitoring {room.text}"
    if let .error e ← (leaveRoom room).run then note (.removedRoomNotLeft room e)
  | .list => do
    let rooms := (← getConfig).monitoredRooms
    if rooms.isEmpty then reply origin "No rooms monitored"
    else
      let names ← displayNames rooms
      let config ← getConfig
      replyMarkdown origin (String.intercalate "\n" (rooms.map (roomLine config names)))
  | .modeAdd room mode => do
    requireMonitored room
    let added ← editing (Config.addMode room mode)
    refresh room
    if added then do
      note (.modeEnabled room mode origin.sender)
      reply origin s!"{mode.name} enabled in {room.text}"
    else reply origin s!"{mode.name} was already enabled in {room.text}"
  | .modeDel room mode => do
    requireMonitored room
    let removed ← editing (Config.removeMode room mode)
    refresh room
    if removed then do
      note (.modeDisabled room mode origin.sender)
      reply origin s!"{mode.name} disabled in {room.text}"
    else reply origin s!"{mode.name} was not enabled in {room.text}"
  | .modeList room => do
    requireMonitored room
    let modes := ((← getConfig).roomConfig room).describeModes
    reply origin s!"Modes in {room.text}: {modes}"
  | .paramSet room mode value => do
    requireMonitored room
    editing (Config.setParam room mode value)
    refresh room
    note (.paramSet room mode origin.sender)
    reply origin s!"{mode.name} parameter for {room.text} set"

/-- Changes the text variables, or names or posts them. -/
def handleVars (origin : CommandOrigin) : VarsAction → HandlerM Unit
  | .set name payload => do
    editing (Config.setVar name payload)
    reply origin s!"Variable '{name}' set"
  | .get name => do
    match (← getConfig).var? name with
    | some payload => reply origin payload
    | none => throw (.noSuchVar name)
  | .del name => do
    match ← editing (Config.deleteVar name) with
    | some _ => reply origin s!"Variable '{name}' deleted"
    | none => throw (.noSuchVar name)
  | .list => do
    let names := (← getConfig).vars.keys
    if names.isEmpty then reply origin "No variables set"
    else reply origin ("Variables: " ++ String.intercalate ", " names)

/-- Changes or shows a setting of the connection. A change takes effect at the next start. -/
def handleSetting (origin : CommandOrigin) (setting : Setting) : SettingAction → HandlerM Unit
  | .get => do
    let value := (← getConfig).setting setting
    reply origin s!"{setting.name}: {setting.shown value}"
  | .set value => do
    editing (Config.setSetting setting value)
    note (.settingChanged setting origin.sender)
    reply origin s!"{setting.name} updated, takes effect after reboot"

/-! ### The operator -/

/-- Promises a restart and asks for the end after a while; whatever supervises the program starts
it again. -/
def handleReboot (origin : CommandOrigin) : HandlerM Unit := do
  let delay := (← getConfig).bot.rebootDelaySecs
  note (.rebootCommanded origin.sender delay)
  reply origin s!"Rebooting in {delay} seconds"
  spawn (.awaitReboot delay)

/-! ### All handlers -/

/-- What a handler does with a command. -/
def handle (handler : Handler) (origin : CommandOrigin) (command : Command) : HandlerM Unit :=
  match handler, command with
  | .version, .version => reply origin s!"v{version}"
  | .help, .help => do replyMarkdown origin (← helpText)
  | .ban, .ban member reason => handleBan origin member reason
  | .unban, .unban member => handleUnban origin member
  | .say, .say room text => do
    note (.postingForAdmin room origin.sender)
    acting (post room text)
  | .admin, .admin action => handleAdmin origin action
  | .room, .room action => handleRoom origin action
  | .vars, .vars action => handleVars origin action
  | .setting, .setting setting action => handleSetting origin setting action
  | .reboot, .reboot => handleReboot origin
  | _, command => throw (.unknownCommand command.name)

/-- Carries out a command, and counts it whether it fails or not. -/
def execute (origin : CommandOrigin) (command : Command) : HandlerM Unit := ExceptT.mk do
  let result ← (handle command.handler origin command).run
  count (.commands command.name)
  return result

end Bot

end RoomModeration
