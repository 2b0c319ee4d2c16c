import RoomModeration.Command.Basic
import RoomModeration.Command.Word

/-!
# The grammar of commands

Every command starts with its word and goes on as that word demands. Command words, the words that
choose among alternatives and mode names are read in any case of their letters. Once a command is
complete, only blanks may follow it.

## Main definitions

* `Command.parse` : the command that a text stands for, or why it stands for none.
-/

namespace RoomModeration.Command

open CommandReader

/-- What follows `admin`. -/
def readAdmin : CommandReader AdminAction :=
  choose "admin" "one of grant, revoke, list" [
    ("grant", .grant <$> memberId "admin grant"),
    ("revoke", .revoke <$> memberId "admin revoke"),
    ("list", pure .list)]

/-- What follows `room <id> mode`. -/
def readRoomMode (room : RoomId) : CommandReader RoomAction :=
  choose "room <id> mode" "one of add, del, list" [
    ("add", .modeAdd room <$> modeName "room <id> mode add"),
    ("del", .modeDel room <$> modeName "room <id> mode del"),
    ("list", pure (.modeList room))]

/-- What follows `room <id> params`. -/
def readRoomParams (room : RoomId) : CommandReader RoomAction := do
  let mode ← modeName "room <id> params"
  choose "room <id> params <mode>" "set" [
    ("set", .paramSet room mode <$> freeText "room <id> params <mode> set" "a value")]

/-- What may follow `room`, besides the identifier of a room. -/
def roomAlternatives : List (String × CommandReader RoomAction) := [
  ("add", .add <$> roomId "room add"),
  ("del", .del <$> roomId "room del"),
  ("list", pure .list)]

/-- What the words after `room` may be. -/
def roomExpected : String := "one of add, del, list or a room id"

/-- What follows `room`. -/
def readRoom : CommandReader RoomAction := do
  let argument ← word "room" roomExpected
  match alternative? roomAlternatives argument.text with
  | some next => next
  | none =>
    if argument.text.toList.head?.any IdKind.room.sigils.contains then do
      let room ← asRoom argument
      choose "room <id>" "one of mode, params" [
        ("mode", readRoomMode room),
        ("params", readRoomParams room)]
    else throw (.invalidSubcommand "room" argument.text roomExpected)

/-- What follows `vars`. -/
def readVars : CommandReader VarsAction :=
  choose "vars" "one of set, get, del, list" [
    ("set", do
      let name ← word "vars set" "a variable name"
      .set name.text <$> freeText "vars set <name>" "a payload"),
    ("get", (.get ·.text) <$> word "vars get" "a variable name"),
    ("del", (.del ·.text) <$> word "vars del" "a variable name"),
    ("list", pure .list)]

/-- What follows `say`. -/
def readSay : CommandReader Command :=
  choose "say" "room" [
    ("room", do
      let room ← roomId "say room"
      .say room <$> freeText "say room <id>" "message text")]

/-- What follows the word of a setting. -/
def readSetting (setting : Setting) : CommandReader Command :=
  .setting setting <$> choose setting.name "one of get, set" [
    ("get", pure .get),
    ("set", .set <$> freeText setting.name "a value")]

/-- What follows `ban`. -/
def readBan : CommandReader Command := do
  let member ← memberId "ban"
  let reason ← freeText?
  return .ban member (reason.elim "" Argument.text)

/-- The command words, each with what follows it. -/
def alternatives : List (String × CommandReader Command) := [
  ("version", pure .version),
  ("help", pure .help),
  ("reboot", pure .reboot),
  ("admin", .admin <$> readAdmin),
  ("ban", readBan),
  ("unban", .unban <$> memberId "unban"),
  ("room", .room <$> readRoom),
  ("vars", .vars <$> readVars),
  ("say", readSay),
  ("login", readSetting .login),
  ("host", readSetting .host),
  ("password", readSetting .password)]

/-- A whole command. -/
def reader : CommandReader Command := do
  match ← word? with
  | none => throw .empty
  | some argument =>
    match alternative? alternatives argument.text with
    | none => throw (.unknownCommand argument.text)
    | some next => do
      let command ← next
      finish
      return command

/-- The command that a text stands for, or why it stands for none. -/
def parse (text : String) : Except CommandError Command :=
  ((reader (Text.byteSize text.toList)).run text.toList).map Prod.fst

end RoomModeration.Command
