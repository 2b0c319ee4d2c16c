import RoomModeration.Bot.Answering
import RoomModeration.Command.Grammar

/-!
# Chat messages

A chat message is a command if it starts with the prefix. Only an admin can give commands, and only
in a room with the mode `ADMINISTRATION`; all other messages pass in silence. What an admin gives
that is no command is answered with the reason.

## Main definitions

* `ChatOutcome` : what became of a message.
* `Bot.receiveChat` : what a message leads to.
-/

namespace RoomModeration

/-- What became of a chat message. -/
inductive ChatOutcome where
  /-- It does not start with the prefix. -/
  | notCommand
  /-- The bot itself wrote it. -/
  | fromSelf
  /-- Its sender may not give commands in this room. -/
  | unauthorized
  /-- It is no command. -/
  | rejected
  /-- The command was carried out. -/
  | executed
  /-- The command failed. -/
  | failed
  deriving DecidableEq, Repr

/-- What a message says after a prefix, if it starts with it. -/
def afterPrefix? (commandPrefix body : String) : Option String :=
  if commandPrefix.toList.isPrefixOf body.toList then
    some (String.ofList (body.toList.drop commandPrefix.toList.length))
  else none

/-- Whether a member may give commands in a room. -/
def Config.mayCommand (c : Config) (room : RoomId) (sender : MemberId) : Bool :=
  c.isModeEnabled room .administration && c.isAdmin sender

namespace Bot

open BotM

variable [Surroundings]

/-- Carries out a command that came as a chat message. A failure is counted, and told to the sender
if it concerns them. -/
def obey (origin : CommandOrigin) (command : Command) : BotM ChatOutcome := do
  let activity := Activity.command command.name origin.sender origin.room
  match ← during activity (execute origin command).run with
  | .ok () => return .executed
  | .error e => do
    count (.commandErrors command.name e.code)
    note (.commandFailed command.name origin.room e)
    if let some text := e.reply? then discard (post origin.room text).run
    return .failed

/-- What a chat message leads to. -/
def receiveChat (room : RoomId) (sender : MemberId) (body : String) : BotM ChatOutcome := do
  let bot ← getBot
  match afterPrefix? bot.config.bot.commandPrefix body with
  | none => return .notCommand
  | some line =>
    if sender = bot.selfId then return .fromSelf
    else if !bot.config.mayCommand room sender then do
      note (.unauthorizedCommand room sender)
      return .unauthorized
    else
      match Command.parse line with
      | .error e => do
        note (.commandRejected room sender e)
        discard (post room e.message).run
        return .rejected
      | .ok command => obey ⟨room, sender⟩ command

end Bot

end RoomModeration
