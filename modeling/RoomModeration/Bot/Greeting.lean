import RoomModeration.Bot.Rooms
import RoomModeration.Welcome.Greeting

/-!
# Opening and closing welcome rooms

A welcome room is closed when its member leaves it, when it has reached its age, or when the bot is
removed from it. Whoever takes its entry out of the registry is the one to close it.

## Main definitions

* `Bot.createWelcome` : opening a welcome room and greeting.
* `Bot.evict` : closing a welcome room.
* `Bot.sweep` : closing those that have reached their age.
-/

namespace RoomModeration

/-- The template of the greeting for a room, if it has one: the text stored under the name that the
parameter of the mode gives, or else the parameter itself. -/
def Config.welcomeTemplate? (c : Config) (source : RoomId) : Option String :=
  match c.param? source .welcome with
  | none => none
  | some "" => none
  | some param => some ((c.var? param).getD param)

/-- The request for a welcome room. -/
def WelcomeConfig.creation (w : WelcomeConfig) (member : MemberId) : RoomCreation :=
  { RoomCreation.direct member with
    name := some w.roomName
    topic := w.roomTopic
    localAlias := some freshName }

namespace Bot

open BotM

variable [Surroundings]

/-- Posts the greeting in a welcome room, if the room that was joined has one. A greeting that fails
still leaves a welcome room. -/
def greet (room source : RoomId) (member : MemberId) : BotM Unit := do
  match (← getConfig).welcomeTemplate? source with
  | none => return ()
  | some template => do
    let name ← displayName source
    discard (postMarkdown room (renderGreeting template member name)).run

/-- Opens a welcome room, registers it and posts the greeting. -/
def createWelcome (source : RoomId) (member : MemberId) : ActionM RoomId := do
  let room ← attempt "create" (.create ((← getConfig).welcome.creation member))
  let now := (← get).now
  change (·.register ⟨room, member, source, now⟩)
  note (.welcomeCreated room member source)
  greet room source member
  return room

/-- Opens a welcome room for a newcomer; a failure ends there. -/
def welcomeNewcomer (source : RoomId) (member : MemberId) : BotM Unit := do
  if let .error e ← (createWelcome source member).run then
    note (.welcomeNotCreated source member e)

/-- Closes a welcome room; says whether it was open. -/
def evict (room : RoomId) (why : Eviction) : BotM Bool := do
  match (← getBot).unregister room with
  | (none, _) => return false
  | (some entry, bot) => do
    change fun _ => bot
    count (.welcomeEvictions why.word)
    note (.welcomeClosing room entry.member why)
    if let .error e ← (attempt "leave" (.leave room)).run then note (.welcomeNotLeft room e)
    return true

/-- Closes welcome rooms; says how many were open. -/
def evictAll : List WelcomeRoom → BotM Nat
  | [] => return 0
  | entry :: rest => do
    let open? ← evict entry.id .timeout
    return (← evictAll rest) + if open? then 1 else 0

/-- Closes all welcome rooms that have reached their age at a moment; says how many. -/
def sweep (now : Nat) : BotM Nat := do
  let bot ← getBot
  let evicted ← evictAll (bot.welcome.expired now (bot.config.welcome.lifetimeSecs * 1000))
  if evicted > 0 then note (.welcomeSwept evicted (← getBot).welcome.size)
  return evicted

end Bot

end RoomModeration
