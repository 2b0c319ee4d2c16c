import RoomModeration.Bot.Effect

/-!
# Operations on rooms

Each operation calls the homeserver and then records what has happened. When a call fails the
records stay as they were, so that they never show what did not happen.

## Main definitions

* `Bot.joinRoom`, `Bot.leaveRoom` : entering and leaving.
* `Bot.banMember`, `Bot.unbanMember` : moderation.
* `Bot.post`, `Bot.postMarkdown` : messages.
* `Bot.displayNames` : the names of rooms.
-/

namespace RoomModeration.Bot

open BotM

variable [Surroundings]

/-- Begins the record of a room just joined, with the modes and parameters of a configuration. -/
def beginRecord (room : RoomId) (members : List MemberId) (banned : MemberMap String)
    (config : RoomConfig) : BotM Unit := do
  let fresh := RoomRecord.seeded room members banned config.modes config.typedParams
  note (.recordSeeded room fresh.members.size fresh.banned.size)
  change (·.seed room members banned config)

/-- Ends the record of a room, if it has one. -/
def endRecord (room : RoomId) : BotM Unit := do
  if (← getBot).rooms.isTracked room then note (.recordDropped room)
  change (·.dropRoom room)

/-- Enters a room and begins its record; gives the room that was entered, which is another one if
the room was an alias. The record has what is configured for the room under the name that was asked
for. -/
def joinRoom (room : RoomId) : ActionM RoomId := ExceptT.mk <| during (.roomBootstrap room) do
  ExceptT.run do
    let joined ← attempt "join" (.join room room.server?.toList)
    if joined ≠ room then note (.aliasResolved room joined)
    let members ← attempt "list_members" (.listMembers joined)
    let banned ← attempt "banned_members" (.bannedMembers joined)
    beginRecord joined members.keys banned ((← getConfig).roomConfig room)
    note (.roomJoined joined)
    return joined

/-- Leaves a room and ends its record. -/
def leaveRoom (room : RoomId) : ActionM Unit := do
  attempt "leave" (.leave room)
  endRecord room
  note (.roomLeft room)

/-- Bans a member from a room. In a dry run the ban is only recorded. -/
def banMember (room : RoomId) (member : MemberId) (reason : String) : ActionM Unit := do
  if (← getConfig).actions.dryRun then note (.wouldBan room member reason)
  else
    attempt "ban" (.ban room member reason)
    note (.memberBanned room member reason)
  change fun b => { b with rooms := (b.rooms.applyBan room member reason).2 }

/-- Lifts a ban. In a dry run that is only recorded. -/
def unbanMember (room : RoomId) (member : MemberId) : ActionM Unit := do
  if (← getConfig).actions.dryRun then note (.wouldUnban room member)
  else
    attempt "unban" (.unban room member)
    note (.memberUnbanned room member)
  change fun b => { b with rooms := (b.rooms.applyUnban room member).2 }

/-- Posts a message. -/
def send (room : RoomId) (message : Message) : ActionM Unit := ExceptT.mk do
  let result ← (attempt "send" (.send room message)).run
  if let .error e := result then note (.postFailed room e)
  return result

/-- Posts plain text. -/
def post (room : RoomId) (text : String) : ActionM Unit :=
  send room (.plain text)

/-- Posts a Markdown text together with its HTML form. -/
def postMarkdown (room : RoomId) (text : String) : ActionM Unit :=
  send room (.formatted text (Surroundings.render text))

/-- The name of a room; its identifier, if the name cannot be found out. -/
def displayName (room : RoomId) : BotM String := do
  match ← (attempt "room_name" (.displayName room)).run with
  | .ok name => return name
  | .error _ => return room.text

/-- The names of rooms, which are asked for one after the other. -/
def displayNames : List RoomId → BotM (RoomMap String)
  | [] => return ∅
  | room :: rest => do
    let name ← displayName room
    return (← displayNames rest).insertIfNew room name

end RoomModeration.Bot
