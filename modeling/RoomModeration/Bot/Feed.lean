import RoomModeration.Bot.Chat
import RoomModeration.Bot.Greeting
import RoomModeration.Bot.Membership

/-!
# Applying the feed

A batch is applied room by room, and in a room event by event, each read against the records as the
events before it have left them. What must not hold up the feed is put off.

## Main definitions

* `Bot.applyEvent` : what one event leads to.
* `Bot.applyRoom` : what the events of one room lead to.
* `Bot.applyBatch` : what a batch leads to.
-/

namespace RoomModeration

/-- Whether an event says that someone other than the bot has left or was banned, after the bot
became ready. -/
def Event.isDeparture (e : Event) (selfId : MemberId) (readyTs : Timestamp) : Bool :=
  readyTs < e.timestamp && e.subject != selfId &&
    match e.memberContent with
    | .content content => content.membership == .leave || content.membership == .ban
    | _ => false

namespace Bot

open BotM

variable [Surroundings]

/-- What a change of membership that the feed tells of leads to. A passive bot ignores it, and so
does one that has no record of the room. -/
def observeTransition (room : RoomId) (transition : Transition) : BotM Unit := do
  let bot ← getBot
  if bot.config.bot.passive then return ()
  else if !bot.rooms.isTracked room then note (.untrackedTransition room transition.kind)
  else do
    count (.transitions transition.kind)
    applyTransition room transition

/-- What an event in a monitored room leads to. -/
def applyEvent (room : RoomId) (event : Event) : BotM Unit := do
  let bot ← getBot
  match event.meaning bot.selfId bot.readyTs bot.rooms room with
  | .stale => count .staleEvents
  | .chat sender body => discard <| receiveChat room sender body
  | .membership transition => do
    if event.memberContent = .malformed then note (.malformedMembership room event.eventId)
    observeTransition room transition
  | .profile member => note (.profileUpdated room member)
  | .ignored => return ()

/-- What the events of a room lead to. From a welcome room the bot only learns that it has been
left; rooms that are not monitored mean nothing to it. -/
def applyRoom (room : RoomId) (events : List Event) : BotM Unit := do
  let bot ← getBot
  if bot.welcome.contains room then do
    if events.any (·.isDeparture bot.selfId bot.readyTs) then spawn (.closeWelcome room)
  else if !bot.config.isMonitored room then note (.unmonitoredEvents room events.length)
  else events.forM (applyEvent room)

/-- What a batch leads to: first what happened in the joined rooms, then the departures. -/
def applyBatch (batch : FeedBatch) : BotM Unit := do
  record (.applied batch)
  during (.syncBatch batch.nextBatch) do
    count .syncBatches
    countBy .malformedEvents batch.malformed
    if batch.malformed > 0 then note (.malformedEvents batch.malformed)
    batch.joined.toList.forM fun (room, events) => applyRoom room events
    batch.left.toList.forM fun room => discard <| handleLeft room
    change fun b => { b with cursor := some batch.nextBatch }

end Bot

end RoomModeration
