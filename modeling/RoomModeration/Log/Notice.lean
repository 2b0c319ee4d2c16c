import RoomModeration.Homeserver.Failure
import RoomModeration.Command.Error
import RoomModeration.Config.Store
import RoomModeration.Config.Validation

/-!
# Notices

What the bot tells its operator while it works. A notice says what has happened; how it is worded
and whether it is shown is decided by the log.

## Main definitions

* `Notice` : the notices.
* `Notice.ofUpdate` : the notices of a change of the configuration.
* `Activity` : the activities during which notices are given.
-/

namespace RoomModeration

/-- Why a welcome room is closed. -/
inductive Eviction where
  /-- The member has left it. -/
  | departure
  /-- It has reached its age. -/
  | timeout
  deriving DecidableEq, Repr

/-- The word for the end of a welcome room. -/
def Eviction.word : Eviction → String
  | departure => "departure"
  | timeout => "timeout"

/-- Something the operator may want to know. -/
inductive Notice where
  /-- The program starts. -/
  | programStarting (url : String) (rooms admins : Nat)
  /-- The configuration has a problem. -/
  | invalidConfig (problem : ConfigProblem) (path : String)
  /-- The counters can be read. -/
  | metricsListening (address : String)
  /-- The counters cannot be read. -/
  | metricsUnbound (address cause : String)
  /-- The program has logged in. -/
  | programLoggedIn (selfId : MemberId)
  /-- The program ends because it was asked to. -/
  | shuttingDownOnRequest
  /-- The program ends because of a signal. -/
  | shuttingDownOnSignal
  /-- A request goes out. -/
  | request (method path : String)
  /-- The stored session is still good. -/
  | sessionResumed (user : MemberId)
  /-- The stored session is not good any more. -/
  | tokenRejected
  /-- There is a new session. -/
  | loggedIn (user : MemberId) (device : Option String)
  /-- An entry of a ban list cannot be read. -/
  | malformedBanEntry (room : RoomId)
  /-- The configuration has been written. -/
  | configPersisted (path : String)
  /-- The bot starts. -/
  | botStarting (selfId : MemberId) (passive dryRun : Bool)
  /-- The joined rooms cannot be listed. -/
  | joinedRoomsUnknown (cause : ActionError)
  /-- A room that is not monitored could not be left. -/
  | foreignRoomNotLeft (room : RoomId) (cause : ActionError)
  /-- A monitored room could not be joined. -/
  | monitoredRoomNotJoined (room : RoomId) (cause : ActionError)
  /-- The monitored rooms have been joined, as far as possible. -/
  | monitoredRoomsJoined (joined configured : Nat)
  /-- Someone wants the bot to end. -/
  | shutdownRequested
  /-- An alias stands for another room. -/
  | aliasResolved (configured resolved : RoomId)
  /-- A record has been begun. -/
  | recordSeeded (room : RoomId) (members banned : Nat)
  /-- A record has been dropped. -/
  | recordDropped (room : RoomId)
  /-- A monitored room has been joined. -/
  | roomJoined (room : RoomId)
  /-- A room has been left. -/
  | roomLeft (room : RoomId)
  /-- A ban is only recorded. -/
  | wouldBan (room : RoomId) (member : MemberId) (reason : String)
  /-- A member has been banned. -/
  | memberBanned (room : RoomId) (member : MemberId) (reason : String)
  /-- An unban is only recorded. -/
  | wouldUnban (room : RoomId) (member : MemberId)
  /-- A ban has been lifted. -/
  | memberUnbanned (room : RoomId) (member : MemberId)
  /-- A message could not be posted. -/
  | postFailed (room : RoomId) (cause : ActionError)
  /-- A ban of the bot itself is not carried over. -/
  | banNotPropagated (room : RoomId) (member moderator : MemberId)
  /-- A membership that means nothing to the bot. -/
  | unhandledMembership (room : RoomId) (membership : String)
  /-- A membership event that cannot be read. -/
  | malformedMembership (room : RoomId) (eventId : String)
  /-- A ban could not be carried over to a room. -/
  | banPropagationFailed (room : RoomId) (member : MemberId) (cause : ActionError)
  /-- A ban has been carried over. -/
  | banPropagated (source : RoomId) (member : MemberId) (rooms : Nat)
  /-- An unban could not be carried over to a room. -/
  | unbanPropagationFailed (room : RoomId) (member : MemberId) (cause : ActionError)
  /-- An unban has been carried over. -/
  | unbanPropagated (source : RoomId) (member : MemberId) (rooms : Nat)
  /-- A ban of another room could not be repeated at the start. -/
  | reconciliationFailed (room : RoomId) (member : MemberId) (cause : ActionError)
  /-- The ban lists agree, as far as possible. -/
  | reconciled (banned rooms issued : Nat)
  /-- A welcome room has been opened. -/
  | welcomeCreated (room : RoomId) (member : MemberId) (source : RoomId)
  /-- A welcome room could not be opened. -/
  | welcomeNotCreated (source : RoomId) (member : MemberId) (cause : ActionError)
  /-- A welcome room is closed. -/
  | welcomeClosing (room : RoomId) (member : MemberId) (why : Eviction)
  /-- A welcome room could not be left. -/
  | welcomeNotLeft (room : RoomId) (cause : ActionError)
  /-- Welcome rooms have reached their age. -/
  | welcomeSwept (evicted remaining : Nat)
  /-- The bot has been removed from a welcome room. -/
  | welcomeClosedRemotely (room : RoomId)
  /-- The bot has been removed from a room it does not monitor. -/
  | unmonitoredRoomGone (room : RoomId)
  /-- The bot has been removed from a monitored room. -/
  | rejoinScheduled (room : RoomId) (delaySecs : Nat)
  /-- The room is not monitored any more. -/
  | rejoinSkipped (room : RoomId)
  /-- The bot is back in a room. -/
  | rejoined (room : RoomId)
  /-- The bot could not come back. -/
  | rejoinFailed (room : RoomId) (cause : ActionError)
  /-- The feed is being read. -/
  | feedStarted
  /-- A poll has failed. -/
  | pollFailed (cause : ActionError) (retrySecs : Nat)
  /-- A batch held events that cannot be read. -/
  | malformedEvents (count : Nat)
  /-- A batch held events of a room that is not monitored. -/
  | unmonitoredEvents (room : RoomId) (events : Nat)
  /-- A membership changed in a room without a record. -/
  | untrackedTransition (room : RoomId) (kind : String)
  /-- A member has changed their profile. -/
  | profileUpdated (room : RoomId) (member : MemberId)
  /-- Someone who may not gave a command. -/
  | unauthorizedCommand (room : RoomId) (sender : MemberId)
  /-- A command could not be read. -/
  | commandRejected (room : RoomId) (sender : MemberId) (cause : CommandError)
  /-- A command has failed. -/
  | commandFailed (command : String) (room : RoomId) (cause : HandlerError)
  /-- Someone is an admin now. -/
  | adminGranted (member sender : MemberId)
  /-- Someone is no admin any more. -/
  | adminRevoked (member sender : MemberId)
  /-- A ban was commanded. -/
  | banCommanded (member sender : MemberId) (rooms : Nat)
  /-- An unban was commanded. -/
  | unbanCommanded (member sender : MemberId) (rooms : Nat)
  /-- A restart was commanded. -/
  | rebootCommanded (sender : MemberId) (delaySecs : Nat)
  /-- A room is monitored now. -/
  | roomAdded (room : RoomId) (sender : MemberId)
  /-- A room is not monitored any more. -/
  | roomRemoved (room : RoomId) (sender : MemberId)
  /-- A room that is not monitored any more could not be left. -/
  | removedRoomNotLeft (room : RoomId) (cause : ActionError)
  /-- A mode has been switched on. -/
  | modeEnabled (room : RoomId) (mode : RoomMode) (sender : MemberId)
  /-- A mode has been switched off. -/
  | modeDisabled (room : RoomId) (mode : RoomMode) (sender : MemberId)
  /-- A mode has a new parameter. -/
  | paramSet (room : RoomId) (mode : RoomMode) (sender : MemberId)
  /-- Something is posted for an admin. -/
  | postingForAdmin (room : RoomId) (sender : MemberId)
  /-- The file with the help cannot be read. -/
  | helpFileFailed (path cause : String)
  /-- A connection setting has changed. -/
  | settingChanged (setting : Setting) (sender : MemberId)
  deriving DecidableEq, Repr

/-- What there is to say about a change of the configuration that has ended so. -/
def Notice.ofUpdate {α : Type} : Except ConfigError α × ConfigStore → List Notice
  | (.ok _, ⟨_, some file⟩) => [configPersisted file.path]
  | _ => []

/-- What the bot is doing when it gives a notice. -/
inductive Activity where
  /-- It applies a batch. -/
  | syncBatch (cursor : String)
  /-- It executes a command. -/
  | command (name : String) (sender : MemberId) (room : RoomId)
  /-- It joins a room. -/
  | roomBootstrap (room : RoomId)
  deriving DecidableEq, Repr

end RoomModeration
