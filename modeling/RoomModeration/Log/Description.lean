import RoomModeration.Log.Notice
import RoomModeration.Version

/-!
# How notices are worded

Every notice has a level, the part of the program it comes from, a message and some fields.

## Main definitions

* `LogLevel` : the levels.
* `Description` : what is written about a notice.
* `Notice.description` : the description of each notice.
* `Activity.description` : how an activity is named around the notices given during it.
-/

namespace RoomModeration

/-- How much a notice matters. -/
inductive LogLevel where
  /-- Something has gone wrong for good. -/
  | error
  /-- Something has gone wrong. -/
  | warn
  /-- Something has happened. -/
  | info
  /-- Something that matters when a fault is looked for. -/
  | debug
  /-- Something that hardly ever matters. -/
  | trace
  deriving DecidableEq, Repr

/-- How many levels are shown if those down to this one are. -/
def LogLevel.rank : LogLevel → Nat
  | error => 1
  | warn => 2
  | info => 3
  | debug => 4
  | trace => 5

/-- The name of a level. -/
def LogLevel.name : LogLevel → String
  | error => "ERROR"
  | warn => "WARN"
  | info => "INFO"
  | debug => "DEBUG"
  | trace => "TRACE"

/-- The value of a field. -/
inductive FieldValue where
  /-- A text that is written as it is. -/
  | bare (s : String)
  /-- A text that is written in quotes. -/
  | quoted (s : String)
  /-- A number. -/
  | natural (n : Nat)
  /-- A truth value. -/
  | boolean (b : Bool)
  deriving DecidableEq, Repr

/-- What is written about a notice. -/
structure Description where
  /-- The level. -/
  level : LogLevel
  /-- The part of the program it comes from. -/
  target : String
  /-- The message. -/
  message : String
  /-- The fields. -/
  fields : List (String × FieldValue)
  deriving DecidableEq, Repr

namespace Description

/-- A field with a room. -/
def roomField (name : String) (room : RoomId) : String × FieldValue :=
  (name, .bare room.text)

/-- A field with a member. -/
def memberField (name : String) (member : MemberId) : String × FieldValue :=
  (name, .bare member.text)

/-- A field with the cause of a failure. -/
def causeField (text : String) : String × FieldValue :=
  ("error", .bare text)

/-- A text in quotes, with escapes for what cannot stand in them. -/
def inQuotes (s : String) : String :=
  let hex (n : Nat) : String := String.ofList (Nat.toDigits 16 n)
  let escaped := s.toList.map fun c =>
    match c with
    | '"' => "\\\""
    | '\\' => "\\\\"
    | '\n' => "\\n"
    | '\r' => "\\r"
    | '\t' => "\\t"
    | '\x00' => "\\0"
    | c =>
      if c.toNat < 0x20 || (0x7F ≤ c.toNat && c.toNat < 0xA0) then
        "\\u\x7b" ++ hex c.toNat ++ "\x7d"
      else String.singleton c
  "\"" ++ String.join escaped ++ "\""

/-- A text that may be absent. -/
def optionalText : Option String → String
  | none => "None"
  | some s => "Some(" ++ inQuotes s ++ ")"

/-- The parts of the program. -/
def part (name : String) : String :=
  if name = "" then "roomwarden" else "roomwarden::" ++ name

end Description

open Description in
/-- The description of each notice. -/
def Notice.description : Notice → Description
  | programStarting url rooms admins =>
    ⟨.info, part "", s!"Starting roomwarden v{version}",
      [("homeserver", .bare url), ("rooms", .natural rooms), ("admins", .natural admins)]⟩
  | invalidConfig problem path =>
    ⟨.error, part "", s!"Invalid config: {problem.message}", [("path", .bare path)]⟩
  | metricsListening address =>
    ⟨.info, part "http", "Metrics endpoint listening", [("addr", .bare address)]⟩
  | metricsUnbound address cause =>
    ⟨.error, part "http", "Metrics endpoint could not bind",
      [("addr", .bare address), causeField cause]⟩
  | programLoggedIn selfId => ⟨.info, part "", "Logged in", [memberField "self_id" selfId]⟩
  | shuttingDownOnRequest => ⟨.info, part "", "Shutting down on request", []⟩
  | shuttingDownOnSignal => ⟨.info, part "", "Shutting down on signal", []⟩
  | request method path =>
    ⟨.debug, part "client::http", "Homeserver request",
      [("method", .bare method), ("path", .bare path)]⟩
  | sessionResumed user =>
    ⟨.info, part "client::http", "Resumed stored session", [memberField "user" user]⟩
  | tokenRejected =>
    ⟨.warn, part "client::http", "Stored access token rejected, logging in again", []⟩
  | loggedIn user device =>
    ⟨.info, part "client::http", "Logged in",
      [memberField "user" user, ("device", .bare (optionalText device))]⟩
  | malformedBanEntry room =>
    ⟨.warn, part "client::http", "Skipping malformed ban entry", [roomField "room" room]⟩
  | configPersisted path =>
    ⟨.debug, part "config::store", "Configuration persisted", [("path", .bare path)]⟩
  | botStarting selfId passive dryRun =>
    ⟨.info, part "bot::startup", "Starting bot", [memberField "self_id" selfId,
      ("passive", .boolean passive), ("dry_run", .boolean dryRun)]⟩
  | joinedRoomsUnknown cause =>
    ⟨.warn, part "bot::startup", "Could not list joined rooms", [causeField cause.message]⟩
  | foreignRoomNotLeft room cause =>
    ⟨.warn, part "bot::startup", "Failed to leave foreign room",
      [roomField "room" room, causeField cause.message]⟩
  | monitoredRoomNotJoined room cause =>
    ⟨.warn, part "bot::startup", "Failed to join monitored room",
      [roomField "room" room, causeField cause.message]⟩
  | monitoredRoomsJoined joined configured =>
    ⟨.info, part "bot::startup", "Monitored rooms joined",
      [("joined", .natural joined), ("configured", .natural configured)]⟩
  | shutdownRequested => ⟨.info, part "bot", "Shutdown requested", []⟩
  | aliasResolved configured resolved =>
    ⟨.warn, part "bot", "Room alias resolved; configure the room id instead",
      [roomField "configured" configured, roomField "resolved" resolved]⟩
  | recordSeeded room members banned =>
    ⟨.debug, part "state::rooms", "Room record seeded",
      [roomField "room" room, ("members", .natural members), ("banned", .natural banned)]⟩
  | recordDropped room =>
    ⟨.debug, part "state::rooms", "Room record dropped", [roomField "room" room]⟩
  | roomJoined room => ⟨.info, part "bot", "Joined monitored room", [roomField "room" room]⟩
  | roomLeft room => ⟨.info, part "bot", "Left room", [roomField "room" room]⟩
  | wouldBan room member reason =>
    ⟨.info, part "bot", "Dry run: would ban",
      [roomField "room" room, memberField "member" member, ("reason", .bare reason)]⟩
  | memberBanned room member reason =>
    ⟨.info, part "bot", "Banned member",
      [roomField "room" room, memberField "member" member, ("reason", .bare reason)]⟩
  | wouldUnban room member =>
    ⟨.info, part "bot", "Dry run: would unban",
      [roomField "room" room, memberField "member" member]⟩
  | memberUnbanned room member =>
    ⟨.info, part "bot", "Unbanned member", [roomField "room" room, memberField "member" member]⟩
  | postFailed room cause =>
    ⟨.warn, part "bot", "Failed to post message",
      [roomField "room" room, causeField cause.message]⟩
  | banNotPropagated room member moderator =>
    ⟨.debug, part "bot::membership", "Ban recorded without propagation",
      [roomField "room" room, memberField "member" member, memberField "moderator" moderator]⟩
  | unhandledMembership room membership =>
    ⟨.warn, part "bot::membership", "Unhandled membership change",
      [roomField "room" room, ("membership", .bare membership)]⟩
  | malformedMembership room eventId =>
    ⟨.warn, part "sync::classifier", "Malformed membership event",
      [roomField "room" room, ("event", .bare eventId)]⟩
  | banPropagationFailed room member cause =>
    ⟨.warn, part "services::banlist", "Ban propagation failed",
      [roomField "room" room, memberField "member" member, causeField cause.message]⟩
  | banPropagated source member rooms =>
    ⟨.info, part "services::banlist", "Ban propagated",
      [roomField "source" source, memberField "member" member, ("rooms", .natural rooms)]⟩
  | unbanPropagationFailed room member cause =>
    ⟨.warn, part "services::banlist", "Unban propagation failed",
      [roomField "room" room, memberField "member" member, causeField cause.message]⟩
  | unbanPropagated source member rooms =>
    ⟨.info, part "services::banlist", "Unban propagated",
      [roomField "source" source, memberField "member" member, ("rooms", .natural rooms)]⟩
  | reconciliationFailed room member cause =>
    ⟨.warn, part "services::banlist", "Reconciliation ban failed",
      [roomField "room" room, memberField "member" member, causeField cause.message]⟩
  | reconciled banned rooms issued =>
    ⟨.info, part "services::banlist", "Ban lists reconciled",
      [("banned", .natural banned), ("rooms", .natural rooms), ("issued", .natural issued)]⟩
  | welcomeCreated room member source =>
    ⟨.info, part "services::welcome", "Welcome room created",
      [roomField "room" room, memberField "member" member, roomField "source" source]⟩
  | welcomeNotCreated source member cause =>
    ⟨.warn, part "services::welcome", "Failed to create welcome room",
      [roomField "source" source, memberField "member" member, causeField cause.message]⟩
  | welcomeClosing room member why =>
    ⟨.info, part "services::welcome", "Closing welcome room",
      [roomField "room" room, memberField "member" member, ("reason", .quoted why.word)]⟩
  | welcomeNotLeft room cause =>
    ⟨.warn, part "services::welcome", "Failed to leave welcome room",
      [roomField "room" room, causeField cause.message]⟩
  | welcomeSwept evicted left =>
    ⟨.debug, part "services::welcome", "Welcome sweep",
      [("evicted", .natural evicted), ("remaining", .natural left)]⟩
  | welcomeClosedRemotely room =>
    ⟨.debug, part "sync::rejoin", "Welcome room closed remotely", [roomField "room" room]⟩
  | unmonitoredRoomGone room =>
    ⟨.debug, part "sync::rejoin", "Left unmonitored room", [roomField "room" room]⟩
  | rejoinScheduled room delaySecs =>
    ⟨.info, part "sync::rejoin", "Removed from monitored room, scheduling rejoin",
      [roomField "room" room, ("delay_secs", .natural delaySecs)]⟩
  | rejoinSkipped room =>
    ⟨.debug, part "sync::rejoin", "Room no longer monitored, skipping rejoin",
      [roomField "room" room]⟩
  | rejoined room =>
    ⟨.info, part "sync::rejoin", "Rejoined monitored room", [roomField "room" room]⟩
  | rejoinFailed room cause =>
    ⟨.warn, part "sync::rejoin", "Rejoin failed", [roomField "room" room, causeField cause.message]⟩
  | feedStarted => ⟨.info, part "sync::driver", "Sync driver started", []⟩
  | pollFailed cause retrySecs =>
    ⟨.warn, part "sync::driver", "Sync poll failed",
      [causeField cause.message, ("retry_secs", .natural retrySecs)]⟩
  | malformedEvents count =>
    ⟨.warn, part "sync::driver", "Dropped undecodable events", [("malformed", .natural count)]⟩
  | unmonitoredEvents room events =>
    ⟨.trace, part "sync::driver", "Events for unmonitored room ignored",
      [roomField "room" room, ("events", .natural events)]⟩
  | untrackedTransition room kind =>
    ⟨.debug, part "sync::driver", "Transition for untracked room skipped",
      [roomField "room" room, ("kind", .quoted kind)]⟩
  | profileUpdated room member =>
    ⟨.debug, part "sync::driver", "Profile update",
      [roomField "room" room, memberField "member" member]⟩
  | unauthorizedCommand room sender =>
    ⟨.debug, part "handlers", "Ignoring unauthorized command",
      [roomField "room" room, memberField "sender" sender]⟩
  | commandRejected room sender cause =>
    ⟨.debug, part "handlers", "Command rejected",
      [roomField "room" room, memberField "sender" sender, causeField cause.message]⟩
  | commandFailed command room cause =>
    ⟨.warn, part "handlers", "Command failed",
      [("command", .quoted command), roomField "room" room, causeField cause.message]⟩
  | adminGranted member sender =>
    ⟨.info, part "handlers::admin", "Admin granted",
      [memberField "member" member, memberField "by" sender]⟩
  | adminRevoked member sender =>
    ⟨.info, part "handlers::admin", "Admin revoked",
      [memberField "member" member, memberField "by" sender]⟩
  | banCommanded member sender rooms =>
    ⟨.info, part "handlers::bans", "Ban command",
      [memberField "member" member, memberField "by" sender, ("rooms", .natural rooms)]⟩
  | unbanCommanded member sender rooms =>
    ⟨.info, part "handlers::bans", "Unban command",
      [memberField "member" member, memberField "by" sender, ("rooms", .natural rooms)]⟩
  | rebootCommanded sender delaySecs =>
    ⟨.info, part "handlers::oper", "Reboot requested",
      [memberField "by" sender, ("delay_secs", .natural delaySecs)]⟩
  | roomAdded room sender =>
    ⟨.info, part "handlers::room", "Room added", [roomField "room" room, memberField "by" sender]⟩
  | roomRemoved room sender =>
    ⟨.info, part "handlers::room", "Room removed", [roomField "room" room, memberField "by" sender]⟩
  | removedRoomNotLeft room cause =>
    ⟨.warn, part "handlers::room", "Failed to leave removed room",
      [roomField "room" room, causeField cause.message]⟩
  | modeEnabled room mode sender =>
    ⟨.info, part "handlers::room", "Mode enabled",
      [roomField "room" room, ("mode", .bare mode.name), memberField "by" sender]⟩
  | modeDisabled room mode sender =>
    ⟨.info, part "handlers::room", "Mode disabled",
      [roomField "room" room, ("mode", .bare mode.name), memberField "by" sender]⟩
  | paramSet room mode sender =>
    ⟨.info, part "handlers::room", "Mode parameter set",
      [roomField "room" room, ("mode", .bare mode.name), memberField "by" sender]⟩
  | postingForAdmin room sender =>
    ⟨.info, part "handlers::say", "Posting on behalf of admin",
      [roomField "room" room, memberField "by" sender]⟩
  | helpFileFailed path cause =>
    ⟨.warn, part "handlers::server_query", "Failed to read help file, using built-in help",
      [("path", .bare path), causeField cause]⟩
  | settingChanged setting sender =>
    ⟨.info, part "handlers::settings", "Connection setting changed",
      [("setting", .quoted setting.name), memberField "by" sender]⟩

/-- How an activity is named around the notices given during it, with its fields. -/
def Activity.description : Activity → String × List (String × String)
  | syncBatch cursor => ("sync_batch", [("cursor", cursor)])
  | command name sender room =>
    ("command", [("name", name), ("sender", sender.text), ("room", room.text)])
  | roomBootstrap room => ("room_bootstrap", [("room", room.text)])

end RoomModeration
