import RoomModeration.Log.Line
import RoomModeration.Metrics.Exposition
import RoomModeration.Program.Environment
import RoomModeration.Program.Failure

/-!
# Running the program

The program reads its configuration, refuses one that has problems, logs in, starts the bot and lets
it work until someone asks for the end.

## Main definitions

* `Ending` : what is left when the program has ended.
* `Environment.run` : the whole run.
-/

namespace RoomModeration

/-- What is left when the program has ended. -/
structure Ending (L : Type) where
  /-- What kept the program from its work, if anything did. -/
  error? : Option ProgramError
  /-- The notices given, in order. -/
  log : List LogEntry
  /-- The configuration and where it is kept, if it could be read. -/
  store? : Option ConfigStore
  /-- The client, if there was one. -/
  client? : Option (Client L)
  /-- The figures, if the bot was started. -/
  figures? : Option Figures

namespace Ending

variable {L : Type}

/-- What the program tells its caller. -/
def code (e : Ending L) : UInt32 :=
  if e.error?.isSome then 1 else 0

/-- What is logged, if the configuration could be read. -/
def logging? (e : Ending L) : Option LoggingConfig :=
  e.store?.map (·.config.logging)

/-- The entries that are shown, if the operator has asked for a filter at the start. -/
def shown (e : Ending L) (filterText : Option String) : List LogEntry :=
  e.logging?.elim [] fun logging =>
    shownEntries (LogFilter.choose filterText logging.level).1 e.log

/-- What the operator is told beside the log. -/
def complaint (e : Ending L) (filterText : Option String) : String :=
  let ignored := e.logging?.elim [] fun logging => (LogFilter.choose filterText logging.level).2
  String.join (ignored.map (· ++ "\n")) ++ e.error?.elim "" ProgramError.report

end Ending

/-- Notices that were given outside of any activity. -/
def LogEntry.ofNotices (notices : List Notice) : List LogEntry :=
  notices.map (⟨[], ·⟩)

open BotM RoomModeration.Bot in
/-- The work of the bot from its start to its end. -/
def work [Surroundings] (clock : Timestamp) (signalMs jobs : Nat) : BotM Unit := do
  start clock
  serve signalMs jobs
  note (if (← getBot).shutdown then .shuttingDownOnRequest else .shuttingDownOnSignal)
  cancel

namespace Environment

variable {L : Type}

/-- More jobs than are ever ready between two moments. -/
def jobLimit : Nat := 10000000

/-- The notice with which the program starts. -/
def greeting (config : Config) : Notice :=
  .programStarting config.homeserver.url config.rooms.size config.admins.size

/-- What there is to say about showing the figures at a port; port 0 means that they are not
shown. -/
def portNotices (env : Environment L) (port : Nat) : List Notice :=
  if port = 0 then []
  else
    let address := s!"0.0.0.0:{port}"
    match env.portFailure? port with
    | some cause => [.metricsUnbound address cause]
    | none => [.metricsListening address]

/-- The run after the login. -/
def runBot (env : Environment L) (selfId : MemberId) (outcome : LoginOutcome L)
    (before : List Notice) : Ending L :=
  letI := env.surroundings
  let world := World.initial (.initial selfId outcome.store) outcome.client
  let after := ((work env.clock env.signalMs jobLimit).run world).2
  { error? := none
    log := LogEntry.ofNotices before ++ after.log.reverse
    store? := some after.bot.store
    client? := some after.server
    figures? := some ⟨after.counters, after.bot.trackedGauge, after.bot.welcomeGauge⟩ }

/-- The run with a configuration that has no problems. -/
def runValid (env : Environment L) (store : ConfigStore) : Ending L :=
  let starting := [greeting store.config]
  match Client.ofConfig store.config env.linkState with
  | .error e => ⟨some (.noClient e), LogEntry.ofNotices starting, some store, none, none⟩
  | .ok client =>
    let outcome := client.login env.link store
    let said := starting ++ env.portNotices store.config.bot.metricsPort ++ outcome.notices
    match outcome.result with
    | .error e =>
      ⟨some (.loginFailed e), LogEntry.ofNotices said, some outcome.store, some outcome.client,
        none⟩
    | .ok selfId => env.runBot selfId outcome (said ++ [.programLoggedIn selfId])

/-- The whole run. -/
def run (env : Environment L) : Ending L :=
  match env.openConfig with
  | .error e => ⟨some (.noConfig env.configPath e), [], none, none, none⟩
  | .ok store =>
    let problems := store.config.problems env.isPath
    if problems.isEmpty then env.runValid store
    else
      ⟨some (.invalidConfig env.configPath problems.length),
        LogEntry.ofNotices (problems.map (.invalidConfig · env.configPath)), some store, none,
        none⟩

end Environment

end RoomModeration
