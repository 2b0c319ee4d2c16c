import RoomModeration.Bot.Feed
import RoomModeration.Bot.Start

/-!
# Work in its time

Jobs that are ready are done one after the other, in the order in which they became ready. Time
moves only when nothing is ready; it goes from one deadline to the next, and what is due at one
moment becomes ready in the order of the deadlines, equal ones in the order in which they were set.

## Main definitions

* `Job.run` : what a job does.
* `Bot.settle` : doing all that is ready.
* `Bot.advance` : letting time pass.
* `Bot.serve` : letting time pass until someone asks for the end.
* `Bot.cancel` : ending the lasting work of a start.
-/

namespace RoomModeration

open BotM RoomModeration.Bot

variable [Surroundings]

/-- The milliseconds between two ticks of work that is done every so many seconds; never less than
a second. -/
def periodMs (secs : Nat) : Nat :=
  max secs 1 * 1000

/-- Asks for the next batch; the answer is taken when it arrives. -/
def pollFeed (start : Nat) (since : Option String) (fullState : Bool) : BotM Unit := do
  let w ← get
  let request : PollRequest := ⟨since, w.bot.config.bot.syncTimeoutMs, fullState⟩
  let (answer, server) := Surroundings.homeserver.poll request w.server
  set { w with server := server }
  noteAll answer.notices
  record (.polled w.bot request)
  sleep answer.delayMs (.receive start since fullState answer.result)

/-- Takes the answer to a poll: applies the batch and polls again, or pauses after a failure. An
empty cursor leaves the feed where it was. -/
def receiveAnswer (start : Nat) (since : Option String) (fullState : Bool)
    (result : Except ActionError FeedBatch) : BotM Unit := do
  record (.answered result)
  match result with
  | .ok batch => do
    applyBatch batch
    sleep 0 (.poll start (if batch.nextBatch = "" then since else some batch.nextBatch) false)
  | .error e => do
    count (.actionFailures "sync" e.code)
    let pause := (← getConfig).bot.pollRetrySecs
    note (.pollFailed e pause)
    sleep (pause * 1000 + Surroundings.jitterMs) (.poll start since fullState)

/-- Shows the operator how many rooms there are. -/
def heartbeat : BotM Unit :=
  change fun b => { b with trackedGauge := b.rooms.size, welcomeGauge := b.welcome.size }

/-- What a job does. -/
def Job.run : Job → BotM Unit
  | greet source member => welcomeNewcomer source member
  | closeWelcome room => discard <| evict room .departure
  | awaitRejoin room delay => sleep (delay * 1000) (.rejoin room)
  | rejoin room => Bot.rejoin room
  | awaitReboot delay => sleep (delay * 1000) .reboot
  | reboot => requestShutdown
  | beginFeed start => do
    note .feedStarted
    sleep 0 (.poll start none true)
  | poll start since fullState => pollFeed start since fullState
  | receive start since fullState result => receiveAnswer start since fullState result
  | beginSweeps start => do
    let period := periodMs (← getConfig).welcome.sweepSecs
    sleep period (.sweep start period)
  | sweep start period => do
    discard <| Bot.sweep (← get).now
    sleep period (.sweep start period)
  | beginHeartbeats start => do
    sleep 0 (.heartbeat start (periodMs (← getConfig).bot.heartbeatSecs))
  | heartbeat start period => do
    RoomModeration.heartbeat
    sleep period (.heartbeat start period)

namespace Bot

/-- The next job that is ready, if there is one. -/
def nextJob? : BotM (Option Job) := do
  let w ← get
  match w.ready with
  | [] => return none
  | job :: rest => do
    set { w with ready := rest }
    return some job

/-- Does what is ready, at most so many jobs. -/
def settle : Nat → BotM Unit
  | 0 => return ()
  | fuel + 1 => do
    match ← nextJob? with
    | none => return ()
    | some job => do
      job.run
      settle fuel

/-- Puts a timer behind those that are due no later. -/
def insertTimer (timer : Timer) : List Timer → List Timer
  | [] => [timer]
  | other :: rest =>
    if other.deadline ≤ timer.deadline then other :: insertTimer timer rest
    else timer :: other :: rest

/-- Timers in the order of their deadlines, equal ones in the order in which they were set. -/
def byDeadline (timers : List Timer) : List Timer :=
  timers.foldl (fun sorted timer => insertTimer timer sorted) []

/-- Makes ready what is due. -/
def wake : BotM Unit :=
  modify fun w =>
    let due := byDeadline (w.timers.filter (·.deadline ≤ w.now))
    { w with
      ready := w.ready ++ due.map (·.job)
      timers := w.timers.filter (w.now < ·.deadline) }

/-- The earliest deadline that is not after a moment. -/
def nextDeadline? (w : World) (limit : Nat) : Option Nat :=
  ((w.timers.map (·.deadline)).filter (· ≤ limit)).min?

/-- Does what is ready and what becomes due up to a moment, at most so many times and only while
the bot is not to stop. -/
def advanceTo (stops : Bot → Bool) (limit jobs : Nat) : Nat → BotM Unit
  | 0 => return ()
  | fuel + 1 => do
    settle jobs
    if stops (← getBot) then return ()
    match nextDeadline? (← get) limit with
    | none => modify fun w => { w with now := max w.now limit }
    | some deadline => do
      modify fun w => { w with now := max w.now deadline }
      wake
      advanceTo stops limit jobs fuel

/-- Lets some milliseconds pass. -/
def advance (ms jobs : Nat) : BotM Unit := do
  advanceTo (fun _ => false) ((← get).now + ms) jobs (ms + 2)

/-- Lets some milliseconds pass, or fewer if someone asks for the end. -/
def serve (ms jobs : Nat) : BotM Unit := do
  advanceTo Bot.shutdown ((← get).now + ms) jobs (ms + 2)

/-- Ends the lasting work of the latest start. -/
def cancel : BotM Unit :=
  modify fun w =>
    let kept (job : Job) : Bool := job.start? != some (w.starts - 1)
    { w with ready := w.ready.filter kept, timers := w.timers.filter fun t => kept t.job }

end Bot

end RoomModeration
