import RoomModeration.Bot.State

/-!
# Steps of the bot

What the bot can do in a step: look at itself and change, call the homeserver, count, give a notice
and put off work. Every other module of the bot is written in these terms.

A step that a failed call ends keeps what it had done before.

## Main definitions

* `BotM`, `ActionM`, `HandlerM` : steps, and steps that may fail.
* `call`, `attempt` : calling the homeserver.
* `count`, `note`, `during` : counting, giving notices, and saying what is going on.
* `spawn`, `sleep` : work that is done later.
-/

namespace RoomModeration

variable [Surroundings]

/-- Steps of the bot. -/
abbrev BotM := StateM World

/-- Steps that a failed call ends. -/
abbrev ActionM := ExceptT ActionError BotM

/-- Steps that carry out a command. -/
abbrev HandlerM := ExceptT HandlerError BotM

namespace BotM

/-- The bot as it is. -/
def getBot : BotM Bot := return (← get).bot

/-- The configuration as it is. -/
def getConfig : BotM Config := return (← get).bot.config

/-- Changes the bot. -/
def change (f : Bot → Bot) : BotM Unit :=
  modify fun w => { w with bot := f w.bot }

/-- Gives a notice. -/
def note (notice : Notice) : BotM Unit :=
  modify fun w => { w with log := ⟨w.activities, notice⟩ :: w.log }

/-- Gives some notices in order. -/
def noteAll (notices : List Notice) : BotM Unit :=
  modify fun w => { w with log := (notices.map (⟨w.activities, ·⟩)).reverse ++ w.log }

/-- Advances a counter. -/
def countBy (c : Counter) (n : Nat) : BotM Unit :=
  modify fun w => { w with counters := w.counters.advance c n }

/-- Advances a counter by one. -/
def count (c : Counter) : BotM Unit :=
  countBy c 1

/-- Writes into the history. -/
def record (occurrence : Occurrence) : BotM Unit :=
  modify fun w => { w with history := occurrence :: w.history }

/-- Does something as part of an activity. -/
def during {α : Type} (activity : Activity) (step : BotM α) : BotM α := do
  let outer := (← get).activities
  modify fun w => { w with activities := outer ++ [activity] }
  let result ← step
  modify fun w => { w with activities := outer }
  return result

/-- Makes a job ready; it is done after those that are ready already. -/
def spawn (job : Job) : BotM Unit :=
  modify fun w => { w with ready := w.ready ++ [job] }

/-- Puts a job off for some milliseconds; one that need not wait goes on at once. -/
def sleep (ms : Nat) (job : Job) : BotM Unit :=
  modify fun w =>
    if ms = 0 then { w with ready := job :: w.ready }
    else { w with timers := w.timers ++ [⟨w.now + ms, job⟩] }

/-- Calls the homeserver. -/
def call (c : Call) : ActionM c.Reply := ExceptT.mk do
  let w ← get
  let (answer, server) := Surroundings.homeserver.answer c w.server
  set { w with server := server }
  noteAll answer.notices
  record (.called w.bot w.activities c answer.result)
  return answer.result

/-- Calls the homeserver for an action; a failure is counted under its name. -/
def attempt (action : String) (c : Call) : ActionM c.Reply := ExceptT.mk do
  let result ← (call c).run
  if let .error e := result then count (.actionFailures action e.code)
  return result

/-- Changes the configuration. -/
def configure {α : Type} (edit : Config.Edit α) : BotM (Except ConfigError α) := do
  let (result, store) := (← getBot).store.update edit
  change fun b => { b with store := store }
  noteAll (Notice.ofUpdate (result, store))
  return result

/-- Asks the bot to end. -/
def requestShutdown : BotM Unit := do
  note .shutdownRequested
  change fun b => { b with shutdown := true }

end BotM

end RoomModeration
