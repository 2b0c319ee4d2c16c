import RoomModeration.Id

/-!
# What can go wrong

A call to the homeserver can fail on its way, be refused, or be answered in a form that cannot be
read; a command can fail because of such a call or for reasons of its own. Every cause has a code
under which it is counted, and some causes are told to the person who gave the command.

Where a cause is worded by a part of the system that is not described here (the transport, a
decoder), the wording travels with the cause.

## Main definitions

* `ConfigError` : failures of reading and keeping the configuration.
* `ActionError` : failures of calls to the homeserver.
* `HandlerError` : failures of commands.
-/

namespace RoomModeration

/-- Why the configuration could not be read or kept. -/
inductive ConfigError where
  /-- The file could not be read or written. -/
  | io (cause : String)
  /-- The text of the file is no configuration. -/
  | parse
  /-- A room is not among the monitored ones. -/
  | unknownRoom (room : RoomId)
  deriving DecidableEq, Repr

namespace ConfigError

/-- What is wrong with a text that is no configuration, without the place where it is wrong. -/
def parseCause : String := "TOML parse error"

/-- The wording of a configuration error. -/
def message : ConfigError → String
  | io cause => s!"failed to read config file: {cause}"
  | parse => s!"failed to parse config: {parseCause}"
  | unknownRoom room => s!"room {room.text} is not configured"

/-- The wordings of a configuration error and of what lies beneath it, the outermost first. -/
def chain (e : ConfigError) : List String :=
  e.message :: match e with
    | io cause => [cause]
    | parse => [parseCause]
    | unknownRoom _ => []

end ConfigError

/-- Why a call to the homeserver failed. -/
inductive ActionError where
  /-- The request did not reach the homeserver, or its answer did not come back whole; with the
  causes that lie beneath, the nearest first. -/
  | transport (cause : String) (beneath : List String)
  /-- The homeserver refused the request. -/
  | api (status : Nat) (code text : String)
  /-- An answer has not the form it should have. -/
  | decode (cause : String)
  /-- The URL of the homeserver cannot be used. -/
  | invalidUrl (text : String)
  /-- There is nothing to log in with. -/
  | noCredentials
  /-- The session could not be kept. -/
  | persist (cause : ConfigError)
  /-- Anything else. -/
  | other (text : String)
  deriving DecidableEq, Repr

namespace ActionError

/-- The code under which a failure is counted. -/
def code : ActionError → String
  | transport .. => "transport"
  | api .. => "api"
  | decode _ => "decode"
  | invalidUrl _ => "invalid_url"
  | noCredentials => "no_credentials"
  | persist _ => "persist"
  | other _ => "other"

/-- The wording of a failed call. -/
def message : ActionError → String
  | transport cause _ => s!"transport error: {cause}"
  | api status code text => s!"homeserver rejected request ({status} {code}): {text}"
  | decode cause => s!"malformed response: {cause}"
  | invalidUrl text => s!"invalid homeserver url: {text}"
  | noCredentials => "no credentials configured"
  | persist cause => s!"failed to persist session: {cause.message}"
  | other text => text

/-- The wordings of a failed call and of all that lies beneath it, the outermost first. -/
def chain (e : ActionError) : List String :=
  e.message :: match e with
    | transport cause beneath => cause :: beneath
    | decode cause => [cause]
    | persist cause => cause.chain
    | api .. | invalidUrl _ | noCredentials | other _ => []

/-- Whether the homeserver refused the request for want of power. -/
def isForbidden : ActionError → Bool
  | api _ code _ => code == "M_FORBIDDEN"
  | _ => false

end ActionError

/-- Why a command failed. -/
inductive HandlerError where
  /-- A call to the homeserver failed. -/
  | action (cause : ActionError)
  /-- The configuration could not be changed. -/
  | config (cause : ConfigError)
  /-- The room is not among the monitored ones. -/
  | roomNotMonitored (room : RoomId)
  /-- No variable has this name. -/
  | noSuchVar (name : String)
  /-- The command was given to a handler of other commands. -/
  | unknownCommand (name : String)
  deriving DecidableEq, Repr

namespace HandlerError

/-- The code under which a failure is counted. -/
def code : HandlerError → String
  | action cause => cause.code
  | config _ => "config"
  | roomNotMonitored _ => "room_not_monitored"
  | noSuchVar _ => "no_such_var"
  | unknownCommand _ => "unknown_command"

/-- The wording of a failed command. -/
def message : HandlerError → String
  | action cause => cause.message
  | config cause => cause.message
  | roomNotMonitored room => s!"room {room.text} is not monitored"
  | noSuchVar name => s!"no variable named '{name}'"
  | unknownCommand name => s!"no handler for command: {name}"

/-- What the person who gave the command is told, if anything. -/
def reply? : HandlerError → Option String
  | action (.api _ code text) => some s!"homeserver refused: {code} {text}"
  | roomNotMonitored room => some (message (.roomNotMonitored room))
  | noSuchVar name => some (message (.noSuchVar name))
  | action _ | config _ | unknownCommand _ => none

end HandlerError

end RoomModeration
