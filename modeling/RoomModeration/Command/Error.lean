import RoomModeration.Id
import RoomModeration.Mode

/-!
# Why a text is no command

Every error is written for the person who typed the command. Positions count the bytes of the UTF-8
form of the command text.

## Main definitions

* `CommandError` : the causes.
* `CommandError.message` : their wording.
-/

namespace RoomModeration

/-- Why a text is no command. -/
inductive CommandError where
  /-- There is no word at all. -/
  | empty
  /-- The first word is no command word. -/
  | unknownCommand (word : String)
  /-- The text ends before the command does. -/
  | incomplete (command expected : String)
  /-- A word is none of the alternatives that stand at its place. -/
  | invalidSubcommand (command word expected : String)
  /-- A word that should be an identifier is none. -/
  | invalidId (position : Nat) (cause : IdError)
  /-- A word that should name a mode names none. -/
  | invalidMode (position : Nat) (cause : ModeError)
  /-- A quoted word is not closed. -/
  | unterminatedQuote (position : Nat)
  /-- Text follows a complete command. -/
  | trailingInput (text : String) (position : Nat)
  deriving DecidableEq, Repr

namespace CommandError

/-- The wording of a command error. -/
def message : CommandError → String
  | empty => "empty command"
  | unknownCommand word => s!"unknown command '{word}'"
  | incomplete command expected => s!"incomplete command '{command}', expected {expected}"
  | invalidSubcommand command word expected =>
    s!"invalid {command} subcommand '{word}', expected {expected}"
  | invalidId position cause => s!"{cause.message} at position {position}"
  | invalidMode position cause => s!"{cause.message} at position {position}"
  | unterminatedQuote position => s!"unterminated quoted string at position {position}"
  | trailingInput text position => s!"unexpected argument '{text}' at position {position}"

/-- Where the fault lies, for the errors that lie at a place. -/
def position? : CommandError → Option Nat
  | invalidId position _ | invalidMode position _ | unterminatedQuote position
  | trailingInput _ position => some position
  | _ => none

/-- The wording of the error that lies beneath, if there is one. -/
def cause? : CommandError → Option String
  | invalidId _ cause => some cause.message
  | invalidMode _ cause => some cause.message
  | _ => none

end CommandError

end RoomModeration
