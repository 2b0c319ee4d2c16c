import RoomModeration.Homeserver.Failure

/-!
# Why the program ends with an error

Four things can keep the program from its work. It tells the operator which, and all causes that lie
beneath, the outermost first.

## Main definitions

* `ProgramError` : what keeps the program from its work.
* `ProgramError.report` : what the operator is told.
-/

namespace RoomModeration

/-- What keeps the program from its work. -/
inductive ProgramError where
  /-- There is no configuration. -/
  | noConfig (path : String) (cause : ConfigError)
  /-- The configuration has problems, so many. -/
  | invalidConfig (path : String) (problems : Nat)
  /-- The homeserver has no address that can be used. -/
  | noClient (cause : ActionError)
  /-- The login failed. -/
  | loginFailed (cause : ActionError)
  deriving DecidableEq, Repr

namespace ProgramError

/-- The wording of an error. -/
def message : ProgramError → String
  | noConfig path _ => s!"failed to load config from {path}"
  | invalidConfig path problems => s!"{problems} configuration error(s) in {path}"
  | noClient _ => "failed to build HTTP client"
  | loginFailed _ => "homeserver login failed"

/-- The wordings of the causes, the outermost first. -/
def causes : ProgramError → List String
  | noConfig _ cause => cause.chain
  | invalidConfig _ _ => []
  | noClient cause | loginFailed cause => cause.chain

/-- A text that may have several lines, behind a mark; the further lines are moved under the
first. -/
def hanging (mark text : String) : String :=
  let blanks := String.ofList (mark.toList.map fun _ => ' ')
  mark ++ String.intercalate ("\n" ++ blanks) (text.splitOn "\n") ++ "\n"

/-- The number of a cause, as it stands before it. -/
def numberMark (n : Nat) : String :=
  let digits := toString n
  String.ofList (List.replicate (5 - digits.length) ' ') ++ digits ++ ": "

/-- The causes as they are listed; a single one has no number. -/
def listed : List String → String
  | [] => ""
  | [cause] => "\nCaused by:\n" ++ hanging "    " cause
  | causes =>
    "\nCaused by:\n" ++ String.join (causes.mapIdx fun n cause => hanging (numberMark n) cause)

/-- What the operator is told. -/
def report (e : ProgramError) : String :=
  s!"Error: {e.message}\n" ++ listed e.causes

end ProgramError

end RoomModeration
