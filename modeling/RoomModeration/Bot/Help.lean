import RoomModeration.Mode
import RoomModeration.Welcome.Greeting

/-!
# The built-in help

The text that is posted when the operator has given no help of their own: a Markdown table of the
commands.

## Main definitions

* `Help.builtin` : the text, for commands that start with a prefix.
-/

namespace RoomModeration.Help

/-- The commands, each with its forms and its effect. A vertical bar that is part of a form is
escaped, because the table has bars between its cells. -/
def rows : List (List String × String) := [
  (["version"], "Show the running version"),
  (["help"], "Show this text"),
  (["admin grant\\|revoke <member>"], "Change the admin list"),
  (["admin list"], "List admins"),
  (["ban <member> [reason]"], "Ban here and in every ban-sync room"),
  (["unban <member>"], "Unban here and in every ban-sync room"),
  (["room add\\|del <room>"], "Start or stop monitoring a room"),
  (["room list"], "List monitored rooms"),
  (["room <room> mode add\\|del\\|list [mode]"], "Change room modes"),
  (["room <room> params <mode> set <value>"], "Set a mode parameter"),
  (["vars set <name> <payload>"], "Store a text variable"),
  (["vars get\\|del <name>", "vars list"], "Read or remove variables"),
  (["say room <room> <text>"], "Post text in another room"),
  (["login\\|host get\\|set [value]"], "Connection settings"),
  (["password set <value>"], "Change the account password"),
  (["reboot"], "Restart the bot")]

/-- A text in code style. -/
def code (s : String) : String := "`" ++ s ++ "`"

/-- A line of the table. -/
def line (first second : String) : String := s!"| {first} | {second} |\n"

/-- The line for a command. -/
def row (commandPrefix : String) (forms : List String) (effect : String) : String :=
  line (String.intercalate ", " (forms.map fun form => code (commandPrefix ++ form))) effect

/-- The built-in help for commands that start with a prefix. -/
def builtin (commandPrefix : String) : String :=
  let modes := String.intercalate ", " (RoomMode.all.map fun mode => code mode.name)
  "**roomwarden commands**\n\n" ++ line "Command" "Effect" ++ "|---|---|\n" ++
    String.join (rows.map fun (forms, effect) => row commandPrefix forms effect) ++
    s!"\nModes: {modes}.\n"

end RoomModeration.Help
