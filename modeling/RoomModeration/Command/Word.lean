import RoomModeration.Text.Blank
import RoomModeration.Command.Error

/-!
# Words of a command

A command is a row of words separated by blanks. A word that starts with a double quote goes on to
the next double quote that no backslash escapes; inside it a backslash makes the next character
literal. The last argument of some commands is not a word but all the text that is left, trimmed at
both ends.

A reader holds the text that is still to be read, which is always a suffix of the command, and
knows the size of the whole command; the difference of sizes is the position it has reached.

## Main definitions

* `CommandReader` : the readers.
* `CommandReader.word?` : the next word, if one is left.
* `CommandReader.freeText?` : the text that is left, if any is.
-/

namespace RoomModeration

/-- A piece of a command text, with the position at which it starts. -/
structure Argument where
  /-- The position of its first character. -/
  position : Nat
  /-- The text it stands for. -/
  text : String
  deriving DecidableEq, Repr

/-- A quoted word, read from behind its opening quote: what it stands for, and the text behind its
closing quote. -/
def unquote : List Char → Option (List Char × List Char)
  | [] => none
  | '"' :: rest => some ([], rest)
  | ['\\'] => none
  | '\\' :: c :: rest => (unquote rest).map fun (word, after) => (c :: word, after)
  | c :: rest => (unquote rest).map fun (word, after) => (c :: word, after)

/-- Readers of a command: given the size of the whole command, they take text from the front of
what is left, or fail. -/
abbrev CommandReader := ReaderT Nat (StateT (List Char) (Except CommandError))

namespace CommandReader

/-- The position reached when this text is left of a command of the given size. -/
def positionAt (size : Nat) (rest : List Char) : Nat :=
  size - Text.byteSize rest

/-- Passes over blanks and gives the text that is left, with its position. -/
def skipBlanks : CommandReader (Nat × List Char) := do
  let size ← read
  let rest := Text.trimStart (← get)
  set rest
  return (positionAt size rest, rest)

/-- The next word, if one is left. -/
def word? : CommandReader (Option Argument) := do
  match ← skipBlanks with
  | (_, []) => return none
  | (position, '"' :: quoted) =>
    match unquote quoted with
    | some (text, after) => set after; return some ⟨position, String.ofList text⟩
    | none => throw (.unterminatedQuote position)
  | (position, rest) =>
    set (rest.dropWhile (!Text.isBlank ·))
    return some ⟨position, String.ofList (rest.takeWhile (!Text.isBlank ·))⟩

/-- The next word of a command that cannot do without it. -/
def word (command expected : String) : CommandReader Argument := do
  match ← word? with
  | some argument => return argument
  | none => throw (.incomplete command expected)

/-- All the text that is left, trimmed, if it is not blank. -/
def freeText? : CommandReader (Option Argument) := do
  match ← skipBlanks with
  | (_, []) => return none
  | (position, rest) =>
    set ([] : List Char)
    return some ⟨position, String.ofList (Text.trimEnd rest)⟩

/-- The text that is left of a command that cannot do without it. -/
def freeText (command expected : String) : CommandReader String := do
  match ← freeText? with
  | some argument => return argument.text
  | none => throw (.incomplete command expected)

/-- Fails if anything but blanks is left. -/
def finish : CommandReader Unit := do
  match ← freeText? with
  | none => return ()
  | some argument => throw (.trailingInput argument.text argument.position)

/-- A member identifier. -/
def memberId (command : String) : CommandReader MemberId := do
  let argument ← word command "a member id"
  match MemberId.parse argument.text with
  | .ok member => return member
  | .error cause => throw (.invalidId argument.position cause)

/-- The room that an argument names. -/
def asRoom (argument : Argument) : CommandReader RoomId :=
  match RoomId.parse argument.text with
  | .ok room => return room
  | .error cause => throw (.invalidId argument.position cause)

/-- A room identifier. -/
def roomId (command : String) : CommandReader RoomId := do
  asRoom (← word command "a room id")

/-- A mode name. -/
def modeName (command : String) : CommandReader RoomMode := do
  let argument ← word command "a room mode"
  match RoomMode.parse argument.text with
  | .ok mode => return mode
  | .error cause => throw (.invalidMode argument.position cause)

/-- The alternative that a word names, in any case of its letters. -/
def alternative? {α : Type} (alternatives : List (String × α)) (word : String) : Option α :=
  (alternatives.find? (Text.sameWord ·.1 word)).map Prod.snd

/-- A word that chooses how the command goes on. -/
def choose {α : Type} (command expected : String)
    (alternatives : List (String × CommandReader α)) : CommandReader α := do
  let argument ← word command expected
  match alternative? alternatives argument.text with
  | some next => next
  | none => throw (.invalidSubcommand command argument.text expected)

end CommandReader

end RoomModeration
