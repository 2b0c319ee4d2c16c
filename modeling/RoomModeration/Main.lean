import RoomModeration.Program.Run

/-!
# The command line

The program takes the path of its configuration file. It finds no way to the homeserver, since it is
built without a network; a run with a valid configuration ends where a request would have gone out.
-/

open RoomModeration

/-- Why a file cannot be read, in the words of the system. -/
def readingFailure : IO.Error → String
  | .noFileOrDirectory .. => ConfigFile.notFound
  | e => toString e

/-- The bytes of a file, or why it cannot be read. -/
def readBytes (path : String) : IO (Except String ByteArray) := do
  try
    return .ok (← IO.FS.readBinFile path)
  catch e => return .error (readingFailure e)

/-- Whether what was read, or could not be, is there. -/
def isThere : Except String ByteArray → Bool
  | .ok _ => true
  | .error cause => cause != ConfigFile.notFound

/-- The path of the help file that a configuration names. -/
def helpPath? (path : String) (bytes : Except String ByteArray) : Option String := do
  let store ← (ConfigStore.loadBytes path (← bytes.toOption) fun _ => none).toOption
  store.config.bot.helpFile

/-- Runs the program, shows what it has to say, and keeps its configuration. -/
def main (args : List String) : IO UInt32 := do
  let path := args.head?.getD Environment.defaultPath
  let config ← readBytes path
  let help ← (helpPath? path config).mapM fun p => do return (p, ← readBytes p)
  let files := (path, config) :: help.toList
  let env : Environment Unit :=
    { configPath := path
      bytes := fun p => (files.lookup p).getD (.error ConfigFile.notFound)
      isPath := fun p => (files.lookup p).any isThere
      writeFailure? := fun _ => none
      filterText := ← IO.getEnv "RUST_LOG"
      portFailure? := fun _ => none
      link := .unreachable
      linkState := ()
      clock := 0
      jitterMs := 0
      signalMs := 0 }
  let ending := env.run
  let format := ending.logging?.elim .pretty (·.format)
  for entry in ending.shown env.filterText do
    IO.println (entry.line format)
  IO.eprint (ending.complaint env.filterText)
  if let some file := ending.store? >>= ConfigStore.file then
    if 0 < file.attempts then IO.FS.writeFile file.path file.text
  return ending.code
