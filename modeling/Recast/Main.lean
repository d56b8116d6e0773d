import Recast.Command.Run

/-!
# The program

The command line, run on the system that the program was started on. The log goes to the standard
error, a line for each event as soon as its generation is over. It shows warnings, and more for each
`-v`; the lines carry no time, and no variable of the environment sets what is shown.
-/

namespace Recast

/-! ## The system -/

/-- An error of the system by its number. -/
def OsError.ofNumber (number : UInt32) (details : String) : OsError :=
  match number.toNat with
  | 2 => .notFound
  | 12 => .outOfMemory
  | 17 => .exists
  | 20 => .notDirectory
  | 21 => .isDirectory
  | 28 => .noSpace
  | 36 => .nameTooLong
  | 40 => .tooManyLinks
  | n => .other (details ++ " (os error " ++ toString n ++ ")")

def OsError.ofIO : IO.Error → OsError
  | .alreadyExists _ number details | .otherError number details | .resourceBusy number details
  | .resourceVanished number details | .unsupportedOperation number details
  | .hardwareFault number details | .unsatisfiedConstraints number details
  | .illegalOperation number details | .protocolError number details | .timeExpired number details
  | .interrupted _ number details | .noFileOrDirectory _ number details
  | .invalidArgument _ number details | .permissionDenied _ number details
  | .resourceExhausted _ number details | .inappropriateType _ number details
  | .noSuchThing _ number details => .ofNumber number details
  | .unexpectedEof => .other "unexpected end of file"
  | .userError message => .other message

/-- An action on a path. What a path can never hold is refused before the system is asked. -/
def onPath {α : Type} (path : String) (action : IO α) : IO (Except OsError α) :=
  if path.toList.contains '\x00' then return .error .nulInName
  else do
    try return .ok (← action)
    catch e => return .error (.ofIO e)

/-- A path as something to ask the system about. -/
def located (path : String) : IO.FS.DirEntry := ⟨path, ""⟩

/-- Writes a whole file in two steps, which fail in ways of their own. -/
def writeText (mode : WriteMode) (path text : String) : IO (Except WriteError Unit) := do
  let mode := match mode with
    | .createNew => IO.FS.Mode.writeNew
    | .overwrite => IO.FS.Mode.write
  match ← onPath path (IO.FS.Handle.mk path mode) with
  | .error e => return .error (.opening e)
  | .ok handle =>
    match ← onPath path (do handle.putStr text; handle.flush) with
    | .error e => return .error (.writing e)
    | .ok () => return .ok ()

/-- The surroundings of the program: the system, and the least level that the log shows. -/
abbrev Surroundings := ReaderT Level IO

/-- Shows the events that the log is to show. -/
def showLog (events : List Event) : Surroundings Unit := do
  let shown := events.filter (Event.isShown (← read))
  IO.eprint (String.join (shown.map Event.line))

instance : Host Surroundings where
  read path := onPath path (IO.FS.readBinFile path)
  kind? path := do
    match ← onPath path (located path).root.metadata with
    | .ok found => return some (if found.type == .dir then .directory else .other)
    | .error _ => return none
  hasName path := return (← onPath path (located path).root.symlinkMetadata).isOk
  list path := onPath path do
    return (← (located path).root.readDir).toList.map IO.FS.DirEntry.fileName
  makeDirectory path := onPath path (IO.FS.createDir path)
  write mode path text := writeText mode path text
  print text := IO.print text
  report text := IO.eprint text
  log := showLog

/-! ## The terminal -/

/-- A variable of the environment that is set, and not to nothing at all. -/
def flag? (name : String) : IO (Option Bool) := do
  return (← IO.getEnv name).map (· != "0")

/-- Is output coloured? The environment may ask for it or forbid it; otherwise a terminal shows
colours. -/
def wantsColour : IO Bool := do
  if (← flag? "CLICOLOR_FORCE") = some true then return true
  if (← flag? "NO_COLOR").isSome then return false
  if (← flag? "CLICOLOR") = some false then return false
  (← IO.getStdout).isTty

/-! ## The command line -/

def usage : String :=
  "Usage: recast [-v] generate --lang LANG --input PATH... [--out-dir DIR] [--format FORMAT]\n" ++
  "                [--json-pointer POINTER] [--root-name NAME]\n" ++
  "                [--strict] [--force] [--dry-run] [--json]\n" ++
  "       recast [-v] languages\n"

namespace Command

/-- What is said to a command line that cannot be run. -/
def UsageError.message : UsageError → String
  | displayHelp => usage
  | displayVersion => "recast 0.1.0\n"
  | nothingAsked | missingCommand => "error: a command is missing\n\n" ++ usage
  | invalidCommand => "error: unknown command\n\n" ++ usage
  | unknownArgument => "error: unknown argument\n\n" ++ usage
  | missingRequired => "error: a required argument is missing\n\n" ++ usage
  | invalidValue => "error: a value is missing\n\n" ++ usage
  | unknownValue => "error: a value is not known\n\n" ++ usage
  | givenTwice => "error: an argument is given twice\n\n" ++ usage
  | needlessValue => "error: a value is given to a switch that takes none\n\n" ++ usage

/-- Answers a command line that cannot be run, with the exit code. Who asks for help gets it on the
standard output. -/
def answerUsage (error : UsageError) : IO UInt32 := do
  if error = .displayHelp ∨ error = .displayVersion then
    IO.print error.message
    return 0
  else
    IO.eprint error.message
    return 2

end Command

end Recast

open Recast Recast.Command

def main (args : List String) : IO UInt32 := do
  match Invocation.parse args with
  | .error e => answerUsage e
  | .ok invocation =>
    let command : ExceptT Failure Surroundings Unit := run (← wantsColour) invocation.task
    match ← command.run.run (Recast.Level.leastShown invocation.verbose) with
    | .ok () => return 0
    | .error failure =>
      IO.eprintln ("Error: " ++ failure.message)
      return 1
