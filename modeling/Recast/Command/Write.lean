import Recast.Command.Failure
import Recast.Host
import Recast.Listing

/-!
# Writing generated files

Every target path is looked at before anything is written: two files for the same path, or a file
that is there already and may not be written over, stop the whole batch. Then the output directory is
made with all that leads to it, and the files are written in order. A name that is taken between the
look and the writing is still not written over.
-/

namespace Recast.Command

open ExceptT (lift)

variable {m : Type → Type} [Monad m] [Host m]

/-- The word and the hint that are coloured when the terminal shows colours. -/
def coloured (code : String) (text : String) : String :=
  "\x1b[" ++ code ++ "m" ++ text ++ "\x1b[0m"

def green (colour : Bool) (text : String) : String :=
  if colour then coloured "32" text else text

def yellow (colour : Bool) (text : String) : String :=
  if colour then coloured "33" text else text

/-! ## Directories -/

/-- Makes the nearest of some directories that can be made, given from the inside out, and returns
those passed over because what should contain them was missing, from the outside in. -/
def makeNearest (missing : List String) : List String → ExceptT OsError m (List String)
  | [] => return missing
  | path :: outer => do
    match ← lift (Host.makeDirectory path) with
    | .ok () => return missing
    | .error .notFound => makeNearest (path :: missing) outer
    | .error .exists =>
      if (← lift (Host.kind? path)) == some .directory then return missing
      else throw .exists
    | .error e => throw e

/-- Makes directories from the outside in. -/
def makeEach : List String → ExceptT OsError m Unit
  | [] => return ()
  | path :: inner => do
    match ← lift (Host.makeDirectory path) with
    | .ok () => makeEach inner
    | .error e =>
      if e == .exists && (← lift (Host.kind? path)) == some .directory then makeEach inner
      else throw e

/-- Makes a directory with all that leads to it. -/
def makeDirectories (path : String) : ExceptT OsError m Unit := do
  if !path.isEmpty then
    makeEach (← makeNearest [] (path :: Path.ancestors path))

/-! ## Files -/

/-- A file and where it goes. -/
structure Planned where
  path : String
  input : String
  file : SourceFile

/-- Every file of a batch, with the input it comes from. -/
def batch (outputs : List Output) : List (String × SourceFile) :=
  outputs.flatMap fun output => output.files.map fun file => (output.input, file)

/-- The first planned file for the same path. -/
def clash? (planned : List Planned) (path : String) : Option Planned :=
  planned.find? fun p => Path.components p.path == Path.components path

/-- Plans the rest of a batch. -/
def plan (directory : String) (force : Bool) (planned : List Planned) :
    List (String × SourceFile) → ExceptT Failure m (List Planned)
  | [] => return planned
  | (input, file) :: rest => do
    let path := Path.join directory file.fileName
    if let some other := clash? planned path then
      throw (Cause.sameFile other.input input path).alone
    if !force && (← lift (Host.kind? path)).isSome then
      throw (Cause.fileExists path).alone
    plan directory force (planned ++ [⟨path, input, file⟩]) rest

/-- How a file that could not be written is reported. -/
def writeFailure (path : String) : WriteError → Failure
  | .opening .exists => (Cause.fileExists path).alone
  | .opening e => (Cause.os e).alone.during (.opening path)
  | .writing e => (Cause.os e).alone.during (.writing path)

/-- Writes planned files and reports each. -/
def writePlanned (colour force : Bool) : List Planned → ExceptT Failure m (List String)
  | [] => return []
  | p :: rest => do
    let mode := if force then WriteMode.overwrite else .createNew
    match ← lift (Host.write mode p.path p.file.text) with
    | .error e => throw (writeFailure p.path e)
    | .ok () =>
      lift (Host.report (green colour "Wrote out file" ++ " " ++ p.path ++ "\n"))
      return p.path :: (← writePlanned colour force rest)

/-- Writes every file of a batch into a directory, and returns their paths. -/
def writeOutputs (colour force : Bool) (directory : String) (outputs : List Output) :
    ExceptT Failure m (List String) := do
  let planned ← plan directory force [] (batch outputs)
  match ← lift (makeDirectories directory).run with
  | .error e => throw ((Cause.os e).alone.during (.creatingDirectory directory))
  | .ok () => writePlanned colour force planned

/-- Writes files that come from no input in particular. -/
def writeFiles (colour force : Bool) (directory : String) (files : List SourceFile) :
    ExceptT Failure m (List String) :=
  writeOutputs colour force directory [⟨"", files⟩]

end Recast.Command
