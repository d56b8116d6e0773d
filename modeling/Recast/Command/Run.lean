import Recast.Command.Arguments
import Recast.Command.Write
import Recast.Glob.Expand
import Recast.Json.Pointer

/-!
# Running a command

Every input is read and generated from before anything is written or printed, so a fault in any input
leaves no trace of the others but in the log.
-/

namespace Recast.Command

open ExceptT (lift)

variable {m : Type → Type} [Monad m] [Host m]

/-! ## Inputs -/

/-- The paths that one input stands for: those that match it if it is a pattern, and itself
otherwise. -/
def inputPaths (input : String) : ExceptT Failure m (List String) := do
  if Glob.isPattern input then
    match ← lift (Glob.matching input) with
    | .error e => throw ((Cause.badPattern e).alone.during (.readingPattern input))
    | .ok [] => throw (Cause.noMatch input).alone
    | .ok paths => return paths
  else return [input]

/-- The format of an input: the one that was asked for, or the one that its extension names. -/
def formatOf (options : Options) (path : String) : Except GenerationError SourceFormat :=
  match options.format, Path.extension? path with
  | some format, _ => .ok format
  | none, some ext => SourceFormat.ofText ext
  | none, none => .ok .json

/-- The name of the root class for an input. One of several inputs lends its stem, so that the roots
do not clash. -/
def rootNameOf (options : Options) (several : Bool) (path : String) : Option String :=
  match options.rootName with
  | some name => some name
  | none => if several then Path.stem? path else none

/-- The generation that is asked for of an input. -/
def requestFor (options : Options) (several : Bool) (path : String) :
    Except GenerationError Request := do
  let format ← formatOf options path
  return {
    target := options.language
    source := format
    lenient := !options.strict
    rootName := rootNameOf options several path }

/-- The part of a document that is generated from. -/
def selectNode (options : Options) (document : Json) : Except Cause Json :=
  match options.jsonPointer with
  | none => .ok document
  | some pointer =>
    match document.pointer? pointer with
    | some node => .ok node
    | none => .error (.nothingSelected pointer)

/-- The text of an input. -/
def readSource (path : String) : ExceptT Failure m String := do
  match ← lift (Host.read path) with
  | .error e => throw ((Cause.os e).alone.during .readingSource)
  | .ok bytes =>
    match String.fromUTF8? bytes with
    | some text => return text
    | none => throw (Cause.notUnicode.alone.during .readingSource)

/-- A result of the library as a step of a command. -/
def orCause {ε α : Type} (cause : ε → Cause) : Except ε α → ExceptT Failure m α
  | .ok a => return a
  | .error e => throw (cause e).alone

/-- The files of one input. The events of a generation are logged whether it succeeds or not. -/
def generateOne (options : Options) (several : Bool) (path : String) :
    ExceptT Failure m (List SourceFile) := do
  let request ← orCause .generation (requestFor options several path)
  let text ← readSource path
  let document ← orCause .generation (request.source.decode text)
  let node ← orCause id (selectNode options document)
  let generation := request.generateFrom node
  lift (Host.log generation.events)
  orCause .generation generation.outcome

/-- The files of every input, in order. -/
def generateEach (options : Options) (several : Bool) :
    List String → ExceptT Failure m (List Output)
  | [] => return []
  | path :: paths => do
    match ← lift (generateOne options several path).run with
    | .error failure => throw (failure.during (.generating path))
    | .ok files => return ⟨path, files⟩ :: (← generateEach options several paths)

def generateAll (options : Options) : ExceptT Failure m (List Output) := do
  let paths ← options.inputs.flatMapM inputPaths
  generateEach options (1 < paths.length) paths

/-! ## Tasks -/

/-- A text filled up with spaces behind it. -/
def padded (width : Nat) (text : String) : String :=
  text ++ String.ofList (List.replicate (width - text.length) ' ')

def languageLine (language : Language) : String :=
  padded 12 language.id ++ " " ++ padded 7 language.conventions.extension ++ " " ++
    ", ".intercalate language.aliases ++ "\n"

/-- What is said after files have been written. -/
def reviewHint : String :=
  "Review the generated class names and field types before using them."

/-- Generates, and writes or prints the files. -/
def runGenerate (colour : Bool) (options : Options) : ExceptT Failure m Unit := do
  let outputs ← generateAll options
  match options.outDir, options.dryRun with
  | some directory, false =>
    let _ ← writeOutputs colour options.force directory outputs
    lift (Host.report (yellow colour reviewHint ++ "\n"))
  | _, _ =>
    if options.json then lift (Host.print (printListing outputs))
    else lift (Host.print (String.join (outputs.map fun output => printFiles output.files)))

/-- Runs a task. -/
def run (colour : Bool) : Task → ExceptT Failure m Unit
  | .languages => lift (Host.print (String.join (Language.all.map languageLine)))
  | .generate options => runGenerate colour options

end Recast.Command
