import Recast.Language
import Recast.SourceFormat

/-!
# The command line

A command line is a word for what to do, among switches. A switch is written `--name` or by a letter;
letters may be written together behind one hyphen. A switch that takes a value takes it from behind
an equals sign, from the rest of its bundle, or from the next argument, as long as that does not
begin with a hyphen; `--input` takes all of the next arguments that do not.

Values that stand in arguments of their own are only looked at when the next switch or the end of the
line shows that they are complete. So of two faults, the one in such a value may come out second.
-/

namespace Recast.Command

/-- Why a command line asks for nothing that can be run. Asking for help is one of the reasons. -/
inductive UsageError
  | displayHelp
  | displayVersion
  /-- Nothing was asked for at all. -/
  | nothingAsked
  | missingCommand
  | invalidCommand
  | unknownArgument
  | missingRequired
  /-- A switch without its value, or with one that it can never have. -/
  | invalidValue
  /-- A value that names nothing known. -/
  | unknownValue
  /-- A switch given twice that may be given once. -/
  | givenTwice
  /-- A value for a switch that takes none. -/
  | needlessValue
  deriving DecidableEq, Repr

/-! ## Switches -/

inductive Switch
  | help
  | version
  | verbose
  | strict
  | force
  | dryRun
  | json
  | input
  | language
  | outDir
  | format
  | jsonPointer
  | rootName
  deriving DecidableEq, Repr

namespace Switch

def takesValue : Switch → Bool
  | input | language | outDir | format | jsonPointer | rootName => true
  | _ => false

def name : Switch → String
  | help => "help"
  | version => "version"
  | verbose => "verbose"
  | strict => "strict"
  | force => "force"
  | dryRun => "dry-run"
  | json => "json"
  | input => "input"
  | language => "lang"
  | outDir => "out-dir"
  | format => "format"
  | jsonPointer => "json-pointer"
  | rootName => "root-name"

def letter? : Switch → Option Char
  | help => some 'h'
  | version => some 'V'
  | verbose => some 'v'
  | input => some 'i'
  | language => some 'l'
  | outDir => some 'o'
  | _ => none

end Switch

/-- Where on the command line an argument stands: before the word for what to do, or behind it. -/
inductive Level
  | top
  | generate
  | languages
  deriving DecidableEq, Repr

/-- The switches known at a level. -/
def Level.switches : Level → List Switch
  | top => [.help, .version, .verbose]
  | generate =>
    [.help, .verbose, .strict, .force, .dryRun, .json, .input, .language, .outDir, .format,
      .jsonPointer, .rootName]
  | languages => [.help, .verbose]

/-! ## What has been read -/

/-- What the switches of a command line say. -/
structure Settings where
  verbose : Nat := 0
  inputs : List String := []
  language : Option Language := none
  outDir : Option String := none
  format : Option SourceFormat := none
  jsonPointer : Option String := none
  rootName : Option String := none
  strict : Bool := false
  force : Bool := false
  dryRun : Bool := false
  json : Bool := false

/-- The most that repeated `-v` count for. -/
def verboseLimit : Nat := 255

/-- The settings, and the switch that still collects values. -/
structure Draft where
  settings : Settings := {}
  open? : Option (Switch × List String) := none

namespace Settings

/-- A value that may be set once. -/
def once {α : Type} (old : Option α) (new : Except UsageError α) : Except UsageError (Option α) :=
  if old.isSome then .error .givenTwice else new.map some

def raised (old : Bool) : Except UsageError Bool :=
  if old then .error .givenTwice else .ok true

/-- A value that must name something known. -/
def known {α : Type} (value : Option α) : Except UsageError α :=
  match value with
  | some a => .ok a
  | none => .error .unknownValue

/-- A path that is written out. -/
def nonempty (path : String) : Except UsageError String :=
  if path.isEmpty then .error .invalidValue else .ok path

/-- Takes a switch without a value. -/
def raise (s : Settings) : Switch → Except UsageError Settings
  | .help => .error .displayHelp
  | .version => .error .displayVersion
  | .verbose => .ok { s with verbose := min (s.verbose + 1) verboseLimit }
  | .strict => return { s with strict := ← raised s.strict }
  | .force => return { s with force := ← raised s.force }
  | .dryRun => return { s with dryRun := ← raised s.dryRun }
  | .json => return { s with json := ← raised s.json }
  | _ => .error .invalidValue

/-- Takes a switch with its value, the first of `values` where there is but one. -/
def assign (s : Settings) (switch : Switch) (values : List String) : Except UsageError Settings :=
  match values with
  | [] => .error .invalidValue
  | value :: _ =>
    match switch with
    | .input => .ok { s with inputs := s.inputs ++ values }
    | .language => return { s with language := ← once s.language (known (Language.ofText? value)) }
    | .outDir => return { s with outDir := ← once s.outDir (nonempty value) }
    | .format => return { s with format := ← once s.format (known (SourceFormat.ofText? value)) }
    | .jsonPointer => return { s with jsonPointer := ← once s.jsonPointer (.ok value) }
    | .rootName => return { s with rootName := ← once s.rootName (.ok value) }
    | _ => .error .needlessValue

end Settings

namespace Draft

/-- Takes the values that have been collected. -/
def close (draft : Draft) : Except UsageError Draft :=
  match draft.open? with
  | none => .ok draft
  | some (switch, values) => return ⟨← draft.settings.assign switch values, none⟩

/-- A switch without a value. -/
def raise (draft : Draft) (switch : Switch) : Except UsageError Draft := do
  let draft ← draft.close
  return { draft with settings := ← draft.settings.raise switch }

/-- A switch with the value attached to it. -/
def assign (draft : Draft) (switch : Switch) (value : String) : Except UsageError Draft := do
  let draft ← draft.close
  return { draft with settings := ← draft.settings.assign switch [value] }

/-- A switch whose values follow. -/
def await (draft : Draft) (switch : Switch) : Except UsageError Draft := do
  let draft ← draft.close
  return { draft with open? := some (switch, []) }

/-- Does the next plain argument belong to a switch? -/
def wantsValue (draft : Draft) : Bool :=
  match draft.open? with
  | some (switch, values) => values.isEmpty || switch == .input
  | none => false

/-- One more value for the switch that collects them. -/
def collect (draft : Draft) (value : String) : Draft :=
  { draft with open? := draft.open?.map fun (switch, values) => (switch, values ++ [value]) }

end Draft

/-! ## Reading arguments -/

/-- A switch by its name, with the text behind an equals sign if there is one. -/
def readNamed (level : Level) (argument : List Char) (draft : Draft) : Except UsageError Draft :=
  let name := argument.takeWhile (· != '=')
  let attached := argument.dropWhile (· != '=')
  match level.switches.find? fun s => s.name.toList == name with
  | none => .error .unknownArgument
  | some switch =>
    match attached with
    | [] => if switch.takesValue then draft.await switch else draft.raise switch
    | _ :: value =>
      if switch.takesValue then draft.assign switch (String.ofList value)
      else .error .needlessValue

/-- A bundle of letters. The first that takes a value takes the rest of the bundle for it, without
an equals sign in front. -/
def readLetters (level : Level) : List Char → Draft → Except UsageError Draft
  | [], draft => .ok draft
  | c :: rest, draft =>
    match level.switches.find? fun s => s.letter? == some c with
    | none => .error .unknownArgument
    | some switch =>
      if !switch.takesValue then do readLetters level rest (← draft.raise switch)
      else
        match rest with
        | [] => draft.await switch
        | '=' :: value => draft.assign switch (String.ofList value)
        | value => draft.assign switch (String.ofList value)

/-- Reads an argument that begins with a hyphen and is neither `-` nor `--`; `none` for any other. -/
def readSwitch? (level : Level) (argument : String) (draft : Draft) :
    Option (Except UsageError Draft) :=
  match argument.toList with
  | '-' :: '-' :: name => some (readNamed level name draft)
  | '-' :: c :: letters => some (readLetters level (c :: letters) draft)
  | _ => none

/-- The arguments behind the word for what to do. Nothing may follow `--`. -/
def readRest (level : Level) : Draft → List String → Except UsageError Settings
  | draft, [] => return (← draft.close).settings
  | draft, argument :: arguments =>
    if argument = "--" then
      if arguments.isEmpty then return (← draft.close).settings else .error .unknownArgument
    else
      match readSwitch? level argument draft with
      | some result => do readRest level (← result) arguments
      | none =>
        if draft.wantsValue then readRest level (draft.collect argument) arguments
        else .error .unknownArgument

/-! ## What is asked for -/

/-- What a generation on the command line is asked for. -/
structure Options where
  inputs : List String
  language : Language
  outDir : Option String
  format : Option SourceFormat
  jsonPointer : Option String
  rootName : Option String
  strict : Bool
  force : Bool
  dryRun : Bool
  json : Bool

inductive Task
  | languages
  | generate (options : Options)

/-- A command line that has been understood. -/
structure Invocation where
  verbose : Nat
  task : Task

/-- The words for what to do. -/
def taskWords : List String := ["generate", "languages", "help"]

/-- The options of a generation; inputs and a language are required. -/
def Settings.options (s : Settings) : Except UsageError Options :=
  match s.language with
  | none => .error .missingRequired
  | some language =>
    if s.inputs.isEmpty then .error .missingRequired
    else .ok ⟨s.inputs, language, s.outDir, s.format, s.jsonPointer, s.rootName, s.strict, s.force,
      s.dryRun, s.json⟩

/-- What `help` asks for, given what follows it. -/
def helpAnswer : List String → UsageError
  | [] => .displayHelp
  | [word] => if taskWords.contains word then .displayHelp else .invalidCommand
  | _ => .invalidCommand

/-- How often `-v` was given: behind the word for what to do if at all there. -/
def verbosity (before behind : Settings) : Nat :=
  if behind.verbose = 0 then before.verbose else behind.verbose

/-- The end of a command line without a word for what to do. -/
def endWithoutTask (s : Settings) : UsageError :=
  if s.verbose = 0 then .nothingAsked else .missingCommand

/-- Reads a command line, without the name of the program. -/
def readFrom (draft : Draft) : List String → Except UsageError Invocation
  | [] => .error (endWithoutTask draft.settings)
  | argument :: arguments =>
    if argument = "generate" then do
      let settings ← readRest .generate {} arguments
      return ⟨verbosity draft.settings settings, .generate (← settings.options)⟩
    else if argument = "languages" then do
      let settings ← readRest .languages {} arguments
      return ⟨verbosity draft.settings settings, .languages⟩
    else if argument = "help" then .error (helpAnswer arguments)
    else if argument = "--" then
      match arguments with
      | [] => .error (endWithoutTask draft.settings)
      | word :: _ =>
        .error (if taskWords.contains word then .unknownArgument else .invalidCommand)
    else
      match readSwitch? .top argument draft with
      | some result => do readFrom (← result) arguments
      | none => .error .invalidCommand

def Invocation.parse (arguments : List String) : Except UsageError Invocation :=
  readFrom {} arguments

end Recast.Command
