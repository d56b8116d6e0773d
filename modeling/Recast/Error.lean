import Recast.Json.Decode
import Recast.Language
import Recast.Schema.Kind
import Recast.SourceFormat
import Recast.Text.Visible

/-!
# Why nothing was generated

Every cause ends the whole generation; there is no partial result beside an error.
-/

namespace Recast

/-- What was found where a class should have been. -/
inductive UnsuitableRoot
  /-- A document that is neither an object nor an array with elements. -/
  | value (document : Json)
  /-- An array whose first element is not an object. -/
  | arrayOfOthers

def UnsuitableRoot.noun : UnsuitableRoot → String
  | value document => document.noun
  | arrayOfOthers => "an array whose first element is not an object"

inductive GenerationError
  | unknownLanguage (typed : String)
  | unknownFormat (typed : String)
  | malformed (reason : Json.Malformed)
  | unsuitableRoot (found : UnsuitableRoot)
  /-- The root object has no keys. -/
  | emptySchema
  /-- An array without elements shows no element type. -/
  | emptyArray (path : String)
  /-- A key without any letter or digit. -/
  | invalidName (key path : String)
  /-- Two classes, first met at these paths, want the same file. -/
  | duplicateFile (fileName first second : String)

namespace GenerationError

def message : GenerationError → String
  | unknownLanguage typed =>
    "cannot generate language `" ++ typed ++ "`; can only generate " ++ Language.listing
  | unknownFormat typed =>
    "cannot parse input format `" ++ typed ++ "`; can only parse " ++ SourceFormat.listing
  | malformed reason =>
    "malformed source document at " ++ Json.pathText reason.path ++ " (line " ++
      toString reason.line ++ ", column " ++ toString reason.column ++ "): " ++ reason.message
  | unsuitableRoot found =>
    "root value is " ++ found.noun ++ "; expected a non-empty object or an array of objects"
  | emptySchema => "input object was empty; there is no schema to infer"
  | emptyArray path => "cannot infer element type of an empty array at " ++ path
  | invalidName key path => "invalid name " ++ Text.visible key ++ " at " ++ path
  | duplicateFile fileName first second =>
    "duplicate class file name `" ++ fileName ++ "`: produced by both `" ++ first ++ "` and `" ++
      second ++ "`"

end GenerationError

/-! ## Choosing by name -/

/-- The language that a typed word names. -/
def Language.ofText (typed : String) : Except GenerationError Language :=
  match Language.ofText? typed with
  | some language => .ok language
  | none => .error (.unknownLanguage typed)

/-- The format that a typed word names. -/
def SourceFormat.ofText (typed : String) : Except GenerationError SourceFormat :=
  match SourceFormat.ofText? typed with
  | some format => .ok format
  | none => .error (.unknownFormat typed)

/-- Reads a document in a format. -/
def SourceFormat.decode (format : SourceFormat) (text : String) : Except GenerationError Json :=
  match format with
  | .json => (Json.decode text).mapError .malformed

end Recast
