import Recast.Schema.Infer
import Recast.Template

/-!
# Generation

A document is read, its schema is inferred, the names of all classes are settled, and then each class
is rendered into a file of its own, the root first. The whole run either gives every file or an error.
-/

namespace Recast

open Traced (report ofExcept)

/-- One generated file. -/
structure SourceFile where
  /-- The class that the file declares. -/
  className : String
  fileName : String
  text : String
  /-- The key path of the object that the class was inferred from. -/
  origin : String
  deriving DecidableEq, Repr

/-- What a generation is asked for. -/
structure Request where
  target : Language
  source : SourceFormat := .json
  /-- Number the files that want the same name, instead of refusing them. -/
  lenient : Bool := true
  /-- The name of the root class, if not the default one. -/
  rootName : Option String := none

namespace Request

/-- The key that the root class is named after: the given name as it is, or one made from the source
format in the case that the target language likes. -/
def topLevelName (request : Request) : Except GenerationError String :=
  match request.rootName with
  | some name => .ok name
  | none =>
    let key := "generated_from_" ++ request.source.id
    match request.target.conventions.rootCase.nameOf? key with
    | some name => .ok name
    | none => .error (.invalidName key "")

end Request

/-! ## Files -/

/-- The file of one class. -/
def SourceFile.ofShape (language : Language) (table : NameTable) (shape : ClassShape) :
    Traced SourceFile := do
  let view ← ofExcept (ClassView.ofShape language.conventions table shape)
  report (.emittedClass view.className view.fileName view.fields.length)
  return ⟨view.className, view.fileName, language.render view, view.path⟩

/-- The files of classes, one each and in the same order. -/
def emit (language : Language) (table : NameTable) : List ClassShape → Traced (List SourceFile)
  | [] => pure []
  | shape :: shapes => do
    let file ← SourceFile.ofShape language table shape
    let files ← emit language table shapes
    return file :: files

/-! ## The whole run -/

namespace Request

/-- Generates from a document that has been read. -/
def generateFrom (request : Request) (document : Json) : Traced (List SourceFile) := do
  let name ← ofExcept request.topLevelName
  let schema ← Schema.infer document name
  let table ← NameTable.resolve schema request.target.conventions request.lenient
  let files ← emit request.target table schema.classes
  report (.generated request.target name files.length)
  return files

/-- Generates from a text. -/
def generate (request : Request) (text : String) : Traced (List SourceFile) := do
  let document ← ofExcept (request.source.decode text)
  request.generateFrom document

end Request

end Recast
