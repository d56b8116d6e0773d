import Recast.Name.Role
import Recast.Name.Suffix
import Recast.Schema.Basic
import Recast.Traced

/-!
# The names of the classes of a schema

Two objects under one key become two classes of one name. The names of all classes are settled
before anything is rendered, so that a class is declared, imported, referenced and stored under the
same name. The class met first keeps its plain name. A later class whose file is taken either takes
a number, or, in strict mode, is an error.
-/

namespace Recast

open Traced (report fail)

/-- The names of one class. -/
structure ClassNames where
  className : String
  /-- What other files import the class from. -/
  module : String
  fileName : String
  deriving DecidableEq, Repr, Inhabited

namespace ClassNames

/-- The names a class has if no file is in its way. -/
def plain? (conventions : Conventions) (key : String) : Option ClassNames := do
  let className ← Name.className? conventions key
  let module := Name.moduleOf conventions className
  return ⟨className, module, module ++ conventions.extension⟩

/-- The same names with a number each. -/
def numbered (conventions : Conventions) (names : ClassNames) (n : Nat) : ClassNames where
  className := Name.numbered names.className n
  module := Name.numbered names.module n
  fileName := Name.numbered names.module n ++ conventions.extension

end ClassNames

/-- The names of all classes, by number. -/
structure NameTable where
  entries : List ClassNames
  deriving DecidableEq, Repr

namespace NameTable

def get? (table : NameTable) (id : ClassId) : Option ClassNames :=
  table.entries[id]?

/-- The names of a class of the schema that the table was made for. -/
def get (table : NameTable) (id : ClassId) : ClassNames :=
  (table.get? id).getD default

/-- The files assigned so far, each with the path of the class that holds it. -/
abbrev Holders := List (String × String)

/-- The path of the class that holds a file. -/
def holder? (taken : Holders) (fileName : String) : Option String :=
  (taken.find? fun held => held.1 == fileName).map Prod.snd

/-- The first numbered names whose file is free. -/
def settle (conventions : Conventions) (taken : Holders) (plain : ClassNames) : ClassNames :=
  plain.numbered conventions <|
    Name.leastFree (fun n => (holder? taken (plain.numbered conventions n).fileName).isSome)
      taken.length 1

/-- The names of one class, after those that are taken. -/
def nameClass (conventions : Conventions) (lenient : Bool) (taken : Holders) (shape : ClassShape) :
    Traced ClassNames := do
  match ClassNames.plain? conventions shape.key with
  | none => fail (.invalidName shape.key shape.path)
  | some plain =>
    match holder? taken plain.fileName with
    | none => return plain
    | some holder =>
      if !lenient then
        fail (.duplicateFile plain.fileName holder shape.path)
      let settled := settle conventions taken plain
      report (.renamedFile plain.fileName settled.fileName shape.path holder)
      return settled

/-- The names of the remaining classes. -/
def nameClasses (conventions : Conventions) (lenient : Bool) (taken : Holders) :
    List ClassShape → Traced (List ClassNames)
  | [] => pure []
  | shape :: shapes => do
    let names ← nameClass conventions lenient taken shape
    let others ← nameClasses conventions lenient (taken ++ [(names.fileName, shape.path)]) shapes
    return names :: others

/-- The name table of a schema. -/
def resolve (schema : Schema) (conventions : Conventions) (lenient : Bool) : Traced NameTable := do
  let entries ← nameClasses conventions lenient [] schema.classes
  return ⟨entries⟩

end NameTable

end Recast
