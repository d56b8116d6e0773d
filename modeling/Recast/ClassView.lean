import Recast.NameTable

/-!
# Classes ready to be rendered

A view holds all that the templates need of one class: every reference is the name of the class it
refers to, every type is spelled, and every field has an identifier of its own. Keys that come out
alike in the case of the language are numbered from two on.
-/

namespace Recast

structure FieldView where
  /-- The key, as the document has it. -/
  key : String
  ident : String
  /-- The identifier with its first character raised. -/
  accessor : String
  typeName : String
  type : DataType String
  /-- Does the identifier differ from the key? -/
  renamed : Bool
  deriving DecidableEq, Repr

/-- A class that a file imports. -/
structure Dependency where
  className : String
  module : String
  deriving DecidableEq, Repr

structure ClassView where
  className : String
  fileName : String
  /-- The written key path of the object. -/
  path : String
  fields : List FieldView
  /-- The classes that the fields refer to, each once, in the order of their first mention. -/
  dependencies : List Dependency
  deriving DecidableEq, Repr

namespace ClassView

def hasArrays (view : ClassView) : Bool :=
  view.fields.any (·.type.isArray)

def hasRenames (view : ClassView) : Bool :=
  view.fields.any (·.renamed)

/-! ## From a shape to its view -/

/-- An identifier that is not taken: the name itself, or the name with the least free number from
two on. -/
def freeIdent (taken : List String) (name : String) : String :=
  if taken.contains name then
    Name.numbered name (Name.leastFree (fun n => taken.contains (Name.numbered name n)) taken.length 2)
  else name

def fieldView (conventions : Conventions) (table : NameTable) (ident : String)
    (attr : Attribute) : FieldView :=
  let type := attr.type.mapRefs fun id => (table.get id).className
  { key := attr.key
    ident := ident
    accessor := String.ofList (Name.raiseFirst ident.toList)
    typeName := conventions.typeName type
    type := type
    renamed := ident != attr.key }

/-- The views of the remaining attributes of a class at a path. -/
def fieldViews (conventions : Conventions) (table : NameTable) (path : String)
    (taken : List String) : List Attribute → Except GenerationError (List FieldView)
  | [] => .ok []
  | attr :: attrs =>
    match Name.fieldName? conventions attr.key with
    | none => .error (.invalidName attr.key (path ++ " -> " ++ attr.key))
    | some name =>
      let ident := freeIdent taken name
      (fieldViews conventions table path (ident :: taken) attrs).map
        (fieldView conventions table ident attr :: ·)

/-- The classes that attributes refer to, each once. -/
def mentioned (attributes : List Attribute) : List ClassId :=
  (attributes.flatMap (·.type.refs)).eraseDups

/-- The view of a class. -/
def ofShape (conventions : Conventions) (table : NameTable) (shape : ClassShape) :
    Except GenerationError ClassView :=
  (fieldViews conventions table shape.path [] shape.attributes).map fun fields =>
    { className := (table.get shape.id).className
      fileName := (table.get shape.id).fileName
      path := shape.path
      fields := fields
      dependencies := (mentioned shape.attributes).map fun id =>
        ⟨(table.get id).className, (table.get id).module⟩ }

end ClassView

end Recast
