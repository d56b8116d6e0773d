import Recast.Schema.DataType

/-!
# Schemas

A schema is a list of classes. A class is known by its number, which is its position; the root comes
first, and every other class comes after the class that mentions it.
-/

namespace Recast

structure Attribute where
  /-- The key, as the document has it. -/
  key : String
  type : DataType ClassId
  deriving DecidableEq, Repr

structure ClassShape where
  id : ClassId
  /-- The key that the object was found under, or the name given to the root. -/
  key : String
  /-- The written key path of the object. -/
  path : String
  /-- In the order of the document. -/
  attributes : List Attribute
  deriving DecidableEq, Repr

structure Schema where
  classes : List ClassShape
  deriving DecidableEq, Repr

namespace Schema

def root? (schema : Schema) : Option ClassShape :=
  schema.classes.head?

def get? (schema : Schema) (id : ClassId) : Option ClassShape :=
  schema.classes[id]?

def size (schema : Schema) : Nat :=
  schema.classes.length

end Schema

end Recast
