/-!
# Data types

The types that a document shows, over references of any kind: inside a schema a reference is the
number of a class, in generated code it is the class's name. Passing from one to the other replaces
the references and nothing else.
-/

namespace Recast

/-- Types without parts. -/
inductive Scalar
  | boolean
  | integer
  | float
  | string
  deriving DecidableEq, Repr

def Scalar.name : Scalar → String
  | boolean => "boolean"
  | integer => "integer"
  | float => "float"
  | string => "string"

inductive DataType (ρ : Type)
  | scalar (kind : Scalar)
  | ref (target : ρ)
  | array (item : DataType ρ)
  /-- Never inferred, since objects become classes, but every language can spell it. -/
  | map (key value : DataType ρ)
  deriving DecidableEq, Repr

namespace DataType

variable {ρ σ : Type}

/-- Replaces every reference. -/
def mapRefs (f : ρ → σ) : DataType ρ → DataType σ
  | scalar kind => scalar kind
  | ref target => ref (f target)
  | array item => array (item.mapRefs f)
  | map key value => map (key.mapRefs f) (value.mapRefs f)

/-- The references of a type, from left to right. -/
def refs : DataType ρ → List ρ
  | scalar _ => []
  | ref target => [target]
  | array item => item.refs
  | map key value => key.refs ++ value.refs

/-- Does converting a value of this type involve a generated class? -/
def carriesClass : DataType ρ → Bool
  | scalar _ => false
  | ref _ => true
  | array item => item.carriesClass
  | map key value => key.carriesClass || value.carriesClass

def isArray : DataType ρ → Bool
  | array _ => true
  | _ => false

def isMap : DataType ρ → Bool
  | map _ _ => true
  | _ => false

/-- The types of what a container holds, in order. -/
def parts : DataType ρ → List (DataType ρ)
  | array item => [item]
  | map key value => [key, value]
  | _ => []

theorem carriesClass_eq (t : DataType ρ) : t.carriesClass = !t.refs.isEmpty := by
  induction t with
  | scalar _ => rfl
  | ref _ => rfl
  | array item ih => simpa [carriesClass, refs] using ih
  | map key value ihk ihv => cases h : key.refs <;> simp [carriesClass, refs, ihk, ihv, h]

theorem refs_mapRefs (f : ρ → σ) (t : DataType ρ) : (t.mapRefs f).refs = t.refs.map f := by
  induction t with
  | scalar _ => rfl
  | ref _ => rfl
  | array item ih => simpa [mapRefs, refs] using ih
  | map key value ihk ihv => simp [mapRefs, refs, ihk, ihv]

end DataType

/-- The number of a class in its schema. -/
abbrev ClassId := Nat

/-- The short written form of a type over class numbers. -/
def DataType.text : DataType ClassId → String
  | scalar kind => kind.name
  | ref target => "class#" ++ toString target
  | array item => "array<" ++ item.text ++ ">"
  | map key value => "map<" ++ key.text ++ ", " ++ value.text ++ ">"

end Recast
