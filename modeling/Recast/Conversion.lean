import Recast.Schema.DataType

/-!
# Conversion expressions

A generated class is read from a map and written to one, field by field. What happens to a field is
the same in most languages: a scalar is taken as it is, a class is converted by its own method, and
an array of classes is converted element by element, with a loop for each level. The languages differ
in how they spell this and in how they let an absent value pass.

An expression says what happens; each language prints it.
-/

namespace Recast

/-- Reading a value into an object, or writing it out of one. -/
inductive Direction
  | decode
  | encode
  deriving DecidableEq, Repr

/-- How a value that needs no conversion is given its type. -/
inductive Ascription
  | exactly (type : DataType String)
  /-- The type with this spelling, or nothing. -/
  | orAbsent (typeName : String)
  deriving DecidableEq, Repr

inductive Conversion
  /-- The value that the map has under a key. -/
  | wire (key : String)
  /-- The value that the object has for a field. -/
  | stored (ident : String)
  /-- The element that the loop at a depth has reached. -/
  | element (depth : Nat)
  | ascribe (ascription : Ascription) (value : Conversion)
  /-- An object of a class, read from a map. -/
  | decode (className : String) (value : Conversion)
  /-- The map written by an object, which may be absent if `optional`. -/
  | encode (optional : Bool) (value : Conversion)
  /-- The body for each element of a list, which may be absent if `optional`. -/
  | each (direction : Direction) (optional : Bool) (depth : Nat) (list body : Conversion)
  /-- Nothing if the subject is absent, and the body otherwise. -/
  | ifPresent (subject body : Conversion)
  deriving DecidableEq, Repr

namespace Conversion

/-- The name of the variable of the loop at a depth. -/
def loopVariable (depth : Nat) : String :=
  "e" ++ toString depth

/-- Reads a value of a type at a depth. A leaf is a value that needs no conversion, and `enters` says
of the element type of an array whether the array is gone through. -/
def decodeAt (enters : DataType String → Bool) (leaf : DataType String → Conversion → Conversion) :
    DataType String → Nat → Conversion → Conversion
  | .ref className, _, value => .decode className value
  | .array item, depth, value =>
    if enters item then
      .each .decode false depth value (decodeAt enters leaf item (depth + 1) (.element depth))
    else leaf (.array item) value
  | type, _, value => leaf type value

/-- Writes a value of a type at a depth. An array is gone through if its elements carry a class. -/
def encodeAt : DataType String → Nat → Conversion → Conversion
  | .ref _, _, value => .encode false value
  | .array item, depth, value =>
    if item.carriesClass then
      .each .encode false depth value (encodeAt item (depth + 1) (.element depth))
    else value
  | _, _, value => value

/-- Lets an absent value pass through the outermost step. -/
def passAbsent : Conversion → Conversion
  | .decode className value => .ifPresent value (.decode className value)
  | .encode _ value => .encode true value
  | .each direction _ depth list body => .each direction true depth list body
  | value => value

/-- Does converting a field of a type take more than passing its value on? A map is never gone
through. -/
def converts (type : DataType String) : Bool :=
  type.carriesClass && !type.isMap

/-- Writes a field and lets absence pass by a test in front. -/
def encodeGuarded (type : DataType String) (value : Conversion) : Conversion :=
  if converts type then .ifPresent value (encodeAt type 0 value) else value

/-- Writes a field and lets absence pass through the outermost step. -/
def encodeOptional (type : DataType String) (value : Conversion) : Conversion :=
  passAbsent (encodeAt type 0 value)

end Conversion

end Recast
