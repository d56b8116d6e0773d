import Recast.Json.Value
import Recast.Schema.DataType

/-!
# What kind of value a document holds

`null` carries no structure and passes for a string. A number is an integer exactly if it was read
as one. An array is judged by its first element alone.
-/

namespace Recast

/-- The scalar type of a number. -/
def Json.Number.scalar : Json.Number → Scalar
  | .integer _ => .integer
  | .float => .float

inductive Kind
  | scalar (kind : Scalar)
  /-- An array whose first element is of a kind. -/
  | array (first : Kind)
  | emptyArray
  | object (fields : List (String × Json))

/-- Every value has a kind. -/
def Json.kind : Json → Kind
  | .null => .scalar .string
  | .boolean _ => .scalar .boolean
  | .number n => .scalar n.scalar
  | .string _ => .scalar .string
  | .array [] => .emptyArray
  | .array (first :: _) => .array first.kind
  | .object fields => .object fields

/-- A value as messages call it. -/
def Json.noun : Json → String
  | .null => "null"
  | .boolean _ => "a boolean"
  | .number _ => "a number"
  | .string _ => "a string"
  | .array [] => "an empty array"
  | .array (_ :: _) => "an array"
  | .object _ => "an object"

end Recast
