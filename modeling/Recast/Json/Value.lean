/-!
# JSON values

What the generator needs to know of a document: its structure, its keys in order, and for a number
only whether it is an integer. A floating-point number therefore carries no value.
-/

namespace Recast

inductive Json.Number
  | integer (value : Int)
  | float
  deriving DecidableEq, Repr

inductive Json
  | null
  | boolean (value : Bool)
  | number (value : Json.Number)
  | string (value : String)
  | array (items : List Json)
  | object (fields : List (String × Json))
  deriving BEq, Repr, Inhabited

namespace Json

/-- The fields of an object, with one key set. A key that is there already keeps its place. -/
def setField (key : String) (value : Json) : List (String × Json) → List (String × Json)
  | [] => [(key, value)]
  | (k, v) :: fields =>
    if k = key then (k, value) :: fields else (k, v) :: setField key value fields

/-- The value under a key. -/
def field? (key : String) : List (String × Json) → Option Json
  | [] => none
  | (k, v) :: fields => if k = key then some v else field? key fields

end Json

end Recast
