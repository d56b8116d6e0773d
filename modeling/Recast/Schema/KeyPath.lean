import Recast.Json.Quoted
import Recast.Unicode.Property

/-!
# Key paths

A key path leads from the root of a document through keys and first elements to a value. It is
written from `$`; a key of letters, digits and underscores follows a dot, any other key is put in
brackets as a JSON string.
-/

namespace Recast

inductive Step
  | key (name : String)
  | first
  deriving DecidableEq, Repr

/-- The steps from the root, in order. -/
abbrev KeyPath := List Step

namespace KeyPath

/-- A key that is written after a dot. -/
def isPlain (key : String) : Bool :=
  !key.isEmpty && key.toList.all fun c => Unicode.isAlphanumeric c || c == '_'

def stepText : Step → String
  | .key name => if isPlain name then "." ++ name else "[" ++ Json.quoted name ++ "]"
  | .first => "[0]"

/-- The written form of a path. -/
def text (path : KeyPath) : String :=
  "$" ++ String.join (path.map stepText)

end KeyPath

end Recast
