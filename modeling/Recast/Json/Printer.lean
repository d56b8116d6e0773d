import Recast.Json.Value
import Recast.Json.Quoted

/-!
# Printed JSON

Values are laid out over several lines, two spaces to a level, a line for each element or field;
an empty array or object stays on its line. A floating-point number is written by one representative,
since its value is not kept, so that reading the text gives the value back.
-/

namespace Recast.Json

/-- The white space in front of a line at a level. -/
def margin (level : Nat) : String :=
  String.ofList (List.replicate (2 * level) ' ')

/-- Lines between two brackets, each one level further in than the brackets. -/
def block (opening closing : String) (level : Nat) (lines : List String) : String :=
  if lines.isEmpty then opening ++ closing
  else
    opening ++ "\n" ++ ",\n".intercalate (lines.map (margin (level + 1) ++ ·)) ++ "\n" ++
      margin level ++ closing

def Number.text : Number → String
  | .integer value => toString value
  | .float => "0.0"

mutual

/-- A value as it is printed at a level. -/
def printAt (level : Nat) : Json → String
  | .null => "null"
  | .boolean value => if value then "true" else "false"
  | .number value => Number.text value
  | .string value => quoted value
  | .array items => block "[" "]" level (printItems (level + 1) items)
  | .object fields => block "\x7b" "\x7d" level (printFields (level + 1) fields)

def printItems (level : Nat) : List Json → List String
  | [] => []
  | item :: items => printAt level item :: printItems level items

def printFields (level : Nat) : List (String × Json) → List String
  | [] => []
  | (key, value) :: fields =>
    (quoted key ++ ": " ++ printAt level value) :: printFields level fields

end

/-- A whole document. -/
def print (value : Json) : String :=
  printAt 0 value

end Recast.Json
