import Recast.Name.Words
import Recast.Unicode.CaseMapping

/-!
# Names made from keys

A name is a key brought into one of five cases and then made an identifier: what is neither
alphanumeric nor an underscore becomes an underscore, and a leading ASCII digit gets one in front.
A key without any letter or digit has no name.
-/

namespace Recast.Name

open Unicode (isAlphanumeric lower lowerChar upperChar)

/-- How the words of a key are written together. -/
inductive Case
  /-- The key as it stands. -/
  | preserve
  /-- The key with its first character raised. -/
  | capitalizeFirst
  /-- Small words joined by underscores. -/
  | snake
  /-- A small word, then capitalized words. -/
  | camel
  /-- Capitalized words. -/
  | pascal
  deriving DecidableEq, Repr

/-! ## Cases -/

/-- Raises the first character. -/
def raiseFirst : List Char → List Char
  | [] => []
  | c :: rest => upperChar c ++ rest

/-- Raises the first character and lowers the others one by one. -/
def capitalize : List Char → List Char
  | [] => []
  | c :: rest => upperChar c ++ rest.flatMap lowerChar

def snakeCase (key : List Char) : List Char :=
  ['_'].intercalate ((words key).map lower)

def pascalCase (key : List Char) : List Char :=
  (words key).flatMap capitalize

def camelCase (key : List Char) : List Char :=
  match words key with
  | [] => []
  | first :: others => lower first ++ others.flatMap capitalize

/-! ## Identifiers -/

def identifierChar (c : Char) : Char :=
  if isAlphanumeric c || c == '_' then c else '_'

/-- The identifier nearest to a text. -/
def identifier (text : List Char) : List Char :=
  match text.map identifierChar with
  | [] => []
  | c :: rest => if c.isDigit then '_' :: c :: rest else c :: rest

/-- A key has a name if it holds a letter or digit. -/
def usable (key : String) : Bool :=
  key.toList.any isAlphanumeric

/-- A key in one of the cases, before it is made an identifier. -/
def Case.write (case : Case) (key : List Char) : List Char :=
  match case with
  | .preserve => key
  | .capitalizeFirst => raiseFirst (identifier key)
  | .snake => snakeCase key
  | .camel => camelCase key
  | .pascal => pascalCase key

/-- The name of a key in one of the cases. -/
def Case.nameOf? (case : Case) (key : String) : Option String :=
  if usable key then some (String.ofList (identifier (case.write key.toList))) else none

end Recast.Name
