import Recast.Json.Numeral
import Recast.Json.StringBody

/-!
# Reading a document

`readValue n` reads a value with at most `n` levels of arrays and objects. The levels bound the
recursion; along one level, an array or object is read element by element, and the length of the
text bounds the number of elements.

Every failure carries its place. It is put together from the inside out: a failure inside an element
gains that element's segment when the element's reader hands it on, and a failure between elements
belongs to the array or object itself.
-/

namespace Recast.Json

/-- A reader takes a value from the front of a text and leaves the rest. -/
abbrev Reader (α : Type) := List Char → Except Failure (α × List Char)

/-- How deep arrays and objects may be nested. -/
def depthLimit : Nat := 127

def isSpace (c : Char) : Bool :=
  c == ' ' || c == '\n' || c == '\t' || c == '\r'

def skipSpace (s : List Char) : List Char :=
  s.dropWhile isSpace

/-- The rest of a word whose first letter announced it. -/
def readWord (value : Json) : List Char → Reader Json
  | [], s => .ok (value, s)
  | _ :: _, [] => .error (failBefore .endInValue [])
  | w :: word, c :: s =>
    if c = w then readWord value word s else .error (failOn .unknownWord (c :: s))

/-! ## Arrays -/

/-- The elements after `count` earlier ones, up to the closing bracket, which is taken too. -/
def readItems (item : Reader Json) : Nat → Nat → Reader (List Json)
  | 0, _, s => .error (failOn .endInList s)
  | fuel + 1, count, s =>
    let next (s : List Char) : Except Failure (List Json × List Char) :=
      match item s with
      | .error failure => .error (failure.under (.index count))
      | .ok (value, s) => (readItems item fuel (count + 1) s).map fun (items, s) => (value :: items, s)
    match skipSpace s with
    | [] => .error (failOn .endInList [])
    | c :: rest =>
      if c = ']' then .ok ([], rest)
      else if count = 0 then next (c :: rest)
      else if c = ',' then
        match skipSpace rest with
        | [] => .error (failOn .endInValue [])
        | d :: rest =>
          if d = ']' then .error (failOn .trailingComma (d :: rest)) else next (d :: rest)
      else .error (failOn .noCommaInList (c :: rest))

/-! ## Objects -/

/-- The colon after a key. -/
def readColon (s : List Char) : Except Failure (List Char) :=
  match skipSpace s with
  | [] => .error (failOn .endInObject [])
  | c :: rest => if c = ':' then .ok rest else .error (failOn .noColon (c :: rest))

/-- A key, its colon and its value, where a key must begin. -/
def readField (item : Reader Json) (s : List Char) :
    Except Failure ((String × Json) × List Char) :=
  match s with
  | '"' :: rest =>
    match readString rest with
    | .error failure => .error (failure.under .unreadKey)
    | .ok (key, s) =>
      let key := String.ofList key
      match readColon s with
      | .error failure => .error failure
      | .ok s =>
        match item s with
        | .error failure => .error (failure.under (.key key))
        | .ok (value, s) => .ok ((key, value), s)
  | _ => .error ((failOn .keyNotString s).under .unreadKey)

/-- The fields after those read so far, up to the closing brace, which is taken too. -/
def readFields (item : Reader Json) :
    Nat → List (String × Json) → Bool → Reader (List (String × Json))
  | 0, _, _, s => .error ((failOn .endInObject s).under .unreadKey)
  | fuel + 1, fields, first, s =>
    let next (s : List Char) : Except Failure (List (String × Json) × List Char) :=
      match readField item s with
      | .error failure => .error failure
      | .ok ((key, value), s) => readFields item fuel (setField key value fields) false s
    match skipSpace s with
    | [] => .error ((failOn .endInObject []).under .unreadKey)
    | c :: rest =>
      if c = '\x7d' then .ok (fields, rest)
      else if first then next (c :: rest)
      else if c = ',' then
        match skipSpace rest with
        | [] => .error ((failOn .endInValue []).under .unreadKey)
        | d :: rest =>
          if d = '\x7d' then .error ((failOn .trailingComma (d :: rest)).under .unreadKey)
          else next (d :: rest)
      else .error ((failOn .noCommaInObject (c :: rest)).under .unreadKey)

/-! ## Values -/

/-- A value with at most so many levels. -/
def readValue : Nat → Reader Json
  | depth, s =>
    match skipSpace s with
    | [] => .error (failOn .endInValue [])
    | c :: rest =>
      if c = 'n' then readWord .null ['u', 'l', 'l'] rest
      else if c = 't' then readWord (.boolean true) ['r', 'u', 'e'] rest
      else if c = 'f' then readWord (.boolean false) ['a', 'l', 's', 'e'] rest
      else if c = '-' ∨ c.isDigit then
        (readNumber (c :: rest)).map fun (n, s) => (.number n, s)
      else if c = '"' then
        (readString rest).map fun (text, s) => (.string (String.ofList text), s)
      else if c = '[' then
        match depth with
        | 0 => .error (failOn .nestedTooDeeply (c :: rest))
        | depth + 1 =>
          (readItems (readValue depth) (rest.length + 1) 0 rest).map fun (items, s) =>
            (.array items, s)
      else if c = '\x7b' then
        match depth with
        | 0 => .error (failOn .nestedTooDeeply (c :: rest))
        | depth + 1 =>
          (readFields (readValue depth) (rest.length + 1) [] true rest).map fun (fields, s) =>
            (.object fields, s)
      else .error (failOn .noValue (c :: rest))

/-- A value with nothing but white space after it. -/
def readDocument (s : List Char) : Except Failure Json :=
  match readValue depthLimit s with
  | .error failure => .error failure
  | .ok (value, rest) =>
    match skipSpace rest with
    | [] => .ok value
    | rest => .error (failOn .trailingCharacters rest)

/-- Why a document could not be read, and where. -/
structure Malformed where
  fault : Fault
  path : List Segment
  line : Nat
  column : Nat
  deriving DecidableEq, Repr

/-- The fault and its position. -/
def Malformed.message (m : Malformed) : String :=
  m.fault.message ++ " at line " ++ toString m.line ++ " column " ++ toString m.column

/-- The position of a failure in the text that was read. -/
def Failure.locate (text : List Char) (failure : Failure) : Malformed :=
  let (line, column) := lineColumn text (byteLength text - failure.left)
  ⟨failure.fault, failure.path, line, column⟩

/-- Reads a document. -/
def decode (text : String) : Except Malformed Json :=
  (readDocument text.toList).mapError (Failure.locate text.toList)

end Recast.Json
