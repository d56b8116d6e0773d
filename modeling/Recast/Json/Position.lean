/-!
# Where a text stops being JSON

A reader that fails says how many bytes of the text it had not yet taken, the byte it stumbled over
included or not. Counting from the end lets every reader work on the rest of the text alone; the line
and the column are found once, from the whole text.
-/

namespace Recast.Json

/-- What is wrong with a text. -/
inductive Fault
  | endInValue
  | endInString
  | endInList
  | endInObject
  | unknownWord
  | noValue
  | badNumber
  | numberTooLarge
  | controlCharacter
  | badEscape
  | loneSurrogate
  | missingSurrogate
  | nestedTooDeeply
  | noCommaInList
  | noCommaInObject
  | noColon
  | keyNotString
  | trailingComma
  | trailingCharacters
  deriving DecidableEq, Repr

def Fault.message : Fault → String
  | endInValue => "EOF while parsing a value"
  | endInString => "EOF while parsing a string"
  | endInList => "EOF while parsing a list"
  | endInObject => "EOF while parsing an object"
  | unknownWord => "expected ident"
  | noValue => "expected value"
  | badNumber => "invalid number"
  | numberTooLarge => "number out of range"
  | controlCharacter =>
    "control character (\\u0000-\\u001F) found while parsing a string"
  | badEscape => "invalid escape"
  | loneSurrogate => "lone leading surrogate in hex escape"
  | missingSurrogate => "unexpected end of hex escape"
  | nestedTooDeeply => "recursion limit exceeded"
  | noCommaInList => "expected `,` or `]`"
  | noCommaInObject => "expected `,` or `\x7d`"
  | noColon => "expected `:`"
  | keyNotString => "key must be a string"
  | trailingComma => "trailing comma"
  | trailingCharacters => "trailing characters"

/-- A step from the root of a document to the place where reading stopped. -/
inductive Segment
  | index (i : Nat)
  | key (name : String)
  /-- A key that could not be read. -/
  | unreadKey
  deriving DecidableEq, Repr

/-- A segment as it is written, and whether a dot sets it off from what precedes it. -/
def Segment.text : Segment → String
  | index i => "[" ++ toString i ++ "]"
  | key name => name
  | unreadKey => "?"

def Segment.isIndex : Segment → Bool
  | index _ => true
  | _ => false

/-- Segments after the first: all but indices follow a dot. -/
def dottedText : List Segment → String
  | [] => ""
  | s :: rest => (if s.isIndex then "" else ".") ++ s.text ++ dottedText rest

/-- The written path; the root is a dot. -/
def pathText : List Segment → String
  | [] => "."
  | s :: rest => s.text ++ dottedText rest

/-- A failed reading: the fault, how many bytes were left, and the place in the document. -/
structure Failure where
  fault : Fault
  left : Nat
  path : List Segment
  deriving DecidableEq, Repr

/-- The length of a text in bytes of UTF-8. -/
def byteLength : List Char → Nat
  | [] => 0
  | c :: rest => c.utf8Size + byteLength rest

/-- A failure in front of `rest`, everything before it having been taken. -/
def failBefore (fault : Fault) (rest : List Char) : Failure :=
  ⟨fault, byteLength rest, []⟩

/-- A failure on the first byte of `rest`, which counts as taken. At the end of the text there is
no byte to count. -/
def failOn (fault : Fault) (rest : List Char) : Failure :=
  ⟨fault, byteLength rest - 1, []⟩

/-- The same failure seen from one level further out. -/
def Failure.under (segment : Segment) (failure : Failure) : Failure :=
  { failure with path := segment :: failure.path }

/-- Line and column of a byte offset: lines count from one, the column is the number of bytes since
the line began. -/
def lineColumn : List Char → Nat → Nat × Nat
  | _, 0 => (1, 0)
  | [], n => (1, n)
  | c :: rest, n =>
    let (line, column) := lineColumn rest (n - c.utf8Size)
    if c = '\n' then (line + 1, column)
    else if line = 1 then (1, column + min n c.utf8Size)
    else (line, column)

end Recast.Json
