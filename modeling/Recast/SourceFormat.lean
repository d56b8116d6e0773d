import Recast.Text.Keyword

/-!
# Source formats

The formats that documents can be read in. A format is named by a word or by a file extension, with
or without its dot.
-/

namespace Recast

inductive SourceFormat
  | json
  deriving DecidableEq, Repr

namespace SourceFormat

def all : List SourceFormat := [json]

def id : SourceFormat → String
  | json => "json"

/-- The format that a typed word or an extension names. -/
def ofText? (typed : String) : Option SourceFormat :=
  let word := String.ofList ((Text.keyword typed).dropWhile (· == '.'))
  all.find? fun format => format.id == word

/-- The formats as messages list them. -/
def listing : String :=
  ", ".intercalate (all.map id)

end SourceFormat

end Recast
