import Recast.Text.Keyword

/-!
# Target languages

The languages that classes can be generated for, with the names a user may call them by.
-/

namespace Recast

inductive Language
  | java
  | ruby
  | python
  | typescript
  | rust
  deriving DecidableEq, Repr

namespace Language

/-- Every language, in the order in which they are listed. -/
def all : List Language := [java, ruby, python, typescript, rust]

def id : Language → String
  | java => "java"
  | ruby => "ruby"
  | python => "python"
  | typescript => "typescript"
  | rust => "rust"

/-- Shorter names. -/
def aliases : Language → List String
  | java => []
  | ruby => ["rb"]
  | python => ["py"]
  | typescript => ["ts"]
  | rust => ["rs"]

/-- The language that a typed word names. -/
def ofText? (typed : String) : Option Language :=
  let word := String.ofList (Text.keyword typed)
  all.find? fun language => language.id == word || language.aliases.contains word

/-- The languages as messages list them. -/
def listing : String :=
  ", ".intercalate (all.map id)

end Language

end Recast
