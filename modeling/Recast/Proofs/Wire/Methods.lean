import Mathlib.Data.List.Forall2
import Recast.Proofs.Wire.Accesses
import Recast.Proofs.Wire.Lines
import Recast.Proofs.Wire.Literals
import Recast.Template

/-!
# Where a class says what its fields are called on the wire

Four languages write two methods that convert between an object and a map, with
one line for each field. A line that decodes assigns to the field and takes the
value from under its key; a line that encodes stores the value of the field
under its key. Java and Rust also declare the fields for a library to convert,
and put an annotation above a field whose identifier is not its key.

All of this is read off the lines of the text, given only how a language opens
and closes the methods and what it writes around identifiers, literals and
values.
-/

namespace Recast

/-! ## Methods -/

/-- How the methods that convert from and to a map are written. -/
structure MapMethods where
  /-- The lines that decode a class. -/
  decode : String → Passage
  /-- In front of a field that is assigned to. -/
  target : String
  /-- Between that field and its value. -/
  becomes : String
  encode : Passage
  /-- In front of a literal that a value is stored under. -/
  entry : String
  /-- Between that literal and the value. -/
  holds : String
  /-- In front of a field that is read. -/
  mark : String

/-- A line assigns to a field, and every literal in it is the key. -/
structure MapMethods.Assigns (methods : MapMethods) (field : FieldView)
    (line : String) : Prop where
  assigned : ∃ value,
    line = methods.target ++ field.ident ++ methods.becomes ++ value
  keys : ∃ keys, literals? line = some keys ∧ keys ≠ [] ∧
    ∀ key ∈ keys, key = field.key

/-- A line stores the value of a field under its key, which is the only literal
in it, and reads no other field. -/
structure MapMethods.Stores (methods : MapMethods) (field : FieldView)
    (line : String) : Prop where
  stored : ∃ delimiter value,
    line = methods.entry ++ Text.literal delimiter field.key ++ methods.holds ++
      value ∧
    accesses methods.mark value ≠ [] ∧
    ∀ ident ∈ accesses methods.mark value, ident = field.ident
  literal : literals? line = some [field.key]

/-- Both methods have exactly one line for each field, in order. -/
structure MapMethods.KeepKeys (methods : MapMethods) (className : String)
    (fields : List FieldView) (text : List String) : Prop where
  decode : List.Forall₂ methods.Assigns fields
    ((methods.decode className).within text)
  encode : List.Forall₂ methods.Stores fields (methods.encode.within text)

/-! ## Declarations -/

/-- How fields are declared that a library converts. -/
structure Declarations where
  /-- The lines that declare the fields of a class. -/
  passage : String → Passage
  /-- What a line opens with that renames the field on the next line. -/
  marker : String
  /-- The identifier that a line declares. -/
  identOf : String → String

namespace Declarations

/-- The declared identifiers with the names that the library uses for them: what
the line just above a declaration renames it to, or the identifier itself. -/
def wireNames (declarations : Declarations) :
    Option String → List String → List (String × String)
  | _, [] => []
  | renamed, line :: rest =>
    if declarations.marker.toList.isPrefixOf line.toList then
      declarations.wireNames ((literals? line).bind List.head?) rest
    else
      let ident := declarations.identOf line
      (ident, renamed.getD ident) :: declarations.wireNames none rest

/-- The name that the library uses for each declared field is its key. -/
def KeepKeys (declarations : Declarations) (className : String)
    (fields : List FieldView) (text : List String) : Prop :=
  declarations.wireNames none ((declarations.passage className).within text)
    = fields.map fun field => (field.ident, field.key)

end Declarations

/-! ## The languages -/

namespace Template

def Java.methods : MapMethods where
  decode className := {
    first := "\tpublic static " ++ className ++
      " fromMap(Map<String, Object> map) \x7b"
    second := "\t\t" ++ className ++ " o = new " ++ className ++ "();"
    closing := "\t\treturn o;" }
  target := "\t\to."
  becomes := " = "
  encode := {
    first := "\tpublic Map<String, Object> toMap() \x7b"
    second := "\t\tMap<String, Object> map = new LinkedHashMap<>();"
    closing := "\t\treturn map;" }
  entry := "\t\tmap.put("
  holds := ", "
  mark := "this."

def Ruby.methods : MapMethods where
  decode _ := {
    first := "\tdef self.from_hash(hash)"
    second := "\t\to = new"
    closing := "\t\to" }
  target := "\t\to."
  becomes := " = "
  encode := {
    first := "\tdef to_hash"
    second := "\t\th = \x7b\x7d"
    closing := "\t\th" }
  entry := "\t\th["
  holds := "] = "
  mark := "@"

def Python.methods : MapMethods where
  decode className := {
    first := "    def from_dict(cls, data: Dict[str, Any]) -> " ++ className ++ ":"
    second := "        return cls("
    closing := "        )" }
  target := "            "
  becomes := "="
  encode := {
    first := "    def to_dict(self) -> Dict[str, Any]:"
    second := "        return \x7b"
    closing := "        \x7d" }
  entry := "            "
  holds := ": "
  mark := "self."

def TypeScript.methods : MapMethods where
  decode className := {
    first := "  static fromObject(data: Record<string, unknown>): " ++ className ++
      " \x7b"
    second := "    const o = new " ++ className ++ "();"
    closing := "    return o;" }
  target := "    o."
  becomes := " = "
  encode := {
    first := "  toObject(): Record<string, unknown> \x7b"
    second := "    return \x7b"
    closing := "    \x7d;" }
  entry := "      "
  holds := ": "
  mark := "this."

/-- The last word of a line without the mark that ends it. -/
def Java.declared (line : String) : String :=
  String.ofList (line.toList.dropLast.reverse.takeWhile (· != ' ')).reverse

def Java.declarations : Declarations where
  passage className := {
    first := "public class " ++ className ++ " \x7b"
    second := ""
    closing := "" }
  marker := "\t@JsonProperty("
  identOf := Java.declared

/-- The name behind the visibility of a field. -/
def Rust.declared (line : String) : String :=
  String.ofList ((line.toList.drop "    pub ".length).takeWhile Name.isNameChar)

def Rust.declarations : Declarations where
  passage className := {
    first := "#[serde(default)]"
    second := "pub struct " ++ className ++ " \x7b"
    closing := "\x7d" }
  marker := "    #[serde(rename = "
  identOf := Rust.declared

end Template

/-- The lines of a class address its fields by their keys. -/
def Language.KeepsKeys (language : Language) (className : String)
    (fields : List FieldView) (text : List String) : Prop :=
  match language with
  | .java =>
    Template.Java.methods.KeepKeys className fields text ∧
      Template.Java.declarations.KeepKeys className fields text
  | .ruby => Template.Ruby.methods.KeepKeys className fields text
  | .python => Template.Python.methods.KeepKeys className fields text
  | .typescript => Template.TypeScript.methods.KeepKeys className fields text
  | .rust => Template.Rust.declarations.KeepKeys className fields text

end Recast
