import Recast.Language
import Recast.Name.Case
import Recast.Schema.DataType

/-!
# Naming conventions of the target languages

How each language writes its names and spells its types. All of it is data; what is done with it is
the same for every language.
-/

namespace Recast

/-- How the file of a class is named. -/
inductive FileNaming
  /-- Exactly like the class. -/
  | className
  /-- Like the class, in snake case. -/
  | snake
  deriving DecidableEq, Repr

/-- The spelling of each scalar. -/
structure ScalarNames where
  boolean : String
  integer : String
  float : String
  string : String
  deriving DecidableEq, Repr

def ScalarNames.of (names : ScalarNames) : Scalar → String
  | .boolean => names.boolean
  | .integer => names.integer
  | .float => names.float
  | .string => names.string

structure Conventions where
  /-- The file extension, with its dot. -/
  extension : String
  classCase : Name.Case
  fieldCase : Name.Case
  /-- The case of the default name of the root, before it is made a class name. -/
  rootCase : Name.Case
  fileNaming : FileNaming
  /-- Words that no field may be called. -/
  keywords : List String
  scalars : ScalarNames
  /-- The scalars inside containers. -/
  innerScalars : ScalarNames
  arrayType : String → String
  mapType : String → String → String
  /-- Are methods generated that get and set a field? -/
  hasAccessors : Bool

namespace Conventions

/-- The spelling of a type, inside a container or not. -/
def spell (conventions : Conventions) (inner : Bool) : DataType String → String
  | .scalar kind =>
    if inner then conventions.innerScalars.of kind else conventions.scalars.of kind
  | .ref className => className
  | .array item => conventions.arrayType (conventions.spell true item)
  | .map key value =>
    conventions.mapType (conventions.spell true key) (conventions.spell true value)

/-- The spelling of the type of a field. -/
def typeName (conventions : Conventions) (type : DataType String) : String :=
  conventions.spell false type

/-! ## The five languages -/

def java : Conventions where
  extension := ".java"
  classCase := .capitalizeFirst
  fieldCase := .camel
  rootCase := .camel
  fileNaming := .className
  keywords := [
    "abstract", "assert", "boolean", "break", "byte", "case", "catch", "char", "class", "const",
    "continue", "default", "do", "double", "else", "enum", "extends", "false", "final", "finally",
    "float", "for", "goto", "if", "implements", "import", "instanceof", "int", "interface", "long",
    "native", "new", "null", "package", "private", "protected", "public", "return", "short",
    "static", "strictfp", "super", "switch", "synchronized", "this", "throw", "throws",
    "transient", "true", "try", "void", "volatile", "while"]
  scalars := ⟨"boolean", "int", "float", "String"⟩
  innerScalars := ⟨"Boolean", "Integer", "Float", "String"⟩
  arrayType item := "List<" ++ item ++ ">"
  mapType key value := "Map<" ++ key ++ ", " ++ value ++ ">"
  hasAccessors := true

def ruby : Conventions where
  extension := ".rb"
  classCase := .capitalizeFirst
  fieldCase := .snake
  rootCase := .snake
  fileNaming := .snake
  keywords := [
    "BEGIN", "END", "alias", "and", "begin", "break", "case", "class", "def", "defined?", "do",
    "else", "elsif", "end", "ensure", "false", "for", "if", "in", "module", "next", "nil", "not",
    "or", "redo", "rescue", "retry", "return", "self", "super", "then", "true", "undef", "unless",
    "until", "when", "while", "yield"]
  scalars := ⟨"Boolean", "Integer", "Float", "String"⟩
  innerScalars := ⟨"Boolean", "Integer", "Float", "String"⟩
  arrayType item := "Array<" ++ item ++ ">"
  mapType key value := "Hash\x7b" ++ key ++ " => " ++ value ++ "\x7d"
  hasAccessors := false

def python : Conventions where
  extension := ".py"
  classCase := .pascal
  fieldCase := .snake
  rootCase := .pascal
  fileNaming := .snake
  keywords := [
    "False", "None", "True", "and", "as", "assert", "async", "await", "break", "class",
    "continue", "def", "del", "elif", "else", "except", "finally", "for", "from", "global", "if",
    "import", "in", "is", "lambda", "nonlocal", "not", "or", "pass", "raise", "return", "try",
    "while", "with", "yield"]
  scalars := ⟨"bool", "int", "float", "str"⟩
  innerScalars := ⟨"bool", "int", "float", "str"⟩
  arrayType item := "List[" ++ item ++ "]"
  mapType key value := "Dict[" ++ key ++ ", " ++ value ++ "]"
  hasAccessors := false

def typescript : Conventions where
  extension := ".ts"
  classCase := .pascal
  fieldCase := .camel
  rootCase := .pascal
  fileNaming := .className
  keywords := [
    "break", "case", "catch", "class", "const", "continue", "debugger", "default", "delete", "do",
    "else", "enum", "export", "extends", "false", "finally", "for", "function", "if", "import",
    "in", "instanceof", "new", "null", "return", "super", "switch", "this", "throw", "true", "try",
    "typeof", "var", "void", "while", "with"]
  scalars := ⟨"boolean", "number", "number", "string"⟩
  innerScalars := ⟨"boolean", "number", "number", "string"⟩
  arrayType item := item ++ "[]"
  mapType key value := "Record<" ++ key ++ ", " ++ value ++ ">"
  hasAccessors := false

def rust : Conventions where
  extension := ".rs"
  classCase := .pascal
  fieldCase := .snake
  rootCase := .pascal
  fileNaming := .snake
  keywords := [
    "abstract", "as", "async", "await", "become", "box", "break", "const", "continue", "crate",
    "do", "dyn", "else", "enum", "extern", "false", "final", "fn", "for", "gen", "if", "impl",
    "in", "let", "loop", "macro", "match", "mod", "move", "mut", "override", "priv", "pub", "ref",
    "return", "self", "static", "struct", "super", "trait", "true", "try", "type", "typeof",
    "unsafe", "unsized", "use", "virtual", "where", "while", "yield"]
  scalars := ⟨"bool", "i64", "f64", "String"⟩
  innerScalars := ⟨"bool", "i64", "f64", "String"⟩
  arrayType item := "Vec<" ++ item ++ ">"
  mapType key value := "std::collections::HashMap<" ++ key ++ ", " ++ value ++ ">"
  hasAccessors := false

end Conventions

def Language.conventions : Language → Conventions
  | java => .java
  | ruby => .ruby
  | python => .python
  | typescript => .typescript
  | rust => .rust

end Recast
