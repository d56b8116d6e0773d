import Recast.Language.Conventions

/-!
# The names a key takes in a language

A class must open on a capital, so a class name that does not gets `Class` in front. A field must
not be a keyword, so one that is gets an underscore behind. The module is the file of the class
without its extension, and also what other files import the class from.
-/

namespace Recast.Name

/-- A name that opens on an uppercase character, or `Class` and that name. -/
def openCapital (name : String) : String :=
  match name.toList with
  | c :: _ => if Unicode.isUppercase c then name else "Class" ++ name
  | [] => "Class" ++ name

def className? (conventions : Conventions) (key : String) : Option String :=
  (conventions.classCase.nameOf? key).map openCapital

/-- A name that is not a keyword, or that name with an underscore behind. -/
def avoidKeyword (keywords : List String) (name : String) : String :=
  if keywords.contains name then name ++ "_" else name

def fieldName? (conventions : Conventions) (key : String) : Option String :=
  (conventions.fieldCase.nameOf? key).map (avoidKeyword conventions.keywords)

/-- The module of a class. -/
def moduleOf (conventions : Conventions) (className : String) : String :=
  match conventions.fileNaming with
  | .className => className
  | .snake => String.ofList (snakeCase className.toList)

def moduleName? (conventions : Conventions) (key : String) : Option String :=
  (className? conventions key).map (moduleOf conventions)

def fileName? (conventions : Conventions) (key : String) : Option String :=
  (moduleName? conventions key).map (· ++ conventions.extension)

end Recast.Name
