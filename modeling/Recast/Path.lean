/-!
# Paths

A path is a text whose names stand between slashes. Its components are what the text means whatever
its spelling: repeated slashes and inner `.` count for nothing, while `..` stays, since what it leads
to depends on links. Two paths with the same components are the same path.
-/

namespace Recast.Path

inductive Component
  | root
  | current
  | parent
  | name (text : String)
  deriving DecidableEq, Repr

def separator : Char := '/'

/-- The texts between the slashes, empty ones included. -/
def segments (path : String) : List String :=
  (path.toList.splitOnP (· == separator)).map String.ofList

def isAbsolute (path : String) : Bool :=
  path.toList.head? == some separator

def endsInSeparator (path : String) : Bool :=
  path.toList.getLast? == some separator

/-- The component that a segment stands for, if any. -/
def component? (segment : String) : Option Component :=
  if segment = "" ∨ segment = "." then none
  else if segment = ".." then some .parent
  else some (.name segment)

/-- The components of a path. A `.` counts only at the front of a relative path. -/
def components (path : String) : List Component :=
  let steps := (segments path).filterMap component?
  if isAbsolute path then .root :: steps
  else if (segments path).head? = some "." then .current :: steps
  else steps

def Component.text : Component → String
  | root => ""
  | current => "."
  | parent => ".."
  | name text => text

/-- A path with these components. -/
def ofComponents : List Component → String
  | [.root] => "/"
  | components => "/".intercalate (components.map Component.text)

/-- A path below a directory; an absolute path is below none. -/
def join (directory path : String) : String :=
  if isAbsolute path || directory.isEmpty then path
  else if endsInSeparator directory then directory ++ path
  else directory ++ "/" ++ path

/-- The paths of the directories that contain a path, nearest first, down to the first name. -/
def ancestors (path : String) : List String :=
  let inner := (components path).dropLast
  ((List.range inner.length).map fun n => ofComponents (inner.take (inner.length - n))).filter
    fun ancestor => ancestor != "/"

/-! ## The last name -/

/-- The name that a path ends on. -/
def fileName? (path : String) : Option String :=
  match (components path).getLast? with
  | some (.name text) => some text
  | _ => none

/-- A name up to its last dot, and what follows the dot. A name that begins with its last dot has no
extension. -/
def splitExtension (name : String) : String × Option String :=
  let reversed := name.toList.reverse
  match reversed.dropWhile (· != '.') with
  | [] | [_] => (name, none)
  | _ :: stem => (String.ofList stem.reverse,
      some (String.ofList (reversed.takeWhile (· != '.')).reverse))

def extension? (path : String) : Option String :=
  (fileName? path).bind fun name => (splitExtension name).2

def stem? (path : String) : Option String :=
  (fileName? path).map fun name => (splitExtension name).1

end Recast.Path
