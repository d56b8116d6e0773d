import Recast.Glob.Pattern
import Recast.Host

/-!
# The paths that match a pattern

A pattern is taken apart at its slashes and followed component by component. A component without
wildcards is only asked for; one with wildcards is compared with the names in the directory reached
so far, in ascending order, and what lies inside a directory comes before the next name. `.` and `..`
are never among the names: they match only a component that begins with a dot.

A path of limited length bounds how deep the search can go.
-/

namespace Recast.Glob

variable {m : Type → Type} [Monad m] [Host m]

/-- A directory or another node, links followed; what cannot be reached is no directory. -/
def isDirectory (path : String) : m Bool := do
  return (← Host.kind? path) == some .directory

/-- The name of an entry below a directory; the starting directory is not spelled out. -/
def below (directory name : String) : String :=
  if Path.components directory = [.current] then name else Path.join directory name

/-- Is the directory `.` or `..`, or else a name that is there? -/
def leadsOn (isDir : Bool) (segment path : String) : m Bool := do
  if segment = "." ∨ segment = ".." then return isDir
  else return (← Host.kind? path).isSome || (← Host.hasName path)

/-- Components after the `**` at their front and those right behind it. -/
def dropRecursive : List Pattern → List Pattern
  | [] => []
  | p :: ps => if p.isRecursive then dropRecursive ps else p :: ps

/-- Finds the matches of components below a path, which is a directory or not. -/
abbrev Search (m : Type → Type) := List Pattern → String → Bool → m (List String)

/-- A path whose name is still to be compared with the first component. -/
def matchHere (search : Search m) (onlyDirectories : Bool) (patterns : List Pattern) (path : String)
    (isDir : Bool) : m (List String) :=
  match patterns, Path.fileName? path with
  | p :: ps, some name =>
    if !p.matchesName name then return []
    else if !ps.isEmpty then search ps path isDir
    else if !onlyDirectories || isDir then return [path]
    else return []
  | _, _ => return []

/-- An entry of a directory in which a component with wildcards is looked for. -/
def visit (search : Search m) (onlyDirectories : Bool) (patterns : List Pattern) (path : String) :
    m (List String) := do
  let isDir ← isDirectory path
  match patterns with
  | [] => return []
  | p :: ps =>
    if !p.isRecursive then matchHere search onlyDirectories (p :: ps) path isDir
    else
      let after := dropRecursive ps
      let here ←
        if !after.isEmpty then matchHere search onlyDirectories after path isDir
        else pure (if isDir then [path] else [])
      let inside ← if isDir then search (p :: after) path isDir else pure []
      return here ++ inside

/-- A path that satisfies a component without being compared with it. -/
def settled (search : Search m) (onlyDirectories : Bool) (patterns : List Pattern) (path : String) :
    m (List String) := do
  let isDir ← isDirectory path
  if !patterns.isEmpty then search patterns path isDir
  else if !onlyDirectories || isDir then return [path]
  else return []

/-- `..` and `.`, where a component with wildcards that begins with a dot matches them. -/
def dotNames (p : Pattern) : List String :=
  if p.head? = some (.char '.') then ["..", "."].filter p.matchesName else []

/-- The matches of components below a path, found by at most so many steps down. -/
def expand (onlyDirectories : Bool) : Nat → Search m
  | 0, _, _, _ => return []
  | _, [], _, _ => return []
  | depth + 1, p :: ps, path, isDir => do
    let search := expand onlyDirectories depth
    match p.literal? with
    | some segment =>
      let segment := String.ofList segment
      let next := below path segment
      if ← leadsOn isDir segment next then settled search onlyDirectories ps next
      else return []
    | none =>
      if !isDir then return []
      else
        let names := ((← Host.list path).toOption.getD []).mergeSort (fun a b => decide (a ≤ b))
        let dots ← (dotNames p).flatMapM fun dot =>
          settled search onlyDirectories ps (Path.join path dot)
        let found ← names.flatMapM fun name =>
          visit search onlyDirectories (p :: ps) (below path name)
        return dots ++ found

/-- The patterns between the slashes of a text. A slash at the end opens no further one. -/
def components (text : String) : List String :=
  let segments := Path.segments text
  if segments.getLast? = some "" then segments.dropLast else segments

/-- The paths that match a pattern, in order. The pattern must be readable as a whole and component
by component. -/
def matching (text : String) : m (Except PatternError (List String)) := do
  let relative := if Path.isAbsolute text then String.ofList (text.toList.drop 1) else text
  let start := if Path.isAbsolute text then "/" else "."
  match (do let _ ← Pattern.parse text; (components relative).mapM Pattern.parse) with
  | .error e => return .error e
  | .ok patterns =>
    let depth := Disk.pathLimit + patterns.length
    return .ok (← expand (Path.endsInSeparator text) depth patterns start (← isDirectory start))

end Recast.Glob
