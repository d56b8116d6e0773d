import Recast.OsError
import Recast.Path

/-!
# A file system

A disk maps places to entries. A place is the list of names that leads to it from the root through
directories alone; a path is followed from the working directory, or from the root, name by name,
through `.`, `..` and symbolic links, to a place. Operations follow paths the way POSIX describes:
what a name means is decided only when it is reached.
-/

namespace Recast

/-- The names from the root. -/
abbrev Place := List String

inductive Entry
  | directory
  | file (content : ByteArray)
  | link (target : String)
  /-- A device that has no room: it can be opened and not written to. -/
  | full

def Entry.isDirectory : Entry → Bool
  | directory => true
  | _ => false

def Entry.isFull : Entry → Bool
  | full => true
  | _ => false

structure Disk where
  entries : List (Place × Entry)
  /-- Where relative paths begin. -/
  workingDirectory : Place

/-- Whether a file that is there already may be written over. -/
inductive WriteMode
  /-- Only to a name that is not taken by anything. -/
  | createNew
  /-- Over what is there. -/
  | overwrite
  deriving DecidableEq, Repr

/-- Whether a file could not be opened or could not be written once open. -/
inductive WriteError
  | opening (error : OsError)
  | writing (error : OsError)
  deriving DecidableEq, Repr

namespace Disk

/-! ## Places -/

def lookup (disk : Disk) (place : Place) : Option Entry :=
  if place.isEmpty then some .directory
  else (disk.entries.find? fun held => held.1 == place).map Prod.snd

/-- Puts an entry at a place, over what was there. -/
def put (disk : Disk) (place : Place) (entry : Entry) : Disk :=
  { disk with entries := (place, entry) :: disk.entries.filter fun held => held.1 != place }

def erase (disk : Disk) (place : Place) : Disk :=
  { disk with entries := disk.entries.filter fun held => held.1 != place }

/-- The names in a directory. -/
def namesIn (disk : Disk) (place : Place) : List String :=
  disk.entries.filterMap fun held =>
    match held.1.getLast? with
    | some name => if held.1.dropLast = place then some name else none
    | none => none

/-! ## Following a path -/

/-- Where a path leads: to an entry, or to a free name in a directory. A slash at its end asks for a
directory there. -/
inductive Target
  | entry (place : Place) (entry : Entry) (slash : Bool)
  | free (directory : Place) (name : String) (slash : Bool)

/-- The longest name. -/
def nameLimit : Nat := 255

/-- One more than the longest path, in bytes. -/
def pathLimit : Nat := 4096

/-- How many links are followed on one path. -/
def linkLimit : Nat := 40

/-- The names to follow for a path. -/
def steps (path : String) : List String :=
  (Path.segments path).filter fun segment => segment != ""

/-- Follows names from a directory. A link in the way, or at the end if `followLast`, is handed to
`onLink` with the names left. -/
def followWith (onLink : String → Bool → Place → List String → Except OsError Target) (disk : Disk)
    (followLast slash : Bool) : Place → List String → Except OsError Target
  | here, [] => .ok (.entry here .directory slash)
  | here, name :: rest =>
    if name = "." then followWith onLink disk followLast slash here rest
    else if name = ".." then followWith onLink disk followLast slash here.dropLast rest
    else if nameLimit < name.utf8ByteSize then .error .nameTooLong
    else
      let place := here ++ [name]
      match disk.lookup place with
      | none => if rest.isEmpty then .ok (.free here name slash) else .error .notFound
      | some .directory => followWith onLink disk followLast slash place rest
      | some (.link target) =>
        if rest.isEmpty && !followLast then .ok (.entry place (.link target) slash)
        else onLink target slash here rest
      | some entry => if rest.isEmpty then .ok (.entry place entry slash) else .error .notDirectory

/-- Follows names, with so many links to spare. -/
def follow (disk : Disk) (followLast : Bool) : Nat → Bool → Place → List String → Except OsError Target
  | 0 => followWith (fun _ _ _ _ => .error .tooManyLinks) disk followLast
  | spare + 1 =>
    followWith
      (fun target slash here rest =>
        disk.follow followLast spare (slash || rest.isEmpty && Path.endsInSeparator target)
          (if Path.isAbsolute target then [] else here) (steps target ++ rest))
      disk followLast

/-- Follows some of the names of a path, from where the path begins. -/
def resolveSteps (disk : Disk) (followLast : Bool) (path : String) (names : List String) :
    Except OsError Target :=
  if path.toList.contains '\x00' then .error .nulInName
  else if path.isEmpty then .error .notFound
  else if pathLimit ≤ path.utf8ByteSize then .error .nameTooLong
  else
    disk.follow followLast linkLimit (Path.endsInSeparator path)
      (if Path.isAbsolute path then [] else disk.workingDirectory) names

/-- Follows a path. -/
def resolve (disk : Disk) (followLast : Bool) (path : String) : Except OsError Target :=
  disk.resolveSteps followLast path (steps path)

/-! ## Questions -/

/-- The entry that a path leads to. A link before a slash is always followed. -/
def entry? (disk : Disk) (followLast : Bool) (path : String) : Option Entry :=
  match disk.resolve (followLast || Path.endsInSeparator path) path with
  | .ok (.entry _ entry slash) => if slash && !entry.isDirectory then none else some entry
  | _ => none

/-- Does a path lead to anything? -/
def isPresent (disk : Disk) (path : String) : Bool :=
  (disk.entry? true path).isSome

def isDirectory (disk : Disk) (path : String) : Bool :=
  (disk.entry? true path).any Entry.isDirectory

/-- The bytes of a file. -/
def read (disk : Disk) (path : String) : Except OsError ByteArray := do
  match ← disk.resolve true path with
  | .entry _ .directory _ => throw .isDirectory
  | .entry _ _ true => throw .notDirectory
  | .entry _ (.file content) _ => return content
  | .entry _ (.link _) _ => throw .tooManyLinks
  | .entry _ .full _ => throw .outOfMemory
  | .free _ _ _ => throw .notFound

/-- The names in the directory that a path leads to. -/
def list (disk : Disk) (path : String) : Except OsError (List String) := do
  match ← disk.resolve true path with
  | .entry place .directory _ => return disk.namesIn place
  | .entry _ _ _ => throw .notDirectory
  | .free _ _ _ => throw .notFound

/-! ## Changes -/

/-- Makes a directory in a directory that is there. -/
def makeDirectory (disk : Disk) (path : String) : Except OsError Disk := do
  match ← disk.resolve false path with
  | .entry _ _ _ => throw .exists
  | .free directory name _ => return disk.put (directory ++ [name]) .directory

/-- The file that is opened for writing. No directory is ever opened, and a path with a slash at its
end asks for one, whatever its last name. -/
def openFor (disk : Disk) (mode : WriteMode) (path : String) : Except OsError Place := do
  if Path.endsInSeparator path then
    let _ ← disk.resolveSteps true path ((steps path).dropLast ++ ["."])
    throw .isDirectory
  match mode with
  | .createNew =>
    match ← disk.resolve false path with
    | .entry _ _ _ => throw .exists
    | .free directory name _ => return directory ++ [name]
  | .overwrite =>
    match ← disk.resolve true path with
    | .entry _ .directory _ | .entry _ _ true | .free _ _ true => throw .isDirectory
    | .entry _ (.link _) _ => throw .tooManyLinks
    | .entry place _ _ => return place
    | .free directory name _ => return directory ++ [name]

/-- Writes a whole file. -/
def write (disk : Disk) (mode : WriteMode) (path : String) (content : ByteArray) :
    Except WriteError Disk :=
  match disk.openFor mode path with
  | .error e => .error (.opening e)
  | .ok place =>
    if (disk.lookup place).any Entry.isFull then
      if content.isEmpty then .ok disk else .error (.writing .noSpace)
    else .ok (disk.put place (.file content))

/-- Removes a name that is not a directory. -/
def remove (disk : Disk) (path : String) : Except OsError Disk := do
  match ← disk.resolve false path with
  | .entry _ .directory _ => throw .isDirectory
  | .entry _ _ true => throw .notDirectory
  | .entry place _ _ => return disk.erase place
  | .free _ _ _ => throw .notFound

/-- Makes a symbolic link. -/
def makeLink (disk : Disk) (target path : String) : Except OsError Disk := do
  if target.isEmpty then
    throw .notFound
  match ← disk.resolve false path with
  | .entry _ _ _ => throw .exists
  | .free _ _ true => throw .notFound
  | .free directory name _ => return disk.put (directory ++ [name]) (.link target)

end Disk

end Recast
