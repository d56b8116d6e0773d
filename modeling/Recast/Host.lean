import Recast.Disk
import Recast.Event

/-!
# The surroundings of a command

A command reads files, asks about paths, writes files and prints. It is written against these
operations alone, so that it runs on a real system and, step for step the same, on a disk that is a
value. It also hands over the events of its generations, for a log if there is one; what a log shows
is up to the surroundings, and nothing a command does depends on it.
-/

namespace Recast

/-- What a path leads to. -/
inductive NodeKind
  | directory
  | other
  deriving DecidableEq, Repr

class Host (m : Type → Type) where
  /-- The bytes of a file. -/
  read : String → m (Except OsError ByteArray)
  /-- What a path leads to, links followed. -/
  kind? : String → m (Option NodeKind)
  /-- Is there anything by that name, be it a link that leads nowhere? -/
  hasName : String → m Bool
  /-- The names in a directory. -/
  list : String → m (Except OsError (List String))
  makeDirectory : String → m (Except OsError Unit)
  /-- Writes a whole file. -/
  write : WriteMode → String → String → m (Except WriteError Unit)
  /-- Prints to the standard output. -/
  print : String → m Unit
  /-- Prints to the standard error. -/
  report : String → m Unit
  /-- Takes the events of a generation, in order. -/
  log : List Event → m Unit

/-- Surroundings that are a value: a disk, and what has been printed. No log is kept. -/
structure World where
  disk : Disk
  output : String := ""
  errors : String := ""

namespace World

/-- A change of the disk that may fail, and then changes nothing. -/
def change {ε : Type} (f : Disk → Except ε Disk) : StateM World (Except ε Unit) :=
  fun world =>
    match f world.disk with
    | .error e => (.error e, world)
    | .ok disk => (.ok (), { world with disk := disk })

instance : Host (StateM World) where
  read path world := (world.disk.read path, world)
  kind? path world :=
    ((world.disk.entry? true path).map fun
      | .directory => .directory
      | _ => .other, world)
  hasName path world := ((world.disk.entry? false path).isSome, world)
  list path world := (world.disk.list path, world)
  makeDirectory path := change (·.makeDirectory path)
  write mode path text := change (·.write mode path text.toUTF8)
  print text world := ((), { world with output := world.output ++ text })
  report text world := ((), { world with errors := world.errors ++ text })
  log _ world := ((), world)

end World

end Recast
