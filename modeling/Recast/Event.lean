import Recast.Language

/-!
# What a generation reports while it runs

Each event is one thing that happened, with what is worth knowing about it. How it is laid out for a
log (a level, a message, named fields) is read off the event. A log shows the events of one level and
of those above it.
-/

namespace Recast

inductive Level
  | debug
  | info
  | warn
  deriving DecidableEq, Repr

def Level.name : Level → String
  | debug => "DEBUG"
  | info => "INFO"
  | warn => "WARN"

def Level.rank : Level → Nat
  | debug => 0
  | info => 1
  | warn => 2

/-- The least level that a log shows, by how often it was asked to show more. -/
def Level.leastShown : Nat → Level
  | 0 => warn
  | 1 => info
  | _ => debug

inductive Event
  /-- Elements of a top-level array that were not looked at. -/
  | discardedElements (count : Nat)
  | inferredClass (name path : String) (attributes : Nat)
  | finishedInference (classes : Nat)
  /-- A class moved from its plain file, held by the class first met at `holder`, to another. -/
  | renamedFile (plain settled path holder : String)
  | emittedClass (className fileName : String) (fields : Nat)
  | generated (language : Language) (root : String) (files : Nat)
  deriving DecidableEq, Repr

namespace Event

def level : Event → Level
  | renamedFile .. => .warn
  | generated .. => .info
  | _ => .debug

def message : Event → String
  | discardedElements _ => "top-level array: inferring from the first element"
  | inferredClass .. => "inferred class"
  | finishedInference _ => "inference finished"
  | renamedFile .. => "duplicate class file name, renamed"
  | emittedClass .. => "emitted class"
  | generated .. => "generated"

/-- The fields of an event besides its message. -/
def fields : Event → List (String × String)
  | discardedElements count => [("discarded", toString count)]
  | inferredClass name path attributes =>
    [("class", name), ("path", path), ("attributes", toString attributes)]
  | finishedInference classes => [("classes", toString classes)]
  | renamedFile plain settled path holder =>
    [("from", plain), ("to", settled), ("origin", path), ("first", holder)]
  | emittedClass className fileName fields =>
    [("class", className), ("file", fileName), ("fields", toString fields)]
  | generated language root files =>
    [("target_language", language.id), ("root", root), ("files", toString files)]

/-- Does a log that begins at a level show the event? -/
def isShown (least : Level) (event : Event) : Bool :=
  least.rank ≤ event.level.rank

/-- The line of an event in a log. -/
def line (event : Event) : String :=
  event.level.name ++ " " ++ event.message ++
    String.join (event.fields.map fun (name, value) => " " ++ name ++ "=" ++ value) ++ "\n"

end Event

end Recast
