import Recast.Name.Case
import Recast.Schema.Basic
import Recast.Schema.KeyPath
import Recast.Traced

/-!
# Inference

Every object met on a walk through the document becomes a class; no two are merged, even when they
sit under the same key and agree in shape. The walk is depth first, in the order of the keys, and
enters an array through its first element only. A class takes its number when the walk reaches its
object, so it stands before the classes of the objects inside it.

The walk is given the next free number and returns the classes it met, in the order of their numbers;
their count is what the next part of the walk has to skip.
-/

namespace Recast

open Traced (report fail)

namespace Infer

mutual

/-- The attributes of the fields of an object at a path, and the classes found in them. -/
def walkFields (path : KeyPath) (next : ClassId) :
    List (String × Json) → Traced (List Attribute × List ClassShape)
  | [] => pure ([], [])
  | (key, value) :: fields => do
    let here := path ++ [.key key]
    if !Name.usable key then
      fail (.invalidName key here.text)
    let (type, found) ← walkValue key here next value
    let (attributes, others) ← walkFields path (next + found.length) fields
    return (⟨key, type⟩ :: attributes, found ++ others)

/-- The type of a value that belongs to a key, and the classes found in it. -/
def walkValue (key : String) (path : KeyPath) (next : ClassId) :
    Json → Traced (DataType ClassId × List ClassShape)
  | .null => pure (.scalar .string, [])
  | .boolean _ => pure (.scalar .boolean, [])
  | .number n => pure (.scalar n.scalar, [])
  | .string _ => pure (.scalar .string, [])
  | .array [] => fail (.emptyArray path.text)
  | .array (item :: _) => do
    let (type, found) ← walkValue key (path ++ [.first]) next item
    return (.array type, found)
  | .object fields => do
    let (attributes, found) ← walkFields path (next + 1) fields
    report (.inferredClass key path.text attributes.length)
    return (.ref next, ⟨next, key, path.text, attributes⟩ :: found)

end

end Infer

/-! ## The root -/

/-- The object whose shape becomes the root class. A top-level array stands for many records of one
shape, and its first element for all of them. -/
def Json.selectRoot (document : Json) : Traced (List (String × Json)) := do
  match document with
  | .array (first :: others) =>
    if !others.isEmpty then
      report (.discardedElements others.length)
    match first with
    | .object fields => nonempty fields
    | _ => fail (.unsuitableRoot .arrayOfOthers)
  | .object fields => nonempty fields
  | value => fail (.unsuitableRoot (.value value))
where
  nonempty (fields : List (String × Json)) : Traced (List (String × Json)) :=
    if fields.isEmpty then fail .emptySchema else pure fields

/-- The schema of an object, its class named `name`. -/
def Schema.ofFields (fields : List (String × Json)) (name : String) : Traced Schema := do
  if fields.isEmpty then
    fail .emptySchema
  if !Name.usable name then
    fail (.invalidName name (KeyPath.text []))
  let (_, classes) ← Infer.walkValue name [] 0 (.object fields)
  report (.finishedInference classes.length)
  return ⟨classes⟩

/-- The schema of a document. -/
def Schema.infer (document : Json) (name : String) : Traced Schema := do
  let fields ← document.selectRoot
  Schema.ofFields fields name

end Recast
