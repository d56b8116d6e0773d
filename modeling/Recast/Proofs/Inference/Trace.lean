import Recast.Proofs.Inference.Arena

/-!
# Inference reports its classes in post-order

A class takes its number when the walk reaches its object and is reported when
the walk leaves it. So the schema lists the classes in pre-order and the events
list them in post-order, and what the two orders are orders of is a tree: below
each class stand the classes that its attributes refer to.

The tree is not handed out by the walk. Each part of the walk contributes a row
of trees, whose roots are the classes that the types of this part refer to, and
a class is put on top of the row of its fields. A schema leaves no choice of its
tree: how many trees stand below a class is the number of its references, so the
pre-order can be cut in one way only.
-/

namespace Recast

open Traced (report)

/-- A row of classes, each with the row of those below it. -/
inductive ClassForest
  | nil
  | node (shape : ClassShape) (inside others : ClassForest)

namespace ClassForest

/-- Each class in front of those below it. -/
def preorder : ClassForest → List ClassShape
  | nil => []
  | node shape inside others => shape :: (inside.preorder ++ others.preorder)

/-- Each class behind those below it. -/
def postorder : ClassForest → List ClassShape
  | nil => []
  | node shape inside others => inside.postorder ++ shape :: others.postorder

/-- The numbers of the classes that nothing stands above. -/
def roots : ClassForest → List ClassId
  | nil => []
  | node shape _ others => shape.id :: others.roots

/-- Below each class stand the classes that it refers to, in the order of its
attributes. -/
def Follows : ClassForest → Prop
  | nil => True
  | node shape inside others =>
    inside.roots = shape.refs ∧ inside.Follows ∧ others.Follows

def append : ClassForest → ClassForest → ClassForest
  | nil, row => row
  | node shape inside others, row => node shape inside (others.append row)

variable {f g : ClassForest}

theorem preorder_append (f g : ClassForest) :
    (f.append g).preorder = f.preorder ++ g.preorder := by
  induction f with
  | nil => rfl
  | node shape inside others _ ih =>
      rw [append, preorder, ih, preorder, List.cons_append, List.append_assoc]

theorem postorder_append (f g : ClassForest) :
    (f.append g).postorder = f.postorder ++ g.postorder := by
  induction f with
  | nil => rfl
  | node shape inside others _ ih =>
      rw [append, postorder, ih, postorder, List.append_assoc, List.cons_append]

theorem roots_append (f g : ClassForest) :
    (f.append g).roots = f.roots ++ g.roots := by
  induction f with
  | nil => rfl
  | node shape inside others _ ih =>
      rw [append, roots, ih, roots, List.cons_append]

theorem Follows.append (hf : f.Follows) (hg : g.Follows) :
    (f.append g).Follows := by
  induction f with
  | nil => exact hg
  | node shape inside others _ ih => exact ⟨hf.1, hf.2.1, ih hf.2.2⟩

/-- Rows with as many trees are told apart by their pre-order, whatever stands
behind it. -/
theorem eq_of_preorder_append (hf : f.Follows) (hg : g.Follows)
    (hroots : f.roots.length = g.roots.length) {s t : List ClassShape}
    (h : f.preorder ++ s = g.preorder ++ t) : f = g ∧ s = t := by
  induction f generalizing g s t with
  | nil =>
      cases g with
      | nil => exact ⟨rfl, h⟩
      | node shape inside others => cases hroots
  | node shape inside others ihi iho =>
      cases g with
      | nil => cases hroots
      | node shape' inside' others' =>
          rw [preorder, preorder, List.cons_append, List.cons_append,
            List.append_assoc, List.append_assoc] at h
          obtain ⟨rfl, hrest⟩ := List.cons.inj h
          have hinside : inside.roots.length = inside'.roots.length := by
            rw [hf.1, hg.1]
          have hothers : others.roots.length = others'.roots.length :=
            Nat.succ.inj hroots
          obtain ⟨rfl, hlater⟩ := ihi hf.2.1 hg.2.1 hinside hrest
          obtain ⟨rfl, hbehind⟩ := iho hf.2.2 hg.2.2 hothers hlater
          exact ⟨rfl, hbehind⟩

/-- The class tree of a schema: its pre-order is the schema, its root is the
class of the document, and it follows the references. -/
structure IsTreeOf (schema : Schema) (tree : ClassForest) : Prop where
  preorder_eq : tree.preorder = schema.classes
  roots_eq : tree.roots = [0]
  follows : tree.Follows

theorem IsTreeOf.unique {schema : Schema} (hf : IsTreeOf schema f)
    (hg : IsTreeOf schema g) : f = g := by
  have hroots : f.roots.length = g.roots.length := by
    rw [hf.roots_eq, hg.roots_eq]
  have hsame : f.preorder ++ [] = g.preorder ++ [] := by
    rw [hf.preorder_eq, hg.preorder_eq]
  exact (eq_of_preorder_append hf.follows hg.follows hroots hsame).1

end ClassForest

/-- What is reported of a class. -/
def ClassShape.inferred (shape : ClassShape) : Event :=
  .inferredClass shape.key shape.path shape.attributes.length

namespace Infer

open Traced (events_bind_ok)

/-! ## The events of one step -/

variable {key : String} {path : KeyPath} {next : ClassId} {value : Json}
  {fields : List (String × Json)} {type : DataType ClassId}
  {attributes : List Attribute} {inside outside found : List ClassShape}

theorem events_walkFields_cons (hkey : Name.usable key = true)
    (hvalue : (walkValue key (path ++ [.key key]) next value).outcome
      = .ok (type, inside))
    (hfields : (walkFields path (next + inside.length) fields).outcome
      = .ok (attributes, outside)) :
    (walkFields path next ((key, value) :: fields)).events
      = (walkValue key (path ++ [.key key]) next value).events
        ++ (walkFields path (next + inside.length) fields).events := by
  rw [walkFields]
  simp only [hkey, Bool.not_true, Bool.false_eq_true, if_false]
  rw [events_bind_ok hvalue, events_bind_ok hfields, Traced.events_pure,
    List.append_nil]

theorem events_walkValue_array {item : Json} {items : List Json}
    (h : (walkValue key (path ++ [.first]) next item).outcome
      = .ok (type, found)) :
    (walkValue key path next (.array (item :: items))).events
      = (walkValue key (path ++ [.first]) next item).events := by
  rw [walkValue, events_bind_ok h, Traced.events_pure, List.append_nil]

theorem events_walkValue_object
    (h : (walkFields path (next + 1) fields).outcome = .ok (attributes, inside)) :
    (walkValue key path next (.object fields)).events
      = (walkFields path (next + 1) fields).events
        ++ [.inferredClass key path.text attributes.length] := by
  rw [walkValue, events_bind_ok h]
  rfl

theorem walkValue_scalar {kind : Scalar} (h : value.kind = .scalar kind) :
    walkValue key path next value = pure (.scalar kind, []) := by
  match value with
  | .null | .boolean _ | .number _ | .string _ =>
      rw [Json.kind] at h
      injection h with h
      rw [walkValue, h]
  | .array [] | .array (_ :: _) | .object _ => simp [Json.kind] at h

/-! ## The rows of a walk -/

/-- A part of a walk that refers to these classes at its top, has found these
classes and has reported these events: a row of trees accounts for all three. -/
def Grows (refs : List ClassId) (found : List ClassShape)
    (events : List Event) : Prop :=
  ∃ row : ClassForest, row.roots = refs ∧ row.preorder = found ∧ row.Follows ∧
    events = row.postorder.map ClassShape.inferred

theorem grows_nil : Grows [] [] [] :=
  ⟨.nil, rfl, rfl, trivial, rfl⟩

theorem Grows.append {refs more : List ClassId} {events later : List Event}
    (h : Grows refs inside events) (h' : Grows more outside later) :
    Grows (refs ++ more) (inside ++ outside) (events ++ later) := by
  obtain ⟨f, rfl, rfl, hf, rfl⟩ := h
  obtain ⟨g, rfl, rfl, hg, rfl⟩ := h'
  exact ⟨f.append g, f.roots_append g, f.preorder_append g, hf.append hg,
    by rw [f.postorder_append, List.map_append]⟩

theorem Grows.under {events : List Event} (shape : ClassShape)
    (h : Grows shape.refs inside events) :
    Grows [shape.id] (shape :: inside) (events ++ [shape.inferred]) := by
  obtain ⟨row, hroots, rfl, hfollows, rfl⟩ := h
  refine ⟨.node shape row .nil, rfl, ?_, ⟨hroots, hfollows, trivial⟩, ?_⟩
  · rw [ClassForest.preorder, ClassForest.preorder, List.append_nil]
  · rw [ClassForest.postorder, ClassForest.postorder, List.map_append]
    rfl

/-- The induction carries the success of each part along, since the events of a
computation in two steps are known only where the first step succeeds. -/
theorem walk_grows :
    (∀ value key path next type found,
      (walkValue key path next value).outcome = .ok (type, found) →
      (walkValue key path next value).outcome = .ok (type, found) ∧
        Grows type.refs found (walkValue key path next value).events) ∧
    (∀ fields path next attributes found,
      (walkFields path next fields).outcome = .ok (attributes, found) →
      (walkFields path next fields).outcome = .ok (attributes, found) ∧
        Grows (attributes.flatMap (·.type.refs)) found
          (walkFields path next fields).events) := by
  apply walk_induction
  case scalar =>
    intro key path next value kind hkind
    rw [walkValue_scalar hkind]
    exact ⟨rfl, grows_nil⟩
  case array =>
    intro key path next item items type found ih
    refine ⟨walkValue_array_eq_ok.mpr ⟨type, ih.1, rfl⟩, ?_⟩
    rw [events_walkValue_array ih.1]
    exact ih.2
  case object =>
    intro key path next fields attributes inside ih
    refine ⟨walkValue_object_eq_ok.mpr ⟨attributes, inside, ih.1, rfl, rfl⟩, ?_⟩
    rw [events_walkValue_object ih.1]
    exact ih.2.under ⟨next, key, path.text, attributes⟩
  case nil =>
    intro path next
    rw [walkFields]
    exact ⟨rfl, grows_nil⟩
  case cons =>
    intro path next key value fields type inside others outside hkey ihv ihf
    refine ⟨walkFields_cons_eq_ok.mpr
      ⟨hkey, type, inside, others, outside, ihv.1, ihf.1, rfl, rfl⟩, ?_⟩
    rw [events_walkFields_cons hkey ihv.1 ihf.1, List.flatMap_cons]
    exact ihv.2.append ihf.2

end Infer

/-! ## The whole inference -/

/-- What is reported of the elements that are not looked at. -/
def Json.discarded : Json → List Event
  | .array items =>
    if 1 < items.length then [.discardedElements (items.length - 1)] else []
  | _ => []

theorem Json.events_selectRoot {document : Json}
    {fields : List (String × Json)}
    (h : document.selectRoot.outcome = .ok fields) :
    document.selectRoot.events = document.discarded := by
  have hnonempty : (Json.selectRoot.nonempty fields).events = [] := by
    rw [Json.selectRoot.nonempty]
    split <;> rfl
  obtain ⟨-, rfl | ⟨others, rfl⟩⟩ := Json.selectRoot_eq_ok.mp h
  · exact hnonempty
  · cases others with
    | nil => exact hnonempty
    | cons item others =>
        have hreport : (report
            (.discardedElements (item :: others).length)).outcome = .ok () := rfl
        rw [Json.discarded, if_pos (by simp)]
        show (report (.discardedElements (item :: others).length) >>= fun _ =>
          Json.selectRoot.nonempty fields).events = _
        rw [Traced.events_bind_ok hreport, hnonempty]
        rfl

/-- What inference reports: the elements it does not look at, then the classes
in the post-order of their tree, and then how many there are. -/
theorem Schema.events_infer {document : Json} {name : String} {schema : Schema}
    (h : (Schema.infer document name).outcome = .ok schema) :
    ∃ tree, ClassForest.IsTreeOf schema tree ∧
      (Schema.infer document name).events
        = document.discarded ++ (tree.postorder.map ClassShape.inferred
          ++ [.finishedInference schema.size]) := by
  obtain ⟨fields, hroot, hne, hname, type, hwalk⟩ := infer_eq_ok.mp h
  obtain ⟨-, tree, hroots, hpreorder, hfollows, hevents⟩ :=
    Infer.walk_grows.1 _ _ _ _ _ _ hwalk
  obtain ⟨_, _, -, rfl, -⟩ := Infer.walkValue_object_eq_ok.mp hwalk
  refine ⟨tree, ⟨hpreorder, hroots, hfollows⟩, ?_⟩
  rw [infer, Traced.events_bind_ok hroot, Json.events_selectRoot hroot, ofFields]
  simp only [List.isEmpty_iff, hne, hname, Bool.not_true, Bool.false_eq_true,
    if_false]
  rw [Traced.events_bind_ok hwalk, hevents]
  rfl

end Recast
