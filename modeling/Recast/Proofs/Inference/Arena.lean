import Mathlib.Data.List.Flatten
import Mathlib.Data.List.Forall2
import Mathlib.Data.List.Nodup
import Recast.Proofs.Inference.Walk

/-!
# A schema is the pre-order listing of the objects of its document

The walk hands out class numbers from a counter and returns the classes it
met, so what a class number means is only clear from the whole run. Here the
meaning is given without a run: `Json.objectsAt` lists the objects of a value
in depth-first pre-order, each with the route that leads to it, and a schema is
shown to be that listing, entry by entry.

A reference is right if it is the position of the very object that the value
is. Two objects of a document may have equal fields, and even equal keys on
the way to them, so an object is told by its route; no two objects of a
listing share one. `Mirrors` says of a value at the end of a route which type
it has relative to a listing.

The walk over a part of the document sees only its own piece of the listing.
The lemma that carries the induction therefore speaks of any listing that has
this piece at the counter the walk was given.
-/

namespace Recast

/-- A turn on the way to a value: into the field at a position, or into the
first element of an array. -/
inductive Turn
  | field (position : Nat)
  | first
  deriving DecidableEq, Repr

/-- The turns that lead from the root of a document to a value. -/
abbrev Route := List Turn

/-- An object that the walk meets. -/
structure MetObject where
  route : Route
  path : KeyPath
  /-- The key that the object belongs to, also through arrays. -/
  owner : String
  fields : List (String × Json)

mutual

/-- The objects of a value in pre-order, arrays entered through their first
element only. -/
def Json.objectsAt (owner : String) (route : Route) (path : KeyPath) :
    Json → List MetObject
  | .null | .boolean _ | .number _ | .string _ | .array [] => []
  | .array (item :: _) =>
    item.objectsAt owner (route ++ [.first]) (path ++ [.first])
  | .object fields =>
    ⟨route, path, owner, fields⟩ :: Json.fieldObjectsAt route path 0 fields

/-- The objects in the fields of an object, from a position on. -/
def Json.fieldObjectsAt (route : Route) (path : KeyPath) (position : Nat) :
    List (String × Json) → List MetObject
  | [] => []
  | (key, value) :: fields =>
    value.objectsAt key (route ++ [.field position]) (path ++ [.key key]) ++
      Json.fieldObjectsAt route path (position + 1) fields

end

/-- The type of a value at the end of a route, its references being positions
in a list of objects. -/
inductive Mirrors (objects : List MetObject) :
    Route → Json → DataType ClassId → Prop
  | null {route} : Mirrors objects route .null (.scalar .string)
  | string {route s} : Mirrors objects route (.string s) (.scalar .string)
  | boolean {route b} : Mirrors objects route (.boolean b) (.scalar .boolean)
  | integer {route n} :
    Mirrors objects route (.number (.integer n)) (.scalar .integer)
  | float {route} : Mirrors objects route (.number .float) (.scalar .float)
  | array {route item items type} :
    Mirrors objects (route ++ [.first]) item type →
    Mirrors objects route (.array (item :: items)) (.array type)
  | object {route path owner fields i} :
    objects[i]? = some ⟨route, path, owner, fields⟩ →
    Mirrors objects route (.object fields) (.ref i)

/-- A class says what an object is, relative to a list of objects. -/
structure Describes (objects : List MetObject) (met : MetObject)
    (shape : ClassShape) : Prop where
  key_eq : shape.key = met.owner
  path_eq : shape.path = met.path.text
  names_eq : shape.attributes.map Attribute.key = met.fields.map Prod.fst
  mirrors : ∀ j field attr, met.fields[j]? = some field →
    shape.attributes[j]? = some attr →
    Mirrors objects (met.route ++ [.field j]) field.2 attr.type

namespace Infer

variable {objects : List MetObject}

/-! ## Routes

The route of a value opens the routes of all objects found in it, and what
stands in different fields is told apart by the turn after that. -/

mutual

theorem route_prefix_of_mem_objectsAt {met : MetObject} :
    ∀ (value : Json) (owner : String) (route : Route) (path : KeyPath),
      met ∈ value.objectsAt owner route path → route <+: met.route
  | .null, owner, route, path, h | .boolean _, owner, route, path, h
  | .number _, owner, route, path, h | .string _, owner, route, path, h
  | .array [], owner, route, path, h => by
      rw [Json.objectsAt] at h
      cases h
  | .array (item :: _), owner, route, path, h => by
      rw [Json.objectsAt] at h
      exact (List.prefix_append route [.first]).trans
        (route_prefix_of_mem_objectsAt item owner _ _ h)
  | .object fields, owner, route, path, h => by
      rw [Json.objectsAt] at h
      rcases List.mem_cons.mp h with rfl | hmem
      · exact List.prefix_refl route
      · obtain ⟨j, -, hj⟩ := turn_of_mem_fieldObjectsAt fields route path 0 hmem
        exact (List.prefix_append route [.field j]).trans hj

theorem turn_of_mem_fieldObjectsAt {met : MetObject} :
    ∀ (fields : List (String × Json)) (route : Route) (path : KeyPath)
      (position : Nat), met ∈ Json.fieldObjectsAt route path position fields →
      ∃ j, position ≤ j ∧ route ++ [.field j] <+: met.route
  | [], route, path, position, h => by
      rw [Json.fieldObjectsAt] at h
      cases h
  | (key, value) :: fields, route, path, position, h => by
      rw [Json.fieldObjectsAt] at h
      rcases List.mem_append.mp h with hmem | hmem
      · exact ⟨position, Nat.le_refl _,
          route_prefix_of_mem_objectsAt value key _ _ hmem⟩
      · obtain ⟨j, hle, hj⟩ :=
          turn_of_mem_fieldObjectsAt fields route path (position + 1) hmem
        exact ⟨j, by omega, hj⟩

end

/-- Two prefixes that differ in their last turn only agree in it. -/
theorem turn_eq_of_prefix {route whole : Route} {s t : Turn}
    (hs : route ++ [s] <+: whole) (ht : route ++ [t] <+: whole) : s = t := by
  have heq := List.prefix_of_prefix_length_le hs ht (by simp)
  simpa using heq

mutual

theorem nodup_routes_objectsAt :
    ∀ (value : Json) (owner : String) (route : Route) (path : KeyPath),
      ((value.objectsAt owner route path).map MetObject.route).Nodup
  | .null, owner, route, path | .boolean _, owner, route, path
  | .number _, owner, route, path | .string _, owner, route, path
  | .array [], owner, route, path => by
      rw [Json.objectsAt]
      exact List.nodup_nil
  | .array (item :: _), owner, route, path => by
      rw [Json.objectsAt]
      exact nodup_routes_objectsAt item owner _ _
  | .object fields, owner, route, path => by
      rw [Json.objectsAt, List.map_cons, List.nodup_cons]
      refine ⟨?_, nodup_routes_fieldObjectsAt fields route path 0⟩
      intro hmem
      obtain ⟨met, hmet, heq⟩ := List.mem_map.mp hmem
      obtain ⟨j, -, hj⟩ := turn_of_mem_fieldObjectsAt fields route path 0 hmet
      have hlen := hj.length_le
      rw [heq, List.length_append, List.length_singleton] at hlen
      exact absurd hlen (Nat.not_succ_le_self _)

theorem nodup_routes_fieldObjectsAt :
    ∀ (fields : List (String × Json)) (route : Route) (path : KeyPath)
      (position : Nat),
      ((Json.fieldObjectsAt route path position fields).map
        MetObject.route).Nodup
  | [], route, path, position => by
      rw [Json.fieldObjectsAt]
      exact List.nodup_nil
  | (key, value) :: fields, route, path, position => by
      rw [Json.fieldObjectsAt, List.map_append, List.nodup_append]
      refine ⟨nodup_routes_objectsAt value key _ _,
        nodup_routes_fieldObjectsAt fields route path (position + 1), ?_⟩
      rintro p hp q hq rfl
      obtain ⟨a, ha, rfl⟩ := List.mem_map.mp hp
      obtain ⟨b, hb, hab⟩ := List.mem_map.mp hq
      have hhere := route_prefix_of_mem_objectsAt value key _ _ ha
      obtain ⟨j, hle, hthere⟩ :=
        turn_of_mem_fieldObjectsAt fields route path (position + 1) hb
      rw [hab] at hthere
      have hturn := turn_eq_of_prefix hhere hthere
      injection hturn with hj
      omega

end

/-! ## The walk follows the listing

The piece of the listing that a part of the walk is responsible for starts at
the counter the walk is given. A type is then right relative to the whole
listing, and the classes that were found describe the objects of the piece in
the same order. -/

theorem objectsAt_of_scalar {value : Json} {kind : Scalar} {owner : String}
    {route : Route} {path : KeyPath} (h : value.kind = .scalar kind) :
    value.objectsAt owner route path = [] := by
  match value with
  | .null | .boolean _ | .number _ | .string _ | .array [] =>
      rw [Json.objectsAt]
  | .array (_ :: _) | .object _ =>
      simp [Json.kind] at h

theorem mirrors_of_scalar {value : Json} {kind : Scalar} {route : Route}
    (h : value.kind = .scalar kind) :
    Mirrors objects route value (.scalar kind) := by
  match value with
  | .null | .boolean _ | .string _ | .number (.integer _) | .number .float =>
      rw [Json.kind] at h
      injection h with h
      subst h
      constructor
  | .array [] | .array (_ :: _) | .object _ =>
      simp [Json.kind] at h

/-- A piece of a listing that falls into two parts. -/
theorem prefix_append_split {a b l : List MetObject} {n : Nat}
    (h : a ++ b <+: l.drop n) :
    a <+: l.drop n ∧ b <+: l.drop (n + a.length) := by
  obtain ⟨rest, hrest⟩ := h
  refine ⟨⟨b ++ rest, by rw [← hrest, List.append_assoc]⟩, rest, ?_⟩
  rw [← List.drop_drop, ← hrest, List.append_assoc, List.drop_left]

theorem walk_describes :
    (∀ value key path next type found,
      (walkValue key path next value).outcome = .ok (type, found) →
      ∀ route, value.objectsAt key route path <+: objects.drop next →
        Mirrors objects route value type ∧
        List.Forall₂ (Describes objects) (value.objectsAt key route path)
          found) ∧
    (∀ fields path next attributes found,
      (walkFields path next fields).outcome = .ok (attributes, found) →
      ∀ route position,
        Json.fieldObjectsAt route path position fields <+: objects.drop next →
        attributes.map Attribute.key = fields.map Prod.fst ∧
        (∀ j field attr, fields[j]? = some field → attributes[j]? = some attr →
          Mirrors objects (route ++ [.field (position + j)]) field.2 attr.type) ∧
        List.Forall₂ (Describes objects)
          (Json.fieldObjectsAt route path position fields) found) := by
  apply walk_induction
  case scalar =>
    intro key path next value kind hkind route _
    rw [objectsAt_of_scalar hkind]
    exact ⟨mirrors_of_scalar hkind, .nil⟩
  case array =>
    intro key path next item items type found ih route hpiece
    rw [Json.objectsAt] at hpiece ⊢
    obtain ⟨hmirrors, hfound⟩ := ih (route ++ [.first]) hpiece
    exact ⟨.array hmirrors, hfound⟩
  case object =>
    intro key path next fields attributes inside ih route hpiece
    rw [Json.objectsAt] at hpiece ⊢
    obtain ⟨hself, hinside⟩ :=
      prefix_append_split (a := [⟨route, path, key, fields⟩]) hpiece
    obtain ⟨hnames, hmirrors, hfound⟩ := ih route 0 hinside
    have hat : objects[next]? = some ⟨route, path, key, fields⟩ := by
      obtain ⟨rest, hrest⟩ := hself
      rw [← Nat.add_zero next, ← List.getElem?_drop, ← hrest]
      rfl
    refine ⟨.object hat, .cons ⟨rfl, rfl, hnames, ?_⟩ hfound⟩
    intro j field attr hfield hattr
    have hj := hmirrors j field attr hfield hattr
    rwa [Nat.zero_add] at hj
  case nil =>
    intro path next route position _
    rw [Json.fieldObjectsAt]
    exact ⟨rfl, fun j field attr hfield _ => by simp at hfield, .nil⟩
  case cons =>
    intro path next key value fields type inside others outside _ ihv ihf
      route position hpiece
    rw [Json.fieldObjectsAt] at hpiece ⊢
    obtain ⟨hhere, hlater⟩ := prefix_append_split hpiece
    obtain ⟨hmirror, hinside⟩ := ihv _ hhere
    rw [hinside.length_eq] at hlater
    obtain ⟨hnames, hmirrors, houtside⟩ := ihf route (position + 1) hlater
    refine ⟨by simp [hnames], ?_, List.rel_append hinside houtside⟩
    intro j field attr hfield hattr
    match j with
    | 0 =>
        simp only [List.getElem?_cons_zero, Option.some.injEq] at hfield hattr
        subst hfield hattr
        exact hmirror
    | j + 1 =>
        simp only [List.getElem?_cons_succ] at hfield hattr
        have hj := hmirrors j field attr hfield hattr
        rwa [Nat.add_right_comm, Nat.add_assoc] at hj

/-! ## Numbers and references

Class numbers count up from the counter, and over a whole walk every number
that was handed out is mentioned exactly once: by the type of the value itself
or by an attribute of a class found in it. -/

theorem walk_ids :
    (∀ value key path next type found,
      (walkValue key path next value).outcome = .ok (type, found) →
      found.map ClassShape.id = List.range' next found.length) ∧
    (∀ fields path next attributes found,
      (walkFields path next fields).outcome = .ok (attributes, found) →
      found.map ClassShape.id = List.range' next found.length) := by
  apply walk_induction
  case scalar => intros; rfl
  case array => intro key path next item items type found ih; exact ih
  case object =>
    intro key path next fields attributes inside ih
    rw [List.map_cons, ih, List.length_cons, List.range'_succ]
  case nil => intros; rfl
  case cons =>
    intro path next key value fields type inside others outside _ ihv ihf
    rw [List.map_append, ihv, ihf, List.length_append, List.range'_append_1]

end Infer

/-- The classes that a class refers to, attribute by attribute. -/
def ClassShape.refs (shape : ClassShape) : List ClassId :=
  shape.attributes.flatMap (·.type.refs)

namespace Infer

theorem walk_refs_perm :
    (∀ value key path next type found,
      (walkValue key path next value).outcome = .ok (type, found) →
      (type.refs ++ found.flatMap ClassShape.refs).Perm
        (List.range' next found.length)) ∧
    (∀ fields path next attributes found,
      (walkFields path next fields).outcome = .ok (attributes, found) →
      (attributes.flatMap (·.type.refs) ++
        found.flatMap ClassShape.refs).Perm
        (List.range' next found.length)) := by
  apply walk_induction
  case scalar => intros; exact .refl _
  case array => intro key path next item items type found ih; exact ih
  case object =>
    intro key path next fields attributes inside ih
    rw [List.length_cons, List.range'_succ]
    exact ih.cons next
  case nil => intros; exact .refl _
  case cons =>
    intro path next key value fields type inside others outside _ ihv ihf
    rw [List.flatMap_cons, List.flatMap_append, List.length_append,
      ← List.range'_append_1]
    refine .trans ?_ (ihv.append ihf)
    rw [List.append_assoc, List.append_assoc]
    refine .append_left _ ?_
    rw [← List.append_assoc, ← List.append_assoc]
    exact List.perm_append_comm.append_right _

/-- What a walk mentions is not below its counter, so a class only refers to
classes that come after it. -/
theorem walk_refs_gt :
    (∀ value key path next type found,
      (walkValue key path next value).outcome = .ok (type, found) →
      (∀ i ∈ type.refs, next ≤ i) ∧
      ∀ shape ∈ found, ∀ i ∈ shape.refs, shape.id < i) ∧
    (∀ fields path next attributes found,
      (walkFields path next fields).outcome = .ok (attributes, found) →
      (∀ i ∈ attributes.flatMap (·.type.refs), next ≤ i) ∧
      ∀ shape ∈ found, ∀ i ∈ shape.refs, shape.id < i) := by
  apply walk_induction
  case scalar => intros; exact ⟨nofun, nofun⟩
  case array => intro key path next item items type found ih; exact ih
  case object =>
    intro key path next fields attributes inside ih
    refine ⟨fun i hi => Nat.le_of_eq (List.mem_singleton.mp hi).symm, ?_⟩
    intro shape hshape
    rcases List.mem_cons.mp hshape with rfl | hmem
    · exact ih.1
    · exact ih.2 shape hmem
  case nil => intros; exact ⟨nofun, nofun⟩
  case cons =>
    intro path next key value fields type inside others outside _ ihv ihf
    constructor
    · intro i hi
      rw [List.flatMap_cons] at hi
      rcases List.mem_append.mp hi with h | h
      · exact ihv.1 i h
      · exact Nat.le_trans (Nat.le_add_right _ _) (ihf.1 i h)
    · intro shape hshape
      rcases List.mem_append.mp hshape with h | h
      · exact ihv.2 shape h
      · exact ihf.2 shape h

end Infer

/-! ## The whole schema -/

/-- No map occurs in a type. -/
def DataType.mapFree {ρ : Type} : DataType ρ → Bool
  | .scalar _ | .ref _ => true
  | .array item => item.mapFree
  | .map _ _ => false

theorem Mirrors.mapFree {objects : List MetObject} {route : Route}
    {value : Json} {type : DataType ClassId}
    (h : Mirrors objects route value type) : type.mapFree = true := by
  induction h with
  | null | string | boolean | integer | float | object _ => rfl
  | array _ ih => exact ih

namespace Schema

/-- The attribute at a position of the class at a position mentions a class. -/
def Refers (schema : Schema) (source : ClassId × Nat) (target : ClassId) :
    Prop :=
  ∃ shape attr, schema.classes[source.1]? = some shape ∧
    shape.attributes[source.2]? = some attr ∧ target ∈ attr.type.refs

/-- The classes of a schema are the objects of a list, in the same order. The
last part makes `Mirrors` mean what it should: the position of an object in
the list is unique. -/
structure Lists (schema : Schema) (objects : List MetObject) : Prop where
  size_eq : schema.size = objects.length
  describes : ∀ i met shape, objects[i]? = some met →
    schema.classes[i]? = some shape → shape.id = i ∧ Describes objects met shape
  nodup : (objects.map MetObject.route).Nodup

theorem lists_of_infer {document : Json} {name : String} {schema : Schema}
    (h : (Schema.infer document name).outcome = .ok schema) :
    ∃ fields, (document = .object fields ∨
        ∃ others, document = .array (.object fields :: others)) ∧
      schema.Lists ((Json.object fields).objectsAt name [] []) := by
  obtain ⟨fields, hroot, -, -, type, hwalk⟩ := infer_eq_ok.mp h
  refine ⟨fields, (Json.selectRoot_eq_ok.mp hroot).2, ?_⟩
  obtain ⟨-, hfound⟩ := Infer.walk_describes.1 _ _ _ _ _ _ hwalk []
    (List.prefix_refl _)
  have hids := Infer.walk_ids.1 _ _ _ _ _ _ hwalk
  refine ⟨hfound.length_eq.symm, ?_, Infer.nodup_routes_objectsAt _ _ _ _⟩
  intro i met shape hmet hshape
  constructor
  · have hi := congrArg (·[i]?) hids
    obtain ⟨hlt, -⟩ := List.getElem?_eq_some_iff.mp hshape
    simpa [hshape, List.getElem?_range' hlt] using hi
  · obtain ⟨hlt, rfl⟩ := List.getElem?_eq_some_iff.mp hmet
    obtain ⟨hlt', rfl⟩ := List.getElem?_eq_some_iff.mp hshape
    exact hfound.get hlt hlt'

theorem refs_perm_of_infer {document : Json} {name : String} {schema : Schema}
    (h : (Schema.infer document name).outcome = .ok schema) :
    (0 :: schema.classes.flatMap ClassShape.refs).Perm
      (List.range' 0 schema.size) := by
  obtain ⟨fields, -, -, -, type, hwalk⟩ := infer_eq_ok.mp h
  obtain ⟨_, _, -, rfl, -⟩ := Infer.walkValue_object_eq_ok.mp hwalk
  exact Infer.walk_refs_perm.1 _ _ _ _ _ _ hwalk

theorem id_of_infer {document : Json} {name : String} {schema : Schema}
    (h : (Schema.infer document name).outcome = .ok schema) {i : ClassId}
    {shape : ClassShape} (hshape : schema.classes[i]? = some shape) :
    shape.id = i := by
  obtain ⟨fields, -, hlists⟩ := lists_of_infer h
  obtain ⟨hlt, -⟩ := List.getElem?_eq_some_iff.mp hshape
  have hmet : i < ((Json.object fields).objectsAt name [] []).length :=
    Nat.lt_of_lt_of_eq hlt hlists.size_eq
  exact (hlists.describes i _ shape (List.getElem?_eq_getElem hmet) hshape).1

/-- A class is mentioned by a class before it. -/
theorem Refers.lt {document : Json} {name : String} {schema : Schema}
    (h : (Schema.infer document name).outcome = .ok schema)
    {source : ClassId × Nat} {target : ClassId}
    (href : schema.Refers source target) :
    source.1 < target ∧ target < schema.size := by
  obtain ⟨shape, attr, hshape, hattr, htarget⟩ := href
  have hmem := List.mem_of_getElem? hshape
  have hin : target ∈ shape.refs :=
    List.mem_flatMap.mpr ⟨attr, List.mem_of_getElem? hattr, htarget⟩
  constructor
  · obtain ⟨fields, -, -, -, type, hwalk⟩ := infer_eq_ok.mp h
    rw [← id_of_infer h hshape]
    exact (Infer.walk_refs_gt.1 _ _ _ _ _ _ hwalk).2 shape hmem target hin
  · have hall := (refs_perm_of_infer h).mem_iff.mp
      (List.mem_cons_of_mem 0 (List.mem_flatMap.mpr ⟨shape, hmem, hin⟩))
    simpa using hall

/-- Where a list of lists has no double member, a member has one place. -/
theorem eq_of_mem_of_nodup_flatMap {α β : Type} {f : α → List β} {l : List α}
    (hnodup : (l.flatMap f).Nodup) {i j : Nat} {a b : α} {x : β}
    (ha : l[i]? = some a) (hb : l[j]? = some b) (hxa : x ∈ f a)
    (hxb : x ∈ f b) : i = j := by
  have hapart := (List.nodup_flatMap.mp hnodup).2
  obtain ⟨hi, rfl⟩ := List.getElem?_eq_some_iff.mp ha
  obtain ⟨hj, rfl⟩ := List.getElem?_eq_some_iff.mp hb
  rcases Nat.lt_trichotomy i j with hlt | heq | hlt
  · exact absurd hxb (List.pairwise_iff_getElem.mp hapart i j hi hj hlt hxa)
  · exact heq
  · exact absurd hxa (List.pairwise_iff_getElem.mp hapart j i hj hi hlt hxb)

theorem existsUnique_refers {document : Json} {name : String} {schema : Schema}
    (h : (Schema.infer document name).outcome = .ok schema) {target : ClassId}
    (hpos : 0 < target) (hlt : target < schema.size) :
    ∃! source, schema.Refers source target := by
  have hperm := refs_perm_of_infer h
  have hnodup : (schema.classes.flatMap ClassShape.refs).Nodup :=
    (List.nodup_cons.mp (hperm.nodup_iff.mpr List.nodup_range')).2
  have hmem : target ∈ schema.classes.flatMap ClassShape.refs := by
    have hall := hperm.mem_iff.mpr
      (List.mem_range'_1.mpr
        ⟨Nat.zero_le target, (Nat.zero_add schema.size).symm ▸ hlt⟩)
    rcases List.mem_cons.mp hall with hzero | hin
    · exact absurd hzero (Nat.ne_of_gt hpos)
    · exact hin
  obtain ⟨shape, hshape, hrefs⟩ := List.mem_flatMap.mp hmem
  obtain ⟨attr, hattr, htarget⟩ := List.mem_flatMap.mp hrefs
  obtain ⟨i, hi⟩ := List.getElem?_of_mem hshape
  obtain ⟨j, hj⟩ := List.getElem?_of_mem hattr
  refine ⟨(i, j), ⟨shape, attr, hi, hj, htarget⟩, ?_⟩
  rintro ⟨i', j'⟩ ⟨shape', attr', hi', hj', htarget'⟩
  have hrefs' : target ∈ shape'.refs :=
    List.mem_flatMap.mpr ⟨attr', List.mem_of_getElem? hj', htarget'⟩
  have heq : i' = i := eq_of_mem_of_nodup_flatMap hnodup hi' hi hrefs' hrefs
  subst heq
  have hshapes : shape' = shape := Option.some.inj (hi'.symm.trans hi)
  subst hshapes
  have hown : shape'.refs.Nodup := (List.nodup_flatMap.mp hnodup).1 _ hshape
  exact congrArg _ (eq_of_mem_of_nodup_flatMap hown hj' hj htarget' htarget)

theorem mapFree_of_infer {document : Json} {name : String} {schema : Schema}
    (h : (Schema.infer document name).outcome = .ok schema)
    {shape : ClassShape} (hshape : shape ∈ schema.classes) {attr : Attribute}
    (hattr : attr ∈ shape.attributes) : attr.type.mapFree = true := by
  obtain ⟨fields, -, hlists⟩ := lists_of_infer h
  obtain ⟨i, hi⟩ := List.getElem?_of_mem hshape
  obtain ⟨j, hj⟩ := List.getElem?_of_mem hattr
  obtain ⟨hlt, -⟩ := List.getElem?_eq_some_iff.mp hi
  have hmet : i < ((Json.object fields).objectsAt name [] []).length :=
    Nat.lt_of_lt_of_eq hlt hlists.size_eq
  obtain ⟨-, hdescribes⟩ :=
    hlists.describes i _ shape (List.getElem?_eq_getElem hmet) hi
  obtain ⟨hjlt, -⟩ := List.getElem?_eq_some_iff.mp hj
  have hlen := congrArg List.length hdescribes.names_eq
  simp only [List.length_map] at hlen
  exact (hdescribes.mirrors j _ attr
    (List.getElem?_eq_getElem (hlen ▸ hjlt)) hj).mapFree

/-- Inference lists the objects of the selected root. Hence every class but
the root is mentioned by exactly one attribute, which belongs to a class before
it, and no type contains a map. -/
theorem infer_lists_objects {document : Json} {name : String} {schema : Schema}
    (h : (Schema.infer document name).outcome = .ok schema) :
    (∃ fields, (document = .object fields ∨
        ∃ others, document = .array (.object fields :: others)) ∧
      schema.Lists ((Json.object fields).objectsAt name [] [])) ∧
    (∀ target, 0 < target → target < schema.size →
      ∃! source, schema.Refers source target) ∧
    (∀ source target, schema.Refers source target →
      source.1 < target ∧ target < schema.size) ∧
    (∀ shape ∈ schema.classes, ∀ attr ∈ shape.attributes,
      attr.type.mapFree = true) :=
  ⟨lists_of_infer h, fun _ hpos hlt => existsUnique_refers h hpos hlt,
    fun _ _ href => href.lt h,
    fun _ hshape _ hattr => mapFree_of_infer h hshape hattr⟩

/-- Records, of which only the first is looked at: an object two arrays deep,
an object without fields, and arrays whose later elements are ignored. -/
def gridDocument : Json :=
  .array [
    .object [
      ("grid", .array [.array [.object [("x", .null)], .boolean true]]),
      ("home", .object []),
      ("sizes", .array [.number .float, .object [("y", .null)]])],
    .string "ignored"]

def gridSchema : Schema where
  classes := [
    ⟨0, "root", "$", [⟨"grid", .array (.array (.ref 1))⟩, ⟨"home", .ref 2⟩,
      ⟨"sizes", .array (.scalar .float)⟩]⟩,
    ⟨1, "grid", "$.grid[0][0]", [⟨"x", .scalar .string⟩]⟩,
    ⟨2, "home", "$.home", []⟩]

theorem infer_lists_objects_grid :
    (Schema.infer gridDocument "root").outcome = .ok gridSchema ∧
      (∃! source, gridSchema.Refers source 2) ∧
      ∀ source, gridSchema.Refers source 2 → source.1 < 2 := by
  have h : (Schema.infer gridDocument "root").outcome = .ok gridSchema := rfl
  obtain ⟨-, hunique, hbefore, -⟩ := infer_lists_objects h
  exact ⟨h, hunique 2 (by decide) (by decide),
    fun source href => (hbefore source 2 href).1⟩

end Schema
end Recast
