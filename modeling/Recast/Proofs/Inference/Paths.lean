import Recast.Proofs.Generation.Files
import Recast.Proofs.Json.Keys
import Recast.Proofs.Json.Strings

/-!
# A key path is an address

The written form of a path can be read back. A key behind a dot has only
characters that no step begins with, so it ends where the next step begins; a
key in brackets is a JSON string, which says itself where it ends; and `[0]` is
no such string. So two paths that are written alike are one path
(`KeyPath.text_injective`).

A path is followed in a value by keys and first elements. Where no object has a
key twice, this leads back to every object of the listing, along the route that
the listing has for it. No two objects of a listing share a route, so no two
classes of a schema share a path.
-/

namespace Recast

variable {s : List Char} {key : String} {fields : List (String × Json)}

/-! ## Reading a path -/

namespace KeyPath

open Name (isNameChar)

/-- The step at the front of a text and what follows it. -/
def readStep? : List Char → Option (Step × List Char)
  | '.' :: s =>
    some (.key (String.ofList (s.takeWhile isNameChar)),
      s.dropWhile isNameChar)
  | '[' :: '0' :: ']' :: s => some (.first, s)
  | '[' :: '"' :: s =>
    match Json.readString s with
    | .ok (name, ']' :: s) => some (.key (String.ofList name), s)
    | _ => none
  | _ => none

/-- The steps that a text consists of, at most so many. -/
def readSteps? : Nat → List Char → Option KeyPath
  | _, [] => some []
  | 0, _ :: _ => none
  | fuel + 1, c :: s => do
    let (step, rest) ← readStep? (c :: s)
    let path ← readSteps? fuel rest
    return step :: path

/-- The path that is written so. -/
def read? (text : String) : Option KeyPath :=
  match text.toList with
  | '$' :: s => readSteps? s.length s
  | _ => none

/-- The characters behind `$`. -/
def stepsText (path : KeyPath) : List Char :=
  path.flatMap fun step => (stepText step).toList

theorem toList_text (path : KeyPath) :
    path.text.toList = '$' :: path.stepsText := by
  rw [text, String.toList_append, String.toList_join, List.flatMap_map]
  rfl

/-- A path is written step by step, from `$` on. -/
theorem text_concat (path : KeyPath) (step : Step) :
    text (path ++ [step]) = path.text ++ stepText step := by
  rw [← String.toList_inj, String.toList_append, toList_text, toList_text,
    stepsText, List.flatMap_append, List.flatMap_singleton]
  rfl

theorem toList_stepText_plain {name : String} (h : isPlain name = true) :
    (stepText (.key name)).toList = '.' :: name.toList := by
  rw [stepText, if_pos h, String.toList_append]
  rfl

theorem toList_stepText_quoted {name : String} (h : isPlain name = false) :
    (stepText (.key name)).toList
      = '[' :: '"' :: (name.toList.flatMap Json.escapeChar ++ ['"', ']']) := by
  rw [stepText, if_neg (by simp [h]), String.toList_append,
    String.toList_append, Json.toList_quoted]
  simp

/-- Every step begins with a character that no key behind a dot has. -/
theorem head?_stepsText (path : KeyPath) :
    ∀ c ∈ path.stepsText.head?, isNameChar c = false := by
  intro c hc
  match path with
  | [] => cases hc
  | .first :: path =>
      cases hc
      decide
  | .key name :: path =>
      rw [stepsText, List.flatMap_cons] at hc
      by_cases h : isPlain name = true
      · rw [toList_stepText_plain h] at hc
        cases hc
        decide
      · rw [toList_stepText_quoted (by simpa using h)] at hc
        cases hc
        decide

theorem readStep?_stepText (step : Step)
    (h : ∀ c ∈ s.head?, isNameChar c = false) :
    readStep? ((stepText step).toList ++ s) = some (step, s) := by
  match step with
  | .first => rfl
  | .key name =>
      by_cases hname : isPlain name = true
      case neg =>
        have hname : isPlain name = false := by simpa using hname
        rw [toList_stepText_quoted hname]
        simp only [List.cons_append, List.append_assoc, List.nil_append]
        rw [readStep?, Json.readString_body]
        simp
      case pos =>
        have hall : ∀ c ∈ name.toList, isNameChar c = true := by
          rw [isPlain, Bool.and_eq_true, List.all_eq_true] at hname
          exact hname.2
        rw [toList_stepText_plain hname, List.cons_append, readStep?,
          List.takeWhile_append_of_pos hall, List.dropWhile_append_of_pos hall]
        have hend : s.takeWhile isNameChar = [] ∧
            s.dropWhile isNameChar = s := by
          match s with
          | [] => exact ⟨rfl, rfl⟩
          | c :: s => simp [h c rfl]
        rw [hend.1, hend.2, List.append_nil, String.ofList_toList]

theorem exists_stepText_cons (step : Step) :
    ∃ c s, (stepText step).toList = c :: s := by
  refine List.exists_cons_of_ne_nil fun hnil => ?_
  have hread := readStep?_stepText (s := []) step nofun
  rw [hnil] at hread
  cases hread

theorem readSteps?_stepsText (path : KeyPath) {fuel : Nat}
    (h : path.stepsText.length ≤ fuel) :
    readSteps? fuel path.stepsText = some path := by
  induction path generalizing fuel with
  | nil =>
      rw [stepsText, List.flatMap_nil, readSteps?]
  | cons step path ih =>
      have hread := readStep?_stepText step (head?_stepsText path)
      rw [stepsText, List.flatMap_cons, ← stepsText] at h ⊢
      obtain ⟨c, t, hstep⟩ := exists_stepText_cons step
      rw [hstep, List.cons_append] at hread h ⊢
      obtain ⟨fuel, rfl⟩ : ∃ n, fuel = n + 1 :=
        Nat.exists_eq_add_of_le' (Nat.lt_of_lt_of_le (Nat.succ_pos _) h)
      rw [List.length_cons, List.length_append] at h
      have hrest : readSteps? fuel (stepsText path) = some path := ih (by omega)
      rw [readSteps?, hread]
      simp [hrest]

theorem read?_text (path : KeyPath) : read? path.text = some path := by
  rw [read?, toList_text]
  exact readSteps?_stepsText path (Nat.le_refl _)

/-- Paths that are written alike are one path. -/
theorem text_injective : Function.Injective text :=
  fun path other h => Option.some.inj (by rw [← read?_text, h, read?_text])

end KeyPath

/-! ## Following a path -/

/-- What a path leads to in a value, and the turns that are taken. -/
def Json.reach? : KeyPath → Json → Option (Route × Json)
  | [], value => some ([], value)
  | .key name :: path, .object fields => do
    let value ← Json.field? name fields
    let (route, inner) ← value.reach? path
    return (.field ((fields.map Prod.fst).idxOf name) :: route, inner)
  | .first :: path, .array (item :: _) => do
    let (route, inner) ← item.reach? path
    return (.first :: route, inner)
  | _, _ => none

/-- Where keys are distinct, a key leads to its field. -/
theorem Json.field?_of_getElem? {j : Nat} {value : Json}
    (hdistinct : (fields.map Prod.fst).Nodup)
    (hfield : fields[j]? = some (key, value)) :
    Json.field? key fields = some value ∧
      (fields.map Prod.fst).idxOf key = j := by
  induction fields generalizing j with
  | nil => cases hfield
  | cons field fields ih =>
      obtain ⟨k, v⟩ := field
      rw [List.map_cons, List.nodup_cons] at hdistinct
      rw [Json.field?, List.map_cons]
      match j with
      | 0 =>
          cases hfield
          simp
      | j + 1 =>
          rw [List.getElem?_cons_succ] at hfield
          have hne : k ≠ key := by
            rintro rfl
            exact hdistinct.1
              (List.mem_map.mpr ⟨_, List.mem_of_getElem? hfield, rfl⟩)
          obtain ⟨hvalue, hindex⟩ := ih hdistinct.2 hfield
          exact ⟨by rw [if_neg hne, hvalue],
            by rw [List.idxOf_cons_ne _ hne, hindex]⟩

theorem Json.reach?_key {j : Nat} {value inner : Json} {path : KeyPath}
    {route : Route} (hdistinct : (fields.map Prod.fst).Nodup)
    (hfield : fields[j]? = some (key, value))
    (h : value.reach? path = some (route, inner)) :
    (Json.object fields).reach? (.key key :: path)
      = some (.field j :: route, inner) := by
  obtain ⟨hvalue, hindex⟩ := Json.field?_of_getElem? hdistinct hfield
  rw [Json.reach?, hvalue, hindex]
  simp [h]

theorem Json.reach?_first {item inner : Json} {items : List Json}
    {path : KeyPath} {route : Route}
    (h : item.reach? path = some (route, inner)) :
    (Json.array (item :: items)).reach? (.first :: path)
      = some (.first :: route, inner) := by
  rw [Json.reach?]
  simp [h]

namespace Infer

/-! An object of a listing is at the end of its path, and its route is the way
there. A listing that starts inside the document extends the path and the route
it is given, so it is the extensions that are followed. -/

mutual

theorem reaches_of_mem_objectsAt {met : MetObject} :
    ∀ (value : Json) (owner : String) (route : Route) (path : KeyPath),
      value.KeysDistinct → met ∈ value.objectsAt owner route path →
      ∃ turns steps, met.route = route ++ turns ∧ met.path = path ++ steps ∧
        value.reach? steps = some (turns, .object met.fields)
  | .null, owner, route, path, _, h | .boolean _, owner, route, path, _, h
  | .number _, owner, route, path, _, h | .string _, owner, route, path, _, h
  | .array [], owner, route, path, _, h => by
      rw [Json.objectsAt] at h
      cases h
  | .array (item :: _), owner, route, path, hkeys, h => by
      rw [Json.objectsAt] at h
      cases hkeys with
      | array hinner =>
          have hitem := hinner item List.mem_cons_self
          obtain ⟨turns, steps, hroute, hpath, hreach⟩ :=
            reaches_of_mem_objectsAt item owner _ _ hitem h
          exact ⟨.first :: turns, .first :: steps, by simp [hroute],
            by simp [hpath], Json.reach?_first hreach⟩
  | .object fields, owner, route, path, hkeys, h => by
      rw [Json.objectsAt] at h
      rcases List.mem_cons.mp h with rfl | hmem
      · exact ⟨[], [], by simp, by simp, by rw [Json.reach?]⟩
      · cases hkeys with
        | object hdistinct hinner =>
            obtain ⟨j, key, value, turns, steps, hfield, hroute, hpath,
              hreach⟩ :=
              reaches_of_mem_fieldObjectsAt fields route path 0 hinner hmem
            rw [Nat.zero_add] at hroute
            exact ⟨.field j :: turns, .key key :: steps, hroute, hpath,
              Json.reach?_key hdistinct hfield hreach⟩

theorem reaches_of_mem_fieldObjectsAt {met : MetObject} :
    ∀ (fields : List (String × Json)) (route : Route) (path : KeyPath)
      (position : Nat), (∀ field ∈ fields, field.2.KeysDistinct) →
      met ∈ Json.fieldObjectsAt route path position fields →
      ∃ j key value turns steps, fields[j]? = some (key, value) ∧
        met.route = route ++ .field (position + j) :: turns ∧
        met.path = path ++ .key key :: steps ∧
        value.reach? steps = some (turns, .object met.fields)
  | [], route, path, position, _, h => by
      rw [Json.fieldObjectsAt] at h
      cases h
  | (key, value) :: fields, route, path, position, hkeys, h => by
      rw [Json.fieldObjectsAt] at h
      obtain ⟨hvalue, hfields⟩ := List.forall_mem_cons.mp hkeys
      rcases List.mem_append.mp h with hmem | hmem
      · obtain ⟨turns, steps, hroute, hpath, hreach⟩ :=
          reaches_of_mem_objectsAt value key _ _ hvalue hmem
        exact ⟨0, key, value, turns, steps, rfl, by simp [hroute],
          by simp [hpath], hreach⟩
      · obtain ⟨j, k, v, turns, steps, hfield, hroute, hpath, hreach⟩ :=
          reaches_of_mem_fieldObjectsAt fields route path (position + 1) hfields
            hmem
        refine ⟨j + 1, k, v, turns, steps, hfield, ?_, hpath, hreach⟩
        rw [hroute, Nat.add_right_comm, Nat.add_assoc]

end

/-- From the root of a listing the path and the route themselves are
followed. -/
theorem reach?_of_mem_objectsAt {met : MetObject} {value : Json}
    {owner : String} (hkeys : value.KeysDistinct)
    (h : met ∈ value.objectsAt owner [] []) :
    value.reach? met.path = some (met.route, .object met.fields) := by
  obtain ⟨turns, steps, hroute, hpath, hreach⟩ :=
    reaches_of_mem_objectsAt value owner [] [] hkeys h
  rw [hroute, hpath]
  exact hreach

end Infer

/-! ## The paths of a schema -/

/-- The path of a class is the address of an object, and the class has the keys
of that object. -/
structure ClassShape.Addresses (root : Json) (met : MetObject)
    (shape : ClassShape) : Prop where
  path_eq : KeyPath.read? shape.path = some met.path
  reach_eq : root.reach? met.path = some (met.route, .object met.fields)
  keys_eq : shape.attributes.map Attribute.key = met.fields.map Prod.fst

namespace Schema

/-- Equal paths lead to one object, which the listing has only once. -/
theorem nodup_paths {root : Json} {objects : List MetObject}
    {classes : List ClassShape} (hnodup : (objects.map MetObject.route).Nodup)
    (h : List.Forall₂ (ClassShape.Addresses root) objects classes) :
    (classes.map ClassShape.path).Nodup := by
  let turns (written : String) : Option Route :=
    (KeyPath.read? written).bind fun path => (root.reach? path).map Prod.fst
  have hturns : (classes.map ClassShape.path).map turns
      = (objects.map MetObject.route).map some := by
    rw [List.map_map, List.map_map]
    refine List.map_eq_map_of_forall₂ h fun met shape haddress => ?_
    simp only [Function.comp_apply, turns, haddress.path_eq, Option.bind_some,
      haddress.reach_eq, Option.map_some]
  refine List.Nodup.of_map turns ?_
  rw [hturns]
  exact hnodup.map fun _ _ => Option.some.inj

/-- A path is written step by step and no two paths alike, and each class of a
schema is reached by its own: what is written leads from the selected root to
the object that the class was inferred from. So no two classes have one path,
and no two files one origin. The condition on the document is met by every
document that was read. -/
theorem paths_of_infer {document : Json} {name : String} {schema : Schema}
    (hkeys : document.KeysDistinct)
    (h : (Schema.infer document name).outcome = .ok schema) :
    (∀ (path : KeyPath) step, KeyPath.text (path ++ [step])
      = path.text ++ KeyPath.stepText step) ∧
    Function.Injective KeyPath.text ∧
    (∃ fields, (document = .object fields ∨
        ∃ others, document = .array (.object fields :: others)) ∧
      List.Forall₂ (ClassShape.Addresses (.object fields))
        ((Json.object fields).objectsAt name [] []) schema.classes) ∧
    (schema.classes.map ClassShape.path).Nodup ∧
    (∀ language table files,
      (emit language table schema.classes).outcome = .ok files →
      (files.map SourceFile.origin).Nodup) ∧
    ∀ text read, Json.decode text = .ok read → read.KeysDistinct := by
  obtain ⟨fields, hroot, hlists⟩ := lists_of_infer h
  have hdistinct : (Json.object fields).KeysDistinct := by
    rcases hroot with rfl | ⟨others, rfl⟩
    · exact hkeys
    · cases hkeys with
      | array hinner => exact hinner _ List.mem_cons_self
  have haddresses : List.Forall₂ (ClassShape.Addresses (.object fields))
      ((Json.object fields).objectsAt name [] []) schema.classes := by
    refine List.forall₂_iff_get.mpr ⟨hlists.size_eq.symm, fun i hi hi' => ?_⟩
    obtain ⟨-, hdescribes⟩ := hlists.describes i _ _
      (List.getElem?_eq_getElem hi) (List.getElem?_eq_getElem hi')
    exact {
      path_eq := (congrArg KeyPath.read? hdescribes.path_eq).trans
        (KeyPath.read?_text _)
      reach_eq := Infer.reach?_of_mem_objectsAt hdistinct (List.getElem_mem hi)
      keys_eq := hdescribes.names_eq }
  have hpaths := nodup_paths hlists.nodup haddresses
  refine ⟨KeyPath.text_concat, KeyPath.text_injective,
    ⟨fields, hroot, haddresses⟩, hpaths, fun language table files hfiles => ?_,
    fun text read => Json.keysDistinct_of_decode⟩
  have horigins : files.map SourceFile.origin
      = schema.classes.map ClassShape.path :=
    List.map_eq_map_of_forall₂ (emit_eq_ok.mp hfiles) fun _ _ h => h.names.1
  rwa [horigins]

/-- A dot, a quote and brackets in keys, and a key that looks like a first
element. -/
def oddDocument : Json :=
  .object [
    ("a.b", .array [.object [("\"c]", .object [("x", .null)])]]),
    ("[0]", .object [("y", .boolean true)])]

def oddSchema : Schema where
  classes := [
    ⟨0, "root", "$", [⟨"a.b", .array (.ref 1)⟩, ⟨"[0]", .ref 3⟩]⟩,
    ⟨1, "a.b", "$[\"a.b\"][0]", [⟨"\"c]", .ref 2⟩]⟩,
    ⟨2, "\"c]", "$[\"a.b\"][0][\"\\\"c]\"]", [⟨"x", .scalar .string⟩]⟩,
    ⟨3, "[0]", "$[\"[0]\"]", [⟨"y", .scalar .boolean⟩]⟩]

theorem paths_of_infer_odd :
    oddDocument.KeysDistinct ∧
      (Schema.infer oddDocument "root").outcome = .ok oddSchema ∧
      (oddSchema.classes.map ClassShape.path).Nodup := by
  have hx : (Json.object [("x", .null)]).KeysDistinct :=
    .object (by decide) (List.forall_mem_singleton.mpr .null)
  have hy : (Json.object [("y", .boolean true)]).KeysDistinct :=
    .object (by decide) (List.forall_mem_singleton.mpr (.boolean true))
  have hc : (Json.object [("\"c]", .object [("x", .null)])]).KeysDistinct :=
    .object (by decide) (List.forall_mem_singleton.mpr hx)
  have hkeys : oddDocument.KeysDistinct :=
    .object (by decide) (List.forall_mem_cons.mpr
      ⟨.array (List.forall_mem_singleton.mpr hc),
        List.forall_mem_singleton.mpr hy⟩)
  have h : (Schema.infer oddDocument "root").outcome = .ok oddSchema := rfl
  obtain ⟨-, -, -, hpaths, -⟩ := paths_of_infer hkeys h
  exact ⟨hkeys, h, hpaths⟩

end Schema
end Recast
