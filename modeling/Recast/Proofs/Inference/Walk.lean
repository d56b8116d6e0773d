import Recast.Schema.Infer

/-!
# What a successful walk looks like

The walk over a document is two mutually recursive computations, one over a
value and one over the fields of an object, and each of them reports events
and may fail. Everything that is proved about inferred schemas needs the same
first step: open a run that succeeded and read off what its parts returned.

That step is taken here once. The two inversion lemmas say what a successful
run over the fields of an object and over a value consists of, and
`walk_induction` packs the mutual recursion over the document into one
induction principle, so that no later proof recurses over a document to learn
something about its schema.
-/

namespace Recast

open Traced (outcome_bind_eq_ok)

namespace Infer

/-! ## Opening one step -/

theorem walkFields_nil_eq_ok {path : KeyPath} {next : ClassId}
    {attributes : List Attribute} {found : List ClassShape} :
    (walkFields path next []).outcome = .ok (attributes, found) ↔
      attributes = [] ∧ found = [] := by
  rw [walkFields]
  simp [eq_comm]

theorem walkFields_cons_eq_ok {path : KeyPath} {next : ClassId} {key : String}
    {value : Json} {fields : List (String × Json)}
    {attributes : List Attribute} {found : List ClassShape} :
    (walkFields path next ((key, value) :: fields)).outcome
        = .ok (attributes, found) ↔
      Name.usable key = true ∧ ∃ type inside others outside,
        (walkValue key (path ++ [.key key]) next value).outcome
          = .ok (type, inside) ∧
        (walkFields path (next + inside.length) fields).outcome
          = .ok (others, outside) ∧
        attributes = ⟨key, type⟩ :: others ∧ found = inside ++ outside := by
  rw [walkFields]
  by_cases hkey : Name.usable key = true
  · simp only [hkey, Bool.not_true, Bool.false_eq_true, if_false,
      outcome_bind_eq_ok, true_and]
    constructor
    · rintro ⟨⟨type, inside⟩, hvalue, ⟨others, outside⟩, hfields, heq⟩
      simp only [Traced.outcome_pure, Except.ok.injEq, Prod.mk.injEq] at heq
      exact ⟨type, inside, others, outside, hvalue, hfields, heq.1.symm,
        heq.2.symm⟩
    · rintro ⟨type, inside, others, outside, hvalue, hfields, rfl, rfl⟩
      exact ⟨(type, inside), hvalue, (others, outside), hfields, rfl⟩
  · simp [hkey, Except.bind]

theorem walkValue_array_eq_ok {key : String} {path : KeyPath} {next : ClassId}
    {item : Json} {items : List Json} {type : DataType ClassId}
    {found : List ClassShape} :
    (walkValue key path next (.array (item :: items))).outcome
        = .ok (type, found) ↔
      ∃ itemType, (walkValue key (path ++ [.first]) next item).outcome
        = .ok (itemType, found) ∧ type = .array itemType := by
  rw [walkValue]
  simp only [outcome_bind_eq_ok]
  constructor
  · rintro ⟨⟨itemType, inside⟩, hitem, heq⟩
    simp only [Traced.outcome_pure, Except.ok.injEq, Prod.mk.injEq] at heq
    obtain ⟨rfl, rfl⟩ := heq
    exact ⟨itemType, hitem, rfl⟩
  · rintro ⟨itemType, hitem, rfl⟩
    exact ⟨(itemType, found), hitem, rfl⟩

theorem walkValue_object_eq_ok {key : String} {path : KeyPath} {next : ClassId}
    {fields : List (String × Json)} {type : DataType ClassId}
    {found : List ClassShape} :
    (walkValue key path next (.object fields)).outcome = .ok (type, found) ↔
      ∃ attributes inside,
        (walkFields path (next + 1) fields).outcome
          = .ok (attributes, inside) ∧
        type = .ref next ∧
        found = ⟨next, key, path.text, attributes⟩ :: inside := by
  rw [walkValue]
  simp only [outcome_bind_eq_ok]
  constructor
  · rintro ⟨⟨attributes, inside⟩, hfields, _, -, heq⟩
    simp only [Traced.outcome_pure, Except.ok.injEq, Prod.mk.injEq] at heq
    exact ⟨attributes, inside, hfields, heq.1.symm, heq.2.symm⟩
  · rintro ⟨attributes, inside, hfields, rfl, rfl⟩
    exact ⟨(attributes, inside), hfields, (), rfl, rfl⟩

/-! ## One induction for all -/

section Induction

variable
  {V : String → KeyPath → ClassId → Json → DataType ClassId →
    List ClassShape → Prop}
  {F : KeyPath → ClassId → List (String × Json) → List Attribute →
    List ClassShape → Prop}

/-- What a walk over a value and a walk over fields establish, if each step
establishes it from the parts of the step. The scalar case is given the kind
of the value and not its constructor, since the walk does not tell `null` from
a string either. -/
theorem walk_induction
    (scalar : ∀ key path next value kind, value.kind = .scalar kind →
      V key path next value (.scalar kind) [])
    (array : ∀ key path next item items type found,
      V key (path ++ [.first]) next item type found →
      V key path next (.array (item :: items)) (.array type) found)
    (object : ∀ key path next fields attributes inside,
      F path (next + 1) fields attributes inside →
      V key path next (.object fields) (.ref next)
        (⟨next, key, path.text, attributes⟩ :: inside))
    (nil : ∀ path next, F path next [] [] [])
    (cons : ∀ path next key value fields type inside others outside,
      Name.usable key = true →
      V key (path ++ [.key key]) next value type inside →
      F path (next + inside.length) fields others outside →
      F path next ((key, value) :: fields) (⟨key, type⟩ :: others)
        (inside ++ outside)) :
    (∀ value key path next type found,
      (walkValue key path next value).outcome = .ok (type, found) →
      V key path next value type found) ∧
    (∀ fields path next attributes found,
      (walkFields path next fields).outcome = .ok (attributes, found) →
      F path next fields attributes found) :=
  ⟨onValue, onFields⟩
where
  onValue : ∀ value key path next type found,
      (walkValue key path next value).outcome = .ok (type, found) →
      V key path next value type found
    | .null, key, path, next, type, found, h
    | .boolean _, key, path, next, type, found, h
    | .number _, key, path, next, type, found, h
    | .string _, key, path, next, type, found, h => by
        rw [walkValue] at h
        simp only [Traced.outcome_pure, Except.ok.injEq, Prod.mk.injEq] at h
        obtain ⟨rfl, rfl⟩ := h
        exact scalar key path next _ _ rfl
    | .array [], key, path, next, type, found, h => by
        rw [walkValue] at h
        simp at h
    | .array (item :: items), key, path, next, type, found, h => by
        obtain ⟨itemType, hitem, rfl⟩ := walkValue_array_eq_ok.mp h
        exact array key path next item items itemType found
          (onValue item key (path ++ [.first]) next itemType found hitem)
    | .object fields, key, path, next, type, found, h => by
        obtain ⟨attributes, inside, hfields, rfl, rfl⟩ :=
          walkValue_object_eq_ok.mp h
        exact object key path next fields attributes inside
          (onFields fields path (next + 1) attributes inside hfields)
  onFields : ∀ fields path next attributes found,
      (walkFields path next fields).outcome = .ok (attributes, found) →
      F path next fields attributes found
    | [], path, next, attributes, found, h => by
        obtain ⟨rfl, rfl⟩ := walkFields_nil_eq_ok.mp h
        exact nil path next
    | (key, value) :: fields, path, next, attributes, found, h => by
        obtain ⟨hkey, type, inside, others, outside, hvalue, hfields, rfl, rfl⟩ :=
          walkFields_cons_eq_ok.mp h
        exact cons path next key value fields type inside others outside hkey
          (onValue value key (path ++ [.key key]) next type inside hvalue)
          (onFields fields path (next + inside.length) others outside hfields)

end Induction

/-! ## Keys

The walk checks each key before it looks at the value, so once it has
succeeded no later stage meets a key without a name. -/

/-- The keys that a class is named after and that its fields have. -/
def KeysUsable (shape : ClassShape) : Prop :=
  Name.usable shape.key = true ∧
    ∀ attr ∈ shape.attributes, Name.usable attr.key = true

theorem walk_keysUsable :
    (∀ value key path next type found,
      (walkValue key path next value).outcome = .ok (type, found) →
      Name.usable key = true → ∀ shape ∈ found, KeysUsable shape) ∧
    (∀ fields path next attributes found,
      (walkFields path next fields).outcome = .ok (attributes, found) →
      (∀ attr ∈ attributes, Name.usable attr.key = true) ∧
      ∀ shape ∈ found, KeysUsable shape) := by
  apply walk_induction
  case scalar => intro key path next value kind _ _ shape hshape; cases hshape
  case array => intro key path next item items type found ih; exact ih
  case object =>
    intro key path next fields attributes inside ih hkey shape hshape
    rcases List.mem_cons.mp hshape with rfl | hmem
    · exact ⟨hkey, ih.1⟩
    · exact ih.2 shape hmem
  case nil => intro path next; exact ⟨nofun, nofun⟩
  case cons =>
    intro path next key value fields type inside others outside hkey ihv ihf
    constructor
    · intro attr hattr
      rcases List.mem_cons.mp hattr with rfl | hmem
      · exact hkey
      · exact ihf.1 attr hmem
    · intro shape hshape
      rcases List.mem_append.mp hshape with hmem | hmem
      · exact ihv hkey shape hmem
      · exact ihf.2 shape hmem

end Infer

/-! ## The root -/

/-- The selected root is the document itself or the first element of a
top-level array, and it has fields. -/
theorem Json.selectRoot_eq_ok {document : Json}
    {fields : List (String × Json)} :
    document.selectRoot.outcome = .ok fields ↔
      fields ≠ [] ∧ (document = .object fields ∨
        ∃ others, document = .array (.object fields :: others)) := by
  have hnonempty : ∀ own : List (String × Json),
      (Json.selectRoot.nonempty own).outcome = .ok fields ↔
        fields ≠ [] ∧ own = fields := by
    intro own
    rw [Json.selectRoot.nonempty]
    cases own with
    | nil => simp +contextual [eq_comm]
    | cons field rest => simp +contextual [eq_comm]
  match document with
  | .null | .boolean _ | .number _ | .string _ | .array [] =>
      simp [Json.selectRoot]
  | .object own =>
      simp only [Json.selectRoot, hnonempty, Json.object.injEq, reduceCtorEq,
        exists_false, or_false]
  | .array (first :: others) =>
      cases others <;> cases first <;>
        simp [Json.selectRoot, Except.bind, hnonempty]

/-- A schema comes from the walk over the object that was selected, and that
object has fields and the root a usable name. -/
theorem Schema.infer_eq_ok {document : Json} {name : String} {schema : Schema} :
    (Schema.infer document name).outcome = .ok schema ↔
      ∃ fields, document.selectRoot.outcome = .ok fields ∧ fields ≠ [] ∧
        Name.usable name = true ∧ ∃ type,
          (Infer.walkValue name [] 0 (.object fields)).outcome
            = .ok (type, schema.classes) := by
  rw [Schema.infer]
  simp only [outcome_bind_eq_ok]
  refine exists_congr fun fields => and_congr_right fun _ => ?_
  rw [Schema.ofFields]
  by_cases hempty : fields = []
  · simp [hempty, Except.bind]
  · by_cases hname : Name.usable name = true
    · simp only [List.isEmpty_iff, hempty, hname, Bool.not_true,
        Bool.false_eq_true, if_false, outcome_bind_eq_ok, ne_eq,
        not_false_eq_true, true_and]
      constructor
      · rintro ⟨⟨type, classes⟩, hwalk, _, -, heq⟩
        simp only [Traced.outcome_pure, Except.ok.injEq] at heq
        exact ⟨type, heq ▸ hwalk⟩
      · rintro ⟨type, hwalk⟩
        exact ⟨(type, schema.classes), hwalk, (), rfl, rfl⟩
    · simp [hempty, hname, Except.bind]

theorem Schema.keysUsable_of_infer {document : Json} {name : String}
    {schema : Schema} (h : (Schema.infer document name).outcome = .ok schema) :
    ∀ shape ∈ schema.classes, Infer.KeysUsable shape := by
  obtain ⟨fields, -, -, hname, type, hwalk⟩ := infer_eq_ok.mp h
  exact Infer.walk_keysUsable.1 _ _ _ _ _ _ hwalk hname

end Recast
