import Recast.Proofs.Inference.Walk

/-!
# Inference sees only the skeleton of a document

Of a scalar the walk looks at nothing but its kind, and of an array at nothing
but its first element. What is left when everything else is blanked out is the
skeleton: a document again, with one value standing for all scalars of a kind
and with no array longer than one element. The walk over the skeleton is the
walk over the document, step for step.

The choice of the root is the one place that needs care. It stops at a scalar
with a message that tells `null` from a string, which the skeleton does not, so
the comparison is made for objects and arrays; and it reports how many elements
it has passed over, which is in the events but in no outcome.
-/

namespace Recast

mutual

/-- A document with all scalars of a kind made one, and with all but the first
element of each array left out. -/
def Json.skeleton : Json → Json
  | .null | .string _ => .null
  | .boolean _ => .boolean false
  | .number (.integer _) => .number (.integer 0)
  | .number .float => .number .float
  | .array [] => .array []
  | .array (item :: _) => .array [item.skeleton]
  | .object fields => .object (Json.fieldSkeletons fields)

/-- The same keys in the same order, with the skeletons of their values. -/
def Json.fieldSkeletons : List (String × Json) → List (String × Json)
  | [] => []
  | (key, value) :: fields =>
    (key, value.skeleton) :: Json.fieldSkeletons fields

end

/-- An object or an array. -/
def Json.isContainer : Json → Bool
  | .array _ | .object _ => true
  | _ => false

theorem Json.isContainer_skeleton (value : Json) :
    value.skeleton.isContainer = value.isContainer := by
  match value with
  | .null | .string _ | .boolean _ | .number (.integer _) | .number .float
  | .array [] | .array (_ :: _) | .object _ =>
      simp only [Json.skeleton, Json.isContainer]

theorem Json.isEmpty_fieldSkeletons (fields : List (String × Json)) :
    (Json.fieldSkeletons fields).isEmpty = fields.isEmpty := by
  cases fields with
  | nil => rw [Json.fieldSkeletons]
  | cons field fields =>
      rw [Json.fieldSkeletons]
      rfl

/-! ## The walk -/

namespace Infer

mutual

theorem walkValue_skeleton :
    ∀ (value : Json) (key : String) (path : KeyPath) (next : ClassId),
      walkValue key path next value.skeleton = walkValue key path next value
  | .null, key, path, next | .string _, key, path, next
  | .boolean _, key, path, next | .number .float, key, path, next
  | .number (.integer _), key, path, next | .array [], key, path, next => by
      simp only [Json.skeleton, walkValue, Json.Number.scalar]
  | .array (item :: _), key, path, next => by
      rw [Json.skeleton, walkValue, walkValue,
        walkValue_skeleton item key _ next]
  | .object fields, key, path, next => by
      rw [Json.skeleton, walkValue, walkValue,
        walkFields_skeleton fields path (next + 1)]

theorem walkFields_skeleton :
    ∀ (fields : List (String × Json)) (path : KeyPath) (next : ClassId),
      walkFields path next (Json.fieldSkeletons fields)
        = walkFields path next fields
  | [], path, next => by rw [Json.fieldSkeletons]
  | (key, value) :: fields, path, next => by
      have hfields : ∀ later,
          walkFields path later (Json.fieldSkeletons fields)
            = walkFields path later fields :=
        fun later => walkFields_skeleton fields path later
      rw [Json.fieldSkeletons, walkFields, walkFields,
        walkValue_skeleton value key _ next]
      simp only [hfields]

end

end Infer

/-! ## The root -/

theorem Json.nonempty_fieldSkeletons (fields : List (String × Json)) :
    (Json.selectRoot.nonempty (Json.fieldSkeletons fields)).outcome
      = (Json.selectRoot.nonempty fields).outcome.map Json.fieldSkeletons := by
  rw [Json.selectRoot.nonempty, Json.selectRoot.nonempty,
    Json.isEmpty_fieldSkeletons]
  cases fields.isEmpty <;> rfl

/-- The root of a skeleton is the skeleton of the root, or the same fault. -/
theorem Json.selectRoot_skeleton {document : Json}
    (h : document.isContainer = true) :
    document.skeleton.selectRoot.outcome
      = document.selectRoot.outcome.map Json.fieldSkeletons := by
  match document with
  | .null | .boolean _ | .number _ | .string _ =>
      simp [Json.isContainer] at h
  | .array [] =>
      rw [Json.skeleton]
      rfl
  | .object fields =>
      rw [Json.skeleton]
      exact Json.nonempty_fieldSkeletons fields
  | .array (.object fields :: others) =>
      rw [Json.skeleton, Json.skeleton]
      have hroot : ∀ own rest,
          (Json.array (.object own :: rest)).selectRoot.outcome
            = (Json.selectRoot.nonempty own).outcome := by
        intro own rest
        cases rest <;> simp [Json.selectRoot, Except.bind]
      rw [hroot, hroot]
      exact Json.nonempty_fieldSkeletons fields
  | .array (.null :: others) | .array (.string _ :: others)
  | .array (.boolean _ :: others) | .array (.number (.integer _) :: others)
  | .array (.number .float :: others) | .array (.array [] :: others)
  | .array (.array (_ :: _) :: others) =>
      rw [Json.skeleton]
      cases others <;>
        simp [Json.selectRoot, Json.skeleton, Except.bind, Except.map]

/-! ## Inference -/

theorem Schema.ofFields_skeleton (fields : List (String × Json))
    (name : String) :
    Schema.ofFields (Json.fieldSkeletons fields) name
      = Schema.ofFields fields name := by
  rw [Schema.ofFields, Schema.ofFields, Json.isEmpty_fieldSkeletons,
    ← Json.skeleton, Infer.walkValue_skeleton]

theorem Schema.infer_skeleton {document : Json}
    (h : document.isContainer = true) (name : String) :
    (Schema.infer document.skeleton name).outcome
      = (Schema.infer document name).outcome := by
  rw [Schema.infer, Schema.infer, Traced.outcome_bind, Traced.outcome_bind,
    Json.selectRoot_skeleton h]
  cases document.selectRoot.outcome with
  | error e => rfl
  | ok fields =>
      exact congrArg Traced.outcome (Schema.ofFields_skeleton fields name)

/-- Documents with one skeleton have one schema, or one fault. -/
theorem Schema.infer_eq_of_skeleton_eq {first second : Json}
    (hcontainer : first.isContainer = true)
    (h : first.skeleton = second.skeleton) (name : String) :
    (Schema.infer first name).outcome = (Schema.infer second name).outcome := by
  have hsecond : second.isContainer = true := by
    rw [← Json.isContainer_skeleton, ← h, Json.isContainer_skeleton]
    exact hcontainer
  rw [← Schema.infer_skeleton hcontainer, h, Schema.infer_skeleton hsecond]

end Recast
