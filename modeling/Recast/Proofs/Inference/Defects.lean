import Recast.Proofs.Inference.Skeleton

/-!
# Inference stops at the first defect

What can be wrong with a document is said here without a run. `Json.visits`
lists what a depth-first walk reaches and in which order: each key at the
moment it is met, then the value under it, then what is inside. A visit is a
defect if its key has no letter or digit, or if its value is an empty array.
The defects of a document are its unsuitable root, if it has one, then the name
of the root class, which is looked at like a key, and then the visits inside
the root.

The run is compared with this list part by part. `StopsWith` says which error a
computation stops with, if any, and `StopsWith.bind` is the whole argument: a
computation in two steps stops with the first defect of the first step, or else
with that of the second.

No visit is in an array behind its first element. That this is no accident of
the listing is the last part of the result: cutting every array down to its
first element changes nothing.
-/

namespace Recast

/-! ## What a walk reaches -/

/-- A moment of the walk. -/
inductive Visit
  | key (name : String) (path : KeyPath)
  | value (value : Json) (path : KeyPath)

/-- What is wrong with what is reached, if anything is. -/
def Visit.defect? : Visit → Option GenerationError
  | key name path =>
    if Name.usable name then none else some (.invalidName name path.text)
  | value (.array []) path => some (.emptyArray path.text)
  | value _ _ => none

mutual

/-- What is reached from a value on, depth first, keys in order, arrays entered
through their first element only. -/
def Json.visits (path : KeyPath) : Json → List Visit
  | .array (item :: items) =>
    .value (.array (item :: items)) path :: item.visits (path ++ [.first])
  | .object fields =>
    .value (.object fields) path :: Json.fieldVisits path fields
  | value => [.value value path]

/-- What is reached in the fields of an object. A key is reached before its
value is. -/
def Json.fieldVisits (path : KeyPath) : List (String × Json) → List Visit
  | [] => []
  | (key, value) :: fields =>
    .key key (path ++ [.key key]) ::
      (value.visits (path ++ [.key key]) ++ Json.fieldVisits path fields)

end

/-- What is wrong with the root, if anything is. -/
def Json.rootDefect? : Json → Option GenerationError
  | .object [] | .array (.object [] :: _) => some .emptySchema
  | .object (_ :: _) | .array (.object (_ :: _) :: _) => none
  | .array (_ :: _) => some (.unsuitableRoot .arrayOfOthers)
  | value => some (.unsuitableRoot (.value value))

/-- The fields of the object that stands for a document. -/
def Json.rootFields : Json → List (String × Json)
  | .object fields | .array (.object fields :: _) => fields
  | _ => []

/-- All that is wrong with a document whose root class gets this name, in the
order in which it is met. -/
def Json.defects (name : String) (document : Json) : List GenerationError :=
  document.rootDefect?.toList ++
    (Visit.key name [] :: Json.fieldVisits [] document.rootFields).filterMap
      Visit.defect?

/-! ## What a computation stops with -/

namespace Traced

variable {α β : Type} {x : Traced α} {f : α → Traced β}
  {first second : Option GenerationError}

/-- The computation fails with this error, or does not fail. -/
def StopsWith (x : Traced α) : Option GenerationError → Prop
  | some e => x.outcome = .error e
  | none => ∃ a, x.outcome = .ok a

theorem stopsWith_pure (a : α) : (pure a : Traced α).StopsWith none :=
  ⟨a, rfl⟩

theorem stopsWith_report (event : Event) : (report event).StopsWith none :=
  ⟨(), rfl⟩

theorem stopsWith_fail (e : GenerationError) :
    (fail e : Traced α).StopsWith (some e) := rfl

/-- The second step matters only if the first one has succeeded. -/
theorem StopsWith.bind (hx : x.StopsWith first)
    (hf : ∀ a, x.outcome = .ok a → (f a).StopsWith second) :
    (x >>= f).StopsWith (first.or second) := by
  cases first with
  | some e =>
      have hfails : x.outcome = .error e := hx
      show (x >>= f).outcome = .error e
      rw [outcome_bind, hfails]
      rfl
  | none =>
      obtain ⟨a, ha⟩ := hx
      have hstep : (x >>= f).outcome = (f a).outcome := by
        rw [outcome_bind, ha]
        rfl
      rw [Option.none_or]
      cases second with
      | some e => exact hstep.trans (hf a ha)
      | none =>
          obtain ⟨b, hb⟩ := hf a ha
          exact ⟨b, hstep.trans hb⟩

/-- A second step that cannot fail leaves the defect of the first. -/
theorem StopsWith.followed (hx : x.StopsWith first)
    (hf : ∀ a, (f a).StopsWith none) : (x >>= f).StopsWith first := by
  have hboth := hx.bind fun a _ => hf a
  rwa [Option.or_none] at hboth

theorem StopsWith.outcome_eq_error (h : x.StopsWith first)
    {e : GenerationError} : x.outcome = .error e ↔ first = some e := by
  cases first with
  | some own =>
      have hfails : x.outcome = .error own := h
      rw [hfails, Except.error.injEq, Option.some.injEq]
  | none =>
      obtain ⟨a, ha⟩ := h
      simp [ha]

theorem StopsWith.exists_outcome_eq_ok (h : x.StopsWith first) :
    (∃ a, x.outcome = .ok a) ↔ first = none := by
  cases first with
  | some own =>
      have hfails : x.outcome = .error own := h
      simp [hfails]
  | none => exact ⟨fun _ => rfl, fun _ => h⟩

end Traced

open Traced (StopsWith stopsWith_pure stopsWith_report stopsWith_fail)

/-! ## The walk -/

namespace Infer

mutual

theorem walkValue_stopsWith :
    ∀ (value : Json) (key : String) (path : KeyPath) (next : ClassId),
      (walkValue key path next value).StopsWith
        ((value.visits path).findSome? Visit.defect?)
  | .null, key, path, next | .boolean _, key, path, next
  | .number _, key, path, next | .string _, key, path, next => by
      rw [walkValue, Json.visits]
      · exact stopsWith_pure _
      all_goals nofun
  | .array [], key, path, next => by
      rw [walkValue, Json.visits]
      · exact stopsWith_fail _
      all_goals nofun
  | .array (item :: items), key, path, next => by
      have hitem := walkValue_stopsWith item key (path ++ [.first]) next
      rw [walkValue, Json.visits, List.findSome?_cons]
      exact hitem.followed fun found => stopsWith_pure _
  | .object fields, key, path, next => by
      have hfields := walkFields_stopsWith fields path (next + 1)
      rw [walkValue, Json.visits, List.findSome?_cons]
      exact hfields.followed fun found =>
        (stopsWith_report _).followed fun _ => stopsWith_pure _

theorem walkFields_stopsWith :
    ∀ (fields : List (String × Json)) (path : KeyPath) (next : ClassId),
      (walkFields path next fields).StopsWith
        ((Json.fieldVisits path fields).findSome? Visit.defect?)
  | [], path, next => by
      rw [walkFields, Json.fieldVisits]
      exact stopsWith_pure _
  | (key, value) :: fields, path, next => by
      have hvalue := walkValue_stopsWith value key (path ++ [.key key]) next
      have hfields := walkFields_stopsWith fields path
      rw [walkFields, Json.fieldVisits, List.findSome?_cons, Visit.defect?]
      by_cases hkey : Name.usable key = true
      · simp only [hkey, Bool.not_true, Bool.false_eq_true, if_false, if_true,
          List.findSome?_append]
        exact hvalue.bind fun found _ =>
          (hfields _).followed fun others => stopsWith_pure _
      · simp only [hkey, Bool.not_false, if_true]
        exact stopsWith_fail _

end

end Infer

/-! ## The whole document -/

theorem Json.selectRoot_stopsWith (document : Json) :
    document.selectRoot.StopsWith document.rootDefect? := by
  match document with
  | .null | .boolean _ | .number _ | .string _ | .array [] | .object [] =>
      exact stopsWith_fail _
  | .object (_ :: _) => exact stopsWith_pure _
  | .array (.object [] :: others)
  | .array (.null :: others) | .array (.string _ :: others)
  | .array (.boolean _ :: others) | .array (.number _ :: others)
  | .array (.array _ :: others) => cases others <;> exact stopsWith_fail _
  | .array (.object (field :: fields) :: others) =>
      cases others <;> exact ⟨field :: fields, rfl⟩

theorem Json.rootFields_of_selectRoot {document : Json}
    {fields : List (String × Json)}
    (h : document.selectRoot.outcome = .ok fields) :
    fields ≠ [] ∧ document.rootFields = fields := by
  obtain ⟨hne, rfl | ⟨others, rfl⟩⟩ := Json.selectRoot_eq_ok.mp h
  · exact ⟨hne, rfl⟩
  · exact ⟨hne, rfl⟩

namespace Schema

theorem ofFields_stopsWith {fields : List (String × Json)}
    (hfields : fields ≠ []) (name : String) :
    (ofFields fields name).StopsWith
      ((Visit.key name [] :: Json.fieldVisits [] fields).findSome?
        Visit.defect?) := by
  have hwalk := Infer.walkValue_stopsWith (.object fields) name [] 0
  rw [Json.visits, List.findSome?_cons] at hwalk
  rw [ofFields, List.findSome?_cons, Visit.defect?]
  by_cases hname : Name.usable name = true
  · simp only [List.isEmpty_iff, hfields, hname, Bool.not_true,
      Bool.false_eq_true, if_false, if_true]
    exact hwalk.followed fun found =>
      (stopsWith_report _).followed fun _ => stopsWith_pure _
  · simp only [List.isEmpty_iff, hfields, hname, Bool.not_false, if_false,
      if_true]
    exact stopsWith_fail _

theorem infer_stopsWith (document : Json) (name : String) :
    (infer document name).StopsWith (document.defects name).head? := by
  rw [Json.defects, List.head?_append, Option.head?_toList,
    List.head?_filterMap]
  refine (Json.selectRoot_stopsWith document).bind fun fields hroot => ?_
  obtain ⟨hfields, hown⟩ := Json.rootFields_of_selectRoot hroot
  rw [hown]
  exact ofFields_stopsWith hfields name

end Schema

/-! ## Later elements -/

mutual

/-- A document with every array cut down to its first element. -/
def Json.trimmed : Json → Json
  | .array (item :: _) => .array [item.trimmed]
  | .object fields => .object (Json.trimmedFields fields)
  | value => value

def Json.trimmedFields : List (String × Json) → List (String × Json)
  | [] => []
  | (key, value) :: fields =>
    (key, value.trimmed) :: Json.trimmedFields fields

end

mutual

theorem Json.skeleton_trimmed :
    ∀ value : Json, value.trimmed.skeleton = value.skeleton
  | .null | .string _ | .boolean _ | .number _ | .array [] => by
      rw [Json.trimmed]
      all_goals nofun
  | .array (item :: _) => by
      rw [Json.trimmed, Json.skeleton, Json.skeleton,
        Json.skeleton_trimmed item]
  | .object fields => by
      rw [Json.trimmed, Json.skeleton, Json.skeleton,
        Json.fieldSkeletons_trimmedFields fields]

theorem Json.fieldSkeletons_trimmedFields :
    ∀ fields : List (String × Json),
      Json.fieldSkeletons (Json.trimmedFields fields)
        = Json.fieldSkeletons fields
  | [] => by rw [Json.trimmedFields]
  | (key, value) :: fields => by
      rw [Json.trimmedFields, Json.fieldSkeletons, Json.fieldSkeletons,
        Json.skeleton_trimmed value,
        Json.fieldSkeletons_trimmedFields fields]

end

namespace Schema

theorem infer_trimmed (document : Json) (name : String) :
    (infer document.trimmed name).outcome = (infer document name).outcome := by
  match document with
  | .null | .string _ | .boolean _ | .number _ =>
      rw [Json.trimmed]
      all_goals nofun
  | .array items =>
      exact (infer_eq_of_skeleton_eq rfl
        (Json.skeleton_trimmed (.array items)).symm name).symm
  | .object fields =>
      exact (infer_eq_of_skeleton_eq rfl
        (Json.skeleton_trimmed (.object fields)).symm name).symm

/-- Inference fails exactly if there is a defect, and with the first one. No
element of an array behind the first has a part in this. -/
theorem infer_stops_at_first_defect (document : Json) (name : String) :
    (∀ e, (infer document name).outcome = .error e ↔
      (document.defects name).head? = some e) ∧
    ((∃ schema, (infer document name).outcome = .ok schema) ↔
      document.defects name = []) ∧
    (infer document.trimmed name).outcome = (infer document name).outcome := by
  have hstops := infer_stopsWith document name
  refine ⟨fun e => hstops.outcome_eq_error, ?_, infer_trimmed document name⟩
  rw [← List.head?_eq_none_iff]
  exact hstops.exists_outcome_eq_ok

/-- An empty object is no defect, and an empty array behind the first element of
another is none either. -/
def flawedDocument : Json :=
  .object [("a", .object []), ("b", .array [.null, .array []]),
    ("-", .array []), ("c", .array [.array []])]

example : flawedDocument.defects "root" = [
    GenerationError.invalidName "-" "$[\"-\"]", .emptyArray "$[\"-\"]",
    .emptyArray "$.c[0]"] := by
  cbv

end Schema

end Recast
