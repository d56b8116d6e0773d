import Mathlib.Data.List.Nodup
import Recast.Json.Decode

/-!
# The keys of an object that was read are distinct

An object keeps its fields in a list, so a value could have a key twice. A value
that was read has not: the reader sets each field among those read so far, and a
key that is there already gets the new value. This makes a key an address within
its object.
-/

namespace Recast.Json

variable {item : Reader Json} {fields met : List (String × Json)} {value : Json}
variable {key : String}

/-- No object of a value has a key twice. -/
inductive KeysDistinct : Json → Prop
  | null : KeysDistinct .null
  | boolean (b : Bool) : KeysDistinct (.boolean b)
  | number (n : Number) : KeysDistinct (.number n)
  | string (text : String) : KeysDistinct (.string text)
  | array {items : List Json} (inner : ∀ item ∈ items, KeysDistinct item) :
    KeysDistinct (.array items)
  | object {fields : List (String × Json)}
    (distinct : (fields.map Prod.fst).Nodup)
    (inner : ∀ field ∈ fields, KeysDistinct field.2) :
    KeysDistinct (.object fields)

/-! ## Setting a field -/

/-- A new key comes last, and one that is there stays in its place. -/
theorem keys_setField (key : String) (value : Json)
    (fields : List (String × Json)) :
    (setField key value fields).map Prod.fst
      = if key ∈ fields.map Prod.fst then fields.map Prod.fst
        else fields.map Prod.fst ++ [key] := by
  induction fields with
  | nil => rfl
  | cons field fields ih =>
      obtain ⟨k, v⟩ := field
      rw [setField]
      by_cases hk : k = key
      · simp [hk]
      · rw [if_neg hk, List.map_cons, ih]
        by_cases hmem : key ∈ fields.map Prod.fst
        · simp [hmem]
        · simp [hmem, Ne.symm hk]

theorem nodup_keys_setField (key : String) (value : Json)
    (h : (fields.map Prod.fst).Nodup) :
    ((setField key value fields).map Prod.fst).Nodup := by
  rw [keys_setField]
  split
  · exact h
  · next hnew => exact h.append (List.nodup_singleton key) (by simpa using hnew)

theorem mem_setField {field : String × Json}
    (h : field ∈ setField key value fields) :
    field.2 = value ∨ field ∈ fields := by
  induction fields with
  | nil =>
      rw [setField, List.mem_singleton] at h
      exact .inl (congrArg Prod.snd h)
  | cons other fields ih =>
      obtain ⟨k, v⟩ := other
      rw [setField] at h
      split at h
      · rcases List.mem_cons.mp h with rfl | hmem
        · exact .inl rfl
        · exact .inr (List.mem_cons_of_mem _ hmem)
      · rcases List.mem_cons.mp h with rfl | hmem
        · exact .inr List.mem_cons_self
        · exact (ih hmem).imp_right (List.mem_cons_of_mem _)

theorem KeysDistinct.setField (key : String) (hvalue : KeysDistinct value)
    (hfields : KeysDistinct (.object fields)) :
    KeysDistinct (.object (Json.setField key value fields)) := by
  cases hfields with
  | object hdistinct hinner =>
      have hkeys := nodup_keys_setField key value hdistinct
      refine .object hkeys fun field hfield => ?_
      rcases mem_setField hfield with heq | hmem
      · rwa [heq]
      · exact hinner field hmem

/-! ## Readers -/

section Gives

variable {α β : Type} {P : α → Prop} {Q : β → Prop} {a : α} {f : α → β}
variable {result : Except Failure (α × List Char)} {rest : List Char}

/-- What was taken from the front of a text, if anything, is of a kind. -/
def Gives (result : Except Failure (α × List Char)) (P : α → Prop) : Prop :=
  ∀ a rest, result = .ok (a, rest) → P a

theorem gives_error (failure : Failure) : Gives (.error failure) P :=
  fun _ _ h => nomatch h

theorem gives_ok (h : P a) : Gives (.ok (a, rest)) P := by
  rintro _ _ ⟨⟩
  exact h

theorem Gives.map (h : Gives result P) (hf : ∀ a, P a → Q (f a)) :
    Gives (result.map fun (a, rest) => (f a, rest)) Q := by
  match result with
  | .error failure => exact gives_error failure
  | .ok (a, rest) => exact gives_ok (hf a (h a rest rfl))

end Gives

theorem gives_readWord (h : KeysDistinct value) (word s : List Char) :
    Gives (readWord value word s) KeysDistinct := by
  fun_induction readWord value word s with
  | case1 => exact gives_ok h
  | case3 _ _ _ ih => exact ih
  | case2 | case4 => exact gives_error _

theorem gives_readItems (h : ∀ s, Gives (item s) KeysDistinct)
    (fuel count : Nat) (s : List Char) :
    Gives (readItems item fuel count s) fun items =>
      ∀ i ∈ items, KeysDistinct i := by
  fun_induction readItems item fuel count s with
  | case1 | case2 | case5 | case6 | case8 => exact gives_error _
  | case3 => exact gives_ok (fun _ h => nomatch h)
  | case4 fuel _ _ _ _ _ next ih | case7 fuel _ _ next _ _ _ _ _ _ _ _ ih =>
      simp only [next]
      split
      · exact gives_error _
      · next hitem =>
          exact (ih _).map fun _ hitems =>
            List.forall_mem_cons.mpr ⟨h _ _ _ hitem, hitems⟩

theorem gives_readField (h : ∀ s, Gives (item s) KeysDistinct) (s : List Char) :
    Gives (readField item s) fun field => KeysDistinct field.2 := by
  fun_cases readField item s with
  | case1 | case2 | case3 | case5 => exact gives_error _
  | case4 _ _ _ _ _ _ _ _ _ hitem => exact gives_ok (h _ _ _ hitem)

theorem gives_readFields (h : ∀ s, Gives (item s) KeysDistinct) (fuel : Nat)
    (first : Bool) (s : List Char) (hread : KeysDistinct (.object met)) :
    Gives (readFields item fuel met first s) fun fields =>
      KeysDistinct (.object fields) := by
  fun_induction readFields item fuel met first s with
  | case1 | case2 | case5 | case6 | case8 => exact gives_error _
  | case3 => exact gives_ok hread
  | case4 _ _ _ next _ _ _ _ ih | case7 _ _ _ _ next _ _ _ _ _ _ _ _ ih =>
      simp only [next]
      split
      · exact gives_error _
      · next hfield =>
          exact ih _ _ _ (.setField _ (gives_readField h _ _ _ hfield) hread)

theorem gives_readValue (depth : Nat) (s : List Char) :
    Gives (readValue depth s) KeysDistinct := by
  induction depth using Nat.strongRecOn generalizing s with
  | ind depth ih =>
      fun_cases readValue depth s with
      | case1 | case7 | case9 | case11 => exact gives_error _
      | case2 => exact gives_readWord .null _ _
      | case3 => exact gives_readWord (.boolean true) _ _
      | case4 => exact gives_readWord (.boolean false) _ _
      | case5 =>
          exact Gives.map (P := fun _ => True) (fun _ _ _ => trivial)
            fun n _ => .number n
      | case6 =>
          exact Gives.map (P := fun _ => True) (fun _ _ _ => trivial)
            fun text _ => KeysDistinct.string (String.ofList text)
      | case8 _ _ depth =>
          have hitems := gives_readItems (ih depth (Nat.lt_succ_self depth))
          exact (hitems _ _ _).map fun _ => KeysDistinct.array
      | case10 _ _ depth =>
          have hnone : KeysDistinct (.object []) := .object List.nodup_nil nofun
          exact (gives_readFields (ih depth (Nat.lt_succ_self depth)) _ _ _
            hnone).map fun _ h => h

/-- A document that was read has no object with a key twice. -/
theorem keysDistinct_of_decode {text : String} {document : Json}
    (h : decode text = .ok document) : document.KeysDistinct := by
  rw [decode, readDocument] at h
  split at h
  · cases h
  · next value rest hread =>
      split at h
      · cases h
        exact gives_readValue _ _ _ _ hread
      · cases h

end Recast.Json
