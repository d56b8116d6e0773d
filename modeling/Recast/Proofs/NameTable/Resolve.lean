import Recast.Proofs.Names.Numbered
import Recast.Proofs.Names.Plain
import Recast.NameTable

/-!
# How the names of classes are settled

The names of a class depend on the key it is found under and on the files that
earlier classes hold. This file says what one step of the settling does and
what a whole run of it establishes; nothing later opens the loop again.

One step has three outcomes. If the plain file is free, the class has its
plain names in either mode. If it is held, lenient mode moves the class to
numbered names, and strict mode stops with the path of the holder. A class
whose key has no name cannot occur, since inference has checked the key.
-/

namespace Recast

namespace ClassNames

variable {conventions : Conventions} {key : String} {plain : ClassNames}

theorem plain?_eq_some :
    plain? conventions key = some plain ↔
      Name.className? conventions key = some plain.className ∧
        plain.module = Name.moduleOf conventions plain.className ∧
        plain.fileName = plain.module ++ conventions.extension := by
  rw [plain?]
  cases h : Name.className? conventions key with
  | none => simp
  | some className =>
      constructor
      · intro heq
        injection heq with heq
        subst heq
        exact ⟨rfl, rfl, rfl⟩
      · rintro ⟨hclass, hmodule, hfile⟩
        injection hclass with hclass
        subst hclass
        cases plain
        simp only at hmodule hfile
        subst hmodule hfile
        rfl

theorem isSome_plain? (conventions : Conventions) :
    (plain? conventions key).isSome = Name.usable key := by
  rw [← Name.isSome_className? conventions, plain?]
  cases Name.className? conventions key <;> rfl

theorem wordlike_of_plain? (h : plain? conventions key = some plain) :
    Name.Wordlike plain.className ∧ Plain plain.module := by
  obtain ⟨hclass, hmodule, -⟩ := plain?_eq_some.mp h
  have hwordlike := Name.wordlike_of_className? hclass
  rw [hmodule]
  exact ⟨hwordlike, Name.plain_moduleOf hwordlike⟩

/-- The file that a key has in a language is the file of its plain names. -/
theorem fileName?_eq :
    Name.fileName? conventions key = (plain? conventions key).map fileName := by
  rw [Name.fileName?, Name.moduleName?, plain?]
  cases Name.className? conventions key <;> rfl

theorem numbered_ne_self (plain : ClassNames) (n : Nat) :
    plain.numbered conventions n ≠ plain := by
  intro h
  exact Name.numbered_ne plain.className n (congrArg className h)

theorem fileName_numbered_injective (plain : ClassNames) :
    Function.Injective fun n => (plain.numbered conventions n).fileName := by
  intro m n h
  simp only [numbered, String.append_left_inj] at h
  exact (Name.numbered_inj.mp h).2

end ClassNames

namespace NameTable

open Traced (outcome_bind_eq_ok)

variable {conventions : Conventions} {lenient : Bool} {taken : Holders}
  {shape : ClassShape} {shapes : List ClassShape} {plain : ClassNames}

/-! ## Who holds a file -/

theorem holder?_eq_none {fileName : String} :
    holder? taken fileName = none ↔ fileName ∉ taken.map Prod.fst := by
  simp only [holder?, Option.map_eq_none_iff, List.find?_eq_none, beq_iff_eq,
    List.mem_map, not_exists, not_and]

theorem mem_of_holder?_eq_some {fileName path : String}
    (h : holder? taken fileName = some path) : (fileName, path) ∈ taken := by
  obtain ⟨held, hheld, rfl⟩ := Option.map_eq_some_iff.mp h
  have hname : held.1 = fileName := by simpa using List.find?_some hheld
  rw [← hname]
  exact List.mem_of_find?_eq_some hheld

theorem isSome_holder? {fileName : String} :
    (holder? taken fileName).isSome = true ↔
      fileName ∈ taken.map Prod.fst := by
  rw [← not_iff_not, Bool.not_eq_true, Option.isSome_eq_false_iff,
    Option.isNone_iff_eq_none]
  exact holder?_eq_none

/-- The file that a class moves to is free. -/
theorem settle_not_mem :
    (settle conventions taken plain).fileName ∉ taken.map Prod.fst := by
  rw [settle, ← taken.length_map Prod.fst]
  exact Name.leastFree_not_mem
    (fun n => (plain.numbered conventions n).fileName) (fun n => isSome_holder?) (ClassNames.fileName_numbered_injective plain) 1

/-! ## One step -/

theorem nameClass_free (hplain : ClassNames.plain? conventions shape.key
      = some plain) (hfree : holder? taken plain.fileName = none) :
    (nameClass conventions lenient taken shape).outcome = .ok plain := by
  rw [nameClass, hplain]
  simp only [hfree]
  rfl

theorem nameClass_lenient (hplain : ClassNames.plain? conventions shape.key
      = some plain) {path : String}
    (hheld : holder? taken plain.fileName = some path) :
    (nameClass conventions true taken shape).outcome
      = .ok (settle conventions taken plain) := by
  rw [nameClass, hplain]
  simp only [hheld]
  rfl

theorem nameClass_strict (hplain : ClassNames.plain? conventions shape.key
      = some plain) {path : String}
    (hheld : holder? taken plain.fileName = some path) :
    (nameClass conventions false taken shape).outcome
      = .error (.duplicateFile plain.fileName path shape.path) := by
  rw [nameClass, hplain]
  simp only [hheld]
  rfl

/-- What a class can come to be called. -/
theorem nameClass_cases {names : ClassNames}
    (h : (nameClass conventions lenient taken shape).outcome = .ok names) :
    ∃ plain, ClassNames.plain? conventions shape.key = some plain ∧
      ((holder? taken plain.fileName = none ∧ names = plain) ∨
        (lenient = true ∧ (holder? taken plain.fileName).isSome = true ∧
          names = settle conventions taken plain)) := by
  cases hplain : ClassNames.plain? conventions shape.key with
  | none =>
      rw [nameClass, hplain] at h
      simp at h
  | some plain =>
      refine ⟨plain, rfl, ?_⟩
      cases hheld : holder? taken plain.fileName with
      | none =>
          rw [nameClass_free hplain hheld] at h
          injection h with h
          exact .inl ⟨rfl, h.symm⟩
      | some path =>
          cases lenient with
          | true =>
              rw [nameClass_lenient hplain hheld] at h
              injection h with h
              exact .inr ⟨rfl, rfl, h.symm⟩
          | false =>
              rw [nameClass_strict hplain hheld] at h
              cases h

theorem fileName_not_mem_of_nameClass {names : ClassNames}
    (h : (nameClass conventions lenient taken shape).outcome = .ok names) :
    names.fileName ∉ taken.map Prod.fst := by
  obtain ⟨plain, -, ⟨hfree, rfl⟩ | ⟨-, -, rfl⟩⟩ := nameClass_cases h
  · exact holder?_eq_none.mp hfree
  · exact settle_not_mem

/-! ## A whole run -/

theorem nameClasses_nil_eq_ok {entries : List ClassNames} :
    (nameClasses conventions lenient taken []).outcome = .ok entries ↔
      entries = [] := by
  rw [nameClasses]
  simp [eq_comm]

theorem nameClasses_cons_eq_ok {entries : List ClassNames} :
    (nameClasses conventions lenient taken (shape :: shapes)).outcome
        = .ok entries ↔
      ∃ names others,
        (nameClass conventions lenient taken shape).outcome = .ok names ∧
        (nameClasses conventions lenient
          (taken ++ [(names.fileName, shape.path)]) shapes).outcome
          = .ok others ∧
        entries = names :: others := by
  rw [nameClasses]
  simp only [outcome_bind_eq_ok]
  constructor
  · rintro ⟨names, hnames, others, hothers, heq⟩
    simp only [Traced.outcome_pure, Except.ok.injEq] at heq
    exact ⟨names, others, hnames, hothers, heq.symm⟩
  · rintro ⟨names, others, hnames, hothers, rfl⟩
    exact ⟨names, hnames, others, hothers, rfl⟩

theorem resolve_eq_ok {schema : Schema} {table : NameTable} :
    (resolve schema conventions lenient).outcome = .ok table ↔
      (nameClasses conventions lenient [] schema.classes).outcome
        = .ok table.entries := by
  rw [resolve]
  simp only [outcome_bind_eq_ok]
  constructor
  · rintro ⟨entries, hentries, heq⟩
    simp only [Traced.outcome_pure, Except.ok.injEq] at heq
    subst heq
    exact hentries
  · intro h
    exact ⟨table.entries, h, rfl⟩

theorem length_of_nameClasses {entries : List ClassNames}
    (h : (nameClasses conventions lenient taken shapes).outcome
      = .ok entries) : entries.length = shapes.length := by
  induction shapes generalizing taken entries with
  | nil =>
      rw [nameClasses_nil_eq_ok.mp h]
      rfl
  | cons shape shapes ih =>
      obtain ⟨names, others, -, hothers, rfl⟩ := nameClasses_cons_eq_ok.mp h
      simp [ih hothers]

/-- No two classes get one file, and none gets a file that was taken. -/
theorem nodup_of_nameClasses {entries : List ClassNames}
    (h : (nameClasses conventions lenient taken shapes).outcome
      = .ok entries) (htaken : (taken.map Prod.fst).Nodup) :
    (taken.map Prod.fst ++ entries.map ClassNames.fileName).Nodup := by
  induction shapes generalizing taken entries with
  | nil =>
      rw [nameClasses_nil_eq_ok.mp h, List.map_nil, List.append_nil]
      exact htaken
  | cons shape shapes ih =>
      obtain ⟨names, others, hnames, hothers, rfl⟩ :=
        nameClasses_cons_eq_ok.mp h
      have hfresh := fileName_not_mem_of_nameClass hnames
      have hrest := ih hothers (by
        rw [List.map_append, List.map_singleton]
        exact List.nodup_append_comm.mp (List.nodup_cons.mpr ⟨hfresh, htaken⟩))
      rw [List.map_append, List.append_assoc] at hrest
      exact hrest

/-- Class names and modules are made of the characters that names are made
of. -/
theorem wordlike_of_nameClasses {entries : List ClassNames}
    (h : (nameClasses conventions lenient taken shapes).outcome
      = .ok entries) :
    ∀ names ∈ entries, Name.Wordlike names.className ∧ Plain names.module := by
  induction shapes generalizing taken entries with
  | nil =>
      rw [nameClasses_nil_eq_ok.mp h]
      nofun
  | cons shape shapes ih =>
      obtain ⟨first, others, hfirst, hothers, rfl⟩ :=
        nameClasses_cons_eq_ok.mp h
      intro names hnames
      rcases List.mem_cons.mp hnames with rfl | hmem
      · obtain ⟨plain, hplain, ⟨-, rfl⟩ | ⟨-, -, rfl⟩⟩ := nameClass_cases hfirst
        · exact ClassNames.wordlike_of_plain? hplain
        · obtain ⟨hclass, hmodule⟩ := ClassNames.wordlike_of_plain? hplain
          exact ⟨hclass.numbered _, Name.plain_numbered hmodule _⟩
      · exact ih hothers names hmem

theorem wordlike_get {schema : Schema} {table : NameTable}
    (h : (resolve schema conventions lenient).outcome = .ok table)
    (id : ClassId) :
    Name.Wordlike (table.get id).className ∧ Plain (table.get id).module := by
  rw [get, get?]
  cases hid : table.entries[id]? with
  | none => exact ⟨nofun, nofun⟩
  | some names =>
      exact wordlike_of_nameClasses (resolve_eq_ok.mp h) names
        (List.mem_of_getElem? hid)

/-- Lenient mode names every class whose key has a name. -/
theorem nameClasses_lenient_ok (conventions : Conventions) (taken : Holders)
    (hkeys : ∀ shape ∈ shapes, Name.usable shape.key = true) :
    ∃ entries,
      (nameClasses conventions true taken shapes).outcome = .ok entries := by
  induction shapes generalizing taken with
  | nil => exact ⟨[], rfl⟩
  | cons shape shapes ih =>
      have hkey := hkeys shape List.mem_cons_self
      rw [← ClassNames.isSome_plain? conventions] at hkey
      obtain ⟨plain, hplain⟩ := Option.isSome_iff_exists.mp hkey
      obtain ⟨names, hnames⟩ : ∃ names,
          (nameClass conventions true taken shape).outcome = .ok names := by
        cases hheld : holder? taken plain.fileName with
        | none => exact ⟨plain, nameClass_free hplain hheld⟩
        | some path => exact ⟨_, nameClass_lenient hplain hheld⟩
      obtain ⟨others, hothers⟩ := ih (taken ++ [(names.fileName, shape.path)])
        (fun s hs => hkeys s (List.mem_cons_of_mem _ hs))
      exact ⟨names :: others,
        nameClasses_cons_eq_ok.mpr ⟨names, others, hnames, hothers, rfl⟩⟩

end NameTable
end Recast
