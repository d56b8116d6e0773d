import Recast.Proofs.NameTable.Modes
import Recast.Proofs.NameTable.Settled

/-!
# Every class that moves is warned about, and no other

A class that has not its plain file was moved, because a class before it holds
that file. The warning names the two files and the paths of the two classes.
The holder need not be a class of the same key: it may itself have been moved
there, so it is looked for among the names that were given and not among the
plain ones.

Positions are counted in the whole schema while the loop sees what is left of
it. So the run lemma fixes the list of all classes with their names and splits
it at the place that the loop has reached; what has been passed is what the loop
carries, and the induction moves the split.
-/

namespace Recast.NameTable

open Traced (events_bind_ok)

/-- A class with its names. -/
abbrev NamedClass := ClassShape × ClassNames

/-- The classes of a schema with the names that a table gives them. -/
def named (schema : Schema) (table : NameTable) : List NamedClass :=
  schema.classes.zip table.entries

/-- The class at a position has not its plain file. -/
def moved (conventions : Conventions) (classes : List NamedClass) (i : Nat) :
    Bool :=
  classes[i]?.any fun (shape, names) =>
    shape.plainFile? conventions != some names.fileName

/-- The event says that the class at a position has moved from its plain file,
which a class before it holds. -/
def Warns (conventions : Conventions) (classes : List NamedClass) (i : Nat)
    (event : Event) : Prop :=
  ∃ shape names plainFile holder,
    classes[i]? = some (shape, names) ∧
    shape.plainFile? conventions = some plainFile ∧
    holder ∈ classes.take i ∧ holder.2.fileName = plainFile ∧
    event = .renamedFile plainFile names.fileName shape.path holder.1.path

/-- The files that classes hold. -/
def holders (classes : List NamedClass) : Holders :=
  classes.map fun (shape, names) => (names.fileName, shape.path)

variable {conventions : Conventions} {lenient : Bool} {taken : Holders}
  {shape : ClassShape} {shapes : List ClassShape}
  {earlier classes : List NamedClass} {plain names : ClassNames}
  {entries : List ClassNames}

/-! ## One class -/

theorem events_nameClass_free
    (hplain : ClassNames.plain? conventions shape.key = some plain)
    (hfree : holder? taken plain.fileName = none) :
    (nameClass conventions lenient taken shape).events = [] := by
  rw [nameClass, hplain]
  simp only [hfree]
  rfl

theorem events_nameClass_held
    (hplain : ClassNames.plain? conventions shape.key = some plain)
    {path : String} (hheld : holder? taken plain.fileName = some path) :
    (nameClass conventions true taken shape).events
      = [.renamedFile plain.fileName
          (settle conventions taken plain).fileName shape.path path] := by
  rw [nameClass, hplain]
  simp only [hheld]
  rfl

theorem plainFile?_eq
    (hplain : ClassNames.plain? conventions shape.key = some plain) :
    shape.plainFile? conventions = some plain.fileName := by
  rw [ClassShape.plainFile?, ClassNames.fileName?_eq, hplain, Option.map_some]

/-- A class keeps its plain file and nothing is reported, or it moves and its
warning is. -/
theorem warning_of_nameClass
    (h : (nameClass conventions lenient (holders earlier) shape).outcome
      = .ok names)
    (hclass : classes[earlier.length]? = some (shape, names))
    (hearlier : classes.take earlier.length = earlier) :
    (moved conventions classes earlier.length = false ∧
      (nameClass conventions lenient (holders earlier) shape).events = []) ∨
    ∃ event, moved conventions classes earlier.length = true ∧
      Warns conventions classes earlier.length event ∧
      (nameClass conventions lenient (holders earlier) shape).events
        = [event] := by
  obtain ⟨plain, hplain, ⟨hfree, rfl⟩ | ⟨rfl, hheld, rfl⟩⟩ := nameClass_cases h
  · refine .inl ⟨?_, events_nameClass_free hplain hfree⟩
    simp [moved, hclass, plainFile?_eq hplain]
  · obtain ⟨path, hpath⟩ := Option.isSome_iff_exists.mp hheld
    obtain ⟨holder, hholder, heq⟩ :=
      List.mem_map.mp (mem_of_holder?_eq_some hpath)
    obtain ⟨hfile, rfl⟩ := Prod.mk.inj heq
    refine .inr ⟨_, ?_, ⟨shape, _, plain.fileName, holder, hclass,
      plainFile?_eq hplain, hearlier.symm ▸ hholder, hfile, rfl⟩,
      events_nameClass_held hplain hpath⟩
    have hne (n : Nat) : plain.fileName ≠ (plain.numbered conventions n).fileName :=
      (ClassNames.fileName_numbered_ne (ClassNames.plain?_eq_some.mp hplain).2.2 n).symm
    simp [moved, hclass, plainFile?_eq hplain, settle, hne]

/-! ## A whole run -/

theorem events_nameClasses_cons {others : List ClassNames}
    (hnames : (nameClass conventions lenient taken shape).outcome = .ok names)
    (hothers : (nameClasses conventions lenient
      (taken ++ [(names.fileName, shape.path)]) shapes).outcome = .ok others) :
    (nameClasses conventions lenient taken (shape :: shapes)).events
      = (nameClass conventions lenient taken shape).events
        ++ (nameClasses conventions lenient
          (taken ++ [(names.fileName, shape.path)]) shapes).events := by
  rw [nameClasses, events_bind_ok hnames, events_bind_ok hothers,
    Traced.events_pure, List.append_nil]

theorem warnings_of_nameClasses
    (h : (nameClasses conventions lenient (holders earlier) shapes).outcome
      = .ok entries)
    (hclasses : classes = earlier ++ shapes.zip entries) :
    List.Forall₂ (Warns conventions classes)
      ((List.range' earlier.length shapes.length).filter
        (moved conventions classes))
      (nameClasses conventions lenient (holders earlier) shapes).events := by
  induction shapes generalizing earlier entries with
  | nil =>
      rw [nameClasses]
      exact .nil
  | cons shape shapes ih =>
      obtain ⟨names, others, hnames, hothers, rfl⟩ := nameClasses_cons_eq_ok.mp h
      have hpassed : holders (earlier ++ [(shape, names)])
          = holders earlier ++ [(names.fileName, shape.path)] := by
        simp [holders]
      have hclass : classes[earlier.length]? = some (shape, names) := by
        simp [hclasses]
      have hearlier : classes.take earlier.length = earlier := by
        simp [hclasses]
      have hrest : classes = (earlier ++ [(shape, names)]) ++ shapes.zip others := by
        rw [hclasses, List.zip_cons_cons, List.append_assoc]
        rfl
      have hlater := ih (by rw [hpassed]; exact hothers) hrest
      rw [hpassed, List.length_append, List.length_singleton] at hlater
      rw [events_nameClasses_cons hnames hothers, List.length_cons,
        List.range'_succ, List.filter_cons]
      rcases warning_of_nameClass hnames hclass hearlier with
        ⟨hkept, hevents⟩ | ⟨event, hmoved, hwarns, hevents⟩
      · rw [hkept, hevents]
        exact hlater
      · rw [hmoved, hevents]
        exact .cons hwarns hlater

/-- The warnings of a resolution are those of the classes that have not their
plain file, one for each and in their order. -/
theorem warnings_of_resolve {schema : Schema} {table : NameTable}
    (h : (resolve schema conventions lenient).outcome = .ok table) :
    List.Forall₂ (Warns conventions (named schema table))
      ((List.range schema.size).filter (moved conventions (named schema table)))
      (resolve schema conventions lenient).events := by
  have hrun := resolve_eq_ok.mp h
  rw [resolve, events_bind_ok hrun, Traced.events_pure, List.append_nil,
    List.range_eq_range']
  have hclasses : named schema table = [] ++ schema.classes.zip table.entries := rfl
  exact warnings_of_nameClasses hrun hclasses

end Recast.NameTable
