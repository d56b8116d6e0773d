import Mathlib.Data.List.Induction
import Recast.Proofs.NameTable.Resolve

/-!
# Strict and lenient mode agree up to the first clash

The two modes are one loop, and they differ only at a class whose plain file
is held. As long as no two classes want one file, either mode gives every
class its plain names and records its plain file. So the whole comparison
comes down to the first class whose plain file an earlier class has: strict
mode stops there with the paths of the two, and lenient mode moves that class
to numbered names, which are not its plain ones.

The loop carries the files assigned so far. While the modes agree, these are
the plain files of the classes already named, and that is the invariant.
-/

namespace Recast

/-- The file that a class has if none is in its way. -/
def ClassShape.plainFile? (conventions : Conventions) (shape : ClassShape) :
    Option String :=
  Name.fileName? conventions shape.key

/-- Two classes want one file, and no class before the second wants the file
of a class before it. -/
structure FirstClash (conventions : Conventions) (classes : List ClassShape)
    (fileName : String) (first second : ClassShape) : Prop where
  splits : ∃ before after, classes = before ++ second :: after ∧
    first ∈ before ∧ (before.map (ClassShape.plainFile? conventions)).Nodup
  first_file : first.plainFile? conventions = some fileName
  second_file : second.plainFile? conventions = some fileName

/-- No class was renamed. -/
def NameTable.KeepsPlainNames (conventions : Conventions) (schema : Schema)
    (table : NameTable) : Prop :=
  table.entries.map some =
    schema.classes.map fun shape => ClassNames.plain? conventions shape.key

namespace NameTable

variable {conventions : Conventions} {taken : Holders}
  {shapes done before : List ClassShape} {shape : ClassShape}

/-- A list has no double member, or a first member that occurred before. -/
theorem nodup_or_first_repeat {α β : Type} (f : α → β) (l : List α) :
    (l.map f).Nodup ∨ ∃ before a after, l = before ++ a :: after ∧
      (before.map f).Nodup ∧ f a ∈ before.map f := by
  induction l using List.reverseRecOn with
  | nil => exact .inl List.nodup_nil
  | append_singleton l last ih =>
      rcases ih with hnodup | ⟨before, a, after, rfl, hbefore, hmem⟩
      · by_cases hlast : f last ∈ l.map f
        · exact .inr ⟨l, last, [], rfl, hnodup, hlast⟩
        · refine .inl ?_
          rw [List.map_append, List.map_singleton]
          exact List.nodup_append_comm.mp (List.nodup_cons.mpr ⟨hlast, hnodup⟩)
      · exact .inr ⟨before, a, after ++ [last], by simp, hbefore, hmem⟩

/-! ## The invariant -/

/-- The files taken are the plain files of these classes. -/
def HeldBy (conventions : Conventions) (taken : Holders)
    (shapes : List ClassShape) : Prop :=
  List.Forall₂ (fun held shape =>
    shape.plainFile? conventions = some held.1 ∧ shape.path = held.2)
    taken shapes

theorem HeldBy.nil : HeldBy conventions [] [] :=
  List.Forall₂.nil

theorem HeldBy.files_eq (h : HeldBy conventions taken done) :
    taken.map (fun held => some held.1)
      = done.map (ClassShape.plainFile? conventions) := by
  induction h with
  | nil => rfl
  | cons hhead _ ih => rw [List.map_cons, List.map_cons, hhead.1, ih]

theorem HeldBy.exists_of_mem (h : HeldBy conventions taken done)
    {fileName path : String} (hmem : (fileName, path) ∈ taken) :
    ∃ shape ∈ done, shape.plainFile? conventions = some fileName ∧
      shape.path = path := by
  induction h with
  | nil => cases hmem
  | cons hhead _ ih =>
      rcases List.mem_cons.mp hmem with heq | hmem
      · subst heq
        exact ⟨_, List.mem_cons_self, hhead⟩
      · obtain ⟨shape, hshape, hfile⟩ := ih hmem
        exact ⟨shape, List.mem_cons_of_mem _ hshape, hfile⟩

theorem HeldBy.holder?_eq_none (h : HeldBy conventions taken done)
    {fileName : String} :
    holder? taken fileName = none ↔
      some fileName ∉ done.map (ClassShape.plainFile? conventions) := by
  rw [NameTable.holder?_eq_none, ← h.files_eq]
  simp

/-- While no plain file is wanted twice, either mode gives plain names, and
the rest of the run goes on from the plain files. -/
theorem nameClasses_distinct
    (hkeys : ∀ shape ∈ shapes, Name.usable shape.key = true)
    (hheld : HeldBy conventions taken done)
    (hdistinct :
      ((done ++ shapes).map (ClassShape.plainFile? conventions)).Nodup) :
    ∃ more plains, HeldBy conventions (taken ++ more) (done ++ shapes) ∧
      plains.map some
        = shapes.map (fun shape => ClassNames.plain? conventions shape.key) ∧
      ∀ lenient rest,
        (nameClasses conventions lenient taken (shapes ++ rest)).outcome
          = (nameClasses conventions lenient (taken ++ more) rest).outcome.map
              (plains ++ ·) := by
  induction shapes generalizing taken done with
  | nil =>
      refine ⟨[], [], by simpa using hheld, rfl, fun lenient rest => ?_⟩
      rw [List.nil_append, List.append_nil]
      cases (nameClasses conventions lenient taken rest).outcome <;> rfl
  | cons shape shapes ih =>
      have hkey := hkeys shape List.mem_cons_self
      rw [← ClassNames.isSome_plain? conventions] at hkey
      obtain ⟨plain, hplain⟩ := Option.isSome_iff_exists.mp hkey
      have hfile : shape.plainFile? conventions = some plain.fileName := by
        rw [ClassShape.plainFile?, ClassNames.fileName?_eq, hplain]
        rfl
      have hfree : holder? taken plain.fileName = none := by
        rw [hheld.holder?_eq_none, ← hfile]
        intro hmem
        rw [List.map_append, List.map_cons] at hdistinct
        exact List.disjoint_of_nodup_append hdistinct hmem List.mem_cons_self
      have hheld' : HeldBy conventions
          (taken ++ [(plain.fileName, shape.path)]) (done ++ [shape]) :=
        List.rel_append hheld (.cons ⟨hfile, rfl⟩ .nil)
      obtain ⟨more, plains, hmore, hplains, hrun⟩ :=
        ih (fun s hs => hkeys s (List.mem_cons_of_mem _ hs)) hheld'
          (by simpa using hdistinct)
      refine ⟨(plain.fileName, shape.path) :: more, plain :: plains,
        by simpa using hmore, by simp [hplain, hplains], ?_⟩
      intro lenient rest
      have hrest := hrun lenient rest
      rw [List.append_assoc] at hrest
      rw [List.cons_append, nameClasses]
      simp only [Traced.outcome_bind, nameClass_free hplain hfree, Except.bind,
        hrest, List.singleton_append]
      cases (nameClasses conventions lenient
        (taken ++ (plain.fileName, shape.path) :: more) rest).outcome <;> rfl

/-! ## The first clash -/

/-- At a class whose plain file is held, strict mode stops, and lenient mode
leaves the plain names. -/
theorem nameClasses_clash (hheld : HeldBy conventions taken before)
    (hkeys : ∀ s ∈ shape :: shapes, Name.usable s.key = true)
    (hclash : shape.plainFile? conventions
      ∈ before.map (ClassShape.plainFile? conventions)) :
    ∃ first ∈ before, ∃ fileName,
      first.plainFile? conventions = some fileName ∧
      shape.plainFile? conventions = some fileName ∧
      (nameClasses conventions false taken (shape :: shapes)).outcome
        = .error (.duplicateFile fileName first.path shape.path) ∧
      ∃ names others,
        (nameClasses conventions true taken (shape :: shapes)).outcome
          = .ok (names :: others) ∧
        some names ≠ ClassNames.plain? conventions shape.key := by
  have hkey := hkeys shape List.mem_cons_self
  rw [← ClassNames.isSome_plain? conventions] at hkey
  obtain ⟨plain, hplain⟩ := Option.isSome_iff_exists.mp hkey
  have hfile : shape.plainFile? conventions = some plain.fileName := by
    rw [ClassShape.plainFile?, ClassNames.fileName?_eq, hplain]
    rfl
  cases hholder : holder? taken plain.fileName with
  | none =>
      rw [hheld.holder?_eq_none, ← hfile] at hholder
      exact absurd hclash hholder
  | some path =>
      obtain ⟨first, hfirst, hfirstFile, rfl⟩ :=
        hheld.exists_of_mem (mem_of_holder?_eq_some hholder)
      refine ⟨first, hfirst, plain.fileName, hfirstFile, hfile, ?_, ?_⟩
      · rw [nameClasses]
        simp only [Traced.outcome_bind, nameClass_strict hplain hholder,
          Except.bind]
      · obtain ⟨entries, hentries⟩ :=
          nameClasses_lenient_ok conventions taken hkeys
        obtain ⟨names, others, hnames, -, rfl⟩ :=
          nameClasses_cons_eq_ok.mp hentries
        refine ⟨names, others, hentries, ?_⟩
        rw [nameClass_lenient hplain hholder] at hnames
        injection hnames with hnames
        rw [← hnames, hplain, settle, ne_eq, Option.some.injEq]
        exact ClassNames.numbered_ne_self plain _

/-- Lenient mode names every class. Strict mode gives the same names if
lenient mode kept all plain names, and stops at the first clash if it did
not. -/
theorem resolve_modes (conventions : Conventions) {schema : Schema}
    (hkeys : ∀ shape ∈ schema.classes, Name.usable shape.key = true) :
    ∃ table, (resolve schema conventions true).outcome = .ok table ∧
      (((resolve schema conventions false).outcome = .ok table ∧
          table.KeepsPlainNames conventions schema) ∨
        (∃ first second fileName,
          FirstClash conventions schema.classes fileName first second ∧
          (resolve schema conventions false).outcome
            = .error (.duplicateFile fileName first.path second.path) ∧
          ¬ table.KeepsPlainNames conventions schema)) := by
  rcases nodup_or_first_repeat (ClassShape.plainFile? conventions)
    schema.classes with hdistinct | ⟨before, second, after, hsplit, hbefore, hmem⟩
  · obtain ⟨more, plains, -, hplains, hrun⟩ :=
      nameClasses_distinct hkeys HeldBy.nil hdistinct
    have hmode : ∀ lenient,
        (resolve schema conventions lenient).outcome = .ok ⟨plains⟩ := by
      intro lenient
      have hall := hrun lenient []
      rw [List.append_nil] at hall
      rw [resolve_eq_ok, hall, nameClasses]
      simp [Except.map]
    exact ⟨⟨plains⟩, hmode true, .inl ⟨hmode false, hplains⟩⟩
  · rw [hsplit] at hkeys
    obtain ⟨more, plains, hheld, hplains, hrun⟩ :=
      nameClasses_distinct
        (fun s hs => hkeys s (List.mem_append_left _ hs)) HeldBy.nil hbefore
    obtain ⟨first, hfirst, fileName, hfirstFile, hfile, hstrict, names, others,
        hlenient, hne⟩ :=
      nameClasses_clash hheld
        (fun s hs => hkeys s (List.mem_append_right _ hs)) hmem
    refine ⟨⟨plains ++ names :: others⟩, ?_, .inr ⟨first, second, fileName,
      ⟨⟨before, after, hsplit, hfirst, hbefore⟩, hfirstFile, hfile⟩, ?_, ?_⟩⟩
    · rw [resolve_eq_ok, hsplit, hrun, hlenient]
      rfl
    · rw [resolve, hsplit, Traced.outcome_bind, hrun, hstrict]
      rfl
    · intro hkeeps
      rw [KeepsPlainNames, hsplit, List.map_append, List.map_append,
        List.map_cons, List.map_cons] at hkeeps
      have hlengths := congrArg List.length hplains
      rw [← hplains, List.append_cancel_left_eq] at hkeeps
      injection hkeeps with hhead
      exact hne hhead

end NameTable
end Recast
