import Recast.Proofs.NameTable.Resolve

/-!
# A class moves no further than it must

What lenient mode calls a class depends on its plain names and on the files of
the classes before it, and on nothing else. `Settled` says how: a class whose
plain file is free keeps its plain names, and any other class takes the least
number, from one on, under which its file is free.

The number is never greater than the count of the classes before it. They hold
one file each, and the plain file, which is no candidate, is one of those, so
they cannot hold as many candidates as there are classes.

The loop carries the files that are taken. The step lemma is about one class
after any others; the run lemma goes through the schema and turns the files
taken so far into the files of the table up to the place that was reached.
-/

namespace Recast

namespace ClassNames

variable {conventions : Conventions} {plain : ClassNames}

/-- The plain file carries no number, so it is no candidate. -/
theorem fileName_numbered_ne
    (hfile : plain.fileName = plain.module ++ conventions.extension) (n : Nat) :
    (plain.numbered conventions n).fileName ≠ plain.fileName := by
  rw [numbered, hfile]
  intro h
  exact Name.numbered_ne plain.module n (String.append_left_inj _ |>.mp h)

end ClassNames

namespace NameTable

/-- The names of a class, given its plain names and the names of the classes
before it. -/
inductive Settled (conventions : Conventions) (earlier : List ClassNames)
    (plain : ClassNames) : ClassNames → Prop
  | kept (free : plain.fileName ∉ earlier.map ClassNames.fileName) :
    Settled conventions earlier plain plain
  | moved {n : Nat}
    (held : plain.fileName ∈ earlier.map ClassNames.fileName)
    (least : IsLeast {m | 1 ≤ m ∧
      Name.numbered plain.module m ++ conventions.extension
        ∉ earlier.map ClassNames.fileName} n)
    (bound : n ≤ earlier.length) :
    Settled conventions earlier plain
      ⟨Name.numbered plain.className n, Name.numbered plain.module n,
        Name.numbered plain.module n ++ conventions.extension⟩

variable {conventions : Conventions} {lenient : Bool} {taken : Holders}
  {shape : ClassShape} {shapes : List ClassShape}
  {earlier entries : List ClassNames} {plain names : ClassNames}

/-! ## One class -/

theorem settled_settle
    (htaken : taken.map Prod.fst = earlier.map ClassNames.fileName)
    (hplain : ClassNames.plain? conventions shape.key = some plain)
    (hheld : plain.fileName ∈ earlier.map ClassNames.fileName) :
    Settled conventions earlier plain (settle conventions taken plain) := by
  have hsome : ∀ n,
      (holder? taken (plain.numbered conventions n).fileName).isSome = true ↔
        (plain.numbered conventions n).fileName
          ∈ earlier.map ClassNames.fileName := by
    intro n
    rw [isSome_holder?, htaken]
  have hinjective :
      Function.Injective fun n => (plain.numbered conventions n).fileName :=
    ClassNames.fileName_numbered_injective plain
  have hlength : taken.length = (earlier.map ClassNames.fileName).length := by
    rw [← htaken, List.length_map]
  have hfile := (ClassNames.plain?_eq_some.mp hplain).2.2
  rw [settle, hlength]
  refine .moved hheld (Name.isLeast_leastFree _ hsome hinjective 1) ?_
  have hlt := Name.leastFree_lt _ hsome hinjective 1 hheld
    (ClassNames.fileName_numbered_ne hfile)
  rw [List.length_map] at hlt
  rw [List.length_map]
  omega

theorem settled_of_nameClass
    (htaken : taken.map Prod.fst = earlier.map ClassNames.fileName)
    (h : (nameClass conventions lenient taken shape).outcome = .ok names) :
    ∃ plain, ClassNames.plain? conventions shape.key = some plain ∧
      Settled conventions earlier plain names := by
  obtain ⟨plain, hplain, ⟨hfree, rfl⟩ | ⟨-, hheld, rfl⟩⟩ := nameClass_cases h
  · rw [holder?_eq_none, htaken] at hfree
    exact ⟨names, hplain, .kept hfree⟩
  · rw [isSome_holder?, htaken] at hheld
    exact ⟨plain, hplain, settled_settle htaken hplain hheld⟩

/-- Whether it is moved or not, the file of a class is its module with the
extension of the language. -/
theorem Settled.fileName_eq {key : String}
    (h : Settled conventions earlier plain names)
    (hplain : ClassNames.plain? conventions key = some plain) :
    names.fileName = names.module ++ conventions.extension := by
  cases h with
  | kept free => exact (ClassNames.plain?_eq_some.mp hplain).2.2
  | moved held least bound => rfl

/-! ## A whole run -/

theorem settled_of_nameClasses
    (htaken : taken.map Prod.fst = earlier.map ClassNames.fileName)
    (h : (nameClasses conventions lenient taken shapes).outcome
      = .ok entries) {i : Nat}
    (hshape : shapes[i]? = some shape) (hnames : entries[i]? = some names) :
    ∃ plain, ClassNames.plain? conventions shape.key = some plain ∧
      Settled conventions (earlier ++ entries.take i) plain names := by
  induction shapes generalizing taken earlier entries i with
  | nil => simp at hshape
  | cons first shapes ih =>
      obtain ⟨own, others, hown, hothers, rfl⟩ := nameClasses_cons_eq_ok.mp h
      match i with
      | 0 =>
          simp only [List.getElem?_cons_zero, Option.some.injEq] at hshape hnames
          subst hshape hnames
          rw [List.take_zero, List.append_nil]
          exact settled_of_nameClass htaken hown
      | i + 1 =>
          have htaken' : (taken ++ [(own.fileName, first.path)]).map Prod.fst
              = (earlier ++ [own]).map ClassNames.fileName := by
            simp [htaken]
          obtain ⟨plain, hplain, hsettled⟩ := ih htaken' hothers hshape hnames
          refine ⟨plain, hplain, ?_⟩
          rwa [List.append_assoc, List.singleton_append,
            ← List.take_succ_cons] at hsettled

theorem settled_of_resolve {schema : Schema} {table : NameTable}
    (h : (resolve schema conventions lenient).outcome = .ok table) {i : Nat}
    (hshape : schema.classes[i]? = some shape)
    (hnames : table.entries[i]? = some names) :
    ∃ plain, ClassNames.plain? conventions shape.key = some plain ∧
      Settled conventions (table.entries.take i) plain names := by
  have hrun := resolve_eq_ok.mp h
  have hempty : ([] : Holders).map Prod.fst = ([] : List ClassNames).map
    ClassNames.fileName := rfl
  simpa using settled_of_nameClasses hempty hrun hshape hnames

theorem length_of_resolve {schema : Schema} {table : NameTable}
    (h : (resolve schema conventions lenient).outcome = .ok table) :
    table.entries.length = schema.classes.length :=
  length_of_nameClasses (resolve_eq_ok.mp h)

/-- In a table, the file of a class is its module with the extension of the
language. -/
theorem fileName_of_resolve {schema : Schema} {table : NameTable}
    (h : (resolve schema conventions lenient).outcome = .ok table) :
    ∀ names ∈ table.entries,
      names.fileName = names.module ++ conventions.extension := by
  intro names hnames
  obtain ⟨i, hi⟩ := List.getElem?_of_mem hnames
  obtain ⟨hlt, -⟩ := List.getElem?_eq_some_iff.mp hi
  rw [length_of_resolve h] at hlt
  obtain ⟨plain, hplain, hsettled⟩ :=
    settled_of_resolve h (List.getElem?_eq_getElem hlt) hi
  exact hsettled.fileName_eq hplain

theorem nodup_fileName_of_resolve {schema : Schema} {table : NameTable}
    (h : (resolve schema conventions lenient).outcome = .ok table) :
    (table.entries.map ClassNames.fileName).Nodup := by
  simpa using nodup_of_nameClasses (resolve_eq_ok.mp h) List.nodup_nil

theorem nodup_module_of_resolve {schema : Schema} {table : NameTable}
    (h : (resolve schema conventions lenient).outcome = .ok table) :
    (table.entries.map ClassNames.module).Nodup := by
  have hfiles := nodup_fileName_of_resolve h
  have hfollow : table.entries.map ClassNames.fileName
      = (table.entries.map ClassNames.module).map
          (· ++ conventions.extension) := by
    rw [List.map_map]
    exact List.map_congr_left (fileName_of_resolve h)
  rw [hfollow] at hfiles
  exact hfiles.of_map

/-- Lenient mode names every class of a schema whose keys have names: the
class at each place has its plain names if no class before it holds its plain
file, and otherwise the same names with the least number that gives a free
file. No two classes share a file or a module. -/
theorem resolve_lenient_settled (conventions : Conventions) {schema : Schema}
    (hkeys : ∀ shape ∈ schema.classes, Name.usable shape.key = true) :
    ∃ table, (resolve schema conventions true).outcome = .ok table ∧
      table.entries.length = schema.classes.length ∧
      (∀ i shape names, schema.classes[i]? = some shape →
        table.entries[i]? = some names →
        ∃ plain, ClassNames.plain? conventions shape.key = some plain ∧
          Settled conventions (table.entries.take i) plain names) ∧
      (table.entries.map ClassNames.fileName).Nodup ∧
      (table.entries.map ClassNames.module).Nodup := by
  obtain ⟨entries, hentries⟩ := nameClasses_lenient_ok conventions [] hkeys
  have htable : (resolve schema conventions true).outcome = .ok ⟨entries⟩ :=
    resolve_eq_ok.mpr hentries
  exact ⟨⟨entries⟩, htable, length_of_resolve htable,
    fun i shape names => settled_of_resolve htable,
    nodup_fileName_of_resolve htable, nodup_module_of_resolve htable⟩

/-- The name that a class would move to first is the key of another class. -/
def skippedSchema : Schema where
  classes := [⟨0, "data", "$", []⟩, ⟨1, "data_1", "$.data_1", []⟩,
    ⟨2, "data", "$.x.data", []⟩]

theorem resolve_lenient_settled_skipped :
    (∀ shape ∈ skippedSchema.classes, Name.usable shape.key = true) ∧
      ∃ entries, (resolve skippedSchema .ruby true).outcome = .ok ⟨entries⟩ ∧
        Settled .ruby (entries.take 2) ⟨"Data", "data", "data.rb"⟩
          ⟨"Data_2", "data_2", "data_2.rb"⟩ := by
  have hkeys : ∀ shape ∈ skippedSchema.classes,
      Name.usable shape.key = true := by decide +kernel
  obtain ⟨table, htable, -, hsettled, -, -⟩ :=
    resolve_lenient_settled .ruby hkeys
  have hentries : (resolve skippedSchema .ruby true).outcome.toOption
      = some ⟨[⟨"Data", "data", "data.rb"⟩, ⟨"Data_1", "data_1", "data_1.rb"⟩,
          ⟨"Data_2", "data_2", "data_2.rb"⟩]⟩ := by decide +kernel
  rw [htable] at hentries
  obtain rfl := Option.some.inj hentries
  obtain ⟨plain, hplain, hthird⟩ := hsettled 2 _ _ rfl rfl
  have hdata : ClassNames.plain? .ruby "data"
      = some ⟨"Data", "data", "data.rb"⟩ := by decide +kernel
  obtain rfl := Option.some.inj (hdata.symm.trans hplain)
  exact ⟨hkeys, _, htable, hthird⟩

end NameTable
end Recast
