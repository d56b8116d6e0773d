import Recast.Proofs.Names.Snake
import Recast.Proofs.NameTable.Settled

/-!
# Modules follow class names

The module of a class is made from its name, and a class that is moved has the
two numbered apart from each other. Both ways lead to one module: where the
module is the class name this is plain, and where it is the snake case of the
name a number comes through snake case behind a word. So classes of one name
would share a module, and since no two classes share a module, no two share a
name: an import by name cannot reach the wrong class.

A class name without any word has an empty module, and its numbers do not come
through. All such classes want the one file without a stem, and nothing else
wants that file, so the first of them is not moved. As long as there is only
one, nothing is lost.
-/

namespace Recast.NameTable

variable {conventions : Conventions} {lenient : Bool} {schema : Schema}
  {table : NameTable} {key : String} {earlier : List ClassNames}
  {plain names : ClassNames}

/-! ## One class -/

theorem moduleOf_numbered {className : String}
    (hwords : conventions.fileNaming = .snake →
      Name.words className.toList ≠ []) (n : Nat) :
    Name.moduleOf conventions (Name.numbered className n)
      = Name.numbered (Name.moduleOf conventions className) n := by
  rw [Name.moduleOf, Name.moduleOf]
  cases hnaming : conventions.fileNaming with
  | className => rfl
  | snake =>
      simp only
      rw [Name.snakeCase_numbered n (hwords hnaming), String.ofList_toList]

theorem Settled.module_eq (h : Settled conventions earlier plain names)
    (hplain : ClassNames.plain? conventions key = some plain)
    (hwords : plain.fileName ∈ earlier.map ClassNames.fileName →
      conventions.fileNaming = .snake →
      Name.words plain.className.toList ≠ []) :
    names.module = Name.moduleOf conventions names.className := by
  obtain ⟨-, hmodule, -⟩ := ClassNames.plain?_eq_some.mp hplain
  cases h with
  | kept free => exact hmodule
  | moved held least bound =>
      rw [moduleOf_numbered (hwords held), ← hmodule]

/-! ## A whole table -/

/-- Names that modules follow are as distinct as the modules. -/
theorem nodup_className (h : (resolve schema conventions lenient).outcome
      = .ok table)
    (hmodules : ∀ names ∈ table.entries,
      names.module = Name.moduleOf conventions names.className) :
    (table.entries.map ClassNames.className).Nodup := by
  have hfollow : table.entries.map ClassNames.module
      = (table.entries.map ClassNames.className).map
          (Name.moduleOf conventions) := by
    rw [List.map_map]
    exact List.map_congr_left hmodules
  have hnodup := nodup_module_of_resolve h
  rw [hfollow] at hnodup
  exact hnodup.of_map

/-- The classes that hold a file may say that a class whose file is held has a
word. -/
theorem module_of_resolve (h : (resolve schema conventions lenient).outcome
      = .ok table)
    (hwords : ∀ (i : Nat) (shape : ClassShape) (plain : ClassNames),
      schema.classes[i]? = some shape →
      ClassNames.plain? conventions shape.key = some plain →
      plain.fileName ∈ (table.entries.take i).map ClassNames.fileName →
      conventions.fileNaming = .snake →
      Name.words plain.className.toList ≠ []) :
    ∀ names ∈ table.entries,
      names.module = Name.moduleOf conventions names.className := by
  intro names hnames
  obtain ⟨i, hi⟩ := List.getElem?_of_mem hnames
  obtain ⟨hlt, -⟩ := List.getElem?_eq_some_iff.mp hi
  rw [length_of_resolve h] at hlt
  have hshape := List.getElem?_eq_getElem hlt
  obtain ⟨plain, hplain, hsettled⟩ := settled_of_resolve h hshape hi
  exact hsettled.module_eq hplain (hwords i _ plain hshape hplain)

/-- In capitalized words every class name has a word. -/
theorem module_of_pascal (hcase : conventions.classCase = .pascal)
    (h : (resolve schema conventions lenient).outcome = .ok table) :
    ∀ names ∈ table.entries,
      names.module = Name.moduleOf conventions names.className :=
  module_of_resolve h fun _ _ _ _ hplain _ _ =>
    Name.words_className_ne_nil hcase (ClassNames.plain?_eq_some.mp hplain).1

/-! ## Class names without a word -/

/-- The name of a class has a word in it. -/
def Worded (conventions : Conventions) (shape : ClassShape) : Prop :=
  ∀ className ∈ Name.className? conventions shape.key,
    Name.words className.toList ≠ []

instance (conventions : Conventions) (shape : ClassShape) :
    Decidable (Worded conventions shape) :=
  inferInstanceAs (Decidable (∀ className ∈
    Name.className? conventions shape.key, Name.words className.toList ≠ []))

/-- A class whose name has a word does not get the file without a stem. -/
theorem Settled.module_ne_empty (h : Settled conventions earlier plain names)
    (hnaming : conventions.fileNaming = .snake)
    (hplain : ClassNames.plain? conventions key = some plain)
    (hwords : Name.words plain.className.toList ≠ []) : names.module ≠ "" := by
  obtain ⟨-, hmodule, -⟩ := ClassNames.plain?_eq_some.mp hplain
  intro hempty
  cases h with
  | kept free =>
      rw [hmodule, Name.moduleOf, hnaming] at hempty
      refine hwords (Name.snakeCase_eq_nil_iff.mp ?_)
      simpa using congrArg String.toList hempty
  | moved held least bound =>
      have hchars := congrArg String.toList hempty
      rw [Name.toList_numbered] at hchars
      simp at hchars

/-- If no two classes are without a word, none of these is moved. -/
theorem words_of_pairwise (h : (resolve schema conventions lenient).outcome
      = .ok table)
    (hworded : schema.classes.Pairwise fun first second =>
      Worded conventions first ∨ Worded conventions second)
    (i : Nat) (shape : ClassShape) (plain : ClassNames)
    (hshape : schema.classes[i]? = some shape)
    (hplain : ClassNames.plain? conventions shape.key = some plain)
    (hheld : plain.fileName ∈ (table.entries.take i).map ClassNames.fileName)
    (hnaming : conventions.fileNaming = .snake) :
    Name.words plain.className.toList ≠ [] := by
  obtain ⟨hclass, hmodule, hfile⟩ := ClassNames.plain?_eq_some.mp hplain
  intro hwordless
  have hempty : plain.module = "" := by
    rw [hmodule, Name.moduleOf, hnaming]
    simp only [Name.snakeCase_eq_nil_iff.mpr hwordless, String.ofList_nil]
  obtain ⟨holder, hholder, hsame⟩ := List.mem_map.mp hheld
  obtain ⟨j, hj⟩ := List.getElem?_of_mem hholder
  obtain ⟨hlt, hj⟩ : j < i ∧ table.entries[j]? = some holder := by
    simpa [List.getElem?_take] using hj
  obtain ⟨hilt, rfl⟩ := List.getElem?_eq_some_iff.mp hshape
  have hfirst := List.getElem?_eq_getElem (Nat.lt_trans hlt hilt)
  rcases List.pairwise_iff_getElem.mp hworded j i _ hilt hlt
    with hfirstWorded | hsecondWorded
  · obtain ⟨own, hown, hsettled⟩ := settled_of_resolve h hfirst hj
    have hne := hsettled.module_ne_empty hnaming hown
      (hfirstWorded _ (ClassNames.plain?_eq_some.mp hown).1)
    rw [fileName_of_resolve h holder (List.mem_of_getElem? hj), hfile,
      String.append_left_inj, hempty] at hsame
    exact hne hsame
  · exact hsecondWorded _ hclass hwordless

end Recast.NameTable
