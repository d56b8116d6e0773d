import Recast.Proofs.Names.Openings
import Recast.Proofs.NameTable.Modules

/-!
# A file keeps the name of its class

A class that is moved has its name and its module numbered apart from each
other, and its file is named after the module. In Java and TypeScript the two
names are one and stay one. In the other languages the module is the snake case
of the name, and a number comes through snake case exactly if there is a letter
or number in front of it: the underscore that sets the number off stands
between two words, or else opens the text and is lost.

What is said of a table goes class by class, from the plain names that a class
would have if no file were in its way to the names that it has.
-/

namespace Recast

open Unicode (isWordChar)

namespace Name

variable {s : List Char} {name : String}

theorem words_ne_nil_iff : words s ≠ [] ↔ ∃ c ∈ s, isWordChar c = true := by
  constructor
  · intro h
    obtain ⟨word, others, hwords⟩ := List.exists_cons_of_ne_nil h
    have hmem : word ∈ words s := hwords ▸ List.mem_cons_self
    obtain ⟨c, rest, rfl⟩ :=
      List.exists_cons_of_ne_nil (ne_nil_of_mem_words hmem)
    exact ⟨c, mem_of_mem_words hmem List.mem_cons_self,
      isWordChar_of_mem_words hmem List.mem_cons_self⟩
  · rintro ⟨c, hmem, hc⟩
    exact words_ne_nil hmem hc

/-- Behind a name without a word, the number alone is left in snake case. -/
theorem snakeCase_numbered_of_wordless (n : Nat) (h : words name.toList = []) :
    snakeCase (numbered name n).toList = Nat.toDigits 10 n := by
  rw [toList_numbered, snakeCase, words_underscore, h, words_toDigits,
    List.nil_append, List.map_singleton, List.intercalate_singleton,
    lower_toDigits]

/-- A number comes through snake case behind a letter or number, and only
there. -/
theorem snakeCase_numbered_iff (n : Nat) :
    snakeCase (numbered name n).toList
        = (numbered (String.ofList (snakeCase name.toList)) n).toList ↔
      ∃ c ∈ name.toList, isWordChar c = true := by
  rw [← words_ne_nil_iff]
  constructor
  · intro heq hwordless
    rw [snakeCase_numbered_of_wordless n hwordless, toList_numbered,
      String.toList_ofList, snakeCase_eq_nil_iff.mpr hwordless] at heq
    exact absurd (congrArg List.length heq) (by simp)
  · exact snakeCase_numbered n

end Name

/-- How the names of a class belong together, given its plain names: the file
is the module with the extension of the language, and the module is the class
name or its snake case. Where the class is moved, the snake case asks for a
letter or number in the plain name. -/
structure ClassNames.KeptBy (language : Language) (plain names : ClassNames) :
    Prop where
  fileName_eq : names.fileName = names.module ++ language.conventions.extension
  module_eq_className : language = .java ∨ language = .typescript →
    names.module = names.className
  module_eq_snakeCase :
    language = .ruby ∨ language = .python ∨ language = .rust →
    (names.module = String.ofList (Name.snakeCase names.className.toList) ↔
      names = plain ∨ ∃ c ∈ plain.className.toList, isWordChar c = true)

namespace NameTable

variable {language : Language} {earlier : List ClassNames} {key : String}
  {plain names : ClassNames}

theorem Settled.keptBy
    (hplain : ClassNames.plain? language.conventions key = some plain)
    (h : Settled language.conventions earlier plain names) :
    ClassNames.KeptBy language plain names := by
  obtain ⟨-, hmodule, -⟩ := ClassNames.plain?_eq_some.mp hplain
  refine ⟨h.fileName_eq hplain, ?_, ?_⟩
  · intro hsame
    have hnaming : language.conventions.fileNaming = .className := by
      rcases hsame with rfl | rfl <;> rfl
    refine (h.module_eq hplain fun _ hsnake => ?_).trans ?_
    · rw [hnaming] at hsnake
      cases hsnake
    · rw [Name.moduleOf, hnaming]
  · intro hcased
    have hnaming : language.conventions.fileNaming = .snake := by
      rcases hcased with rfl | rfl | rfl <;> rfl
    rw [Name.moduleOf, hnaming] at hmodule
    cases h with
    | kept free => simp [hmodule]
    | @moved n held least bound =>
        have hkept : Name.numbered plain.module n
            = String.ofList (Name.snakeCase
                (Name.numbered plain.className n).toList) ↔
              ∃ c ∈ plain.className.toList, isWordChar c = true := by
          rw [hmodule, ← String.toList_inj, String.toList_ofList, eq_comm]
          exact Name.snakeCase_numbered_iff n
        refine hkept.trans (or_iff_right fun hsame => ?_).symm
        exact Name.numbered_ne _ n (congrArg ClassNames.className hsame)

/-- In the table of lenient mode, the file of each class is its module with the
extension of the language. The module is the class name in Java and TypeScript.
In Ruby, Python and Rust it is the snake case of the class name, moved or not,
if there is a letter or number in the plain class name, and only then if the
class is moved. -/
theorem resolve_lenient_keptBy {schema : Schema} {table : NameTable}
    (h : (resolve schema language.conventions true).outcome = .ok table) :
    List.Forall₂ (fun shape names => ∃ plain,
      ClassNames.plain? language.conventions shape.key = some plain ∧
        ClassNames.KeptBy language plain names)
      schema.classes table.entries := by
  refine List.forall₂_iff_get.mpr ⟨(length_of_resolve h).symm, ?_⟩
  intro i hi hi'
  obtain ⟨plain, hplain, hsettled⟩ := settled_of_resolve h
    (List.getElem?_eq_getElem hi) (List.getElem?_eq_getElem hi')
  exact ⟨plain, hplain, hsettled.keptBy hplain⟩

/-- Two classes whose name ends on a sigma, which is small in its own way at
the end of a word, and stays so in front of a number. -/
def streetSchema : Schema where
  classes := [⟨0, "ΟΔΟΣ", "$", []⟩, ⟨1, "ΟΔΟΣ", "$.ΟΔΟΣ", []⟩]

theorem resolve_lenient_keptBy_street :
    ∃ table, (resolve streetSchema Language.ruby.conventions true).outcome
        = .ok table ∧
      table.entries.map ClassNames.className = ["ΟΔΟΣ", "ΟΔΟΣ_1"] ∧
      table.entries.map ClassNames.module = ["οδος", "οδος_1"] ∧
      List.Forall₂ (fun shape names => ∃ plain,
        ClassNames.plain? Language.ruby.conventions shape.key = some plain ∧
          ClassNames.KeptBy .ruby plain names)
        streetSchema.classes table.entries := by
  have hkeys : ∀ shape ∈ streetSchema.classes,
      Name.usable shape.key = true := by decide +kernel
  obtain ⟨entries, hentries⟩ :=
    nameClasses_lenient_ok Language.ruby.conventions [] hkeys
  have htable : (resolve streetSchema Language.ruby.conventions true).outcome
      = .ok ⟨entries⟩ := resolve_eq_ok.mpr hentries
  have hnames : (resolve streetSchema
      Language.ruby.conventions true).outcome.toOption.map
      (fun table => (table.entries.map ClassNames.className,
        table.entries.map ClassNames.module))
      = some (["ΟΔΟΣ", "ΟΔΟΣ_1"], ["οδος", "οδος_1"]) := by decide +kernel
  rw [htable] at hnames
  obtain ⟨hclasses, hmodules⟩ := Prod.mk.inj (Option.some.inj hnames)
  exact ⟨⟨entries⟩, htable, hclasses, hmodules, resolve_lenient_keptBy htable⟩

end NameTable
end Recast
