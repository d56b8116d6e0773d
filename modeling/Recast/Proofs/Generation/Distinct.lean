import Recast.Proofs.Generation.Files
import Recast.Proofs.NameTable.Modules

/-!
# No two files declare one class

The names of a table are told apart by the files they want, and class names
inherit this from the modules. In four of the languages nothing can get in the
way: either the module is the class name, or class names are written in
capitalized words and have at least one.

Ruby keeps the key as it stands and puts the file in snake case. An enclosed
letter such as `Ⓐ` is uppercase and alphanumeric, so it may open a class name
and be all of it, but it is no letter, and the words of a key hold only letters
and numbers. A class called so has no word. Where two classes have none, the
second is moved to a name that a third may have had all along.
-/

namespace Recast

namespace NameTable

variable {schema : Schema} {table : NameTable} {language : Language}

theorem module_of_language
    (h : (resolve schema language.conventions true).outcome = .ok table)
    (hruby : language = .ruby → schema.classes.Pairwise fun first second =>
      Worded .ruby first ∨ Worded .ruby second) :
    ∀ names ∈ table.entries,
      names.module = Name.moduleOf language.conventions names.className := by
  cases language with
  | java => exact module_of_resolve h fun _ _ _ _ _ _ hnaming => nomatch hnaming
  | ruby => exact module_of_resolve h (words_of_pairwise h (hruby rfl))
  | python => exact module_of_pascal rfl h
  | typescript =>
      exact module_of_resolve h fun _ _ _ _ _ _ hnaming => nomatch hnaming
  | rust => exact module_of_pascal rfl h

end NameTable

namespace Schema

/-- Lenient mode names and renders every class of an inferred schema, and no
two files declare one class. In Ruby this is said of schemas in which no two
classes are without a word. -/
theorem emit_declares_once (language : Language) {document : Json}
    {name : String} {schema : Schema}
    (h : (Schema.infer document name).outcome = .ok schema)
    (hruby : language = .ruby → schema.classes.Pairwise fun first second =>
      NameTable.Worded .ruby first ∨ NameTable.Worded .ruby second) :
    ∃ table files,
      (NameTable.resolve schema language.conventions true).outcome
        = .ok table ∧
      (emit language table schema.classes).outcome = .ok files ∧
      (table.entries.map ClassNames.className).Nodup ∧
      files.map SourceFile.className
        = table.entries.map ClassNames.className := by
  have hkeys := Schema.keysUsable_of_infer h
  obtain ⟨entries, hentries⟩ := NameTable.nameClasses_lenient_ok
    language.conventions [] fun shape hshape => (hkeys shape hshape).1
  have htable : (NameTable.resolve schema language.conventions true).outcome
      = .ok ⟨entries⟩ := NameTable.resolve_eq_ok.mpr hentries
  obtain ⟨files, hfiles⟩ := emit_ok language ⟨entries⟩ hkeys
  have hnames := SourceFile.names_of_infer h (NameTable.length_of_resolve htable)
    hfiles
  exact ⟨⟨entries⟩, files, htable, hfiles, NameTable.nodup_className htable
    (NameTable.module_of_language htable hruby), hnames.1⟩

/-- One class without a word, and two that want one file. -/
def badgeDocument : Json :=
  .object [("Ⓐ", .object [("item", .object [])]), ("Item", .object [])]

def badgeSchema : Schema where
  classes := [
    ⟨0, "root", "$", [⟨"Ⓐ", .ref 1⟩, ⟨"Item", .ref 3⟩]⟩,
    ⟨1, "Ⓐ", "$.Ⓐ", [⟨"item", .ref 2⟩]⟩,
    ⟨2, "item", "$.Ⓐ.item", []⟩,
    ⟨3, "Item", "$.Item", []⟩]

theorem emit_declares_once_badge :
    (Schema.infer badgeDocument "root").outcome = .ok badgeSchema ∧
      (badgeSchema.classes.Pairwise fun first second =>
        NameTable.Worded .ruby first ∨ NameTable.Worded .ruby second) ∧
      ∃ table, (NameTable.resolve badgeSchema .ruby true).outcome
          = .ok table ∧ (table.entries.map ClassNames.className).Nodup := by
  have h : (Schema.infer badgeDocument "root").outcome = .ok badgeSchema := rfl
  have hworded : badgeSchema.classes.Pairwise fun first second =>
      NameTable.Worded .ruby first ∨ NameTable.Worded .ruby second := by
    decide +kernel
  obtain ⟨table, files, htable, -, hnodup, -⟩ :=
    emit_declares_once .ruby h fun _ => hworded
  exact ⟨h, hworded, table, htable, hnodup⟩

/-- The second of two classes without a word is moved to the name of a third,
whose file is another one. -/
def circledDocument : Json :=
  .object [("Ⓐ", .object [("a", .null)]), ("Ⓐ_1", .object [("b", .null)])]

def circledSchema : Schema where
  classes := [
    ⟨0, "Ⓐ", "$", [⟨"Ⓐ", .ref 1⟩, ⟨"Ⓐ_1", .ref 2⟩]⟩,
    ⟨1, "Ⓐ", "$.Ⓐ", [⟨"a", .scalar .string⟩]⟩,
    ⟨2, "Ⓐ_1", "$.Ⓐ_1", [⟨"b", .scalar .string⟩]⟩]

theorem emit_declares_twice_circled :
    (Schema.infer circledDocument "Ⓐ").outcome = .ok circledSchema ∧
      ∃ table, (NameTable.resolve circledSchema .ruby true).outcome
          = .ok table ∧
        ¬ (table.entries.map ClassNames.className).Nodup := by
  have htable : (NameTable.resolve circledSchema .ruby true).outcome.toOption
      = some ⟨[⟨"Ⓐ", "", ".rb"⟩, ⟨"Ⓐ_1", "_1", "_1.rb"⟩,
          ⟨"Ⓐ_1", "1", "1.rb"⟩]⟩ := by decide +kernel
  refine ⟨rfl, ?_⟩
  cases houtcome : (NameTable.resolve circledSchema .ruby true).outcome with
  | error e =>
      rw [houtcome] at htable
      cases htable
  | ok table =>
      rw [houtcome] at htable
      obtain rfl := Option.some.inj htable
      exact ⟨_, rfl, by decide⟩

end Schema
end Recast
