import Recast.Proofs.Generation.Files
import Recast.Proofs.Inference.Arena
import Recast.Proofs.Wire.Java
import Recast.Proofs.Wire.Python
import Recast.Proofs.Wire.Ruby
import Recast.Proofs.Wire.Rust
import Recast.Proofs.Wire.TypeScript

/-!
# Fields keep their keys on the wire

An identifier is made for the language that it is declared in, so it may be far
from the key that it was made of. In the text of every class that is generated,
each field is still decoded from its key and encoded under it. Neither what is
in a key nor how deep the type of a field nests matters for that, and classes
that no inference would find are no exception.
-/

namespace Recast

/-- The lines of a class without surprises in its names are those that the
language is known by. -/
theorem Language.keepsKeys_render (language : Language) {view : ClassView}
    (h : view.Clean) : language.KeepsKeys view.className view.fields
      (lines (language.render view)) := by
  cases language with
  | java =>
      exact ⟨Template.Java.keepKeys h _, Template.Java.declarations_keepKeys h _⟩
  | ruby => exact Template.Ruby.keepKeys h _
  | python => exact Template.Python.keepKeys h _
  | typescript => exact Template.TypeScript.keepKeys h _
  | rust => exact Template.Rust.keepKeys h _

/-- The fields of a class stand for its attributes, in order and under the same
keys, and the lines of its file keep these. -/
def SourceFile.KeepsKeys (language : Language) (table : NameTable)
    (shape : ClassShape) (file : SourceFile) : Prop :=
  ∃ view, ClassView.ofShape language.conventions table shape = .ok view ∧
    file.className = view.className ∧
    view.fields.map FieldView.key = shape.attributes.map Attribute.key ∧
    language.KeepsKeys view.className view.fields (lines file.text)

namespace Schema

/-- Every class that is generated over the names of a schema keeps the keys of
its attributes. -/
theorem emit_keepsKeys {language : Language} {schema : Schema} {lenient : Bool}
    {table : NameTable} {shapes : List ClassShape} {files : List SourceFile}
    (htable : (NameTable.resolve schema language.conventions lenient).outcome
      = .ok table)
    (hfiles : (emit language table shapes).outcome = .ok files) :
    List.Forall₂ (SourceFile.KeepsKeys language table) shapes files := by
  have hrenders := emit_eq_ok.mp hfiles
  refine hrenders.imp fun shape file => ?_
  rintro ⟨view, hview, rfl⟩
  have hclean : view.Clean :=
    ClassView.clean_of_ofShape (NameTable.wordlike_get htable) hview
  exact ⟨view, hview, rfl, ClassView.keys_of_ofShape hview,
    language.keepsKeys_render hclean⟩

/-- Keys that are no identifiers, or come out as the same one, and types that
nest. -/
def chartShape : ClassShape where
  id := 1
  key := "chart"
  path := "$.chart"
  attributes := [⟨"a\nb \"c'\\", .array (.array (.ref 1))⟩,
    ⟨"class", .scalar .integer⟩, ⟨"Class", .map (.scalar .string) (.ref 1)⟩]

theorem emit_keepsKeys_chart :
    ∃ table files,
      (NameTable.resolve gridSchema Language.java.conventions true).outcome
        = .ok table ∧
      (emit .java table [chartShape]).outcome = .ok files ∧
      List.Forall₂ (SourceFile.KeepsKeys .java table) [chartShape] files := by
  obtain ⟨entries, hentries⟩ := NameTable.nameClasses_lenient_ok
    Language.java.conventions [] (by decide +kernel :
      ∀ shape ∈ gridSchema.classes, Name.usable shape.key = true)
  have htable : (NameTable.resolve gridSchema Language.java.conventions
      true).outcome = .ok ⟨entries⟩ := NameTable.resolve_eq_ok.mpr hentries
  obtain ⟨files, hfiles⟩ := @emit_ok [chartShape] .java ⟨entries⟩
    fun shape hshape => by
      rw [List.mem_singleton.mp hshape]
      exact ⟨by decide +kernel, by decide +kernel⟩
  exact ⟨⟨entries⟩, files, htable, hfiles, emit_keepsKeys htable hfiles⟩

end Schema
end Recast
