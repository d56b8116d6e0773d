import Recast.Proofs.Wire.LineShapes
import Recast.Proofs.Wire.Written

/-!
# What stands above the conversions

A template writes the fields and the methods that get and set them before it
writes the conversions. None of these lines looks like one that opens a
conversion, and that is shown part by part.
-/

namespace Recast

open Name (Wordlike)

theorem ClassView.Clean.calm_listing {view : ClassView} (h : view.Clean)
    {write : FieldView → String}
    (hwrite : ∀ field : FieldView, field.Clean → Calm (write field)) :
    Calm (", ".intercalate (view.fields.map write)) := by
  refine calm_intercalate (calm_words (by decide)) fun text htext => ?_
  obtain ⟨field, hfield, rfl⟩ := List.mem_map.mp htext
  exact hwrite field (h.fields field hfield)

theorem not_mem_lines {line s t : String} (hs : line ∉ lines s)
    (ht : line ∉ lines t) : line ∉ lines (s ++ "\n" ++ t) := by
  rw [lines_append, List.mem_append, not_or]
  exact ⟨hs, ht⟩

namespace Template

open LineShape

variable {view : ClassView} {field : FieldView} {hasAccessors : Bool}
  {shape : LineShape}

/-- What stands above the conversions of a class. -/
def head (template : Template) (hasAccessors : Bool) (view : ClassView) :
    String :=
  template.header view ++
  forFields view template.annotatedField ++
  template.fieldsEnd view ++
  template.constructor view ++
  (if hasAccessors then forFields view template.accessors else "")

theorem clears_forFields (h : view.Clean) {write : FieldView → String}
    (hwrite : ∀ field : FieldView, field.Clean → shape.Clears (write field)) :
    shape.Clears (forFields view write) :=
  clears_map fun field hfield => hwrite field (h.fields field hfield)

theorem clears_annotatedFields {template : Template} (h : view.Clean)
    (hrename : ∀ line ∈ template.renameAnnotation, ∀ key,
      shape.Clears (line key))
    (hfield : ∀ field : FieldView, field.Clean →
      shape.Clears (template.field field)) :
    shape.Clears (forFields view template.annotatedField) := by
  refine clears_forFields h fun field hclean => ?_
  rw [annotatedField]
  split
  · next line hsome =>
      exact clears_ite ((hrename line hsome field.key).append
        (hfield field hclean)) (hfield field hclean)
  · exact hfield field hclean

theorem clears_head {template : Template} (h : view.Clean)
    (hheader : shape.Clears (template.header view))
    (hrename : ∀ line ∈ template.renameAnnotation, ∀ key,
      shape.Clears (line key))
    (hfield : ∀ field : FieldView, field.Clean →
      shape.Clears (template.field field))
    (hfieldsEnd : shape.Clears (template.fieldsEnd view))
    (hconstructor : shape.Clears (template.constructor view))
    (haccessors : ∀ field : FieldView, field.Clean →
      shape.Clears (template.accessors field)) :
    shape.Clears (template.head hasAccessors view) :=
  (((hheader.append (clears_annotatedFields h hrename hfield)).append
    hfieldsEnd).append hconstructor).append
    (clears_ite (clears_forFields h haccessors) clears_empty)

end Template
end Recast
