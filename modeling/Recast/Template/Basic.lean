import Recast.ClassView

/-!
# Templates

A template writes the parts of a generated class. The parts come in a fixed order, the same for
every language; a language that has nothing to say at some place leaves it empty.
-/

namespace Recast

structure Template where
  /-- Imports, annotations and the line that opens the class. -/
  header : ClassView → String
  field : FieldView → String
  /-- What closes the fields where the language sets them off from the methods. -/
  fieldsEnd : ClassView → String
  constructor : ClassView → String
  /-- The methods that get and set a field. -/
  accessors : FieldView → String
  /-- The conversions from and to maps and JSON text. -/
  serialization : ClassView → String
  footer : ClassView → String
  /-- The line above a field whose identifier is not its key, if the language has one. -/
  renameAnnotation : Option (String → String)

namespace Template

/-- The part of a template that says nothing. -/
def nothing {α : Type} (_ : α) : String := ""

/-- One text for each field, put together. -/
def forFields (view : ClassView) (write : FieldView → String) : String :=
  String.join (view.fields.map write)

/-- A field under its annotation, if it needs one. -/
def annotatedField (template : Template) (field : FieldView) : String :=
  match template.renameAnnotation with
  | some annotation =>
    if field.renamed then annotation field.key ++ template.field field else template.field field
  | none => template.field field

/-- The text of a class. -/
def render (template : Template) (hasAccessors : Bool) (view : ClassView) : String :=
  template.header view ++
  forFields view template.annotatedField ++
  template.fieldsEnd view ++
  template.constructor view ++
  (if hasAccessors then forFields view template.accessors else "") ++
  template.serialization view ++
  template.footer view

end Template

end Recast
