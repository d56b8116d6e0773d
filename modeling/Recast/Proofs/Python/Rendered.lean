import Recast.Proofs.Generation.Views
import Recast.Proofs.Lexical.Calm
import Recast.Proofs.Python.Printed
import Recast.Template

/-!
# Rendered classes are read back

A class is rendered from its view. The reader gets back from the text the
names of the view and the expressions that the conversions of its fields stand
for, so from here on a module can be reasoned about without its text.

What this asks of a view is that its names are names, that a type is spelled
on one line, and that no module has a space in it. The names of a generation
are such, whatever the keys were.
-/

namespace Recast

open Name (Wordlike)
open Conversion (decodeAt encodeAt)

/-! ## Views that can be read back -/

structure FieldView.Legible (field : FieldView) : Prop where
  ident : Wordlike field.ident
  type : ∀ className ∈ field.type.refs, Wordlike className
  typeName : '\n' ∉ field.typeName.toList

structure ClassView.Legible (view : ClassView) : Prop where
  className : Wordlike view.className
  fields : ∀ field ∈ view.fields, field.Legible
  dependencies : ∀ dependency ∈ view.dependencies,
    Wordlike dependency.className ∧ ' ' ∉ dependency.module.toList

theorem ClassView.legible_of_ofShape {table : NameTable} {shape : ClassShape}
    {view : ClassView}
    (htable : ∀ id, Wordlike (table.get id).className ∧
      Plain (table.get id).module)
    (h : ClassView.ofShape .python table shape = .ok view) : view.Legible := by
  obtain ⟨hfields, hclass, -, -, hdependencies⟩ := ClassView.ofShape_eq_ok.mp h
  refine ⟨?_, ?_, ?_⟩
  · rw [hclass]
    exact (htable shape.id).1
  · intro field hfield
    obtain ⟨attr, -, hmade, hident⟩ :=
      List.exists_mem_of_forall₂_of_mem (forall₂_fieldViews hfields) hfield
    have htype : ∀ className ∈ field.type.refs, Wordlike className := by
      intro className hmem
      rw [hmade, fieldView, DataType.refs_mapRefs] at hmem
      obtain ⟨id, -, rfl⟩ := List.mem_map.mp hmem
      exact (htable id).1
    refine ⟨hident, htype, ?_⟩
    rw [hmade] at htype ⊢
    exact (calm_spell .python false fun className hmem =>
      (htype className hmem).calm).newline_not_mem
  · intro dependency hdependency
    rw [hdependencies] at hdependency
    obtain ⟨id, -, rfl⟩ := List.mem_map.mp hdependency
    exact ⟨(htable id).1, (htable id).2.not_mem (by decide)⟩

namespace Python

open Template.Python (print decodeField decodeValue encodeField decodeLine encodeLine)

/-! ## The conversions of a field -/

variable {type : DataType String} {value : Conversion} {field : FieldView}
  {rest : List Char}

theorem readable_decodeAt (h : ∀ className ∈ type.refs, Wordlike className)
    (depth : Nat) (hvalue : Readable value) :
    Readable (decodeAt (·.carriesClass) (fun _ value => value) type depth
      value) := by
  induction type generalizing depth value with
  | scalar kind => exact hvalue
  | map key item ihKey ihItem => exact hvalue
  | ref className => exact ⟨h className List.mem_cons_self, hvalue⟩
  | array item ih =>
      rw [decodeAt]
      split
      · exact ⟨hvalue, ih h (depth + 1) trivial⟩
      · exact hvalue

theorem readable_encodeAt (type : DataType String) (depth : Nat)
    (hoperand : IsOperand value) (hvalue : Readable value) :
    Readable (encodeAt type depth value) := by
  induction type generalizing depth value with
  | scalar kind => exact hvalue
  | map key item ihKey ihItem => exact hvalue
  | ref className => exact ⟨hoperand, hvalue⟩
  | array item ih =>
      rw [encodeAt]
      split
      · exact ⟨hvalue, ih (depth + 1) trivial trivial⟩
      · exact hvalue

theorem readable_decodeField (h : field.Legible) :
    Readable (decodeField field) := by
  simp only [decodeField, decodeValue]
  split
  · exact ⟨trivial, readable_decodeAt h.type 0 trivial⟩
  · trivial

theorem readable_encodeField (h : field.Legible) :
    Readable (encodeField field) := by
  rw [encodeField, Conversion.encodeGuarded]
  split
  · exact ⟨h.ident, readable_encodeAt field.type 0 trivial h.ident⟩
  · exact h.ident

/-- A readable conversion is read in front of any text that ends it. -/
theorem readExpr_print {conversion : Conversion} (h : Readable conversion)
    (hends : Ends rest) :
    readExpr ((print conversion).toList ++ rest).length
        ((print conversion).toList ++ rest) = some (conversion.expr, rest) := by
  refine (reads_conversion h _ ?_).2 rest hends
  rw [List.length_append]
  exact Nat.le_trans (nesting_le_length h) (Nat.le_add_right _ _)

/-! ## Lines -/

/-- The import of a class. -/
def importLine (dependency : Dependency) : String :=
  "from ." ++ dependency.module ++ " import " ++ dependency.className ++ "\n"

theorem readImport_line {dependency : Dependency}
    (hclass : Wordlike dependency.className)
    (hmodule : ' ' ∉ dependency.module.toList) (rest : List Char) :
    readImport ((importLine dependency).toList ++ rest)
      = some (⟨dependency.module, dependency.className⟩, rest) := by
  unfold importLine
  simp only [String.toList_append, List.append_assoc]
  rw [readImport]
  simp only [Option.bind_eq_bind, expect_bind]
  rw [readUntil_append hmodule rfl]
  simp only [expect_bind]
  rw [readName_append hclass (stops_append (by decide) rest)]
  simp only [expect_bind]
  rfl

theorem readField_line (h : field.Legible) (rest : List Char) :
    readField ((Template.Python.field field).toList ++ rest)
      = some (field.ident, rest) := by
  have hline : '\n' ∉ (field.typeName ++ "] = None").toList := by
    simp [h.typeName]
  have hlast : "] = None\n".toList = "] = None".toList ++ "\n".toList := by
    decide
  unfold Template.Python.field
  simp only [String.toList_append, List.append_assoc, hlast]
  rw [readField]
  simp only [Option.bind_eq_bind, expect_bind]
  rw [readName_append h.ident (stops_append (by decide) _)]
  simp only [expect_bind]
  rw [← List.append_assoc, ← String.toList_append,
    readUntil_append hline rfl]
  simp only [expect_bind]
  rfl

theorem readDecoded_line (h : field.Legible) (rest : List Char) :
    readDecoded ((decodeLine field).toList ++ rest)
      = some ((field.ident, (decodeField field).expr), rest) := by
  unfold decodeLine
  simp only [String.toList_append, List.append_assoc]
  rw [readDecoded]
  simp only [Option.bind_eq_bind, expect_bind]
  rw [readName_append h.ident (stops_append (by decide) _)]
  simp only [expect_bind]
  rw [readExpr_print (readable_decodeField h)
    (ends_append (by decide) rest)]
  simp only [Option.bind_some, expect_bind]
  rfl

theorem readEncoded_line (h : field.Legible) (rest : List Char) :
    readEncoded ((encodeLine field).toList ++ rest)
      = some ((field.key, (encodeField field).expr), rest) := by
  unfold encodeLine Template.Python.quote
  simp only [String.toList_append, List.append_assoc]
  rw [readEncoded]
  simp only [Option.bind_eq_bind, Option.bind_some, expect_bind,
    readLiteral_append]
  rw [readExpr_print (readable_encodeField h)
    (ends_append (by decide) rest)]
  simp only [Option.bind_some, expect_bind]
  rfl

/-! ## Modules -/

theorem readImport_end (rest : List Char) :
    readImport ("\n\n@dataclass\nclass ".toList ++ rest) = none := by
  rw [readImport, expect_of_chars rfl]
  rfl

theorem readField_end (rest : List Char) :
    readField ("\n    @classmethod\n".toList ++ rest) = none := by
  rw [readField, expect_of_chars rfl]
  rfl

theorem readDecoded_end (rest : List Char) :
    readDecoded ("        )\n".toList ++ rest) = none := by
  rw [readDecoded, expect_of_chars rfl]
  rfl

theorem readEncoded_end (rest : List Char) :
    readEncoded ("        \x7d\n".toList ++ rest) = none := by
  rw [readEncoded, expect_of_chars rfl]
  rfl

variable {view : ClassView}

theorem readImports_text (h : view.Legible) (rest : List Char) :
    readImports ((if view.dependencies.isEmpty then ""
        else "\n" ++ String.join (view.dependencies.map importLine)).toList ++
        ("\n\n@dataclass\nclass ".toList ++ rest))
      = (view.dependencies.map fun d => ⟨d.module, d.className⟩,
        "\n\n@dataclass\nclass ".toList ++ rest) := by
  have hopen : "\nfrom .".toList = "\n".toList ++ "from .".toList := by decide
  have hread : ∀ d ∈ view.dependencies, ∀ rest,
      readImport ((importLine d).toList ++ rest)
        = some (⟨d.module, d.className⟩, rest) := fun d hd =>
    readImport_line (h.dependencies d hd).1 (h.dependencies d hd).2
  revert hread
  generalize view.dependencies = dependencies
  intro hread
  cases dependencies with
  | nil =>
      rw [List.isEmpty_nil, if_pos rfl, String.toList_empty, List.nil_append,
        readImports]
      rfl
  | cons d ds =>
      have hfirst : ∃ more, "\n".toList ++
          ((String.join ((d :: ds).map importLine)).toList ++
            ("\n\n@dataclass\nclass ".toList ++ rest))
            = "\nfrom .".toList ++ more := by
        rw [List.map_cons, String.join_cons]
        simp only [importLine, String.toList_append, List.append_assoc, hopen]
        exact ⟨_, rfl⟩
      obtain ⟨more, hmore⟩ := hfirst
      have hdrop : ∀ text, ("\n".toList ++ text).drop 1 = text := fun _ => rfl
      rw [List.isEmpty_cons, if_neg (by decide), String.toList_append,
        List.append_assoc, readImports, hmore, expect_append, ← hmore]
      simp only [hdrop]
      exact readLines_text hread (readImport_end rest)

theorem readName_className (h : view.Legible) (rest : List Char) :
    readName (view.className.toList ++ (":\n".toList ++ rest))
      = (view.className, ":\n".toList ++ rest) :=
  readName_append h.className (stops_append (by decide) rest)

theorem readHead_text (h : view.Legible) (rest : List Char) :
    readHead ((Template.Python.header view).toList ++
        ((Template.forFields view Template.Python.field).toList ++
          ("\n    @classmethod\n".toList ++ rest)))
      = some ((view.dependencies.map fun d => ⟨d.module, d.className⟩,
          view.className, view.fields.map FieldView.ident),
        "\n    @classmethod\n".toList ++ rest) := by
  have hline : (fun d : Dependency =>
      "from ." ++ d.module ++ " import " ++ d.className ++ "\n") = importLine := rfl
  unfold Template.Python.header Template.forFields
  rw [hline]
  simp only [String.toList_append, List.append_assoc]
  rw [readHead]
  simp only [Option.bind_eq_bind, expect_bind]
  rw [readImports_text h]
  simp only [expect_bind]
  rw [readName_className h]
  simp only [expect_bind]
  rw [readLines_text (fun field hfield => readField_line (h.fields field hfield))
    (readField_end rest)]
  rfl

theorem readFromDict_text (h : view.Legible) (rest : List Char) :
    readFromDict ("\n    @classmethod\n".toList ++
        ("    def from_dict(cls, data: Dict[str, Any]) -> ".toList ++
          (view.className.toList ++ (":\n".toList ++
            ((if view.fields.isEmpty then "        return cls()\n"
              else "        return cls(\n" ++
                String.join (view.fields.map decodeLine) ++
                "        )\n").toList ++ rest)))))
      = some (view.fields.map fun field =>
          (field.ident, (decodeField field).expr), rest) := by
  rw [readFromDict]
  simp only [Option.bind_eq_bind, expect_bind]
  rw [readName_className h]
  simp only [expect_bind]
  exact readBlock_text (fun _ => expect_of_chars rfl)
    (fun field hfield => readDecoded_line (h.fields field hfield))
    (readDecoded_end rest)

theorem readFromJson_text (h : view.Legible) (rest : List Char) :
    readFromJson ("\n    @classmethod\n".toList ++
        ("    def from_json(cls, text: str) -> ".toList ++
          (view.className.toList ++ (":\n".toList ++
            ("        return cls.from_dict(json.loads(text))\n".toList ++
              rest)))))
      = some rest := by
  rw [readFromJson]
  simp only [Option.bind_eq_bind, expect_bind]
  rw [readName_className h]
  simp only [expect_bind]
  exact expect_append _ rest

theorem readToDict_text (h : view.Legible) (rest : List Char) :
    readToDict ("\n    def to_dict(self) -> Dict[str, Any]:\n".toList ++
        ((if view.fields.isEmpty then "        return \x7b\x7d\n"
          else "        return \x7b\n" ++
            String.join (view.fields.map encodeLine) ++
            "        \x7d\n").toList ++ rest))
      = some (view.fields.map fun field =>
          (field.key, (encodeField field).expr), rest) := by
  rw [readToDict]
  simp only [Option.bind_eq_bind, expect_bind]
  exact readBlock_text (fun _ => expect_of_chars rfl)
    (fun field hfield => readEncoded_line (h.fields field hfield))
    (readEncoded_end rest)

/-- The module that a class is written as. -/
def ofView (view : ClassView) : Module where
  fileName := view.fileName
  imports := view.dependencies.map fun d => ⟨d.module, d.className⟩
  className := view.className
  fields := view.fields.map FieldView.ident
  decoded := view.fields.map fun field => (field.ident, (decodeField field).expr)
  encoded := view.fields.map fun field => (field.key, (encodeField field).expr)

theorem render_eq (view : ClassView) :
    Language.python.render view = Template.Python.header view ++
      Template.forFields view Template.Python.field ++
      Template.Python.serialization view := by
  change Template.Python.header view ++
    Template.forFields view Template.Python.field ++ "" ++ "" ++ "" ++
    Template.Python.serialization view ++ "" = _
  simp only [String.append_empty]

/-- The text of a class is read back as the module of its view. -/
theorem readModule_render (h : view.Legible) :
    readModule view.fileName (Language.python.render view).toList
      = some (ofView view) := by
  rw [render_eq]
  unfold Template.Python.serialization
  simp only [String.toList_append, List.append_assoc]
  rw [readModule, readHead_text h]
  simp only [Option.bind_eq_bind, Option.bind_some]
  rw [Template.forFields, readFromDict_text h]
  simp only [Option.bind_some]
  rw [readFromJson_text h]
  simp only [Option.bind_some]
  rw [Template.forFields, readToDict_text h]
  rfl

end Python
end Recast
