import Recast.Proofs.Wire.Parts

/-!
# The fields of a Rust struct on the wire

Serde finds the fields between the line that opens the struct and the first
closing brace. Above the struct stand imports and the attribute that derives the
conversions, and none of these lines is the attribute that gives fields their
defaults.
-/

namespace Recast

open Name (Wordlike)

namespace Template

open LineShape

variable {view : ClassView} {field : FieldView} {hasAccessors : Bool}

namespace Rust

/-- What stands above the attribute for the defaults. -/
def imports (view : ClassView) : String :=
  "use serde::\x7bDeserialize, Serialize\x7d;\n" ++
  String.join (view.dependencies.map fun d =>
    "use super::" ++ d.module ++ "::" ++ d.className ++ ";\n") ++
  "\n#[derive(Debug, Clone, Default, PartialEq, Serialize, Deserialize)]"

/-- An attribute that serde reads. -/
def attributeLine : LineShape where
  opening := [['#'], ['['], ['s']]
  mark := ')'

theorem absent_imports (h : view.Clean) : attributeLine.Absent (imports view) := by
  unfold imports
  simp only [String.append_assoc]
  refine absent_of_pass .elsewhere <| pass_words <|
    pass_lines (clears_map fun dependency hdependency => ?_) (by decide) <|
    pass_last (by decide)
  obtain ⟨hclass, hmodule⟩ := h.dependencies dependency hdependency
  exact clears_of_pass <| pass_words <|
    pass_hole hmodule.newline_not_mem (by decide) <| pass_words <|
    pass_hole hclass.newline_not_mem (by decide) <| pass_last (by decide)

def renames (field : FieldView) : String :=
  quote field.key ++ ")]"

def declares (field : FieldView) : String :=
  "    pub " ++ field.ident ++ ": Option<" ++ field.typeName ++ ">,"

theorem declared_declares (h : Wordlike field.ident) :
    declared (declares field) = field.ident := by
  have hchars : (declares field).toList = "    pub ".toList ++
      (field.ident.toList ++ ':' :: (" Option<" ++ field.typeName ++ ">,").toList) := by
    simp [declares]
  have hstops : Name.isNameChar ':' = false := by
    decide
  rw [declared, hchars, ← String.length_toList, List.drop_left,
    List.takeWhile_append_of_pos h, List.takeWhile_cons_of_neg (by simp [hstops]),
    List.append_nil, String.ofList_toList]

theorem forFields_annotatedField (view : ClassView) :
    forFields view rust.annotatedField
      = unlines (view.fields.flatMap
        (declarations.declaration renames declares)) := by
  refine join_map_unlines (fun field => ?_) view.fields
  have hrenames : Rust.renameAnnotation field.key
      = "    #[serde(rename = " ++ (quote field.key ++ ")]") ++ "\n" := by
    have hend : ")]\n" = ")]" ++ "\n" := rfl
    unfold Rust.renameAnnotation
    simp only [-String.reduceAppend, hend, String.append_assoc]
  have hfield : rust.field field = declares field ++ "\n" := by
    have hend : ">,\n" = ">," ++ "\n" := rfl
    change "    pub " ++ field.ident ++ ": Option<" ++ field.typeName ++ ">,\n" = _
    unfold declares
    simp only [-String.reduceAppend, hend, String.append_assoc]
  change (if field.renamed then Rust.renameAnnotation field.key ++ rust.field field
    else rust.field field) = _
  rw [hrenames, hfield, Declarations.declaration]
  cases field.renamed <;> simp [renames, declarations]

theorem declarations_standsIn (hasAccessors : Bool) (view : ClassView) :
    (declarations.passage view.className).StandsIn
      (rust.render hasAccessors view) (imports view)
      (view.fields.flatMap (declarations.declaration renames declares)) := by
  have habove : "\n#[derive(Debug, Clone, Default, PartialEq, Serialize, Deserialize)]\n"
      = "\n#[derive(Debug, Clone, Default, PartialEq, Serialize, Deserialize)]" ++ "\n" := rfl
  have hfirst : "#[serde(default)]\n" = "#[serde(default)]" ++ "\n" := rfl
  have hsecond : " \x7b\n" = " \x7b" ++ "\n" := rfl
  have hclosing : "\x7d\n" = "\x7d" ++ "\n" := rfl
  have htext : rust.render hasAccessors view
      = header view ++ forFields view rust.annotatedField ++ "\x7d\n" ++ "" ++
        (if hasAccessors then forFields view rust.accessors else "") ++
        serialization view ++ "\x7d\n" := rfl
  unfold header at htext
  simp only [-String.reduceAppend, habove, hfirst, hsecond, hclosing,
    forFields_annotatedField, String.append_assoc, String.empty_append] at htext
  unfold Passage.StandsIn declarations imports
  simp only [-String.reduceAppend, String.append_assoc]
  exact ⟨_, htext⟩

theorem keepKeys (h : view.Clean) (hasAccessors : Bool) :
    declarations.KeepKeys view.className view.fields
      (lines (rust.render hasAccessors view)) := by
  have hdefault : "#[serde(default)]" ∉ lines (imports view) :=
    (absent_imports h).not_mem (stops_of_pass (by decide))
  refine Declarations.keepKeys_of_standsIn h.fields (fun field hf => ?_)
    (fun field hf => ?_) ?_
    (by decide : "    #[serde(rename = ".toList.isPrefixOf "\x7d".toList = false)
    (declarations_standsIn hasAccessors view) hdefault
  · exact ((spelled_literal rfl field.key).words (by decide)).after_words
      (by decide)
  · have hclean := h.fields field hf
    have honeLine : Calm (declares field) :=
      ((((calm_words (by decide)).append hclean.ident.calm).append
        (calm_words (by decide))).append hclean.typeName).append
        (calm_words (by decide))
    refine ⟨honeLine.newline_not_mem, ?_, ?_, declared_declares hclean.ident⟩
    · simp only [declares, String.append_assoc]
      exact not_isPrefixOf_append (by decide) (by decide) _
    · simp only [declares, String.append_assoc]
      exact append_ne (by decide : "    pub ".toList.isPrefixOf "\x7d".toList = false) _
  · exact {
      first := (by decide : '\n' ∉ "#[serde(default)]".toList)
      second := (((calm_words (by decide)).append h.className.calm).append
        (calm_words (by decide))).newline_not_mem
      closing := (by decide : '\n' ∉ "\x7d".toList) }

end Rust
end Template
end Recast
