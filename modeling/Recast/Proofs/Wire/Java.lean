import Recast.Proofs.Wire.Parts

/-!
# The fields of a Java class on the wire

Above the conversions, only the methods that get and set fields and the
constructors have lines that open like statements, and none of these holds a
parenthesis, as the line does that creates an object. Above the method that
encodes, no map is declared.

Jackson finds the fields between the line that opens the class and the blank one
above the first constructor.
-/

namespace Recast

open Name (Wordlike)

namespace Template

open LineShape

variable {view : ClassView} {field : FieldView} {hasAccessors : Bool}

namespace Java

/-! ## Above the conversions -/

/-- A line of a method that holds a parenthesis. -/
def statement : LineShape where
  opening := [['\t'], ['\t']]
  mark := '('

/-- The declaration of a map. -/
def mapLine : LineShape where
  opening := "\t\tMap<".toList.map ([·])
  mark := ' '

theorem clears_header (h : view.Clean) : statement.Clears (header view) := by
  have hclass := h.className.calm.newline_not_mem
  unfold header
  cases view.hasRenames <;> cases view.hasArrays
  all_goals
    simp only [String.append_assoc]
    exact clears_of_pass <| pass_words <| pass_words <| pass_words <|
      pass_words <| pass_words <| pass_words <| pass_words <| pass_words <|
      pass_hole hclass (by decide) <| pass_last (by decide)

theorem clears_renameAnnotation (key : String) :
    statement.Clears (Java.renameAnnotation key) := by
  unfold Java.renameAnnotation
  simp only [String.append_assoc]
  exact clears_of_pass <| pass_words <|
    pass_hole (spelled_literal rfl key).oneLine (by decide) <|
    pass_last (by decide)

theorem clears_field (h : field.Clean) : statement.Clears (Java.field field) := by
  unfold Java.field
  simp only [String.append_assoc]
  exact clears_of_pass <| pass_words <|
    pass_hole h.typeName.newline_not_mem (by decide) <| pass_words <|
    pass_hole h.ident.calm.newline_not_mem (by decide) <|
    pass_last (by decide)

theorem clears_constructor (h : view.Clean) :
    statement.Clears (Java.constructor view) := by
  have hclass := h.className.calm.newline_not_mem
  have hparameters : '\n' ∉ (", ".intercalate (view.fields.map parameter)).toList :=
    (h.calm_listing fun field hf => (hf.typeName.append
      (calm_words (by decide))).append hf.ident.calm).newline_not_mem
  unfold Java.constructor
  split
  all_goals simp only [String.append_assoc]
  · exact clears_of_pass <| pass_words <| pass_hole hclass (by decide) <|
      pass_words <| pass_last (by decide)
  · refine clears_of_pass <| pass_words <| pass_hole hclass (by decide) <|
      pass_words <| pass_words <| pass_hole hclass (by decide) <|
      pass_words <| pass_hole hparameters (by decide) <| pass_words <|
      pass_lines (clears_forFields h fun field hf => ?_) (by decide) <|
      pass_last (by decide)
    exact clears_of_pass <| pass_words <|
      pass_name hf.ident (by decide) (by decide) <| pass_words <|
      pass_name hf.ident (by decide) (by decide) <| pass_last (by decide)

theorem clears_accessors (h : field.Clean) :
    statement.Clears (Java.accessors field) := by
  have hident := h.ident.calm.newline_not_mem
  have htype := h.typeName.newline_not_mem
  have haccessor := h.accessor.newline_not_mem
  unfold Java.accessors
  simp only [String.append_assoc]
  exact clears_of_pass <| pass_words <| pass_hole htype (by decide) <|
    pass_words <| pass_hole haccessor (by decide) <| pass_words <|
    pass_words <| pass_name h.ident (by decide) (by decide) <|
    pass_words <| pass_words <| pass_hole haccessor (by decide) <|
    pass_words <| pass_hole htype (by decide) <| pass_words <|
    pass_hole hident (by decide) <| pass_words <| pass_words <|
    pass_name h.ident (by decide) (by decide) <| pass_words <|
    pass_name h.ident (by decide) (by decide) <| pass_last (by decide)

theorem clears_head (h : view.Clean) :
    statement.Clears (java.head hasAccessors view) := by
  refine Template.clears_head h (clears_header h) ?_ (fun _ => clears_field)
    clears_empty (clears_constructor h) (fun _ => clears_accessors)
  intro line hline key
  injection hline with hline
  subst hline
  exact clears_renameAnnotation key

/-! ## The conversions -/

/-- The method that decodes, with what stands above and below it. -/
def decoding (view : ClassView) : String :=
  "\t@SuppressWarnings(\"unchecked\")\n" ++
  "\tpublic static " ++ view.className ++ " fromMap(Map<String, Object> map) \x7b\n" ++
  "\t\t" ++ view.className ++ " o = new " ++ view.className ++ "();\n" ++
  forFields view decodeLine ++
  "\t\treturn o;\n\t\x7d\n"

theorem clears_decodeLine (h : field.Clean) :
    mapLine.Clears (decodeLine field) := by
  obtain ⟨keys, hspelled, -⟩ := (decodesField h).spelled
  unfold decodeLine
  simp only [String.append_assoc]
  exact clears_of_pass <| pass_words <|
    pass_hole h.ident.calm.newline_not_mem (by decide) <| pass_words <|
    pass_hole hspelled.oneLine (by decide) <| pass_last (by decide)

theorem clears_decoding (h : view.Clean) : mapLine.Clears (decoding view) := by
  have hclass := h.className.calm.newline_not_mem
  have hlines := clears_forFields h fun field hf => clears_decodeLine hf
  unfold decoding
  simp only [String.append_assoc]
  exact clears_of_pass <| pass_words <| pass_words <|
    pass_hole hclass (by decide) <| pass_words <| pass_words <|
    pass_name_then 2 h.className (by decide) (by decide) <|
    pass_hole hclass (by decide) <| pass_words <|
    pass_lines hlines (by decide) <| pass_last (by decide)

theorem regular {className : String} (h : Wordlike className) :
    methods.Regular className where
  target := calm_words (by decide)
  becomes := calm_words (by decide)
  entry := calm_words (by decide)
  holds := calm_words (by decide)
  decode := {
    first := (((calm_words (by decide)).append h.calm).append
      (calm_words (by decide))).newline_not_mem
    second := (((((calm_words (by decide)).append h.calm).append
      (calm_words (by decide))).append h.calm).append
      (calm_words (by decide))).newline_not_mem
    closing := (by decide : '\n' ∉ "\t\treturn o;".toList) }
  encode := {
    first := by decide
    second := by decide
    closing := by decide }
  decode_apart := by
    change "\t\t" ++ className ++ " o = new " ++ className ++ "();" ≠
      "\tpublic static " ++ className ++ " fromMap(Map<String, Object> map) \x7b"
    simp only [String.append_assoc]
    exact append_ne_append (by decide) (by decide) _ _
  encode_apart := by decide
  target_apart :=
    (by decide : "\t\to.".toList.isPrefixOf "\t\treturn o;".toList = false)
  entry_apart := by decide

def assigned (field : FieldView) : String :=
  print (decodeField field)

def stored (field : FieldView) : String :=
  print (encodeField field)

theorem forFields_decodeLine (view : ClassView) :
    forFields view decodeLine
      = unlines (view.fields.map (methods.assignment assigned ";")) := by
  refine join_map_lines (fun field => ?_) view.fields
  change "\t\to." ++ field.ident ++ " = " ++ assigned field ++ (";" ++ "\n")
    = "\t\to." ++ field.ident ++ " = " ++ assigned field ++ ";" ++ "\n"
  simp only [-String.reduceAppend, String.append_assoc]

theorem forFields_encodeLine (view : ClassView) :
    forFields view encodeLine
      = unlines (view.fields.map (methods.storage '"' stored ");")) := by
  refine join_map_lines (fun field => ?_) view.fields
  change "\t\tmap.put(" ++ quote field.key ++ ", " ++ stored field ++ (");" ++ "\n")
    = "\t\tmap.put(" ++ quote field.key ++ ", " ++ stored field ++ ");" ++ "\n"
  simp only [-String.reduceAppend, String.append_assoc]

theorem render_eq (hasAccessors : Bool) (view : ClassView) :
    java.render hasAccessors view
      = java.head hasAccessors view ++ serialization view ++ "\x7d\n" :=
  rfl

theorem decode_standsIn (hasAccessors : Bool) (view : ClassView) :
    (methods.decode view.className).StandsIn (java.render hasAccessors view)
      (java.head hasAccessors view ++ "\n" ++
        "\t@SuppressWarnings(\"unchecked\")")
      (view.fields.map (methods.assignment assigned ";")) := by
  have habove : "\n\t@SuppressWarnings(\"unchecked\")\n"
      = "\n" ++ ("\t@SuppressWarnings(\"unchecked\")" ++ "\n") := rfl
  have hfirst : " fromMap(Map<String, Object> map) \x7b\n"
      = " fromMap(Map<String, Object> map) \x7b" ++ "\n" := rfl
  have hsecond : "();\n" = "();" ++ "\n" := rfl
  have hclosing : "\t\treturn o;\n\t\x7d\n"
      = "\t\treturn o;" ++ ("\n" ++ "\t\x7d\n") := rfl
  have htext := render_eq hasAccessors view
  unfold serialization at htext
  simp only [-String.reduceAppend, habove, hfirst, hsecond, hclosing,
    forFields_decodeLine, String.append_assoc] at htext
  unfold Passage.StandsIn methods
  simp only [-String.reduceAppend, String.append_assoc]
  exact ⟨_, htext⟩

theorem encode_standsIn (hasAccessors : Bool) (view : ClassView) :
    methods.encode.StandsIn (java.render hasAccessors view)
      (java.head hasAccessors view ++ "\n" ++ decoding view)
      (view.fields.map (methods.storage '"' stored ");")) := by
  have habove : "\n\t@SuppressWarnings(\"unchecked\")\n"
      = "\n" ++ "\t@SuppressWarnings(\"unchecked\")\n" := rfl
  have hfirst : "\n\tpublic Map<String, Object> toMap() \x7b\n"
      = "\n" ++ ("\tpublic Map<String, Object> toMap() \x7b" ++ "\n") := rfl
  have hsecond : "\t\tMap<String, Object> map = new LinkedHashMap<>();\n"
      = "\t\tMap<String, Object> map = new LinkedHashMap<>();" ++ "\n" := rfl
  have hclosing : "\t\treturn map;\n\t\x7d\n"
      = "\t\treturn map;" ++ ("\n" ++ "\t\x7d\n") := rfl
  have htext := render_eq hasAccessors view
  unfold serialization at htext
  simp only [-String.reduceAppend, habove, hfirst, hsecond, hclosing,
    forFields_encodeLine, String.append_assoc] at htext
  unfold Passage.StandsIn methods decoding
  simp only [-String.reduceAppend, String.append_assoc]
  exact ⟨_, htext⟩

theorem keepKeys (h : view.Clean) (hasAccessors : Bool) :
    methods.KeepKeys view.className view.fields
      (lines (java.render hasAccessors view)) := by
  have hhead : statement.Absent (java.head hasAccessors view) :=
    (clears_head h).absent
  have hstops : statement.Stops (methods.decode view.className).second := by
    change statement.Stops
      ("\t\t" ++ view.className ++ " o = new " ++ view.className ++ "();")
    simp only [String.append_assoc]
    exact stops_of_pass <| pass_words <|
      pass_name h.className (by decide) (by decide) <| pass_words <|
      pass_name h.className (by decide) (by decide) <| pass_last (by decide)
  have hregular := regular h.className
  constructor
  · refine hregular.decode_keeps (fun field hf => (h.fields field hf).ident)
      (fun field hf => decodesField (h.fields field hf))
      (calm_words (by decide)) (decode_standsIn hasAccessors view)
      (not_mem_lines (hhead.not_mem hstops) ?_)
    exact (absent_of_pass .elsewhere <| pass_last (by decide)).not_mem hstops
  · exact hregular.encode_keeps rfl
      (fun field hf => encodesField (h.fields field hf))
      (calm_words (by decide)) (.inr (by decide))
      (encode_standsIn hasAccessors view)
      (not_mem_lines (hhead.not_mem (stops_of_pass (by decide)))
        ((clears_decoding h).absent.not_mem (stops_of_pass (by decide))))

/-! ## The declarations -/

/-- What stands above the line that opens the class. -/
def imports (view : ClassView) : String :=
  (if view.hasRenames then "import com.fasterxml.jackson.annotation.JsonProperty;\n" else "") ++
  "import com.fasterxml.jackson.core.JsonProcessingException;\n" ++
  "import com.fasterxml.jackson.databind.ObjectMapper;\n" ++
  "import java.util.LinkedHashMap;\n" ++
  (if view.hasArrays then "import java.util.List;\n" else "") ++
  "import java.util.Map;\n" ++
  (if view.hasArrays then "import java.util.stream.Collectors;\n" else "")

/-- A line that cannot be an import. -/
def classLine : LineShape where
  opening := [['p']]
  mark := ' '

theorem clears_imports (view : ClassView) : classLine.Clears (imports view) := by
  unfold imports
  cases view.hasRenames <;> cases view.hasArrays
  all_goals
    simp only [String.append_assoc]
    exact clears_of_pass <| pass_words <| pass_words <| pass_words <|
      pass_words <| pass_words <| pass_words <| pass_last (by decide)

def renames (field : FieldView) : String :=
  quote field.key ++ ")"

def declares (field : FieldView) : String :=
  "\tprivate " ++ field.typeName ++ " " ++ field.ident ++ ";"

theorem declared_declares (h : Wordlike field.ident) :
    declared (declares field) = field.ident := by
  have hchars : (declares field).toList
      = ("\tprivate " ++ field.typeName).toList ++
        (' ' :: field.ident.toList ++ [';']) := by
    simp [declares]
  have hname : ∀ c ∈ field.ident.toList.reverse, (c != ' ') = true := by
    intro c hc
    have hc := h c (List.mem_reverse.mp hc)
    rw [bne_iff_ne]
    rintro rfl
    cases hc
  rw [declared, hchars, ← List.append_assoc, List.dropLast_concat,
    List.reverse_append, List.reverse_cons, List.append_assoc,
    List.takeWhile_append_of_pos hname]
  simp

theorem forFields_annotatedField (view : ClassView) :
    forFields view java.annotatedField
      = unlines (view.fields.flatMap
        (declarations.declaration renames declares)) := by
  refine join_map_unlines (fun field => ?_) view.fields
  have hrenames : Java.renameAnnotation field.key
      = "\t@JsonProperty(" ++ (quote field.key ++ ")") ++ "\n" := by
    have hend : ")\n" = ")" ++ "\n" := rfl
    unfold Java.renameAnnotation
    simp only [-String.reduceAppend, hend, String.append_assoc]
  have hfield : java.field field = declares field ++ "\n" := by
    have hend : ";\n" = ";" ++ "\n" := rfl
    change "\tprivate " ++ field.typeName ++ " " ++ field.ident ++ ";\n" = _
    unfold declares
    simp only [-String.reduceAppend, hend, String.append_assoc]
  change (if field.renamed then Java.renameAnnotation field.key ++ java.field field
    else java.field field) = _
  rw [hrenames, hfield, Declarations.declaration]
  cases field.renamed <;>
    simp [renames, declarations]

theorem declarations_standsIn (hasAccessors : Bool) (view : ClassView) :
    (declarations.passage view.className).StandsIn
      (java.render hasAccessors view) (imports view)
      (view.fields.flatMap (declarations.declaration renames declares)) := by
  have hheader : header view = imports view ++
      ("\n" ++ ("public class " ++ (view.className ++ (" \x7b" ++ ("\n" ++ "\n"))))) := by
    have hfirst : "\npublic class " = "\n" ++ "public class " := rfl
    have hsecond : " \x7b\n\n" = " \x7b" ++ ("\n" ++ "\n") := rfl
    unfold header imports
    simp only [-String.reduceAppend, hfirst, hsecond, String.append_assoc]
  have hclosing : ∃ rest, constructor view = "\n" ++ rest := by
    have hopen : "\n\tpublic " = "\n" ++ "\tpublic " := rfl
    unfold constructor
    simp only [-String.reduceAppend, hopen, String.append_assoc]
    exact ⟨_, rfl⟩
  obtain ⟨rest, hclosing⟩ := hclosing
  have htext : java.render hasAccessors view
      = header view ++ forFields view java.annotatedField ++ "" ++
        constructor view ++
        (if hasAccessors then forFields view java.accessors else "") ++
        serialization view ++ "\x7d\n" := rfl
  rw [hheader, hclosing, forFields_annotatedField] at htext
  simp only [-String.reduceAppend, String.append_assoc, String.empty_append] at htext
  unfold Passage.StandsIn declarations
  simp only [-String.reduceAppend, String.append_assoc, String.empty_append]
  exact ⟨_, htext⟩

theorem declarations_keepKeys (h : view.Clean) (hasAccessors : Bool) :
    declarations.KeepKeys view.className view.fields
      (lines (java.render hasAccessors view)) := by
  have hopen : classLine.Stops ("public class " ++ view.className ++ " \x7b") := by
    simp only [String.append_assoc]
    exact stops_of_pass <| pass_words <| pass_stopped (by decide)
  refine Declarations.keepKeys_of_standsIn h.fields (fun field hf => ?_)
    (fun field hf => ?_) ?_ rfl
    (declarations_standsIn hasAccessors view)
    ((clears_imports view).absent.not_mem hopen)
  · exact ((spelled_literal rfl field.key).words (by decide)).after_words
      (by decide)
  · have hclean := h.fields field hf
    have honeLine : Calm (declares field) :=
      ((((calm_words (by decide)).append hclean.typeName).append
        (calm_words (by decide))).append hclean.ident.calm).append
        (calm_words (by decide))
    refine ⟨honeLine.newline_not_mem, ?_, ?_, declared_declares hclean.ident⟩
    · simp only [declares, String.append_assoc]
      exact not_isPrefixOf_append (by decide) (by decide) _
    · simp only [declares, String.append_assoc]
      exact append_ne (by decide : "\tprivate ".toList.isPrefixOf [] = false) _
  · exact {
      first := (((calm_words (by decide)).append h.className.calm).append
        (calm_words (by decide))).newline_not_mem
      second := (by decide : '\n' ∉ "".toList)
      closing := (by decide : '\n' ∉ "".toList) }

end Java
end Template
end Recast
