import Recast.Proofs.Wire.Parts

/-!
# The fields of a TypeScript class on the wire

Above the conversions, only the constructor has a line that opens like a
statement, and it calls a method. Above the method that encodes, no statement
returns a record; without fields there is no such statement at all, since an
empty record is written on one line.
-/

namespace Recast

open Name (Wordlike)

namespace Template

open LineShape

variable {view : ClassView} {field : FieldView} {hasAccessors : Bool}

namespace TypeScript

/-! ## Above the conversions -/

/-- A declaration in a method, or what it returns. -/
def statement : LineShape where
  opening := [[' '], [' '], [' '], [' '], ['c', 'r']]
  mark := ' '

/-- A method that returns a record. -/
def returnLine : LineShape where
  opening := "    return ".toList.map ([·])
  mark := '\x7b'

theorem clears_header (h : view.Clean) : statement.Clears (header view) := by
  have hblank : statement.Clears (if view.dependencies.isEmpty then "" else "\n") :=
    clears_ite clears_empty (clears_of_pass (pass_last (by decide)))
  unfold header
  simp only [String.append_assoc]
  refine clears_of_pass <|
    pass_lines (clears_map fun dependency hdependency => ?_) rfl <|
    pass_lines hblank rfl <| pass_words <|
    pass_hole h.className.calm.newline_not_mem (by decide) <|
    pass_last (by decide)
  exact clears_of_pass <| pass_words <|
    pass_hole (h.dependencies dependency hdependency).1.newline_not_mem
      (by decide) <|
    pass_words <| pass_hole (spelled_literal rfl _).oneLine (by decide) <|
    pass_last (by decide)

theorem clears_field (h : field.Clean) :
    statement.Clears (TypeScript.field field) := by
  unfold TypeScript.field
  simp only [String.append_assoc]
  exact clears_of_pass <| pass_words <|
    pass_name_then 2 h.ident (by decide) (by decide) <|
    pass_hole h.typeName.newline_not_mem (by decide) <| pass_last (by decide)

theorem clears_constructor (h : view.Clean) :
    statement.Clears (TypeScript.constructor view) := by
  unfold TypeScript.constructor
  simp only [String.append_assoc]
  exact clears_of_pass <| pass_words <|
    pass_hole h.className.calm.newline_not_mem (by decide) <|
    pass_words <| pass_last (by decide)

theorem clears_head (h : view.Clean) :
    statement.Clears (typescript.head hasAccessors view) := by
  refine Template.clears_head h (clears_header h) ?_ (fun _ => clears_field)
    clears_empty (clears_constructor h) (fun _ _ => clears_empty)
  intro line hline
  cases hline

/-! ## The conversions -/

/-- The method that decodes, with what stands below it. -/
def decoding (view : ClassView) : String :=
  "  static fromObject(data: Record<string, unknown>): " ++ view.className ++ " \x7b\n" ++
  "    const o = new " ++ view.className ++ "();\n" ++
  forFields view decodeLine ++
  "    return o;\n  \x7d\n" ++
  "\n  static fromJson(json: string): " ++ view.className ++ " \x7b\n" ++
  "    return " ++ view.className ++
    ".fromObject(JSON.parse(json) as Record<string, unknown>);\n  \x7d\n"

theorem clears_decodeLine (h : field.Clean) :
    returnLine.Clears (decodeLine field) := by
  obtain ⟨keys, hspelled, -⟩ := (decodesField h).spelled
  unfold decodeLine
  simp only [String.append_assoc]
  exact clears_of_pass <| pass_words <|
    pass_hole h.ident.calm.newline_not_mem (by decide) <| pass_words <|
    pass_hole hspelled.oneLine (by decide) <| pass_last (by decide)

theorem clears_decoding (h : view.Clean) : returnLine.Clears (decoding view) := by
  have hclass := h.className.calm.newline_not_mem
  have hlines := clears_forFields h fun field hf => clears_decodeLine hf
  unfold decoding
  simp only [String.append_assoc]
  exact clears_of_pass <| pass_words <| pass_hole hclass (by decide) <|
    pass_words <| pass_words <| pass_hole hclass (by decide) <| pass_words <|
    pass_lines hlines (by decide) <| pass_words <| pass_words <|
    pass_hole hclass (by decide) <| pass_words <| pass_words <|
    pass_name h.className (by decide) (by decide) <| pass_last (by decide)

theorem regular {className : String} (h : Wordlike className) :
    methods.Regular className where
  target := calm_words (by decide)
  becomes := calm_words (by decide)
  entry := calm_words (by decide)
  holds := calm_words (by decide)
  decode := {
    first := (((calm_words (by decide)).append h.calm).append
      (calm_words (by decide))).newline_not_mem
    second := (((calm_words (by decide)).append h.calm).append
      (calm_words (by decide))).newline_not_mem
    closing := (by decide : '\n' ∉ "    return o;".toList) }
  encode := {
    first := by decide
    second := by decide
    closing := by decide }
  decode_apart := by
    change "    const o = new " ++ className ++ "();" ≠
      "  static fromObject(data: Record<string, unknown>): " ++ className ++ " \x7b"
    simp only [String.append_assoc]
    exact append_ne_append (by decide) (by decide) _ _
  encode_apart := by decide
  target_apart :=
    (by decide : "    o.".toList.isPrefixOf "    return o;".toList = false)
  entry_apart := by decide

def assigned (field : FieldView) : String :=
  print (decodeField field)

def stored (field : FieldView) : String :=
  print (encodeField field)

theorem forFields_decodeLine (view : ClassView) :
    forFields view decodeLine
      = unlines (view.fields.map (methods.assignment assigned ";")) := by
  refine join_map_lines (fun field => ?_) view.fields
  change "    o." ++ field.ident ++ " = " ++ assigned field ++ (";" ++ "\n")
    = "    o." ++ field.ident ++ " = " ++ assigned field ++ ";" ++ "\n"
  simp only [-String.reduceAppend, String.append_assoc]

theorem forFields_encodeLine (view : ClassView) :
    forFields view encodeLine
      = unlines (view.fields.map (methods.storage '"' stored ",")) := by
  refine join_map_lines (fun field => ?_) view.fields
  change "      " ++ quote field.key ++ ": " ++ stored field ++ ("," ++ "\n")
    = "      " ++ quote field.key ++ ": " ++ stored field ++ "," ++ "\n"
  simp only [-String.reduceAppend, String.append_assoc]

/-- The method that encodes, with what stands below it. -/
def encoding (view : ClassView) : String :=
  "  toObject(): Record<string, unknown> \x7b\n" ++
  (if view.fields.isEmpty then "    return \x7b\x7d;\n"
    else "    return \x7b\n" ++ forFields view encodeLine ++ "    \x7d;\n") ++
  "  \x7d\n" ++
  "\n  toJson(): string \x7b\n    return JSON.stringify(this.toObject());\n  \x7d\n" ++
  "\x7d\n"

theorem render_eq (hasAccessors : Bool) (view : ClassView) :
    typescript.render hasAccessors view
      = typescript.head hasAccessors view ++ "\n" ++ decoding view ++ "\n" ++
        encoding view := by
  have hdecode : ∀ t, "\n  static fromObject(data: " ++ (record ++ ("): " ++ t))
      = "\n" ++ ("  static fromObject(data: Record<string, unknown>): " ++ t) := by
    intro t
    have hwords : "\n  static fromObject(data: " ++ record ++ "): "
        = "\n" ++ "  static fromObject(data: Record<string, unknown>): " := rfl
    rw [← String.append_assoc, ← String.append_assoc, hwords,
      String.append_assoc]
  have hjson : ∀ t, ".fromObject(JSON.parse(json) as " ++ (record ++ (");\n  \x7d\n" ++ t))
      = ".fromObject(JSON.parse(json) as Record<string, unknown>);\n  \x7d\n" ++ t := by
    intro t
    have hwords : ".fromObject(JSON.parse(json) as " ++ record ++ ");\n  \x7d\n"
        = ".fromObject(JSON.parse(json) as Record<string, unknown>);\n  \x7d\n" := rfl
    rw [← String.append_assoc, ← String.append_assoc, hwords]
  have hencode : ∀ t, "\n  toObject(): " ++ (record ++ (" \x7b\n" ++ t))
      = "\n" ++ ("  toObject(): Record<string, unknown> \x7b\n" ++ t) := by
    intro t
    have hwords : "\n  toObject(): " ++ record ++ " \x7b\n"
        = "\n" ++ "  toObject(): Record<string, unknown> \x7b\n" := rfl
    rw [← String.append_assoc, ← String.append_assoc, hwords,
      String.append_assoc]
  have htext : typescript.render hasAccessors view
      = typescript.head hasAccessors view ++ serialization view ++ "\x7d\n" := rfl
  unfold serialization at htext
  rw [htext]
  unfold decoding encoding
  simp only [-String.reduceAppend, String.append_assoc, hdecode, hjson, hencode]

theorem decode_standsIn (hasAccessors : Bool) (view : ClassView) :
    (methods.decode view.className).StandsIn
      (typescript.render hasAccessors view) (typescript.head hasAccessors view)
      (view.fields.map (methods.assignment assigned ";")) := by
  have hfirst : " \x7b\n" = " \x7b" ++ "\n" := rfl
  have hsecond : "();\n" = "();" ++ "\n" := rfl
  have hclosing : "    return o;\n  \x7d\n"
      = "    return o;" ++ ("\n" ++ "  \x7d\n") := rfl
  have htext := render_eq hasAccessors view
  unfold decoding at htext
  simp only [-String.reduceAppend, hfirst, hsecond, hclosing,
    forFields_decodeLine, String.append_assoc] at htext
  unfold Passage.StandsIn methods
  simp only [-String.reduceAppend, String.append_assoc]
  exact ⟨_, htext⟩

theorem encode_standsIn (hasAccessors : Bool) (hfields : view.fields ≠ []) :
    methods.encode.StandsIn (typescript.render hasAccessors view)
      (typescript.head hasAccessors view ++ "\n" ++ decoding view)
      (view.fields.map (methods.storage '"' stored ",")) := by
  have hfirst : "  toObject(): Record<string, unknown> \x7b\n"
      = "  toObject(): Record<string, unknown> \x7b" ++ "\n" := rfl
  have hsecond : "    return \x7b\n" = "    return \x7b" ++ "\n" := rfl
  have hclosing : "    \x7d;\n" = "    \x7d;" ++ "\n" := rfl
  have hsome : view.fields.isEmpty ≠ true := by
    simpa using hfields
  have htext := render_eq hasAccessors view
  unfold encoding at htext
  rw [if_neg hsome] at htext
  simp only [-String.reduceAppend, hfirst, hsecond, hclosing,
    forFields_encodeLine, String.append_assoc] at htext
  unfold Passage.StandsIn methods
  simp only [-String.reduceAppend, String.append_assoc]
  exact ⟨_, htext⟩

theorem keepKeys (h : view.Clean) (hasAccessors : Bool) :
    methods.KeepKeys view.className view.fields
      (lines (typescript.render hasAccessors view)) := by
  have hhead : statement.Absent (typescript.head hasAccessors view) :=
    (clears_head h).absent
  have hregular := regular h.className
  have habove : methods.encode.second ∉
      lines (typescript.head hasAccessors view ++ "\n" ++ decoding view) :=
    not_mem_lines (hhead.not_mem (stops_of_pass (by decide)))
      ((clears_decoding h).absent.not_mem (stops_of_pass (by decide)))
  constructor
  · have hstops : statement.Stops ("    const o = new " ++ view.className ++ "();") := by
      simp only [String.append_assoc]
      exact stops_of_pass <| pass_words <| pass_stopped (by decide)
    exact hregular.decode_keeps (fun field hf => (h.fields field hf).ident)
      (fun field hf => decodesField (h.fields field hf))
      (calm_words (by decide)) (decode_standsIn hasAccessors view)
      (hhead.not_mem hstops)
  · by_cases hfields : view.fields = []
    · have hencoding : methods.encode.second ∉ lines (encoding view) := by
        unfold encoding
        rw [hfields, List.isEmpty_nil, if_pos rfl]
        decide +kernel
      rw [hfields, render_eq,
        Passage.within_eq_nil (not_mem_lines habove hencoding)]
      exact List.Forall₂.nil
    · exact hregular.encode_keeps rfl
        (fun field hf => encodesField (h.fields field hf))
        (calm_words (by decide)) (.inr (by decide))
        (encode_standsIn hasAccessors hfields) habove

end TypeScript
end Template
end Recast
