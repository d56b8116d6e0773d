import Recast.Proofs.Wire.Parts

/-!
# The fields of a Python class on the wire

No line above the conversions is indented like a statement of a method, and
above the method that encodes no statement returns a dictionary. A class without
fields creates an object and a dictionary on one line each, so the lines that a
reader looks for do not occur in it.
-/

namespace Recast

open Name (Wordlike)

namespace Template

open LineShape

variable {view : ClassView} {field : FieldView} {hasAccessors : Bool}

namespace Python

/-! ## Above the conversions -/

/-- A statement of a method. -/
def statement : LineShape where
  opening := [[' '], [' '], [' '], [' '], [' ']]
  mark := ' '

/-- A method that returns a dictionary. -/
def returnLine : LineShape where
  opening := "        return ".toList.map ([·])
  mark := '\x7b'

theorem clears_header (h : view.Clean) : statement.Clears (header view) := by
  unfold header
  simp only [String.append_assoc]
  refine clears_of_pass <| pass_words <| pass_words <| pass_words <|
    pass_words <| pass_lines (clears_ite clears_empty ?_) (by decide) <|
    pass_words <| pass_hole h.className.calm.newline_not_mem (by decide) <|
    pass_last (by decide)
  refine Clears.append (clears_of_pass (pass_last (by decide)))
    (clears_map fun dependency hdependency => ?_)
  obtain ⟨hclass, hmodule⟩ := h.dependencies dependency hdependency
  exact clears_of_pass <| pass_words <|
    pass_hole hmodule.newline_not_mem (by decide) <| pass_words <|
    pass_hole hclass.newline_not_mem (by decide) <| pass_last (by decide)

theorem clears_field (h : field.Clean) :
    statement.Clears (Python.field field) := by
  unfold Python.field
  simp only [String.append_assoc]
  exact clears_of_pass <| pass_words <|
    pass_name_then 4 h.ident (by decide) (by decide) <|
    pass_hole h.typeName.newline_not_mem (by decide) <| pass_last (by decide)

theorem clears_head (h : view.Clean) :
    statement.Clears (python.head hasAccessors view) := by
  refine Template.clears_head h (clears_header h) ?_ (fun _ => clears_field)
    clears_empty clears_empty (fun _ _ => clears_empty)
  intro line hline
  cases hline

/-! ## The conversions -/

/-- The method that decodes, with what stands above and below it. -/
def decoding (view : ClassView) : String :=
  "    @classmethod\n" ++
  "    def from_dict(cls, data: Dict[str, Any]) -> " ++ view.className ++ ":\n" ++
  (if view.fields.isEmpty then "        return cls()\n"
    else "        return cls(\n" ++ forFields view decodeLine ++ "        )\n") ++
  "\n    @classmethod\n" ++
  "    def from_json(cls, text: str) -> " ++ view.className ++ ":\n" ++
  "        return cls.from_dict(json.loads(text))\n"

/-- The method that encodes, with what stands below it. -/
def encoding (view : ClassView) : String :=
  "    def to_dict(self) -> Dict[str, Any]:\n" ++
  (if view.fields.isEmpty then "        return \x7b\x7d\n"
    else "        return \x7b\n" ++ forFields view encodeLine ++ "        \x7d\n") ++
  "\n    def to_json(self) -> str:\n" ++
  "        return json.dumps(self.to_dict())\n"

theorem clears_decodeLine (h : field.Clean) :
    returnLine.Clears (decodeLine field) := by
  obtain ⟨keys, hspelled, -⟩ := (decodesField h).spelled
  unfold decodeLine
  simp only [String.append_assoc]
  exact clears_of_pass <| pass_words <|
    pass_hole h.ident.calm.newline_not_mem (by decide) <| pass_words <|
    pass_hole hspelled.oneLine (by decide) <| pass_last (by decide)

theorem clears_decoding (h : view.Clean) : returnLine.Clears (decoding view) := by
  have hclass := h.className.calm.newline_not_mem
  have hlines := clears_forFields h fun field hf => clears_decodeLine hf
  have hbody : returnLine.Clears
      (if view.fields.isEmpty then "        return cls()\n"
        else "        return cls(\n" ++
          (forFields view decodeLine ++ "        )\n")) := by
    refine clears_ite ?_ ?_
    · exact clears_of_pass <| pass_last (by decide)
    · exact clears_of_pass <| pass_words <| pass_lines hlines (by decide) <|
        pass_last (by decide)
  unfold decoding
  simp only [String.append_assoc]
  exact clears_of_pass <| pass_words <| pass_words <|
    pass_hole hclass (by decide) <| pass_words <|
    pass_lines hbody (by decide) <| pass_words <| pass_words <|
    pass_hole hclass (by decide) <| pass_words <| pass_last (by decide)

theorem regular {className : String} (h : Wordlike className) :
    methods.Regular className where
  target := calm_words (by decide)
  becomes := calm_words (by decide)
  entry := calm_words (by decide)
  holds := calm_words (by decide)
  decode := {
    first := (((calm_words (by decide)).append h.calm).append
      (calm_words (by decide))).newline_not_mem
    second := (by decide : '\n' ∉ "        return cls(".toList)
    closing := (by decide : '\n' ∉ "        )".toList) }
  encode := {
    first := by decide
    second := by decide
    closing := by decide }
  decode_apart := by
    change "        return cls(" ≠
      "    def from_dict(cls, data: Dict[str, Any]) -> " ++ className ++ ":"
    rw [String.append_assoc]
    exact (append_ne (by decide) _).symm
  encode_apart := by decide
  target_apart :=
    (by decide : "            ".toList.isPrefixOf "        )".toList = false)
  entry_apart := by decide

def assigned (field : FieldView) : String :=
  print (decodeField field)

def stored (field : FieldView) : String :=
  print (encodeField field)

theorem forFields_decodeLine (view : ClassView) :
    forFields view decodeLine
      = unlines (view.fields.map (methods.assignment assigned ",")) := by
  refine join_map_lines (fun field => ?_) view.fields
  change "            " ++ field.ident ++ "=" ++ assigned field ++ ("," ++ "\n")
    = "            " ++ field.ident ++ "=" ++ assigned field ++ "," ++ "\n"
  simp only [-String.reduceAppend, String.append_assoc]

theorem forFields_encodeLine (view : ClassView) :
    forFields view encodeLine
      = unlines (view.fields.map (methods.storage '"' stored ",")) := by
  refine join_map_lines (fun field => ?_) view.fields
  change "            " ++ quote field.key ++ ": " ++ stored field ++ ("," ++ "\n")
    = "            " ++ quote field.key ++ ": " ++ stored field ++ "," ++ "\n"
  simp only [-String.reduceAppend, String.append_assoc]

theorem render_eq (hasAccessors : Bool) (view : ClassView) :
    python.render hasAccessors view
      = python.head hasAccessors view ++ "\n" ++ decoding view ++ "\n" ++
        encoding view := by
  have hdecode : "\n    @classmethod\n" = "\n" ++ "    @classmethod\n" := rfl
  have hencode : "\n    def to_dict(self) -> Dict[str, Any]:\n"
      = "\n" ++ "    def to_dict(self) -> Dict[str, Any]:\n" := rfl
  have htext : python.render hasAccessors view
      = python.head hasAccessors view ++ serialization view ++ "" := rfl
  unfold serialization at htext
  rw [htext]
  unfold decoding encoding
  simp only [-String.reduceAppend, hdecode, hencode, String.append_assoc,
    String.append_empty]

theorem decode_standsIn (hasAccessors : Bool) (hfields : view.fields ≠ []) :
    (methods.decode view.className).StandsIn
      (python.render hasAccessors view)
      (python.head hasAccessors view ++ "\n" ++ "    @classmethod")
      (view.fields.map (methods.assignment assigned ",")) := by
  have habove : "    @classmethod\n" = "    @classmethod" ++ "\n" := rfl
  have hfirst : ":\n" = ":" ++ "\n" := rfl
  have hsecond : "        return cls(\n" = "        return cls(" ++ "\n" := rfl
  have hclosing : "        )\n" = "        )" ++ "\n" := rfl
  have hsome : view.fields.isEmpty ≠ true := by
    simpa using hfields
  have htext := render_eq hasAccessors view
  unfold decoding at htext
  rw [if_neg hsome] at htext
  simp only [-String.reduceAppend, habove, hfirst, hsecond, hclosing,
    forFields_decodeLine, String.append_assoc] at htext
  unfold Passage.StandsIn methods
  simp only [-String.reduceAppend, String.append_assoc]
  exact ⟨_, htext⟩

theorem encode_standsIn (hasAccessors : Bool) (hfields : view.fields ≠ []) :
    methods.encode.StandsIn (python.render hasAccessors view)
      (python.head hasAccessors view ++ "\n" ++ decoding view)
      (view.fields.map (methods.storage '"' stored ",")) := by
  have hfirst : "    def to_dict(self) -> Dict[str, Any]:\n"
      = "    def to_dict(self) -> Dict[str, Any]:" ++ "\n" := rfl
  have hsecond : "        return \x7b\n" = "        return \x7b" ++ "\n" := rfl
  have hclosing : "        \x7d\n" = "        \x7d" ++ "\n" := rfl
  have hsome : view.fields.isEmpty ≠ true := by
    simpa using hfields
  have htext := render_eq hasAccessors view
  unfold encoding at htext
  rw [if_neg hsome] at htext
  simp only [-String.reduceAppend, hfirst, hsecond, hclosing,
    forFields_encodeLine, String.append_assoc] at htext
  unfold Passage.StandsIn methods
  simp only [-String.reduceAppend, String.append_assoc]
  exact ⟨_, htext⟩

/-- Without fields an object is created on one line. -/
theorem creation_not_mem_decoding (h : view.Clean) (hfields : view.fields = []) :
    "        return cls(" ∉ lines (decoding view) := by
  have hclass := h.className.calm.newline_not_mem
  have hstops : statement.Stops "        return cls(" := stops_of_pass (by decide)
  have hfirst : ":\n" = ":" ++ "\n" := rfl
  have hnext : "\n    @classmethod\n" = "\n    @classmethod" ++ "\n" := rfl
  have htext : decoding view
      = ("    @classmethod\n" ++
          "    def from_dict(cls, data: Dict[str, Any]) -> " ++
          view.className ++ ":") ++ "\n" ++
        (("        return cls()\n" ++ "\n    @classmethod") ++ "\n" ++
        (("    def from_json(cls, text: str) -> " ++ view.className ++ ":") ++
          "\n" ++ "        return cls.from_dict(json.loads(text))\n")) := by
    unfold decoding
    rw [hfields, List.isEmpty_nil, if_pos rfl]
    simp only [-String.reduceAppend, hfirst, hnext, String.append_assoc]
  have hdecode : statement.Absent ("    @classmethod\n" ++
      "    def from_dict(cls, data: Dict[str, Any]) -> " ++ view.className ++ ":") := by
    simp only [String.append_assoc]
    exact absent_of_pass .elsewhere <| pass_words <| pass_words <|
      pass_hole hclass (by decide) <| pass_last (by decide)
  have hjson : statement.Absent
      ("    def from_json(cls, text: str) -> " ++ view.className ++ ":") := by
    simp only [String.append_assoc]
    exact absent_of_pass .elsewhere <| pass_words <|
      pass_hole hclass (by decide) <| pass_last (by decide)
  rw [htext]
  exact not_mem_lines (hdecode.not_mem hstops) <|
    not_mem_lines (by decide +kernel) <|
    not_mem_lines (hjson.not_mem hstops) (by decide +kernel)

theorem not_mem_encoding (hfields : view.fields = []) {line : String}
    (hline : line ∈ ["        return cls(", "        return \x7b"]) :
    line ∉ lines (encoding view) := by
  unfold encoding
  rw [hfields, List.isEmpty_nil, if_pos rfl]
  revert line
  decide +kernel

theorem keepKeys (h : view.Clean) (hasAccessors : Bool) :
    methods.KeepKeys view.className view.fields
      (lines (python.render hasAccessors view)) := by
  have hhead : statement.Absent (python.head hasAccessors view) :=
    (clears_head h).absent
  have hregular := regular h.className
  have hcreation : "        return cls(" ∉ lines (python.head hasAccessors view) :=
    hhead.not_mem (stops_of_pass (by decide))
  have habove : "        return \x7b" ∉
      lines (python.head hasAccessors view ++ "\n" ++ decoding view) :=
    not_mem_lines (hhead.not_mem (stops_of_pass (by decide)))
      ((clears_decoding h).absent.not_mem (stops_of_pass (by decide)))
  by_cases hfields : view.fields = []
  · have hdecode : (methods.decode view.className).within
        (lines (python.render hasAccessors view)) = [] := by
      rw [render_eq]
      exact Passage.within_eq_nil (not_mem_lines
        (not_mem_lines hcreation (creation_not_mem_decoding h hfields))
        (not_mem_encoding hfields List.mem_cons_self))
    have hencode : methods.encode.within
        (lines (python.render hasAccessors view)) = [] := by
      rw [render_eq]
      exact Passage.within_eq_nil (not_mem_lines habove
        (not_mem_encoding hfields (List.mem_cons_of_mem _ List.mem_cons_self)))
    constructor
    · rw [hfields, hdecode]
      exact List.Forall₂.nil
    · rw [hfields, hencode]
      exact List.Forall₂.nil
  · constructor
    · exact hregular.decode_keeps (fun field hf => (h.fields field hf).ident)
        (fun field hf => decodesField (h.fields field hf))
        (calm_words (by decide)) (decode_standsIn hasAccessors hfields)
        (not_mem_lines hcreation
          (by decide +kernel : "        return cls(" ∉ lines "    @classmethod"))
    · exact hregular.encode_keeps rfl
        (fun field hf => encodesField (h.fields field hf))
        (calm_words (by decide)) (.inr (by decide))
        (encode_standsIn hasAccessors hfields) habove

end Python
end Template
end Recast
