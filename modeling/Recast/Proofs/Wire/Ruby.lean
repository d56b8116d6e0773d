import Recast.Proofs.Wire.Parts

/-!
# The fields of a Ruby class on the wire

Above the conversions, only the constructor has lines that open like statements,
and these go on with the sign of a field. Above the method that encodes, none
goes on with the name of the hash.
-/

namespace Recast

open Name (Wordlike)

namespace Template

open LineShape

variable {view : ClassView} {field : FieldView} {hasAccessors : Bool}

namespace Ruby

/-! ## Above the conversions -/

/-- A statement about an object or a hash. -/
def statement : LineShape where
  opening := [['\t'], ['\t'], ['o', 'h']]
  mark := ' '

/-- A statement about a hash. -/
def hashLine : LineShape where
  opening := [['\t'], ['\t'], ['h']]
  mark := ' '

theorem clears_header (h : view.Clean) : statement.Clears (header view) := by
  unfold header
  simp only [String.append_assoc]
  refine clears_of_pass <| pass_words <|
    pass_lines (clears_map fun dependency _ => ?_) (by decide) <|
    pass_words <| pass_hole h.className.calm.newline_not_mem (by decide) <|
    pass_last (by decide)
  exact clears_of_pass <| pass_words <|
    pass_hole (spelled_literal rfl dependency.module).oneLine (by decide) <|
    pass_last (by decide)

theorem clears_field (h : field.Clean) : statement.Clears (Ruby.field field) := by
  unfold Ruby.field
  simp only [String.append_assoc]
  exact clears_of_pass <| pass_words <|
    pass_hole h.typeName.newline_not_mem (by decide) <| pass_words <|
    pass_hole h.ident.calm.newline_not_mem (by decide) <|
    pass_last (by decide)

theorem clears_constructor (h : view.Clean) :
    statement.Clears (Ruby.constructor view) := by
  have hparameters : '\n' ∉ (", ".intercalate (view.fields.map parameter)).toList :=
    (h.calm_listing fun field hf =>
      hf.ident.calm.append (calm_words (by decide))).newline_not_mem
  unfold Ruby.constructor
  refine clears_ite clears_empty ?_
  simp only [String.append_assoc]
  refine clears_of_pass <| pass_words <| pass_hole hparameters (by decide) <|
    pass_words <| pass_lines (clears_forFields h fun field hf => ?_) (by decide) <|
    pass_last (by decide)
  have hident := hf.ident.calm.newline_not_mem
  exact clears_of_pass <| pass_words <| pass_hole hident (by decide) <|
    pass_words <| pass_hole hident (by decide) <| pass_last (by decide)

theorem clears_head (h : view.Clean) :
    statement.Clears (ruby.head hasAccessors view) := by
  refine Template.clears_head h (clears_header h) ?_ (fun _ => clears_field)
    clears_empty (clears_constructor h) (fun _ _ => clears_empty)
  intro line hline
  cases hline

/-! ## The conversions -/

/-- The method that decodes, with what stands below it. -/
def decoding (view : ClassView) : String :=
  "\tdef self.from_hash(hash)\n\t\to = new\n" ++
  forFields view decodeLine ++
  "\t\to\n\tend\n" ++
  "\n\tdef self.from_json(json)\n\t\tfrom_hash(JSON.parse(json))\n\tend\n"

theorem clears_decodeLine (h : field.Clean) :
    hashLine.Clears (decodeLine field) := by
  obtain ⟨keys, hspelled, -⟩ := (decodesField h).spelled
  unfold decodeLine
  simp only [String.append_assoc]
  exact clears_of_pass <| pass_words <|
    pass_hole h.ident.calm.newline_not_mem (by decide) <| pass_words <|
    pass_hole hspelled.oneLine (by decide) <| pass_last (by decide)

theorem clears_decoding (h : view.Clean) : hashLine.Clears (decoding view) := by
  have hlines := clears_forFields h fun field hf => clears_decodeLine hf
  unfold decoding
  simp only [String.append_assoc]
  exact clears_of_pass <| pass_words <| pass_lines hlines (by decide) <|
    pass_words <| pass_last (by decide)

theorem regular (className : String) : methods.Regular className where
  target := calm_words (by decide)
  becomes := calm_words (by decide)
  entry := calm_words (by decide)
  holds := calm_words (by decide)
  decode := {
    first := (by decide : '\n' ∉ "\tdef self.from_hash(hash)".toList)
    second := (by decide : '\n' ∉ "\t\to = new".toList)
    closing := (by decide : '\n' ∉ "\t\to".toList) }
  encode := {
    first := by decide
    second := by decide
    closing := by decide }
  decode_apart := (by decide : "\t\to = new" ≠ "\tdef self.from_hash(hash)")
  encode_apart := by decide
  target_apart := (by decide : "\t\to.".toList.isPrefixOf "\t\to".toList = false)
  entry_apart := by decide

def assigned (field : FieldView) : String :=
  print (decodeField field)

def stored (field : FieldView) : String :=
  print (encodeField field)

theorem forFields_decodeLine (view : ClassView) :
    forFields view decodeLine
      = unlines (view.fields.map (methods.assignment assigned "")) := by
  refine join_map_lines (fun field => ?_) view.fields
  change "\t\to." ++ field.ident ++ " = " ++ assigned field ++ "\n"
    = "\t\to." ++ field.ident ++ " = " ++ assigned field ++ "" ++ "\n"
  rw [String.append_empty]

theorem forFields_encodeLine (view : ClassView) :
    forFields view encodeLine
      = unlines (view.fields.map (methods.storage '\'' stored "")) := by
  refine join_map_lines (fun field => ?_) view.fields
  change "\t\th[" ++ quote field.key ++ "] = " ++ stored field ++ "\n"
    = "\t\th[" ++ quote field.key ++ "] = " ++ stored field ++ "" ++ "\n"
  rw [String.append_empty]

theorem render_eq (hasAccessors : Bool) (view : ClassView) :
    ruby.render hasAccessors view
      = ruby.head hasAccessors view ++ serialization view ++ "end\n" :=
  rfl

theorem decode_standsIn (hasAccessors : Bool) (view : ClassView) :
    (methods.decode view.className).StandsIn (ruby.render hasAccessors view)
      (ruby.head hasAccessors view)
      (view.fields.map (methods.assignment assigned "")) := by
  have hopening : "\n\tdef self.from_hash(hash)\n\t\to = new\n"
      = "\n" ++ ("\tdef self.from_hash(hash)" ++ ("\n" ++
        ("\t\to = new" ++ "\n"))) := rfl
  have hclosing : "\t\to\n\tend\n" = "\t\to" ++ ("\n" ++ "\tend\n") := rfl
  have htext := render_eq hasAccessors view
  unfold serialization at htext
  simp only [-String.reduceAppend, hopening, hclosing, forFields_decodeLine,
    String.append_assoc] at htext
  unfold Passage.StandsIn methods
  simp only [-String.reduceAppend, String.append_assoc]
  exact ⟨_, htext⟩

theorem encode_standsIn (hasAccessors : Bool) (view : ClassView) :
    methods.encode.StandsIn (ruby.render hasAccessors view)
      (ruby.head hasAccessors view ++ "\n" ++ decoding view)
      (view.fields.map (methods.storage '\'' stored "")) := by
  have habove : "\n\tdef self.from_hash(hash)\n\t\to = new\n"
      = "\n" ++ "\tdef self.from_hash(hash)\n\t\to = new\n" := rfl
  have hopening : "\n\tdef to_hash\n\t\th = \x7b\x7d\n"
      = "\n" ++ ("\tdef to_hash" ++ ("\n" ++
        ("\t\th = \x7b\x7d" ++ "\n"))) := rfl
  have hclosing : "\t\th\n\tend\n" = "\t\th" ++ ("\n" ++ "\tend\n") := rfl
  have htext := render_eq hasAccessors view
  unfold serialization at htext
  simp only [-String.reduceAppend, habove, hopening, hclosing,
    forFields_encodeLine, String.append_assoc] at htext
  unfold Passage.StandsIn methods decoding
  simp only [-String.reduceAppend, String.append_assoc]
  exact ⟨_, htext⟩

theorem decode_within (h : view.Clean) (hasAccessors : Bool) :
    (methods.decode view.className).within (lines (ruby.render hasAccessors view))
      = view.fields.map (methods.assignment assigned "") := by
  have hstops : statement.Stops "\t\to = new" := stops_of_pass (by decide)
  exact (regular view.className).decode_within
    (fun field hf => (h.fields field hf).ident)
    (fun field hf => decodesField (h.fields field hf)) (calm_words (by decide))
    (decode_standsIn hasAccessors view) ((clears_head h).absent.not_mem hstops)

theorem encode_above (h : view.Clean) (hasAccessors : Bool) :
    methods.encode.second
      ∉ lines (ruby.head hasAccessors view ++ "\n" ++ decoding view) :=
  not_mem_lines ((clears_head h).absent.not_mem (stops_of_pass (by decide)))
    ((clears_decoding h).absent.not_mem (stops_of_pass (by decide)))

theorem encode_within (h : view.Clean) (hasAccessors : Bool) :
    methods.encode.within (lines (ruby.render hasAccessors view))
      = view.fields.map (methods.storage '\'' stored "") :=
  (regular view.className).encode_within rfl
    (fun field hf => encodesField (h.fields field hf)) (calm_words (by decide))
    (encode_standsIn hasAccessors view) (encode_above h hasAccessors)

theorem keepKeys (h : view.Clean) (hasAccessors : Bool) :
    methods.KeepKeys view.className view.fields
      (lines (ruby.render hasAccessors view)) := by
  have hregular := regular view.className
  constructor
  · rw [decode_within h, List.forall₂_map_right_iff, List.forall₂_same]
    exact fun field hf => hregular.assigns (h.fields field hf).ident
      (decodesField (h.fields field hf)) (calm_words (by decide))
  · rw [encode_within h, List.forall₂_map_right_iff, List.forall₂_same]
    exact fun field hf => hregular.stores rfl
      (encodesField (h.fields field hf)) (calm_words (by decide)) (.inl rfl)

end Ruby
end Template
end Recast
