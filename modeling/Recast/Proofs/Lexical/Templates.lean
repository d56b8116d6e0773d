import Recast.Proofs.Lexical.Parts
import Recast.Template

/-!
# Every template closes what it opens

Each template is taken apart into its own words and the holes that a view
fills. The holes are neutral, so they drop out of the scan, and the words are
scanned as they stand. Where a part of a template opens a bracket that another
part closes, the lemma about the part says which brackets it leaves open.

For each language there is one lemma about each part of its template, and one
about each construct of a conversion. Conversions nest with the type of the
field; that they are neutral however deep they nest follows from the constructs
in the same way for every language.
-/

namespace Recast.Template

open Scan

/-- A template closes what it opens if each part takes up the brackets that
the part before it has left. -/
theorem neutral_render {template : Template} {hasAccessors : Bool}
    {view : ClassView} (h : view.AllNeutral) {inFields inMethods inBody : List Char}
    (hheader : pass (template.header view).toList (some []) = some inFields)
    (hfield : ∀ field : FieldView, field.AllNeutral →
      Neutral (template.field field))
    (hrename : ∀ line ∈ template.renameAnnotation, ∀ key,
      Neutral (line key))
    (hfieldsEnd :
      pass (template.fieldsEnd view).toList (some inFields) = some inMethods)
    (hconstructor : Neutral (template.constructor view))
    (haccessors : ∀ field : FieldView, field.AllNeutral →
      Neutral (template.accessors field))
    (hserialization :
      pass (template.serialization view).toList (some inMethods) = some inBody)
    (hfooter : pass (template.footer view).toList (some inBody) = some []) :
    Neutral (template.render hasAccessors view) := by
  have hfields : Neutral (forFields view template.annotatedField) := by
    refine h.forFields fun field hneutral => ?_
    rw [annotatedField]
    split
    · next line hsome =>
        refine neutral_ite ?_ (hfield field hneutral)
        exact (hrename line hsome field.key).append
          (hfield field hneutral)
    · exact hfield field hneutral
  have hmethods : Neutral
      (if hasAccessors then forFields view template.accessors else "") :=
    neutral_ite (h.forFields haccessors) neutral_empty
  rw [render]
  exact neutral_of_pass <|
    pass_append (pass_append (pass_append (pass_append (pass_append
      (pass_append hheader (pass_last_hole hfields rfl)) hfieldsEnd)
      (pass_last_hole hconstructor rfl)) (pass_last_hole hmethods rfl))
      hserialization) hfooter

theorem neutral_nothing {α : Type} (a : α) : Neutral (nothing a) :=
  neutral_empty

variable {view : ClassView} {field : FieldView}

/-! ## Java -/

namespace Java

theorem neutral_quote (text : String) : Neutral (quote text) :=
  neutral_literal rfl text

theorem neutral_ascribed {value : String} (hvalue : Neutral value)
    {ascription : Ascription} (h : ascription.AllNeutral) :
    Neutral (ascribed value ascription) := by
  have hcast : ∀ {typeName : String}, Neutral typeName →
      Neutral ("(" ++ typeName ++ ") " ++ value) := fun htype =>
    (neutral_between htype (by decide)).append hvalue
  unfold ascribed
  split
  · exact (neutral_words (by decide)).append hvalue
  · exact (neutral_words (by decide)).append hvalue
  · exact neutral_between hvalue (by decide)
  · exact neutral_between hvalue (by decide)
  · exact hcast (neutral_typeName .java h)
  · exact hcast h

theorem printsNeutral : PrintsNeutral print where
  wire key := by
    unfold print
    exact neutral_between (neutral_quote key) (by decide)
  stored hident := by
    unfold print
    exact (neutral_words (by decide)).append hident
  element depth := by
    unfold print
    exact Conversion.neutral_loopVariable depth
  ascribe hascription hvalue := by
    unfold print
    exact neutral_ascribed hvalue hascription
  decode hclass hvalue := by
    unfold print
    exact hclass.append_between hvalue (by decide)
  encode _ _ hvalue := by
    unfold print
    exact hvalue.append (neutral_words (by decide))
  each direction _ depth _ _ hlist hbody := by
    have hvariable := Conversion.neutral_loopVariable depth
    unfold print
    cases direction <;> simp only [String.append_assoc]
    · exact neutral_of_pass <| pass_words <| pass_hole hlist <| pass_words <|
        pass_words <| pass_hole hvariable <| pass_words <| pass_hole hbody <|
        pass_last (by decide)
    · exact neutral_of_pass <| pass_hole hlist <| pass_words <|
        pass_hole hvariable <| pass_words <| pass_hole hbody <|
        pass_last (by decide)
  ifPresent hsubject hbody := by
    unfold print
    exact (hsubject.append (neutral_words (by decide))).append hbody

theorem allNeutral_decodeField (h : field.AllNeutral) :
    (decodeField field).AllNeutral := by
  have hwire : (Conversion.wire field.key).AllNeutral := trivial
  have hdecoded : (Conversion.decodeAt (fun _ => true)
      (fun type => .ascribe (.exactly type)) field.type 0
      (.wire field.key)).AllNeutral :=
    Conversion.allNeutral_decodeAt Conversion.allNeutral_exactly h.type hwire 0
  unfold decodeField decodeValue
  split
  · exact ⟨trivial, hdecoded⟩
  · exact ⟨trivial, hdecoded⟩
  · exact hdecoded

theorem pass_header (h : view.AllNeutral) :
    pass (header view).toList (some []) = some ['\x7b'] := by
  have himport : ∀ {p : Prop} [Decidable p] {words : List Char},
      pass words (some []) = some [] →
      Neutral (if p then String.ofList words else "") :=
    fun hwords => neutral_ite (neutral_words hwords) neutral_empty
  unfold header
  simp only [String.append_assoc]
  exact pass_hole (himport (by decide)) <| pass_words <| pass_words <|
    pass_words <| pass_hole (himport (by decide)) <| pass_words <|
    pass_hole (himport (by decide)) <| pass_words <| pass_hole h.className <|
    pass_last (by decide)

theorem neutral_field (h : field.AllNeutral) : Neutral (Java.field field) := by
  unfold Java.field
  simp only [String.append_assoc]
  exact neutral_of_pass <| pass_words <| pass_hole h.typeName <| pass_words <|
    pass_hole h.ident <| pass_last (by decide)

theorem neutral_parameter (h : field.AllNeutral) :
    Neutral (parameter field) := by
  unfold parameter
  simp only [String.append_assoc]
  exact neutral_of_pass <| pass_hole h.typeName <| pass_words <|
    pass_last_hole h.ident (by decide)

theorem neutral_constructor (h : view.AllNeutral) :
    Neutral (Java.constructor view) := by
  have hparameters := h.listing fun field hf => neutral_parameter hf
  unfold Java.constructor
  split
  all_goals simp only [String.append_assoc]
  · exact neutral_of_pass <| pass_words <| pass_hole h.className <|
      pass_words <| pass_last (by decide)
  · refine neutral_of_pass <| pass_words <| pass_hole h.className <|
      pass_words <| pass_words <| pass_hole h.className <| pass_words <|
      pass_hole hparameters <| pass_words <|
      pass_hole (h.forFields fun field hf => ?_) <|
      pass_last (by decide)
    exact neutral_of_pass <| pass_words <| pass_hole hf.ident <| pass_words <|
      pass_hole hf.ident <| pass_last (by decide)

theorem neutral_accessors (h : field.AllNeutral) :
    Neutral (Java.accessors field) := by
  unfold Java.accessors
  simp only [String.append_assoc]
  exact neutral_of_pass <|
    pass_words <| pass_hole h.typeName <| pass_words <|
    pass_hole h.accessor <| pass_words <| pass_words <| pass_hole h.ident <|
    pass_words <| pass_words <| pass_hole h.accessor <| pass_words <|
    pass_hole h.typeName <| pass_words <| pass_hole h.ident <| pass_words <|
    pass_words <| pass_hole h.ident <| pass_words <| pass_hole h.ident <|
    pass_last (by decide)

theorem neutral_decodeLine (h : field.AllNeutral) :
    Neutral (decodeLine field) := by
  have hconversion := printsNeutral.neutral (allNeutral_decodeField h)
  unfold decodeLine
  simp only [String.append_assoc]
  exact neutral_of_pass <| pass_words <| pass_hole h.ident <| pass_words <|
    pass_hole hconversion <| pass_last (by decide)

theorem neutral_encodeLine (h : field.AllNeutral) :
    Neutral (encodeLine field) := by
  have hconversion : Neutral (print (encodeField field)) :=
    printsNeutral.neutral
      (Conversion.allNeutral_encodeGuarded field.type h.ident)
  unfold encodeLine
  simp only [String.append_assoc]
  exact neutral_of_pass <| pass_words <| pass_hole (neutral_quote field.key) <|
    pass_words <| pass_hole hconversion <| pass_last (by decide)

theorem neutral_serialization (h : view.AllNeutral) :
    Neutral (Java.serialization view) := by
  have hdecode := h.forFields fun field hf => neutral_decodeLine hf
  have hencode := h.forFields fun field hf => neutral_encodeLine hf
  unfold Java.serialization
  simp only [String.append_assoc]
  exact neutral_of_pass <|
    pass_words <| pass_words <| pass_hole h.className <| pass_words <|
    pass_words <| pass_hole h.className <| pass_words <|
    pass_hole h.className <| pass_words <| pass_hole hdecode <| pass_words <|
    pass_words <| pass_words <| pass_hole hencode <| pass_words <|
    pass_words <| pass_words <| pass_hole h.className <| pass_words <|
    pass_words <| pass_words <| pass_last (by decide)

theorem neutral_renameAnnotation (key : String) :
    Neutral (Java.renameAnnotation key) := by
  unfold Java.renameAnnotation
  exact neutral_between (neutral_quote key) (by decide)

end Java

theorem neutral_java (h : view.AllNeutral) (hasAccessors : Bool) :
    Neutral (Template.java.render hasAccessors view) := by
  refine neutral_render h (Java.pass_header h) (fun _ => Java.neutral_field) ?_
    (pass_last_hole (neutral_nothing view) rfl) (Java.neutral_constructor h)
    (fun _ => Java.neutral_accessors)
    (pass_last_hole (Java.neutral_serialization h) rfl) (pass_last (by decide))
  intro line hline key
  injection hline with hline
  subst hline
  exact Java.neutral_renameAnnotation key

/-! ## Ruby -/

namespace Ruby

theorem neutral_quote (text : String) : Neutral (quote text) :=
  neutral_literal rfl text

theorem neutral_call (optional : Bool) : Neutral (call optional) := by
  unfold call
  exact neutral_ite (neutral_words (by decide)) (neutral_words (by decide))

theorem printsNeutral : PrintsNeutral print where
  wire key := by
    unfold print
    exact neutral_between (neutral_quote key) (by decide)
  stored hident := by
    unfold print
    exact (neutral_words (by decide)).append hident
  element depth := by
    unfold print
    exact Conversion.neutral_loopVariable depth
  ascribe _ hvalue := by
    unfold print
    exact hvalue
  decode hclass hvalue := by
    unfold print
    exact hclass.append_between hvalue (by decide)
  encode optional _ hvalue := by
    unfold print
    exact (hvalue.append (neutral_call optional)).append
      (neutral_words (by decide))
  each _ optional depth _ _ hlist hbody := by
    unfold print
    simp only [String.append_assoc]
    exact neutral_of_pass <| pass_hole hlist <|
      pass_hole (neutral_call optional) <| pass_words <|
      pass_hole (Conversion.neutral_loopVariable depth) <| pass_words <|
      pass_hole hbody <| pass_last (by decide)
  ifPresent hsubject hbody := by
    unfold print
    exact (hsubject.append (neutral_words (by decide))).append hbody

theorem allNeutral_decodeField (h : field.AllNeutral) :
    (decodeField field).AllNeutral := by
  have hwire : (Conversion.wire field.key).AllNeutral := trivial
  unfold decodeField decodeValue
  exact Conversion.allNeutral_passAbsent
    (Conversion.allNeutral_decodeAt (fun type value htype hvalue => hvalue)
      h.type hwire 0)

theorem neutral_header (h : view.AllNeutral) : Neutral (header view) := by
  unfold header
  simp only [String.append_assoc]
  refine neutral_of_pass <| pass_words <|
    pass_hole (h.imports fun d hclass hmodule => ?_) <| pass_words <|
    pass_hole h.className <| pass_last (by decide)
  exact neutral_of_pass <| pass_words <| pass_hole (neutral_quote d.module) <|
    pass_last (by decide)

theorem neutral_field (h : field.AllNeutral) : Neutral (Ruby.field field) := by
  unfold Ruby.field
  simp only [String.append_assoc]
  exact neutral_of_pass <| pass_words <| pass_hole h.typeName <| pass_words <|
    pass_hole h.ident <| pass_last (by decide)

theorem neutral_parameter (h : field.AllNeutral) :
    Neutral (parameter field) := by
  unfold parameter
  exact neutral_of_pass <| pass_hole h.ident <| pass_last (by decide)

theorem neutral_constructor (h : view.AllNeutral) :
    Neutral (Ruby.constructor view) := by
  have hparameters := h.listing fun field hf => neutral_parameter hf
  unfold Ruby.constructor
  split
  · exact neutral_empty
  · simp only [String.append_assoc]
    refine neutral_of_pass <| pass_words <| pass_hole hparameters <|
      pass_words <| pass_hole (h.forFields fun field hf => ?_) <|
      pass_last (by decide)
    exact neutral_of_pass <| pass_words <| pass_hole hf.ident <| pass_words <|
      pass_hole hf.ident <| pass_last (by decide)

theorem neutral_decodeLine (h : field.AllNeutral) :
    Neutral (decodeLine field) := by
  have hconversion := printsNeutral.neutral (allNeutral_decodeField h)
  unfold decodeLine
  simp only [String.append_assoc]
  exact neutral_of_pass <| pass_words <| pass_hole h.ident <| pass_words <|
    pass_hole hconversion <| pass_last (by decide)

theorem neutral_encodeLine (h : field.AllNeutral) :
    Neutral (encodeLine field) := by
  have hconversion : Neutral (print (encodeField field)) :=
    printsNeutral.neutral
      (Conversion.allNeutral_encodeOptional field.type h.ident)
  unfold encodeLine
  simp only [String.append_assoc]
  exact neutral_of_pass <| pass_words <| pass_hole (neutral_quote field.key) <|
    pass_words <| pass_hole hconversion <| pass_last (by decide)

theorem neutral_serialization (h : view.AllNeutral) :
    Neutral (Ruby.serialization view) := by
  have hdecode := h.forFields fun field hf => neutral_decodeLine hf
  have hencode := h.forFields fun field hf => neutral_encodeLine hf
  unfold Ruby.serialization
  simp only [String.append_assoc]
  exact neutral_of_pass <| pass_words <| pass_hole hdecode <| pass_words <|
    pass_words <| pass_words <| pass_hole hencode <| pass_words <|
    pass_last (by decide)

end Ruby

theorem neutral_ruby (h : view.AllNeutral) (hasAccessors : Bool) :
    Neutral (Template.ruby.render hasAccessors view) := by
  refine neutral_render h (pass_last_hole (Ruby.neutral_header h) rfl)
    (fun _ => Ruby.neutral_field) ?_
    (pass_last_hole (neutral_nothing view) rfl) (Ruby.neutral_constructor h)
    (fun field _ => neutral_nothing field)
    (pass_last_hole (Ruby.neutral_serialization h) rfl) (pass_last (by decide))
  intro line hline
  cases hline

/-! ## Python -/

namespace Python

theorem neutral_quote (text : String) : Neutral (quote text) :=
  neutral_literal rfl text

theorem printsNeutral : PrintsNeutral print where
  wire key := by
    unfold print
    exact neutral_between (neutral_quote key) (by decide)
  stored hident := by
    unfold print
    exact (neutral_words (by decide)).append hident
  element depth := by
    unfold print
    exact Conversion.neutral_loopVariable depth
  ascribe _ hvalue := by
    unfold print
    exact hvalue
  decode hclass hvalue := by
    unfold print
    exact hclass.append_between hvalue (by decide)
  encode _ _ hvalue := by
    unfold print
    exact hvalue.append (neutral_words (by decide))
  each _ _ depth _ _ hlist hbody := by
    unfold print
    simp only [String.append_assoc]
    exact neutral_of_pass <| pass_words <| pass_hole hbody <| pass_words <|
      pass_hole (Conversion.neutral_loopVariable depth) <| pass_words <|
      pass_hole hlist <| pass_last (by decide)
  ifPresent hsubject hbody := by
    unfold print
    exact (neutral_between hsubject (by decide)).append hbody

theorem allNeutral_decodeField (h : field.AllNeutral) :
    (decodeField field).AllNeutral := by
  have hwire : (Conversion.wire field.key).AllNeutral := trivial
  unfold decodeField decodeValue
  split
  · exact ⟨trivial, Conversion.allNeutral_decodeAt
      (fun type value htype hvalue => hvalue) h.type hwire 0⟩
  · exact hwire

theorem neutral_header (h : view.AllNeutral) : Neutral (header view) := by
  have himports : Neutral (if view.dependencies.isEmpty then ""
      else "\n" ++ String.join (view.dependencies.map fun d =>
        "from ." ++ d.module ++ " import " ++ d.className ++ "\n")) := by
    refine neutral_ite neutral_empty <| neutral_of_pass <| pass_words <|
      pass_last_hole (h.imports fun d hclass hmodule => ?_) (by decide)
    simp only [String.append_assoc]
    exact neutral_of_pass <| pass_words <| pass_hole hmodule <| pass_words <|
      pass_hole hclass <| pass_last (by decide)
  simp only [String.append_assoc] at himports
  unfold header
  simp only [String.append_assoc]
  exact neutral_of_pass <| pass_words <| pass_words <| pass_words <|
    pass_words <| pass_hole himports <| pass_words <| pass_hole h.className <|
    pass_last (by decide)

theorem neutral_field (h : field.AllNeutral) :
    Neutral (Python.field field) := by
  unfold Python.field
  simp only [String.append_assoc]
  exact neutral_of_pass <| pass_words <| pass_hole h.ident <| pass_words <|
    pass_hole h.typeName <| pass_last (by decide)

theorem neutral_decodeLine (h : field.AllNeutral) :
    Neutral (decodeLine field) := by
  have hconversion := printsNeutral.neutral (allNeutral_decodeField h)
  unfold decodeLine
  simp only [String.append_assoc]
  exact neutral_of_pass <| pass_words <| pass_hole h.ident <| pass_words <|
    pass_hole hconversion <| pass_last (by decide)

theorem neutral_encodeLine (h : field.AllNeutral) :
    Neutral (encodeLine field) := by
  have hconversion : Neutral (print (encodeField field)) :=
    printsNeutral.neutral
      (Conversion.allNeutral_encodeGuarded field.type h.ident)
  unfold encodeLine
  simp only [String.append_assoc]
  exact neutral_of_pass <| pass_words <| pass_hole (neutral_quote field.key) <|
    pass_words <| pass_hole hconversion <| pass_last (by decide)

theorem neutral_serialization (h : view.AllNeutral) :
    Neutral (Python.serialization view) := by
  have hdecode : ∀ {p : Prop} [Decidable p], Neutral
      (if p then "        return cls()\n"
        else "        return cls(\n" ++ (forFields view decodeLine ++
          "        )\n")) :=
    neutral_ite (neutral_words (by decide)) <| neutral_of_pass <|
      pass_words <| pass_hole (h.forFields fun _ => neutral_decodeLine) <|
      pass_last (by decide)
  have hencode : ∀ {p : Prop} [Decidable p], Neutral
      (if p then "        return \x7b\x7d\n"
        else "        return \x7b\n" ++ (forFields view encodeLine ++
          "        \x7d\n")) :=
    neutral_ite (neutral_words (by decide)) <| neutral_of_pass <|
      pass_words <| pass_hole (h.forFields fun _ => neutral_encodeLine) <|
      pass_last (by decide)
  unfold Python.serialization
  simp only [String.append_assoc]
  exact neutral_of_pass <|
    pass_words <| pass_words <| pass_hole h.className <| pass_words <|
    pass_hole hdecode <| pass_words <| pass_words <| pass_hole h.className <|
    pass_words <| pass_words <| pass_words <| pass_hole hencode <|
    pass_words <| pass_last (by decide)

end Python

theorem neutral_python (h : view.AllNeutral) (hasAccessors : Bool) :
    Neutral (Template.python.render hasAccessors view) := by
  refine neutral_render h (pass_last_hole (Python.neutral_header h) rfl)
    (fun _ => Python.neutral_field) ?_
    (pass_last_hole (neutral_nothing view) rfl) (neutral_nothing view)
    (fun field _ => neutral_nothing field)
    (pass_last_hole (Python.neutral_serialization h) rfl)
    (pass_last_hole (neutral_nothing view) rfl)
  intro line hline
  cases hline

/-! ## TypeScript -/

namespace TypeScript

theorem neutral_quote (text : String) : Neutral (quote text) :=
  neutral_literal rfl text

theorem neutral_call (optional : Bool) : Neutral (call optional) := by
  unfold call
  exact neutral_ite (neutral_words (by decide)) (neutral_words (by decide))

theorem neutral_record : Neutral record :=
  neutral_words (by decide)

theorem neutral_ascribed {value : String} (hvalue : Neutral value)
    {ascription : Ascription} (h : ascription.AllNeutral) :
    Neutral (ascribed value ascription) := by
  cases ascription with
  | exactly type =>
      unfold ascribed
      simp only [String.append_assoc]
      exact neutral_of_pass <| pass_hole hvalue <| pass_words <|
        pass_last_hole (neutral_typeName .typescript h) (by decide)
  | orAbsent typeName =>
      unfold ascribed
      simp only [String.append_assoc]
      exact neutral_of_pass <| pass_hole hvalue <| pass_words <|
        pass_hole h <| pass_last (by decide)

theorem neutral_asList (optional : Bool) {value : String}
    (hvalue : Neutral value) : Neutral (asList optional value) := by
  unfold asList
  simp only [String.append_assoc]
  cases optional
  · exact neutral_of_pass <| pass_words <| pass_hole hvalue <| pass_words <|
      pass_hole neutral_empty <| pass_last (by decide)
  · exact neutral_of_pass <| pass_words <| pass_hole hvalue <| pass_words <|
      pass_words <| pass_last (by decide)

theorem printsNeutral : PrintsNeutral print where
  wire key := by
    unfold print
    exact neutral_between (neutral_quote key) (by decide)
  stored hident := by
    unfold print
    exact (neutral_words (by decide)).append hident
  element depth := by
    unfold print
    exact Conversion.neutral_loopVariable depth
  ascribe hascription hvalue := by
    unfold print
    exact neutral_ascribed hvalue hascription
  decode hclass hvalue := by
    unfold print
    simp only [String.append_assoc]
    exact neutral_of_pass <| pass_hole hclass <| pass_words <|
      pass_hole hvalue <| pass_words <| pass_hole neutral_record <|
      pass_last (by decide)
  encode optional _ hvalue := by
    unfold print
    exact (hvalue.append (neutral_call optional)).append
      (neutral_words (by decide))
  each direction optional depth _ _ hlist hbody := by
    have hcall := neutral_call optional
    have hvariable := Conversion.neutral_loopVariable depth
    unfold print
    cases direction <;> simp only [String.append_assoc]
    · exact neutral_of_pass <| pass_hole (neutral_asList optional hlist) <|
        pass_hole hcall <| pass_words <| pass_hole hvariable <|
        pass_words <| pass_hole hbody <| pass_last (by decide)
    · exact neutral_of_pass <| pass_hole hlist <| pass_hole hcall <|
        pass_words <| pass_hole hvariable <| pass_words <| pass_hole hbody <|
        pass_last (by decide)
  ifPresent hsubject hbody := by
    unfold print
    exact (hsubject.append (neutral_words (by decide))).append hbody

theorem allNeutral_decodeField (h : field.AllNeutral) :
    (decodeField field).AllNeutral := by
  have hwire : (Conversion.wire field.key).AllNeutral := trivial
  unfold decodeField decodeValue
  split
  · exact Conversion.allNeutral_passAbsent
      (Conversion.allNeutral_decodeAt Conversion.allNeutral_exactly h.type
        hwire 0)
  · exact ⟨h.typeName, hwire⟩

theorem pass_header (h : view.AllNeutral) :
    pass (header view).toList (some []) = some ['\x7b'] := by
  have hgap : ∀ {p : Prop} [Decidable p], Neutral (if p then "" else "\n") :=
    neutral_ite neutral_empty (neutral_words (by decide))
  unfold header
  simp only [String.append_assoc]
  refine pass_hole (h.imports fun d hclass hmodule => ?_) <| pass_hole hgap <|
    pass_words <| pass_hole h.className <| pass_last (by decide)
  exact neutral_of_pass <| pass_words <| pass_hole hclass <| pass_words <|
    pass_hole (neutral_literal rfl _) <| pass_last (by decide)

theorem neutral_field (h : field.AllNeutral) :
    Neutral (TypeScript.field field) := by
  unfold TypeScript.field
  simp only [String.append_assoc]
  exact neutral_of_pass <| pass_words <| pass_hole h.ident <| pass_words <|
    pass_hole h.typeName <| pass_last (by decide)

theorem neutral_constructor (h : view.AllNeutral) :
    Neutral (TypeScript.constructor view) := by
  unfold TypeScript.constructor
  simp only [String.append_assoc]
  exact neutral_of_pass <| pass_words <| pass_hole h.className <|
    pass_words <| pass_last (by decide)

theorem neutral_decodeLine (h : field.AllNeutral) :
    Neutral (decodeLine field) := by
  have hconversion := printsNeutral.neutral (allNeutral_decodeField h)
  unfold decodeLine
  simp only [String.append_assoc]
  exact neutral_of_pass <| pass_words <| pass_hole h.ident <| pass_words <|
    pass_hole hconversion <| pass_last (by decide)

theorem neutral_encodeLine (h : field.AllNeutral) :
    Neutral (encodeLine field) := by
  have hconversion : Neutral (print (encodeField field)) :=
    printsNeutral.neutral
      (Conversion.allNeutral_encodeOptional field.type h.ident)
  unfold encodeLine
  simp only [String.append_assoc]
  exact neutral_of_pass <| pass_words <| pass_hole (neutral_quote field.key) <|
    pass_words <| pass_hole hconversion <| pass_last (by decide)

theorem neutral_serialization (h : view.AllNeutral) :
    Neutral (TypeScript.serialization view) := by
  have hclass := h.className
  have hdecode := h.forFields fun field hf => neutral_decodeLine hf
  have hencode : ∀ {p : Prop} [Decidable p], Neutral
      (if p then "    return \x7b\x7d;\n"
        else "    return \x7b\n" ++ (forFields view encodeLine ++
          "    \x7d;\n")) :=
    neutral_ite (neutral_words (by decide)) <| neutral_of_pass <|
      pass_words <| pass_hole (h.forFields fun _ => neutral_encodeLine) <|
      pass_last (by decide)
  unfold TypeScript.serialization
  simp only [String.append_assoc]
  exact neutral_of_pass <|
    pass_words <| pass_hole neutral_record <| pass_words <|
    pass_hole hclass <| pass_words <| pass_words <| pass_hole hclass <|
    pass_words <| pass_hole hdecode <| pass_words <| pass_words <|
    pass_hole hclass <| pass_words <| pass_words <| pass_hole hclass <|
    pass_words <| pass_hole neutral_record <| pass_words <| pass_words <|
    pass_hole neutral_record <| pass_words <| pass_hole hencode <|
    pass_words <| pass_last (by decide)

end TypeScript

theorem neutral_typescript (h : view.AllNeutral) (hasAccessors : Bool) :
    Neutral (Template.typescript.render hasAccessors view) := by
  refine neutral_render h (TypeScript.pass_header h)
    (fun _ => TypeScript.neutral_field) ?_
    (pass_last_hole (neutral_nothing view) rfl)
    (TypeScript.neutral_constructor h) (fun field _ => neutral_nothing field)
    (pass_last_hole (TypeScript.neutral_serialization h) rfl)
    (pass_last (by decide))
  intro line hline
  cases hline

/-! ## Rust

The footer closes the block of methods, which the methods open themselves. -/

namespace Rust

theorem neutral_quote (text : String) : Neutral (quote text) :=
  neutral_literal rfl text

theorem pass_header (h : view.AllNeutral) :
    pass (header view).toList (some []) = some ['\x7b'] := by
  unfold header
  simp only [String.append_assoc]
  refine pass_words <| pass_hole (h.imports fun d hclass hmodule => ?_) <|
    pass_words <| pass_words <| pass_words <| pass_hole h.className <|
    pass_last (by decide)
  exact neutral_of_pass <| pass_words <| pass_hole hmodule <| pass_words <|
    pass_hole hclass <| pass_last (by decide)

theorem neutral_field (h : field.AllNeutral) : Neutral (Rust.field field) := by
  unfold Rust.field
  simp only [String.append_assoc]
  exact neutral_of_pass <| pass_words <| pass_hole h.ident <| pass_words <|
    pass_hole h.typeName <| pass_last (by decide)

theorem pass_serialization (h : view.AllNeutral) :
    pass (Rust.serialization view).toList (some []) = some ['\x7b'] := by
  unfold Rust.serialization
  simp only [String.append_assoc]
  exact pass_words <| pass_hole h.className <| pass_words <| pass_words <|
    pass_words <| pass_words <| pass_words <| pass_words <| pass_words <|
    pass_words <| pass_words <| pass_words <| pass_last (by decide)

theorem neutral_renameAnnotation (key : String) :
    Neutral (Rust.renameAnnotation key) := by
  unfold Rust.renameAnnotation
  exact neutral_between (neutral_quote key) (by decide)

end Rust

theorem neutral_rust (h : view.AllNeutral) (hasAccessors : Bool) :
    Neutral (Template.rust.render hasAccessors view) := by
  refine neutral_render h (Rust.pass_header h) (fun _ => Rust.neutral_field) ?_
    (pass_last (by decide)) (neutral_nothing view)
    (fun field _ => neutral_nothing field) (Rust.pass_serialization h)
    (pass_last (by decide))
  intro line hline key
  injection hline with hline
  subst hline
  exact Rust.neutral_renameAnnotation key

end Recast.Template

namespace Recast

/-- In every language, the text of a class is neutral if the names in its view
are. -/
theorem Language.neutral_render (language : Language) {view : ClassView}
    (h : view.AllNeutral) : Neutral (language.render view) := by
  cases language
  · exact Template.neutral_java h _
  · exact Template.neutral_ruby h _
  · exact Template.neutral_python h _
  · exact Template.neutral_typescript h _
  · exact Template.neutral_rust h _

end Recast
