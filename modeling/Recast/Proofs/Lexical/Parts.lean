import Recast.Conversion
import Recast.Proofs.Lexical.Scan
import Recast.Template.Basic

/-!
# The parts of a view are neutral

A template is handed a view. What is asked of the view so that the template
can be scanned is said here once for all languages: its class names, modules,
identifiers, accessors and spelled types are neutral texts. Keys are not asked
to be anything, since they only stand inside literals.

The texts that are common to the templates follow from that: the spelling of a
type is neutral if the classes in it are, and a conversion holds nothing but
keys, identifiers, classes and types.
-/

namespace Recast

open Scan

/-! ## Types -/

/-- The classes that a type refers to have neutral names. -/
def DataType.NamesNeutral (type : DataType String) : Prop :=
  ∀ className ∈ type.refs, Neutral className

theorem neutral_scalarName (language : Language) (inner : Bool)
    (kind : Scalar) :
    Neutral (language.conventions.spell inner (.scalar kind)) := by
  apply neutral_of_pass
  cases language <;> cases inner <;> cases kind <;> decide

theorem neutral_arrayType (language : Language) {item : String}
    (h : Neutral item) : Neutral (language.conventions.arrayType item) := by
  apply neutral_of_pass
  cases language <;>
    simp only [Language.conventions, Conventions.java, Conventions.ruby,
      Conventions.python, Conventions.typescript, Conventions.rust,
      String.append_assoc]
  case typescript => exact pass_hole h <| pass_last (by decide)
  all_goals exact pass_words <| pass_hole h <| pass_last (by decide)

theorem neutral_mapType (language : Language) {key value : String}
    (hkey : Neutral key) (hvalue : Neutral value) :
    Neutral (language.conventions.mapType key value) := by
  apply neutral_of_pass
  cases language <;>
    simp only [Language.conventions, Conventions.java, Conventions.ruby,
      Conventions.python, Conventions.typescript, Conventions.rust,
      String.append_assoc]
  all_goals
    exact pass_words <| pass_hole hkey <| pass_words <| pass_hole hvalue <|
      pass_last (by decide)

theorem neutral_spell (language : Language) (inner : Bool)
    {type : DataType String} (h : type.NamesNeutral) :
    Neutral (language.conventions.spell inner type) := by
  induction type generalizing inner with
  | scalar kind => exact neutral_scalarName language inner kind
  | ref className =>
      rw [Conventions.spell]
      exact h className List.mem_cons_self
  | array item ih =>
      rw [Conventions.spell]
      exact neutral_arrayType language (ih true h)
  | map key value ihKey ihValue =>
      rw [Conventions.spell]
      exact neutral_mapType language
        (ihKey true fun c hc => h c (List.mem_append_left _ hc))
        (ihValue true fun c hc => h c (List.mem_append_right _ hc))

theorem neutral_typeName (language : Language) {type : DataType String}
    (h : type.NamesNeutral) : Neutral (language.conventions.typeName type) :=
  neutral_spell language false h

/-! ## Views -/

structure FieldView.AllNeutral (field : FieldView) : Prop where
  ident : Neutral field.ident
  accessor : Neutral field.accessor
  typeName : Neutral field.typeName
  type : field.type.NamesNeutral

structure ClassView.AllNeutral (view : ClassView) : Prop where
  className : Neutral view.className
  fields : ∀ field ∈ view.fields, field.AllNeutral
  dependencies : ∀ dependency ∈ view.dependencies,
    Neutral dependency.className ∧ Neutral dependency.module

/-- What is written for each field is neutral if it is for one. -/
theorem ClassView.AllNeutral.forFields {view : ClassView} (h : view.AllNeutral)
    {write : FieldView → String}
    (hwrite : ∀ field : FieldView, field.AllNeutral → Neutral (write field)) :
    Neutral (Template.forFields view write) := by
  refine neutral_join fun text htext => ?_
  obtain ⟨field, hfield, rfl⟩ := List.mem_map.mp htext
  exact hwrite field (h.fields field hfield)

theorem ClassView.AllNeutral.listing {view : ClassView} (h : view.AllNeutral)
    {write : FieldView → String}
    (hwrite : ∀ field : FieldView, field.AllNeutral → Neutral (write field)) :
    Neutral (", ".intercalate (view.fields.map write)) := by
  refine neutral_intercalate (neutral_words (by decide)) fun text htext => ?_
  obtain ⟨field, hfield, rfl⟩ := List.mem_map.mp htext
  exact hwrite field (h.fields field hfield)

theorem ClassView.AllNeutral.imports {view : ClassView} (h : view.AllNeutral)
    {write : Dependency → String}
    (hwrite : ∀ dependency : Dependency, Neutral dependency.className →
      Neutral dependency.module → Neutral (write dependency)) :
    Neutral (String.join (view.dependencies.map write)) := by
  refine neutral_join fun text htext => ?_
  obtain ⟨dependency, hdependency, rfl⟩ := List.mem_map.mp htext
  obtain ⟨hclass, hmodule⟩ := h.dependencies dependency hdependency
  exact hwrite dependency hclass hmodule

/-! ## Conversions -/

def Ascription.AllNeutral : Ascription → Prop
  | .exactly type => type.NamesNeutral
  | .orAbsent typeName => Neutral typeName

namespace Conversion

/-- The identifiers, classes and types of a conversion are neutral. -/
def AllNeutral : Conversion → Prop
  | wire _ | element _ => True
  | stored ident => Neutral ident
  | ascribe ascription value => ascription.AllNeutral ∧ value.AllNeutral
  | decode className value => Neutral className ∧ value.AllNeutral
  | encode _ value => value.AllNeutral
  | each _ _ _ list body => list.AllNeutral ∧ body.AllNeutral
  | ifPresent subject body => subject.AllNeutral ∧ body.AllNeutral

variable {enters : DataType String → Bool}
  {leaf : DataType String → Conversion → Conversion}
  {type : DataType String} {value : Conversion}

theorem allNeutral_decodeAt
    (hleaf : ∀ type value, type.NamesNeutral → value.AllNeutral →
      (leaf type value).AllNeutral)
    (htype : type.NamesNeutral) (hvalue : value.AllNeutral) (depth : Nat) :
    (decodeAt enters leaf type depth value).AllNeutral := by
  induction type generalizing depth value with
  | ref className =>
      rw [decodeAt]
      exact ⟨htype className List.mem_cons_self, hvalue⟩
  | array item ih =>
      have helement : (element depth).AllNeutral := trivial
      rw [decodeAt]
      split
      · exact ⟨hvalue, ih htype helement (depth + 1)⟩
      · exact hleaf _ _ htype hvalue
  | scalar kind => exact hleaf _ _ htype hvalue
  | map key item => exact hleaf _ _ htype hvalue

theorem allNeutral_exactly (type : DataType String) (value : Conversion)
    (htype : type.NamesNeutral) (hvalue : value.AllNeutral) :
    (ascribe (.exactly type) value).AllNeutral :=
  ⟨htype, hvalue⟩

theorem allNeutral_encodeAt (type : DataType String) (hvalue : value.AllNeutral)
    (depth : Nat) : (encodeAt type depth value).AllNeutral := by
  induction type generalizing depth value with
  | ref className =>
      rw [encodeAt]
      exact hvalue
  | array item ih =>
      have helement : (element depth).AllNeutral := trivial
      rw [encodeAt]
      split
      · exact ⟨hvalue, ih helement (depth + 1)⟩
      · exact hvalue
  | scalar kind => exact hvalue
  | map key item => exact hvalue

theorem allNeutral_passAbsent (h : value.AllNeutral) :
    (passAbsent value).AllNeutral := by
  cases value with
  | decode className value => exact ⟨h.2, h⟩
  | encode optional value => exact h
  | each direction optional depth list body => exact h
  | wire key => exact h
  | stored ident => exact h
  | element depth => exact h
  | ascribe ascription value => exact h
  | ifPresent subject body => exact h

theorem allNeutral_encodeGuarded (type : DataType String)
    (h : value.AllNeutral) : (encodeGuarded type value).AllNeutral := by
  rw [encodeGuarded]
  split
  · exact ⟨h, allNeutral_encodeAt type h 0⟩
  · exact h

theorem allNeutral_encodeOptional (type : DataType String)
    (h : value.AllNeutral) : (encodeOptional type value).AllNeutral :=
  allNeutral_passAbsent (allNeutral_encodeAt type h 0)

theorem neutral_loopVariable (depth : Nat) : Neutral (loopVariable depth) :=
  neutral_of_pass <| pass_words <|
    pass_last_hole (Name.wordlike_toString depth).plain.neutral (by decide)

end Conversion

/-- A printer keeps conversions neutral in every construct. Keys are quoted, so
nothing is asked of them. -/
structure PrintsNeutral (print : Conversion → String) : Prop where
  wire (key : String) : Neutral (print (.wire key))
  stored {ident : String} : Neutral ident → Neutral (print (.stored ident))
  element (depth : Nat) : Neutral (print (.element depth))
  ascribe {ascription : Ascription} {value : Conversion} :
    ascription.AllNeutral → Neutral (print value) →
    Neutral (print (.ascribe ascription value))
  decode {className : String} {value : Conversion} : Neutral className →
    Neutral (print value) → Neutral (print (.decode className value))
  encode (optional : Bool) {value : Conversion} :
    Neutral (print value) → Neutral (print (.encode optional value))
  each (direction : Direction) (optional : Bool) (depth : Nat)
    {list body : Conversion} : Neutral (print list) → Neutral (print body) →
    Neutral (print (.each direction optional depth list body))
  ifPresent {subject body : Conversion} : Neutral (print subject) →
    Neutral (print body) → Neutral (print (.ifPresent subject body))

theorem PrintsNeutral.neutral {print : Conversion → String}
    (h : PrintsNeutral print) {conversion : Conversion}
    (hneutral : conversion.AllNeutral) : Neutral (print conversion) := by
  induction conversion with
  | wire key => exact h.wire key
  | stored ident => exact h.stored hneutral
  | element depth => exact h.element depth
  | ascribe ascription value ih => exact h.ascribe hneutral.1 (ih hneutral.2)
  | decode className value ih => exact h.decode hneutral.1 (ih hneutral.2)
  | encode optional value ih => exact h.encode optional (ih hneutral)
  | each direction optional depth list body ihList ihBody =>
      exact h.each direction optional depth (ihList hneutral.1)
        (ihBody hneutral.2)
  | ifPresent subject body ihSubject ihBody =>
      exact h.ifPresent (ihSubject hneutral.1) (ihBody hneutral.2)

end Recast
