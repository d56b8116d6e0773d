import Recast.Proofs.Generation.Views
import Recast.Proofs.NameTable.Resolve
import Recast.Proofs.Wire.Printed

/-!
# A field is decoded from its key and encoded from itself

However deep the type of a field nests and whatever a language does to let an
absent value pass, the conversion of the field bottoms out in one expression:
the value under the key when it decodes, the value of the field when it encodes.
Everything else is put around that expression, or repeats it in a test.
-/

namespace Recast

open Name (Wordlike)

/-! ## Clean views -/

/-- The texts of a field that are not its key. -/
structure FieldView.Clean (field : FieldView) : Prop where
  ident : Wordlike field.ident
  accessor : Calm field.accessor
  typeName : Calm field.typeName
  type : ∀ className ∈ field.type.refs, Calm className
  renamed : field.renamed = (field.ident != field.key)

structure ClassView.Clean (view : ClassView) : Prop where
  className : Wordlike view.className
  fields : ∀ field ∈ view.fields, field.Clean
  dependencies : ∀ dependency ∈ view.dependencies,
    Calm dependency.className ∧ Calm dependency.module

theorem ClassView.clean_of_ofShape {language : Language} {table : NameTable}
    {shape : ClassShape} {view : ClassView}
    (htable : ∀ id, Wordlike (table.get id).className ∧
      Plain (table.get id).module)
    (h : ClassView.ofShape language.conventions table shape = .ok view) :
    view.Clean := by
  obtain ⟨hfields, hclass, -, -, hdependencies⟩ := ClassView.ofShape_eq_ok.mp h
  refine ⟨?_, ?_, ?_⟩
  · rw [hclass]
    exact (htable shape.id).1
  · intro field hfield
    obtain ⟨attr, -, hmade, hident⟩ :=
      List.exists_mem_of_forall₂_of_mem (forall₂_fieldViews hfields) hfield
    have htype : ∀ className ∈ field.type.refs, Calm className := by
      intro className hmem
      rw [hmade, fieldView, DataType.refs_mapRefs] at hmem
      obtain ⟨id, -, rfl⟩ := List.mem_map.mp hmem
      exact (htable id).1.calm
    have haccessor : Calm field.accessor := by
      rw [hmade]
      exact (Name.plain_raiseFirst hident).calm
    have htypeName : Calm field.typeName := by
      rw [hmade] at htype ⊢
      exact calm_spell language false htype
    refine ⟨hident, haccessor, htypeName, htype, ?_⟩
    rw [hmade]
    rfl
  · intro dependency hdependency
    rw [hdependencies] at hdependency
    obtain ⟨id, -, rfl⟩ := List.mem_map.mp hdependency
    exact ⟨(htable id).1.calm, (htable id).2.calm⟩

/-! ## Conversions of a type -/

namespace Conversion

variable {enters : DataType String → Bool}
  {leaf : DataType String → Conversion → Conversion}
  {type : DataType String} {value : Conversion}

theorem keys_decodeAt (hleaf : ∀ type value, (leaf type value).keys = value.keys)
    (type : DataType String) (depth : Nat) (value : Conversion) :
    (decodeAt enters leaf type depth value).keys = value.keys := by
  induction type generalizing depth value with
  | scalar kind => exact hleaf _ _
  | map key item ihKey ihItem => exact hleaf _ _
  | ref className => rfl
  | array item ih =>
      rw [decodeAt]
      split
      · rw [keys, ih]
        exact List.append_nil _
      · exact hleaf _ _

theorem allCalm_decodeAt
    (hleaf : ∀ type value, (∀ className ∈ type.refs, Calm className) →
      value.AllCalm → (leaf type value).AllCalm)
    (htype : ∀ className ∈ type.refs, Calm className) (depth : Nat)
    (hvalue : value.AllCalm) :
    (decodeAt enters leaf type depth value).AllCalm := by
  induction type generalizing depth value with
  | scalar kind => exact hleaf _ _ htype hvalue
  | map key item ihKey ihItem => exact hleaf _ _ htype hvalue
  | ref className => exact ⟨htype className List.mem_cons_self, hvalue⟩
  | array item ih =>
      rw [decodeAt]
      split
      · exact ⟨hvalue, ih htype (depth + 1) trivial⟩
      · exact hleaf _ _ htype hvalue

theorem mem_keys_passAbsent (key : String) :
    key ∈ (passAbsent value).keys ↔ key ∈ value.keys := by
  cases value with
  | decode className value => simp [passAbsent, keys]
  | wire _ | stored _ | element _ | ascribe _ _ | encode _ _ | each _ _ _ _ _
  | ifPresent _ _ => exact Iff.rfl

theorem allCalm_passAbsent (h : value.AllCalm) : (passAbsent value).AllCalm := by
  cases value with
  | decode className value => exact ⟨h.2, h⟩
  | wire _ | stored _ | element _ | ascribe _ _ | encode _ _ | each _ _ _ _ _
  | ifPresent _ _ => exact h

/-- The conversion of a stored value reads that value and nothing else, and
looks nothing up. -/
structure WritesOnly (ident : String) (conversion : Conversion) : Prop where
  writes : conversion.Writes
  calm : conversion.AllCalm
  keys_eq : conversion.keys = []
  mem_idents : ∀ name, name ∈ conversion.idents ↔ name = ident

/-- Going through arrays adds loops around a value, and the bodies of the loops
read nothing but their elements. -/
theorem encodeAt_spec (type : DataType String) (depth : Nat)
    (hwrites : value.Writes) (hcalm : value.AllCalm) :
    (encodeAt type depth value).Writes ∧ (encodeAt type depth value).AllCalm ∧
      (encodeAt type depth value).keys = value.keys ∧
      (encodeAt type depth value).idents = value.idents := by
  induction type generalizing depth value with
  | scalar kind => exact ⟨hwrites, hcalm, rfl, rfl⟩
  | map key item ihKey ihItem => exact ⟨hwrites, hcalm, rfl, rfl⟩
  | ref className => exact ⟨hwrites, hcalm, rfl, rfl⟩
  | array item ih =>
      obtain ⟨hbody, hbodyCalm, hkeys, hidents⟩ :=
        @ih (.element depth) (depth + 1) trivial trivial
      rw [encodeAt]
      split
      · refine ⟨⟨hwrites, hbody⟩, ⟨hcalm, hbodyCalm⟩, ?_, ?_⟩
        · rw [keys, hkeys]
          exact List.append_nil _
        · rw [idents, hidents]
          exact List.append_nil _
      · exact ⟨hwrites, hcalm, rfl, rfl⟩

variable {ident : String}

theorem writesOnly_encodeAt (type : DataType String) (h : Wordlike ident) :
    WritesOnly ident (encodeAt type 0 (stored ident)) := by
  obtain ⟨hwrites, hcalm, hkeys, hidents⟩ :=
    @encodeAt_spec (stored ident) type 0 h h.calm
  refine ⟨hwrites, hcalm, hkeys, fun name => ?_⟩
  rw [hidents]
  exact List.mem_singleton

theorem writesOnly_encodeGuarded (type : DataType String) (h : Wordlike ident) :
    WritesOnly ident (encodeGuarded type (stored ident)) := by
  have hat := writesOnly_encodeAt type h
  rw [encodeGuarded]
  split
  · exact ⟨⟨h, hat.writes⟩, ⟨h.calm, hat.calm⟩, hat.keys_eq, fun name => by
      rw [idents, List.mem_append, hat.mem_idents, idents, List.mem_singleton,
        or_self]⟩
  · exact ⟨h, h.calm, rfl, fun name => List.mem_singleton⟩

theorem writesOnly_encodeOptional (type : DataType String) (h : Wordlike ident) :
    WritesOnly ident (encodeOptional type (stored ident)) := by
  have hat := writesOnly_encodeAt type h
  rw [encodeOptional]
  cases hvalue : encodeAt type 0 (stored ident) with
  | decode className value =>
      rw [hvalue] at hat
      exact hat.writes.elim
  | each direction optional depth list body =>
      rw [hvalue] at hat
      cases direction with
      | decode => exact hat.writes.elim
      | encode => exact ⟨hat.writes, hat.calm, hat.keys_eq, hat.mem_idents⟩
  | encode optional value =>
      rw [hvalue] at hat
      exact ⟨hat.writes, hat.calm, hat.keys_eq, hat.mem_idents⟩
  | wire _ | stored _ | element _ | ascribe _ _ | ifPresent _ _ =>
      rw [hvalue] at hat
      exact hat

end Conversion

/-! ## What the text of a field shows -/

/-- Every literal in a text is the key of a field, and there is one. -/
structure DecodesField (field : FieldView) (text : String) : Prop where
  spelled : ∃ keys, Spelled text keys ∧ keys ≠ [] ∧
    ∀ key ∈ keys, key = field.key

/-- A text has no literal and reads a field, and only that one. -/
structure EncodesField (mark : String) (field : FieldView) (text : String) :
    Prop where
  spelled : Spelled text []
  mentions : ∃ names, Mentions mark text names ∧ names ≠ [] ∧
    ∀ name ∈ names, name = field.ident

variable {field : FieldView} {conversion : Conversion} {text mark : String}

theorem decodesField_of_shows (h : ShowsKeys conversion text)
    (hkeys : ∀ key, key ∈ conversion.keys ↔ key = field.key) :
    DecodesField field text := by
  obtain ⟨keys, hspelled, hmem⟩ := h
  have hiff : ∀ key, key ∈ keys ↔ key = field.key :=
    fun key => (hmem key).trans (hkeys key)
  exact ⟨keys, hspelled, List.ne_nil_of_mem ((hiff field.key).mpr rfl),
    fun key hkey => (hiff key).mp hkey⟩

theorem encodesField_of_shows (hkeys : ShowsKeys conversion text)
    (hidents : ShowsIdents mark conversion text)
    (h : conversion.WritesOnly field.ident) : EncodesField mark field text := by
  obtain ⟨keys, hspelled, hmem⟩ := hkeys
  obtain ⟨names, hmentions, hnames⟩ := hidents
  have hnone : keys = [] := by
    refine List.eq_nil_iff_forall_not_mem.mpr fun key hkey => ?_
    rw [hmem, h.keys_eq] at hkey
    cases hkey
  have hiff : ∀ name, name ∈ names ↔ name = field.ident :=
    fun name => (hnames name).trans (h.mem_idents name)
  exact ⟨hnone ▸ hspelled, names, hmentions,
    List.ne_nil_of_mem ((hiff field.ident).mpr rfl),
    fun name hname => (hiff name).mp hname⟩

/-! ## The languages -/

namespace Template

open Conversion

/-- A leaf may ascribe a type to a value or leave it as it is. -/
theorem allCalm_exactly (type : DataType String) (value : Conversion)
    (htype : ∀ className ∈ type.refs, Calm className) (hvalue : value.AllCalm) :
    (ascribe (.exactly type) value).AllCalm :=
  ⟨htype, hvalue⟩

theorem Java.decodesField (h : field.Clean) :
    DecodesField field (Java.print (Java.decodeField field)) := by
  have hcalm : (decodeAt (fun _ => true) (fun type => ascribe (.exactly type))
      field.type 0 (wire field.key)).AllCalm :=
    allCalm_decodeAt allCalm_exactly h.type 0 trivial
  have hkeys : (decodeAt (fun _ => true) (fun type => ascribe (.exactly type))
      field.type 0 (wire field.key)).keys = [field.key] :=
    keys_decodeAt (by intro _ _; rfl) field.type 0 (wire field.key)
  refine decodesField_of_shows (Java.printsKeys.showsKeys ?_) fun key => ?_
  · unfold Java.decodeField Java.decodeValue
    split
    · exact ⟨trivial, hcalm⟩
    · exact ⟨trivial, hcalm⟩
    · exact hcalm
  · unfold Java.decodeField Java.decodeValue
    split
    · simp [keys, hkeys]
    · simp [keys, hkeys]
    · rw [hkeys]
      exact List.mem_singleton

theorem Java.encodesField (h : field.Clean) :
    EncodesField "this." field (Java.print (Java.encodeField field)) := by
  have hwrites := writesOnly_encodeGuarded field.type h.ident
  exact encodesField_of_shows (Java.printsKeys.showsKeys hwrites.calm)
    (Java.printsIdents.showsIdents hwrites.writes) hwrites

theorem Ruby.allCalm_decodeField (h : field.Clean) :
    (Ruby.decodeField field).AllCalm :=
  allCalm_passAbsent
    (allCalm_decodeAt (fun _ _ _ hvalue => hvalue) h.type 0 trivial)

theorem Ruby.mem_keys_decodeField (key : String) :
    key ∈ (Ruby.decodeField field).keys ↔ key = field.key := by
  rw [Ruby.decodeField, Ruby.decodeValue, mem_keys_passAbsent, keys_decodeAt (fun _ _ => rfl)]
  exact List.mem_singleton

theorem Ruby.decodesField (h : field.Clean) :
    DecodesField field (Ruby.print (Ruby.decodeField field)) :=
  decodesField_of_shows (Ruby.showsKeys_print (Ruby.allCalm_decodeField h))
    Ruby.mem_keys_decodeField

theorem Ruby.encodesField (h : field.Clean) :
    EncodesField "@" field (Ruby.print (Ruby.encodeField field)) := by
  have hwrites := writesOnly_encodeOptional field.type h.ident
  exact encodesField_of_shows (Ruby.showsKeys_print hwrites.calm)
    (Ruby.printsIdents.showsIdents hwrites.writes) hwrites

theorem Python.decodesField (h : field.Clean) :
    DecodesField field (Python.print (Python.decodeField field)) := by
  have hcalm : (decodeAt (·.carriesClass) (fun _ value => value) field.type 0
      (wire field.key)).AllCalm :=
    allCalm_decodeAt (fun _ _ _ hvalue => hvalue) h.type 0 trivial
  have hkeys : (decodeAt (·.carriesClass) (fun _ value => value) field.type 0
      (wire field.key)).keys = [field.key] :=
    keys_decodeAt (by intro _ _; rfl) field.type 0 (wire field.key)
  refine decodesField_of_shows (Python.printsKeys.showsKeys ?_) fun key => ?_
  · unfold Python.decodeField Python.decodeValue
    split
    · exact ⟨trivial, hcalm⟩
    · trivial
  · unfold Python.decodeField Python.decodeValue
    split
    · simp [keys, hkeys]
    · exact List.mem_singleton

theorem Python.encodesField (h : field.Clean) :
    EncodesField "self." field (Python.print (Python.encodeField field)) := by
  have hwrites := writesOnly_encodeGuarded field.type h.ident
  exact encodesField_of_shows (Python.printsKeys.showsKeys hwrites.calm)
    (Python.printsIdents.showsIdents hwrites.writes) hwrites

theorem TypeScript.decodesField (h : field.Clean) :
    DecodesField field (TypeScript.print (TypeScript.decodeField field)) := by
  have hcalm : (decodeAt (·.carriesClass) (fun type => ascribe (.exactly type))
      field.type 0 (wire field.key)).AllCalm :=
    allCalm_decodeAt allCalm_exactly h.type 0 trivial
  have hkeys : (decodeAt (·.carriesClass) (fun type => ascribe (.exactly type))
      field.type 0 (wire field.key)).keys = [field.key] :=
    keys_decodeAt (by intro _ _; rfl) field.type 0 (wire field.key)
  refine decodesField_of_shows (TypeScript.printsKeys.showsKeys ?_) fun key => ?_
  · unfold TypeScript.decodeField TypeScript.decodeValue
    split
    · exact allCalm_passAbsent hcalm
    · exact ⟨h.typeName, trivial⟩
  · unfold TypeScript.decodeField TypeScript.decodeValue
    split
    · rw [mem_keys_passAbsent, hkeys]
      exact List.mem_singleton
    · exact List.mem_singleton

theorem TypeScript.encodesField (h : field.Clean) :
    EncodesField "this." field
      (TypeScript.print (TypeScript.encodeField field)) := by
  have hwrites := writesOnly_encodeOptional field.type h.ident
  exact encodesField_of_shows (TypeScript.printsKeys.showsKeys hwrites.calm)
    (TypeScript.printsIdents.showsIdents hwrites.writes) hwrites

end Template
end Recast
