import Recast.Proofs.Wire.Fields
import Recast.Proofs.Wire.Methods

/-!
# What is written for a field is read back

What a language writes around identifiers, literals and values is calm, does not
look like the line that closes a passage and ends the names before it. This is
said here once for all languages. It is enough for the lines of a method to be
read back as they are meant, and for the declarations of a class as well, once
it is known where they stand.
-/

namespace Recast

open Name (Wordlike)

/-! ## Texts that begin otherwise -/

theorem isPrefixOf_append_self (words t : String) :
    words.toList.isPrefixOf (words ++ t).toList = true := by
  rw [List.isPrefixOf_iff_prefix, String.toList_append]
  exact List.prefix_append _ _

/-- Words that do not begin with each other begin no common text. -/
theorem not_isPrefixOf_append {first second : String}
    (h : first.toList.isPrefixOf second.toList = false)
    (h' : second.toList.isPrefixOf first.toList = false) (t : String) :
    first.toList.isPrefixOf (second ++ t).toList = false := by
  rw [← Bool.not_eq_true, List.isPrefixOf_iff_prefix] at h h' ⊢
  rw [String.toList_append]
  intro hprefix
  exact (List.prefix_or_prefix_of_prefix hprefix
    (List.prefix_append _ _)).elim h h'

theorem append_ne {words line : String}
    (h : words.toList.isPrefixOf line.toList = false) (t : String) :
    words ++ t ≠ line := by
  rintro rfl
  exact Bool.noConfusion (h.symm.trans (isPrefixOf_append_self words t))

theorem append_ne_append {first second : String}
    (h : first.toList.isPrefixOf second.toList = false)
    (h' : second.toList.isPrefixOf first.toList = false) (s t : String) :
    first ++ s ≠ second ++ t :=
  append_ne (not_isPrefixOf_append h h' t) s

variable {field : FieldView} {text s t : String}

theorem DecodesField.around (h : DecodesField field text) (hs : Calm s)
    (ht : Calm t) : DecodesField field (s ++ text ++ t) := by
  obtain ⟨keys, hspelled, hkeys⟩ := h.spelled
  exact ⟨keys, (hs.spelled.append hspelled).calm ht, hkeys⟩

/-! ## Methods -/

namespace MapMethods

/-- The line that assigns a value to a field. -/
def assignment (methods : MapMethods) (value : FieldView → String)
    (ending : String) (field : FieldView) : String :=
  methods.target ++ field.ident ++ methods.becomes ++ value field ++ ending

/-- The line that stores a value under the key of a field. -/
def storage (methods : MapMethods) (delimiter : Char)
    (value : FieldView → String) (ending : String) (field : FieldView) : String :=
  methods.entry ++ Text.literal delimiter field.key ++ methods.holds ++
    value field ++ ending

/-- What is written around the parts of a line, and around the lines, can be
told from them. -/
structure Regular (methods : MapMethods) (className : String) : Prop where
  target : Calm methods.target
  becomes : Calm methods.becomes
  entry : Calm methods.entry
  holds : Calm methods.holds
  decode : (methods.decode className).OneLine
  encode : methods.encode.OneLine
  decode_apart :
    (methods.decode className).second ≠ (methods.decode className).first
  encode_apart : methods.encode.second ≠ methods.encode.first
  target_apart :
    methods.target.toList.isPrefixOf (methods.decode className).closing.toList
      = false
  entry_apart :
    methods.entry.toList.isPrefixOf methods.encode.closing.toList = false

variable {methods : MapMethods} {value : FieldView → String} {ending : String}
  {delimiter : Char} {className : String} {fields : List FieldView}
  {above : String}

theorem Regular.decodesField_assignment (h : methods.Regular className)
    (hident : Wordlike field.ident) (hvalue : DecodesField field (value field))
    (hending : Calm ending) :
    DecodesField field (methods.assignment value ending field) :=
  hvalue.around ((h.target.append hident.calm).append h.becomes) hending

theorem Regular.assigns (h : methods.Regular className) (hident : Wordlike field.ident)
    (hvalue : DecodesField field (value field)) (hending : Calm ending) :
    methods.Assigns field (methods.assignment value ending field) := by
  obtain ⟨keys, hspelled, hkeys⟩ :=
    (h.decodesField_assignment hident hvalue hending).spelled
  refine ⟨⟨value field ++ ending, ?_⟩, keys, hspelled.literals?_eq, hkeys⟩
  rw [assignment, String.append_assoc]

theorem Regular.spelled_storage (h : methods.Regular className)
    (hdelimiter : Scan.isQuote delimiter = true)
    (hvalue : EncodesField methods.mark field (value field))
    (hending : Calm ending) :
    Spelled (methods.storage delimiter value ending field) [field.key] := by
  have hstored := ((h.entry.spelled.append
    (spelled_literal hdelimiter field.key)).calm h.holds).append hvalue.spelled
  exact hstored.calm hending

theorem Regular.stores (h : methods.Regular className)
    (hdelimiter : Scan.isQuote delimiter = true)
    (hvalue : EncodesField methods.mark field (value field))
    (hending : Calm ending)
    (hcloses : ending = "" ∨ silent methods.mark ending = true) :
    methods.Stores field (methods.storage delimiter value ending field) := by
  obtain ⟨names, hnames, hsome, hall⟩ := hvalue.mentions
  have haccesses : accesses methods.mark (value field ++ ending) = names := by
    rcases hcloses with rfl | hsilent
    · rw [String.append_empty]
      exact hnames.accesses_eq
    · exact (hnames.close hsilent).mentions.accesses_eq
  refine ⟨⟨delimiter, value field ++ ending, ?_, ?_, ?_⟩,
    (h.spelled_storage hdelimiter hvalue hending).literals?_eq⟩
  · rw [storage, String.append_assoc]
  · rw [haccesses]
    exact hsome
  · rw [haccesses]
    exact hall

theorem Regular.decode_within (h : methods.Regular className)
    (hident : ∀ field ∈ fields, Wordlike field.ident)
    (hvalue : ∀ field ∈ fields, DecodesField field (value field))
    (hending : Calm ending)
    (hstands : (methods.decode className).StandsIn text above
      (fields.map (methods.assignment value ending)))
    (habove : (methods.decode className).second ∉ lines above) :
    (methods.decode className).within (lines text)
      = fields.map (methods.assignment value ending) := by
  refine hstands.within_lines h.decode (.inr ⟨habove, h.decode_apart⟩) ?_
  intro line hline
  obtain ⟨field, hfield, rfl⟩ := List.mem_map.mp hline
  obtain ⟨keys, hspelled, -⟩ := (h.decodesField_assignment
    (hident field hfield) (hvalue field hfield) hending).spelled
  refine ⟨hspelled.oneLine, ?_⟩
  simp only [assignment, String.append_assoc]
  exact append_ne h.target_apart _

/-- The lines that decode are found and assign to their fields. -/
theorem Regular.decode_keeps (h : methods.Regular className)
    (hident : ∀ field ∈ fields, Wordlike field.ident)
    (hvalue : ∀ field ∈ fields, DecodesField field (value field))
    (hending : Calm ending)
    (hstands : (methods.decode className).StandsIn text above
      (fields.map (methods.assignment value ending)))
    (habove : (methods.decode className).second ∉ lines above) :
    List.Forall₂ methods.Assigns fields
      ((methods.decode className).within (lines text)) := by
  rw [h.decode_within hident hvalue hending hstands habove,
    List.forall₂_map_right_iff, List.forall₂_same]
  exact fun field hfield =>
    h.assigns (hident field hfield) (hvalue field hfield) hending

theorem Regular.encode_within (h : methods.Regular className)
    (hdelimiter : Scan.isQuote delimiter = true)
    (hvalue : ∀ field ∈ fields, EncodesField methods.mark field (value field))
    (hending : Calm ending)
    (hstands : methods.encode.StandsIn text above
      (fields.map (methods.storage delimiter value ending)))
    (habove : methods.encode.second ∉ lines above) :
    methods.encode.within (lines text)
      = fields.map (methods.storage delimiter value ending) := by
  refine hstands.within_lines h.encode (.inr ⟨habove, h.encode_apart⟩) ?_
  intro line hline
  obtain ⟨field, hfield, rfl⟩ := List.mem_map.mp hline
  have hspelled := h.spelled_storage hdelimiter (hvalue field hfield) hending
  refine ⟨hspelled.oneLine, ?_⟩
  simp only [storage, String.append_assoc]
  exact append_ne h.entry_apart _

/-- The lines that encode are found and store their fields. -/
theorem Regular.encode_keeps (h : methods.Regular className)
    (hdelimiter : Scan.isQuote delimiter = true)
    (hvalue : ∀ field ∈ fields, EncodesField methods.mark field (value field))
    (hending : Calm ending)
    (hcloses : ending = "" ∨ silent methods.mark ending = true)
    (hstands : methods.encode.StandsIn text above
      (fields.map (methods.storage delimiter value ending)))
    (habove : methods.encode.second ∉ lines above) :
    List.Forall₂ methods.Stores fields (methods.encode.within (lines text)) := by
  rw [h.encode_within hdelimiter hvalue hending hstands habove,
    List.forall₂_map_right_iff, List.forall₂_same]
  exact fun field hfield =>
    h.stores hdelimiter (hvalue field hfield) hending hcloses

end MapMethods

/-! ## Declarations -/

namespace Declarations

/-- The lines that declare a field, the annotation first if it is renamed. -/
def declaration (declarations : Declarations)
    (renames declares : FieldView → String) (field : FieldView) : List String :=
  (if field.renamed then [declarations.marker ++ renames field] else []) ++
    [declares field]

variable {declarations : Declarations} {renames declares : FieldView → String}
  {className : String} {fields : List FieldView} {above : String}

theorem wireNames_declaration (h : field.Clean)
    (hrenames : literals? (declarations.marker ++ renames field)
      = some [field.key])
    (hdeclares : declarations.marker.toList.isPrefixOf
      (declares field).toList = false)
    (hident : declarations.identOf (declares field) = field.ident)
    (rest : List String) :
    declarations.wireNames none
        (declarations.declaration renames declares field ++ rest)
      = (field.ident, field.key) :: declarations.wireNames none rest := by
  have hrenamed := h.renamed
  rw [declaration]
  cases hcase : field.renamed with
  | true =>
      simp [wireNames, hrenames, hdeclares, hident]
  | false =>
      rw [hcase] at hrenamed
      have hsame : field.ident = field.key := by simpa using hrenamed
      simp [wireNames, hdeclares, hident, hsame]

/-- The declarations of the fields are found and name their keys. -/
theorem keepKeys_of_standsIn
    (hclean : ∀ field ∈ fields, field.Clean)
    (hrenames : ∀ field ∈ fields,
      Spelled (declarations.marker ++ renames field) [field.key])
    (hdeclares : ∀ field ∈ fields, '\n' ∉ (declares field).toList ∧
      declarations.marker.toList.isPrefixOf (declares field).toList = false ∧
      declares field ≠ (declarations.passage className).closing ∧
      declarations.identOf (declares field) = field.ident)
    (hone : (declarations.passage className).OneLine)
    (hclosing : declarations.marker.toList.isPrefixOf
      (declarations.passage className).closing.toList = false)
    (hstands : (declarations.passage className).StandsIn text above
      (fields.flatMap (declarations.declaration renames declares)))
    (habove : (declarations.passage className).first ∉ lines above) :
    declarations.KeepKeys className fields (lines text) := by
  have hbody : ∀ line ∈
      fields.flatMap (declarations.declaration renames declares),
      '\n' ∉ line.toList ∧ line ≠ (declarations.passage className).closing := by
    intro line hline
    obtain ⟨field, hfield, hmem⟩ := List.mem_flatMap.mp hline
    rcases List.mem_append.mp hmem with hmem | hmem
    · split at hmem
      · rw [List.mem_singleton.mp hmem]
        exact ⟨(hrenames field hfield).oneLine, append_ne hclosing _⟩
      · cases hmem
    · rw [List.mem_singleton.mp hmem]
      obtain ⟨honeLine, -, hapart, -⟩ := hdeclares field hfield
      exact ⟨honeLine, hapart⟩
  rw [KeepKeys, hstands.within_lines hone (.inl habove) hbody]
  clear hstands hbody
  induction fields with
  | nil => rfl
  | cons field fields ih =>
      rw [List.forall_mem_cons] at hclean hrenames hdeclares
      obtain ⟨-, hapart, -, hident⟩ := hdeclares.1
      rw [List.flatMap_cons, wireNames_declaration hclean.1
        hrenames.1.literals?_eq hapart hident,
        ih hclean.2 hrenames.2 hdeclares.2]
      rfl

end Declarations
end Recast
