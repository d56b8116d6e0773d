import Mathlib.Data.List.Forall2
import Recast.Json.Decode
import Recast.Json.Printer
import Recast.Proofs.Json.Strings

/-!
# A printed value is read back

The printer lays a value out over lines, and the reader must take from the
front of the text exactly what the printer has written for it, whatever
follows. This is said once of a reader and a piece of text, and goes from the
lines of an array or object to the array or object itself: between two lines
stand a comma and white space, and behind the last one white space and the
bracket. The reader's bound on the number of elements is the length of the
text, and no line is empty.

Values without numbers are covered. A number is the only value whose end is not
part of it.
-/

namespace Recast.Json

variable {α : Type} {c : Char} {gap last text rest s : List Char}
  {key : String} {value : Json} {item : Reader Json} {fuel count depth : Nat}

/-! ## White space -/

/-- A text of white space. -/
def Blank (gap : List Char) : Prop :=
  ∀ c ∈ gap, isSpace c = true

theorem skipSpace_blank (h : Blank gap) : skipSpace (gap ++ s) = skipSpace s :=
  List.dropWhile_append_of_pos h

theorem skipSpace_cons (h : isSpace c = false) : skipSpace (c :: s) = c :: s :=
  List.dropWhile_cons_of_neg (by simp [h])

/-- The break in front of a line at a level. -/
def lineBreak (level : Nat) : List Char :=
  '\n' :: List.replicate (2 * level) ' '

theorem blank_lineBreak (level : Nat) : Blank (lineBreak level) := by
  intro c hc
  rcases List.mem_cons.mp hc with rfl | hspace
  · rfl
  · rw [List.eq_of_mem_replicate hspace]
    rfl

/-! ## Readers -/

/-- A reader takes a text from the front of any other and gives what it stands
for. The text does not begin like white space or the end of a list. -/
structure Takes (reader : Reader α) (text : List Char) (a : α) : Prop where
  reads : ∀ rest, reader (text ++ rest) = .ok (a, rest)
  opens : ∃ c others, text = c :: others ∧ isSpace c = false ∧ c ≠ ']' ∧ c ≠ '\x7d'

theorem Takes.skipSpace_eq {reader : Reader α} {a : α} (h : Takes reader text a)
    (hgap : Blank gap) : skipSpace (gap ++ (text ++ rest)) = text ++ rest := by
  obtain ⟨c, others, rfl, hc, -, -⟩ := h.opens
  rw [skipSpace_blank hgap]
  exact skipSpace_cons hc

theorem Takes.of_opening {reader : Reader α} {a : α} (c : Char)
    (hopens : isSpace c = false ∧ c ≠ ']' ∧ c ≠ '\x7d')
    (h : ∀ rest, ∃ inner, text ++ rest = c :: inner ∧
      reader (c :: inner) = .ok (a, rest)) : Takes reader text a := by
  constructor
  · intro rest
    obtain ⟨inner, hinner, hread⟩ := h rest
    rw [hinner, hread]
  · obtain ⟨inner, hinner, -⟩ := h []
    rw [List.append_nil] at hinner
    exact ⟨c, inner, hinner, hopens⟩

/-! ## Arrays -/

theorem readItems_close (hs : skipSpace s = ']' :: rest) :
    readItems item (fuel + 1) count s = .ok ([], rest) := by
  rw [readItems, hs]
  rfl

theorem readItems_first (h : Takes item text value)
    (hs : skipSpace s = text ++ rest) :
    readItems item (fuel + 1) 0 s
      = (readItems item fuel 1 rest).map fun (items, s) => (value :: items, s) := by
  have hread := h.reads rest
  obtain ⟨c, others, rfl, -, hclose, -⟩ := h.opens
  rw [readItems, hs]
  simp only [List.cons_append, hclose, if_true, if_false] at hread ⊢
  rw [hread]

theorem readItems_next (h : Takes item text value) {t : List Char}
    (hs : skipSpace s = ',' :: t) (ht : skipSpace t = text ++ rest) :
    readItems item (fuel + 1) (count + 1) s
      = (readItems item fuel (count + 2) rest).map
          fun (items, s) => (value :: items, s) := by
  have hread := h.reads rest
  obtain ⟨c, others, rfl, -, hclose, -⟩ := h.opens
  rw [readItems, hs]
  simp only [ht]
  simp only [List.cons_append, hclose, if_true, if_false] at hread ⊢
  rw [hread]
  rfl

/-- The lines behind the first one. -/
def restLines (gap : List Char) (lines : List (List Char)) : List Char :=
  lines.flatMap fun line => ',' :: (gap ++ line)

theorem restLines_cons (line : List Char) (lines : List (List Char)) :
    restLines gap (line :: lines)
      = ',' :: (gap ++ (line ++ restLines gap lines)) := by
  rw [restLines, List.flatMap_cons, List.cons_append, List.append_assoc, restLines]

theorem length_le_restLines (lines : List (List Char)) :
    lines.length ≤ (restLines gap lines).length := by
  induction lines with
  | nil => exact Nat.le_refl 0
  | cons line lines ih =>
      simp only [restLines_cons, List.length_cons, List.length_append]
      omega

/-- A block has more than one character for each line after its first. -/
theorem length_lt_layout (gap first last rest : List Char) (closing : Char)
    (lines : List (List Char)) :
    lines.length < (gap ++ (first
      ++ (restLines gap lines ++ (last ++ closing :: rest)))).length := by
  have hlines : lines.length ≤ (restLines gap lines).length :=
    length_le_restLines lines
  simp only [List.length_append, List.length_cons]
  omega

theorem readItems_rest {items : List Json} {lines : List (List Char)}
    (h : List.Forall₂ (fun value line => Takes item line value) items lines)
    (hgap : Blank gap) (hlast : Blank last) (hfuel : items.length < fuel) :
    readItems item fuel (count + 1) (restLines gap lines ++ (last ++ ']' :: rest))
      = .ok (items, rest) := by
  induction h generalizing count fuel with
  | nil =>
      obtain ⟨fuel, rfl⟩ := Nat.exists_eq_add_of_lt hfuel
      rw [restLines, List.flatMap_nil, List.nil_append]
      exact readItems_close ((skipSpace_blank hlast).trans (skipSpace_cons rfl))
  | @cons value line items lines hline _ ih =>
      obtain ⟨fuel, rfl⟩ : ∃ n, fuel = n + 1 :=
        ⟨fuel - 1, by rw [List.length_cons] at hfuel; omega⟩
      rw [List.length_cons] at hfuel
      have htail : readItems item fuel (count + 2)
          (restLines gap lines ++ (last ++ ']' :: rest)) = .ok (items, rest) :=
        ih (by omega)
      rw [restLines_cons, List.cons_append, List.append_assoc, List.append_assoc]
      rw [readItems_next hline (skipSpace_cons rfl) (hline.skipSpace_eq hgap), htail]
      rfl

/-! ## Objects -/

theorem setField_append {fields : List (String × Json)}
    (h : key ∉ fields.map Prod.fst) :
    setField key value fields = fields ++ [(key, value)] := by
  induction fields with
  | nil => rfl
  | cons field fields ih =>
      obtain ⟨k, v⟩ := field
      rw [List.map_cons, List.mem_cons, not_or] at h
      rw [setField, if_neg (Ne.symm h.1), ih h.2, List.cons_append]

/-- A field is taken where its value is, whatever space is in front of it. -/
theorem takes_field (h : Takes item text value)
    (hspace : ∀ s, item (' ' :: s) = item s) (key : String) :
    Takes (readField item) ((quoted key).toList ++ (": ".toList ++ text))
      (key, value) := by
  refine .of_opening '"' (by decide) fun rest =>
    ⟨_, by rw [toList_quoted, List.cons_append, List.cons_append], ?_⟩
  have hcolon : readColon (':' :: ' ' :: (text ++ rest)) = .ok (' ' :: (text ++ rest)) := by
    rw [readColon, skipSpace_cons rfl]
    rfl
  have hstring : readString ((key.toList.flatMap escapeChar ++ ['"'])
      ++ (": ".toList ++ text) ++ rest)
        = .ok (key.toList, ':' :: ' ' :: (text ++ rest)) := by
    rw [List.append_assoc, List.append_assoc]
    exact readString_body key.toList _
  rw [readField]
  simp only [hstring, hcolon, hspace, h.reads, String.ofList_toList]

theorem readFields_close {fields : List (String × Json)} {first : Bool}
    (hs : skipSpace s = '\x7d' :: rest) :
    readFields item (fuel + 1) fields first s = .ok (fields, rest) := by
  rw [readFields, hs]
  rfl

theorem readFields_first {fields : List (String × Json)}
    (h : Takes (readField item) text (key, value))
    (hs : skipSpace s = text ++ rest) :
    readFields item (fuel + 1) fields true s
      = readFields item fuel (setField key value fields) false rest := by
  have hread := h.reads rest
  obtain ⟨c, others, rfl, -, -, hclose⟩ := h.opens
  rw [readFields, hs]
  simp only [List.cons_append, hclose, if_true, if_false] at hread ⊢
  rw [hread]

theorem readFields_next {fields : List (String × Json)}
    (h : Takes (readField item) text (key, value)) {t : List Char}
    (hs : skipSpace s = ',' :: t) (ht : skipSpace t = text ++ rest) :
    readFields item (fuel + 1) fields false s
      = readFields item fuel (setField key value fields) false rest := by
  have hread := h.reads rest
  obtain ⟨c, others, rfl, -, -, hclose⟩ := h.opens
  rw [readFields, hs]
  simp only [ht]
  simp only [List.cons_append, hclose, if_true, if_false] at hread ⊢
  rw [hread]
  rfl

theorem readFields_rest {fields more : List (String × Json)}
    {lines : List (List Char)}
    (h : List.Forall₂ (fun field line => Takes (readField item) line field)
      more lines)
    (hdistinct : ((fields ++ more).map Prod.fst).Nodup)
    (hgap : Blank gap) (hlast : Blank last) (hfuel : more.length < fuel) :
    readFields item fuel fields false
        (restLines gap lines ++ (last ++ '\x7d' :: rest))
      = .ok (fields ++ more, rest) := by
  induction h generalizing fields fuel with
  | nil =>
      obtain ⟨fuel, rfl⟩ := Nat.exists_eq_add_of_lt hfuel
      rw [restLines, List.flatMap_nil, List.nil_append, List.append_nil]
      exact readFields_close ((skipSpace_blank hlast).trans (skipSpace_cons rfl))
  | @cons field line more lines hline _ ih =>
      obtain ⟨key, value⟩ := field
      obtain ⟨fuel, rfl⟩ : ∃ n, fuel = n + 1 :=
        ⟨fuel - 1, by rw [List.length_cons] at hfuel; omega⟩
      rw [List.length_cons] at hfuel
      have hfresh : key ∉ fields.map Prod.fst := by
        rw [List.map_append, List.map_cons] at hdistinct
        intro hmem
        exact (List.nodup_append.mp hdistinct).2.2 key hmem key List.mem_cons_self rfl
      rw [List.append_cons] at hdistinct
      rw [List.append_cons fields, restLines_cons, List.cons_append,
        List.append_assoc, List.append_assoc]
      rw [readFields_next hline (skipSpace_cons rfl) (hline.skipSpace_eq hgap),
        setField_append hfresh]
      exact ih hdistinct (by omega)

/-! ## Blocks -/

theorem intercalate_lines (margin line : List Char) (lines : List (List Char)) :
    [',', '\n'].intercalate ((line :: lines).map (margin ++ ·))
      = margin ++ (line ++ restLines ('\n' :: margin) lines) := by
  induction lines generalizing line with
  | nil =>
      rw [List.map_singleton, List.intercalate_singleton, restLines,
        List.flatMap_nil, List.append_nil]
  | cons next lines ih =>
      rw [List.map_cons, List.map_cons, List.intercalate_cons_cons,
        ← List.map_cons, ih, restLines_cons]
      simp only [List.append_assoc, List.cons_append, List.nil_append]

theorem toList_margin (level : Nat) :
    (margin level).toList = List.replicate (2 * level) ' ' :=
  String.toList_ofList

/-- Lines between two brackets, character by character. -/
theorem toList_block (opening closing line : String) (level : Nat)
    (lines : List String) :
    (block opening closing level (line :: lines)).toList
      = opening.toList ++ (lineBreak (level + 1) ++ (line.toList
        ++ (restLines (lineBreak (level + 1)) (lines.map String.toList)
          ++ (lineBreak level ++ closing.toList)))) := by
  have hjoin : (",\n".intercalate
      ((line :: lines).map (margin (level + 1) ++ ·))).toList
        = [',', '\n'].intercalate (((line :: lines).map String.toList).map
          (List.replicate (2 * (level + 1)) ' ' ++ ·)) := by
    rw [String.toList_intercalate, List.map_map, List.map_map]
    refine congrArg [',', '\n'].intercalate (List.map_congr_left fun line _ => ?_)
    simp only [Function.comp_apply, String.toList_append, toList_margin]
  rw [block, if_neg (by simp)]
  simp only [String.toList_append, hjoin, toList_margin, List.map_cons (f := String.toList),
    intercalate_lines, lineBreak]
  simp only [List.append_assoc, List.cons_append]
  rfl

theorem readItems_block {items : List Json} {lines : List String}
    (h : List.Forall₂ (fun value line => Takes item line.toList value) items
      lines) (level : Nat) (rest : List Char) :
    ∃ inner, (block "[" "]" level lines).toList ++ rest = '[' :: inner ∧
      readItems item (inner.length + 1) 0 inner = .ok (items, rest) := by
  cases h with
  | nil =>
      exact ⟨']' :: rest, by simp [block], readItems_close (skipSpace_cons rfl)⟩
  | @cons value line items lines hline hlines =>
      have hrest : List.Forall₂ (fun value line => Takes item line value) items
          (lines.map String.toList) := List.forall₂_map_right_iff.mpr hlines
      refine ⟨lineBreak (level + 1) ++ (line.toList
        ++ (restLines (lineBreak (level + 1)) (lines.map String.toList)
          ++ (lineBreak level ++ ']' :: rest))), ?_, ?_⟩
      · simp [toList_block]
      · rw [readItems_first hline (hline.skipSpace_eq (blank_lineBreak _)),
          readItems_rest hrest (blank_lineBreak _) (blank_lineBreak _)]
        · rfl
        · rw [hrest.length_eq]
          exact length_lt_layout _ _ _ _ _ _

theorem readFields_block {fields : List (String × Json)} {lines : List String}
    (h : List.Forall₂ (fun field line => Takes (readField item) line.toList field)
      fields lines) (hdistinct : (fields.map Prod.fst).Nodup) (level : Nat)
    (rest : List Char) :
    ∃ inner, (block "\x7b" "\x7d" level lines).toList ++ rest = '\x7b' :: inner ∧
      readFields item (inner.length + 1) [] true inner = .ok (fields, rest) := by
  cases h with
  | nil =>
      exact ⟨'\x7d' :: rest, by simp [block], readFields_close (skipSpace_cons rfl)⟩
  | @cons field line fields lines hline hlines =>
      obtain ⟨key, value⟩ := field
      have hrest : List.Forall₂ (fun field line => Takes (readField item) line field)
          fields (lines.map String.toList) := List.forall₂_map_right_iff.mpr hlines
      refine ⟨lineBreak (level + 1) ++ (line.toList
        ++ (restLines (lineBreak (level + 1)) (lines.map String.toList)
          ++ (lineBreak level ++ '\x7d' :: rest))), ?_, ?_⟩
      · simp [toList_block]
      · rw [readFields_first hline (hline.skipSpace_eq (blank_lineBreak _)),
          setField, readFields_rest hrest hdistinct (blank_lineBreak _)
            (blank_lineBreak _)]
        · rfl
        · rw [hrest.length_eq]
          exact length_lt_layout _ _ _ _ _ _

/-! ## Values -/

/-- A value without numbers, whose objects repeat no key, and that is nested at
most so deep. -/
inductive Legible : Nat → Json → Prop
  | null {depth : Nat} : Legible depth .null
  | boolean {depth : Nat} (value : Bool) : Legible depth (.boolean value)
  | string {depth : Nat} (value : String) : Legible depth (.string value)
  | array {depth : Nat} {items : List Json}
    (inner : ∀ item ∈ items, Legible depth item) :
    Legible (depth + 1) (.array items)
  | object {depth : Nat} {fields : List (String × Json)}
    (distinct : (fields.map Prod.fst).Nodup)
    (inner : ∀ field ∈ fields, Legible depth field.2) :
    Legible (depth + 1) (.object fields)

theorem printItems_eq (level : Nat) (items : List Json) :
    printItems level items = items.map (printAt level) := by
  induction items with
  | nil => rw [printItems, List.map_nil]
  | cons item items ih => rw [printItems, ih, List.map_cons]

theorem printFields_eq (level : Nat) (fields : List (String × Json)) :
    printFields level fields
      = fields.map fun field => quoted field.1 ++ ": " ++ printAt level field.2 := by
  induction fields with
  | nil => rw [printFields, List.map_nil]
  | cons field fields ih => rw [printFields, ih, List.map_cons]

theorem readValue_space (depth : Nat) (s : List Char) :
    readValue depth (' ' :: s) = readValue depth s := by
  rw [readValue, readValue]
  rfl

theorem readValue_string (s : List Char) :
    readValue depth ('"' :: s)
      = (readString s).map fun (text, s) => (.string (String.ofList text), s) := by
  rw [readValue, skipSpace_cons rfl]
  rfl

theorem readValue_array (s : List Char) :
    readValue (depth + 1) ('[' :: s)
      = (readItems (readValue depth) (s.length + 1) 0 s).map
          fun (items, s) => (.array items, s) := by
  rw [readValue, skipSpace_cons rfl]
  rfl

theorem readValue_object (s : List Char) :
    readValue (depth + 1) ('\x7b' :: s)
      = (readFields (readValue depth) (s.length + 1) [] true s).map
          fun (fields, s) => (.object fields, s) := by
  rw [readValue, skipSpace_cons rfl]
  rfl

theorem takes_quoted (value : String) :
    Takes (readValue depth) (quoted value).toList (.string value) := by
  refine .of_opening '"' (by decide) fun rest =>
    ⟨_, by rw [toList_quoted, List.cons_append], ?_⟩
  rw [List.append_assoc, readValue_string, List.singleton_append, readString_body]
  show Except.ok (Json.string (String.ofList value.toList), rest) = _
  rw [String.ofList_toList]

/-- What is printed is taken, at every level and with anything behind it. -/
theorem takes_printAt {value : Json} (h : Legible depth value) (level : Nat) :
    Takes (readValue depth) (printAt level value).toList value := by
  induction h generalizing level with
  | null =>
      rw [printAt]
      refine .of_opening 'n' (by decide) fun rest => ⟨_, rfl, ?_⟩
      rw [readValue.eq_def]
      rfl
  | boolean value =>
      rw [printAt]
      cases value with
      | true =>
          refine .of_opening 't' (by decide) fun rest => ⟨_, rfl, ?_⟩
          rw [readValue.eq_def]
          rfl
      | false =>
          refine .of_opening 'f' (by decide) fun rest => ⟨_, rfl, ?_⟩
          rw [readValue.eq_def]
          rfl
  | string value =>
      rw [printAt]
      exact takes_quoted value
  | @array depth items inner ih =>
      have hlines : List.Forall₂ (fun value line =>
          Takes (readValue depth) line.toList value) items
          (printItems (level + 1) items) := by
        rw [printItems_eq, List.forall₂_map_right_iff, List.forall₂_same]
        exact fun item hitem => ih item hitem (level + 1)
      rw [printAt]
      refine .of_opening '[' (by decide) fun rest => ?_
      obtain ⟨text, htext, hread⟩ := readItems_block hlines level rest
      refine ⟨text, htext, ?_⟩
      rw [readValue_array, hread]
      rfl
  | @object depth fields distinct inner ih =>
      have hlines : List.Forall₂ (fun field line =>
          Takes (readField (readValue depth)) line.toList field) fields
          (printFields (level + 1) fields) := by
        rw [printFields_eq, List.forall₂_map_right_iff, List.forall₂_same]
        intro field hfield
        rw [String.toList_append, String.toList_append, List.append_assoc]
        exact takes_field (ih field hfield (level + 1)) (readValue_space depth)
          field.1
      rw [printAt]
      refine .of_opening '\x7b' (by decide) fun rest => ?_
      obtain ⟨text, htext, hread⟩ := readFields_block hlines distinct level rest
      refine ⟨text, htext, ?_⟩
      rw [readValue_object, hread]
      rfl

/-! ## Documents -/

/-- A printed document, and white space behind it, is read as the value. -/
theorem readDocument_print {value : Json} (h : Legible depthLimit value)
    (hgap : Blank gap) :
    readDocument ((print value).toList ++ gap) = .ok value := by
  have hend : skipSpace gap = [] := by
    rw [← List.append_nil gap, skipSpace_blank hgap]
    rfl
  rw [readDocument, print, (takes_printAt h 0).reads gap]
  simp only [hend]

end Recast.Json
