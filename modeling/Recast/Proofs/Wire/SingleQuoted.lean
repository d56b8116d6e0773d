import Recast.Proofs.Wire.Keys

/-!
# What Ruby takes the literals of a class for

Literals are quoted alike for all languages, but Ruby reads a text between
single quotes by rules of its own: a backslash gives way to a backslash or a
quote behind it, and in front of anything else it stands for itself. So the
backslash that quoting puts in front of the letter of a line feed, a carriage
return or a tab stays, and so does the letter.

`shown` is what a key is taken for, in the two methods of every class that is
generated. It is the key itself unless one of these three characters is in it.
-/

namespace Recast

open Scan (isQuote)

/-! ## Reading by the rules of single quotes -/

/-- Where a reader stands: outside of literals, inside one, or there behind a
backslash. What it has read of the literal is kept with the last character
first. -/
inductive SingleReader
  | outside
  | inside (text : List Char)
  | escaped (text : List Char)

/-- The texts of the single-quoted literals that end in the rest of a line, if
there is no other literal and the line does not end inside of one. -/
def singlesFrom : SingleReader → List Char → Option (List String)
  | .outside, [] => some []
  | .inside _, [] | .escaped _, [] => none
  | .outside, c :: rest =>
    if c = '\'' then singlesFrom (.inside []) rest
    else if c = '"' then none
    else singlesFrom .outside rest
  | .inside text, c :: rest =>
    if c = '\\' then singlesFrom (.escaped text) rest
    else if c = '\'' then
      (singlesFrom .outside rest).map (String.ofList text.reverse :: ·)
    else singlesFrom (.inside (c :: text)) rest
  | .escaped text, c :: rest =>
    if c = '\\' ∨ c = '\'' then singlesFrom (.inside (c :: text)) rest
    else singlesFrom (.inside (c :: '\\' :: text)) rest

/-- The texts of all literals of a line of Ruby. -/
def singles? (line : String) : Option (List String) :=
  singlesFrom .outside line.toList

/-! ## What keys are taken for -/

/-- The characters that are quoted with a letter. -/
def isControl (c : Char) : Bool :=
  c == '\n' || c == '\r' || c == '\t'

/-- What a quoted character is read as. -/
def shownChar (c : Char) : List Char :=
  if c = '\n' then ['\\', 'n']
  else if c = '\r' then ['\\', 'r']
  else if c = '\t' then ['\\', 't']
  else [c]

/-- What a quoted key is read as. -/
def shown (key : String) : String :=
  String.ofList (key.toList.flatMap shownChar)

theorem shownChar_of_not_isControl {c : Char} (h : isControl c = false) :
    shownChar c = [c] := by
  simp only [isControl, Bool.or_eq_false_iff, beq_eq_false_iff_ne] at h
  rw [shownChar, if_neg h.1.1, if_neg h.1.2, if_neg h.2]

theorem not_isControl_of_mem_shownChar {c d : Char} (h : d ∈ shownChar c) :
    isControl d = false := by
  rw [shownChar] at h
  split at h
  · simp only [List.mem_cons, List.not_mem_nil, or_false] at h
    rcases h with rfl | rfl <;> rfl
  split at h
  · simp only [List.mem_cons, List.not_mem_nil, or_false] at h
    rcases h with rfl | rfl <;> rfl
  split at h
  · simp only [List.mem_cons, List.not_mem_nil, or_false] at h
    rcases h with rfl | rfl <;> rfl
  · next hfeed hreturn htab =>
      rw [List.mem_singleton.mp h, isControl]
      simp [hfeed, hreturn, htab]

/-- A key is read as itself exactly if no character of it is quoted with a
letter. -/
theorem shown_eq_iff {key : String} :
    shown key = key ↔ ∀ c ∈ key.toList, isControl c = false := by
  constructor
  · intro h c hc
    rw [← h, shown, String.toList_ofList] at hc
    obtain ⟨d, -, hd⟩ := List.mem_flatMap.mp hc
    exact not_isControl_of_mem_shownChar hd
  · intro h
    have hsame : key.toList.flatMap shownChar = key.toList := by
      generalize key.toList = chars at h
      induction chars with
      | nil => rfl
      | cons c chars ih =>
          rw [List.flatMap_cons,
            shownChar_of_not_isControl (h c List.mem_cons_self),
            ih fun d hd => h d (List.mem_cons_of_mem _ hd)]
          rfl
    rw [shown, hsame, String.ofList_toList]

/-! ## Woven texts are read -/

theorem singlesFrom_escapeIn (c : Char) (read rest : List Char) :
    singlesFrom (.inside read) (Text.escapeIn '\'' c ++ rest)
      = singlesFrom (.inside ((shownChar c).reverse ++ read)) rest := by
  rw [Text.escapeIn]
  split
  · next hc => subst hc; rfl
  split
  · next hc => subst hc; rfl
  split
  · next hc => subst hc; rfl
  split
  · next hc => subst hc; rfl
  split
  · next hc => subst hc; rfl
  · next hbackslash hfeed hreturn htab hquote =>
      rw [shownChar, if_neg hfeed, if_neg hreturn, if_neg htab,
        List.cons_append, singlesFrom, if_neg hbackslash, if_neg hquote]
      rfl

theorem singlesFrom_body (text read rest : List Char) :
    singlesFrom (.inside read)
        (text.flatMap (Text.escapeIn '\'') ++ rest)
      = singlesFrom (.inside ((text.flatMap shownChar).reverse ++ read))
          rest := by
  induction text generalizing read with
  | nil => rfl
  | cons c text ih =>
      rw [List.flatMap_cons, List.append_assoc, singlesFrom_escapeIn, ih,
        List.flatMap_cons, List.reverse_append, List.append_assoc]

theorem singlesFrom_literal (key : String) (rest : List Char) :
    singlesFrom .outside ((Text.literal '\'' key).toList ++ rest)
      = (singlesFrom .outside rest).map (shown key :: ·) := by
  rw [Text.literal, String.toList_ofList, Text.literalChars, List.cons_append,
    singlesFrom, if_pos rfl, List.append_assoc, singlesFrom_body,
    List.append_nil, List.cons_append, singlesFrom, if_neg (by decide),
    if_pos rfl, List.reverse_reverse]
  rfl

theorem singlesFrom_calm {text : String} (h : Calm text) (rest : List Char) :
    singlesFrom .outside (text.toList ++ rest) = singlesFrom .outside rest := by
  rw [Calm] at h
  generalize text.toList = chars at h
  induction chars with
  | nil => rfl
  | cons c chars ih =>
      have hc := h c List.mem_cons_self
      rw [isCalm, Bool.and_eq_true, Bool.not_eq_true', isQuote,
        Bool.or_eq_false_iff, decide_eq_false_iff_not,
        decide_eq_false_iff_not] at hc
      rw [List.cons_append, singlesFrom, if_neg hc.2.2, if_neg hc.2.1]
      exact ih fun d hd => h d (List.mem_cons_of_mem _ hd)

variable {text : String} {keys : List String}

theorem Woven.singlesFrom_eq (h : Woven '\'' text keys) :
    ∀ rest, singlesFrom .outside (text.toList ++ rest)
      = (singlesFrom .outside rest).map (keys.map shown ++ ·) := by
  induction h with
  | calm calm =>
      intro rest
      rw [singlesFrom_calm calm]
      simp
  | literal key => exact singlesFrom_literal key
  | append _ _ hs ht =>
      intro rest
      rw [String.toList_append, List.append_assoc, hs, ht, Option.map_map,
        List.map_append]
      congr 1
      funext others
      rw [Function.comp_apply, List.append_assoc]

theorem Woven.singles?_eq (h : Woven '\'' text keys) :
    singles? text = some (keys.map shown) := by
  have hall := h.singlesFrom_eq []
  rw [List.append_nil] at hall
  rw [singles?, hall]
  simp [singlesFrom]

/-! ## The lines of a class -/

namespace Template.Ruby

variable {field : FieldView}

theorem woven_assignment (h : field.Clean) :
    ∃ keys, Woven '\'' (methods.assignment assigned "" field) keys ∧
      keys ≠ [] ∧ ∀ key ∈ keys, key = field.key := by
  obtain ⟨keys, hkeys, hmem⟩ := woven_print (allCalm_decodeField h)
  have hiff : ∀ key, key ∈ keys ↔ key = field.key :=
    fun key => (hmem key).trans (mem_keys_decodeField key)
  have hopening : Calm (methods.target ++ field.ident ++ methods.becomes) :=
    ((calm_words (by decide)).append h.ident.calm).append (calm_words (by decide))
  refine ⟨keys, ?_, List.ne_nil_of_mem ((hiff field.key).mpr rfl),
    fun key hkey => (hiff key).mp hkey⟩
  exact ((Woven.calm hopening).append hkeys).words (by decide)

theorem woven_storage (h : field.Clean) :
    Woven '\'' (methods.storage '\'' stored "" field) [field.key] := by
  have hwrites := Conversion.writesOnly_encodeOptional field.type h.ident
  obtain ⟨keys, hkeys, hmem⟩ := woven_print hwrites.calm
  have hnone : keys = [] := by
    refine List.eq_nil_iff_forall_not_mem.mpr fun key hkey => ?_
    rw [hmem, hwrites.keys_eq] at hkey
    cases hkey
  subst hnone
  have hentry : Woven '\'' (methods.entry ++ Text.literal '\'' field.key)
      [field.key] := (Woven.literal field.key).after_words (by decide)
  exact ((hentry.words (by decide)).append hkeys).words (by decide)

end Template.Ruby

/-- The lines of a class in Ruby that decode and encode its attributes, each
with literals for what is shown of the key: one or more where it is decoded,
and one where it is encoded. -/
structure SourceFile.ShowsKeys (shape : ClassShape) (file : SourceFile) :
    Prop where
  decode : List.Forall₂ (fun attr line => ∃ texts, singles? line = some texts ∧
      texts ≠ [] ∧ ∀ text ∈ texts, text = shown attr.key) shape.attributes
    ((Template.Ruby.methods.decode file.className).within (lines file.text))
  encode : List.Forall₂ (fun attr line => singles? line = some [shown attr.key])
    shape.attributes (Template.Ruby.methods.encode.within (lines file.text))

namespace Schema

/-- A literal for a key is read as what is shown of the key, which is the key
itself unless a line feed, a carriage return or a tab is in it. Every class
that is generated in Ruby over the names of a schema has such literals, and no
others, where it decodes and encodes its attributes. -/
theorem emit_showsKeys {schema : Schema} {lenient : Bool} {table : NameTable}
    {shapes : List ClassShape} {files : List SourceFile}
    (htable : (NameTable.resolve schema .ruby lenient).outcome = .ok table)
    (hfiles : (emit .ruby table shapes).outcome = .ok files) :
    (∀ key, singles? (Template.Ruby.quote key) = some [shown key] ∧
      (shown key = key ↔ ∀ c ∈ key.toList, isControl c = false)) ∧
    List.Forall₂ SourceFile.ShowsKeys shapes files := by
  refine ⟨fun key => ⟨(Woven.literal key).singles?_eq, shown_eq_iff⟩, ?_⟩
  refine (emit_eq_ok.mp hfiles).imp fun shape file => ?_
  rintro ⟨view, hview, rfl⟩
  have hclean : view.Clean :=
    ClassView.clean_of_ofShape (NameTable.wordlike_get htable) hview
  have hfields : List.Forall₂
      (fun attr field => field.Clean ∧ field.key = attr.key)
      shape.attributes view.fields :=
    ((List.forall₂_and_left _ _).mpr
      ⟨hclean.fields, (ClassView.forall₂_key hview).flip⟩).flip
  constructor
  · change List.Forall₂ _ _ ((Template.Ruby.methods.decode view.className).within
      (lines (Template.ruby.render false view)))
    rw [Template.Ruby.decode_within hclean, List.forall₂_map_right_iff]
    refine hfields.imp fun attr field hfield => ?_
    obtain ⟨keys, hwoven, hne, hsame⟩ := Template.Ruby.woven_assignment hfield.1
    refine ⟨_, hwoven.singles?_eq, by simpa using hne, fun text htext => ?_⟩
    obtain ⟨key, hmem, rfl⟩ := List.mem_map.mp htext
    rw [hsame key hmem, hfield.2]
  · change List.Forall₂ _ _ (Template.Ruby.methods.encode.within
      (lines (Template.ruby.render false view)))
    rw [Template.Ruby.encode_within hclean, List.forall₂_map_right_iff]
    refine hfields.imp fun attr field hfield => ?_
    rw [(Template.Ruby.woven_storage hfield.1).singles?_eq, List.map_singleton,
      hfield.2]

theorem emit_showsKeys_chart :
    ∃ table files,
      (NameTable.resolve gridSchema .ruby true).outcome = .ok table ∧
      (emit .ruby table [chartShape]).outcome = .ok files ∧
      (∀ key, singles? (Template.Ruby.quote key) = some [shown key] ∧
        (shown key = key ↔ ∀ c ∈ key.toList, isControl c = false)) ∧
      List.Forall₂ SourceFile.ShowsKeys [chartShape] files := by
  obtain ⟨entries, hentries⟩ := NameTable.nameClasses_lenient_ok .ruby []
    (by decide :
      ∀ shape ∈ gridSchema.classes, Name.usable shape.key = true)
  have htable : (NameTable.resolve gridSchema .ruby true).outcome
      = .ok ⟨entries⟩ := NameTable.resolve_eq_ok.mpr hentries
  obtain ⟨files, hfiles⟩ := @emit_ok [chartShape] .ruby ⟨entries⟩
    fun shape hshape => by
      rw [List.mem_singleton.mp hshape]
      exact ⟨by decide, by decide⟩
  exact ⟨⟨entries⟩, files, htable, hfiles, emit_showsKeys htable hfiles⟩

end Schema

/-- A line feed in a key is not read back. -/
theorem singles?_quote_lineFeed :
    singles? (Template.Ruby.quote "a\nb") = some ["a\\nb"] ∧
    ¬ ∀ key, singles? (Template.Ruby.quote key) = some [key] := by
  have hread : singles? (Template.Ruby.quote "a\nb") = some ["a\\nb"] := by
    decide
  refine ⟨hread, fun hall => ?_⟩
  rw [hall "a\nb"] at hread
  exact absurd hread (by decide)

end Recast
