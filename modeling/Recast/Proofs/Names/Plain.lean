import Recast.ClassView

/-!
# Names are made of plain characters

A character is plain if it is an ASCII letter or digit, an underscore, or
lies beyond ASCII. No language gives such a character a meaning of its own: it
opens no literal, no bracket and no comment, ends no line and separates no
words. Everything that a key contributes to a generated text outside of
literals is made of plain characters, and this file says so for each role that
a name can take.

Two facts about the tables carry this. Alphanumeric characters are plain,
which only needs a look at ASCII. And case mapping leads from plain characters
to plain characters: the rows of the tables say where a run of code points is
sent, so it is enough to check the two ends of each row.

Class names and identifiers are better than plain: they hold nothing but
alphanumeric characters and underscores. Modules are not made identifiers
again after they are put in lower case, so plain is all that is said of them.
-/

namespace Recast

namespace Unicode

/-! ## Runs of one category

The tables give categories run by run, so what is to be known of a range of
characters is looked up once. -/

/-- Where one list of rows ends and the next begins. -/
def rowStarts : List Nat :=
  [0x470, 0xAF0, 0x17E0, 0x1F40, 0x2DB0, 0xA830, 0x10940, 0x11A50, 0x1E140]

/-- Do the code points from the first to the last share a row, and is it one of
the category? -/
def isRun (first last : Nat) (category : Category) : Bool :=
  rowStarts.all (fun start => start ≤ first || last < start) &&
    (rowsFor first).all (fun row => row.1 < first || last ≤ row.1) &&
    categoryIn (rowsFor first) first == category

section Runs

variable {first last n : Nat}

theorem rowsFor_eq_of_starts
    (h : rowStarts.all (fun start => start ≤ first || last < start) = true)
    (hfirst : first ≤ n) (hlast : n ≤ last) : rowsFor n = rowsFor first := by
  have hiff : ∀ start ∈ rowStarts, (n < start ↔ first < start) := by
    intro start hstart
    have hside := List.all_eq_true.mp h start hstart
    rw [Bool.or_eq_true, decide_eq_true_eq, decide_eq_true_eq] at hside
    omega
  simp only [rowStarts, List.forall_mem_cons] at hiff
  simp only [rowsFor, hiff]

theorem categoryIn_eq_of_rows {rows : List (Nat × Category)}
    (h : rows.all (fun row => row.1 < first || last ≤ row.1) = true)
    (hfirst : first ≤ n) (hlast : n ≤ last) :
    categoryIn rows n = categoryIn rows first := by
  induction rows with
  | nil => rfl
  | cons row rows ih =>
      obtain ⟨stop, category⟩ := row
      rw [List.all_cons, Bool.and_eq_true, Bool.or_eq_true, decide_eq_true_eq,
        decide_eq_true_eq] at h
      rw [categoryIn, categoryIn]
      rcases h.1 with hbefore | hafter
      · rw [if_neg (by omega), if_neg (by omega), ih h.2]
      · rw [if_pos (by omega), if_pos (by omega)]

theorem category_of_isRun {category : Category} {c : Char}
    (h : isRun first last category = true) (hfirst : first ≤ c.toNat)
    (hlast : c.toNat ≤ last) : Unicode.category c = category := by
  rw [isRun, Bool.and_eq_true, Bool.and_eq_true, beq_iff_eq] at h
  obtain ⟨⟨hstarts, hrows⟩, hcategory⟩ := h
  rw [Unicode.category, rowsFor_eq_of_starts hstarts hfirst hlast,
    categoryIn_eq_of_rows hrows hfirst hlast, hcategory]

end Runs

/-! ## Plain characters -/

/-- ASCII letters and digits, the underscore, and everything beyond ASCII. -/
def isPlainCode (n : Nat) : Bool :=
  (0x30 ≤ n && n ≤ 0x39) || (0x41 ≤ n && n ≤ 0x5A) || n == 0x5F ||
    (0x61 ≤ n && n ≤ 0x7A) || 0x80 ≤ n

def isPlain (c : Char) : Bool :=
  isPlainCode c.toNat

theorem isPlain_of_isAlphanumeric {c : Char} (h : isAlphanumeric c = true) :
    isPlain c = true := by
  have hascii : ∀ n < 0x80, isAlphanumeric (Char.ofNat n) = true →
      isPlainCode n = true := by decide
  rcases Nat.lt_or_ge c.toNat 0x80 with hlt | hge
  · exact hascii c.toNat hlt (by rw [Char.ofNat_toNat]; exact h)
  · simp [isPlain, isPlainCode, hge]

theorem isAlphanumeric_of_isWordChar {c : Char} (h : isWordChar c = true) :
    isAlphanumeric c = true := by
  simp only [isWordChar, Bool.or_eq_true] at h
  simp only [isAlphanumeric, isAlphabetic, Bool.or_eq_true]
  rcases h with h | h
  · exact .inl (.inl (.inl h))
  · exact .inr h

/-! ## Case mapping -/

/-- Code points that are characters, and plain ones. -/
def isPlainRange (first last : Int) : Bool :=
  (0x41 ≤ first && last ≤ 0x5A) || (0x61 ≤ first && last ≤ 0x7A) ||
    (0x80 ≤ first && last < 0xD800) || (0xE000 ≤ first && last < 0x110000)

/-- A run sends its code points to plain characters. -/
def CaseRun.plain (run : CaseRun) : Bool :=
  isPlainRange (run.first + run.offset) (run.last + run.offset)

theorem isPlain_ofNat_of_range {first last : Int} {n : Nat}
    (h : isPlainRange first last = true) (hfirst : first ≤ n) (hlast : n ≤ last) :
    isPlain (Char.ofNat n) = true := by
  simp only [isPlainRange, Bool.or_eq_true, Bool.and_eq_true,
    decide_eq_true_eq] at h
  have hvalid : n.isValidChar := by
    simp only [Nat.isValidChar]
    omega
  have hcode : isPlainCode n = true := by
    simp only [isPlainCode, Bool.or_eq_true, Bool.and_eq_true,
      decide_eq_true_eq, beq_iff_eq]
    omega
  rw [isPlain, Char.ofNat, dif_pos hvalid]
  exact hcode

theorem isPlain_ofNat_moveAlong {runs : List CaseRun}
    (hruns : runs.all CaseRun.plain = true) {c : Char}
    (hc : isPlain c = true) :
    isPlain (Char.ofNat (moveAlong runs c.toNat)) = true := by
  induction runs with
  | nil =>
      rw [moveAlong, Char.ofNat_toNat]
      exact hc
  | cons run runs ih =>
      rw [List.all_cons, Bool.and_eq_true] at hruns
      rw [moveAlong]
      split
      · next hcovers =>
          have hplain := hruns.1
          simp only [CaseRun.covers, Bool.and_eq_true, decide_eq_true_eq]
            at hcovers
          have hpos : 0 ≤ (run.first : Int) + run.offset := by
            simp only [CaseRun.plain, isPlainRange, Bool.or_eq_true,
              Bool.and_eq_true, decide_eq_true_eq] at hplain
            omega
          exact isPlain_ofNat_of_range hplain (by omega) (by omega)
      · exact ih hruns.2

theorem mem_of_severalFor {several : List (Nat × List Nat)} {n : Nat}
    {images : List Nat} (h : severalFor several n = some images) :
    (n, images) ∈ several := by
  induction several with
  | nil => cases h
  | cons row rows ih =>
      rw [severalFor] at h
      split at h
      · next hn =>
          injection h with h
          rw [beq_iff_eq.mp hn, ← h]
          exact List.mem_cons_self
      · exact List.mem_cons_of_mem _ (ih h)

/-- What holds of every image in the rows and of where the runs lead holds of
whatever a mapping makes of a character. -/
theorem of_mem_mapCase {p : Char → Bool} {several : List (Nat × List Nat)}
    {runs : List CaseRun}
    (hseveral : several.all (fun row =>
      row.2.all fun n => p (Char.ofNat n)) = true) {c d : Char}
    (hruns : p (Char.ofNat (moveAlong runs c.toNat)) = true)
    (hd : d ∈ mapCase several runs c) : p d = true := by
  rw [mapCase] at hd
  split at hd
  · next images himages =>
      obtain ⟨n, hn, rfl⟩ := List.mem_map.mp hd
      have hrow := List.all_eq_true.mp hseveral _ (mem_of_severalFor himages)
      exact List.all_eq_true.mp hrow n hn
  · rw [List.mem_singleton.mp hd]
    exact hruns

theorem isPlain_of_mem_lowerChar {c d : Char} (hc : isPlain c = true)
    (hd : d ∈ lowerChar c) : isPlain d = true :=
  of_mem_mapCase (by decide)
    (isPlain_ofNat_moveAlong (by decide) hc) hd

theorem isPlain_of_mem_upperChar {c d : Char} (hc : isPlain c = true)
    (hd : d ∈ upperChar c) : isPlain d = true :=
  of_mem_mapCase (by decide)
    (isPlain_ofNat_moveAlong (by decide) hc) hd

theorem isPlain_of_mem_lowerAfter {text before : List Char}
    (htext : ∀ c ∈ text, isPlain c = true) :
    ∀ d ∈ lowerAfter before text, isPlain d = true := by
  induction text generalizing before with
  | nil => intro d hd; cases hd
  | cons c rest ih =>
      intro d hd
      have hrest : ∀ d ∈ lowerAfter (c :: before) rest, isPlain d = true :=
        ih (fun e he => htext e (List.mem_cons_of_mem _ he))
      rw [lowerAfter] at hd
      split at hd
      · rcases List.mem_cons.mp hd with rfl | hmem
        · split <;> decide
        · exact hrest d hmem
      · rcases List.mem_append.mp hd with hmem | hmem
        · exact isPlain_of_mem_lowerChar (htext c List.mem_cons_self) hmem
        · exact hrest d hmem

end Unicode

/-! ## Names -/

/-- A text of plain characters. -/
def Plain (text : String) : Prop :=
  ∀ c ∈ text.toList, Unicode.isPlain c = true

/-- An alphanumeric character or an underscore. -/
def Name.isNameChar (c : Char) : Bool :=
  Unicode.isAlphanumeric c || c == '_'

/-- A text of alphanumeric characters and underscores. -/
def Name.Wordlike (text : String) : Prop :=
  ∀ c ∈ text.toList, Name.isNameChar c = true

theorem Name.Wordlike.not_mem {name : String} (h : Name.Wordlike name) {c : Char}
    (hc : Name.isNameChar c = false) : c ∉ name.toList :=
  fun hmem => Bool.noConfusion ((h c hmem).symm.trans hc)

theorem Plain.not_mem {text : String} (h : Plain text) {c : Char}
    (hc : Unicode.isPlain c = false) : c ∉ text.toList :=
  fun hmem => Bool.noConfusion ((h c hmem).symm.trans hc)

namespace Name

open Unicode (isAlphanumeric isPlain isWordChar)

theorem isPlain_of_isNameChar {c : Char} (h : isNameChar c = true) :
    isPlain c = true := by
  simp only [isNameChar, Bool.or_eq_true, beq_iff_eq] at h
  rcases h with h | rfl
  · exact Unicode.isPlain_of_isAlphanumeric h
  · decide

theorem Wordlike.plain {text : String} (h : Wordlike text) : Plain text :=
  fun c hc => isPlain_of_isNameChar (h c hc)

theorem Wordlike.append {s t : String} (hs : Wordlike s) (ht : Wordlike t) :
    Wordlike (s ++ t) := by
  intro c hc
  rw [String.toList_append] at hc
  rcases List.mem_append.mp hc with h | h
  · exact hs c h
  · exact ht c h

theorem isNameChar_identifierChar (c : Char) :
    isNameChar (identifierChar c) = true := by
  rw [identifierChar]
  split
  · next h => exact h
  · decide

theorem isNameChar_of_mem_identifier {text : List Char} :
    ∀ c ∈ identifier text, isNameChar c = true := by
  have hmap : ∀ c ∈ text.map identifierChar, isNameChar c = true := by
    intro c hc
    obtain ⟨d, -, rfl⟩ := List.mem_map.mp hc
    exact isNameChar_identifierChar d
  intro c hc
  rw [identifier] at hc
  split at hc
  · cases hc
  · next first rest hchars =>
      rw [hchars] at hmap
      split at hc
      · rcases List.mem_cons.mp hc with rfl | hmem
        · decide
        · exact hmap c hmem
      · exact hmap c hc

theorem wordlike_of_nameOf? {case : Case} {key name : String}
    (h : case.nameOf? key = some name) : Wordlike name := by
  rw [Case.nameOf?] at h
  split at h
  · injection h with h
    subst h
    intro c hc
    rw [String.toList_ofList] at hc
    exact isNameChar_of_mem_identifier c hc
  · cases h

theorem isSome_nameOf? (case : Case) {key : String} :
    (case.nameOf? key).isSome = usable key := by
  rw [Case.nameOf?]
  split
  · next h => simp [h]
  · next h => simpa using h

theorem category_of_isDigit {c : Char} (h : c.isDigit = true) :
    Unicode.category c = .nd :=
  have hcode := Char.isDigit_iff_toNat.mp h
  Unicode.category_of_isRun (by decide +kernel) hcode.1 hcode.2

theorem isNameChar_of_isDigit {c : Char} (h : c.isDigit = true) :
    isNameChar c = true := by
  have hword : Unicode.isWordChar c = true := by
    rw [Unicode.isWordChar, Unicode.isLetter, Unicode.isNumeric,
      category_of_isDigit h]
    rfl
  rw [isNameChar, Unicode.isAlphanumeric_of_isWordChar hword, Bool.true_or]

theorem isDigit_of_mem_toString {n : Nat} {c : Char}
    (h : c ∈ (toString n).toList) : c.isDigit = true := by
  rw [Nat.toString_eq_repr, Nat.toList_repr] at h
  exact Nat.isDigit_of_mem_toDigits (b := 10) (by decide) (by decide) h

theorem wordlike_toString (n : Nat) : Wordlike (toString n) :=
  fun _ hc => isNameChar_of_isDigit (isDigit_of_mem_toString hc)

theorem wordlike_underscore : Wordlike "_" := by
  intro c hc
  rw [List.mem_singleton.mp hc]
  decide

theorem Wordlike.numbered {name : String} (h : Wordlike name) (n : Nat) :
    Wordlike (numbered name n) :=
  (h.append wordlike_underscore).append (wordlike_toString n)

theorem plain_numbered {name : String} (h : Plain name) (n : Nat) :
    Plain (numbered name n) := by
  intro c hc
  rw [Name.numbered, String.append_assoc, String.toList_append] at hc
  rcases List.mem_append.mp hc with hmem | hmem
  · exact h c hmem
  · exact (wordlike_underscore.append (wordlike_toString n)).plain c hmem

/-! ## Words

Words are cut out of a key at everything that is neither a letter nor a
number, so they hold nothing else. -/

theorem forall_mem_splitOnPPrepend {p : Char → Bool} {text : List Char}
    (run : List Char) (hrun : ∀ c ∈ run, p c = false) :
    ∀ piece ∈ text.splitOnPPrepend p run, ∀ c ∈ piece, p c = false := by
  induction text generalizing run with
  | nil =>
      intro piece hpiece c hc
      rw [List.splitOnPPrepend_nil, List.mem_singleton] at hpiece
      subst hpiece
      exact hrun c (List.mem_reverse.mp hc)
  | cons x rest ih =>
      intro piece hpiece
      rw [List.splitOnPPrepend_cons_eq_if] at hpiece
      split at hpiece
      · rcases List.mem_cons.mp hpiece with rfl | hmem
        · exact fun c hc => hrun c (List.mem_reverse.mp hc)
        · exact ih [] nofun piece hmem
      · next hx =>
          refine ih (x :: run) ?_ piece hpiece
          intro c hc
          rcases List.mem_cons.mp hc with rfl | hmem
          · simpa using hx
          · exact hrun c hmem

theorem isWordChar_of_mem_words {key word : List Char} {c : Char}
    (hword : word ∈ words key) (hc : c ∈ word) : isWordChar c = true := by
  rw [words, pieces] at hword
  have hpiece := (List.mem_filter.mp hword).1
  simpa using forall_mem_splitOnPPrepend [] nofun word hpiece c hc

theorem isPlain_of_mem_words {key word : List Char} {c : Char}
    (hword : word ∈ words key) (hc : c ∈ word) : isPlain c = true :=
  Unicode.isPlain_of_isAlphanumeric
    (Unicode.isAlphanumeric_of_isWordChar (isWordChar_of_mem_words hword hc))

theorem mem_intercalate {separator : List Char} {c : Char} :
    ∀ {parts : List (List Char)}, c ∈ separator.intercalate parts →
      c ∈ separator ∨ ∃ part ∈ parts, c ∈ part
  | [], h => by simp at h
  | [part], h => by
      rw [List.intercalate_singleton] at h
      exact .inr ⟨part, List.mem_singleton_self part, h⟩
  | part :: next :: parts, h => by
      rw [List.intercalate_cons_cons] at h
      rcases List.mem_append.mp h with h | h
      · rcases List.mem_append.mp h with h | h
        · exact .inr ⟨part, List.mem_cons_self, h⟩
        · exact .inl h
      · rcases mem_intercalate h with h | ⟨other, hother, hc⟩
        · exact .inl h
        · exact .inr ⟨other, List.mem_cons_of_mem _ hother, hc⟩

theorem isPlain_of_mem_snakeCase {key : List Char} {c : Char}
    (h : c ∈ snakeCase key) : isPlain c = true := by
  rw [snakeCase] at h
  rcases mem_intercalate h with h | ⟨part, hpart, hc⟩
  · rw [List.mem_singleton.mp h]
    decide
  · obtain ⟨word, hword, rfl⟩ := List.mem_map.mp hpart
    exact Unicode.isPlain_of_mem_lowerAfter
      (fun d hd => isPlain_of_mem_words hword hd) c hc

/-! ## Roles -/

variable {conventions : Conventions} {key name : String}

theorem wordlike_openCapital (h : Wordlike name) :
    Wordlike (openCapital name) := by
  have hclass : Wordlike "Class" := by
    intro c hc
    have hall : "Class".toList.all isNameChar = true := by decide
    exact List.all_eq_true.mp hall c hc
  rw [openCapital]
  split
  · split
    · exact h
    · exact hclass.append h
  · exact hclass.append h

theorem wordlike_of_className? (h : className? conventions key = some name) :
    Wordlike name := by
  obtain ⟨own, hown, rfl⟩ := Option.map_eq_some_iff.mp h
  exact wordlike_openCapital (wordlike_of_nameOf? hown)

theorem wordlike_of_fieldName? (h : fieldName? conventions key = some name) :
    Wordlike name := by
  obtain ⟨own, hown, rfl⟩ := Option.map_eq_some_iff.mp h
  have hwordlike := wordlike_of_nameOf? hown
  rw [avoidKeyword]
  split
  · exact hwordlike.append wordlike_underscore
  · exact hwordlike

theorem plain_moduleOf (h : Wordlike name) :
    Plain (moduleOf conventions name) := by
  rw [moduleOf]
  split
  · exact h.plain
  · intro c hc
    rw [String.toList_ofList] at hc
    exact isPlain_of_mem_snakeCase hc

theorem plain_raiseFirst (h : Wordlike name) :
    Plain (String.ofList (raiseFirst name.toList)) := by
  intro c hc
  rw [String.toList_ofList] at hc
  have hname := h.plain
  rw [Plain] at hname
  match hchars : name.toList with
  | [] =>
      rw [hchars, raiseFirst] at hc
      cases hc
  | first :: rest =>
      rw [hchars, raiseFirst] at hc
      rw [hchars] at hname
      rcases List.mem_append.mp hc with hmem | hmem
      · exact Unicode.isPlain_of_mem_upperChar
          (hname first List.mem_cons_self) hmem
      · exact hname c (List.mem_cons_of_mem _ hmem)

theorem isSome_className? (conventions : Conventions) :
    (className? conventions key).isSome = usable key := by
  rw [className?, Option.isSome_map, isSome_nameOf?]

theorem isSome_fieldName? (conventions : Conventions) :
    (fieldName? conventions key).isSome = usable key := by
  rw [fieldName?, Option.isSome_map, isSome_nameOf?]

end Name
end Recast
