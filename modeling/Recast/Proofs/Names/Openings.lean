import Recast.Proofs.Names.Letters

/-!
# What names open on

The words of a key hold its letters and numbers in order and nothing else, so
the first letter or number of a key, its opening, decides what a name made of
words opens on: the small form or the capital form of the opening, or an
underscore in front of an ASCII digit.
-/

namespace Recast.Name

open Unicode (SameKind exists_lowerChar_cons isWordChar lower lowerChar
  upperChar)

/-! ## The letters and numbers of a key -/

/-- The first letter or number of a text. -/
def opening? (text : List Char) : Option Char :=
  text.find? isWordChar

theorem not_isWordChar_space : isWordChar ' ' = false := by
  decide

theorem not_isWordChar_underscore : isWordChar '_' = false := by
  decide

theorem filter_spaceAcronymsAfter (run s : List Char) :
    (spaceAcronymsAfter run s).filter isWordChar
      = (run.reverse ++ s).filter isWordChar := by
  have hspace := not_isWordChar_space
  fun_induction spaceAcronymsAfter run s with
  | case1 run => rw [List.append_nil]
  | case2 run c s hc ih =>
      rw [ih, List.reverse_cons, List.append_assoc]
      rfl
  | case3 c s hc last before more hs ih =>
      simp [ih, hspace, List.filter_cons]
  | case4 c s hc last before more hs ih =>
      simp [ih, List.filter_cons]
  | case5 run c s hc hrun ih =>
      simp [ih, List.filter_cons]

theorem filter_spaceHumps (s : List Char) :
    (spaceHumps s).filter isWordChar = s.filter isWordChar := by
  have hspace := not_isWordChar_space
  fun_induction spaceHumps s with
  | case1 x y rest hump ih =>
      simp [ih, hspace, List.filter_cons]
  | case2 x y rest hump ih =>
      rw [List.filter_cons, ih, ← List.filter_cons]
  | case3 s hshort => rfl

theorem flatten_pieces (s : List Char) :
    (pieces s).flatten = s.filter isWordChar := by
  rw [pieces]
  induction s with
  | nil => rfl
  | cons c s ih =>
      obtain ⟨piece, others, hsplit⟩ := List.exists_cons_of_ne_nil
        (List.splitOnP_ne_nil (fun d => !isWordChar d) s)
      rw [List.splitOnP_cons_eq_if_modifyHead]
      rw [hsplit] at ih ⊢
      by_cases hc : isWordChar c = true
      · simp only [hc, Bool.not_true, Bool.false_eq_true, if_false,
          List.modifyHead_cons, List.filter_cons_of_pos] at ih ⊢
        cases piece <;> simp_all
      · simp_all

theorem flatten_words (key : List Char) :
    (words key).flatten = key.filter isWordChar := by
  rw [words, flatten_pieces, filter_spaceHumps, spaceAcronyms,
    filter_spaceAcronymsAfter]
  rfl

theorem ne_nil_of_mem_words {key word : List Char} (h : word ∈ words key) :
    word ≠ [] := by
  rw [words, pieces] at h
  simpa using (List.mem_filter.mp h).2

theorem words_of_opening? {key : List Char} {c : Char}
    (h : opening? key = some c) :
    ∃ rest others, words key = (c :: rest) :: others := by
  have hhead : (words key).flatten.head? = some c := by
    rw [flatten_words, List.head?_filter]
    exact h
  match hwords : words key with
  | [] =>
      rw [hwords] at hhead
      cases hhead
  | [] :: others =>
      exact absurd rfl (ne_nil_of_mem_words (hwords ▸ List.mem_cons_self))
  | (d :: rest) :: others =>
      rw [hwords] at hhead
      injection hhead with hhead
      exact ⟨rest, others, by rw [hhead]⟩

theorem words_eq_nil_iff {key : List Char} :
    words key = [] ↔ opening? key = none := by
  constructor
  · intro h
    have hnone : key.filter isWordChar = [] := by
      rw [← flatten_words, h]
      rfl
    rw [opening?, List.find?_eq_none]
    simpa [List.filter_eq_nil_iff] using hnone
  · intro h
    match hwords : words key with
    | [] => rfl
    | word :: others =>
        have hmem : word ∈ words key := hwords ▸ List.mem_cons_self
        obtain ⟨c, rest, rfl⟩ :=
          List.exists_cons_of_ne_nil (ne_nil_of_mem_words hmem)
        have hc := isWordChar_of_mem_words hmem List.mem_cons_self
        have hkey : c ∈ key.filter isWordChar := by
          rw [← flatten_words, hwords]
          exact List.mem_append_left _ List.mem_cons_self
        rw [opening?, List.find?_eq_none] at h
        exact absurd hc (h c (List.mem_filter.mp hkey).1)

/-! ## What cases open on -/

theorem isWordChar_of_opening? {key : List Char} {c : Char}
    (h : opening? key = some c) : isWordChar c = true :=
  List.find?_some h

/-- A sigma that a word opens on follows no letter and does not take its final
form, so a word opens on the small form of its first character. -/
theorem head?_lower {c : Char} (hc : isWordChar c = true) (rest : List Char) :
    (lower (c :: rest)).head? = (lowerChar c).head? := by
  rw [lower, Unicode.lowerAfter]
  split
  · next hsigma =>
      rw [beq_iff_eq] at hsigma
      subst hsigma
      have hsmall : lowerChar 'Σ' = ['σ'] := by decide
      rw [hsmall]
      rfl
  · obtain ⟨d, tail, hd, -⟩ := exists_lowerChar_cons hc
    rw [hd]
    rfl

/-- The first word of a key and what its small form opens on. -/
theorem exists_first_word {key : List Char} {c : Char}
    (h : opening? key = some c) :
    ∃ word others d rest, words key = word :: others ∧
      lower word = d :: rest ∧ (lowerChar c).head? = some d ∧ SameKind c d := by
  have hc := isWordChar_of_opening? h
  obtain ⟨tail, others, hwords⟩ := words_of_opening? h
  obtain ⟨d, more, hd, hkind⟩ := exists_lowerChar_cons hc
  have hhead := head?_lower hc tail
  rw [hd] at hhead
  obtain ⟨rest, hrest⟩ := List.head?_eq_some_iff.mp hhead
  exact ⟨c :: tail, others, d, rest, hwords, hrest, by rw [hd]; rfl, hkind⟩

theorem head?_snakeCase {key : List Char} {c : Char}
    (h : opening? key = some c) :
    ∃ d, (snakeCase key).head? = some d ∧ (lowerChar c).head? = some d ∧
      SameKind c d := by
  obtain ⟨word, others, d, rest, hwords, hlower, hd, hkind⟩ :=
    exists_first_word h
  refine ⟨d, ?_, hd, hkind⟩
  rw [snakeCase, hwords, List.map_cons, hlower]
  cases others <;> rfl

theorem head?_camelCase {key : List Char} {c : Char}
    (h : opening? key = some c) :
    ∃ d, (camelCase key).head? = some d ∧ (lowerChar c).head? = some d ∧
      SameKind c d := by
  obtain ⟨word, others, d, rest, hwords, hlower, hd, hkind⟩ :=
    exists_first_word h
  refine ⟨d, ?_, hd, hkind⟩
  simp only [camelCase, hwords, hlower]
  rfl

theorem upperChar_ne_nil (c : Char) : upperChar c ≠ [] := by
  rw [upperChar, Unicode.mapCase]
  split
  · next images himages =>
      simp [images_ne_nil (by decide) himages]
  · simp

theorem head?_pascalCase {key : List Char} {c : Char}
    (h : opening? key = some c) :
    (pascalCase key).head? = (upperChar c).head? := by
  obtain ⟨rest, others, hwords⟩ := words_of_opening? h
  rw [pascalCase, hwords, List.flatMap_cons, capitalize, List.append_assoc,
    List.head?_append_of_ne_nil _ (upperChar_ne_nil c)]

/-! ## What identifiers open on -/

theorem identifierChar_of_isWordChar {c : Char} (h : isWordChar c = true) :
    identifierChar c = c := by
  rw [identifierChar, if_pos]
  rw [Unicode.isAlphanumeric_of_isWordChar h, Bool.true_or]

theorem isWordChar_identifierChar (c : Char) :
    isWordChar (identifierChar c) = isWordChar c := by
  by_cases h : isWordChar c = true
  · rw [identifierChar_of_isWordChar h]
  · rw [identifierChar]
    split
    · rfl
    · rw [not_isWordChar_underscore]
      simpa using h

theorem head?_identifier (text : List Char) :
    (identifier text).head? = text.head?.map fun c =>
      if (identifierChar c).isDigit then '_' else identifierChar c := by
  cases text with
  | nil => rfl
  | cons c rest =>
      rw [identifier, List.map_cons]
      split
      · next hnil => cases hnil
      · next first others hcons =>
          injection hcons with hfirst hothers
          subst hfirst
          split
          · next hdigit => simp [hdigit]
          · next hdigit => simp [hdigit]

/-- An identifier is made letter by letter, and only what is no letter or number
is replaced, so the opening stays. -/
theorem opening?_map_identifierChar (text : List Char) :
    opening? (text.map identifierChar) = opening? text := by
  induction text with
  | nil => rfl
  | cons c rest ih =>
      rw [opening?] at ih
      by_cases hc : isWordChar c = true
      · simp [opening?, hc, identifierChar_of_isWordChar hc]
      · simp [opening?, hc, isWordChar_identifierChar, ih]

/-! ## The dotted capital

It is the one letter whose small form holds something that no identifier may
hold. -/

theorem mem_lowerAfter {before text : List Char} {d : Char}
    (h : d ∈ Unicode.lowerAfter before text) :
    d = 'ς' ∨ d = 'σ' ∨ ∃ c ∈ text, d ∈ lowerChar c := by
  induction text generalizing before with
  | nil => cases h
  | cons c rest ih =>
      have hrest : d ∈ Unicode.lowerAfter (c :: before) rest →
          d = 'ς' ∨ d = 'σ' ∨ ∃ e ∈ c :: rest, d ∈ lowerChar e := by
        intro hmem
        rcases ih hmem with hd | hd | ⟨e, he, hd⟩
        · exact .inl hd
        · exact .inr (.inl hd)
        · exact .inr (.inr ⟨e, List.mem_cons_of_mem _ he, hd⟩)
      rw [Unicode.lowerAfter] at h
      split at h
      · rcases List.mem_cons.mp h with rfl | hmem
        · split
          · exact .inl rfl
          · exact .inr (.inl rfl)
        · exact hrest hmem
      · rcases List.mem_append.mp h with hd | hmem
        · exact .inr (.inr ⟨c, List.mem_cons_self, hd⟩)
        · exact hrest hmem

theorem mem_lowerAfter_of_mem {before text : List Char} {c d : Char}
    (hc : c ∈ text) (hne : c ≠ 'Σ') (hd : d ∈ lowerChar c) :
    d ∈ Unicode.lowerAfter before text := by
  induction text generalizing before with
  | nil => cases hc
  | cons e rest ih =>
      rw [Unicode.lowerAfter]
      rcases List.mem_cons.mp hc with rfl | hmem
      · rw [if_neg (by simpa using hne)]
        exact List.mem_append_left _ hd
      · split
        · exact List.mem_cons_of_mem _ (ih hmem)
        · exact List.mem_append_right _ (ih hmem)

theorem isNameChar_of_isWordChar {c : Char} (h : isWordChar c = true) :
    isNameChar c = true := by
  rw [isNameChar, Unicode.isAlphanumeric_of_isWordChar h, Bool.true_or]

theorem isWordChar_of_mem_lower {word : List Char} {d : Char}
    (hword : ∀ c ∈ word, isWordChar c = true) (hdotted : 'İ' ∉ word)
    (hd : d ∈ lower word) : isWordChar d = true := by
  have hcased : ∀ {c : Char}, Unicode.liesIn Unicode.casedLetters c.toNat c.toNat
      = true → isWordChar c = true := fun h => by
    rw [isWordChar, Unicode.isLetter_of_casedLetters h, Bool.true_or]
  rcases mem_lowerAfter hd with rfl | rfl | ⟨c, hc, hd⟩
  · exact hcased (by decide)
  · exact hcased (by decide)
  · have hne : c ≠ 'İ' := by
      rintro rfl
      exact hdotted hc
    obtain ⟨e, rest, he, hkind⟩ := exists_lowerChar_cons (hword c hc)
    rw [Unicode.lowerChar_eq hne] at he hd
    rw [List.mem_singleton.mp hd]
    injection he with he
    rw [he]
    exact hkind.word

theorem mem_intercalate_of_mem {separator part : List Char} {c : Char}
    (hc : c ∈ part) : ∀ {parts : List (List Char)}, part ∈ parts →
      c ∈ separator.intercalate parts
  | [_], h => by
      rw [List.intercalate_singleton, ← List.mem_singleton.mp h]
      exact hc
  | first :: next :: parts, h => by
      rw [List.intercalate_cons_cons]
      rcases List.mem_cons.mp h with rfl | h
      · exact List.mem_append_left _ (List.mem_append_left _ hc)
      · exact List.mem_append_right _ (mem_intercalate_of_mem hc h)

theorem exists_word_of_mem {key : List Char} {c : Char} (hmem : c ∈ key)
    (hc : isWordChar c = true) : ∃ word ∈ words key, c ∈ word := by
  have hflat : c ∈ (words key).flatten := by
    rw [flatten_words]
    exact List.mem_filter.mpr ⟨hmem, hc⟩
  obtain ⟨word, hword, hin⟩ := List.mem_flatten.mp hflat
  exact ⟨word, hword, hin⟩

theorem mem_of_mem_words {key word : List Char} {c : Char}
    (hword : word ∈ words key) (hc : c ∈ word) : c ∈ key := by
  have hflat : c ∈ (words key).flatten := List.mem_flatten.mpr ⟨word, hword, hc⟩
  rw [flatten_words] at hflat
  exact (List.mem_filter.mp hflat).1

/-- The snake case of a text is an identifier, its opening apart, if and only
if the dotted capital is not in the text. -/
theorem isNameChar_snakeCase_iff {text : List Char} :
    (∀ d ∈ snakeCase text, isNameChar d = true) ↔ 'İ' ∉ text := by
  constructor
  · intro h hdotted
    obtain ⟨word, hword, hmem⟩ := exists_word_of_mem hdotted (by decide)
    have hmark : Char.ofNat 0x307 ∈ snakeCase text := by
      refine mem_intercalate_of_mem ?_ (List.mem_map_of_mem hword)
      refine mem_lowerAfter_of_mem hmem (by decide) ?_
      rw [Unicode.lowerChar_dotted]
      exact List.mem_cons_of_mem _ List.mem_cons_self
    exact absurd (h _ hmark) (by decide +kernel)
  · intro hdotted d hd
    rw [snakeCase] at hd
    rcases mem_intercalate hd with hunderscore | ⟨part, hpart, hd⟩
    · rw [List.mem_singleton.mp hunderscore]
      decide
    · obtain ⟨word, hword, rfl⟩ := List.mem_map.mp hpart
      exact isNameChar_of_isWordChar (isWordChar_of_mem_lower
        (fun c hc => isWordChar_of_mem_words hword hc)
        (fun hmem => hdotted (mem_of_mem_words hword hmem)) hd)

end Recast.Name
