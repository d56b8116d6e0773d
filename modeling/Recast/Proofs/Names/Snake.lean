import Recast.Proofs.Names.Numbered
import Recast.Proofs.Names.Plain

/-!
# Numbers come through snake case

A module is the snake case of a class name, and a class and its module are
numbered apart from each other. The two ways agree: the snake case of a
numbered class name is the numbered snake case of the name, because an
underscore separates words and a number is a word of its own.

The agreement needs a name with at least one word, and a class name always has
one. It opens on a capital, and the capitals that are no letters are the
enclosed ones, which no letter has as its capital form.
-/

namespace Recast.Name

open Unicode (isCapital isSmall isDecimal isWordChar)

/-! ## Words around an underscore -/

theorem category_underscore : Unicode.category '_' = .pc := by
  decide

theorem not_isCapital_underscore : isCapital '_' = false := by
  rw [isCapital, category_underscore]
  rfl

theorem spaceAcronymsAfter_underscore (run s t : List Char) :
    spaceAcronymsAfter run (s ++ '_' :: t) =
      spaceAcronymsAfter run s ++ '_' :: spaceAcronymsAfter [] t := by
  have hcapital := not_isCapital_underscore
  have hsmall : isSmall '_' = false := by
    rw [isSmall, category_underscore]
    rfl
  fun_induction spaceAcronymsAfter run s with
  | case1 run =>
      match run with
      | [] | [_] | _ :: _ :: _ =>
          simp [spaceAcronymsAfter, hcapital, hsmall]
  | case2 run c s hc ih =>
      rw [List.cons_append, spaceAcronymsAfter.eq_def]
      simp only [hc, if_true, ih]
  | case3 c s hc last before more hs ih =>
      rw [List.cons_append, spaceAcronymsAfter, if_neg hc]
      simp [hs, ih]
  | case4 c s hc last before more hs ih =>
      rw [List.cons_append, spaceAcronymsAfter, if_neg hc]
      simp [hs, ih]
  | case5 run c s hc hrun ih =>
      rw [List.cons_append, spaceAcronymsAfter, if_neg hc]
      · simp [ih]
      · exact hrun

theorem spaceHumps_underscore (s t : List Char) :
    spaceHumps (s ++ '_' :: t) = spaceHumps s ++ '_' :: spaceHumps t := by
  have hcapital := not_isCapital_underscore
  have hsmall : (isSmall '_' || isDecimal '_') = false := by
    rw [isSmall, isDecimal, category_underscore]
    rfl
  have hopen : spaceHumps ('_' :: t) = '_' :: spaceHumps t := by
    match t with
    | [] => rfl
    | y :: rest => simp [spaceHumps, hsmall]
  fun_induction spaceHumps s with
  | case1 x y rest hump ih =>
      rw [List.cons_append, List.cons_append, spaceHumps, if_pos hump, ih]
      rfl
  | case2 x y rest hump ih =>
      rw [List.cons_append] at ih
      rw [List.cons_append, List.cons_append, spaceHumps, if_neg hump, ih]
      rfl
  | case3 s hshort =>
      match s with
      | [] => exact hopen
      | [x] => simp [spaceHumps, hcapital, hopen]
      | x :: y :: rest => exact absurd rfl (hshort x y rest)

theorem words_underscore (s t : List Char) :
    words (s ++ '_' :: t) = words s ++ words t := by
  have hseparator : (!isWordChar '_') = true := by
    rw [isWordChar, Unicode.isLetter, Unicode.isNumeric, category_underscore]
    rfl
  rw [words, spaceAcronyms, spaceAcronymsAfter_underscore,
    spaceHumps_underscore, pieces,
    List.splitOnP_append_cons (p := fun c => !isWordChar c) _ _ hseparator, List.filter_append]
  rfl

/-! ## A number is a word -/

theorem spaceAcronymsAfter_of_forall {run s : List Char}
    (hrun : run.length < 2) (hs : ∀ c ∈ s, isCapital c = false) :
    spaceAcronymsAfter run s = run.reverse ++ s := by
  induction s generalizing run with
  | nil => simp [spaceAcronymsAfter]
  | cons c s ih =>
      have hc := hs c List.mem_cons_self
      have hrest : spaceAcronymsAfter [] s = [].reverse ++ s :=
        ih (by simp) fun d hd => hs d (List.mem_cons_of_mem _ hd)
      match run with
      | [] | [_] => simp_all [spaceAcronymsAfter]
      | _ :: _ :: _ =>
          simp only [List.length_cons] at hrun
          omega

theorem spaceHumps_of_forall {s : List Char}
    (hs : ∀ c ∈ s, isCapital c = false) : spaceHumps s = s := by
  fun_induction spaceHumps s with
  | case1 x y rest hump ih =>
      have hy := hs y (List.mem_cons_of_mem _ List.mem_cons_self)
      simp [hy] at hump
  | case2 x y rest hump ih =>
      rw [ih fun d hd => hs d (List.mem_cons_of_mem _ hd)]
  | case3 s hshort => rfl

theorem words_of_forall {s : List Char} (hne : s ≠ [])
    (hcapital : ∀ c ∈ s, isCapital c = false)
    (hword : ∀ c ∈ s, isWordChar c = true) : words s = [s] := by
  rw [words, spaceAcronyms,
    spaceAcronymsAfter_of_forall (by simp) hcapital, List.reverse_nil,
    List.nil_append, spaceHumps_of_forall hcapital, pieces,
    List.splitOnP_eq_singleton fun c hc => by simp [hword c hc]]
  simp [hne]

theorem digit_properties {c : Char} (h : c.isDigit = true) :
    isCapital c = false ∧ isWordChar c = true ∧ Unicode.lowerChar c = [c] ∧
      (c == 'Σ') = false := by
  have hcategory := category_of_isDigit h
  have hlower : ∀ k < 10,
      Unicode.lowerChar (Char.ofNat (0x30 + k)) = [Char.ofNat (0x30 + k)] ∧
        (Char.ofNat (0x30 + k) == 'Σ') = false := by decide
  have hcode : 0x30 ≤ c.toNat ∧ c.toNat ≤ 0x39 := Char.isDigit_iff_toNat.mp h
  have hall := hlower (c.toNat - 0x30) (by omega)
  rw [Nat.add_sub_cancel' hcode.1, Char.ofNat_toNat] at hall
  refine ⟨?_, ?_, hall⟩
  · rw [isCapital, hcategory]
    rfl
  · rw [isWordChar, Unicode.isLetter, Unicode.isNumeric, hcategory]
    rfl

theorem lowerAfter_of_digits {before s : List Char}
    (hs : ∀ c ∈ s, c.isDigit = true) : Unicode.lowerAfter before s = s := by
  induction s generalizing before with
  | nil => rfl
  | cons c s ih =>
      obtain ⟨-, -, hlower, hsigma⟩ := digit_properties (hs c List.mem_cons_self)
      rw [Unicode.lowerAfter, hsigma, hlower,
        ih fun d hd => hs d (List.mem_cons_of_mem _ hd)]
      rfl

theorem intercalate_concat (separator last : List Char) :
    ∀ {parts : List (List Char)}, parts ≠ [] →
      separator.intercalate (parts ++ [last])
        = separator.intercalate parts ++ separator ++ last
  | [], h => absurd rfl h
  | [part], _ => by simp [List.intercalate_cons_cons]
  | part :: next :: parts, _ => by
      have ih := intercalate_concat separator last (List.cons_ne_nil next parts)
      rw [List.cons_append, List.cons_append, List.intercalate_cons_cons,
        ← List.cons_append, ih, List.intercalate_cons_cons]
      simp only [List.append_assoc]

theorem words_toDigits (n : Nat) :
    words (Nat.toDigits 10 n) = [Nat.toDigits 10 n] := by
  have hdigit : ∀ c ∈ Nat.toDigits 10 n, c.isDigit = true := fun _ hc =>
    Nat.isDigit_of_mem_toDigits (by decide) (by decide) hc
  exact words_of_forall Nat.toDigits_ne_nil
    (fun c hc => (digit_properties (hdigit c hc)).1)
    (fun c hc => (digit_properties (hdigit c hc)).2.1)

theorem lower_toDigits (n : Nat) :
    Unicode.lower (Nat.toDigits 10 n) = Nat.toDigits 10 n :=
  lowerAfter_of_digits fun _ hc =>
    Nat.isDigit_of_mem_toDigits (by decide) (by decide) hc

/-- The snake case of a numbered name is its numbered snake case. -/
theorem snakeCase_numbered {name : String} (n : Nat)
    (h : words name.toList ≠ []) :
    snakeCase (numbered name n).toList
      = (numbered (String.ofList (snakeCase name.toList)) n).toList := by
  rw [toList_numbered, toList_numbered, String.toList_ofList, snakeCase,
    words_underscore, words_toDigits, List.map_append, List.map_singleton,
    intercalate_concat _ _ (by simpa using h), lower_toDigits, snakeCase,
    List.append_assoc]
  rfl

/-! ## A class name has a word

Spaces are only put in, so a letter or number of a name is in one of its
words. -/

theorem mem_spaceAcronymsAfter {run s : List Char} {c : Char}
    (h : c ∈ run ∨ c ∈ s) : c ∈ spaceAcronymsAfter run s := by
  fun_induction spaceAcronymsAfter run s with
  | case1 run => simpa using h
  | case2 run d s hd ih =>
      refine ih ?_
      rw [List.mem_cons] at h ⊢
      grind
  | case3 d s hd last before more hs ih => grind
  | case4 d s hd last before more hs ih => grind
  | case5 run d s hd hrun ih => grind

theorem mem_spaceHumps {s : List Char} {c : Char} (h : c ∈ s) :
    c ∈ spaceHumps s := by
  fun_induction spaceHumps s with
  | case1 x y rest hump ih => grind
  | case2 x y rest hump ih => grind
  | case3 s hshort => exact h

theorem pieces_ne_nil {s : List Char} {c : Char} (hmem : c ∈ s)
    (hc : isWordChar c = true) : pieces s ≠ [] := by
  rw [pieces]
  induction s with
  | nil => cases hmem
  | cons x s ih =>
      have hne : s.splitOnP (fun d => !isWordChar d) ≠ [] :=
        List.splitOnP_ne_nil _ s
      obtain ⟨piece, others, hsplit⟩ := List.exists_cons_of_ne_nil hne
      rw [List.splitOnP_cons_eq_if_modifyHead]
      by_cases hx : isWordChar x = true
      · simp [hx, hsplit]
      · rcases List.mem_cons.mp hmem with rfl | hmem
        · exact absurd hc hx
        · simpa [hx] using ih hmem

theorem words_ne_nil {s : List Char} {c : Char} (hmem : c ∈ s)
    (hc : isWordChar c = true) : words s ≠ [] :=
  pieces_ne_nil (mem_spaceHumps (mem_spaceAcronymsAfter (.inr hmem))) hc

theorem images_ne_nil {several : List (Nat × List Nat)}
    (hseveral : several.all (fun row => !row.2.isEmpty) = true) {n : Nat}
    {images : List Nat} (h : Unicode.severalFor several n = some images) :
    images ≠ [] := by
  simpa using
    List.all_eq_true.mp hseveral _ (Unicode.mem_of_severalFor h)

theorem lower_ne_nil {word : List Char} (h : word ≠ []) :
    Unicode.lower word ≠ [] := by
  cases word with
  | nil => exact absurd rfl h
  | cons c rest =>
      rw [Unicode.lower, Unicode.lowerAfter]
      split
      · exact List.cons_ne_nil _ _
      · rw [Unicode.lowerChar, Unicode.mapCase]
        split
        · next images himages =>
            simp [images_ne_nil (by decide) himages]
        · simp

/-- A name has an empty snake case only if it has no word. -/
theorem snakeCase_eq_nil_iff {key : List Char} :
    snakeCase key = [] ↔ words key = [] := by
  rw [snakeCase]
  constructor
  · intro h
    cases hwords : words key with
    | nil => rfl
    | cons word others =>
        have hword : word ∈ words key := by
          rw [hwords]
          exact List.mem_cons_self
        rw [words, pieces] at hword
        have hne : word ≠ [] := by simpa using (List.mem_filter.mp hword).2
        rw [hwords, List.map_cons] at h
        cases others with
        | nil => exact absurd (by simpa using h) (lower_ne_nil hne)
        | cons next others => simp [List.intercalate_cons_cons] at h
  · intro h
    rw [h]
    rfl

/-! The uppercase characters that are neither letters nor numbers are enclosed
letters. They have small forms, but these are enclosed as well, so no capital
form of a letter or number is among them. -/

/-- The ranges of enclosed letters, capital and small. -/
def isEnclosed (n : Nat) : Bool :=
  (0x24B6 ≤ n && n ≤ 0x24E9) || (0x1F130 ≤ n && n ≤ 0x1F189)

theorem not_isEnclosed_of_isWordChar {c : Char} (h : isWordChar c = true) :
    isEnclosed c.toNat = false := by
  by_contra henclosed
  simp only [isEnclosed, Bool.not_eq_false, Bool.or_eq_true, Bool.and_eq_true,
    decide_eq_true_eq] at henclosed
  have hsymbol : Unicode.category c = .so := by
    rcases henclosed with ⟨hfirst, hlast⟩ | ⟨hfirst, hlast⟩
    · exact Unicode.category_of_isRun (by decide +kernel) hfirst hlast
    · exact Unicode.category_of_isRun (by decide +kernel) hfirst hlast
  rw [isWordChar, Unicode.isLetter, Unicode.isNumeric, hsymbol] at h
  cases h

theorem isWordChar_of_isUppercase {c : Char} (h : Unicode.isUppercase c = true)
    (henclosed : isEnclosed c.toNat = false) : isWordChar c = true := by
  rw [Unicode.isUppercase, Bool.or_eq_true] at h
  rcases h with h | h
  · rw [isCapital, beq_iff_eq] at h
    rw [isWordChar, Unicode.isLetter, h]
    rfl
  · have hrange : 0x2160 ≤ c.toNat ∧ c.toNat ≤ 0x216F := by
      simp only [Unicode.otherUppercase, Unicode.inRanges, isEnclosed,
        Bool.or_eq_false_iff, Bool.and_eq_false_iff, decide_eq_false_iff_not]
        at h henclosed
      grind
    have hroman : Unicode.category c = .nl :=
      Unicode.category_of_isRun (by decide +kernel) hrange.1 hrange.2
    rw [isWordChar, Unicode.isLetter, Unicode.isNumeric, hroman]
    rfl

/-- A run leads to enclosed letters only from enclosed letters. -/
def avoidsEnclosed (run : Unicode.CaseRun) : Bool :=
  isEnclosed run.first && isEnclosed run.last && run.last - run.first < 0x34 ||
    run.last + run.offset < 0x24B6 ||
    (0x24E9 < run.first + run.offset && run.last + run.offset < 0x1F130) ||
    0x1F189 < run.first + run.offset

theorem not_isEnclosed_moveAlong {runs : List Unicode.CaseRun}
    (hruns : runs.all avoidsEnclosed = true) {n : Nat}
    (hn : isEnclosed n = false) :
    isEnclosed (Unicode.moveAlong runs n) = false := by
  induction runs with
  | nil => exact hn
  | cons run runs ih =>
      rw [List.all_cons, Bool.and_eq_true] at hruns
      rw [Unicode.moveAlong]
      split
      · next hcovers =>
          have hrun := hruns.1
          simp only [Unicode.CaseRun.covers, avoidsEnclosed, isEnclosed,
            Bool.or_eq_true, Bool.and_eq_true, Bool.or_eq_false_iff,
            Bool.and_eq_false_iff, decide_eq_true_eq, decide_eq_false_iff_not]
            at hcovers hrun hn ⊢
          omega
      · exact ih hruns.2

theorem not_isEnclosed_mapCase {several : List (Nat × List Nat)}
    {runs : List Unicode.CaseRun}
    (hseveral : several.all (fun row =>
      row.2.all fun n => !isEnclosed (Char.ofNat n).toNat) = true)
    (hruns : runs.all avoidsEnclosed = true) {c d : Char}
    (hc : isWordChar c = true) (hd : d ∈ Unicode.mapCase several runs c) :
    isEnclosed d.toNat = false := by
  have hmoved : (!isEnclosed
      (Char.ofNat (Unicode.moveAlong runs c.toNat)).toNat) = true := by
    by_cases hvalid : (Unicode.moveAlong runs c.toNat).isValidChar
    · rw [Char.ofNat, dif_pos hvalid, Bool.not_eq_true']
      exact not_isEnclosed_moveAlong hruns (not_isEnclosed_of_isWordChar hc)
    · rw [Char.ofNat, dif_neg hvalid]
      rfl
  simpa using Unicode.of_mem_mapCase (p := fun d => !isEnclosed d.toNat)
    hseveral hmoved hd

theorem not_isEnclosed_of_mem_pascalCase {key : List Char} {d : Char}
    (hd : d ∈ pascalCase key) : isEnclosed d.toNat = false := by
  rw [pascalCase] at hd
  obtain ⟨word, hword, hd⟩ := List.mem_flatMap.mp hd
  match word with
  | [] => cases hd
  | c :: rest =>
      have hall : ∀ e ∈ c :: rest, isWordChar e = true :=
        fun e he => isWordChar_of_mem_words hword he
      rw [capitalize] at hd
      rcases List.mem_append.mp hd with hd | hd
      · exact not_isEnclosed_mapCase (by decide) (by decide)
          (hall c List.mem_cons_self) hd
      · obtain ⟨e, he, hd⟩ := List.mem_flatMap.mp hd
        exact not_isEnclosed_mapCase (by decide) (by decide)
          (hall e (List.mem_cons_of_mem _ he)) hd

theorem mem_of_mem_identifier {text : List Char} {c : Char}
    (hc : c ∈ identifier text) : c = '_' ∨ c ∈ text := by
  have hmap : c = '_' ∨ c ∈ text.map identifierChar := by
    rw [identifier] at hc
    split at hc
    · cases hc
    · next first rest hchars =>
        rw [hchars]
        split at hc
        · exact (List.mem_cons.mp hc).imp_right id
        · exact .inr hc
  rcases hmap with rfl | hmap
  · exact .inl rfl
  · obtain ⟨d, hd, rfl⟩ := List.mem_map.mp hmap
    rw [identifierChar]
    split
    · exact .inr hd
    · exact .inl rfl

/-- A class name in capitalized words has a word, even if its key has none. -/
theorem words_className_ne_nil {conventions : Conventions} {key name : String}
    (hcase : conventions.classCase = .pascal)
    (h : className? conventions key = some name) : words name.toList ≠ [] := by
  have hclass : ∀ own : String, words ("Class" ++ own).toList ≠ [] := by
    intro own
    refine words_ne_nil (c := 'C') ?_ (by decide)
    rw [String.toList_append]
    exact List.mem_append_left _ (by decide)
  obtain ⟨own, hown, rfl⟩ := Option.map_eq_some_iff.mp h
  rw [openCapital]
  split
  · next c rest hchars =>
      split
      · next hupper =>
          have hmem : c ∈ own.toList := by
            rw [hchars]
            exact List.mem_cons_self
          refine words_ne_nil hmem (isWordChar_of_isUppercase hupper ?_)
          rw [Case.nameOf?, hcase] at hown
          split at hown
          · injection hown with hown
            rw [← hown, String.toList_ofList] at hmem
            rcases mem_of_mem_identifier hmem with rfl | hmem
            · decide
            · exact not_isEnclosed_of_mem_pascalCase hmem
          · cases hown
      · exact hclass own
  · exact hclass own

end Recast.Name
