import Recast.Proofs.Names.Snake

/-!
# What case mapping makes of letters and numbers

Names are cut into words and then changed in case, so it matters which kinds
of characters the change leads to. A letter has a letter as its small form and
a number a number of the same category. One character breaks the rule: the
capital I with a dot above has a small form of two characters, the second of
them a combining mark that is no letter.

The tables of case mapping and of categories are compared run by run. The
letters that a small form is taken from or leads to lie in some ninety
stretches of letters; a run moves a stretch into a stretch, Roman numerals to
Roman numerals, or enclosed letters to enclosed letters.

In the other direction less is needed. A Roman numeral is the capital form of
nothing but a Roman numeral, and the dotted capital of nothing but itself.
-/

namespace Recast.Unicode

/-! ## Stretches of letters -/

/-- Do all rows that meet the code points from the first to the last have a
property? -/
def coveredBy (p : Category → Bool) (first last : Nat) :
    List (Nat × Category) → Bool
  | [] => false
  | (stop, category) :: rows =>
    bif stop.blt first then coveredBy p first last rows
    else p category && (last.ble stop || coveredBy p first last rows)

/-- Code points that share a list of rows and are letters, all of them. -/
def isStretch (first last : Nat) : Bool :=
  rowStarts.all (fun start => start ≤ first || last < start) &&
    coveredBy Category.isLetter first last (rowsFor first)

section Stretches

variable {p : Category → Bool} {first last n : Nat}

theorem categoryIn_of_coveredBy {rows : List (Nat × Category)}
    (h : coveredBy p first last rows = true) (hfirst : first ≤ n)
    (hlast : n ≤ last) : p (categoryIn rows n) = true := by
  induction rows with
  | nil => cases h
  | cons row rows ih =>
      obtain ⟨stop, category⟩ := row
      rw [coveredBy] at h
      rw [categoryIn]
      cases hbefore : stop.blt first with
      | true =>
          rw [hbefore, cond_true] at h
          rw [Nat.blt_eq] at hbefore
          rw [if_neg (by omega)]
          exact ih h
      | false =>
          rw [hbefore, cond_false, Bool.and_eq_true, Bool.or_eq_true,
            Nat.ble_eq] at h
          split
          · exact h.1
          · rcases h.2 with hstop | hrest
            · omega
            · exact ih hrest

theorem isLetter_of_isStretch {c : Char} (h : isStretch first last = true)
    (hfirst : first ≤ c.toNat) (hlast : c.toNat ≤ last) :
    isLetter c = true := by
  rw [isStretch, Bool.and_eq_true] at h
  rw [isLetter, category, rowsFor_eq_of_starts h.1 hfirst hlast]
  exact categoryIn_of_coveredBy h.2 hfirst hlast

end Stretches

/-! ## Where runs lead -/

/-- Do the code points from the first to the last lie in one of the ranges? -/
def liesIn (ranges : List (Nat × Nat)) (first last : Nat) : Bool :=
  ranges.any fun range => range.1.ble first && last.ble range.2

theorem liesIn_iff {ranges : List (Nat × Nat)} {first last : Nat} :
    liesIn ranges first last = true ↔
      ∃ range ∈ ranges, range.1 ≤ first ∧ last ≤ range.2 := by
  simp [liesIn]

theorem liesIn_one {range : Nat × Nat} {first last : Nat} :
    liesIn [range] first last = true ↔ range.1 ≤ first ∧ last ≤ range.2 := by
  simp [liesIn]

theorem liesIn_of_le {ranges : List (Nat × Nat)} {first last n m : Nat}
    (h : liesIn ranges first last = true) (hfirst : first ≤ n)
    (hlast : m ≤ last) : liesIn ranges n m = true := by
  obtain ⟨range, hrange, hle, hge⟩ := liesIn_iff.mp h
  exact liesIn_iff.mpr ⟨range, hrange, by omega, by omega⟩

namespace CaseRun

/-- Where a run sends a code point that it covers. -/
def image (run : CaseRun) (n : Nat) : Nat :=
  (n + run.offset).toNat

/-- The code points that a run covers. -/
def members (run : CaseRun) : List Nat :=
  List.range' run.first ((run.last - run.first) / run.step + 1) run.step

/-- A run starts from the ranges and leads into them. Looking at the two ends
is enough unless the ranges leave out what the run steps over. -/
def stays (ranges : List (Nat × Nat)) (run : CaseRun) : Bool :=
  (liesIn ranges run.first run.last ||
      run.members.all fun n => liesIn ranges n n) &&
    (liesIn ranges (run.image run.first) (run.image run.last) ||
      run.members.all fun n => liesIn ranges (run.image n) (run.image n))

/-- A run leads into a range only from inside of it. -/
def keepsOut (first last : Nat) (run : CaseRun) : Bool :=
  (first ≤ run.first && run.last ≤ last) ||
    run.last + run.offset < first || last < run.first + run.offset

variable {run : CaseRun} {n : Nat}

theorem covers_iff : run.covers n = true ↔
    run.first ≤ n ∧ n ≤ run.last ∧ (n - run.first) % run.step = 0 := by
  simp [covers, and_assoc]

theorem mem_members (h : run.covers n = true) : n ∈ run.members := by
  obtain ⟨hfirst, hlast, hstep⟩ := covers_iff.mp h
  refine List.mem_range'.mpr ⟨(n - run.first) / run.step, ?_, ?_⟩
  · have hle : (n - run.first) / run.step ≤ (run.last - run.first) / run.step :=
      Nat.div_le_div_right (by omega)
    omega
  · have hdiv := Nat.div_add_mod (n - run.first) run.step
    omega

theorem liesIn_of_stays {ranges : List (Nat × Nat)}
    (h : run.stays ranges = true) (hn : run.covers n = true) :
    liesIn ranges n n = true ∧
      liesIn ranges (run.image n) (run.image n) = true := by
  obtain ⟨hfirst, hlast, -⟩ := covers_iff.mp hn
  rw [stays, Bool.and_eq_true, Bool.or_eq_true, Bool.or_eq_true,
    List.all_eq_true, List.all_eq_true] at h
  constructor
  · rcases h.1 with hends | hall
    · exact liesIn_of_le hends hfirst hlast
    · exact hall n (mem_members hn)
  · rcases h.2 with hends | hall
    · refine liesIn_of_le hends ?_ ?_
      · simp only [image]
        omega
      · simp only [image]
        omega
    · exact hall n (mem_members hn)

end CaseRun

/-- A code point stays where it is or goes where the first run that covers it
sends it. -/
theorem moveAlong_eq_or (runs : List CaseRun) (n : Nat) :
    moveAlong runs n = n ∨
      ∃ run ∈ runs, run.covers n = true ∧ moveAlong runs n = run.image n := by
  induction runs with
  | nil => exact .inl rfl
  | cons run runs ih =>
      rw [moveAlong]
      split
      · next hcovers =>
          exact .inr ⟨run, List.mem_cons_self, hcovers, rfl⟩
      · rcases ih with hstay | ⟨other, hother, hmove⟩
        · exact .inl hstay
        · exact .inr ⟨other, List.mem_cons_of_mem _ hother, hmove⟩

/-! ## Small forms -/

/-- The letters that small forms are taken from or lead to. -/
def casedLetters : List (Nat × Nat) := [
  (0x41, 0x5A), (0x61, 0x7A), (0xC0, 0xD6), (0xD8, 0xF6), (0xF8, 0x29E),
  (0x370, 0x373), (0x376, 0x377), (0x37B, 0x37D), (0x37F, 0x37F),
  (0x386, 0x386), (0x388, 0x38A), (0x38C, 0x38C), (0x38E, 0x3A1),
  (0x3A3, 0x3F4), (0x3F7, 0x46F), (0x470, 0x481), (0x48A, 0x52F),
  (0x531, 0x556), (0x561, 0x586), (0x10A0, 0x10C5), (0x10C7, 0x10C7),
  (0x10CD, 0x10CD), (0x10D0, 0x10FA), (0x10FD, 0x10FF), (0x13A0, 0x13F5),
  (0x13F8, 0x13FD), (0x1C89, 0x1C8A), (0x1C90, 0x1CBA), (0x1CBD, 0x1CBF),
  (0x1D79, 0x1D8E), (0x1E00, 0x1F15), (0x1F18, 0x1F1D), (0x1F20, 0x1F3F),
  (0x1F40, 0x1F45), (0x1F48, 0x1F4D), (0x1F51, 0x1F57), (0x1F59, 0x1F59),
  (0x1F5B, 0x1F5B), (0x1F5D, 0x1F5D), (0x1F5F, 0x1F7D), (0x1F80, 0x1FB3),
  (0x1FB8, 0x1FBC), (0x1FC3, 0x1FC3), (0x1FC8, 0x1FCC), (0x1FD0, 0x1FD1),
  (0x1FD8, 0x1FDB), (0x1FE0, 0x1FEC), (0x1FF3, 0x1FF3), (0x1FF8, 0x1FFC),
  (0x2126, 0x2126), (0x212A, 0x212B), (0x2132, 0x2132), (0x214E, 0x214E),
  (0x2183, 0x2184), (0x2C00, 0x2CE3), (0x2CEB, 0x2CEE), (0x2CF2, 0x2CF3),
  (0x2D00, 0x2D25), (0x2D27, 0x2D27), (0x2D2D, 0x2D2D), (0xA640, 0xA66D),
  (0xA680, 0xA69B), (0xA722, 0xA787), (0xA78B, 0xA7DC), (0xA7F5, 0xA7F6),
  (0xAB53, 0xAB53), (0xAB70, 0xABBF), (0xFF21, 0xFF3A), (0xFF41, 0xFF5A),
  (0x10400, 0x1044F), (0x104B0, 0x104D3), (0x104D8, 0x104FB),
  (0x10570, 0x1057A), (0x1057C, 0x1058A), (0x1058C, 0x10592),
  (0x10594, 0x10595), (0x10597, 0x105A1), (0x105A3, 0x105B1),
  (0x105B3, 0x105B9), (0x105BB, 0x105BC), (0x10C80, 0x10CB2),
  (0x10CC0, 0x10CF2), (0x10D50, 0x10D65), (0x10D70, 0x10D85),
  (0x118A0, 0x118DF), (0x16E40, 0x16E7F), (0x16EA0, 0x16EB8),
  (0x16EBB, 0x16ED3), (0x1E900, 0x1E943)]

/-- Roman numerals, capital and small. -/
def isRoman (c : Char) : Bool :=
  liesIn [(0x2160, 0x217F)] c.toNat c.toNat

theorem isLetter_of_casedLetters {c : Char}
    (h : liesIn casedLetters c.toNat c.toNat = true) : isLetter c = true := by
  have hall : casedLetters.all (fun range => isStretch range.1 range.2)
      = true := by decide +kernel
  obtain ⟨range, hrange, hfirst, hlast⟩ := liesIn_iff.mp h
  exact isLetter_of_isStretch (List.all_eq_true.mp hall range hrange)
    hfirst hlast

theorem isRoman_iff {c : Char} :
    isRoman c = true ↔ 0x2160 ≤ c.toNat ∧ c.toNat ≤ 0x217F :=
  liesIn_one

theorem category_of_isRoman {c : Char} (h : isRoman c = true) :
    category c = .nl := by
  have hrange := isRoman_iff.mp h
  exact category_of_isRun (by decide +kernel) hrange.1 hrange.2

/-- Each way of changing to the small form keeps to letters, to Roman numerals
or to enclosed letters. -/
theorem moveAlong_lowerRuns (n : Nat) :
    moveAlong lowerRuns n = n ∨
      (∃ ranges ∈ [casedLetters, [(0x2160, 0x217F)], [(0x24B6, 0x24E9)]],
        liesIn ranges n n = true ∧
          liesIn ranges (moveAlong lowerRuns n) (moveAlong lowerRuns n)
            = true) := by
  have hall : lowerRuns.all (fun run =>
      [casedLetters, [(0x2160, 0x217F)], [(0x24B6, 0x24E9)]].any
        fun ranges => run.stays ranges) = true := by decide +kernel
  rcases moveAlong_eq_or lowerRuns n with hstay | ⟨run, hrun, hcovers, hmove⟩
  · exact .inl hstay
  · obtain ⟨ranges, hranges, hstays⟩ :=
      List.any_eq_true.mp (List.all_eq_true.mp hall run hrun)
    rw [hmove]
    exact .inr ⟨ranges, hranges, CaseRun.liesIn_of_stays hstays hcovers⟩

theorem lowerChar_eq {c : Char} (h : c ≠ 'İ') :
    lowerChar c = [Char.ofNat (moveAlong lowerRuns c.toNat)] := by
  have hcode : (c.toNat == 0x130) = false := by
    rw [beq_eq_false_iff_ne]
    intro heq
    refine h (Char.toNat_inj.mp ?_)
    rw [heq]
    rfl
  simp [lowerChar, mapCase, lowerSeveral, severalFor, hcode]

theorem isValidChar_of_liesIn {ranges : List (Nat × Nat)} {n : Nat}
    (hranges : ranges.all (fun range =>
      range.2 < 0xD800 || (0xE000 ≤ range.1 && range.2 < 0x110000)) = true)
    (h : liesIn ranges n n = true) : n.isValidChar := by
  obtain ⟨range, hrange, hfirst, hlast⟩ := liesIn_iff.mp h
  have hchars := List.all_eq_true.mp hranges range hrange
  rw [Bool.or_eq_true, Bool.and_eq_true, decide_eq_true_eq, decide_eq_true_eq,
    decide_eq_true_eq] at hchars
  simp only [Nat.isValidChar]
  omega

/-- A letter or number has one small form, of its own kind, if it is not the
dotted capital. -/
theorem lowerChar_cases {c : Char} (hne : c ≠ 'İ') (hword : isWordChar c = true) :
    ∃ d, lowerChar c = [d] ∧
      (d = c ∨ (isLetter c = true ∧ isLetter d = true) ∨
        (isRoman c = true ∧ isRoman d = true)) := by
  refine ⟨_, lowerChar_eq hne, ?_⟩
  rcases moveAlong_lowerRuns c.toNat with hstay | ⟨ranges, hranges, hc, hd⟩
  · rw [hstay, Char.ofNat_toNat]
    exact .inl rfl
  · simp only [List.mem_cons, List.not_mem_nil, or_false] at hranges
    rcases hranges with rfl | rfl | rfl
    · have hvalid := isValidChar_of_liesIn (by decide) hd
      refine .inr (.inl ⟨isLetter_of_casedLetters hc, ?_⟩)
      refine isLetter_of_casedLetters ?_
      rw [Char.ofNat, dif_pos hvalid]
      exact hd
    · have hvalid := isValidChar_of_liesIn (by decide) hd
      refine .inr (.inr ⟨hc, ?_⟩)
      rw [isRoman, Char.ofNat, dif_pos hvalid]
      exact hd
    · have hplain := Name.not_isEnclosed_of_isWordChar hword
      have hrange := liesIn_one.mp hc
      simp [Name.isEnclosed, hrange] at hplain

theorem isNumeric_eq_false_of_isLetter {c : Char} (h : isLetter c = true) :
    isNumeric c = false := by
  rw [isLetter] at h
  rw [isNumeric]
  generalize category c = kind at h
  revert h
  cases kind <;> decide

theorem lowerChar_of_isLetter {c : Char} (hne : c ≠ 'İ')
    (h : isLetter c = true) : ∃ d, lowerChar c = [d] ∧ isLetter d = true := by
  have hword : isWordChar c = true := by rw [isWordChar, h, Bool.true_or]
  obtain ⟨d, hd, rfl | hletters | hroman⟩ := lowerChar_cases hne hword
  · exact ⟨_, hd, h⟩
  · exact ⟨d, hd, hletters.2⟩
  · rw [isLetter, category_of_isRoman hroman.1] at h
    cases h

theorem isDigit_eq_false_of_isRoman {c : Char} (h : isRoman c = true) :
    c.isDigit = false := by
  rw [Bool.eq_false_iff]
  intro hdigit
  have hcategory := Name.category_of_isDigit hdigit
  rw [category_of_isRoman h] at hcategory
  cases hcategory

/-- The small form of a number is a number of the same category. -/
theorem lowerChar_of_isNumeric {c : Char} (h : isNumeric c = true) :
    ∃ d, lowerChar c = [d] ∧ category d = category c ∧
      d.isDigit = c.isDigit := by
  have hword : isWordChar c = true := by rw [isWordChar, h, Bool.or_true]
  have hne : c ≠ 'İ' := by
    rintro rfl
    revert h
    decide
  obtain ⟨d, hd, rfl | hletters | hroman⟩ := lowerChar_cases hne hword
  · exact ⟨_, hd, rfl, rfl⟩
  · rw [isNumeric_eq_false_of_isLetter hletters.1] at h
    cases h
  · refine ⟨d, hd, ?_, ?_⟩
    · rw [category_of_isRoman hroman.1, category_of_isRoman hroman.2]
    · rw [isDigit_eq_false_of_isRoman hroman.1,
        isDigit_eq_false_of_isRoman hroman.2]

theorem lowerChar_dotted : lowerChar 'İ' = ['i', Char.ofNat 0x307] := by
  decide

theorem isDigit_eq_false_of_isLetter {c : Char} (h : isLetter c = true) :
    c.isDigit = false := by
  rw [Bool.eq_false_iff]
  intro hdigit
  rw [isLetter, Name.category_of_isDigit hdigit] at h
  cases h

theorem isDecimal_eq_false_of_isLetter {c : Char} (h : isLetter c = true) :
    isDecimal c = false := by
  rw [Bool.eq_false_iff]
  intro hdecimal
  rw [isDecimal, beq_iff_eq] at hdecimal
  rw [isLetter, hdecimal] at h
  cases h

/-- Two letters, or two numbers of one category of which both are ASCII digits
or neither is. -/
structure SameKind (c d : Char) : Prop where
  word : isWordChar d = true
  numeric : isNumeric d = isNumeric c
  decimal : isDecimal d = isDecimal c
  digit : d.isDigit = c.isDigit

theorem SameKind.of_letters {c d : Char} (hc : isLetter c = true)
    (hd : isLetter d = true) : SameKind c d where
  word := by rw [isWordChar, hd, Bool.true_or]
  numeric := by
    rw [isNumeric_eq_false_of_isLetter hc, isNumeric_eq_false_of_isLetter hd]
  decimal := by
    rw [isDecimal_eq_false_of_isLetter hc, isDecimal_eq_false_of_isLetter hd]
  digit := by
    rw [isDigit_eq_false_of_isLetter hc, isDigit_eq_false_of_isLetter hd]

/-- The small form of a letter or number opens on one of the same kind, that of
the dotted capital included. -/
theorem exists_lowerChar_cons {c : Char} (h : isWordChar c = true) :
    ∃ d rest, lowerChar c = d :: rest ∧ SameKind c d := by
  by_cases hdotted : c = 'İ'
  · subst hdotted
    exact ⟨'i', _, lowerChar_dotted,
      .of_letters (by decide) (by decide)⟩
  · have hkinds := h
    rw [isWordChar, Bool.or_eq_true] at hkinds
    rcases hkinds with hletter | hnumeric
    · obtain ⟨d, hd, hletter'⟩ := lowerChar_of_isLetter hdotted hletter
      exact ⟨d, [], hd, .of_letters hletter hletter'⟩
    · obtain ⟨d, hd, hcategory, hdigit⟩ := lowerChar_of_isNumeric hnumeric
      refine ⟨d, [], hd, ?_, ?_, ?_, hdigit⟩
      · rwa [isWordChar, isLetter, isNumeric, hcategory]
      · rw [isNumeric, hcategory, isNumeric]
      · rw [isDecimal, hcategory, isDecimal]

/-! ## Ranges entered only from inside -/

section Ranges

variable {first last : Nat}

theorem mem_range_of_moveAlong {runs : List CaseRun}
    (hruns : runs.all (CaseRun.keepsOut first last) = true) (hpos : 0 < first)
    {n : Nat} (hfirst : first ≤ moveAlong runs n)
    (hlast : moveAlong runs n ≤ last) : first ≤ n ∧ n ≤ last := by
  rcases moveAlong_eq_or runs n with hstay | ⟨run, hrun, hcovers, hmove⟩
  · rw [hstay] at hfirst hlast
    exact ⟨hfirst, hlast⟩
  · have hkeeps := List.all_eq_true.mp hruns run hrun
    obtain ⟨hge, hle, -⟩ := CaseRun.covers_iff.mp hcovers
    rw [hmove, CaseRun.image] at hfirst hlast
    simp only [CaseRun.keepsOut, Bool.or_eq_true, Bool.and_eq_true,
      decide_eq_true_eq] at hkeeps
    omega

theorem mem_range_of_mapCase {several : List (Nat × List Nat)}
    {runs : List CaseRun}
    (hseveral : several.all (fun row => row.2.all fun n =>
      !liesIn [(first, last)] (Char.ofNat n).toNat (Char.ofNat n).toNat) = true)
    (hruns : runs.all (CaseRun.keepsOut first last) = true) (hpos : 0 < first)
    {c d : Char} (hd : d ∈ mapCase several runs c)
    (h : liesIn [(first, last)] d.toNat d.toNat = true) :
    liesIn [(first, last)] c.toNat c.toNat = true := by
  by_contra hout
  have hmoved : (!liesIn [(first, last)]
      (Char.ofNat (moveAlong runs c.toNat)).toNat
      (Char.ofNat (moveAlong runs c.toNat)).toNat) = true := by
    rw [Bool.not_eq_true', Bool.eq_false_iff]
    intro hin
    refine hout ?_
    rw [liesIn_one] at hin ⊢
    by_cases hvalid : (moveAlong runs c.toNat).isValidChar
    · rw [Char.ofNat, dif_pos hvalid] at hin
      exact mem_range_of_moveAlong hruns hpos hin.1 hin.2
    · rw [Char.ofNat, dif_neg hvalid] at hin
      exact absurd hin.1 (Nat.not_le.mpr hpos)
  have hnot := of_mem_mapCase
    (p := fun e => !liesIn [(first, last)] e.toNat e.toNat) hseveral hmoved hd
  simp only [h] at hnot
  cases hnot

end Ranges

theorem isRoman_of_mem_upperChar {c d : Char} (hd : d ∈ upperChar c)
    (h : isRoman d = true) : isRoman c = true :=
  mem_range_of_mapCase (by decide) (by decide) (by decide) hd h

theorem liesIn_singleton {c d : Char} :
    liesIn [(d.toNat, d.toNat)] c.toNat c.toNat = true ↔ c = d := by
  rw [← Char.toNat_inj, liesIn_one]
  exact ⟨fun h => Nat.le_antisymm h.2 h.1,
    fun h => ⟨Nat.le_of_eq h.symm, Nat.le_of_eq h⟩⟩

/-- A character that no other one is changed to. -/
theorem eq_of_mem_mapCase {several : List (Nat × List Nat)}
    {runs : List CaseRun} {c d : Char}
    (hseveral : several.all (fun row => row.2.all fun n =>
      !liesIn [(d.toNat, d.toNat)] (Char.ofNat n).toNat (Char.ofNat n).toNat)
        = true)
    (hruns : runs.all (CaseRun.keepsOut d.toNat d.toNat) = true)
    (hpos : 0 < d.toNat) (h : d ∈ mapCase several runs c) : c = d :=
  liesIn_singleton.mp
    (mem_range_of_mapCase hseveral hruns hpos h (liesIn_singleton.mpr rfl))

theorem underscore_of_mem_upperChar {c : Char} (h : '_' ∈ upperChar c) :
    c = '_' :=
  eq_of_mem_mapCase (by decide) (by decide) (by decide) h

theorem dotted_mem_upperChar {c : Char} : 'İ' ∈ upperChar c ↔ c = 'İ' := by
  constructor
  · exact eq_of_mem_mapCase (by decide) (by decide) (by decide)
  · rintro rfl
    decide

theorem dotted_not_mem_lowerChar (c : Char) : 'İ' ∉ lowerChar c := by
  intro h
  have hc : c = 'İ' := eq_of_mem_mapCase (by decide)
    (by decide) (by decide) h
  rw [hc, lowerChar_dotted] at h
  revert h
  decide

/-! ## Uppercase characters are alphanumeric -/

/-- No range begins or ends between the first code point and the last. -/
theorem inRanges_eq_of_all {ranges : List (Nat × Nat)} {first last n : Nat}
    (h : ranges.all (fun range => (range.1 ≤ first || last < range.1) &&
      (range.2 < first || last ≤ range.2)) = true)
    (hfirst : first ≤ n) (hlast : n ≤ last) :
    inRanges ranges n = inRanges ranges first := by
  induction ranges with
  | nil => rfl
  | cons range ranges ih =>
      rw [List.all_cons, Bool.and_eq_true] at h
      obtain ⟨hends, hrest⟩ := h
      simp only [Bool.and_eq_true, Bool.or_eq_true, decide_eq_true_eq] at hends
      have hbegin : n < range.1 ↔ first < range.1 := by omega
      have hend : n ≤ range.2 ↔ first ≤ range.2 := by omega
      simp only [inRanges, hbegin, hend, ih hrest]

theorem exists_of_inRanges {ranges : List (Nat × Nat)} {n : Nat}
    (h : inRanges ranges n = true) :
    ∃ range ∈ ranges, range.1 ≤ n ∧ n ≤ range.2 := by
  induction ranges with
  | nil => cases h
  | cons range ranges ih =>
      rw [inRanges] at h
      split at h
      · cases h
      · next hfirst =>
          rw [Bool.or_eq_true, decide_eq_true_eq] at h
          rcases h with hlast | hrest
          · exact ⟨range, List.mem_cons_self, Nat.le_of_not_lt hfirst, hlast⟩
          · obtain ⟨other, hother, hmem⟩ := ih hrest
            exact ⟨other, List.mem_cons_of_mem _ hother, hmem⟩

theorem isAlphanumeric_of_isUppercase {c : Char} (h : isUppercase c = true) :
    isAlphanumeric c = true := by
  rw [isUppercase, Bool.or_eq_true] at h
  rcases h with hcapital | hother
  · rw [isCapital, beq_iff_eq] at hcapital
    refine isAlphanumeric_of_isWordChar ?_
    rw [isWordChar, isLetter, hcapital]
    rfl
  · have hranges : isRoman c = true ∨
        inRanges otherAlphabetic c.toNat = true := by
      obtain ⟨range, hrange, hfirst, hlast⟩ := exists_of_inRanges hother
      have henclosed : inRanges otherAlphabetic range.1 = true →
          otherAlphabetic.all (fun other =>
            (other.1 ≤ range.1 || range.2 < other.1) &&
              (other.2 < range.1 || range.2 ≤ other.2)) = true →
          inRanges otherAlphabetic c.toNat = true := by
        intro hin hall
        rwa [inRanges_eq_of_all hall hfirst hlast]
      simp only [otherUppercase, List.mem_cons, List.not_mem_nil, or_false]
        at hrange
      rcases hrange with rfl | rfl | rfl | rfl | rfl
      · exact .inl (isRoman_iff.mpr ⟨hfirst, Nat.le_trans hlast (by decide)⟩)
      · exact .inr (henclosed (by decide +kernel) (by decide +kernel))
      · exact .inr (henclosed (by decide +kernel) (by decide +kernel))
      · exact .inr (henclosed (by decide +kernel) (by decide +kernel))
      · exact .inr (henclosed (by decide +kernel) (by decide +kernel))
    rcases hranges with hroman | halphabetic
    · refine isAlphanumeric_of_isWordChar ?_
      rw [isWordChar, isNumeric, category_of_isRoman hroman]
      exact Bool.or_true _
    · rw [isAlphanumeric, isAlphabetic, halphabetic, Bool.or_true, Bool.true_or]

end Recast.Unicode
