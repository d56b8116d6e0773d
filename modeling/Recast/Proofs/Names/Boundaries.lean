import Mathlib.Data.List.SplitBy
import Recast.Proofs.Names.Passes

/-!
# The words of a key in one pass

Where a word opens can be told from the text around a letter or number: it is
the first one, or the character in front of it is a separator, or the two make
a seam, which is a hump or the last capital of an acronym. So the two passes and
the cut at the separators do what one pass over the key does.

Both passes put spaces in at places that depend only on the characters around
the place, and `spaceAt` is this in general. The second pass runs over what the
first one made, but a space is part of no hump, so together they put spaces in
at all the seams (`spaceHumps_spaceAcronyms`). Which of the two places a seam is
does not matter for the cut.
-/

namespace Recast.Name

open Unicode (isCapital isDecimal isSmall isWordChar)

/-! ## Where a word opens -/

/-- A capital directly behind a small letter or a decimal digit. -/
def isHump (x y : Char) : Bool :=
  (isSmall x || isDecimal x) && isCapital y

/-- A capital between a capital and a small letter, with what stands behind
it. -/
def endsAcronym (x y : Char) (after : List Char) : Bool :=
  isCapital x && isCapital y && after.head?.any isSmall

def isSeam (x y : Char) (after : List Char) : Bool :=
  isHump x y || endsAcronym x y after

/-- Whether the word of the letter or number `x` goes on behind it. -/
def goesOn (x : Char) : List Char → Bool
  | [] => false
  | y :: after => isWordChar y && !isSeam x y after

/-- Whether the letter or number `y` opens a word. What stands in front of it is
given with the nearest character first. -/
def opensWord (before : List Char) (y : Char) (after : List Char) : Bool :=
  !before.any isWordChar ||
    before.head?.any fun x => !isWordChar x || isSeam x y after

/-- The letters and numbers of a text, with whether they open a word. -/
def marked (before : List Char) : List Char → List (Char × Bool)
  | [] => []
  | y :: after =>
    if isWordChar y then
      (y, opensWord before y after) :: marked (y :: before) after
    else marked (y :: before) after

/-- Cuts in front of the marks. The first character opens a word with or without
one. -/
def cutAtMarks (s : List (Char × Bool)) : List (List Char) :=
  (s.splitBy fun _ next => !next.2).map fun word => word.map Prod.fst

/-- The words of a key by one pass over its letters and numbers. -/
def wordsAtOnce (key : List Char) : List (List Char) :=
  cutAtMarks (marked [] key)

/-! ## Spaces at the seams -/

/-- Puts a space between `x` and `y` where `x`, `y` and the text behind them are
of a kind. -/
def spaceAt (kind : Char → Char → List Char → Bool) : List Char → List Char
  | x :: y :: after =>
    if kind x y after then x :: ' ' :: spaceAt kind (y :: after)
    else x :: spaceAt kind (y :: after)
  | s => s

variable {kind : Char → Char → List Char → Bool} {c x y : Char}
variable {before run s : List Char}

theorem spaceAt_cons (h : ∀ d after, s = d :: after → kind c d after = false) :
    spaceAt kind (c :: s) = c :: spaceAt kind s := by
  match s with
  | [] => rfl
  | d :: after => rw [spaceAt, h d after rfl, if_neg Bool.false_ne_true]

theorem spaceAt_short (h : ∀ x y after, s = x :: y :: after → False) :
    spaceAt kind s = s := by
  match s with
  | [] => rfl
  | [_] => rfl
  | x :: y :: after => exact (h x y after rfl).elim

/-- A text that spaces are put into opens on what it opened on. -/
theorem head?_spaceAt (s : List Char) : (spaceAt kind s).head? = s.head? := by
  fun_cases spaceAt kind s <;> rfl

theorem isHump_of_isCapital (h : isCapital x = true) (y : Char) :
    isHump x y = false := by
  rw [isCapital, beq_iff_eq] at h
  rw [isHump, isSmall, isDecimal, h]
  rfl

theorem endsAcronym_of_not (h : isCapital x = false) (y : Char)
    (after : List Char) : endsAcronym x y after = false := by
  rw [endsAcronym, h]
  rfl

/-- Before another capital no acronym ends. -/
theorem endsAcronym_of_head? {d : Char} {after : List Char}
    (hd : after.head? = some d) (hcapital : isCapital d = true) :
    endsAcronym x y after = false := by
  rw [endsAcronym, hd, Option.any_some, not_isSmall_of_isCapital hcapital,
    Bool.and_false]

theorem spaceHumps_eq_spaceAt (s : List Char) :
    spaceHumps s = spaceAt (fun x y _ => isHump x y) s := by
  fun_induction spaceHumps s with
  | case1 x y rest hump ih =>
      have hy : isCapital y = true := (Bool.and_eq_true_iff.mp hump).2
      rw [spaceAt, if_pos (show isHump x y = true from hump), ih,
        spaceAt_cons fun d _ _ => isHump_of_isCapital hy d]
  | case2 x y rest hump ih =>
      rw [spaceAt, if_neg (show ¬isHump x y = true from hump), ih]
  | case3 s hshort => exact (spaceAt_short hshort).symm

theorem spaceAt_cons_of_not (h : isCapital c = false) (s : List Char) :
    spaceAt endsAcronym (c :: s) = c :: spaceAt endsAcronym s :=
  spaceAt_cons fun d after _ => endsAcronym_of_not h d after

theorem spaceAt_kept (hrun : Capitals run) (hlet : LetsBe run s) :
    spaceAt endsAcronym (run ++ s) = run ++ spaceAt endsAcronym s := by
  induction run with
  | nil => rfl
  | cons x run ih =>
      have hrun := (List.forall_mem_cons.mp hrun).2
      have hnone : ∀ d after, run ++ s = d :: after →
          endsAcronym x d after = false := fun d after hbehind => by
        rw [endsAcronym, Bool.and_assoc, hlet.behind hrun hbehind,
          Bool.and_false]
      calc spaceAt endsAcronym (x :: run ++ s)
          = x :: spaceAt endsAcronym (run ++ s) := spaceAt_cons hnone
        _ = x :: run ++ spaceAt endsAcronym s :=
            congrArg (x :: ·) (ih hrun hlet.of_cons)

theorem spaceAt_set {last : Char} (hne : run ≠ [])
    (hrun : Capitals (run ++ [last])) (hc : isSmall c = true) :
    spaceAt endsAcronym (run ++ last :: c :: s)
      = run ++ ' ' :: last :: c :: spaceAt endsAcronym s := by
  induction run with
  | nil => exact absurd rfl hne
  | cons x run ih =>
      rw [List.cons_append] at hrun
      obtain ⟨hx, hrun⟩ := List.forall_mem_cons.mp hrun
      match run with
      | [] =>
          have hend : endsAcronym x last (c :: s) = true := by
            simp [endsAcronym, hx, hrun last, hc]
          have hc := not_isCapital_of_isSmall hc
          have hlast : ∀ d after, c :: s = d :: after →
              endsAcronym last d after = false := by
            rintro _ _ ⟨⟩
            rw [endsAcronym, hc, Bool.and_false, Bool.false_and]
          rw [List.cons_append, List.nil_append, spaceAt, if_pos hend,
            spaceAt_cons hlast, spaceAt_cons_of_not hc]
          rfl
      | y :: run =>
          have hnone : ∀ d after, y :: run ++ last :: c :: s = d :: after →
              endsAcronym x d after = false := by
            rintro _ _ ⟨⟩
            match run with
            | [] => exact endsAcronym_of_head? rfl (hrun last (by simp))
            | d :: run => exact endsAcronym_of_head? rfl (hrun d (by simp))
          rw [List.cons_append, spaceAt_cons hnone,
            ih (List.cons_ne_nil y run) hrun]
          rfl

theorem spaceAcronyms_eq_spaceAt (s : List Char) :
    spaceAcronyms s = spaceAt endsAcronym s :=
  spaceAcronymsAfter_eq_of (f := spaceAt endsAcronym) rfl
    (fun _ s hc => spaceAt_cons_of_not hc s)
    (fun _ _ hrun hlet => spaceAt_kept hrun hlet)
    (fun _ _ _ _ hne hrun hc => spaceAt_set hne hrun hc) nofun

theorem spaceHumps_spaceAcronyms (s : List Char) :
    spaceHumps (spaceAcronyms s) = spaceAt isSeam s := by
  rw [spaceHumps_eq_spaceAt, spaceAcronyms_eq_spaceAt]
  have hspace : ∀ x, isHump x ' ' = false := fun x => by
    rw [isHump, show isCapital ' ' = false by decide, Bool.and_false]
  have hspaced : (isSmall ' ' || isDecimal ' ') = false := by decide
  fun_induction spaceAt endsAcronym s with
  | case1 x y after h ih =>
      have hseam : isSeam x y after = true := by rw [isSeam, h, Bool.or_true]
      rw [spaceAt, hspace, if_neg Bool.false_ne_true,
        spaceAt_cons fun d _ _ => by rw [isHump, hspaced, Bool.false_and], ih,
        spaceAt, if_pos hseam]
  | case2 x y after h ih =>
      have hseam : isSeam x y after = isHump x y := by
        rw [isSeam, Bool.eq_false_iff.mpr h, Bool.or_false]
      obtain ⟨t, ht⟩ : ∃ t, spaceAt endsAcronym (y :: after) = y :: t :=
        List.head?_eq_some_iff.mp (head?_spaceAt (y :: after))
      rw [ht, spaceAt, ← ht, ih, spaceAt, hseam]
  | case3 s hshort => rw [spaceAt_short hshort, spaceAt_short hshort]

/-! ## The pieces of a text -/

theorem pieces_cons_of_not (h : isWordChar c = false) (s : List Char) :
    pieces (c :: s) = pieces s := by
  rw [pieces, List.splitOnP_cons_eq_if_modifyHead]
  simp [h, pieces]

/-- A letter or number in front of a separator, or of nothing, is a piece. -/
theorem pieces_cons_of_head? (hc : isWordChar c = true)
    (h : ∀ d ∈ s.head?, isWordChar d = false) :
    pieces (c :: s) = [c] :: pieces s := by
  match s with
  | [] => simp [pieces, hc, List.splitOnP_cons_eq_if_modifyHead]
  | d :: s =>
      simp [pieces, hc, h d rfl, List.splitOnP_cons_eq_if_modifyHead]

/-- A letter or number in front of another goes into its piece. -/
theorem pieces_cons_cons (hc : isWordChar c = true) (hx : isWordChar x = true)
    (s : List Char) :
    pieces (c :: x :: s) = (pieces (x :: s)).modifyHead (c :: ·) := by
  obtain ⟨piece, others, hsplit⟩ := List.exists_cons_of_ne_nil
    (List.splitOnP_ne_nil (fun d => !isWordChar d) s)
  simp [pieces, hc, hx, hsplit, List.splitOnP_cons_eq_if_modifyHead]

/-! ## The pieces of a text with spaces at the seams -/

theorem pieces_spaceAt_of_not (h : isWordChar c = false) (s : List Char) :
    pieces (spaceAt kind (c :: s)) = pieces (spaceAt kind s) := by
  match s with
  | [] => exact pieces_cons_of_not h []
  | d :: after =>
      rw [spaceAt]
      split
      · rw [pieces_cons_of_not h, pieces_cons_of_not not_isWordChar_space]
      · rw [pieces_cons_of_not h]

theorem pieces_spaceAt_of_ends (hc : isWordChar c = true)
    (h : goesOn c s = false) :
    pieces (spaceAt isSeam (c :: s)) = [c] :: pieces (spaceAt isSeam s) := by
  match s with
  | [] => exact pieces_cons_of_head? hc (by simp)
  | d :: after =>
      have hspace := not_isWordChar_space
      rw [spaceAt]
      split
      next hseam =>
        rw [pieces_cons_of_head? hc (by simpa using hspace),
          pieces_cons_of_not hspace]
      next hseam =>
        have hd : isWordChar d = false := by simpa [goesOn, hseam] using h
        exact pieces_cons_of_head? hc (by simpa [head?_spaceAt] using hd)

theorem pieces_spaceAt_of_goesOn (hc : isWordChar c = true)
    (h : goesOn c s = true) :
    pieces (spaceAt isSeam (c :: s))
      = (pieces (spaceAt isSeam s)).modifyHead (c :: ·) := by
  match s with
  | d :: after =>
      obtain ⟨hd, hseam⟩ : isWordChar d = true ∧ isSeam c d after = false := by
        simpa [goesOn] using h
      obtain ⟨t, ht⟩ : ∃ t, spaceAt isSeam (d :: after) = d :: t :=
        List.head?_eq_some_iff.mp (head?_spaceAt (d :: after))
      rw [spaceAt, hseam, if_neg Bool.false_ne_true, ht,
        pieces_cons_cons hc hd]

/-! ## Marks -/

variable {m n : Char × Bool} {marks : List (Char × Bool)}

theorem cutAtMarks_cons_of_head? (h : ∀ n ∈ marks.head?, n.2 = true) :
    cutAtMarks (m :: marks) = [m.1] :: cutAtMarks marks := by
  have hcut := List.splitBy_append (r := fun _ next : Char × Bool => !next.2)
    (l := [m]) (m := marks) fun _ _ n hn => by rw [h n hn]; rfl
  rw [cutAtMarks, ← List.singleton_append, hcut]
  rfl

/-- An element that does not begin a group goes into the group behind it. -/
theorem splitBy_cons_cons {α : Type} {r : α → α → Bool} {a b : α}
    (h : r a b = true) (l : List α) :
    (a :: b :: l).splitBy r = ((b :: l).splitBy r).modifyHead (a :: ·) := by
  obtain ⟨group, others, hgroups⟩ := List.exists_cons_of_ne_nil
    (List.splitBy_ne_nil.mpr (List.cons_ne_nil b l) : (b :: l).splitBy r ≠ [])
  obtain ⟨hflatten, hnil, hchains, hchain⟩ := List.splitBy_eq_iff.mp hgroups
  obtain ⟨d, group, rfl⟩ := List.exists_cons_of_ne_nil (l := group) <| by
    rintro rfl
    exact hnil List.mem_cons_self
  obtain rfl : b = d := (List.cons.inj hflatten).1
  rw [hgroups, List.modifyHead_cons]
  refine List.splitBy_eq_iff.mpr ⟨congrArg (a :: ·) hflatten, ?_, ?_, ?_⟩
  · simpa using hnil
  · rw [List.forall_mem_cons] at hchains ⊢
    exact ⟨List.isChain_cons_cons.mpr ⟨h, hchains.1⟩, hchains.2⟩
  · match others with
    | [] => exact List.isChain_singleton _
    | other :: others =>
        obtain ⟨⟨hlast, hfirst, hcut⟩, hothers⟩ :=
          List.isChain_cons_cons.mp hchain
        exact List.isChain_cons_cons.mpr
          ⟨⟨List.cons_ne_nil _ _, hfirst, hcut⟩, hothers⟩

theorem cutAtMarks_cons_cons (h : n.2 = false) :
    cutAtMarks (m :: n :: marks)
      = (cutAtMarks (n :: marks)).modifyHead (m.1 :: ·) := by
  rw [cutAtMarks, splitBy_cons_cons (by rw [h]; rfl), cutAtMarks]
  cases (n :: marks).splitBy fun _ next => !next.2 <;> rfl

/-- The first mark is an opening, if no word in front of the text goes on in
it. -/
theorem opens_head?_marked
    (h : ∀ x ∈ before.head?, isWordChar x = true → goesOn x s = false) :
    ∀ n ∈ (marked before s).head?, n.2 = true := by
  fun_induction marked before s with
  | case1 => exact fun _ h => nomatch h
  | case2 before y after hy ih =>
      rintro _ ⟨⟩
      match before with
      | [] => rfl
      | x :: before =>
          by_cases hx : isWordChar x = true
          · have hseam : isSeam x y after = true := by
              simpa [goesOn, hy] using h x rfl hx
            simp [opensWord, hseam]
          · simp [opensWord, hx]
  | case3 before y after hy ih =>
      refine ih fun x hx hword => ?_
      cases hx
      exact absurd hword hy

theorem opensWord_of_goesOn {after : List Char} (hx : isWordChar x = true)
    (h : goesOn x (y :: after) = true) :
    opensWord (x :: before) y after = false := by
  have hseam : isSeam x y after = false := by
    simpa using (Bool.and_eq_true_iff.mp h).2
  simp [opensWord, hx, hseam]

/-! ## The words -/

/-- What stands in front of a text does not matter for its first word, which
opens there anyway. -/
theorem pieces_spaceAt (before s : List Char) :
    pieces (spaceAt isSeam s) = cutAtMarks (marked before s) := by
  induction s generalizing before with
  | nil => rfl
  | cons y s ih =>
      by_cases hy : isWordChar y = true
      case neg =>
        rw [marked, if_neg hy, ← ih (y :: before)]
        exact pieces_spaceAt_of_not (by simpa using hy) s
      case pos =>
        rw [marked, if_pos hy]
        by_cases hon : goesOn y s = true
        case neg =>
          have hends : goesOn y s = false := by simpa using hon
          have hmarks : ∀ n ∈ (marked (y :: before) s).head?, n.2 = true := by
            refine opens_head?_marked ?_
            rintro _ ⟨⟩ -
            exact hends
          rw [pieces_spaceAt_of_ends hy hends, cutAtMarks_cons_of_head? hmarks,
            ih (y :: before)]
        case pos =>
          rw [pieces_spaceAt_of_goesOn hy hon, ih (y :: before)]
          match s with
          | z :: rest =>
              have hz : isWordChar z = true := (Bool.and_eq_true_iff.mp hon).1
              rw [marked, if_pos hz, cutAtMarks_cons_cons (m := (y, _))
                (opensWord_of_goesOn hy hon)]

/-- The words of a key are the pieces of its two rewritings, and they are what
one pass over the key finds. None is empty, and together they are the letters
and numbers of the key. -/
theorem words_eq_wordsAtOnce (key : List Char) :
    words key = pieces (Pattern.hump.rewrite (Pattern.acronym.rewrite key))
      ∧ words key = wordsAtOnce key
      ∧ (∀ word ∈ words key, word ≠ [])
      ∧ (words key).flatten = key.filter isWordChar := by
  refine ⟨?rewritings, ?once, fun _ => ne_nil_of_mem_words, flatten_words key⟩
  case rewritings =>
    rw [words, spaceHumps_eq_rewrite, spaceAcronyms_eq_rewrite]
  case once =>
    rw [words, spaceHumps_spaceAcronyms, pieces_spaceAt []]
    rfl

/-- The two passes meet here: a seam of one kind directly behind one of the
other. -/
example : wordsAtOnce "aBCd1EFg".toList
    = ["a".toList, "B".toList, "Cd1".toList, "E".toList, "Fg".toList] := by
  decide +kernel

end Recast.Name
