import Recast.Proofs.Names.Openings

/-!
# The two passes are rewritings

Before a key is cut at its separators, two passes put spaces in. Each of them is
a pattern with two groups, and what is put in is a space between the groups:
`(\p{Ll}|\p{Nd})(\p{Lu})` for humps and `(\p{Lu}+)(\p{Lu}\p{Ll})` for acronyms.

A pattern is taken here as the list of its ways to match at the front of a text,
the way that is tried first in front. So a repetition lists the long matches
before the short ones, and what stands behind it may reject the long ones. A
text is rewritten from left to right, and the search goes on behind a match.

The hump pass looks at two characters at a time and does literally this. The
acronym pass reads a run of capitals before it decides, so it is compared by
what it does to such a run: `spaceAcronymsAfter_eq_of` says which equations make
a function on texts the acronym pass.
-/

namespace Recast.Name

open Unicode (isCapital isSmall isDecimal)

/-! ## Patterns -/

/-- The ways to match at the front of a text, in the order in which they are
tried: what is taken and what is left. -/
abbrev Matcher := List Char → List (List Char × List Char)

/-- One character of a class. -/
def one (p : Char → Bool) : Matcher
  | [] => []
  | c :: s => if p c then [([c], s)] else []

/-- At least one character of a class, more before fewer. -/
def oneOrMore (p : Char → Bool) : Matcher
  | [] => []
  | c :: s =>
    if p c then (oneOrMore p s).map (fun m => (c :: m.1, m.2)) ++ [([c], s)]
    else []

def Matcher.followedBy (first second : Matcher) : Matcher := fun s =>
  (first s).flatMap fun m => (second m.2).map fun n => (m.1 ++ n.1, n.2)

/-- A pattern of two groups. -/
structure Pattern where
  first : Matcher
  second : Matcher

namespace Pattern

/-- The two groups in each of the ways to match. -/
def groups (pattern : Pattern) (s : List Char) : List (List Char × List Char) :=
  (pattern.first s).flatMap fun m =>
    (pattern.second m.2).map fun n => (m.1, n.1)

/-- Rewrites a text, its first `skip` characters being left out. -/
def rewriteFrom (pattern : Pattern) : Nat → List Char → List Char
  | _, [] => []
  | skip + 1, _ :: s => pattern.rewriteFrom skip s
  | 0, c :: s =>
    match (pattern.groups (c :: s)).head? with
    | none => c :: pattern.rewriteFrom 0 s
    | some (a, b) =>
      a ++ ' ' :: b ++ pattern.rewriteFrom (a.length + b.length - 1) s

/-- Puts a space between the groups of each match. -/
def rewrite (pattern : Pattern) (s : List Char) : List Char :=
  pattern.rewriteFrom 0 s

/-- `(\p{Ll}|\p{Nd})(\p{Lu})` -/
def hump : Pattern where
  first := one fun c => isSmall c || isDecimal c
  second := one isCapital

/-- `(\p{Lu}+)(\p{Lu}\p{Ll})` -/
def acronym : Pattern where
  first := oneOrMore isCapital
  second := (one isCapital).followedBy (one isSmall)

variable {pattern : Pattern} {a b s t : List Char} {c : Char}

theorem rewrite_cons_of_none (h : (pattern.groups (c :: s)).head? = none) :
    pattern.rewrite (c :: s) = c :: pattern.rewrite s := by
  rw [rewrite, rewriteFrom, h]
  rfl

theorem rewriteFrom_length (s t : List Char) :
    pattern.rewriteFrom s.length (s ++ t) = pattern.rewrite t := by
  induction s with
  | nil => rfl
  | cons c s ih =>
      rw [List.length_cons, List.cons_append, rewriteFrom]
      exact ih

/-- The search goes on behind a match. -/
theorem rewrite_of_some (ha : a ≠ [])
    (h : (pattern.groups (a ++ b ++ t)).head? = some (a, b)) :
    pattern.rewrite (a ++ b ++ t) = a ++ ' ' :: b ++ pattern.rewrite t := by
  obtain ⟨c, a, rfl⟩ := List.exists_cons_of_ne_nil ha
  rw [List.cons_append, List.cons_append] at h ⊢
  rw [rewrite, rewriteFrom, h]
  simp only
  rw [List.length_cons, Nat.succ_add_sub_one, ← List.length_append,
    rewriteFrom_length]

end Pattern

/-! ## Humps -/

theorem groups_hump (x y : Char) (s : List Char) :
    Pattern.hump.groups (x :: y :: s)
      = if (isSmall x || isDecimal x) && isCapital y then [([x], [y])]
        else [] := by
  by_cases hx : (isSmall x || isDecimal x) = true <;>
    by_cases hy : isCapital y = true <;>
    simp [Pattern.groups, Pattern.hump, one, hx, hy]

/-- The hump pass is the rewriting of humps. -/
theorem spaceHumps_eq_rewrite (s : List Char) :
    spaceHumps s = Pattern.hump.rewrite s := by
  fun_induction spaceHumps s with
  | case1 x y rest hump ih =>
      have hgroups : (Pattern.hump.groups ([x] ++ [y] ++ rest)).head?
          = some ([x], [y]) :=
        congrArg List.head? ((groups_hump x y rest).trans (if_pos hump))
      rw [ih]
      exact (Pattern.rewrite_of_some (List.cons_ne_nil x []) hgroups).symm
  | case2 x y rest hump ih =>
      have hgroups : (Pattern.hump.groups (x :: y :: rest)).head? = none :=
        congrArg List.head? ((groups_hump x y rest).trans (if_neg hump))
      rw [ih, ← Pattern.rewrite_cons_of_none hgroups]
  | case3 s hshort =>
      rcases s with _ | ⟨x, _ | ⟨y, rest⟩⟩
      · rfl
      · have hgroups : (Pattern.hump.groups [x]).head? = none := by
          rw [Pattern.groups, Pattern.hump]
          simp only [one]
          split <;> rfl
        rw [Pattern.rewrite_cons_of_none hgroups]
        rfl
      · exact (hshort x y rest rfl).elim

/-! ## Acronyms -/

/-- A run of capitals. -/
def Capitals (run : List Char) : Prop :=
  ∀ c ∈ run, isCapital c = true

variable {c last : Char} {run s : List Char}

theorem not_isCapital_of_isSmall (h : isSmall c = true) :
    isCapital c = false := by
  rw [isSmall, beq_iff_eq] at h
  rw [isCapital, h]
  rfl

theorem not_isSmall_of_isCapital (h : isCapital c = true) :
    isSmall c = false := by
  rw [isCapital, beq_iff_eq] at h
  rw [isSmall, h]
  rfl

/-- What stands behind a run of capitals lets it be: it does not go on, and if
it is a small letter the run is of one capital. -/
def LetsBe (run s : List Char) : Prop :=
  ∀ c ∈ s.head?, isCapital c = false ∧ (isSmall c = true → run.length < 2)

theorem LetsBe.of_cons (h : LetsBe (c :: run) s) : LetsBe run s :=
  fun d hd => ⟨(h d hd).1, fun hsmall =>
    Nat.lt_of_succ_lt ((h d hd).2 hsmall)⟩

/-- In a run that is let be, no capital stands in front of a small letter behind
another capital. -/
theorem LetsBe.behind {d : Char} {after : List Char} (h : LetsBe (c :: run) s)
    (hrun : Capitals run) (hbehind : run ++ s = d :: after) :
    (isCapital d && after.head?.any isSmall) = false := by
  match run, s with
  | [], [] => cases hbehind
  | [], e :: s =>
      cases hbehind
      rw [(h d rfl).1, Bool.false_and]
  | [_], [] =>
      cases hbehind
      exact Bool.and_false _
  | [_], e :: s =>
      cases hbehind
      have he : isSmall e = false := Bool.eq_false_iff.mpr fun hsmall =>
        absurd ((h e rfl).2 hsmall) (Nat.lt_irrefl 2)
      simp [he]
  | _ :: e :: run, s =>
      cases hbehind
      have he : isSmall e = false := not_isSmall_of_isCapital (hrun e (by simp))
      simp [he]

/-- A function on texts is the acronym pass if it keeps every other character,
keeps a run of capitals that is let be, and sets off the last capital of any
other. -/
theorem spaceAcronymsAfter_eq_of {f : List Char → List Char} (hnil : f [] = [])
    (hother : ∀ c s, isCapital c = false → f (c :: s) = c :: f s)
    (hkept : ∀ run s, Capitals run → LetsBe run s → f (run ++ s) = run ++ f s)
    (hset : ∀ run last c s, run ≠ [] → Capitals (run ++ [last]) →
      isSmall c = true → f (run ++ last :: c :: s)
        = run ++ ' ' :: last :: c :: f s)
    (hrun : Capitals run) :
    spaceAcronymsAfter run s = f (run.reverse ++ s) := by
  have hreverse : ∀ {run}, Capitals run → Capitals run.reverse :=
    fun h c hc => h c (List.mem_reverse.mp hc)
  have hempty : Capitals [] := nofun
  fun_induction spaceAcronymsAfter run s with
  | case1 run =>
      have hlet : LetsBe run.reverse [] := fun _ h => absurd h (by simp)
      rw [hkept _ _ (hreverse hrun) hlet, hnil, List.append_nil]
  | case2 run c s hc ih =>
      rw [ih (List.forall_mem_cons.mpr ⟨hc, hrun⟩), List.reverse_cons,
        List.append_assoc]
      rfl
  | case3 c s hc last before more hs ih =>
      have hsplit := hset (before :: more).reverse last c s (by simp)
        (by simpa using hreverse hrun) hs
      rw [ih hempty, List.reverse_cons (a := last), List.append_assoc]
      exact hsplit.symm
  | case4 c s hc last before more hs ih =>
      have hc : isCapital c = false := by simpa using hc
      rw [ih hempty, hkept _ _ (hreverse hrun), hother c s hc]
      · rfl
      · rintro d ⟨⟩
        exact ⟨hc, fun hsmall => absurd hsmall hs⟩
  | case5 run c s hc hshort ih =>
      have hc : isCapital c = false := by simpa using hc
      have hlength : run.length < 2 := by
        rcases run with _ | ⟨last, _ | ⟨before, more⟩⟩
        · exact Nat.zero_lt_two
        · exact Nat.one_lt_two
        · exact (hshort last before more rfl).elim
      rw [ih hempty, hkept _ _ (hreverse hrun), hother c s hc]
      · rfl
      · rintro d ⟨⟩
        exact ⟨hc, fun _ => by rwa [List.length_reverse]⟩

namespace Pattern

theorem second_acronym (x y : Char) (s : List Char) :
    acronym.second (x :: y :: s)
      = if isCapital x && isSmall y then [([x, y], s)] else [] := by
  rw [acronym]
  simp only [Matcher.followedBy, one]
  cases isCapital x <;> cases hy : isSmall y <;> simp [hy]

theorem second_acronym_of_not
    (h : (isCapital c && s.head?.any isSmall) = false) :
    acronym.second (c :: s) = [] := by
  match s with
  | [] =>
      rw [acronym]
      simp only [Matcher.followedBy, one]
      split <;> rfl
  | d :: s =>
      have hnot : (isCapital c && isSmall d) = false := h
      rw [second_acronym, hnot, if_neg Bool.false_ne_true]

theorem groups_acronym_of_not (h : isCapital c = false) :
    acronym.groups (c :: s) = [] := by
  simp [groups, acronym, oneOrMore, h]

/-- A match takes one capital more than a match behind it, or else one only. -/
theorem groups_acronym_cons (h : isCapital c = true) (s : List Char) :
    acronym.groups (c :: s)
      = (acronym.groups s).map (fun m => (c :: m.1, m.2))
        ++ (acronym.second s).map fun n => ([c], n.1) := by
  rw [groups, groups, acronym]
  simp only [oneOrMore, h, if_true, List.flatMap_append, List.flatMap_map,
    List.map_flatMap, List.map_map, List.flatMap_singleton]
  rfl

theorem groups_acronym_kept (hrun : Capitals run) (h : LetsBe run s) :
    acronym.groups (run ++ s) = [] := by
  induction run with
  | nil =>
      match s with
      | [] => rfl
      | c :: s => exact groups_acronym_of_not (h c rfl).1
  | cons c run ih =>
      obtain ⟨hc, hrun⟩ := List.forall_mem_cons.mp hrun
      -- A match that starts with `c` alone goes on with what follows `c`.
      have hsecond : acronym.second (run ++ s) = [] := by
        match hbehind : run ++ s with
        | [] => rfl
        | d :: after => exact second_acronym_of_not (h.behind hrun hbehind)
      rw [List.cons_append, groups_acronym_cons hc, ih hrun h.of_cons, hsecond]
      rfl

theorem groups_acronym_set (hne : run ≠ []) (hrun : Capitals (run ++ [last]))
    (hc : isSmall c = true) :
    (acronym.groups (run ++ [last, c] ++ s)).head? = some (run, [last, c]) := by
  induction run with
  | nil => exact absurd rfl hne
  | cons d run ih =>
      rw [List.cons_append] at hrun
      obtain ⟨hd, hrun⟩ := List.forall_mem_cons.mp hrun
      rw [List.cons_append, List.cons_append, groups_acronym_cons hd,
        List.head?_append]
      by_cases hmore : run = []
      · subst hmore
        have hlet : LetsBe [last] (c :: s) := by
          rintro _ ⟨⟩
          exact ⟨not_isCapital_of_isSmall hc, fun _ => Nat.one_lt_two⟩
        have hnone : acronym.groups ([last] ++ c :: s) = [] :=
          groups_acronym_kept hrun hlet
        have hlast : isCapital last = true := hrun last (by simp)
        rw [show [] ++ [last, c] ++ s = [last] ++ c :: s from rfl, hnone]
        simp [second_acronym, hlast, hc]
      · rw [List.head?_map, ih hmore hrun]
        rfl

theorem rewrite_acronym_kept (hrun : Capitals run) (hlet : LetsBe run s) :
    acronym.rewrite (run ++ s) = run ++ acronym.rewrite s := by
  induction run with
  | nil => rfl
  | cons c run ih =>
      have hnone := groups_acronym_kept hrun hlet
      have hrun := (List.forall_mem_cons.mp hrun).2
      calc acronym.rewrite (c :: run ++ s)
          = c :: acronym.rewrite (run ++ s) :=
            rewrite_cons_of_none (congrArg List.head? hnone)
        _ = c :: run ++ acronym.rewrite s :=
            congrArg (c :: ·) (ih hrun hlet.of_cons)

theorem rewrite_acronym_set (hne : run ≠ []) (hrun : Capitals (run ++ [last]))
    (hc : isSmall c = true) :
    acronym.rewrite (run ++ last :: c :: s)
      = run ++ ' ' :: last :: c :: acronym.rewrite s := by
  have hsplit := rewrite_of_some hne
    (groups_acronym_set (s := s) hne hrun hc)
  simpa using hsplit

end Pattern

/-- The acronym pass is the rewriting of acronyms. -/
theorem spaceAcronyms_eq_rewrite (s : List Char) :
    spaceAcronyms s = Pattern.acronym.rewrite s :=
  spaceAcronymsAfter_eq_of (f := Pattern.acronym.rewrite) rfl
    (fun _ _ hc => Pattern.rewrite_cons_of_none
      (congrArg List.head? (Pattern.groups_acronym_of_not hc)))
    (fun _ _ hrun hlet => Pattern.rewrite_acronym_kept hrun hlet)
    (fun _ _ _ _ hne hrun hc => Pattern.rewrite_acronym_set hne hrun hc) nofun

end Recast.Name
