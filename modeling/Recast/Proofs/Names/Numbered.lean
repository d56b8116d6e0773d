import Mathlib.Data.List.Nodup
import Mathlib.Data.List.Perm.Subperm
import Mathlib.Order.Bounds.Defs
import Recast.Name.Suffix

/-!
# Numbered names are free and can be told apart

A name that is taken gets the least number that makes it free. The search has
a bound, the number of names taken, and the bound is never what ends it: the
candidates are pairwise different, so among one more candidate than there are
names taken one is free. What the search returns is therefore the least free
number, and its name is not among those taken.

The number behind the last underscore of a numbered name can be read back,
because digits hold no underscore. Two numbered names are equal only if both
the name and the number are.
-/

namespace Recast.Name

/-! ## The search -/

/-- What the search returns is in reach, everything before it is taken, and it
is free itself unless the search was cut short. -/
theorem leastFree_spec (taken : Nat → Bool) (fuel start : Nat) :
    start ≤ leastFree taken fuel start ∧
      leastFree taken fuel start ≤ start + fuel ∧
      (∀ n, start ≤ n → n < leastFree taken fuel start → taken n = true) ∧
      (leastFree taken fuel start < start + fuel →
        taken (leastFree taken fuel start) = false) := by
  induction fuel generalizing start with
  | zero =>
      rw [leastFree]
      exact ⟨Nat.le_refl _, Nat.le_refl _, fun n h₁ h₂ => by omega,
        fun h => by omega⟩
  | succ fuel ih =>
      rw [leastFree]
      split
      · next htaken =>
          obtain ⟨hge, hle, hbefore, hfree⟩ := ih (start + 1)
          refine ⟨by omega, by omega, ?_, fun h => hfree (by omega)⟩
          intro n hn hlt
          rcases Nat.eq_or_lt_of_le hn with rfl | hgt
          · exact htaken
          · exact hbefore n hgt hlt
      · next hfree =>
          exact ⟨Nat.le_refl _, by omega, fun n h₁ h₂ => by omega,
            fun _ => by simpa using hfree⟩

/-- Of different candidates, as many as there are names and one more, one is
not among the names. -/
theorem exists_candidate_not_mem (names : List String)
    {candidate : Nat → String} (hinjective : Function.Injective candidate) (start : Nat) :
    ∃ n, start ≤ n ∧ n ≤ start + names.length ∧ candidate n ∉ names := by
  by_contra hnone
  have hall : ∀ n, start ≤ n → n ≤ start + names.length →
      candidate n ∈ names := by
    intro n hge hle
    by_contra hfree
    exact hnone ⟨n, hge, hle, hfree⟩
  have hnodup :
      ((List.range' start (names.length + 1)).map candidate).Nodup :=
    List.Nodup.map hinjective List.nodup_range'
  have hsubset :
      (List.range' start (names.length + 1)).map candidate ⊆ names := by
    intro name hname
    obtain ⟨n, hn, rfl⟩ := List.mem_map.mp hname
    have hrange := List.mem_range'_1.mp hn
    exact hall n hrange.1 (by omega)
  have hlength := (hnodup.subperm hsubset).length_le
  rw [List.length_map, List.length_range'] at hlength
  omega

/-- The search never ends for want of fuel. -/
theorem leastFree_not_mem {names : List String} {taken : Nat → Bool}
    (candidate : Nat → String)
    (htaken : ∀ n, taken n = true ↔ candidate n ∈ names)
    (hinjective : Function.Injective candidate) (start : Nat) :
    candidate (leastFree taken names.length start) ∉ names := by
  obtain ⟨-, hle, hbefore, hfree⟩ := leastFree_spec taken names.length start
  rcases Nat.lt_or_ge (leastFree taken names.length start)
    (start + names.length) with hlt | hge
  · rw [← htaken, hfree hlt]
    exact Bool.false_ne_true
  · obtain ⟨n, hstart, hend, hnot⟩ :=
      exists_candidate_not_mem names hinjective start
    rcases Nat.lt_or_ge n (leastFree taken names.length start) with hlt | hge'
    · exact absurd ((htaken n).mp (hbefore n hstart hlt)) hnot
    · rwa [show leastFree taken names.length start = n by omega]

/-- The search returns the least free number. -/
theorem isLeast_leastFree {names : List String} {taken : Nat → Bool}
    (candidate : Nat → String)
    (htaken : ∀ n, taken n = true ↔ candidate n ∈ names)
    (hinjective : Function.Injective candidate) (start : Nat) :
    IsLeast {n | start ≤ n ∧ candidate n ∉ names}
      (leastFree taken names.length start) := by
  obtain ⟨hge, -, hbefore, -⟩ := leastFree_spec taken names.length start
  refine ⟨⟨hge, leastFree_not_mem candidate htaken hinjective start⟩, ?_⟩
  rintro n ⟨hstart, hfree⟩
  by_contra hlt
  exact hfree ((htaken n).mp (hbefore n hstart (Nat.lt_of_not_le hlt)))

/-- A taken name that is no candidate leaves one candidate more than the
others can take, so the search ends a step earlier. -/
theorem leastFree_lt {names : List String} {taken : Nat → Bool}
    (candidate : Nat → String)
    (htaken : ∀ n, taken n = true ↔ candidate n ∈ names)
    (hinjective : Function.Injective candidate) (start : Nat) {other : String}
    (hother : other ∈ names) (hne : ∀ n, candidate n ≠ other) :
    leastFree taken names.length start < start + names.length := by
  obtain ⟨n, hstart, hend, hfree⟩ :=
    exists_candidate_not_mem (names.erase other) hinjective start
  rw [List.mem_erase_of_ne (hne n)] at hfree
  rw [List.length_erase_of_mem hother] at hend
  have hpos : 0 < names.length := List.length_pos_of_mem hother
  have hleast := (isLeast_leastFree candidate htaken hinjective start).2
    ⟨hstart, hfree⟩
  omega

/-! ## Reading a number back -/

theorem toList_numbered (name : String) (n : Nat) :
    (numbered name n).toList = name.toList ++ '_' :: Nat.toDigits 10 n := by
  simp [numbered]

theorem numbered_inj {s t : String} {m n : Nat} :
    numbered s m = numbered t n ↔ s = t ∧ m = n := by
  constructor
  · intro h
    have hchars := congrArg String.toList h
    rw [toList_numbered, toList_numbered] at hchars
    have hend : ∀ {a b : Nat} {gap : List Char},
        '_' :: Nat.toDigits 10 a = gap ++ '_' :: Nat.toDigits 10 b →
        gap = [] := by
      intro a b gap heq
      cases gap with
      | nil => rfl
      | cons c rest =>
          injection heq with _ htail
          refine absurd ?_ (Nat.underscore_not_in_toDigits (n := a))
          rw [htail]
          exact List.mem_append_right _ List.mem_cons_self
    have hboth : s.toList = t.toList ∧
        '_' :: Nat.toDigits 10 m = '_' :: Nat.toDigits 10 n := by
      rcases List.append_eq_append_iff.mp hchars with
        ⟨extra, ht, hm⟩ | ⟨extra, hs, hn⟩
      · obtain rfl := hend hm
        exact ⟨by simpa using ht.symm, by simpa using hm⟩
      · obtain rfl := hend hn
        exact ⟨by simpa using hs, by simpa using hn.symm⟩
    refine ⟨String.toList_inj.mp hboth.1, ?_⟩
    injection hboth.2 with _ hdigits
    have hvalues := congrArg (Nat.ofDigitChars 10 · 0) hdigits
    simpa using hvalues
  · rintro ⟨rfl, rfl⟩
    rfl

theorem numbered_ne (name : String) (n : Nat) : numbered name n ≠ name := by
  intro h
  have hlength := congrArg (List.length ∘ String.toList) h
  rw [Function.comp_apply, toList_numbered] at hlength
  simp at hlength

end Recast.Name
