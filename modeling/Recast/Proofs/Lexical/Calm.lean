import Recast.Conversion
import Recast.Proofs.Lexical.Scan

/-!
# Calm texts

A text is calm if it has no quote and no line feed in it, so it can neither open
a literal nor end a line. Names are calm, and types are spelled calmly if the
names of the classes in them are.
-/

namespace Recast

open Scan (isQuote)

/-- Neither a quote nor a line feed. -/
def isCalm (c : Char) : Bool :=
  c != '\n' && !isQuote c

def Calm (text : String) : Prop :=
  ∀ c ∈ text.toList, isCalm c = true

variable {s t : String}

theorem calm_words (h : s.toList.all isCalm = true) : Calm s :=
  List.all_eq_true.mp h

theorem Calm.newline_not_mem (h : Calm s) : '\n' ∉ s.toList := by
  intro hmem
  have hfeed := h '\n' hmem
  cases hfeed

theorem Calm.append (hs : Calm s) (ht : Calm t) : Calm (s ++ t) := by
  intro c hc
  rw [String.toList_append] at hc
  rcases List.mem_append.mp hc with h | h
  · exact hs c h
  · exact ht c h

theorem calm_intercalate (hs : Calm s) {texts : List String}
    (h : ∀ text ∈ texts, Calm text) : Calm (s.intercalate texts) := by
  intro c hc
  rw [String.toList_intercalate] at hc
  rcases Name.mem_intercalate hc with hmem | ⟨part, hpart, hmem⟩
  · exact hs c hmem
  · obtain ⟨text, htext, rfl⟩ := List.mem_map.mp hpart
    exact h text htext c hmem

theorem Plain.calm (h : Plain s) : Calm s := by
  intro c hc
  have hplain := h c hc
  rw [isCalm, Bool.and_eq_true, bne_iff_ne, Bool.not_eq_true']
  constructor
  · rintro rfl
    cases hplain
  · rw [isQuote, Bool.or_eq_false_iff, decide_eq_false_iff_not,
      decide_eq_false_iff_not]
    constructor
    · rintro rfl
      cases hplain
    · rintro rfl
      cases hplain

theorem Name.Wordlike.calm (h : Wordlike s) : Calm s :=
  h.plain.calm

theorem calm_loopVariable (depth : Nat) : Calm (Conversion.loopVariable depth) :=
  (calm_words (by decide)).append (Name.wordlike_toString depth).calm

/-- A type is spelled calmly if its classes have calm names. -/
theorem calm_spell (language : Language) (inner : Bool) {type : DataType String}
    (h : ∀ className ∈ type.refs, Calm className) :
    Calm (language.conventions.spell inner type) := by
  induction type generalizing inner with
  | scalar kind =>
      apply calm_words
      cases language <;> cases inner <;> cases kind <;> decide
  | ref className =>
      rw [Conventions.spell]
      exact h className List.mem_cons_self
  | array item ih =>
      have hitem := ih true h
      rw [Conventions.spell]
      cases language with
      | typescript => exact hitem.append (calm_words (by decide))
      | java | ruby | python | rust =>
          exact ((calm_words (by decide)).append hitem).append
            (calm_words (by decide))
  | map key value ihKey ihValue =>
      have hkey := ihKey true fun c hc => h c (List.mem_append_left _ hc)
      have hvalue := ihValue true fun c hc => h c (List.mem_append_right _ hc)
      rw [Conventions.spell]
      cases language with
      | java | ruby | python | typescript | rust =>
          exact ((((calm_words (by decide)).append hkey).append
            (calm_words (by decide))).append hvalue).append
              (calm_words (by decide))

end Recast
