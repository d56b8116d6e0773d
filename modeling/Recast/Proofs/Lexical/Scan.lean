import Recast.Proofs.Names.Plain
import Recast.Text.Literal

/-!
# Lexically closed texts

A text is scanned with the few rules that all generated languages share: a
quote opens a literal, a backslash inside a literal hides what follows it, the
same quote ends the literal, and outside of literals brackets nest. A scan
fails when a line ends inside a literal or a bracket closes that is not the
last one opened. A text is lexically closed if its scan ends where it began,
outside of literals and with no bracket open.

What a key puts into a text must not be seen by such a scan at all. `Neutral`
says so: scanned outside of literals, the text leaves every stack of open
brackets as it was. Plain texts are neutral because the scanner ignores their
characters, and quoted texts are neutral because quoting hides the delimiter,
the backslash and the ends of lines.

Neutral texts can be dropped from a scan. What is left of a template are its
own words, and these are scanned by evaluation.
-/

namespace Recast

namespace Scan

/-- Where a scan stands: outside of literals, or inside one that a delimiter
ends; the brackets that are open, the last one first. -/
inductive State
  | outside (stack : List Char)
  | inside (delimiter : Char) (escaped : Bool) (stack : List Char)
  deriving DecidableEq

/-- The bracket that a closing bracket belongs to. -/
def opener? : Char → Option Char
  | ')' => some '('
  | ']' => some '['
  | '\x7d' => some '\x7b'
  | _ => none

def opens (c : Char) : Bool :=
  c = '(' || c = '[' || c = '\x7b'

def isQuote (c : Char) : Bool :=
  c = '"' || c = '\''

/-- The last open bracket is closed, if it is this one. -/
def close (bracket : Char) : List Char → Option State
  | top :: rest => if top = bracket then some (.outside rest) else none
  | [] => none

/-- One character. There is no state after a line that ends inside a literal,
or after a closing bracket without its opening one. -/
def step : State → Char → Option State
  | .outside stack, c =>
    if isQuote c then some (.inside c false stack)
    else if opens c then some (.outside (c :: stack))
    else
      match opener? c with
      | none => some (.outside stack)
      | some bracket => close bracket stack
  | .inside delimiter escaped stack, c =>
    if c = '\n' || c = '\r' then none
    else if escaped then some (.inside delimiter false stack)
    else if c = '\\' then some (.inside delimiter true stack)
    else if c = delimiter then some (.outside stack)
    else some (.inside delimiter false stack)

/-- A whole text. -/
def run (state : State) (text : List Char) : Option State :=
  text.foldlM step state

end Scan

/-- The scan of a text ends outside of literals and with no bracket open. -/
def LexicallyClosed (text : String) : Prop :=
  Scan.run (.outside []) text.toList = some (.outside [])

/-- Outside of literals, a text leaves the open brackets as they are. -/
def Neutral (text : String) : Prop :=
  ∀ stack, Scan.run (.outside stack) text.toList = some (.outside stack)

namespace Scan

@[simp] theorem run_nil (state : State) : run state [] = some state := rfl

@[simp] theorem run_cons (state : State) (c : Char) (text : List Char) :
    run state (c :: text) = (step state c).bind (run · text) := rfl

theorem run_append (state : State) (s t : List Char) :
    run state (s ++ t) = (run state s).bind (run · t) :=
  List.foldlM_append

/-- Brackets that were open before do not change a scan that never closes
them. -/
def State.above (floor : List Char) : State → State
  | .outside stack => .outside (stack ++ floor)
  | .inside delimiter escaped stack => .inside delimiter escaped (stack ++ floor)

theorem close_above (floor : List Char) {bracket : Char} {stack : List Char}
    {next : State} (h : close bracket stack = some next) :
    close bracket (stack ++ floor) = some (next.above floor) := by
  cases stack with
  | nil => cases h
  | cons top rest =>
      rw [close] at h
      rw [List.cons_append, close]
      split at h
      · next htop =>
          injection h with h
          rw [if_pos htop, ← h]
          rfl
      · cases h

theorem step_above (floor : List Char) {state next : State} {c : Char}
    (h : step state c = some next) :
    step (state.above floor) c = some (next.above floor) := by
  cases state with
  | outside stack =>
      simp only [step, State.above] at h ⊢
      split at h
      · next hquote =>
          injection h with h
          rw [if_pos hquote, ← h]
      · next hquote =>
          rw [if_neg hquote]
          split at h
          · next hopens =>
              injection h with h
              rw [if_pos hopens, ← h]
              rfl
          · next hopens =>
              rw [if_neg hopens]
              split at h
              · injection h with h
                rw [← h]
              · exact close_above floor h
  | inside delimiter escaped stack =>
      simp only [step, State.above] at h ⊢
      split at h
      · cases h
      · next hend =>
          rw [if_neg hend]
          split at h
          · next hescaped =>
              injection h with h
              rw [if_pos hescaped, ← h]
          · next hescaped =>
              rw [if_neg hescaped]
              split at h
              · next hslash =>
                  injection h with h
                  rw [if_pos hslash, ← h]
              · next hslash =>
                  rw [if_neg hslash]
                  split at h
                  · next hsame =>
                      injection h with h
                      rw [if_pos hsame, ← h]
                  · next hsame =>
                      injection h with h
                      rw [if_neg hsame, ← h]

theorem run_above (floor : List Char) {state last : State} {text : List Char}
    (h : run state text = some last) :
    run (state.above floor) text = some (last.above floor) := by
  induction text generalizing state with
  | nil =>
      rw [run_nil] at h
      injection h with h
      rw [run_nil, h]
  | cons c text ih =>
      rw [run_cons] at h
      obtain ⟨next, hstep, hrest⟩ := Option.bind_eq_some_iff.mp h
      rw [run_cons, step_above floor hstep]
      exact ih hrest

/-! ## Passing a text from bracket to bracket -/

/-- The brackets open after some characters, if they are scanned from the
outside and end there. -/
def pass (chars : List Char) (stack? : Option (List Char)) :
    Option (List Char) :=
  stack?.bind fun stack =>
    match run (.outside stack) chars with
    | some (.outside stack) => some stack
    | _ => none

theorem pass_eq_some {chars : List Char} {stack? : Option (List Char)}
    {after : List Char} :
    pass chars stack? = some after ↔ ∃ stack, stack? = some stack ∧
      run (.outside stack) chars = some (.outside after) := by
  rw [pass, Option.bind_eq_some_iff]
  refine exists_congr fun stack => and_congr_right fun _ => ?_
  split
  · next h => rw [h]; simp
  · next h =>
      constructor
      · intro hnone
        cases hnone
      · intro hrun
        exact absurd hrun (h after)

variable {s t : String} {words : List Char} {stack? : Option (List Char)}
  {before middle after : List Char}

theorem pass_append (hs : pass s.toList (some before) = some middle)
    (ht : pass t.toList (some middle) = some after) :
    pass (s ++ t).toList (some before) = some after := by
  obtain ⟨_, heq, hrun⟩ := pass_eq_some.mp hs
  obtain ⟨_, heq', hrun'⟩ := pass_eq_some.mp ht
  injection heq with heq
  injection heq' with heq'
  subst heq heq'
  refine pass_eq_some.mpr ⟨_, rfl, ?_⟩
  rw [String.toList_append, run_append, hrun]
  exact hrun'

/-! The words of a template are string literals, and a literal is a list of
characters by definition. The next lemmas take a text apart from the front;
what remains at the end is a closed term. -/

theorem pass_words (ht : pass t.toList (pass words stack?) = some after) :
    pass (String.ofList words ++ t).toList stack? = some after := by
  obtain ⟨middle, hwords, hrun⟩ := pass_eq_some.mp ht
  obtain ⟨stack, rfl, hrun'⟩ := pass_eq_some.mp hwords
  refine pass_eq_some.mpr ⟨stack, rfl, ?_⟩
  rw [String.toList_append, String.toList_ofList, run_append, hrun']
  exact hrun

theorem pass_hole (hs : Neutral s) (ht : pass t.toList stack? = some after) :
    pass (s ++ t).toList stack? = some after := by
  obtain ⟨stack, rfl, hrun⟩ := pass_eq_some.mp ht
  refine pass_eq_some.mpr ⟨stack, rfl, ?_⟩
  rw [String.toList_append, run_append, hs stack]
  exact hrun

theorem pass_last (h : pass words stack? = some after) :
    pass (String.ofList words).toList stack? = some after := by
  rw [String.toList_ofList]
  exact h

theorem pass_last_hole (hs : Neutral s) (h : stack? = some after) :
    pass s.toList stack? = some after :=
  pass_eq_some.mpr ⟨after, h, hs after⟩

end Scan

open Scan

variable {s t : String}

/-- A text that closes what it opens is neutral, whatever is open around it. -/
theorem neutral_of_pass (h : pass s.toList (some []) = some []) :
    Neutral s := by
  intro stack
  obtain ⟨_, hempty, hrun⟩ := pass_eq_some.mp h
  injection hempty with hempty
  subst hempty
  exact run_above stack hrun

/-- The same for the words of a template. -/
theorem neutral_words {words : List Char}
    (h : pass words (some []) = some []) : Neutral (String.ofList words) :=
  neutral_of_pass (pass_last h)

theorem Neutral.lexicallyClosed (h : Neutral s) : LexicallyClosed s :=
  h []

/-! ## Neutral texts -/

theorem neutral_empty : Neutral "" :=
  fun _ => rfl

theorem Neutral.append (hs : Neutral s) (ht : Neutral t) :
    Neutral (s ++ t) := by
  intro stack
  rw [String.toList_append, run_append, hs stack]
  exact ht stack

/-- A text between words that close what the words before it open. -/
theorem neutral_between {first last : List Char} (hs : Neutral s)
    (h : pass last (pass first (some [])) = some []) :
    Neutral (String.ofList first ++ s ++ String.ofList last) := by
  rw [String.append_assoc]
  exact neutral_of_pass <| pass_words <| pass_hole hs <| pass_last h

/-- A text with another one behind it, between such words. -/
theorem Neutral.append_between {first last : List Char} (hs : Neutral s)
    (ht : Neutral t) (h : pass last (pass first (some [])) = some []) :
    Neutral (s ++ String.ofList first ++ t ++ String.ofList last) := by
  have hrest := hs.append (neutral_between ht h)
  simpa only [String.append_assoc] using hrest

theorem neutral_ite {p : Prop} [Decidable p] (hs : Neutral s)
    (ht : Neutral t) : Neutral (if p then s else t) := by
  split
  · exact hs
  · exact ht

theorem neutral_join {texts : List String}
    (h : ∀ text ∈ texts, Neutral text) : Neutral (String.join texts) := by
  induction texts with
  | nil =>
      rw [String.join_nil]
      exact neutral_empty
  | cons text texts ih =>
      rw [String.join_cons]
      exact (h text List.mem_cons_self).append
        (ih fun t ht => h t (List.mem_cons_of_mem _ ht))

theorem neutral_intercalate (hs : Neutral s) {texts : List String}
    (h : ∀ text ∈ texts, Neutral text) :
    Neutral (s.intercalate texts) := by
  induction texts with
  | nil =>
      rw [String.intercalate_nil]
      exact neutral_empty
  | cons text texts ih =>
      have htext := h text List.mem_cons_self
      have hrest := ih fun t ht => h t (List.mem_cons_of_mem _ ht)
      cases texts with
      | nil =>
          rw [String.intercalate_singleton]
          exact htext
      | cons next texts =>
          rw [String.intercalate_cons_cons]
          exact (htext.append hs).append hrest

/-! ## What keys put into a text -/

/-- The scanner ignores a plain character. -/
theorem step_of_isPlain {c : Char} (h : Unicode.isPlain c = true)
    (stack : List Char) : step (.outside stack) c = some (.outside stack) := by
  have hapart : ∀ d, Unicode.isPlain d = false → c ≠ d := by
    intro d hd heq
    rw [heq, hd] at h
    cases h
  have hquote : isQuote c = false := by
    simp [isQuote, hapart '"' (by decide), hapart '\'' (by decide)]
  have hopens : opens c = false := by
    simp [opens, hapart '(' (by decide), hapart '[' (by decide),
      hapart '\x7b' (by decide)]
  have hopener : opener? c = none := by
    rw [opener?]
    · exact hapart ')' (by decide)
    · exact hapart ']' (by decide)
    · exact hapart '\x7d' (by decide)
  simp [step, hquote, hopens, hopener]

theorem Plain.neutral (h : Plain s) : Neutral s := by
  intro stack
  rw [Plain] at h
  generalize s.toList = chars at h ⊢
  induction chars with
  | nil => rfl
  | cons c chars ih =>
      rw [run_cons, step_of_isPlain (h c List.mem_cons_self)]
      exact ih fun d hd => h d (List.mem_cons_of_mem _ hd)

/-- Inside a literal, an escaped character is one more character of the
literal. -/
theorem run_escapeIn (delimiter c : Char) (stack : List Char) :
    run (.inside delimiter false stack) (Text.escapeIn delimiter c)
      = some (.inside delimiter false stack) := by
  rw [Text.escapeIn]
  split
  · rfl
  · next hslash =>
      split
      · rfl
      · next hfeed =>
          split
          · rfl
          · next hreturn =>
              split
              · rfl
              · split
                · simp [step, hfeed, hreturn]
                · next hdelimiter =>
                    simp [step, hslash, hfeed, hreturn, hdelimiter]

theorem neutral_literal {delimiter : Char} (h : isQuote delimiter = true)
    (text : String) : Neutral (Text.literal delimiter text) := by
  intro stack
  have hbody : ∀ chars : List Char,
      run (.inside delimiter false stack)
          (chars.flatMap (Text.escapeIn delimiter) ++ [delimiter])
        = some (.outside stack) := by
    intro chars
    induction chars with
    | nil =>
        have hend : delimiter ≠ '\n' ∧ delimiter ≠ '\r' ∧ delimiter ≠ '\\' := by
          simp only [isQuote, Bool.or_eq_true, decide_eq_true_eq] at h
          rcases h with rfl | rfl <;> decide
        simp [step, hend]
    | cons c chars ih =>
        rw [List.flatMap_cons, List.append_assoc, run_append, run_escapeIn]
        exact ih
  rw [Text.literal, String.toList_ofList, Text.literalChars, run_cons]
  simp only [step, h, if_true, Option.bind_some]
  exact hbody text.toList

end Recast
