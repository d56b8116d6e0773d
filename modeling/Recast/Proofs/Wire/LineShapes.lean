import Recast.Proofs.Names.Plain
import Recast.Proofs.Wire.Lines

/-!
# Lines that a part of a template does not have

A line that opens a method can be told from the lines above it by the characters
it begins with, and by one more that stands somewhere behind these. A reader
goes through the text above, forgets at each line feed what it has read, and
stops in a line that looks like the one it is to tell apart. If it gets through,
that line is not among the lines of the text.

The parts of a template are gone through from left to right. Their own words are
read by evaluation. A hole can be read over once its line has turned out to begin
otherwise; names are read over also where that is still open, if the template
says what stands behind them.
-/

namespace Recast

open Name (Wordlike isNameChar)

/-- How a line begins, with the characters that are allowed at each place, and a
character behind that beginning. -/
structure LineShape where
  opening : List (List Char)
  mark : Char

namespace LineShape

/-- Where the reader stands in a line: behind some characters that all fit the
opening, or behind one that does not. -/
inductive Place
  | fitting (read : Nat)
  | elsewhere
  deriving DecidableEq

/-- One character. There is no place behind the mark of a line that has the
shape. -/
def step (shape : LineShape) (place : Place) (c : Char) : Option Place :=
  if c = '\n' then some (.fitting 0)
  else
    match place with
    | .elsewhere => some .elsewhere
    | .fitting read =>
      match shape.opening[read]? with
      | some allowed =>
        some (if allowed.contains c then .fitting (read + 1) else .elsewhere)
      | none => if c = shape.mark then none else some place

/-- A whole text. -/
def run (shape : LineShape) (place : Place) (text : List Char) : Option Place :=
  text.foldlM shape.step place

/-- The reader stops in a line. -/
def Stops (shape : LineShape) (line : String) : Prop :=
  shape.run (.fitting 0) line.toList = none

/-- The reader stops in no line of a text. -/
def Absent (shape : LineShape) (text : String) : Prop :=
  shape.run (.fitting 0) text.toList ≠ none

/-- The reader gets through a text and is at the beginning of a line again. -/
def Clears (shape : LineShape) (text : String) : Prop :=
  shape.run (.fitting 0) text.toList = some (.fitting 0)

variable {shape : LineShape} {place : Place} {s t : String}

@[simp] theorem run_nil : shape.run place [] = some place := rfl

@[simp] theorem run_cons {c : Char} {text : List Char} :
    shape.run place (c :: text)
      = (shape.step place c).bind (shape.run · text) := rfl

theorem run_append (first second : List Char) :
    shape.run place (first ++ second)
      = (shape.run place first).bind (shape.run · second) :=
  List.foldlM_append

@[simp] theorem step_newline :
    shape.step place '\n' = some (.fitting 0) :=
  if_pos rfl

theorem step_elsewhere {c : Char} (hc : c ≠ '\n') :
    shape.step .elsewhere c = some .elsewhere :=
  if_neg hc

theorem step_allowed {c : Char} {read : Nat} {allowed : List Char} (hc : c ≠ '\n')
    (h : shape.opening[read]? = some allowed) :
    shape.step (.fitting read) c
      = some (if allowed.contains c then .fitting (read + 1) else .elsewhere) := by
  simp only [step, if_neg hc, h]

theorem step_behind {c : Char} (hc : c ≠ '\n') (hmark : c ≠ shape.mark) :
    shape.step (.fitting shape.opening.length) c
      = some (.fitting shape.opening.length) := by
  have hnone : shape.opening[shape.opening.length]? = none :=
    List.getElem?_eq_none (Nat.le_refl _)
  simp only [step, if_neg hc, hnone, if_neg hmark]

/-- A reader that gets through a text gets through the rest of its first line
and through all other lines. -/
theorem run_splitOn {text : List Char} (h : shape.run place text ≠ none) :
    ∃ first others, text.splitOn '\n' = first :: others ∧
      shape.run place first ≠ none ∧
      ∀ line ∈ others, shape.run (.fitting 0) line ≠ none := by
  induction text generalizing place with
  | nil => exact ⟨[], [], rfl, by simp, by simp⟩
  | cons c text ih =>
      obtain ⟨last, hlast⟩ := Option.ne_none_iff_exists'.mp h
      rw [run_cons] at hlast
      obtain ⟨next, hstep, hlast⟩ := Option.bind_eq_some_iff.mp hlast
      have hrest : shape.run next text ≠ none := by simp [hlast]
      obtain ⟨first, others, hsplit, hfirst, hothers⟩ := ih hrest
      rw [List.splitOn_cons_eq_if_modifyHead, hsplit]
      by_cases hc : c = '\n'
      · subst hc
        rw [step_newline] at hstep
        injection hstep with hstep
        subst hstep
        refine ⟨[], first :: others, by simp, by simp, ?_⟩
        rw [List.forall_mem_cons]
        exact ⟨hfirst, hothers⟩
      · refine ⟨c :: first, others, by simp [hc], ?_, hothers⟩
        rw [run_cons, hstep]
        exact hfirst

/-- A line with the shape is not among the lines of a text without it. -/
theorem Absent.not_mem (h : shape.Absent t) {line : String}
    (hline : shape.Stops line) : line ∉ lines t := by
  obtain ⟨first, others, hsplit, hfirst, hothers⟩ := run_splitOn h
  rw [lines, hsplit]
  intro hmem
  obtain ⟨chars, hchars, rfl⟩ := List.mem_map.mp hmem
  rw [Stops, String.toList_ofList] at hline
  rcases List.mem_cons.mp hchars with rfl | hother
  · exact hfirst hline
  · exact hothers chars hother hline

/-! ## Holes -/

theorem ne_newline_of_isNameChar {c : Char} (h : isNameChar c = true) :
    c ≠ '\n' := by
  rintro rfl
  cases h

theorem run_elsewhere {text : List Char} (h : '\n' ∉ text) :
    shape.run .elsewhere text = some .elsewhere := by
  induction text with
  | nil => rfl
  | cons c text ih =>
      rw [List.mem_cons, not_or] at h
      rw [run_cons, step_elsewhere (Ne.symm h.1)]
      exact ih h.2

/-- Behind the opening, a name has no mark. -/
theorem run_name {name : List Char} (hname : ∀ c ∈ name, isNameChar c = true)
    (hmark : isNameChar shape.mark = false) :
    shape.run (.fitting shape.opening.length) name
      = some (.fitting shape.opening.length) := by
  induction name with
  | nil => rfl
  | cons c name ih =>
      have hc := hname c List.mem_cons_self
      have hother : c ≠ shape.mark := by
        rintro rfl
        exact Bool.noConfusion (hc.symm.trans hmark)
      rw [run_cons, step_behind (ne_newline_of_isNameChar hc) hother]
      exact ih fun d hd => hname d (List.mem_cons_of_mem _ hd)

theorem getElem?_of_drop {read : Nat} {allowed : List Char}
    {left : List (List Char)} (h : shape.opening.drop read = allowed :: left) :
    shape.opening[read]? = some allowed := by
  rw [← Nat.add_zero read, ← List.getElem?_drop, h, List.getElem?_cons_zero]

/-- A name does not get through what is left of an opening, and with this
character behind it the line begins otherwise in any case. -/
def parts (left : List (List Char)) (c : Char) : Bool :=
  left.any (·.all (!isNameChar ·)) && c != '\n' && left.all (!·.contains c)

theorem run_name_then {name : List Char} {c : Char} {read : Nat}
    (hname : ∀ d ∈ name, isNameChar d = true)
    (h : parts (shape.opening.drop read) c = true) :
    shape.run (.fitting read) (name ++ [c]) = some .elsewhere := by
  rw [parts, Bool.and_eq_true, Bool.and_eq_true, bne_iff_ne] at h
  obtain ⟨⟨hany, hfeed⟩, hall⟩ := h
  induction name generalizing read with
  | nil =>
      cases hleft : shape.opening.drop read with
      | nil =>
          rw [hleft] at hany
          cases hany
      | cons allowed left =>
          have hat := getElem?_of_drop hleft
          rw [hleft, List.all_cons, Bool.and_eq_true, Bool.not_eq_true'] at hall
          rw [List.nil_append, run_cons, step_allowed hfeed hat, hall.1]
          rfl
  | cons d name ih =>
      have hd := hname d List.mem_cons_self
      have hothers : ∀ e ∈ name, isNameChar e = true :=
        fun e he => hname e (List.mem_cons_of_mem _ he)
      cases hleft : shape.opening.drop read with
      | nil =>
          rw [hleft] at hany
          cases hany
      | cons allowed left =>
          have hat := getElem?_of_drop hleft
          have htail : shape.opening.drop (read + 1) = left := by
            rw [← List.tail_drop, hleft, List.tail_cons]
          rw [hleft, List.any_cons, Bool.or_eq_true] at hany
          rw [hleft, List.all_cons, Bool.and_eq_true] at hall
          rw [List.cons_append, run_cons,
            step_allowed (ne_newline_of_isNameChar hd) hat, Option.bind_some]
          cases hcontains : allowed.contains d with
          | true =>
              -- the place where the opening has no name is still to come
              have hlater : left.any (·.all (!isNameChar ·)) = true := by
                refine hany.resolve_left fun hnone => ?_
                have hother := List.all_eq_true.mp hnone d
                  (List.contains_iff_mem.mp hcontains)
                rw [hd] at hother
                cases hother
              rw [if_pos rfl]
              exact ih hothers (htail ▸ hall.2) (htail ▸ hlater)
          | false =>
              rw [if_neg Bool.false_ne_true]
              refine run_elsewhere fun hmem => ?_
              rcases List.mem_append.mp hmem with hmem | hmem
              · exact ne_newline_of_isNameChar (hothers _ hmem) rfl
              · exact hfeed (List.mem_singleton.mp hmem).symm

/-! ## Parts of a template -/

theorem Clears.absent (h : shape.Clears t) : shape.Absent t := by
  rw [Absent, h]
  exact Option.some_ne_none _

theorem step_eq_start (hopening : shape.opening ≠ []) {c : Char}
    (h : shape.step place c = some (.fitting 0)) : c = '\n' := by
  rw [step.eq_def] at h
  split at h
  · assumption
  · cases place with
    | elsewhere => cases h
    | fitting read =>
        cases hread : shape.opening[read]? with
        | some allowed =>
            simp only [hread, Option.some.injEq] at h
            split at h <;> cases h
        | none =>
            simp only [hread] at h
            split at h
            · cases h
            · injection h with h
              injection h with h
              subst h
              rw [List.getElem?_eq_none_iff, Nat.le_zero,
                List.length_eq_zero_iff] at hread
              exact absurd hread hopening

/-- A text of whole lines is empty or ends with a line feed. -/
theorem Clears.ends (hopening : shape.opening ≠ []) (h : shape.Clears t) :
    t = "" ∨ ∃ s, t = s ++ "\n" ∧ shape.Absent s := by
  rcases List.eq_nil_or_concat t.toList with hnil | ⟨init, c, hchars⟩
  · exact .inl (String.toList_eq_nil_iff.mp hnil)
  · rw [List.concat_eq_append] at hchars
    rw [Clears, hchars, run_append] at h
    obtain ⟨place, hplace, hlast⟩ := Option.bind_eq_some_iff.mp h
    obtain ⟨next, hstep, hnext⟩ := Option.bind_eq_some_iff.mp hlast
    obtain rfl : next = .fitting 0 := Option.some.inj hnext
    refine .inr ⟨String.ofList init, ?_, ?_⟩
    · rw [← String.toList_inj, hchars, step_eq_start hopening hstep]
      simp
    · rw [Absent, String.toList_ofList, hplace]
      exact Option.some_ne_none place

theorem clears_empty : shape.Clears "" := rfl

theorem Clears.append (hs : shape.Clears s) (ht : shape.Clears t) :
    shape.Clears (s ++ t) := by
  rw [Clears, String.toList_append, run_append, hs]
  exact ht

theorem clears_ite {p : Prop} [Decidable p] (hs : shape.Clears s)
    (ht : shape.Clears t) : shape.Clears (if p then s else t) := by
  split
  · exact hs
  · exact ht

/-- A text for each of some things. -/
theorem clears_map {α : Type} {l : List α} {write : α → String}
    (h : ∀ a ∈ l, shape.Clears (write a)) :
    shape.Clears (String.join (l.map write)) := by
  induction l with
  | nil => exact clears_empty
  | cons a l ih =>
      rw [List.map_cons, String.join_cons]
      exact (h a List.mem_cons_self).append
        (ih fun b hb => h b (List.mem_cons_of_mem _ hb))

/-- The place behind some characters, if there was one before. -/
def pass (shape : LineShape) (chars : List Char) (place? : Option Place) :
    Option Place :=
  place?.bind (shape.run · chars)

variable {words : List Char} {place? after : Option Place}

theorem clears_of_pass
    (h : shape.pass t.toList (some (.fitting 0)) = some (.fitting 0)) :
    shape.Clears t :=
  h

theorem absent_of_pass (last : Place)
    (h : shape.pass t.toList (some (.fitting 0)) = some last) :
    shape.Absent t := by
  rw [Absent]
  exact fun hnone => Option.some_ne_none last (h.symm.trans hnone)

theorem stops_of_pass (h : shape.pass t.toList (some (.fitting 0)) = none) :
    shape.Stops t :=
  h

theorem pass_append :
    shape.pass (s ++ t).toList place?
      = shape.pass t.toList (shape.pass s.toList place?) := by
  cases place? with
  | none => rfl
  | some place =>
      rw [String.toList_append]
      exact run_append _ _

/-! As for brackets, a text is taken apart from the front, and what remains at
the end is a closed term. -/

theorem pass_words
    (ht : shape.pass t.toList (shape.pass words place?) = after) :
    shape.pass (String.ofList words ++ t).toList place? = after := by
  rw [pass_append, String.toList_ofList]
  exact ht

theorem pass_stopped (h : place? = none) :
    shape.pass t.toList place? = none := by
  rw [h]
  rfl

theorem pass_last (h : shape.pass words place? = after) :
    shape.pass (String.ofList words).toList place? = after := by
  rw [String.toList_ofList]
  exact h

/-- The rest of a line that begins otherwise. -/
theorem pass_hole (hs : '\n' ∉ s.toList) (hplace : place? = some .elsewhere)
    (ht : shape.pass t.toList (some .elsewhere) = after) :
    shape.pass (s ++ t).toList place? = after := by
  rw [pass_append, hplace, ← ht]
  exact congrArg (shape.pass t.toList) (run_elsewhere hs)

/-- Whole lines. -/
theorem pass_lines (hs : shape.Clears s) (hplace : place? = some (.fitting 0))
    (ht : shape.pass t.toList (some (.fitting 0)) = after) :
    shape.pass (s ++ t).toList place? = after := by
  rw [pass_append, hplace, ← ht]
  exact congrArg (shape.pass t.toList) hs

/-- A name behind the opening of a line. -/
theorem pass_name (hs : Wordlike s) (hmark : isNameChar shape.mark = false)
    (hplace : place? = some (.fitting shape.opening.length))
    (ht : shape.pass t.toList (some (.fitting shape.opening.length)) = after) :
    shape.pass (s ++ t).toList place? = after := by
  rw [pass_append, hplace, ← ht]
  exact congrArg (shape.pass t.toList) (run_name hs hmark)

/-- A name where the beginning of a line may still fit. -/
theorem pass_name_then (read : Nat) {c : Char} (hs : Wordlike s)
    (hplace : place? = some (.fitting read))
    (hparts : parts (shape.opening.drop read) c = true)
    (ht : shape.pass t.toList (shape.pass words (some .elsewhere)) = after) :
    shape.pass (s ++ (String.ofList (c :: words) ++ t)).toList place?
      = after := by
  have hchars : (s ++ (String.ofList (c :: words) ++ t)).toList
      = (s.toList ++ [c]) ++ (words ++ t.toList) := by
    simp
  have hrun := run_name_then hs hparts
  rw [hchars, hplace, ← ht, pass, Option.bind_some, run_append, hrun,
    Option.bind_some, run_append]
  rfl

end LineShape
end Recast
