import Recast.Template.Basic

/-!
# Texts line by line

A template ends each of its lines with a line feed, so its text is the lines
put together and can be taken apart again. What it writes for the fields of a
class stands between lines that open and close the passage. A reader that knows
these lines looks for the first place where the opening ones stand and takes
what follows up to the closing one.
-/

namespace Recast

/-! ## Lines -/

/-- The lines of a text, with what stands behind the last line feed. -/
def lines (text : String) : List String :=
  (text.toList.splitOn '\n').map String.ofList

/-- The text of lines, each with a line feed. -/
def unlines (written : List String) : String :=
  String.join (written.map (· ++ "\n"))

@[simp] theorem unlines_nil : unlines [] = "" := rfl

@[simp] theorem unlines_cons (line : String) (written : List String) :
    unlines (line :: written) = line ++ "\n" ++ unlines written := by
  rw [unlines, List.map_cons, String.join_cons]
  rfl

@[simp] theorem unlines_append (first second : List String) :
    unlines (first ++ second) = unlines first ++ unlines second := by
  induction first with
  | nil => simp
  | cons line first ih =>
      rw [List.cons_append, unlines_cons, unlines_cons, ih]
      simp only [String.append_assoc]

theorem join_map_unlines {α : Type} {write : α → String}
    {written : α → List String} (h : ∀ a, write a = unlines (written a))
    (l : List α) : String.join (l.map write) = unlines (l.flatMap written) := by
  induction l with
  | nil => rfl
  | cons a l ih =>
      rw [List.map_cons, String.join_cons, List.flatMap_cons, unlines_append,
        ← ih, ← h a]

theorem join_map_lines {α : Type} {write line : α → String}
    (h : ∀ a, write a = line a ++ "\n") (l : List α) :
    String.join (l.map write) = unlines (l.map line) := by
  induction l with
  | nil => rfl
  | cons a l ih =>
      rw [List.map_cons, String.join_cons, List.map_cons, unlines_cons, ih, h a]

/-- A line feed ends a line, whatever stands around it. -/
theorem lines_append (above below : String) :
    lines (above ++ "\n" ++ below) = lines above ++ lines below := by
  have hfeed : (above ++ "\n" ++ below).toList
      = above.toList ++ '\n' :: below.toList := by
    simp
  rw [lines, hfeed, List.splitOn_append_cons_self, List.map_append]
  rfl

theorem lines_line {line : String} (h : '\n' ∉ line.toList) (rest : String) :
    lines (line ++ "\n" ++ rest) = line :: lines rest := by
  have hline : lines line = [line] := by
    rw [lines, List.splitOn_eq_singleton h]
    simp
  rw [lines_append, hline]
  rfl

/-- Whole lines are the first lines of a text that begins with them. -/
theorem lines_unlines {written : List String}
    (h : ∀ line ∈ written, '\n' ∉ line.toList) (rest : String) :
    lines (unlines written ++ rest) = written ++ lines rest := by
  induction written with
  | nil => rw [unlines_nil, String.empty_append, List.nil_append]
  | cons line written ih =>
      rw [unlines_cons, String.append_assoc,
        lines_line (h line List.mem_cons_self),
        ih fun other hother => h other (List.mem_cons_of_mem _ hother),
        List.cons_append]

/-! ## Passages -/

/-- Where lines of one kind stand: behind two lines that follow each other, and
in front of a third. -/
structure Passage where
  first : String
  second : String
  closing : String

namespace Passage

/-- The lines of a passage at its first occurrence. -/
def within (passage : Passage) : List String → List String
  | first :: second :: rest =>
    if first = passage.first ∧ second = passage.second then
      rest.takeWhile (· != passage.closing)
    else passage.within (second :: rest)
  | _ => []

variable {passage : Passage} {before body after : List String}

theorem within_cons {line next : String} {rest : List String}
    (h : line ≠ passage.first ∨ next ≠ passage.second) :
    passage.within (line :: next :: rest) = passage.within (next :: rest) := by
  rw [within, if_neg]
  rintro ⟨hfirst, hsecond⟩
  exact h.elim (· hfirst) (· hsecond)

theorem within_here (hbody : passage.closing ∉ body) :
    passage.within (passage.first :: passage.second ::
      (body ++ passage.closing :: after)) = body := by
  have hkept : ∀ line ∈ body, (line != passage.closing) = true := by
    intro line hline
    rw [bne_iff_ne]
    rintro rfl
    exact hbody hline
  rw [within, if_pos ⟨rfl, rfl⟩, List.takeWhile_append_of_pos hkept]
  simp

/-- What cannot open the passage is read over. -/
theorem within_append {rest : List String}
    (h : passage.first ∉ before ∨
      passage.second ∉ before ++ [passage.first]) :
    passage.within (before ++ passage.first :: rest)
      = passage.within (passage.first :: rest) := by
  induction before with
  | nil => rfl
  | cons line before ih =>
      rw [← ih (h.imp (fun hfirst hmem => hfirst (List.mem_cons_of_mem _ hmem))
        fun hsecond hmem => hsecond (List.mem_cons_of_mem _ hmem))]
      cases before with
      | nil =>
          refine within_cons (h.imp ?_ ?_)
          · rintro hfirst rfl
            exact hfirst List.mem_cons_self
          · intro hsecond heq
            exact hsecond (List.mem_cons_of_mem _ (by simp [heq]))
      | cons next before =>
          refine within_cons (h.imp ?_ ?_)
          · rintro hfirst rfl
            exact hfirst List.mem_cons_self
          · rintro hsecond rfl
            exact hsecond (List.mem_cons_of_mem _ List.mem_cons_self)

/-- A passage is found where it stands if its opening lines cannot stand
before. -/
theorem within_eq
    (hbefore : passage.first ∉ before ∨
      passage.second ∉ before ++ [passage.first])
    (hbody : passage.closing ∉ body) :
    passage.within (before ++ passage.first :: passage.second ::
      (body ++ passage.closing :: after)) = body := by
  rw [within_append hbefore, within_here hbody]

/-- The lines that a passage stands between have no line feed in them. -/
structure OneLine (passage : Passage) : Prop where
  first : '\n' ∉ passage.first.toList
  second : '\n' ∉ passage.second.toList
  closing : '\n' ∉ passage.closing.toList

/-- A text has a passage with these lines behind what stands above it. -/
def StandsIn (passage : Passage) (text above : String) (body : List String) :
    Prop :=
  ∃ rest, text = above ++ "\n" ++ (passage.first ++ "\n" ++
    (passage.second ++ "\n" ++ (unlines body ++
      (passage.closing ++ "\n" ++ rest))))

/-- The lines of a passage are found if those that open it are not among the
lines above. -/
theorem StandsIn.within_lines {text above : String}
    (h : passage.StandsIn text above body) (hone : passage.OneLine)
    (habove : passage.first ∉ lines above ∨
      passage.second ∉ lines above ∧ passage.second ≠ passage.first)
    (hbody : ∀ line ∈ body, '\n' ∉ line.toList ∧ line ≠ passage.closing) :
    passage.within (lines text) = body := by
  obtain ⟨rest, htext⟩ := h
  have hlines : lines text = lines above ++ passage.first :: passage.second ::
      (body ++ passage.closing :: lines rest) := by
    rw [htext, lines_append, lines_line hone.first, lines_line hone.second,
      lines_unlines fun line hline => (hbody line hline).1,
      lines_line hone.closing]
  rw [hlines]
  refine within_eq (habove.imp id fun hsecond hmem => ?_)
    fun hmem => (hbody _ hmem).2 rfl
  rcases List.mem_append.mp hmem with hmem | hmem
  · exact hsecond.1 hmem
  · exact hsecond.2 (List.mem_singleton.mp hmem)

/-- Without its second line a passage does not occur. -/
theorem within_eq_nil {written : List String} (h : passage.second ∉ written) :
    passage.within written = [] := by
  induction written with
  | nil => rfl
  | cons line written ih =>
      rw [List.mem_cons, not_or] at h
      cases written with
      | nil => rfl
      | cons next written =>
          have hnext := h.2
          rw [List.mem_cons, not_or] at hnext
          rw [within_cons (.inr (Ne.symm hnext.1)), ih h.2]

end Passage
end Recast
