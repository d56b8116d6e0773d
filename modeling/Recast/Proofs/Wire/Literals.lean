import Recast.Proofs.Lexical.Calm

/-!
# The literals of a line are read back

A line is read from left to right. A quote opens a literal, the same quote ends
it, and a backslash inside of it gives the character behind it another meaning.
What a literal was written for comes back, because quoting puts a backslash in
front of exactly those characters that would not stand for themselves.

`Spelled` says which literals a text holds whatever stands behind it, so it can
be put together along a template. The texts between the literals are calm: no
quote and no line feed is in them.
-/

namespace Recast

open Scan (isQuote)

/-! ## Reading -/

/-- The character that a letter stands for behind a backslash. -/
def unescape : Char → Char
  | 'n' => '\n'
  | 'r' => '\r'
  | 't' => '\t'
  | c => c

/-- Where a reader stands: outside of literals, inside one that a delimiter
ends, or there behind a backslash. What it has read of the literal is kept with
the last character first. -/
inductive LiteralReader
  | outside
  | inside (delimiter : Char) (text : List Char)
  | escaped (delimiter : Char) (text : List Char)

/-- The texts of the literals that end in the rest of a line, if the line does
not end inside of one. -/
def literalsFrom : LiteralReader → List Char → Option (List String)
  | .outside, [] => some []
  | .inside _ _, [] | .escaped _ _, [] => none
  | .outside, c :: rest =>
    literalsFrom (if isQuote c then .inside c [] else .outside) rest
  | .escaped delimiter text, c :: rest =>
    literalsFrom (.inside delimiter (unescape c :: text)) rest
  | .inside delimiter text, c :: rest =>
    if c = '\\' then literalsFrom (.escaped delimiter text) rest
    else if c = delimiter then
      (literalsFrom .outside rest).map (String.ofList text.reverse :: ·)
    else literalsFrom (.inside delimiter (c :: text)) rest

/-- The texts of all literals of a line. -/
def literals? (line : String) : Option (List String) :=
  literalsFrom .outside line.toList

/-! ## Texts that hold literals -/

/-- A text on one line that holds these literals, and none of them goes on
behind it. -/
structure Spelled (text : String) (keys : List String) : Prop where
  oneLine : '\n' ∉ text.toList
  literals : ∀ rest, literalsFrom .outside (text.toList ++ rest)
    = (literalsFrom .outside rest).map (keys ++ ·)

variable {s t text : String} {keys more : List String}

theorem Spelled.literals?_eq (h : Spelled text keys) :
    literals? text = some keys := by
  have hall := h.literals []
  rw [List.append_nil] at hall
  rw [literals?, hall]
  simp [literalsFrom]

theorem Spelled.append (hs : Spelled s keys) (ht : Spelled t more) :
    Spelled (s ++ t) (keys ++ more) := by
  constructor
  · rw [String.toList_append, List.mem_append, not_or]
    exact ⟨hs.oneLine, ht.oneLine⟩
  · intro rest
    rw [String.toList_append, List.append_assoc, hs.literals, ht.literals,
      Option.map_map]
    congr 1
    funext others
    rw [Function.comp_apply, List.append_assoc]

theorem Calm.spelled (h : Calm text) : Spelled text [] := by
  have hchars : ∀ {chars : List Char}, (∀ c ∈ chars, isCalm c = true) →
      ∀ rest, literalsFrom .outside (chars ++ rest)
        = literalsFrom .outside rest := by
    intro chars hchars rest
    induction chars with
    | nil => rfl
    | cons c chars ih =>
        have hc := hchars c List.mem_cons_self
        rw [isCalm, Bool.and_eq_true, Bool.not_eq_true'] at hc
        rw [List.cons_append, literalsFrom, hc.2, if_neg (by decide)]
        exact ih fun d hd => hchars d (List.mem_cons_of_mem _ hd)
  refine ⟨h.newline_not_mem, fun rest => ?_⟩
  · rw [hchars h rest]
    simp

/-- Calm words in front of a text. -/
theorem Spelled.after_words (h : Spelled text keys)
    (hwords : s.toList.all isCalm = true) : Spelled (s ++ text) keys :=
  (calm_words hwords).spelled.append h

/-- A calm text behind another. -/
theorem Spelled.calm (h : Spelled text keys) (hcalm : Calm s) :
    Spelled (text ++ s) keys := by
  simpa using h.append hcalm.spelled

theorem Spelled.words (h : Spelled text keys)
    (hwords : s.toList.all isCalm = true) : Spelled (text ++ s) keys :=
  h.calm (calm_words hwords)

/-! ## Quoted texts -/

/-- Behind a backslash a quote stands for itself. -/
theorem unescape_delimiter {delimiter : Char} (hquote : isQuote delimiter = true) :
    unescape delimiter = delimiter := by
  rw [isQuote, Bool.or_eq_true, decide_eq_true_eq, decide_eq_true_eq] at hquote
  rcases hquote with rfl | rfl <;> rfl

theorem literalsFrom_escapeIn {delimiter : Char} (hquote : isQuote delimiter = true)
    (c : Char) (read rest : List Char) :
    literalsFrom (.inside delimiter read) (Text.escapeIn delimiter c ++ rest)
      = literalsFrom (.inside delimiter (c :: read)) rest := by
  rw [Text.escapeIn]
  split
  · next hc => subst hc; rfl
  split
  · next hc => subst hc; rfl
  split
  · next hc => subst hc; rfl
  split
  · next hc => subst hc; rfl
  split
  · next hc =>
      subst hc
      rw [List.cons_append, literalsFrom, if_pos rfl, List.cons_append,
        literalsFrom, unescape_delimiter hquote]
      rfl
  · next hbackslash _ _ _ hdelimiter =>
      rw [List.cons_append, literalsFrom, if_neg hbackslash,
        if_neg hdelimiter]
      rfl

theorem literalsFrom_body {delimiter : Char} (hquote : isQuote delimiter = true)
    (text read rest : List Char) :
    literalsFrom (.inside delimiter read)
        (text.flatMap (Text.escapeIn delimiter) ++ rest)
      = literalsFrom (.inside delimiter (text.reverse ++ read)) rest := by
  induction text generalizing read with
  | nil => rfl
  | cons c text ih =>
      rw [List.flatMap_cons, List.append_assoc, literalsFrom_escapeIn hquote,
        ih, List.reverse_cons, List.append_assoc]
      rfl

/-- The characters that would end a line or shift what is on it. -/
def Text.breaks : List Char := ['\n', '\r', '\t']

theorem Text.not_mem_escapeIn {b : Char} (hb : b ∈ breaks) (delimiter c : Char) :
    b ∉ escapeIn delimiter c := by
  simp only [breaks, List.mem_cons, List.not_mem_nil, or_false] at hb
  have hletters : b ≠ '\\' ∧ b ≠ 'n' ∧ b ≠ 'r' ∧ b ≠ 't' := by
    rcases hb with rfl | rfl | rfl <;> decide
  obtain ⟨hbackslash, hn, hr, ht⟩ := hletters
  rw [escapeIn]
  split
  · simp [hbackslash]
  split
  · simp [hbackslash, hn]
  split
  · simp [hbackslash, hr]
  split
  · simp [hbackslash, ht]
  next hfeed hreturn htab =>
    -- What is left is written as it is, and it is none of the three.
    have hne : b ≠ c := by
      rintro rfl
      rcases hb with rfl | rfl | rfl <;> contradiction
    split
    · simp [hbackslash, hne]
    · simp [hne]

/-- A quoted text holds the text, whatever it is. -/
theorem spelled_literal {delimiter : Char} (hquote : isQuote delimiter = true)
    (key : String) : Spelled (Text.literal delimiter key) [key] := by
  have hdelimiter : delimiter ≠ '\\' ∧ delimiter ≠ '\n' := by
    rw [isQuote, Bool.or_eq_true, decide_eq_true_eq, decide_eq_true_eq] at hquote
    rcases hquote with rfl | rfl <;> decide
  constructor
  · rw [Text.literal, String.toList_ofList, Text.literalChars]
    have hbody : '\n' ∉ key.toList.flatMap (Text.escapeIn delimiter) := by
      intro hmem
      obtain ⟨c, -, hc⟩ := List.mem_flatMap.mp hmem
      exact Text.not_mem_escapeIn List.mem_cons_self delimiter c hc
    simp [hbody, hdelimiter.2.symm]
  · intro rest
    rw [Text.literal, String.toList_ofList, Text.literalChars,
      List.cons_append, literalsFrom, hquote, if_pos rfl, List.append_assoc,
      literalsFrom_body hquote, List.append_nil, List.cons_append,
      literalsFrom, if_neg hdelimiter.1, if_pos rfl, List.reverse_reverse,
      String.ofList_toList]
    rfl

/-! ## Woven texts -/

/-- A text that is put together of calm texts and of the literals of these
keys, all with one delimiter. -/
inductive Woven (delimiter : Char) : String → List String → Prop
  | calm {text : String} (calm : Calm text) : Woven delimiter text []
  | literal (key : String) : Woven delimiter (Text.literal delimiter key) [key]
  | append {s t : String} {keys more : List String} :
    Woven delimiter s keys → Woven delimiter t more →
    Woven delimiter (s ++ t) (keys ++ more)

theorem Woven.spelled {delimiter : Char} (hquote : isQuote delimiter = true)
    (h : Woven delimiter text keys) : Spelled text keys := by
  induction h with
  | calm calm => exact calm.spelled
  | literal key => exact spelled_literal hquote key
  | append _ _ hs ht => exact hs.append ht

/-- A calm text behind another. -/
theorem Woven.then_calm {delimiter : Char} (h : Woven delimiter text keys)
    (hcalm : Calm s) : Woven delimiter (text ++ s) keys := by
  simpa using h.append (.calm hcalm)

theorem Woven.words {delimiter : Char} (h : Woven delimiter text keys)
    (hwords : s.toList.all isCalm = true) : Woven delimiter (text ++ s) keys :=
  h.then_calm (calm_words hwords)

/-- Calm words in front of a text. -/
theorem Woven.after_words {delimiter : Char} (h : Woven delimiter text keys)
    (hwords : s.toList.all isCalm = true) : Woven delimiter (s ++ text) keys :=
  (Woven.calm (calm_words hwords)).append h

example : literals? "\t\th['x\\n\"'] = @x" = some ["x\n\""] := by decide

end Recast
