import Recast.Proofs.Wire.Literals

/-!
# A quoted text ends where quoting ended it

A literal is read from the front of a text: a quote opens it, a backslash
changes what the character behind it means, and the same quote, standing bare,
closes it. Quoting writes no bare quote but the last and leaves no backslash
without its second character, so the reader stops at the end of what was quoted
and nowhere before, whatever it is and whatever stands behind it.

All that the reader remembers is whether it stands behind a backslash. Each
quoted character takes it through that state or past it and leaves it where it
was, one character richer; this carries the induction over the text.
-/

namespace Recast.Text

open Scan (isQuote)

/-! ## Reading -/

/-- The text up to the quote that closes a literal, and what is behind the
quote. The reader may stand behind a backslash. -/
def readBody? (delimiter : Char) :
    Bool → List Char → Option (List Char × List Char)
  | _, [] => none
  | true, c :: rest =>
    (readBody? delimiter false rest).map fun (text, left) =>
      (unescape c :: text, left)
  | false, c :: rest =>
    if c = '\\' then readBody? delimiter true rest
    else if c = delimiter then some ([], rest)
    else
      (readBody? delimiter false rest).map fun (text, left) => (c :: text, left)

/-- The text of the literal that a text begins with, and what is behind it. -/
def readLiteral? (text : String) : Option (String × String) :=
  match text.toList with
  | [] => none
  | c :: rest =>
    if isQuote c then
      (readBody? c false rest).map fun (body, left) =>
        (String.ofList body, String.ofList left)
    else none

/-! ## Quoted characters -/

variable {delimiter : Char}

theorem readBody?_escapeIn (hquote : isQuote delimiter = true) (c : Char)
    (rest : List Char) :
    readBody? delimiter false (escapeIn delimiter c ++ rest)
      = (readBody? delimiter false rest).map fun (text, left) =>
          (c :: text, left) := by
  rw [escapeIn]
  split
  · next hc => subst hc; rfl
  split
  · next hc => subst hc; rfl
  split
  · next hc => subst hc; rfl
  split
  · next hc => subst hc; rfl
  split
  · next hc =>
      subst hc
      rw [List.cons_append, readBody?, if_pos rfl, List.cons_append, readBody?,
        unescape_delimiter hquote]
      rfl
  · next hbackslash _ _ _ hdelimiter =>
      rw [List.cons_append, readBody?, if_neg hbackslash, if_neg hdelimiter]
      rfl

theorem readBody?_flatMap (hquote : isQuote delimiter = true)
    (text rest : List Char) :
    readBody? delimiter false
        (text.flatMap (escapeIn delimiter) ++ delimiter :: rest)
      = some (text, rest) := by
  induction text with
  | nil =>
      have hbackslash : delimiter ≠ '\\' := by
        rintro rfl
        exact absurd hquote (by decide)
      rw [List.flatMap_nil, List.nil_append, readBody?, if_neg hbackslash,
        if_pos rfl]
  | cons c text ih =>
      rw [List.flatMap_cons, List.append_assoc, readBody?_escapeIn hquote, ih]
      rfl

/-! ## Literals -/

/-- Whatever is quoted and whatever follows, reading a literal from the front
stops at the end of what was quoted and gives the text. No line feed, carriage
return or tab is in a literal. -/
theorem readLiteral?_literal_append (h : delimiter = '"' ∨ delimiter = '\'')
    (text rest : String) :
    readLiteral? (literal delimiter text ++ rest) = some (text, rest) ∧
      ∀ b ∈ breaks, b ∉ (literal delimiter text).toList := by
  have hquote : isQuote delimiter = true := by
    rcases h with rfl | rfl <;> rfl
  constructor
  · have hchars : (literal delimiter text ++ rest).toList
        = delimiter :: (text.toList.flatMap (escapeIn delimiter)
            ++ delimiter :: rest.toList) := by
      rw [String.toList_append, literal, String.toList_ofList, literalChars,
        List.cons_append, List.append_assoc, List.singleton_append]
    rw [readLiteral?, hchars]
    simp only [hquote, if_true, readBody?_flatMap hquote, Option.map_some,
      String.ofList_toList]
  · intro b hb hmem
    rw [literal, String.toList_ofList, literalChars, List.mem_cons,
      List.mem_append, List.mem_flatMap, List.mem_singleton] at hmem
    have hdelimiter : b ≠ delimiter := by
      rintro rfl
      simp only [breaks, List.mem_cons, List.not_mem_nil, or_false] at hb
      rcases hb with rfl | rfl | rfl <;> simp [isQuote] at hquote
    rcases hmem with heq | ⟨c, -, hc⟩ | heq
    · exact hdelimiter heq
    · exact not_mem_escapeIn hb delimiter c hc
    · exact hdelimiter heq

/-- A key that holds all that quoting escapes, in front of another literal. -/
theorem readLiteral?_literal_append_hostile :
    readLiteral? (literal '\'' "\\'\n\"" ++ "'] = 1")
        = some ("\\'\n\"", "'] = 1") ∧
      '\n' ∉ (literal '\'' "\\'\n\"").toList := by
  obtain ⟨hread, hbreaks⟩ :=
    readLiteral?_literal_append (.inr rfl) "\\'\n\"" "'] = 1"
  exact ⟨hread, hbreaks '\n' (by decide)⟩

end Recast.Text
