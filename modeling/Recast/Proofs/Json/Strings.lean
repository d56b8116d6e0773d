import Recast.Json.Quoted
import Recast.Json.StringBody

/-!
# A written string is read back

Writing a string puts something in the place of each character, and reading
takes exactly that from the front of what follows and gives the character. The
three ways to write a character are the three ways to read one: a letter behind
a backslash, four hexadecimal digits behind `\u`, or the character as it stands.
A quote is always written behind a backslash, so the first bare one is the end.
-/

namespace Recast.Json

variable {c : Char} {text rest s : List Char}

/-! ## Hexadecimal digits -/

/-- The two digits of a control character are read as its code. -/
theorem unit?_digitChar {n : Nat} (h : n < 0x20) :
    unit? '0' '0' (Nat.digitChar (n / 16)) (Nat.digitChar (n % 16)) = some n := by
  have hall : ∀ n < 0x20, unit? '0' '0' (Nat.digitChar (n / 16))
      (Nat.digitChar (n % 16)) = some n := by decide
  exact hall n h

/-! ## One character -/

theorem readString_short {letter : Char} (hletter : letter ≠ 'u')
    (hshort : shortEscape? letter = some c) :
    readString ('\\' :: letter :: s) = consChar c (readString s) := by
  rw [readString, hshort]
  · exact fun _ _ _ _ _ heq => absurd heq hletter
  · exact hletter

theorem readString_unit (h : c.toNat < 0x20) :
    readString ('\\' :: 'u' :: '0' :: '0' :: Nat.digitChar (c.toNat / 16)
      :: Nat.digitChar (c.toNat % 16) :: s) = consChar c (readString s) := by
  have htrailing : isTrailing c.toNat = false := by
    rw [isTrailing, Bool.and_eq_false_iff, decide_eq_false_iff_not]
    omega
  have hleading : isLeading c.toNat = false := by
    rw [isLeading, Bool.and_eq_false_iff, decide_eq_false_iff_not]
    omega
  rw [readString, unit?_digitChar h]
  simp [htrailing, hleading, Char.ofNat_toNat]

theorem readString_plain (hquote : c ≠ '"') (hbackslash : c ≠ '\\')
    (hprints : ¬ c.toNat < 0x20) :
    readString (c :: s) = consChar c (readString s) := by
  rw [readString, if_neg hprints]
  · exact hquote
  · exact fun _ _ _ _ _ heq => absurd heq hbackslash
  · exact fun _ heq => absurd heq hbackslash
  · exact fun _ _ heq => absurd heq hbackslash
  · exact fun heq => absurd heq hbackslash

theorem readString_escapeChar (c : Char) (s : List Char) :
    readString (escapeChar c ++ s) = consChar c (readString s) := by
  rw [escapeChar]
  split
  · next h => subst h; exact readString_short (by decide) rfl
  next hquote =>
  split
  · next h => subst h; exact readString_short (by decide) rfl
  next hbackslash =>
  split
  · next h => subst h; exact readString_short (by decide) rfl
  split
  · next h => subst h; exact readString_short (by decide) rfl
  split
  · next h => subst h; exact readString_short (by decide) rfl
  split
  · next h => subst h; exact readString_short (by decide) rfl
  split
  · next h => subst h; exact readString_short (by decide) rfl
  split
  · next hcontrol => exact readString_unit hcontrol
  · next hprints => exact readString_plain hquote hbackslash hprints

/-! ## A whole string -/

theorem readString_body (text rest : List Char) :
    readString (text.flatMap escapeChar ++ '"' :: rest) = .ok (text, rest) := by
  induction text with
  | nil => rw [List.flatMap_nil, List.nil_append, readString]
  | cons c text ih =>
      rw [List.flatMap_cons, List.append_assoc, readString_escapeChar, ih]
      rfl

theorem toList_quoted (text : String) :
    (quoted text).toList = '"' :: (text.toList.flatMap escapeChar ++ ['"']) :=
  String.toList_ofList

end Recast.Json
