import Mathlib.Algebra.Group.Int.Defs
import Mathlib.Algebra.Group.Nat.Defs
import Recast.Error
import Recast.Proofs.Json.Keys
import Recast.Proofs.Json.Printed

/-!
# Which numerals are read as integers

A numeral is put together of a sign, whole digits, a fraction and an exponent.
What it is read as does not hang on its value alone: with a fraction or an
exponent it is a floating-point number, whatever the digits are, and `-0` is
one too, since no integer has a negative zero. Every other numeral is an integer
exactly if 64 bits hold its value, with a sign bit where the numeral has a sign.

The reader takes the whole digits into a significand of 64 bits. As long as they
fit, the significand is their value and the power of ten is zero; from the first
digit that does not fit the power stays positive. So the power tells behind the
last digit on which side of the bound the value is, and the digits are gone
through once.
-/

namespace Recast.Json

/-! ## Numerals and their parts -/

/-- One or more decimal digits. -/
structure Digits where
  chars : List Char
  nonempty : chars ≠ [] := by decide
  decimal : chars.all Char.isDigit = true := by decide

/-- The number that a row of digits gives behind one that was read before. -/
def valueFrom (n : Nat) (digits : List Char) : Nat :=
  digits.foldl (fun n c => 10 * n + digitValue c) n

def Digits.value (digits : Digits) : Nat :=
  valueFrom 0 digits.chars

structure Exponent where
  letter : Char
  sign : Option Char
  digits : Digits
  isLetter : letter = 'e' ∨ letter = 'E' := by decide
  isSign : ∀ c ∈ sign, c = '+' ∨ c = '-' := by decide

def Exponent.chars (exponent : Exponent) : List Char :=
  exponent.letter :: (exponent.sign.toList ++ exponent.digits.chars)

/-- A numeral as a document spells it. A leading zero stands alone. -/
structure Numeral where
  negative : Bool
  whole : Digits
  fraction : Option Digits
  exponent : Option Exponent
  zeroAlone : whole.chars.head? = some '0' → whole.chars = ['0'] := by decide

namespace Numeral

/-- What is behind the whole digits. -/
def tail (numeral : Numeral) : List Char :=
  (numeral.fraction.elim [] fun digits => '.' :: digits.chars) ++
    numeral.exponent.elim [] Exponent.chars

def chars (numeral : Numeral) : List Char :=
  (if numeral.negative then ['-'] else []) ++ (numeral.whole.chars ++ numeral.tail)

def text (numeral : Numeral) : String :=
  String.ofList numeral.chars

/-- The value of a numeral that has neither fraction nor exponent. -/
def wholeValue (numeral : Numeral) : Int :=
  if numeral.negative then -(numeral.whole.value : Int) else numeral.whole.value

/-- The numeral has neither fraction nor exponent, and its value is one of the
signed or of the unsigned integers of 64 bits. -/
structure Fits (numeral : Numeral) : Prop where
  noFraction : numeral.fraction = none
  noExponent : numeral.exponent = none
  lower : -2 ^ 63 ≤ numeral.wholeValue
  upper : numeral.wholeValue ≤ 2 ^ 64 - 1

end Numeral

/-! ## Whole digits -/

variable {c : Char} {n : Nat} {digits s : List Char} {x : Scaled}
  {negative : Bool}

theorem le_valueFrom (n : Nat) (digits : List Char) :
    n ≤ valueFrom n digits := by
  induction digits generalizing n with
  | nil => exact Nat.le_refl n
  | cons c digits ih =>
      have hnext : 10 * n + digitValue c ≤ valueFrom n (c :: digits) :=
        ih (10 * n + digitValue c)
      omega

/-- The power of ten stays positive once it is. -/
theorem takeWhole_raised (h : 0 < x.exponent) :
    0 < (takeWhole x digits).exponent := by
  induction digits generalizing x with
  | nil => exact h
  | cons c digits ih =>
      rw [takeWhole, if_neg fun hfits => by omega]
      exact ih (by simp only; omega)

theorem takeWhole_fits (h : valueFrom n digits ≤ maxSignificand) :
    takeWhole ⟨n, 0⟩ digits = ⟨valueFrom n digits, 0⟩ := by
  induction digits generalizing n with
  | nil => rfl
  | cons c digits ih =>
      have hnext : 10 * n + digitValue c ≤ maxSignificand :=
        Nat.le_trans (le_valueFrom _ digits) h
      rw [takeWhole, if_pos ⟨rfl, hnext⟩]
      exact ih h

theorem takeWhole_exceeds (hn : n ≤ maxSignificand)
    (h : maxSignificand < valueFrom n digits) :
    0 < (takeWhole ⟨n, 0⟩ digits).exponent := by
  induction digits generalizing n with
  | nil => exact absurd h (Nat.not_lt.mpr hn)
  | cons c digits ih =>
      rw [takeWhole]
      split
      · next hfits => exact ih hfits.2 h
      · exact takeWhole_raised (by simp)

theorem digitValue_le (h : c.isDigit = true) : digitValue c ≤ 9 := by
  have hcode := Char.isDigit_iff_toNat.mp h
  have hzero : '0'.toNat = 48 := rfl
  have hnine : '9'.toNat = 57 := rfl
  rw [digitValue]
  omega

theorem eq_zero_of_digitValue (h : c.isDigit = true) (hzero : digitValue c = 0) :
    c = '0' := by
  have hcode := Char.isDigit_iff_toNat.mp h
  rw [digitValue] at hzero
  have hnat : c.toNat = '0'.toNat := by omega
  exact Char.toNat_inj.mp hnat

/-! ## The parts of a numeral are read one by one -/

theorem Digits.exists_eq_cons (digits : Digits) :
    ∃ c rest, digits.chars = c :: rest ∧ c.isDigit = true ∧
      ∀ d ∈ rest, d.isDigit = true := by
  obtain ⟨c, rest, hchars⟩ := List.exists_cons_of_ne_nil digits.nonempty
  have hdecimal := List.all_eq_true.mp digits.decimal
  rw [hchars, List.forall_mem_cons] at hdecimal
  exact ⟨c, rest, hchars, hdecimal⟩

/-- The reader gives the first digit a place without a look at the bound. -/
theorem takeWhole_cons (h : c.isDigit = true) :
    takeWhole ⟨0, 0⟩ (c :: digits) = takeWhole ⟨digitValue c, 0⟩ digits := by
  have hfits : 10 * 0 + digitValue c ≤ maxSignificand := by
    have hnine := digitValue_le h
    have hmax : 9 ≤ maxSignificand := by decide
    omega
  rw [takeWhole, if_pos ⟨rfl, hfits⟩, Nat.mul_zero, Nat.zero_add]

/-- Whole digits are taken together, and what is behind them is left. -/
theorem readWhole_digits (whole : Digits)
    (hzero : whole.chars.head? = some '0' → whole.chars = ['0'])
    (hs : ∀ c ∈ s.head?, c.isDigit = false) :
    readWhole negative (whole.chars ++ s)
      = readAfterWhole negative (takeWhole ⟨0, 0⟩ whole.chars) s := by
  obtain ⟨c, rest, hchars, hc, hrest⟩ := whole.exists_eq_cons
  by_cases hopens : c = '0'
  · subst hopens
    rw [hzero (by rw [hchars]; rfl)]
    cases s with
    | nil => rfl
    | cons d s =>
        have hd : d.isDigit = false := hs d rfl
        simp only [List.cons_append, List.nil_append, readWhole, hd]
        rfl
  · have htake : (rest ++ s).takeWhile Char.isDigit = rest := by
      rw [List.takeWhile_append_of_pos hrest]
      cases s with
      | nil => simp
      | cons d s => simp [hs d rfl]
    have hdrop : (rest ++ s).dropWhile Char.isDigit = s := by
      rw [List.dropWhile_append_of_pos hrest]
      cases s with
      | nil => rfl
      | cons d s => simp [hs d rfl]
    rw [hchars, List.cons_append, takeWhole_cons hc]
    simp only [readWhole, if_neg hopens, hc, if_true, htake, hdrop]

namespace Numeral

variable {numeral : Numeral}

/-- No digit follows the whole digits. -/
theorem head?_tail (numeral : Numeral) :
    ∀ c ∈ numeral.tail.head?, c.isDigit = false := by
  intro c hc
  rw [tail] at hc
  cases hfraction : numeral.fraction with
  | some digits =>
      rw [hfraction] at hc
      obtain rfl : '.' = c := Option.some.inj hc
      rfl
  | none =>
      rw [hfraction] at hc
      cases hexponent : numeral.exponent with
      | none =>
          rw [hexponent] at hc
          cases hc
      | some exponent =>
          rw [hexponent] at hc
          obtain rfl : exponent.letter = c := Option.some.inj hc
          rcases exponent.isLetter with h | h <;> rw [h] <;> rfl

theorem readNumber_chars (numeral : Numeral) :
    readNumber numeral.chars
      = readAfterWhole numeral.negative (takeWhole ⟨0, 0⟩ numeral.whole.chars)
          numeral.tail := by
  have hwhole : ∀ negative, readWhole negative (numeral.whole.chars ++ numeral.tail)
      = readAfterWhole negative (takeWhole ⟨0, 0⟩ numeral.whole.chars)
          numeral.tail :=
    fun negative => readWhole_digits _ numeral.zeroAlone numeral.head?_tail
  rw [chars]
  cases hnegative : numeral.negative with
  | true => exact hwhole true
  | false =>
      rw [← hwhole false]
      obtain ⟨c, rest, hchars, hc, -⟩ := numeral.whole.exists_eq_cons
      have hminus : c ≠ '-' := by
        rintro rfl
        exact absurd hc (by decide)
      simp only [hchars, Bool.false_eq_true, if_false, List.nil_append,
        List.cons_append]
      rw [readNumber]
      exact fun _ heq => hminus (List.cons.inj heq).1

end Numeral

/-! ## Numerals that are read as floating-point numbers -/

theorem gives_finishFloat (x : Scaled) (rest : List Char) :
    Gives (finishFloat x rest) (· = .float) := by
  rw [finishFloat]
  split
  · exact gives_error _
  · exact gives_ok rfl

theorem gives_readExponent (x : Scaled) (s : List Char) :
    Gives (readExponent x s) (· = .float) := by
  fun_cases readExponent x s with
  | case1 | case2 | case4 => exact gives_error _
  | case3 => exact gives_finishFloat _ _
  | case5 => exact gives_ok rfl

theorem gives_readFraction (x : Scaled) (s : List Char) :
    Gives (readFraction x s) (· = .float) := by
  fun_cases readFraction x s with
  | case1 => exact gives_error _
  | case2 => exact gives_readExponent _ _
  | case3 | case4 => exact gives_finishFloat _ _

namespace Numeral

variable {numeral : Numeral}

theorem gives_of_fraction {digits : Digits}
    (h : numeral.fraction = some digits) :
    Gives (readNumber numeral.chars) (· = .float) := by
  rw [readNumber_chars, tail, h]
  exact gives_readFraction _ _

theorem gives_of_exponent {exponent : Exponent}
    (hfraction : numeral.fraction = none)
    (h : numeral.exponent = some exponent) :
    Gives (readNumber numeral.chars) (· = .float) := by
  have hletter : exponent.letter ≠ '.' := by
    rcases exponent.isLetter with h | h <;> rw [h] <;> decide
  rw [readNumber_chars, tail, hfraction, h]
  simp only [Option.elim, List.nil_append, Exponent.chars, readAfterWhole,
    if_neg hletter, if_pos exponent.isLetter]
  exact gives_readExponent _ _

end Numeral

/-! ## Whole numerals -/

theorem Digits.takeWhole_eq {whole : Digits} (h : whole.value < 2 ^ 64) :
    takeWhole ⟨0, 0⟩ whole.chars = ⟨whole.value, 0⟩ := by
  have hmax : maxSignificand = 2 ^ 64 - 1 := rfl
  have hfits : whole.value ≤ maxSignificand := by omega
  exact takeWhole_fits hfits

theorem wholeNumber_signed (hpos : 0 < n) (hle : n ≤ 2 ^ 63) :
    wholeNumber true ⟨n, 0⟩ s = .ok (.integer (-n), s) := by
  have hbound : Nat.pow 2 63 = 2 ^ 63 := rfl
  have hfits : ¬ (n = 0 ∨ Nat.pow 2 63 < n) := by omega
  simp [wholeNumber, hfits]

theorem wholeNumber_unfit (h : n = 0 ∨ 2 ^ 63 < n) :
    wholeNumber true ⟨n, 0⟩ s = .ok (.float, s) := by
  have hunfit : n = 0 ∨ Nat.pow 2 63 < n := h
  simp [wholeNumber, hunfit]

namespace Numeral

variable {numeral : Numeral}

theorem readNumber_whole (hfraction : numeral.fraction = none)
    (hexponent : numeral.exponent = none) :
    readNumber numeral.chars
      = wholeNumber numeral.negative (takeWhole ⟨0, 0⟩ numeral.whole.chars) [] := by
  rw [readNumber_chars, tail, hfraction, hexponent]
  rfl

/-- Only a zero has the value zero. -/
theorem chars_of_value_eq_zero (h : numeral.whole.value = 0) :
    numeral.whole.chars = ['0'] := by
  obtain ⟨c, rest, hchars, hc, -⟩ := numeral.whole.exists_eq_cons
  have hopens : 10 * 0 + digitValue c ≤ valueFrom (10 * 0 + digitValue c) rest :=
    le_valueFrom _ rest
  have hvalue : valueFrom (10 * 0 + digitValue c) rest = 0 := by
    rw [Digits.value, hchars] at h
    exact h
  have hzero : c = '0' := eq_zero_of_digitValue hc (by omega)
  exact numeral.zeroAlone (by rw [hchars, hzero]; rfl)

/-- Of the whole numerals, `-0` is the one of value zero that has a sign. -/
theorem text_eq_minusZero_iff (hfraction : numeral.fraction = none)
    (hexponent : numeral.exponent = none) :
    numeral.text = "-0" ↔ numeral.negative = true ∧ numeral.whole.value = 0 := by
  have hchars : numeral.chars
      = (if numeral.negative then ['-'] else []) ++ numeral.whole.chars := by
    rw [chars, tail, hfraction, hexponent]
    simp
  rw [text, ← String.toList_inj, String.toList_ofList, hchars]
  cases hnegative : numeral.negative with
  | false =>
      obtain ⟨c, rest, hwhole, hc, -⟩ := numeral.whole.exists_eq_cons
      have hminus : c ≠ '-' := by
        rintro rfl
        exact absurd hc (by decide)
      simp [hwhole, hminus]
  | true =>
      constructor
      · intro h
        have hwhole : numeral.whole.chars = ['0'] := (List.cons.inj h).2
        rw [Digits.value, hwhole]
        exact ⟨rfl, rfl⟩
      · rintro ⟨-, hzero⟩
        rw [chars_of_value_eq_zero hzero]
        rfl

theorem readNumber_of_fits (hfits : numeral.Fits) (hzero : numeral.text ≠ "-0") :
    readNumber numeral.chars = .ok (.integer numeral.wholeValue, []) := by
  obtain ⟨hfraction, hexponent, hlower, hupper⟩ := hfits
  rw [readNumber_whole hfraction hexponent]
  rw [wholeValue] at hlower hupper ⊢
  cases hnegative : numeral.negative with
  | false =>
      rw [hnegative, if_neg (by decide)] at hlower hupper
      rw [Digits.takeWhole_eq (by omega)]
      rfl
  | true =>
      rw [hnegative, if_pos rfl] at hlower hupper
      have hnonzero : numeral.whole.value ≠ 0 := fun h =>
        hzero ((text_eq_minusZero_iff hfraction hexponent).mpr ⟨hnegative, h⟩)
      rw [Digits.takeWhole_eq (by omega),
        wholeNumber_signed (by omega) (by omega)]
      rfl

/-- Beyond the bounds, and at `-0`, a whole numeral is no integer. -/
theorem gives_of_unfit (hfraction : numeral.fraction = none)
    (hexponent : numeral.exponent = none)
    (h : ¬ (numeral.Fits ∧ numeral.text ≠ "-0")) :
    Gives (readNumber numeral.chars) (· = .float) := by
  rw [ne_eq, text_eq_minusZero_iff hfraction hexponent] at h
  rw [readNumber_whole hfraction hexponent]
  by_cases hlt : numeral.whole.value < 2 ^ 64
  · rw [Digits.takeWhole_eq hlt]
    cases hnegative : numeral.negative with
    | false =>
        have hvalue : numeral.wholeValue = numeral.whole.value := by
          rw [wholeValue, hnegative, if_neg (by decide)]
        exact absurd ⟨⟨hfraction, hexponent, by omega, by omega⟩,
          by simp [hnegative]⟩ h
    | true =>
        have hvalue : numeral.wholeValue = -(numeral.whole.value : Int) := by
          rw [wholeValue, hnegative, if_pos rfl]
        have hunfit : numeral.whole.value = 0 ∨ 2 ^ 63 < numeral.whole.value := by
          by_contra hfits
          exact h ⟨⟨hfraction, hexponent, by omega, by omega⟩,
            fun hzero => hfits (.inl hzero.2)⟩
        rw [wholeNumber_unfit hunfit]
        exact gives_ok rfl
  · have hmax : maxSignificand = 2 ^ 64 - 1 := rfl
    have hraised : 0 < (takeWhole ⟨0, 0⟩ numeral.whole.chars).exponent :=
      takeWhole_exceeds (Nat.zero_le _)
        (show maxSignificand < numeral.whole.value by omega)
    rw [wholeNumber, if_pos (by omega)]
    exact gives_finishFloat _ _

theorem gives_readNumber (h : ¬ (numeral.Fits ∧ numeral.text ≠ "-0")) :
    Gives (readNumber numeral.chars) (· = .float) := by
  cases hfraction : numeral.fraction with
  | some digits => exact gives_of_fraction hfraction
  | none =>
      cases hexponent : numeral.exponent with
      | some exponent => exact gives_of_exponent hfraction hexponent
      | none => exact gives_of_unfit hfraction hexponent h

/-! ## Documents -/

theorem exists_chars_eq_cons (numeral : Numeral) :
    ∃ c rest, numeral.chars = c :: rest ∧ (c = '-' ∨ c.isDigit = true) := by
  obtain ⟨c, rest, hwhole, hc, -⟩ := numeral.whole.exists_eq_cons
  rw [chars, hwhole]
  cases numeral.negative with
  | true => exact ⟨'-', _, rfl, .inl rfl⟩
  | false => exact ⟨c, _, rfl, .inr hc⟩

end Numeral

theorem readValue_number {depth : Nat} (hc : c = '-' ∨ c.isDigit = true) :
    readValue depth (c :: s)
      = (readNumber (c :: s)).map fun (n, s) => (.number n, s) := by
  have hne : ∀ d : Char, ¬ (d = '-' ∨ d.isDigit = true) → c ≠ d :=
    fun d hd heq => hd (heq ▸ hc)
  have hspace : isSpace c = false := by
    simp [isSpace, hne ' ' (by decide), hne '\n' (by decide),
      hne '\t' (by decide), hne '\r' (by decide)]
  rw [readValue, skipSpace_cons hspace]
  simp only [if_neg (hne 'n' (by decide)), if_neg (hne 't' (by decide)),
    if_neg (hne 'f' (by decide)), if_pos hc]

namespace Numeral

variable {numeral : Numeral}

theorem readValue_chars (numeral : Numeral) (depth : Nat) :
    readValue depth numeral.chars
      = (readNumber numeral.chars).map fun (n, s) => (.number n, s) := by
  obtain ⟨c, rest, hchars, hc⟩ := numeral.exists_chars_eq_cons
  rw [hchars, readValue_number hc]

theorem decode_of_fits (hfits : numeral.Fits) (hzero : numeral.text ≠ "-0") :
    decode numeral.text = .ok (.number (.integer numeral.wholeValue)) := by
  have hread : readDocument numeral.chars
      = .ok (.number (.integer numeral.wholeValue)) := by
    rw [readDocument, readValue_chars, readNumber_of_fits hfits hzero]
    rfl
  rw [decode, text, String.toList_ofList, hread]
  rfl

theorem eq_float_of_decode (h : ¬ (numeral.Fits ∧ numeral.text ≠ "-0"))
    {value : Json} (hvalue : decode numeral.text = .ok value) :
    value = .number .float := by
  rw [decode, text, String.toList_ofList, readDocument, readValue_chars] at hvalue
  cases hread : readNumber numeral.chars with
  | error failure =>
      rw [hread] at hvalue
      cases hvalue
  | ok taken =>
      obtain ⟨number, rest⟩ := taken
      obtain rfl : number = .float := gives_readNumber h number rest hread
      rw [hread] at hvalue
      simp only [Except.map] at hvalue
      split at hvalue
      · cases hvalue
        rfl
      · cases hvalue

end Numeral

/-- A text is read as JSON exactly if the reader of JSON reads it. -/
theorem decode_json_eq_ok {text : String} {value : Json} :
    SourceFormat.json.decode text = .ok value ↔ decode text = .ok value := by
  rw [SourceFormat.decode]
  cases decode text with
  | error reason => simp [Except.mapError]
  | ok read => simp [Except.mapError]

/-- A numeral that is read is an integer exactly if it has neither fraction nor
exponent, its value is between the least signed and the greatest unsigned
integer of 64 bits, and it is not `-0`; and such a numeral is always read, and
with its value. Every other numeral that is read is a floating-point number. -/
theorem kind_of_numeral (numeral : Numeral) :
    (numeral.Fits ∧ numeral.text ≠ "-0" →
      SourceFormat.json.decode numeral.text
        = .ok (.number (.integer numeral.wholeValue))) ∧
    ∀ value, SourceFormat.json.decode numeral.text = .ok value →
      (value.kind = .scalar .integer ↔
        numeral.Fits ∧ numeral.text ≠ "-0") ∧
      (value.kind = .scalar .integer ∨ value.kind = .scalar .float) := by
  have hinteger : numeral.Fits ∧ numeral.text ≠ "-0" →
      decode numeral.text = .ok (.number (.integer numeral.wholeValue)) :=
    fun h => Numeral.decode_of_fits h.1 h.2
  refine ⟨fun h => decode_json_eq_ok.mpr (hinteger h), fun value hvalue => ?_⟩
  rw [decode_json_eq_ok] at hvalue
  by_cases h : numeral.Fits ∧ numeral.text ≠ "-0"
  · rw [hinteger h] at hvalue
    cases hvalue
    exact ⟨iff_of_true rfl h, .inl rfl⟩
  · rw [Numeral.eq_float_of_decode h hvalue]
    exact ⟨iff_of_false (by simp [kind, Number.scalar]) h, .inr rfl⟩

/-- The least integer that a numeral can be read as. -/
def leastNumeral : Numeral where
  negative := true
  whole := { chars := ['9', '2', '2', '3', '3', '7', '2', '0', '3', '6', '8',
    '5', '4', '7', '7', '5', '8', '0', '8'] }
  fraction := none
  exponent := none

theorem kind_of_numeral_least :
    leastNumeral.Fits ∧ leastNumeral.text = "-9223372036854775808" ∧
      ∃ value, SourceFormat.json.decode leastNumeral.text = .ok value ∧
        value.kind = .scalar .integer := by
  have hvalue : leastNumeral.wholeValue = -2 ^ 63 := by decide
  have hfits : leastNumeral.Fits :=
    ⟨rfl, rfl, Int.le_of_eq hvalue.symm, by rw [hvalue]; decide⟩
  have hnonzero : leastNumeral.text ≠ "-0" := by decide
  have hread := (kind_of_numeral leastNumeral).1 ⟨hfits, hnonzero⟩
  exact ⟨hfits, by decide, _, hread,
    ((kind_of_numeral leastNumeral).2 _ hread).1.mpr ⟨hfits, hnonzero⟩⟩

def minusZero : Numeral where
  negative := true
  whole := { chars := ['0'] }
  fraction := none
  exponent := none

/-- Minus zero has no fraction and no exponent, and its value fits, but it is
read as a floating-point number. -/
theorem kind_minusZero :
    minusZero.Fits ∧
      SourceFormat.json.decode minusZero.text = .ok (.number .float) ∧
      ¬ ∀ (numeral : Numeral) (value : Json),
        SourceFormat.json.decode numeral.text = .ok value →
        (value.kind = .scalar .integer ↔ numeral.Fits) := by
  have hfits : minusZero.Fits := ⟨rfl, rfl, by decide, by decide⟩
  have hread : SourceFormat.json.decode minusZero.text = .ok (.number .float) :=
    rfl
  refine ⟨hfits, hread, fun hall => ?_⟩
  have hkind := (hall minusZero _ hread).mpr hfits
  simp [kind, Number.scalar] at hkind

end Recast.Json
