import Recast.Json.Position
import Recast.Json.Value

/-!
# Numerals

A numeral without fraction and exponent is an integer when 64 bits hold it: unsigned if it has no
sign, signed if it has one. Every other numeral is a floating-point number, minus zero among them.

A floating-point numeral is read as a significand of at most 64 bits and a power of ten. Digits that
the significand has no room for are dropped; each dropped digit before the point raises the power by
one. The numeral is refused when its double-precision value is infinite. That value comes from one
rounded multiplication, so the bound is stated with the rounded factors.
-/

namespace Recast.Json

/-- The largest significand. -/
def maxSignificand : Nat := Nat.pow 2 64 - 1

/-- The largest exponent that is read digit by digit. -/
def maxExponent : Nat := Nat.pow 2 31 - 1

def digitValue (c : Char) : Nat :=
  c.toNat - '0'.toNat

/-- A numeral as far as it has been read: the significand and the power of ten. -/
structure Scaled where
  significand : Nat
  exponent : Int
  deriving DecidableEq, Repr

/-! ## When a scaled numeral is too large -/

/-- The nearest number with a significand of 53 bits, the even one of two. -/
def roundToDouble (n : Nat) : Nat :=
  if n < Nat.pow 2 53 then n
  else
    let unit := Nat.pow 2 (Nat.log2 n - 52)
    let quotient := n / unit
    let twice := 2 * (n % unit)
    if twice < unit || (twice == unit && quotient % 2 == 0) then quotient * unit
    else (quotient + 1) * unit

/-- The least product of two doubles that is rounded to infinity. -/
def overflowBound : Nat := (Nat.pow 2 54 - 1) * Nat.pow 2 970

def Scaled.tooLarge (x : Scaled) : Bool :=
  x.significand != 0 && (309 ≤ x.exponent ||
    0 ≤ x.exponent &&
      overflowBound ≤ roundToDouble x.significand * roundToDouble (Nat.pow 10 x.exponent.toNat))

/-! ## Digits -/

/-- Takes the digits before the point. Once a digit does not fit, it and all after it only raise the
power of ten. -/
def takeWhole (x : Scaled) : List Char → Scaled
  | [] => x
  | c :: digits =>
    let next := 10 * x.significand + digitValue c
    if x.exponent = 0 ∧ next ≤ maxSignificand then takeWhole { x with significand := next } digits
    else takeWhole { x with exponent := x.exponent + 1 } digits

/-- Takes the digits after the point, up to the first that does not fit. -/
def takeFraction (x : Scaled) : List Char → Scaled
  | [] => x
  | c :: digits =>
    let next := 10 * x.significand + digitValue c
    if next ≤ maxSignificand then takeFraction ⟨next, x.exponent - 1⟩ digits
    else x

/-- Takes the digits of an exponent, unless they exceed `maxExponent`. Then the digits are returned
that follow the one in excess. -/
def takeExponent (value : Nat) : List Char → Except (List Char) Nat
  | [] => .ok value
  | c :: digits =>
    let next := 10 * value + digitValue c
    if next ≤ maxExponent then takeExponent next digits else .error digits

/-! ## The parts of a numeral -/

/-- The end of a floating-point numeral. -/
def finishFloat (x : Scaled) (rest : List Char) : Except Failure (Number × List Char) :=
  if x.tooLarge then .error (failBefore .numberTooLarge rest) else .ok (.float, rest)

/-- The exponent, after its letter. One in excess is an error if it makes the value infinite and
makes it zero otherwise. -/
def readExponent (x : Scaled) (s : List Char) : Except Failure (Number × List Char) :=
  let (negative, s) :=
    match s with
    | '-' :: rest => (true, rest)
    | '+' :: rest => (false, rest)
    | _ => (false, s)
  match s with
  | [] => .error (failBefore .endInValue [])
  | c :: rest =>
    if !c.isDigit then .error (failOn .badNumber s)
    else
      let digits := rest.takeWhile Char.isDigit
      let rest := rest.dropWhile Char.isDigit
      match takeExponent (digitValue c) digits with
      | .ok value =>
        finishFloat { x with exponent := if negative then x.exponent - value else x.exponent + value }
          rest
      | .error after =>
        if x.significand ≠ 0 ∧ !negative then
          .error (failBefore .numberTooLarge (after ++ rest))
        else .ok (.float, rest)

/-- The fraction, after the point, and what follows it. -/
def readFraction (x : Scaled) (s : List Char) : Except Failure (Number × List Char) :=
  let digits := s.takeWhile Char.isDigit
  let rest := s.dropWhile Char.isDigit
  if digits.isEmpty then
    .error (failOn (if rest.isEmpty then .endInValue else .badNumber) rest)
  else
    let x := takeFraction x digits
    match rest with
    | c :: after => if c = 'e' ∨ c = 'E' then readExponent x after else finishFloat x rest
    | [] => finishFloat x rest

/-- The numeral with these whole digits and nothing after them. -/
def wholeNumber (negative : Bool) (x : Scaled) (rest : List Char) :
    Except Failure (Number × List Char) :=
  if x.exponent ≠ 0 then finishFloat x rest
  else if !negative then .ok (.integer x.significand, rest)
  else if x.significand = 0 ∨ Nat.pow 2 63 < x.significand then .ok (.float, rest)
  else .ok (.integer (-x.significand), rest)

/-- What follows the whole digits. -/
def readAfterWhole (negative : Bool) (x : Scaled) (s : List Char) :
    Except Failure (Number × List Char) :=
  match s with
  | c :: rest =>
    if c = '.' then readFraction x rest
    else if c = 'e' ∨ c = 'E' then readExponent x rest
    else wholeNumber negative x s
  | [] => wholeNumber negative x s

/-- The digits of a numeral, after its sign. A leading zero stands alone. -/
def readWhole (negative : Bool) (s : List Char) : Except Failure (Number × List Char) :=
  match s with
  | [] => .error (failBefore .endInValue [])
  | c :: rest =>
    if c = '0' then
      match rest with
      | d :: _ =>
        if d.isDigit then .error (failOn .badNumber rest) else readAfterWhole negative ⟨0, 0⟩ rest
      | [] => readAfterWhole negative ⟨0, 0⟩ rest
    else if c.isDigit then
      readAfterWhole negative (takeWhole ⟨digitValue c, 0⟩ (rest.takeWhile Char.isDigit))
        (rest.dropWhile Char.isDigit)
    else .error (failOn .badNumber s)

/-- A numeral at the front of a text. -/
def readNumber (s : List Char) : Except Failure (Number × List Char) :=
  match s with
  | '-' :: rest => readWhole true rest
  | _ => readWhole false s

end Recast.Json
