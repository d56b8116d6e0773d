import Recast.Json.Position

/-!
# The inside of a JSON string

Everything between the quotes is taken as it stands, but for escapes and for control characters,
which are refused. An escape of four hexadecimal digits names a unit of UTF-16, so a character
beyond the first plane takes two of them, a leading surrogate and a trailing one.
-/

namespace Recast.Json

/-- The character behind a one-letter escape. -/
def shortEscape? (c : Char) : Option Char :=
  if c = '"' ∨ c = '\\' ∨ c = '/' then some c
  else if c = 'b' then some '\x08'
  else if c = 'f' then some '\x0c'
  else if c = 'n' then some '\n'
  else if c = 'r' then some '\r'
  else if c = 't' then some '\t'
  else none

def hexValue? (c : Char) : Option Nat :=
  if '0' ≤ c ∧ c ≤ '9' then some (c.toNat - '0'.toNat)
  else if 'a' ≤ c ∧ c ≤ 'f' then some (c.toNat - 'a'.toNat + 10)
  else if 'A' ≤ c ∧ c ≤ 'F' then some (c.toNat - 'A'.toNat + 10)
  else none

/-- The unit that four hexadecimal digits name. -/
def unit? (a b c d : Char) : Option Nat := do
  let a ← hexValue? a
  let b ← hexValue? b
  let c ← hexValue? c
  let d ← hexValue? d
  return ((a * 16 + b) * 16 + c) * 16 + d

/-- The failure where four hexadecimal digits should stand and do not: four bytes are taken before
they are looked at. -/
def unitFailure (s : List Char) : Failure :=
  if byteLength s < 4 then ⟨.endInString, 0, []⟩ else ⟨.badEscape, byteLength s - 4, []⟩

def isLeading (unit : Nat) : Bool :=
  0xD800 ≤ unit && unit ≤ 0xDBFF

def isTrailing (unit : Nat) : Bool :=
  0xDC00 ≤ unit && unit ≤ 0xDFFF

/-- The character of a surrogate pair. -/
def joinUnits (leading trailing : Nat) : Char :=
  Char.ofNat (0x10000 + (leading - 0xD800) * 0x400 + (trailing - 0xDC00))

/-- Puts a character in front of what the rest of a string gave. -/
def consChar (c : Char) (tail : Except Failure (List Char × List Char)) :
    Except Failure (List Char × List Char) :=
  tail.map fun (text, rest) => (c :: text, rest)

/-- The failure after a leading surrogate where no second escape begins. -/
def pairFailure (s : List Char) : Failure :=
  if s.isEmpty then ⟨.endInString, 0, []⟩ else failOn .missingSurrogate s

/-- The text up to the closing quote, and what follows the quote. -/
def readString : List Char → Except Failure (List Char × List Char)
  | [] => .error (failBefore .endInString [])
  | '"' :: rest => .ok ([], rest)
  | '\\' :: 'u' :: a :: b :: c :: d :: rest =>
    match unit? a b c d with
    | none => .error (unitFailure (a :: b :: c :: d :: rest))
    | some unit =>
      if isTrailing unit then .error (failBefore .loneSurrogate rest)
      else if isLeading unit then
        match rest with
        | '\\' :: 'u' :: a :: b :: c :: d :: rest =>
          match unit? a b c d with
          | none => .error (unitFailure (a :: b :: c :: d :: rest))
          | some second =>
            if isTrailing second then consChar (joinUnits unit second) (readString rest)
            else .error (failBefore .loneSurrogate rest)
        | '\\' :: 'u' :: rest => .error (unitFailure rest)
        | '\\' :: rest => .error (pairFailure rest)
        | rest => .error (pairFailure rest)
      else consChar (Char.ofNat unit) (readString rest)
  | '\\' :: 'u' :: rest => .error (unitFailure rest)
  | '\\' :: c :: rest =>
    match shortEscape? c with
    | some character => consChar character (readString rest)
    | none => .error (failOn .badEscape (c :: rest))
  | '\\' :: [] => .error (failBefore .endInString [])
  | c :: rest =>
    if c.toNat < 0x20 then .error (failBefore .controlCharacter rest)
    else consChar c (readString rest)

end Recast.Json
