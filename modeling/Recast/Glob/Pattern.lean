import Recast.Path

/-!
# Glob patterns

A pattern for one name is a row of tokens. `?` stands for any character, `*` for any number of them,
and a bracket for one character of a set, or outside it after `!`; in a set a hyphen between two
characters makes a range, and a `]` that comes first stands for itself. `**` stands for any number
of directories and must be a component of its own.
-/

namespace Recast.Glob

/-- A part of the set in a bracket. -/
inductive CharSet
  | single (c : Char)
  | range (first last : Char)
  deriving DecidableEq, Repr

def CharSet.contains (set : CharSet) (c : Char) : Bool :=
  match set with
  | single d => c == d
  | range first last => first ≤ c && c ≤ last

inductive Token
  | char (c : Char)
  | anyChar
  | anyText
  /-- Any number of directories. -/
  | anyDirectories
  | within (sets : List CharSet)
  | except (sets : List CharSet)
  deriving DecidableEq, Repr

abbrev Pattern := List Token

/-! ## Reading a pattern -/

inductive PatternFault
  | wildcards
  | recursiveWildcard
  | invalidRange
  deriving DecidableEq, Repr

def PatternFault.message : PatternFault → String
  | wildcards => "wildcards are either regular `*` or recursive `**`"
  | recursiveWildcard => "recursive wildcards must form a single path component"
  | invalidRange => "invalid range pattern"

/-- Why a pattern could not be read, and the number of characters before the fault. -/
structure PatternError where
  position : Nat
  fault : PatternFault
  deriving DecidableEq, Repr

def PatternError.message (e : PatternError) : String :=
  "Pattern syntax error near position " ++ toString e.position ++ ": " ++ e.fault.message

/-- The parts of the set between brackets. -/
def charSets : List Char → List CharSet
  | first :: '-' :: last :: rest => .range first last :: charSets rest
  | c :: rest => .single c :: charSets rest
  | [] => []

/-- The set up to its closing bracket, and what follows the bracket. The first character belongs to
the set whatever it is. -/
def bracket? : List Char → Option (List CharSet × List Char)
  | [] => none
  | first :: rest =>
    match rest.dropWhile (· != ']') with
    | [] => none
    | _ :: after => some (charSets (first :: rest.takeWhile (· != ']')), after)

/-- A bracket, after its opening. -/
def set? : List Char → Option (Token × List Char)
  | '!' :: rest => (bracket? rest).map fun (sets, after) => (.except sets, after)
  | rest => (bracket? rest).map fun (sets, after) => (.within sets, after)

/-- The token for a row of stars, where `before` says whether a component begins at the row. The
slash after `**` belongs to it. -/
def stars (position count : Nat) (begins : Bool) (after : List Char) :
    Except PatternError (Token × List Char) :=
  if 2 < count then .error ⟨position + 2, .wildcards⟩
  else if count < 2 then .ok (.anyText, after)
  else if !begins then .error ⟨position - 1, .recursiveWildcard⟩
  else
    match after with
    | [] => .ok (.anyDirectories, [])
    | c :: rest =>
      if c = Path.separator then .ok (.anyDirectories, rest)
      else .error ⟨position + 2, .recursiveWildcard⟩

/-- Reads the tokens from a position on, at most `fuel` of them. -/
def tokensFrom : Nat → Nat → Bool → List Char → Except PatternError Pattern
  | 0, _, _, _ => .ok []
  | _, _, _, [] => .ok []
  | fuel + 1, position, begins, c :: rest => do
    let s := c :: rest
    let (token, after) ←
      if c = '?' then pure (Token.anyChar, rest)
      else if c = '*' then
        stars position (s.takeWhile (· == '*')).length begins (s.dropWhile (· == '*'))
      else if c = '[' then
        match set? rest with
        | some found => pure found
        | none => .error ⟨position, .invalidRange⟩
      else pure (Token.char c, rest)
    let begins := c = Path.separator ∨ token = .anyDirectories
    let tokens ← tokensFrom fuel (position + (s.length - after.length)) begins after
    return token :: tokens

/-- Reads a pattern, of one name or of a whole path. -/
def Pattern.parse (text : String) : Except PatternError Pattern :=
  tokensFrom text.length 0 true text.toList

/-! ## Matching a name -/

/-- Does `rest` hold of some end of a text? -/
def someSuffix (rest : List Char → Bool) : List Char → Bool
  | [] => rest []
  | c :: s => rest (c :: s) || someSuffix rest s

def Token.matchesChar (token : Token) (c : Char) : Bool :=
  match token with
  | char d => c == d
  | anyChar => true
  | within sets => sets.any (·.contains c)
  | except sets => !sets.any (·.contains c)
  | anyText | anyDirectories => false

def matchesChars : Pattern → List Char → Bool
  | [], s => s.isEmpty
  | .anyText :: pattern, s => someSuffix (matchesChars pattern) s
  | .anyDirectories :: pattern, s => someSuffix (matchesChars pattern) s
  | token :: pattern, c :: s => token.matchesChar c && matchesChars pattern s
  | _ :: _, [] => false

/-- Does a pattern match a name? -/
def Pattern.matchesName (pattern : Pattern) (name : String) : Bool :=
  matchesChars pattern name.toList

/-- The only name that a pattern without wildcards matches. -/
def Pattern.literal? : Pattern → Option (List Char)
  | [] => some []
  | .char c :: pattern => (Pattern.literal? pattern).map (c :: ·)
  | _ => none

/-- Does a pattern stand for directories at any depth? -/
def Pattern.isRecursive (pattern : Pattern) : Bool :=
  pattern.contains .anyDirectories

/-- A text that holds a character with a meaning in patterns, or an opening brace. -/
def isPattern (text : String) : Bool :=
  text.toList.any fun c => c == '*' || c == '?' || c == '[' || c == '\x7b'

end Recast.Glob
