import Recast.Unicode.Property

/-!
# The words of a key

A key is taken apart in three steps. A run of capitals in front of a small letter is an acronym
whose last capital opens the next word (`HTTPServer`), and a small letter or digit in front of a
capital is a hump (`phoneNumbers`); both places get a space. Then everything that is neither a
letter nor a number separates words.
-/

namespace Recast.Name

open Unicode (isCapital isSmall isDecimal isWordChar)

/-- Sets off the last capital of each run of several capitals that a small letter follows. The run
read so far is kept in front, latest capital first. -/
def spaceAcronymsAfter (run : List Char) : List Char → List Char
  | [] => run.reverse
  | c :: rest =>
    if isCapital c then spaceAcronymsAfter (c :: run) rest
    else
      match run with
      | last :: before :: more =>
        if isSmall c then
          (before :: more).reverse ++ ' ' :: last :: c :: spaceAcronymsAfter [] rest
        else run.reverse ++ c :: spaceAcronymsAfter [] rest
      | _ => run.reverse ++ c :: spaceAcronymsAfter [] rest

def spaceAcronyms (s : List Char) : List Char :=
  spaceAcronymsAfter [] s

/-- Sets off each capital that directly follows a small letter or a decimal digit. -/
def spaceHumps : List Char → List Char
  | x :: y :: rest =>
    if (isSmall x || isDecimal x) && isCapital y then x :: ' ' :: y :: spaceHumps rest
    else x :: spaceHumps (y :: rest)
  | s => s

/-- The nonempty pieces between separators. -/
def pieces (s : List Char) : List (List Char) :=
  (s.splitOnP fun c => !isWordChar c).filter fun w => !w.isEmpty

/-- The words of a key, in order. -/
def words (key : List Char) : List (List Char) :=
  pieces (spaceHumps (spaceAcronyms key))

end Recast.Name
