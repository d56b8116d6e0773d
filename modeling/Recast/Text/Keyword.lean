import Recast.Unicode.Property

/-!
# Words typed by a user

The names of languages and formats are told apart regardless of the white space around them and of
the case of their ASCII letters. Other letters keep their case: no name holds any.
-/

namespace Recast.Text

/-- A text without the white space around it. -/
def trim (text : List Char) : List Char :=
  ((text.dropWhile Unicode.isWhiteSpace).reverse.dropWhile Unicode.isWhiteSpace).reverse

/-- The form in which a typed word is compared. -/
def keyword (typed : String) : List Char :=
  (trim typed.toList).map Char.toLower

end Recast.Text
