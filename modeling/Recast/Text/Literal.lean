/-!
# String literals of generated code

A literal opens and closes on its delimiter. Inside it the backslash, the delimiter, the line feed,
the carriage return and the tab are written with a backslash before them or before their letter;
everything else stands for itself. So no text can end its own literal or break its line.
-/

namespace Recast.Text

/-- A character as it stands inside a literal with this delimiter. -/
def escapeIn (delimiter c : Char) : List Char :=
  if c = '\\' then ['\\', '\\']
  else if c = '\n' then ['\\', 'n']
  else if c = '\r' then ['\\', 'r']
  else if c = '\t' then ['\\', 't']
  else if c = delimiter then ['\\', c]
  else [c]

/-- The literal of a text, as characters. -/
def literalChars (delimiter : Char) (text : List Char) : List Char :=
  delimiter :: (text.flatMap (escapeIn delimiter) ++ [delimiter])

/-- The literal of a text. -/
def literal (delimiter : Char) (text : String) : String :=
  String.ofList (literalChars delimiter text.toList)

end Recast.Text
