import Recast.Unicode.Property

/-!
# Texts shown in messages

A message that quotes a key or a pointer must not be garbled by what the key holds. The text is put
in double quotes, and every character that would not show, or would attach itself to its neighbour,
is spelled by its code point: `\u{200b}`.
-/

namespace Recast.Text

/-- A character spelled by its code point, in lower-case hexadecimal. -/
def codePoint (c : Char) : List Char :=
  ['\\', 'u', '\x7b'] ++ Nat.toDigits 16 c.toNat ++ ['\x7d']

/-- A character as it is shown inside double quotes. -/
def visibleChar (c : Char) : List Char :=
  if c = '"' || c = '\\' then ['\\', c]
  else if c = '\t' then ['\\', 't']
  else if c = '\r' then ['\\', 'r']
  else if c = '\n' then ['\\', 'n']
  else if c = '\x00' then ['\\', '0']
  else if Unicode.isGraphemeExtend c || !Unicode.isPrintable c then codePoint c
  else [c]

/-- A text in double quotes with all of its characters visible. -/
def visible (text : String) : String :=
  String.ofList ('"' :: (text.toList.flatMap visibleChar ++ ['"']))

end Recast.Text
