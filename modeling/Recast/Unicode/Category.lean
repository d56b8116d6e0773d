/-!
# General categories

Every character has exactly one general category. The constructors carry the two-letter names of
the standard: the first letter is the class (letter, mark, number, punctuation, symbol, separator,
other), the second the kind within it.
-/

namespace Recast.Unicode

inductive Category
  /-- Letters: capital, small, title-case, modifier, other. -/
  | lu | ll | lt | lm | lo
  /-- Marks: nonspacing, spacing, enclosing. -/
  | mn | mc | me
  /-- Numbers: decimal digit, letter, other. -/
  | nd | nl | no
  /-- Punctuation: connector, dash, open, close, initial quote, final quote, other. -/
  | pc | pd | ps | pe | pi | pf | po
  /-- Symbols: mathematical, currency, modifier, other. -/
  | sm | sc | sk | so
  /-- Separators: space, line, paragraph. -/
  | zs | zl | zp
  /-- Other: control, format, surrogate, private use, not assigned. -/
  | cc | cf | cs | co | cn
  deriving DecidableEq, Repr

namespace Category

def isLetter : Category → Bool
  | lu | ll | lt | lm | lo => true
  | _ => false

def isNumber : Category → Bool
  | nd | nl | no => true
  | _ => false

/-- Neither a separator nor one of the categories without a glyph. -/
def isVisible : Category → Bool
  | zs | zl | zp | cc | cf | cs | co | cn => false
  | _ => true

end Category

end Recast.Unicode
