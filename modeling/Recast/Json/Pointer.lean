import Recast.Json.Value

/-!
# JSON pointers

A pointer is empty, and then selects the whole document, or is a row of tokens, each after a slash.
In a token `~1` stands for a slash and `~0` for a tilde. A token selects the field of an object under
that key, or the element of an array at that index, which is written without sign and without
leading zeros. Everything else selects nothing.
-/

namespace Recast.Json

/-- The key that a token spells. -/
def unescapeToken : List Char → List Char
  | '~' :: '1' :: rest => '/' :: unescapeToken rest
  | '~' :: '0' :: rest => '~' :: unescapeToken rest
  | c :: rest => c :: unescapeToken rest
  | [] => []

/-- The number that a text of digits spells, unless it has a leading zero. -/
def index? (token : List Char) : Option Nat :=
  if token.isEmpty || !token.all Char.isDigit then none
  else if token.head? == some '0' && token.length != 1 then none
  else some (token.foldl (fun n c => 10 * n + (c.toNat - '0'.toNat)) 0)

/-- What a token selects in a value. -/
def child? (value : Json) (token : List Char) : Option Json :=
  match value with
  | .object fields => field? (String.ofList token) fields
  | .array items => (index? token).bind (items[·]?)
  | _ => none

/-- What a pointer selects in a document. -/
def pointer? (document : Json) (pointer : String) : Option Json :=
  match pointer.toList with
  | [] => some document
  | c :: rest =>
    if c = '/' then
      ((rest.splitOnP (· == '/')).map unescapeToken).foldl (fun v t => v.bind (child? · t))
        (some document)
    else none

end Recast.Json
