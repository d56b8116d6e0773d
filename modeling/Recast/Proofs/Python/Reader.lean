import Recast.Proofs.Names.Plain
import Recast.Text.Literal

/-!
# Reading generated Python

A generated module is read back from its text, character by character. What is
read is what its meaning depends on: which classes it imports and from where,
which class it declares with which fields, and the expressions in its
`from_dict` and `to_dict`.

The expressions are those of a small part of Python: access to a key or a
field, the call of one of the two conversions, a list comprehension with one
variable, and a conditional that lets `None` pass. A string literal is read
with the escapes that it was written with.

A reader takes a text and returns what it has read and the rest. The readers
below come with the one lemma that their use needs, which says what they make
of a text that opens as it should.
-/

namespace Recast.Python

open Name (Wordlike isNameChar)

/-! ## What is read -/

inductive Expr
  /-- The value that `data` has under a key, or `None`. -/
  | get (key : String)
  /-- The value that `self` has for a field. -/
  | attr (ident : String)
  | var (name : String)
  /-- A class, called by the name it is imported under, makes an object. -/
  | fromDict (className : String) (value : Expr)
  | toDict (value : Expr)
  /-- The body for each element of a list. -/
  | each (body : Expr) (var : String) (list : Expr)
  /-- `None` if the subject is `None`, and the body otherwise. -/
  | unlessNone (subject body : Expr)
  deriving DecidableEq, Repr

structure Import where
  module : String
  className : String
  deriving DecidableEq, Repr

structure Module where
  fileName : String
  imports : List Import
  className : String
  /-- The declared fields. -/
  fields : List String
  /-- The keyword arguments that `from_dict` makes the object with. -/
  decoded : List (String × Expr)
  /-- The entries of the dictionary that `to_dict` returns. -/
  encoded : List (String × Expr)
  deriving DecidableEq, Repr

/-! ## Words, names and literals -/

/-- The rest of a text that opens with these words. -/
def expectChars : List Char → List Char → Option (List Char)
  | [], text => some text
  | _ :: _, [] => none
  | c :: words, d :: text => if c = d then expectChars words text else none

def expect (words : String) (text : List Char) : Option (List Char) :=
  expectChars words.toList text

/-- The longest name that a text opens with, which may be empty. -/
def readName (text : List Char) : String × List Char :=
  (String.ofList (text.takeWhile isNameChar), text.dropWhile isNameChar)

/-- The text up to a character, and the rest from that character on. -/
def readUntil (stop : Char) (text : List Char) : String × List Char :=
  (String.ofList (text.takeWhile (· != stop)), text.dropWhile (· != stop))

/-- The character that an escape stands for. -/
def unescape : Char → Option Char
  | '\\' => some '\\'
  | 'n' => some '\n'
  | 'r' => some '\r'
  | 't' => some '\t'
  | '"' => some '"'
  | _ => none

/-- The inside of a literal, up to and with the quote that ends it. -/
def readBody : List Char → Option (List Char × List Char)
  | [] => none
  | ['\\'] => none
  | '\\' :: c :: rest => do
    let c ← unescape c
    let (body, rest) ← readBody rest
    return (c :: body, rest)
  | c :: rest =>
    if c = '"' then some ([], rest)
    else if c = '\n' || c = '\r' then none
    else do
      let (body, rest) ← readBody rest
      return (c :: body, rest)

def readLiteral (text : List Char) : Option (String × List Char) := do
  let rest ← expect "\"" text
  let (body, rest) ← readBody rest
  return (String.ofList body, rest)

/-! ## Expressions -/

/-- A value, or the call of its `to_dict`. -/
def readCall (value : Expr) (text : List Char) : Expr × List Char :=
  match expect ".to_dict()" text with
  | some rest => (.toDict value, rest)
  | none => (value, text)

/-- An expression, given a bound on how deep it nests. What it is shows in the
name it opens with and in what follows that name. -/
def readExpr : Nat → List Char → Option (Expr × List Char)
  | 0, _ => none
  | depth + 1, text =>
    let (name, rest) := readName text
    match expect ".from_dict(" rest with
    | some rest => do
      let (value, rest) ← readExpr depth rest
      let rest ← expect ")" rest
      return readCall (.fromDict name value) rest
    | none =>
      if name = "None" then do
        let rest ← expect " if " rest
        let (subject, rest) ← readExpr depth rest
        let rest ← expect " is None else " rest
        let (body, rest) ← readExpr depth rest
        return (.unlessNone subject body, rest)
      else if name = "data" then do
        let rest ← expect ".get(" rest
        let (key, rest) ← readLiteral rest
        let rest ← expect ")" rest
        return readCall (.get key) rest
      else if name = "self" then do
        let rest ← expect "." rest
        let (ident, rest) := readName rest
        return readCall (.attr ident) rest
      else if name = "" then do
        let rest ← expect "[" rest
        let (body, rest) ← readExpr depth rest
        let rest ← expect " for " rest
        let (item, rest) := readName rest
        let rest ← expect " in " rest
        let (list, rest) ← readExpr depth rest
        let rest ← expect "]" rest
        return readCall (.each body item list) rest
      else return readCall (.var name) rest

/-! ## Modules -/

/-- Lines of one kind, as many as there are. -/
def readLines {α : Type} (read : List Char → Option (α × List Char)) :
    Nat → List Char → List α × List Char
  | 0, text => ([], text)
  | bound + 1, text =>
    match read text with
    | none => ([], text)
    | some (line, rest) =>
      let (lines, rest) := readLines read bound rest
      (line :: lines, rest)

def readImport (text : List Char) : Option (Import × List Char) := do
  let rest ← expect "from ." text
  let (module, rest) := readUntil ' ' rest
  let rest ← expect " import " rest
  let (className, rest) := readName rest
  let rest ← expect "\n" rest
  return (⟨module, className⟩, rest)

/-- A declared field; its type is read over. -/
def readField (text : List Char) : Option (String × List Char) := do
  let rest ← expect "    " text
  let (ident, rest) := readName rest
  let rest ← expect ": Optional[" rest
  let (_, rest) := readUntil '\n' rest
  let rest ← expect "\n" rest
  return (ident, rest)

/-- A keyword argument on a line of its own. -/
def readDecoded (text : List Char) : Option ((String × Expr) × List Char) := do
  let rest ← expect "            " text
  let (ident, rest) := readName rest
  let rest ← expect "=" rest
  let (value, rest) ← readExpr rest.length rest
  let rest ← expect ",\n" rest
  return ((ident, value), rest)

/-- An entry of a dictionary on a line of its own. -/
def readEncoded (text : List Char) : Option ((String × Expr) × List Char) := do
  let rest ← expect "            " text
  let (key, rest) ← readLiteral rest
  let rest ← expect ": " rest
  let (value, rest) ← readExpr rest.length rest
  let rest ← expect ",\n" rest
  return ((key, value), rest)

/-- The lines between two brackets, or none if the brackets stand together. -/
def readBlock {α : Type} (read : List Char → Option (α × List Char))
    (empty first last : String) (text : List Char) :
    Option (List α × List Char) :=
  match expect empty text with
  | some rest => some ([], rest)
  | none => do
    let rest ← expect first text
    let (lines, rest) := readLines read rest.length rest
    let rest ← expect last rest
    return (lines, rest)

/-- The imports of other generated classes, set off by an empty line. -/
def readImports (text : List Char) : List Import × List Char :=
  match expect "\nfrom ." text with
  | some _ => readLines readImport (text.drop 1).length (text.drop 1)
  | none => ([], text)

/-- The head of a module: its imports, its class and the declared fields. -/
def readHead (text : List Char) :
    Option ((List Import × String × List String) × List Char) := do
  let rest ← expect "from __future__ import annotations\n\n" text
  let rest ← expect "import json\n" rest
  let rest ← expect "from dataclasses import dataclass\n" rest
  let rest ← expect "from typing import Any, Dict, List, Optional\n" rest
  let (imports, rest) := readImports rest
  let rest ← expect "\n\n@dataclass\nclass " rest
  let (className, rest) := readName rest
  let rest ← expect ":\n" rest
  let (fields, rest) := readLines readField rest.length rest
  return ((imports, className, fields), rest)

def readFromDict (text : List Char) :
    Option (List (String × Expr) × List Char) := do
  let rest ← expect "\n    @classmethod\n" text
  let rest ← expect "    def from_dict(cls, data: Dict[str, Any]) -> " rest
  let (_, rest) := readName rest
  let rest ← expect ":\n" rest
  readBlock readDecoded "        return cls()\n" "        return cls(\n"
    "        )\n" rest

/-- The method that reads an object from a JSON text is read over. -/
def readFromJson (text : List Char) : Option (List Char) := do
  let rest ← expect "\n    @classmethod\n" text
  let rest ← expect "    def from_json(cls, text: str) -> " rest
  let (_, rest) := readName rest
  let rest ← expect ":\n" rest
  expect "        return cls.from_dict(json.loads(text))\n" rest

def readToDict (text : List Char) :
    Option (List (String × Expr) × List Char) := do
  let rest ← expect "\n    def to_dict(self) -> Dict[str, Any]:\n" text
  readBlock readEncoded "        return \x7b\x7d\n" "        return \x7b\n"
    "        \x7d\n" rest

/-- A module with its name and its text. -/
def readModule (fileName : String) (text : List Char) : Option Module := do
  let ((imports, className, fields), rest) ← readHead text
  let (decoded, rest) ← readFromDict rest
  let rest ← readFromJson rest
  let (encoded, _) ← readToDict rest
  return { fileName, imports, className, fields, decoded, encoded }

/-! ## Reading what was written -/

theorem expectChars_append (words rest : List Char) :
    expectChars words (words ++ rest) = some rest := by
  induction words with
  | nil => rw [List.nil_append, expectChars]
  | cons c words ih => rw [List.cons_append, expectChars, if_pos rfl, ih]

theorem expect_append (words : String) (rest : List Char) :
    expect words (words.toList ++ rest) = some rest :=
  expectChars_append words.toList rest

/-- Reading goes on behind the words that it expects. -/
theorem expect_bind {β : Type} (words : String) (rest : List Char)
    (next : List Char → Option β) :
    (expect words (words.toList ++ rest)).bind next = next rest := by
  rw [expect_append, Option.bind_some]

/-- Words are compared with words character by character. -/
theorem expect_of_chars {words chars : List Char} {rest : List Char}
    {result : Option (List Char)}
    (h : expectChars words (chars ++ rest) = result) :
    expect (String.ofList words) ((String.ofList chars).toList ++ rest)
      = result := by
  rwa [expect, String.toList_ofList, String.toList_ofList]

/-- The words that an expression may open with, besides variables. -/
def openers : List String :=
  ["", "data", "self", "None", "from_dict", "e"]

theorem wordlike_of_opener {name : String} (h : openers.contains name = true) :
    Wordlike name := by
  have hwords : openers.all (·.toList.all isNameChar) = true := by
    decide
  exact List.all_eq_true.mp
    (List.all_eq_true.mp hwords name (List.contains_iff_mem.mp h))

/-- The characters that stand behind expressions. -/
def marks : List Char :=
  ['\n', ' ', ',', ':', '=', ')', '[', ']']

theorem isNameChar_of_mark {c : Char}
    (h : ('.' :: '(' :: marks).contains c = true) : isNameChar c = false := by
  have hmarks : ('.' :: '(' :: marks).all (!isNameChar ·) = true := by
    decide
  exact (Bool.not_eq_true' _).mp
    (List.all_eq_true.mp hmarks c (List.contains_iff_mem.mp h))

/-- No name goes on into a text. -/
def Stops (text : List Char) : Prop :=
  ∀ c, text.head? = some c → isNameChar c = false

/-- No name goes on into a text, and nothing is called there. -/
def Ends (text : List Char) : Prop :=
  ∀ c, text.head? = some c → isNameChar c = false ∧ c ≠ '.' ∧ c ≠ '('

theorem Ends.stops {text : List Char} (h : Ends text) : Stops text :=
  fun c hc => (h c hc).1

/-- A text that opens with words opens with their first character. -/
theorem of_head?_append {P : Char → Prop} {words : String}
    (h : ∃ c, words.toList.head? = some c ∧ P c) {rest : List Char} {d : Char}
    (hd : (words.toList ++ rest).head? = some d) : P d := by
  obtain ⟨c, hc, hP⟩ := h
  rw [List.head?_append, hc] at hd
  injection hd with hd
  rwa [← hd]

/-- Do words open with one of these characters? -/
def opensWith (chars : List Char) (words : String) : Bool :=
  words.toList.head?.any chars.contains

theorem stops_append {words : String}
    (h : opensWith ('.' :: '(' :: marks) words = true) (rest : List Char) :
    Stops (words.toList ++ rest) := by
  obtain ⟨c, hhead, hc⟩ := (Option.any_eq_true _ _).mp h
  exact fun _ hd => of_head?_append (P := fun c => isNameChar c = false)
    ⟨c, hhead, isNameChar_of_mark hc⟩ hd

theorem ends_append {words : String} (h : opensWith marks words = true)
    (rest : List Char) : Ends (words.toList ++ rest) := by
  obtain ⟨c, hhead, hc⟩ := (Option.any_eq_true _ _).mp h
  have hcall : marks.all (fun d => d != '.' && d != '(') = true := by decide
  have hmem := List.contains_iff_mem.mp hc
  have hname : isNameChar c = false := isNameChar_of_mark <|
    List.contains_iff_mem.mpr
      (List.mem_cons_of_mem _ (List.mem_cons_of_mem _ hmem))
  have hne : c ≠ '.' ∧ c ≠ '(' := by
    simpa using List.all_eq_true.mp hcall c hmem
  exact fun _ hd => of_head?_append
    (P := fun c => isNameChar c = false ∧ c ≠ '.' ∧ c ≠ '(')
    ⟨c, hhead, hname, hne⟩ hd

theorem eq_append_of_expectChars {words text rest : List Char}
    (h : expectChars words text = some rest) : text = words ++ rest := by
  fun_induction expectChars words text with
  | case1 text => exact Option.some.inj h
  | case2 c words => cases h
  | case3 words d text ih => rw [ih h, List.cons_append]
  | case4 c words d text hne => cases h

/-- Words that open on another character are not there. -/
theorem expect_eq_none {words : String} {c : Char}
    (h : words.toList.head? = some c) {text : List Char}
    (htext : ∀ d, text.head? = some d → d ≠ c) : expect words text = none := by
  rw [expect]
  match hwords : words.toList, text with
  | [], _ => simp [hwords] at h
  | _ :: _, [] => rfl
  | w :: ws, d :: text =>
      have hw : w = c := by simpa [hwords] using h
      rw [expectChars, if_neg]
      rw [hw]
      exact fun heq => htext d rfl heq.symm

theorem expect_of_ends {words : String} (h : words.toList.head? = some '.')
    {text : List Char} (htext : Ends text) : expect words text = none :=
  expect_eq_none h fun d hd => (htext d hd).2.1

theorem takeWhile_append {p : Char → Bool} {chars rest : List Char}
    (hchars : ∀ c ∈ chars, p c = true)
    (hrest : ∀ c, rest.head? = some c → p c = false) :
    (chars ++ rest).takeWhile p = chars ∧
      (chars ++ rest).dropWhile p = rest := by
  induction chars with
  | nil =>
      match rest with
      | [] => exact ⟨rfl, rfl⟩
      | c :: rest =>
          have hc := hrest c rfl
          simp [hc]
  | cons c chars ih =>
      obtain ⟨htake, hdrop⟩ := ih fun d hd => hchars d (List.mem_cons_of_mem _ hd)
      have hc := hchars c List.mem_cons_self
      rw [List.cons_append, List.takeWhile_cons_of_pos hc,
        List.dropWhile_cons_of_pos hc, htake, hdrop]
      exact ⟨rfl, rfl⟩

theorem readName_append {name : String} (h : Wordlike name) {rest : List Char}
    (hrest : Stops rest) : readName (name.toList ++ rest) = (name, rest) := by
  obtain ⟨htake, hdrop⟩ := takeWhile_append (p := isNameChar) h hrest
  rw [readName, htake, hdrop, String.ofList_toList]

theorem readUntil_append {stop : Char} {text : String}
    (h : stop ∉ text.toList) {rest : List Char}
    (hrest : rest.head? = some stop) :
    readUntil stop (text.toList ++ rest) = (text, rest) := by
  have hbefore : ∀ c ∈ text.toList, (c != stop) = true :=
    fun c hc => bne_iff_ne.mpr fun heq => h (heq ▸ hc)
  have hstop : ∀ c, rest.head? = some c → (c != stop) = false := by
    intro c hc
    rw [hrest] at hc
    injection hc with hc
    rw [hc, bne_self_eq_false]
  obtain ⟨htake, hdrop⟩ := takeWhile_append hbefore hstop
  rw [readUntil, htake, hdrop, String.ofList_toList]

theorem readBody_backslash {c d : Char} (h : unescape c = some d)
    (text : List Char) :
    readBody ('\\' :: c :: text) =
      (readBody text).map fun read => (d :: read.1, read.2) := by
  rw [readBody, h]
  cases readBody text <;> rfl

/-- A character is read back from its form inside a literal. -/
theorem readBody_escapeIn (c : Char) (text : List Char) :
    readBody (Text.escapeIn '"' c ++ text) =
      (readBody text).map fun read => (c :: read.1, read.2) := by
  rw [Text.escapeIn]
  split
  · next h =>
      rw [h]
      exact readBody_backslash rfl text
  · next hslash =>
      split
      · next h =>
          rw [h]
          exact readBody_backslash rfl text
      · next hfeed =>
          split
          · next h =>
              rw [h]
              exact readBody_backslash rfl text
          · next hreturn =>
              split
              · next h =>
                  rw [h]
                  exact readBody_backslash rfl text
              · split
                · next h =>
                    rw [h]
                    exact readBody_backslash rfl text
                · next hquote =>
                    rw [List.singleton_append, readBody.eq_def]
                    simp [hslash, hfeed, hreturn, hquote]
                    cases readBody text <;> rfl

theorem readBody_append (key rest : List Char) :
    readBody (key.flatMap (Text.escapeIn '"') ++ '"' :: rest)
      = some (key, rest) := by
  induction key with
  | nil => simp [readBody]
  | cons c key ih =>
      rw [List.flatMap_cons, List.append_assoc, readBody_escapeIn, ih]
      rfl

theorem readLiteral_append (key : String) (rest : List Char) :
    readLiteral ((Text.literal '"' key).toList ++ rest) = some (key, rest) := by
  have hopen : expect "\"" ((Text.literal '"' key).toList ++ rest)
      = some (key.toList.flatMap (Text.escapeIn '"') ++ '"' :: rest) := by
    rw [Text.literal, String.toList_ofList, Text.literalChars,
      List.cons_append, List.append_assoc]
    exact expect_append "\"" _
  rw [readLiteral, hopen]
  simp only [Option.bind_eq_bind, Option.bind_some, readBody_append,
    String.ofList_toList]
  rfl

section Lines

variable {α β : Type} {read : List Char → Option (β × List Char)}
  {write : α → String} {value : α → β} {items : List α} {rest : List Char}

/-- Lines are read up to the first text that is not one. -/
theorem readLines_append
    (hread : ∀ item ∈ items, ∀ rest,
      read ((write item).toList ++ rest) = some (value item, rest))
    (hend : read rest = none) {bound : Nat} (hbound : items.length ≤ bound) :
    readLines read bound ((String.join (items.map write)).toList ++ rest)
      = (items.map value, rest) := by
  induction items generalizing bound with
  | nil =>
      rw [List.map_nil, String.join_nil, String.toList_empty, List.nil_append]
      cases bound with
      | zero => rfl
      | succ bound =>
          rw [readLines, hend]
          rfl
  | cons item items ih =>
      cases bound with
      | zero => cases hbound
      | succ bound =>
          have hitem := hread item List.mem_cons_self
          have hrest := ih (fun i hi => hread i (List.mem_cons_of_mem _ hi))
            (Nat.le_of_succ_le_succ hbound)
          rw [List.map_cons, String.join_cons, String.toList_append,
            List.append_assoc, readLines, hitem]
          simp only [hrest]
          rfl

/-- A text is long enough a bound for its lines: a line that is read before any
text cannot be empty if there is a text before which none is read. -/
theorem readLines_text
    (hread : ∀ item ∈ items, ∀ rest,
      read ((write item).toList ++ rest) = some (value item, rest))
    (hend : read rest = none) :
    readLines read ((String.join (items.map write)).toList ++ rest).length
        ((String.join (items.map write)).toList ++ rest)
      = (items.map value, rest) := by
  have hline : ∀ item ∈ items, 1 ≤ (write item).toList.length := by
    intro item hitem
    refine Nat.one_le_iff_ne_zero.mpr fun hzero => ?_
    have hnone := hread item hitem rest
    rw [List.length_eq_zero_iff.mp hzero, List.nil_append, hend] at hnone
    cases hnone
  refine readLines_append hread hend ?_
  rw [List.length_append]
  refine Nat.le_trans ?_ (Nat.le_add_right _ _)
  rw [String.toList_join, List.flatMap_map, List.length_flatMap]
  clear hread hend
  induction items with
  | nil => exact Nat.zero_le _
  | cons item items ih =>
      have hitem := hline item List.mem_cons_self
      have hrest := ih fun i hi => hline i (List.mem_cons_of_mem _ hi)
      rw [List.map_cons, List.sum_cons, List.length_cons]
      omega

/-- A block is read whether it has lines or not. -/
theorem readBlock_text {empty first last : String}
    (hfirst : ∀ more, expect empty (first.toList ++ more) = none)
    (hread : ∀ item ∈ items, ∀ rest,
      read ((write item).toList ++ rest) = some (value item, rest))
    (hend : read (last.toList ++ rest) = none) :
    readBlock read empty first last
        ((if items.isEmpty then empty
          else first ++ String.join (items.map write) ++ last).toList ++ rest)
      = some (items.map value, rest) := by
  cases items with
  | nil =>
      rw [List.isEmpty_nil, if_pos rfl, readBlock, expect_append]
      rfl
  | cons item items =>
      rw [List.isEmpty_cons, if_neg (by decide), String.toList_append,
        String.toList_append, List.append_assoc, List.append_assoc, readBlock,
        hfirst]
      simp only [Option.bind_eq_bind, expect_bind]
      rw [readLines_text hread hend]
      simp only [expect_bind]
      rfl

end Lines

end Recast.Python
