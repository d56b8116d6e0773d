import Recast.Proofs.Python.Reader
import Recast.Template

/-!
# Printed modules are read back

What the reader makes of a printed conversion is the expression that the
conversion stands for, and what it makes of the text of a class is a module
with the imports, fields and expressions of its view.

An expression is over where no name goes on and no method is called, and the
template only ever puts such texts behind an expression. The call of `to_dict`
is the exception. It is written behind its operand, so for operands the lemma
also says what happens in front of a method call.
-/

namespace Recast

/-- The expression that a conversion is printed as. -/
def Conversion.expr : Conversion → Python.Expr
  | wire key => .get key
  | stored ident => .attr ident
  | element depth => .var (loopVariable depth)
  | ascribe _ value => value.expr
  | decode className value => .fromDict className value.expr
  | encode _ value => .toDict value.expr
  | each _ _ depth list body => .each body.expr (loopVariable depth) list.expr
  | ifPresent subject body => .unlessNone subject.expr body.expr

namespace Python

open Name (Wordlike isNameChar)
open Template.Python (print)

/-! ## Conversions -/

/-- May a method be called on it as it is printed? -/
def IsOperand : Conversion → Prop
  | .wire _ | .stored _ | .element _ | .decode _ _ | .each _ _ _ _ _ => True
  | .ascribe _ _ | .encode _ _ | .ifPresent _ _ => False

/-- Its names are names, and it calls methods on operands only. -/
def Readable : Conversion → Prop
  | .wire _ | .element _ => True
  | .stored ident => Wordlike ident
  | .ascribe _ _ => False
  | .decode className value => Wordlike className ∧ Readable value
  | .encode _ value => IsOperand value ∧ Readable value
  | .each _ _ _ list body => Readable list ∧ Readable body
  | .ifPresent subject body => Readable subject ∧ Readable body

/-- How deep the expression of a conversion nests. -/
def nesting : Conversion → Nat
  | .wire _ | .stored _ | .element _ => 1
  | .ascribe _ value | .encode _ value => nesting value
  | .decode _ value => nesting value + 1
  | .each _ _ _ list body => max (nesting list) (nesting body) + 1
  | .ifPresent subject body => max (nesting subject) (nesting body) + 1

theorem readCall_of_ends (value : Expr) {rest : List Char} (h : Ends rest) :
    readCall value rest = (value, rest) := by
  rw [readCall, expect_of_ends (by decide) h]

theorem wordlike_loopVariable (depth : Nat) :
    Wordlike (Conversion.loopVariable depth) :=
  (wordlike_of_opener (by decide)).append (Name.wordlike_toString depth)

/-- A loop variable is none of the words that open another expression. -/
theorem loopVariable_ne (depth : Nat) {name : String}
    (h : name.toList.head? ≠ some 'e') : Conversion.loopVariable depth ≠ name := by
  rintro rfl
  refine h ?_
  rw [Conversion.loopVariable, String.toList_append]
  rfl

/-- What may follow an operand: the end of the expression, or the one method
that is called on it. -/
def AfterOperand (rest : List Char) : Prop :=
  Ends rest ∨ ∃ more, rest = ".to_dict()".toList ++ more

variable {depth : Nat} {rest : List Char}

theorem AfterOperand.stops (h : AfterOperand rest) : Stops rest := by
  rcases h with h | ⟨more, rfl⟩
  · exact h.stops
  · exact stops_append (by decide) more

theorem AfterOperand.head?_ne (h : AfterOperand rest) :
    rest.head? ≠ some '(' := by
  rcases h with h | ⟨more, rfl⟩
  · exact fun hhead => (h '(' hhead).2.2 rfl
  · exact fun hhead =>
      of_head?_append (P := (· ≠ '(')) ⟨'.', by decide, by decide⟩ hhead rfl

theorem AfterOperand.expect_fromDict (h : AfterOperand rest) :
    expect ".from_dict(" rest = none := by
  rcases h with h | ⟨more, rfl⟩
  · exact expect_of_ends (by decide) h
  · rfl

/-- A word is read as a name if words follow that are none. -/
theorem readName_words (name words : String)
    (hname : openers.contains name = true)
    (hwords : opensWith ('.' :: '(' :: marks) words = true) :
    readName (name.toList ++ (words.toList ++ rest))
      = (name, words.toList ++ rest) :=
  readName_append (wordlike_of_opener hname) (stops_append hwords rest)

theorem readName_no_name (words : String)
    (hwords : opensWith ('.' :: '(' :: marks) words = true) :
    readName (words.toList ++ rest) = ("", words.toList ++ rest) :=
  readName_words "" words (by decide) hwords

theorem readExpr_wire (key : String) :
    readExpr (depth + 1) ((print (.wire key)).toList ++ rest)
      = some (readCall (.get key) rest) := by
  have hopen : "data.get(".toList = "data".toList ++ ".get(".toList := by decide
  have hcall : expect ".from_dict(" (".get(".toList ++
      ((Text.literal '"' key).toList ++ (")".toList ++ rest))) = none := rfl
  unfold print Template.Python.quote
  simp only [String.toList_append, List.append_assoc, hopen]
  rw [readExpr, readName_words "data" ".get(" (by decide) (by decide)]
  simp only [hcall, Option.bind_eq_bind, Option.bind_some, expect_bind,
    readLiteral_append]
  rfl

/-- A field of the object may be called `from_dict`, but it is not called
there. -/
theorem expect_fromDict_stored {ident : String} (h : Wordlike ident)
    (hrest : AfterOperand rest) :
    expect ".from_dict(" (".".toList ++ (ident.toList ++ rest)) = none := by
  cases hread : expect ".from_dict(" (".".toList ++ (ident.toList ++ rest)) with
  | none => rfl
  | some more =>
      have hchars : ident.toList ++ rest = "from_dict".toList ++ '(' :: more := by
        have heq := eq_append_of_expectChars hread
        rw [show ".from_dict(".toList = ".".toList ++ ("from_dict".toList ++ ['('])
          by decide, List.append_assoc, List.append_assoc] at heq
        exact List.append_cancel_left heq
      have hident := takeWhile_append h hrest.stops
      have hparen : ∀ c, ('(' :: more).head? = some c →
          isNameChar c = false := by
        rintro c ⟨⟩
        exact isNameChar_of_mark (by decide)
      have hword : ("from_dict".toList ++ '(' :: more).dropWhile isNameChar
          = '(' :: more :=
        (takeWhile_append (wordlike_of_opener (by decide)) hparen).2
      rw [hchars] at hident
      have hparen : rest = '(' :: more := hident.2.symm.trans hword
      rw [hparen] at hrest
      exact absurd rfl hrest.head?_ne

theorem readExpr_stored {ident : String} (h : Wordlike ident)
    (hrest : AfterOperand rest) :
    readExpr (depth + 1) ((print (.stored ident)).toList ++ rest)
      = some (readCall (.attr ident) rest) := by
  have hopen : "self.".toList = "self".toList ++ ".".toList := by decide
  unfold print
  simp only [String.toList_append, List.append_assoc, hopen]
  rw [readExpr, readName_words "self" "." (by decide) (by decide)]
  simp only [expect_fromDict_stored h hrest, Option.bind_eq_bind,
    expect_bind, readName_append h hrest.stops]
  rfl

theorem readExpr_element (d : Nat) (hrest : AfterOperand rest) :
    readExpr (depth + 1) ((print (.element d)).toList ++ rest)
      = some (readCall (.var (Conversion.loopVariable d)) rest) := by
  have hne : ∀ {name : String}, name.toList.head? ≠ some 'e' →
      Conversion.loopVariable d ≠ name := loopVariable_ne d
  unfold print
  rw [readExpr, readName_append (wordlike_loopVariable d) hrest.stops]
  simp only [hrest.expect_fromDict]
  rw [if_neg (hne (by decide)), if_neg (hne (by decide)),
    if_neg (hne (by decide)), if_neg (hne (by decide))]
  rfl

/-- At this depth, the printed conversion is read as its expression. -/
def Reads (depth : Nat) (conversion : Conversion) : Prop :=
  ∀ rest, Ends rest → readExpr depth ((print conversion).toList ++ rest)
    = some (conversion.expr, rest)

theorem readExpr_decode {className : String} (h : Wordlike className)
    {value : Conversion} (hvalue : Reads depth value) :
    readExpr (depth + 1) ((print (.decode className value)).toList ++ rest)
      = some (readCall (.fromDict className value.expr) rest) := by
  unfold print
  simp only [String.toList_append, List.append_assoc]
  rw [readExpr, readName_append h (stops_append (by decide) _)]
  simp only [expect_append]
  rw [hvalue _ (ends_append (by decide) _)]
  simp only [Option.bind_eq_bind, Option.bind_some, expect_bind]
  rfl

theorem readExpr_each {direction : Direction} {optional : Bool} {d : Nat}
    {list body : Conversion} (hlist : Reads depth list)
    (hbody : Reads depth body) :
    readExpr (depth + 1)
        ((print (.each direction optional d list body)).toList ++ rest)
      = some (readCall
          (.each body.expr (Conversion.loopVariable d) list.expr) rest) := by
  have hcall : ∀ more, expect ".from_dict(" ("[".toList ++ more) = none :=
    fun _ => rfl
  unfold print
  simp only [String.toList_append, List.append_assoc]
  rw [readExpr, readName_no_name "[" (by decide)]
  simp only [hcall, Option.bind_eq_bind, expect_bind]
  rw [if_neg (by decide), if_neg (by decide), if_neg (by decide),
    if_pos trivial, hbody _ (ends_append (by decide) _)]
  simp only [Option.bind_some, expect_bind]
  rw [readName_append (wordlike_loopVariable d)
    (stops_append (by decide) _)]
  simp only [expect_bind]
  rw [hlist _ (ends_append (by decide) _)]
  simp only [Option.bind_some, expect_bind]
  rfl

theorem reads_ifPresent {subject body : Conversion}
    (hsubject : Reads depth subject) (hbody : Reads depth body) :
    Reads (depth + 1) (.ifPresent subject body) := by
  have hopen : "None if ".toList = "None".toList ++ " if ".toList := by decide
  have hcall : ∀ more, expect ".from_dict(" (" if ".toList ++ more) = none :=
    fun _ => rfl
  intro rest hends
  unfold print
  simp only [String.toList_append, List.append_assoc, hopen]
  rw [readExpr, readName_words "None" " if " (by decide) (by decide)]
  simp only [hcall, Option.bind_eq_bind, expect_bind]
  rw [if_pos trivial, hsubject _ (ends_append (by decide) _)]
  simp only [Option.bind_some, expect_bind]
  rw [hbody rest hends]
  rfl

/-- An operand is read up to what follows it, also if that is a method call. -/
def ReadsOperand (depth : Nat) (conversion : Conversion) : Prop :=
  ∀ rest, AfterOperand rest →
    readExpr depth ((print conversion).toList ++ rest)
      = some (readCall conversion.expr rest)

theorem ReadsOperand.reads {conversion : Conversion}
    (h : ReadsOperand depth conversion) : Reads depth conversion := by
  intro rest hends
  rw [h rest (.inl hends), readCall_of_ends _ hends]

theorem reads_encode {optional : Bool} {value : Conversion}
    (h : ReadsOperand depth value) : Reads depth (.encode optional value) := by
  intro rest _
  unfold print
  simp only [String.toList_append, List.append_assoc]
  rw [h _ (.inr ⟨rest, rfl⟩), readCall, expect_append]
  rfl

/-- A readable conversion is read as its expression wherever an expression may
end, and wherever an operand may if it is one. -/
theorem reads_conversion {conversion : Conversion} (h : Readable conversion) :
    ∀ depth, nesting conversion ≤ depth →
      (IsOperand conversion → ReadsOperand depth conversion) ∧
      Reads depth conversion := by
  induction conversion with
  | wire key =>
      rintro (_ | depth) hdepth
      · exact absurd hdepth (by simp [nesting])
      · have hread : ReadsOperand (depth + 1) (.wire key) :=
          fun rest _ => readExpr_wire key
        exact ⟨fun _ => hread, hread.reads⟩
  | stored ident =>
      rintro (_ | depth) hdepth
      · exact absurd hdepth (by simp [nesting])
      · have hread : ReadsOperand (depth + 1) (.stored ident) :=
          fun rest hrest => readExpr_stored h hrest
        exact ⟨fun _ => hread, hread.reads⟩
  | element d =>
      rintro (_ | depth) hdepth
      · exact absurd hdepth (by simp [nesting])
      · have hread : ReadsOperand (depth + 1) (.element d) :=
          fun rest hrest => readExpr_element d hrest
        exact ⟨fun _ => hread, hread.reads⟩
  | ascribe ascription value ih => exact absurd h id
  | decode className value ih =>
      rintro (_ | depth) hdepth
      · exact absurd hdepth (by simp [nesting])
      · have hvalue := (ih h.2 depth (by simpa [nesting] using hdepth)).2
        have hread : ReadsOperand (depth + 1) (.decode className value) :=
          fun rest _ => readExpr_decode h.1 hvalue
        exact ⟨fun _ => hread, hread.reads⟩
  | encode optional value ih =>
      intro depth hdepth
      exact ⟨nofun, reads_encode ((ih h.2 depth hdepth).1 h.1)⟩
  | each direction optional d list body ihList ihBody =>
      rintro (_ | depth) hdepth
      · exact absurd hdepth (by simp [nesting])
      · simp only [nesting] at hdepth
        have hlist := (ihList h.1 depth (by omega)).2
        have hbody := (ihBody h.2 depth (by omega)).2
        have hread :
            ReadsOperand (depth + 1) (.each direction optional d list body) :=
          fun rest _ => readExpr_each hlist hbody
        exact ⟨fun _ => hread, hread.reads⟩
  | ifPresent subject body ihSubject ihBody =>
      rintro (_ | depth) hdepth
      · exact absurd hdepth (by simp [nesting])
      · simp only [nesting] at hdepth
        exact ⟨nofun, reads_ifPresent (ihSubject h.1 depth (by omega)).2
          (ihBody h.2 depth (by omega)).2⟩

/-- A printed conversion is at least as long as it nests deep. -/
theorem nesting_le_length {conversion : Conversion} (h : Readable conversion) :
    nesting conversion ≤ (print conversion).toList.length := by
  induction conversion with
  | wire key =>
      unfold print
      simp only [String.toList_append, List.length_append]
      simp [nesting]
  | stored ident =>
      unfold print
      simp [nesting]
  | element d =>
      unfold print Conversion.loopVariable
      simp [nesting]
  | ascribe ascription value ih => exact absurd h id
  | decode className value ih =>
      have hvalue := ih h.2
      unfold print
      simp [nesting] at hvalue ⊢
      omega
  | encode optional value ih =>
      have hvalue := ih h.2
      unfold print
      simp [nesting] at hvalue ⊢
      omega
  | each direction optional d list body ihList ihBody =>
      have hlist := ihList h.1
      have hbody := ihBody h.2
      unfold print
      simp [nesting] at hlist hbody ⊢
      omega
  | ifPresent subject body ihSubject ihBody =>
      have hsubject := ihSubject h.1
      have hbody := ihBody h.2
      unfold print
      simp [nesting] at hsubject hbody ⊢
      omega

end Python
end Recast
