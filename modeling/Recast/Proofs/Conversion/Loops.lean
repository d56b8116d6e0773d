import Mathlib.Data.List.Nodup
import Recast.Proofs.Names.Numbered
import Recast.Template.Java
import Recast.Template.Python
import Recast.Template.Ruby
import Recast.Template.TypeScript

/-!
# Arrays of arrays are gone through by nested loops

A value whose type is an array of arrays of a class takes one loop for each
level. The loops stand inside one another, each over the variable of the loop
around it, and in the innermost stands the conversion of the class. A language
spells the outermost loop in a way of its own, because the value of a field may
be absent and an element may not.

An expression numbers its loops by their depth, and in its text a loop has only
the name of its variable. A name used twice would hide the element of an outer
loop, and the text would still be a program. So the text is described here
without the expression it is printed from: how a language writes a loop, and
which loops a text consists of.
-/

namespace Recast

/-- An array of arrays of a class, as many levels deep. -/
def DataType.arraysOf (className : String) : Nat → DataType String
  | 0 => .ref className
  | n + 1 => .array (arraysOf className n)

@[simp] theorem DataType.carriesClass_arraysOf (className : String) (n : Nat) :
    (arraysOf className n).carriesClass = true := by
  induction n with
  | zero => rfl
  | succ n ih => exact ih

@[simp] theorem Conversion.converts_arraysOf (className : String) (n : Nat) :
    converts (.arraysOf className n) = true := by
  rw [converts, DataType.carriesClass_arraysOf]
  cases n with
  | zero => rfl
  | succ n => rfl

/-! ## Loops in a text -/

/-- How a language writes loops in one direction. A loop is given by its
variable, the text that it ranges over and its body. -/
structure LoopForm where
  /-- The loop over the value of a field, which may be absent. -/
  outermost : (name range body : String) → String
  inner : (name range body : String) → String
  /-- The conversion of a class, applied to a value. -/
  convert : (className value : String) → String

namespace LoopForm

/-- The text takes a value through one inner loop for each name, from the
outside in, each over the variable of the loop around it. Where no names are
left stands the conversion of the class. -/
inductive Body (form : LoopForm) (className : String) :
    List String → String → String → Prop
  | convert (value : String) :
    Body form className [] value (form.convert className value)
  | loop {name body : String} {names : List String} (range : String) :
    Body form className names name body →
    Body form className (name :: names) range (form.inner name range body)

/-- The text consists of one loop for each name, of which the first is the
outermost and ranges over the source. -/
def Loops (form : LoopForm) (className : String) (names : List String)
    (source text : String) : Prop :=
  ∃ name others body, names = name :: others ∧
    form.Body className others name body ∧
    text = form.outermost name source body

def java (direction : Direction) : LoopForm where
  outermost name range body :=
    range ++ " == null ? null : " ++
      match direction with
      | .decode =>
        "((List<Object>) " ++ range ++ ").stream().map(" ++ name ++ " -> " ++ body ++
          ").collect(Collectors.toList())"
      | .encode =>
        range ++ ".stream().map(" ++ name ++ " -> " ++ body ++
          ").collect(Collectors.toList())"
  inner name range body :=
    match direction with
    | .decode =>
      "((List<Object>) " ++ range ++ ").stream().map(" ++ name ++ " -> " ++ body ++
        ").collect(Collectors.toList())"
    | .encode =>
      range ++ ".stream().map(" ++ name ++ " -> " ++ body ++
        ").collect(Collectors.toList())"
  convert className value :=
    match direction with
    | .decode => className ++ ".fromMap((Map<String, Object>) " ++ value ++ ")"
    | .encode => value ++ ".toMap()"

def ruby (direction : Direction) : LoopForm where
  outermost name range body :=
    range ++ "&.map \x7b |" ++ name ++ "| " ++ body ++ " \x7d"
  inner name range body :=
    range ++ ".map \x7b |" ++ name ++ "| " ++ body ++ " \x7d"
  convert className value :=
    match direction with
    | .decode => className ++ ".from_hash(" ++ value ++ ")"
    | .encode => value ++ ".to_hash"

def python (direction : Direction) : LoopForm where
  outermost name range body :=
    "None if " ++ range ++ " is None else " ++
      ("[" ++ body ++ " for " ++ name ++ " in " ++ range ++ "]")
  inner name range body :=
    "[" ++ body ++ " for " ++ name ++ " in " ++ range ++ "]"
  convert className value :=
    match direction with
    | .decode => className ++ ".from_dict(" ++ value ++ ")"
    | .encode => value ++ ".to_dict()"

def typeScript (direction : Direction) : LoopForm where
  outermost name range body :=
    match direction with
    | .decode =>
      "(" ++ range ++ " as unknown[] | undefined)?.map((" ++ name ++ ") => " ++
        body ++ ")"
    | .encode => range ++ "?.map((" ++ name ++ ") => " ++ body ++ ")"
  inner name range body :=
    match direction with
    | .decode =>
      "(" ++ range ++ " as unknown[]).map((" ++ name ++ ") => " ++ body ++ ")"
    | .encode => range ++ ".map((" ++ name ++ ") => " ++ body ++ ")"
  convert className value :=
    match direction with
    | .decode => className ++ ".fromObject(" ++ value ++ " as Record<string, unknown>)"
    | .encode => value ++ ".toObject()"

end LoopForm

namespace Conversion

variable {className : String} {n depth : Nat} {value : Conversion}
  {form : LoopForm} {print : Conversion → String}
  {around : Conversion → Conversion → Conversion} {direction : Direction}

/-! ## The variables -/

/-- The variables of so many loops, from the outside in. -/
def loopVariables (n : Nat) : List String :=
  (List.range n).map loopVariable

theorem loopVariable_injective : Function.Injective loopVariable := by
  intro m n h
  have hdigits : toString m = toString n := (String.append_right_inj "e").mp h
  have hnumbered : Name.numbered "" m = Name.numbered "" n := by
    rw [Name.numbered, Name.numbered, hdigits]
  exact (Name.numbered_inj.mp hnumbered).2

theorem nodup_loopVariables (n : Nat) : (loopVariables n).Nodup :=
  List.nodup_range.map loopVariable_injective

/-! ## Both directions go through the levels alike -/

/-- The conversion of a class in a direction. -/
def ofClass (direction : Direction) (className : String) (value : Conversion) :
    Conversion :=
  match direction with
  | .decode => .decode className value
  | .encode => .encode false value

/-- So many loops around the conversion of a class, counted from a depth. -/
def nested (direction : Direction) (className : String) :
    Nat → Nat → Conversion → Conversion
  | 0, _, value => ofClass direction className value
  | n + 1, depth, value =>
    .each direction false depth value
      (nested direction className n (depth + 1) (.element depth))

theorem decodeAt_arraysOf {enters : DataType String → Bool}
    {leaf : DataType String → Conversion → Conversion}
    (henters : ∀ n, enters (.arraysOf className n) = true) :
    decodeAt enters leaf (.arraysOf className n) depth value
      = nested .decode className n depth value := by
  induction n generalizing depth value with
  | zero => rfl
  | succ n ih => rw [DataType.arraysOf, decodeAt, if_pos (henters n), ih, nested]

theorem encodeAt_arraysOf :
    encodeAt (.arraysOf className n) depth value
      = nested .encode className n depth value := by
  induction n generalizing depth value with
  | zero => rfl
  | succ n ih =>
      rw [DataType.arraysOf, encodeAt,
        if_pos (DataType.carriesClass_arraysOf className n), ih, nested]

theorem encodeGuarded_arraysOf :
    encodeGuarded (.arraysOf className n) value
      = .ifPresent value (nested .encode className n 0 value) := by
  rw [encodeGuarded, if_pos (converts_arraysOf className n), encodeAt_arraysOf]

theorem encodeOptional_arraysOf :
    encodeOptional (.arraysOf className n) value
      = passAbsent (nested .encode className n 0 value) := by
  rw [encodeOptional, encodeAt_arraysOf]

/-! ## What is printed -/

/-- The language prints loops in this form, where `around` lets an absent value
pass the outermost one. -/
structure Spells (form : LoopForm) (print : Conversion → String)
    (around : Conversion → Conversion → Conversion) (direction : Direction) :
    Prop where
  element (depth : Nat) : print (.element depth) = loopVariable depth
  ofClass (className : String) (value : Conversion) :
    print (ofClass direction className value)
      = form.convert className (print value)
  inner (depth : Nat) (list body : Conversion) :
    print (.each direction false depth list body)
      = form.inner (loopVariable depth) (print list) (print body)
  outermost (list body : Conversion) :
    print (around list (.each direction false 0 list body))
      = form.outermost (loopVariable 0) (print list) (print body)

theorem body_print_nested (h : Spells form print around direction) :
    form.Body className ((List.range' depth n).map loopVariable) (print value)
      (print (nested direction className n depth value)) := by
  induction n generalizing depth value with
  | zero =>
      rw [nested, h.ofClass]
      exact .convert _
  | succ n ih =>
      have hbody := @ih (depth + 1) (.element depth)
      rw [h.element] at hbody
      rw [nested, h.inner, List.range'_succ, List.map_cons]
      exact .loop _ hbody

theorem loops_print_nested (h : Spells form print around direction) :
    form.Loops className (loopVariables (n + 1)) (print value)
      (print (around value (nested direction className (n + 1) 0 value))) := by
  refine ⟨loopVariable 0, (List.range' 1 n).map loopVariable,
    print (nested direction className n 1 (.element 0)), ?_, ?_, ?_⟩
  · rw [loopVariables, List.range_eq_range', List.range'_succ, List.map_cons]
  · rw [← h.element]
    exact body_print_nested h
  · rw [nested, h.outermost]

end Conversion

/-! ## The languages -/

namespace Template

open Conversion

variable {className typeName : String} {n : Nat} {source : Conversion}

theorem Java.print_each (direction : Direction) (depth : Nat)
    (list body : Conversion) :
    print (.each direction false depth list body)
      = (LoopForm.java direction).inner (loopVariable depth) (print list)
          (print body) := by
  apply String.toList_inj.mp
  rw [print.eq_def]
  cases direction <;> simp [LoopForm.java]

theorem Java.spells (direction : Direction) :
    Spells (.java direction) print .ifPresent direction where
  element _ := by rw [print.eq_def]
  ofClass _ _ := by cases direction <;> (rw [ofClass, print.eq_def]; rfl)
  inner := print_each direction
  outermost list body := by
    rw [print.eq_def]
    simp only [print_each]
    cases direction <;> rfl

theorem Ruby.spells (direction : Direction) :
    Spells (.ruby direction) print (fun _ => passAbsent) direction where
  element _ := by rw [print]
  ofClass _ _ := by
    apply String.toList_inj.mp
    cases direction <;> simp [ofClass, print, call, LoopForm.ruby]
  inner _ _ _ := by
    apply String.toList_inj.mp
    simp [print, call, LoopForm.ruby]
  outermost _ _ := by
    apply String.toList_inj.mp
    simp [passAbsent, print, call, LoopForm.ruby]

theorem Python.spells (direction : Direction) :
    Spells (.python direction) print .ifPresent direction where
  element _ := by rw [print]
  ofClass _ _ := by cases direction <;> (rw [ofClass, print]; rfl)
  inner _ _ _ := by rw [print]; rfl
  outermost _ _ := by rw [print, print]; rfl

theorem TypeScript.spells (direction : Direction) :
    Spells (.typeScript direction) print (fun _ => passAbsent) direction where
  element _ := by rw [print]
  ofClass _ _ := by
    apply String.toList_inj.mp
    cases direction <;> simp [ofClass, print, call, record, LoopForm.typeScript]
  inner _ _ _ := by
    apply String.toList_inj.mp
    cases direction <;> simp [print, call, asList, LoopForm.typeScript]
  outermost _ _ := by
    apply String.toList_inj.mp
    cases direction <;>
      simp [passAbsent, print, call, asList, LoopForm.typeScript]

theorem Java.decodeValue_arraysOf :
    decodeValue (.arraysOf className (n + 1)) source
      = .ifPresent source (nested .decode className (n + 1) 0 source) :=
  congrArg (Conversion.ifPresent source)
    (decodeAt_arraysOf (n := n + 1) (fun _ => rfl))

theorem Ruby.decodeValue_arraysOf :
    decodeValue (.arraysOf className n) source
      = passAbsent (nested .decode className n 0 source) := by
  rw [decodeValue, decodeAt_arraysOf (DataType.carriesClass_arraysOf className)]

theorem Python.decodeValue_arraysOf :
    decodeValue (.arraysOf className n) source
      = .ifPresent source (nested .decode className n 0 source) := by
  rw [decodeValue, if_pos (converts_arraysOf className n),
    decodeAt_arraysOf (DataType.carriesClass_arraysOf className)]

theorem TypeScript.decodeValue_arraysOf :
    decodeValue (.arraysOf className n) typeName source
      = passAbsent (nested .decode className n 0 source) := by
  rw [decodeValue, if_pos (converts_arraysOf className n),
    decodeAt_arraysOf (DataType.carriesClass_arraysOf className)]

/-- A value of an array type over a class is read and written, in every
language, by one loop for each level. The variables are counted from the outside
in and are pairwise distinct, the outermost loop ranges over the source and
every other over the variable of the loop around it, and in the innermost the
class is converted. For a field the source is the value under its key, or the
one stored under its name. -/
theorem loops_of_arraysOf (className typeName : String) (n : Nat)
    (source : Conversion) :
    (loopVariables (n + 1)).Nodup ∧
    (LoopForm.java .decode).Loops className (loopVariables (n + 1))
      (Java.print source)
      (Java.print (Java.decodeValue (.arraysOf className (n + 1)) source)) ∧
    (LoopForm.java .encode).Loops className (loopVariables (n + 1))
      (Java.print source)
      (Java.print (encodeGuarded (.arraysOf className (n + 1)) source)) ∧
    (LoopForm.ruby .decode).Loops className (loopVariables (n + 1))
      (Ruby.print source)
      (Ruby.print (Ruby.decodeValue (.arraysOf className (n + 1)) source)) ∧
    (LoopForm.ruby .encode).Loops className (loopVariables (n + 1))
      (Ruby.print source)
      (Ruby.print (encodeOptional (.arraysOf className (n + 1)) source)) ∧
    (LoopForm.python .decode).Loops className (loopVariables (n + 1))
      (Python.print source)
      (Python.print (Python.decodeValue (.arraysOf className (n + 1)) source)) ∧
    (LoopForm.python .encode).Loops className (loopVariables (n + 1))
      (Python.print source)
      (Python.print (encodeGuarded (.arraysOf className (n + 1)) source)) ∧
    (LoopForm.typeScript .decode).Loops className (loopVariables (n + 1))
      (TypeScript.print source)
      (TypeScript.print
        (TypeScript.decodeValue (.arraysOf className (n + 1)) typeName source)) ∧
    (LoopForm.typeScript .encode).Loops className (loopVariables (n + 1))
      (TypeScript.print source)
      (TypeScript.print (encodeOptional (.arraysOf className (n + 1)) source)) := by
  rw [Java.decodeValue_arraysOf, Ruby.decodeValue_arraysOf,
    Python.decodeValue_arraysOf, TypeScript.decodeValue_arraysOf,
    encodeGuarded_arraysOf, encodeOptional_arraysOf]
  exact ⟨nodup_loopVariables (n + 1),
    loops_print_nested (Java.spells .decode),
    loops_print_nested (Java.spells .encode),
    loops_print_nested (Ruby.spells .decode),
    loops_print_nested (Ruby.spells .encode),
    loops_print_nested (Python.spells .decode),
    loops_print_nested (Python.spells .encode),
    loops_print_nested (TypeScript.spells .decode),
    loops_print_nested (TypeScript.spells .encode)⟩

example :
    Python.print (Python.decodeValue (.arraysOf "Cell" 2) (wire "rows"))
      = "None if data.get(\"rows\") is None else [[Cell.from_dict(e1) for e1 in "
        ++ "e0] for e0 in data.get(\"rows\")]" := rfl

end Template

end Recast
