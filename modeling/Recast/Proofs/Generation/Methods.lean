import Recast.Proofs.Wire.Java

/-!
# The methods of a Java class

Of the lines that a Java class is written in, those that begin with one tab and
the word `public` open a constructor or a method, and its name stands in front
of the parameters. What the fields of a class add to its methods can so be read
from the text, and it is two methods for each field, named after its accessor.
-/

namespace Recast

open LineShape
open Name (Wordlike)

/-! ## Reading methods -/

/-- The name of the constructor or method that a line opens: the last word in
front of the first parenthesis. -/
def methodName? (line : String) : Option String :=
  if "\tpublic ".toList.isPrefixOf line.toList then
    some (String.ofList ((line.toList.takeWhile (· != '(')).reverse.takeWhile
      (· != ' ')).reverse)
  else none

/-- The names of the constructors and methods of a class, in the order of its
text. -/
def methodNames (text : String) : List String :=
  (lines text).filterMap methodName?

theorem methodNames_append (s t : String) :
    methodNames (s ++ "\n" ++ t) = methodNames s ++ methodNames t := by
  rw [methodNames, lines_append, List.filterMap_append]
  rfl

theorem methodName?_eq {line name : String} (front rest : String)
    (hline : line = front ++ " " ++ name ++ "(" ++ rest)
    (hopens : "\tpublic ".toList <+: (front ++ " ").toList)
    (hfront : '(' ∉ front.toList) (hname : '(' ∉ name.toList)
    (hword : ' ' ∉ name.toList) : methodName? line = some name := by
  have hchars : line.toList
      = (front.toList ++ ' ' :: name.toList) ++ '(' :: rest.toList := by
    simp [hline]
  have hbefore : ∀ c ∈ front.toList ++ ' ' :: name.toList,
      (c != '(') = true := by
    intro c hc
    rw [bne_iff_ne]
    rintro rfl
    simp [hfront, hname] at hc
  have hlast : ∀ c ∈ name.toList.reverse, (c != ' ') = true := by
    intro c hc
    rw [bne_iff_ne]
    rintro rfl
    exact hword (List.mem_reverse.mp hc)
  have hprefix : "\tpublic ".toList.isPrefixOf line.toList = true := by
    rw [List.isPrefixOf_iff_prefix, hline, String.append_assoc,
      String.append_assoc, String.toList_append]
    exact hopens.trans (List.prefix_append _ _)
  rw [methodName?, if_pos hprefix, hchars,
    List.takeWhile_append_of_pos hbefore]
  simp [List.takeWhile_append_of_pos hlast]

/-! ## Texts of whole lines -/

/-- Whole lines that open the methods with these names. -/
def Declares (text : String) (names : List String) : Prop :=
  ∀ rest, methodNames (text ++ rest) = names ++ methodNames rest

variable {s t : String} {names others : List String}

theorem Declares.append (hs : Declares s names) (ht : Declares t others) :
    Declares (s ++ t) (names ++ others) := by
  intro rest
  rw [String.append_assoc, hs, ht, List.append_assoc]

theorem declares_empty : Declares "" [] := by
  intro rest
  rw [String.empty_append]
  rfl

theorem Declares.methodNames_eq (h : Declares t names) :
    methodNames t = names := by
  have hall := h ""
  rw [String.append_empty] at hall
  rw [hall]
  exact List.append_nil names

theorem declares_line {line name : String} (hline : '\n' ∉ line.toList)
    (hname : methodName? line = some name) : Declares (line ++ "\n") [name] := by
  intro rest
  rw [methodNames, lines_line hline, List.filterMap_cons, hname]
  rfl

theorem declares_map {α : Type} {write : α → String} {written : α → List String}
    {l : List α} (h : ∀ a ∈ l, Declares (write a) (written a)) :
    Declares (String.join (l.map write)) (l.flatMap written) := by
  induction l with
  | nil => exact declares_empty
  | cons a l ih =>
      rw [List.map_cons, String.join_cons, List.flatMap_cons]
      exact (h a List.mem_cons_self).append
        (ih fun b hb => h b (List.mem_cons_of_mem _ hb))

/-- How lines begin that open methods. -/
def methodLine : LineShape where
  opening := "\tpublic".toList.map ([·])
  mark := ' '

theorem methodNames_of_absent (h : methodLine.Absent t) : methodNames t = [] := by
  rw [methodNames, List.filterMap_eq_nil_iff]
  intro line hline
  rw [methodName?, if_neg]
  intro hprefix
  obtain ⟨rest, hrest⟩ := List.isPrefixOf_iff_prefix.mp hprefix
  refine h.not_mem ?_ hline
  rw [Stops, ← hrest, run_append]
  rfl

/-- Lines of which none begins so open no methods. -/
theorem declares_of_clears (h : methodLine.Clears t) : Declares t [] := by
  intro rest
  rw [List.nil_append]
  rcases Clears.ends (by decide) h with rfl | ⟨s, rfl, habsent⟩
  · rw [String.empty_append]
  · rw [methodNames_append, methodNames_of_absent habsent, List.nil_append]

/-! ## Accessors and types -/

/-- A parenthesis can neither be taken from the accessor nor from the type of a
field, and no blank from the accessor. -/
structure FieldView.Callable (field : FieldView) : Prop where
  accessor : Plain field.accessor
  typeName : '(' ∉ field.typeName.toList

theorem parenthesis_not_mem_spell (inner : Bool) {type : DataType String}
    (h : ∀ className ∈ type.refs, Wordlike className) :
    '(' ∉ (Conventions.java.spell inner type).toList := by
  induction type generalizing inner with
  | scalar kind => cases inner <;> cases kind <;> decide
  | ref className =>
      rw [Conventions.spell]
      exact (h className List.mem_cons_self).not_mem (by decide)
  | array item ih =>
      have hitem := ih true h
      change '(' ∉ ("List<" ++ Conventions.java.spell true item ++ ">").toList
      simpa using hitem
  | map key value ihKey ihValue =>
      have hkey := ihKey true fun c hc => h c (List.mem_append_left _ hc)
      have hvalue := ihValue true fun c hc => h c (List.mem_append_right _ hc)
      change '(' ∉ ("Map<" ++ Conventions.java.spell true key ++ ", " ++
        Conventions.java.spell true value ++ ">").toList
      simpa using ⟨hkey, hvalue⟩

theorem ClassView.callable_of_ofShape {table : NameTable} {shape : ClassShape}
    {view : ClassView} (htable : ∀ id, Wordlike (table.get id).className)
    (h : ClassView.ofShape .java table shape = .ok view) :
    ∀ field ∈ view.fields, field.Callable := by
  intro field hfield
  obtain ⟨attr, -, hmade, hident⟩ := List.exists_mem_of_forall₂_of_mem
    (forall₂_fieldViews (ClassView.ofShape_eq_ok.mp h).1) hfield
  rw [hmade]
  refine ⟨Name.plain_raiseFirst hident, ?_⟩
  refine parenthesis_not_mem_spell false fun className hmem => ?_
  rw [DataType.refs_mapRefs] at hmem
  obtain ⟨id, -, rfl⟩ := List.mem_map.mp hmem
  exact htable id

/-! ## The parts of a class -/

namespace Template.Java

variable {view : ClassView} {field : FieldView}

theorem declares_header (h : view.Clean) : Declares (header view) [] := by
  have hclass := h.className.calm.newline_not_mem
  refine declares_of_clears ?_
  unfold header
  cases view.hasRenames <;> cases view.hasArrays
  all_goals
    simp only [String.append_assoc]
    exact clears_of_pass <| pass_words <| pass_words <| pass_words <|
      pass_words <| pass_words <| pass_words <| pass_words <| pass_words <|
      pass_hole hclass (by decide) <| pass_last (by decide)

theorem declares_annotatedFields (h : view.Clean) :
    Declares (forFields view java.annotatedField) [] := by
  refine declares_of_clears (clears_annotatedFields h ?_ fun field hf => ?_)
  · intro line hline key
    injection hline with hline
    subst hline
    unfold Java.renameAnnotation
    simp only [String.append_assoc]
    exact clears_of_pass <| pass_words <|
      pass_hole (spelled_literal rfl key).oneLine (by decide) <|
      pass_last (by decide)
  · change methodLine.Clears (Java.field field)
    unfold Java.field
    simp only [String.append_assoc]
    exact clears_of_pass <| pass_words <|
      pass_hole hf.typeName.newline_not_mem (by decide) <| pass_words <|
      pass_hole hf.ident.calm.newline_not_mem (by decide) <|
      pass_last (by decide)

def getterLine (field : FieldView) : String :=
  "\tpublic " ++ field.typeName ++ " get" ++ field.accessor ++ "() \x7b"

def setterLine (field : FieldView) : String :=
  "\tpublic void set" ++ field.accessor ++ "(" ++ field.typeName ++ " " ++
    field.ident ++ ") \x7b"

/-- The getter and the setter of a field. -/
def accessorNames (field : FieldView) : List String :=
  ["get" ++ field.accessor, "set" ++ field.accessor]

theorem methodName?_getterLine (h : field.Callable) :
    methodName? (getterLine field) = some ("get" ++ field.accessor) := by
  have hparen := h.accessor.not_mem (c := '(') (by decide)
  have hblank := h.accessor.not_mem (c := ' ') (by decide)
  refine methodName?_eq ("\tpublic " ++ field.typeName) ") \x7b" ?_ ?_ ?_
    (by simpa using hparen) (by simpa using hblank)
  · have hget : " get" = " " ++ "get" := rfl
    have hparameters : "() \x7b" = "(" ++ ") \x7b" := rfl
    unfold getterLine
    simp only [-String.reduceAppend, hget, hparameters, String.append_assoc]
  · rw [String.append_assoc, String.toList_append]
    exact List.prefix_append _ _
  · simpa using h.typeName

theorem methodName?_setterLine (h : field.Callable) :
    methodName? (setterLine field) = some ("set" ++ field.accessor) := by
  have hparen := h.accessor.not_mem (c := '(') (by decide)
  have hblank := h.accessor.not_mem (c := ' ') (by decide)
  refine methodName?_eq "\tpublic void"
    (field.typeName ++ (" " ++ (field.ident ++ ") \x7b"))) ?_
    (by decide) (by decide) (by simpa using hparen) (by simpa using hblank)
  have hset : "\tpublic void set" = "\tpublic void" ++ (" " ++ "set") := rfl
  unfold setterLine
  simp only [-String.reduceAppend, hset, String.append_assoc]

theorem declares_accessors (h : field.Clean) (hcallable : field.Callable) :
    Declares (Java.accessors field) (accessorNames field) := by
  have hident := h.ident.calm.newline_not_mem
  have hgetter : '\n' ∉ (getterLine field).toList :=
    (((((calm_words (by decide)).append h.typeName).append
      (calm_words (by decide))).append h.accessor).append
      (calm_words (by decide))).newline_not_mem
  have hsetter : '\n' ∉ (setterLine field).toList :=
    (((((((calm_words (by decide)).append h.accessor).append
      (calm_words (by decide))).append h.typeName).append
      (calm_words (by decide))).append h.ident.calm).append
      (calm_words (by decide))).newline_not_mem
  have hgets : methodLine.Clears
      ("\t\treturn " ++ (field.ident ++ ";\n\t\x7d\n\t\n")) :=
    clears_of_pass <| pass_words <| pass_hole hident (by decide) <|
      pass_last (by decide)
  have hsets : methodLine.Clears
      ("\t\tthis." ++ (field.ident ++ (" = " ++ (field.ident ++
        ";\n\t\x7d\n")))) :=
    clears_of_pass <| pass_words <| pass_hole hident (by decide) <|
      pass_words <| pass_hole hident (by decide) <| pass_last (by decide)
  have hblank : methodLine.Clears "\t\n" := clears_of_pass (by decide)
  have hparts := (declares_of_clears hblank).append <|
    (declares_line hgetter (methodName?_getterLine hcallable)).append <|
    (declares_of_clears hgets).append <|
    (declares_line hsetter (methodName?_setterLine hcallable)).append
      (declares_of_clears hsets)
  have htext : Java.accessors field = "\t\n" ++ (getterLine field ++ "\n" ++
      ("\t\treturn " ++ (field.ident ++ ";\n\t\x7d\n\t\n") ++
      (setterLine field ++ "\n" ++ ("\t\tthis." ++ (field.ident ++ (" = " ++
        (field.ident ++ ";\n\t\x7d\n"))))))) := by
    have hopen : "() \x7b\n" = "() \x7b" ++ "\n" := rfl
    have hnext : ") \x7b\n" = ") \x7b" ++ "\n" := rfl
    have hfirst : "\t\n\tpublic " = "\t\n" ++ "\tpublic " := rfl
    have hsecond : "\t\n\tpublic void set"
        = "\t\n" ++ "\tpublic void set" := rfl
    have hbetween : ";\n\t\x7d\n\t\n" = ";\n\t\x7d\n" ++ "\t\n" := rfl
    unfold Java.accessors getterLine setterLine
    simp only [-String.reduceAppend, hopen, hnext, hfirst, hsecond, hbetween,
      String.append_assoc]
  rw [htext]
  exact hparts

/-- The constructors, which are called like the class: one without parameters,
and one with all fields if there are any. -/
def constructorNames (view : ClassView) : List String :=
  if view.fields.isEmpty then [view.className]
  else [view.className, view.className]

theorem methodName?_constructor (h : Wordlike view.className) (rest : String) :
    methodName? ("\tpublic " ++ view.className ++ "(" ++ rest)
      = some view.className := by
  refine methodName?_eq "\tpublic" rest ?_ (by decide) (by decide)
    (h.not_mem (by decide)) (h.not_mem (by decide))
  have hpublic : "\tpublic " = "\tpublic" ++ " " := rfl
  simp only [-String.reduceAppend, hpublic, String.append_assoc]

theorem clears_assignments (h : view.Clean) : methodLine.Clears
    (forFields view fun f => "\t\tthis." ++ f.ident ++ " = " ++ f.ident ++ ";\n") := by
  refine clears_forFields h fun field hf => ?_
  have hident := hf.ident.calm.newline_not_mem
  simp only [String.append_assoc]
  exact clears_of_pass <| pass_words <| pass_hole hident (by decide) <|
    pass_words <| pass_hole hident (by decide) <| pass_last (by decide)

theorem declares_constructor (h : view.Clean) :
    Declares (Java.constructor view) (constructorNames view) := by
  have hclass := h.className.calm
  have hparameters : Calm (", ".intercalate (view.fields.map parameter)) :=
    h.calm_listing fun field hf => (hf.typeName.append
      (calm_words (by decide))).append hf.ident.calm
  have hline : ∀ rest : String, Calm rest →
      Declares ("\tpublic " ++ view.className ++ "(" ++ rest ++ "\n")
        [view.className] := fun rest hrest =>
    declares_line ((((calm_words (by decide)).append hclass).append
      (calm_words (by decide))).append hrest).newline_not_mem
      (methodName?_constructor h.className _)
  have hblank : Declares "\n" [] :=
    declares_of_clears (clears_of_pass (by decide))
  have hend : Declares "\t\x7d\n" [] :=
    declares_of_clears (clears_of_pass (by decide))
  have hopening : "\n\tpublic " = "\n" ++ "\tpublic " := rfl
  have hplain : "() \x7b\n\t\x7d\n" = "(" ++ (") \x7b" ++ ("\n" ++ "\t\x7d\n")) := rfl
  have hfull : ") \x7b\n" = ") \x7b" ++ "\n" := rfl
  have hfirst := (hblank.append
    (hline ") \x7b" (calm_words (by decide)))).append hend
  have hsecond := hblank.append ((hline _ (hparameters.append
    (calm_words (by decide : ") \x7b".toList.all isCalm = true)))).append
    ((declares_of_clears (clears_assignments h)).append hend))
  unfold constructor constructorNames
  split
  · rw [String.append_empty]
    simpa only [-String.reduceAppend, hopening, hplain, String.append_assoc,
      List.nil_append, List.append_nil] using hfirst
  · simpa only [-String.reduceAppend, hopening, hplain, hfull,
      String.append_assoc, List.nil_append, List.append_nil, List.cons_append]
      using hfirst.append hsecond

theorem methodName?_static {name rest : String} (h : Wordlike view.className)
    (hname : '(' ∉ name.toList) (hword : ' ' ∉ name.toList) :
    methodName? ("\tpublic static " ++ view.className ++ " " ++ name ++ "(" ++ rest)
      = some name := by
  refine methodName?_eq ("\tpublic static " ++ view.className) rest rfl ?_ ?_
    hname hword
  · rw [String.append_assoc, String.toList_append]
    exact (by decide :
      "\tpublic ".toList <+: "\tpublic static ".toList).trans
      (List.prefix_append _ _)
  · simpa using h.not_mem (c := '(') (by decide)

theorem clears_fromMap (h : view.Clean) : methodLine.Clears
    ("\t\t" ++ (view.className ++ (" o = new " ++ (view.className ++ ("();\n" ++
      (forFields view decodeLine ++ "\t\treturn o;\n\t\x7d\n\n")))))) := by
  have hclass := h.className.calm.newline_not_mem
  refine clears_of_pass <| pass_words <| pass_hole hclass (by decide) <|
    pass_words <| pass_hole hclass (by decide) <| pass_words <|
    pass_lines (clears_forFields h fun field hf => ?_) (by decide) <|
    pass_last (by decide)
  obtain ⟨keys, hspelled, -⟩ := (decodesField hf).spelled
  unfold decodeLine
  simp only [String.append_assoc]
  exact clears_of_pass <| pass_words <|
    pass_hole hf.ident.calm.newline_not_mem (by decide) <| pass_words <|
    pass_hole hspelled.oneLine (by decide) <| pass_last (by decide)

theorem clears_toMap (h : view.Clean) : methodLine.Clears
    ("\t\tMap<String, Object> map = new LinkedHashMap<>();\n" ++
      (forFields view encodeLine ++ "\t\treturn map;\n\t\x7d\n")) := by
  refine clears_of_pass <| pass_words <|
    pass_lines (clears_forFields h fun field hf => ?_) (by decide) <|
    pass_last (by decide)
  have hspelled := (encodesField hf).spelled
  unfold encodeLine
  simp only [String.append_assoc]
  exact clears_of_pass <| pass_words <|
    pass_hole (spelled_literal rfl field.key).oneLine (by decide) <|
    pass_words <| pass_hole hspelled.oneLine (by decide) <|
    pass_last (by decide)

theorem declares_static (h : Wordlike view.className) {name rest : String}
    (hname : '(' ∉ name.toList) (hword : ' ' ∉ name.toList)
    (hcalm : Calm (name ++ "(" ++ rest)) :
    Declares ("\tpublic static " ++ view.className ++ " " ++ name ++ "(" ++ rest ++
      "\n") [name] := by
  refine declares_line ?_ (methodName?_static h hname hword)
  simp only [String.append_assoc] at hcalm ⊢
  exact ((calm_words (by decide)).append
    (h.calm.append ((calm_words (by decide)).append hcalm))).newline_not_mem

theorem declares_warning :
    Declares "\n\t@SuppressWarnings(\"unchecked\")\n" [] :=
  declares_of_clears (clears_of_pass (by decide))

def mapMethods (view : ClassView) : String :=
  "\n\t@SuppressWarnings(\"unchecked\")\n" ++
  "\tpublic static " ++ view.className ++ " fromMap(Map<String, Object> map) \x7b\n" ++
  "\t\t" ++ view.className ++ " o = new " ++ view.className ++ "();\n" ++
  forFields view decodeLine ++
  "\t\treturn o;\n\t\x7d\n" ++
  "\n\tpublic Map<String, Object> toMap() \x7b\n" ++
  "\t\tMap<String, Object> map = new LinkedHashMap<>();\n" ++
  forFields view encodeLine ++
  "\t\treturn map;\n\t\x7d\n"

theorem declares_mapMethods (h : view.Clean) :
    Declares (mapMethods view) ["fromMap", "toMap"] := by
  have hfromMap : Declares ("\tpublic static " ++ view.className ++ " " ++
      "fromMap" ++ "(" ++ "Map<String, Object> map) \x7b" ++ "\n") ["fromMap"] :=
    declares_static h.className (by decide) (by decide) (calm_words (by decide))
  have htoMap : Declares ("\tpublic Map<String, Object> toMap() \x7b" ++ "\n")
      ["toMap"] := declares_line (by decide) (by decide)
  have hparts := declares_warning.append <| hfromMap.append <|
    (declares_of_clears (clears_fromMap h)).append <| htoMap.append <|
    declares_of_clears (clears_toMap h)
  have hfirst : " fromMap(Map<String, Object> map) \x7b\n"
      = " " ++ ("fromMap" ++ ("(" ++ ("Map<String, Object> map) \x7b" ++ "\n"))) :=
    rfl
  have hsecond : "\n\tpublic Map<String, Object> toMap() \x7b\n"
      = "\n" ++ ("\tpublic Map<String, Object> toMap() \x7b" ++ "\n") := rfl
  have hbetween : "\t\treturn o;\n\t\x7d\n\n" = "\t\treturn o;\n\t\x7d\n" ++ "\n" := rfl
  unfold mapMethods
  simpa only [-String.reduceAppend, hfirst, hsecond, hbetween,
    String.append_assoc, List.nil_append, List.append_nil, List.cons_append]
    using hparts

def jsonMethods (view : ClassView) : String :=
  "\n\t@SuppressWarnings(\"unchecked\")\n" ++
  "\tpublic static " ++ view.className ++
    " fromJson(String json) throws JsonProcessingException \x7b\n" ++
  "\t\treturn fromMap(new ObjectMapper().readValue(json, Map.class));\n\t\x7d\n" ++
  "\n\tpublic String toJson() throws JsonProcessingException \x7b\n" ++
  "\t\treturn new ObjectMapper().writeValueAsString(toMap());\n\t\x7d\n"

theorem declares_jsonMethods (h : view.Clean) :
    Declares (jsonMethods view) ["fromJson", "toJson"] := by
  have hfromJson : Declares ("\tpublic static " ++ view.className ++ " " ++
      "fromJson" ++ "(" ++ "String json) throws JsonProcessingException \x7b" ++
      "\n") ["fromJson"] :=
    declares_static h.className (by decide) (by decide) (calm_words (by decide))
  have hreads : Declares
      ("\t\treturn fromMap(new ObjectMapper().readValue(json, Map.class));\n\t\x7d\n" ++
        "\n") [] :=
    (declares_of_clears (clears_of_pass (by decide))).append
      (declares_of_clears (clears_of_pass (by decide)))
  have htoJson : Declares
      ("\tpublic String toJson() throws JsonProcessingException \x7b" ++ "\n")
      ["toJson"] := declares_line (by decide) (by decide)
  have hwrites : Declares
      "\t\treturn new ObjectMapper().writeValueAsString(toMap());\n\t\x7d\n" [] :=
    declares_of_clears (clears_of_pass (by decide))
  have hparts := declares_warning.append <| hfromJson.append <|
    hreads.append <| htoJson.append hwrites
  have hfirst : " fromJson(String json) throws JsonProcessingException \x7b\n"
      = " " ++ ("fromJson" ++ ("(" ++
        ("String json) throws JsonProcessingException \x7b" ++ "\n"))) := rfl
  have hsecond : "\n\tpublic String toJson() throws JsonProcessingException \x7b\n"
      = "\n" ++ ("\tpublic String toJson() throws JsonProcessingException \x7b" ++
        "\n") := rfl
  unfold jsonMethods
  simpa only [-String.reduceAppend, hfirst, hsecond, String.append_assoc,
    List.nil_append, List.append_nil, List.cons_append] using hparts

theorem declares_serialization (h : view.Clean) :
    Declares (serialization view) ["fromMap", "toMap", "fromJson", "toJson"] := by
  have htext : serialization view = mapMethods view ++ jsonMethods view := by
    unfold serialization mapMethods jsonMethods
    simp only [-String.reduceAppend, String.append_assoc]
  rw [htext]
  exact (declares_mapMethods h).append (declares_jsonMethods h)

/-- A Java class has its constructors, a getter and a setter for each field,
and the conversions. -/
theorem methodNames_render (h : view.Clean)
    (hcallable : ∀ field ∈ view.fields, field.Callable) :
    methodNames (Language.java.render view)
      = constructorNames view ++ view.fields.flatMap accessorNames ++
        ["fromMap", "toMap", "fromJson", "toJson"] := by
  have hfields : Declares (forFields view java.accessors)
      (view.fields.flatMap accessorNames) :=
    declares_map fun field hf =>
      declares_accessors (h.fields field hf) (hcallable field hf)
  have hend : Declares "\x7d\n" [] :=
    declares_of_clears (clears_of_pass (by decide))
  have hparts := ((((((declares_header h).append
    (declares_annotatedFields h)).append declares_empty).append
    (declares_constructor h)).append hfields).append
    (declares_serialization h)).append hend
  have htext : Declares (Language.java.render view) _ := hparts
  rw [htext.methodNames_eq]
  simp only [List.nil_append, List.append_nil]

end Template.Java

end Recast
