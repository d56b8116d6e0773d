import Mathlib.Order.Bounds.Defs
import Recast.Proofs.Generation.Views

/-!
# Every field has an identifier of its own, and none is a keyword

The identifiers of a class are given out in one pass, each looked at against
those given out before it. A name that is still free is taken as it is, and a
name that is held gets the least number, from two on, that makes it free. The
name itself is no candidate of that search, which is why the search can end one
step before it would run out of numbers.

Keywords stay out for one reason, whatever is done to a name: no keyword of any
language holds an underscore. A name that is a keyword gets one behind, and a
number is set off by one, so neither can be a keyword again.
-/

namespace Recast

namespace Name

variable {language : Language} {name : String}

/-! ## Keywords -/

theorem underscore_not_mem_keyword (language : Language) :
    ∀ word ∈ language.conventions.keywords, '_' ∉ word.toList := by
  cases language <;> decide +kernel

theorem not_keyword_of_underscore (h : '_' ∈ name.toList) :
    name ∉ language.conventions.keywords :=
  fun hkeyword => underscore_not_mem_keyword language name hkeyword h

theorem avoidKeyword_not_mem :
    avoidKeyword language.conventions.keywords name
      ∉ language.conventions.keywords := by
  rw [avoidKeyword]
  split
  · exact not_keyword_of_underscore (by simp)
  · next hfree => rwa [List.contains_iff_mem] at hfree

theorem not_keyword_of_fieldName? {key : String}
    (h : fieldName? language.conventions key = some name) :
    name ∉ language.conventions.keywords := by
  obtain ⟨own, -, rfl⟩ := Option.map_eq_some_iff.mp h
  exact avoidKeyword_not_mem

theorem numbered_not_keyword (n : Nat) :
    numbered name n ∉ language.conventions.keywords :=
  not_keyword_of_underscore (by simp [toList_numbered])

end Name

namespace ClassView

variable {conventions : Conventions} {language : Language} {table : NameTable}
  {path name ident : String} {earlier : List String} {attr : Attribute}
  {attrs : List Attribute} {views : List FieldView} {view : FieldView}

/-! ## One field -/

/-- The identifier that a field gets for a name behind earlier identifiers: the
name where it is free, and otherwise the name with the least number from two on
that is. -/
inductive Identified (earlier : List String) (name : String) : String → Prop
  | kept (free : name ∉ earlier) : Identified earlier name name
  | moved {n : Nat} (held : name ∈ earlier)
    (least : IsLeast {n | 2 ≤ n ∧ Name.numbered name n ∉ earlier} n)
    (bound : n ≤ earlier.length + 1) :
    Identified earlier name (Name.numbered name n)

theorem identified_freeIdent (earlier : List String) (name : String) :
    Identified earlier name (freeIdent earlier.reverse name) := by
  have htaken : ∀ n, earlier.reverse.contains (Name.numbered name n) = true ↔
      Name.numbered name n ∈ earlier.reverse := fun n => List.contains_iff_mem
  have hinjective : Function.Injective (Name.numbered name) :=
    fun m n h => (Name.numbered_inj.mp h).2
  rw [freeIdent]
  split
  · next hheld =>
      rw [List.contains_iff_mem] at hheld
      have hleast := Name.isLeast_leastFree _ htaken hinjective 2
      have hlt := Name.leastFree_lt _ htaken hinjective 2 hheld
        (Name.numbered_ne name)
      simp only [List.mem_reverse] at hleast hheld
      rw [List.length_reverse] at hlt
      exact .moved hheld hleast (by rw [List.length_reverse]; omega)
  · next hfree =>
      rw [List.contains_iff_mem, List.mem_reverse] at hfree
      exact .kept hfree

theorem Identified.not_keyword
    (h : Identified earlier name ident)
    (hname : name ∉ language.conventions.keywords) :
    ident ∉ language.conventions.keywords := by
  cases h with
  | kept free => exact hname
  | moved held least bound => exact Name.numbered_not_keyword _

/-! ## The pass over the attributes -/

theorem identified_of_fieldViews (earlier : List String)
    (h : fieldViews conventions table path earlier.reverse attrs = .ok views)
    {i : Nat} (hattr : attrs[i]? = some attr) (hview : views[i]? = some view) :
    ∃ name, Name.fieldName? conventions attr.key = some name ∧
      Identified (earlier ++ (views.take i).map FieldView.ident) name
        view.ident := by
  induction attrs generalizing earlier views i with
  | nil => simp at hattr
  | cons first attrs ih =>
      obtain ⟨name, others, hname, hothers, rfl⟩ := fieldViews_cons_eq_ok.mp h
      match i with
      | 0 =>
          simp only [List.getElem?_cons_zero, Option.some.injEq] at hattr hview
          subst hattr hview
          rw [List.take_zero, List.map_nil, List.append_nil]
          exact ⟨name, hname, identified_freeIdent earlier name⟩
      | i + 1 =>
          have htaken : freeIdent earlier.reverse name :: earlier.reverse
              = (earlier ++ [freeIdent earlier.reverse name]).reverse := by
            rw [List.reverse_append, List.reverse_singleton,
              List.singleton_append]
          rw [htaken] at hothers
          obtain ⟨own, hown, hidentified⟩ := ih _ hothers hattr hview
          refine ⟨own, hown, ?_⟩
          rwa [List.append_assoc, List.singleton_append] at hidentified

theorem not_keyword_of_fieldViews
    (h : fieldViews language.conventions table path [] attrs = .ok views) :
    ∀ view ∈ views, view.ident ∉ language.conventions.keywords := by
  intro view hview
  obtain ⟨i, hi⟩ := List.getElem?_of_mem hview
  have hlength := (forall₂_fieldViews h).length_eq
  obtain ⟨hlt, -⟩ := List.getElem?_eq_some_iff.mp hi
  rw [← hlength] at hlt
  obtain ⟨name, hname, hidentified⟩ :=
    identified_of_fieldViews [] h (List.getElem?_eq_getElem hlt) hi
  exact hidentified.not_keyword (Name.not_keyword_of_fieldName? hname)

/-! ## A view -/

/-- A class whose keys all have names has a view, and the view has one field for
each key, in order. Their identifiers are pairwise different and no keywords;
each is the name of its key unless an earlier field has that, and then the same
name with the least free number. Exactly those fields count as renamed whose
identifier is not their key. -/
theorem ofShape_identifies (language : Language) (table : NameTable)
    {shape : ClassShape}
    (hkeys : ∀ attr ∈ shape.attributes, Name.usable attr.key = true) :
    ∃ view, ofShape language.conventions table shape = .ok view ∧
      view.fields.map FieldView.key = shape.attributes.map Attribute.key ∧
      (view.fields.map FieldView.ident).Nodup ∧
      (∀ field ∈ view.fields,
        field.ident ∉ language.conventions.keywords) ∧
      (∀ i attr field, shape.attributes[i]? = some attr →
        view.fields[i]? = some field →
        ∃ name, Name.fieldName? language.conventions attr.key = some name ∧
          Identified ((view.fields.take i).map FieldView.ident) name
            field.ident) ∧
      ∀ field ∈ view.fields, field.renamed = true ↔ field.ident ≠ field.key := by
  obtain ⟨fields, hfields⟩ :=
    fieldViews_ok language.conventions table shape.path [] hkeys
  have hshape := forall₂_fieldViews hfields
  refine ⟨_, by rw [ofShape, hfields]; rfl, ?_, (nodup_fieldViews hfields).1,
    not_keyword_of_fieldViews hfields, ?_, ?_⟩
  · refine List.map_eq_map_of_forall₂ hshape fun attr field hfield => ?_
    rw [hfield.1, fieldView]
  · intro i attr field hattr hfield
    exact identified_of_fieldViews [] hfields hattr hfield
  · intro field hfield
    obtain ⟨attr, -, hrenders, -⟩ := List.exists_mem_of_forall₂_of_mem hshape hfield
    rw [hrenders, fieldView]
    exact bne_iff_ne

/-- Keys that come out alike, one that has the number another one wants, and
two that are kept from being a keyword. -/
def crowdedShape : ClassShape where
  id := 0
  key := "root"
  path := "$"
  attributes := ["first_name_2", "firstName", "first_name", "type", "Type"].map
    fun key => ⟨key, .scalar .string⟩

theorem ofShape_identifies_crowded :
    (∀ attr ∈ crowdedShape.attributes, Name.usable attr.key = true) ∧
      ∃ view, ofShape .rust ⟨[]⟩ crowdedShape = .ok view ∧
        view.fields.map FieldView.ident
          = ["first_name_2", "first_name", "first_name_3", "type_", "type__2"] ∧
        Identified ["first_name_2", "first_name"] "first_name" "first_name_3" := by
  have hkeys : ∀ attr ∈ crowdedShape.attributes,
      Name.usable attr.key = true := by decide +kernel
  obtain ⟨view, hview, -, -, -, hidentified, -⟩ :=
    ofShape_identifies .rust ⟨[]⟩ hkeys
  have hidents : (ofShape .rust ⟨[]⟩ crowdedShape).toOption.map
      (fun view => view.fields.map FieldView.ident)
        = some ["first_name_2", "first_name", "first_name_3", "type_",
          "type__2"] := by decide +kernel
  have hname : Name.fieldName? .rust "first_name" = some "first_name" := by
    decide +kernel
  have hrust : ofShape .rust ⟨[]⟩ crowdedShape = .ok view := hview
  rw [hrust] at hidents
  have hall : view.fields.map FieldView.ident
      = ["first_name_2", "first_name", "first_name_3", "type_", "type__2"] :=
    Option.some.inj hidents
  refine ⟨hkeys, view, hrust, hall, ?_⟩
  have hthird : (view.fields.map FieldView.ident)[2]? = some "first_name_3" := by
    rw [hall]
    rfl
  rw [List.getElem?_map] at hthird
  obtain ⟨field, hfield, hident⟩ := Option.map_eq_some_iff.mp hthird
  obtain ⟨name, hown, hfound⟩ := hidentified 2 _ field rfl hfield
  obtain rfl := Option.some.inj (hname.symm.trans hown)
  rwa [List.map_take, hall, hident] at hfound

end ClassView

end Recast
