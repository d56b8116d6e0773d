import Mathlib.Data.List.Forall2
import Recast.ClassView
import Recast.Proofs.Inference.Walk
import Recast.Proofs.Names.Numbered
import Recast.Proofs.Names.Plain

/-!
# What a view holds

A view is made from a class in one pass over its attributes, and the pass
carries the identifiers given out so far. What comes of it is said here for
all attributes at once: the view has one field for each of them, in their
order, and no two fields share an identifier.

The pass can only fail on a key without a name, so a class whose keys are all
usable always has a view.
-/

namespace List

variable {α β γ : Type} {R : α → β → Prop} {as : List α} {bs : List β}

theorem map_eq_map_of_forall₂ {f : α → γ} {g : β → γ} (h : Forall₂ R as bs)
    (hfg : ∀ a b, R a b → g b = f a) : bs.map g = as.map f := by
  induction h with
  | nil => rfl
  | cons hhead _ ih =>
      rw [List.map_cons, List.map_cons, hfg _ _ hhead, ih]

theorem exists_mem_of_forall₂_of_mem (h : Forall₂ R as bs) {b : β}
    (hb : b ∈ bs) : ∃ a ∈ as, R a b := by
  induction h with
  | nil => cases hb
  | cons hhead _ ih =>
      rcases mem_cons.mp hb with rfl | hmem
      · exact ⟨_, mem_cons_self, hhead⟩
      · obtain ⟨a, ha, hR⟩ := ih hmem
        exact ⟨a, mem_cons_of_mem _ ha, hR⟩

end List

namespace Recast.ClassView

variable {conventions : Conventions} {table : NameTable} {path name : String}
  {taken : List String} {attr : Attribute} {attrs : List Attribute}
  {views : List FieldView}

/-! ## Identifiers -/

theorem freeIdent_not_mem : freeIdent taken name ∉ taken := by
  rw [freeIdent]
  split
  · exact Name.leastFree_not_mem (Name.numbered name)
      (fun n => List.contains_iff_mem) (fun m n h => (Name.numbered_inj.mp h).2) 2
  · next hfree =>
      rwa [List.contains_iff_mem] at hfree

theorem wordlike_freeIdent (h : Name.Wordlike name) :
    Name.Wordlike (freeIdent taken name) := by
  rw [freeIdent]
  split
  · exact h.numbered _
  · exact h

/-! ## The pass over the attributes -/

theorem fieldViews_nil_eq_ok :
    fieldViews conventions table path taken [] = .ok views ↔ views = [] := by
  rw [fieldViews]
  simp [eq_comm]

theorem fieldViews_cons_eq_ok :
    fieldViews conventions table path taken (attr :: attrs) = .ok views ↔
      ∃ name others, Name.fieldName? conventions attr.key = some name ∧
        fieldViews conventions table path (freeIdent taken name :: taken) attrs
          = .ok others ∧
        views = fieldView conventions table (freeIdent taken name) attr
          :: others := by
  rw [fieldViews]
  cases Name.fieldName? conventions attr.key with
  | none => simp
  | some name =>
      simp only [Option.some.injEq, exists_and_left, exists_eq_left']
      cases fieldViews conventions table path (freeIdent taken name :: taken)
        attrs with
      | error e => simp [Except.map]
      | ok others => simp [Except.map, eq_comm]

theorem fieldViews_ok (conventions : Conventions) (table : NameTable)
    (path : String) (taken : List String)
    (hkeys : ∀ attr ∈ attrs, Name.usable attr.key = true) :
    ∃ views, fieldViews conventions table path taken attrs = .ok views := by
  induction attrs generalizing taken with
  | nil => exact ⟨[], rfl⟩
  | cons attr attrs ih =>
      have hkey := hkeys attr List.mem_cons_self
      rw [← Name.isSome_fieldName? conventions] at hkey
      obtain ⟨name, hname⟩ := Option.isSome_iff_exists.mp hkey
      obtain ⟨others, hothers⟩ := ih (freeIdent taken name :: taken)
        (fun a ha => hkeys a (List.mem_cons_of_mem _ ha))
      exact ⟨_, fieldViews_cons_eq_ok.mpr ⟨name, others, hname, hothers, rfl⟩⟩

/-- Each attribute has the field that it gives under some identifier. -/
theorem forall₂_fieldViews
    (h : fieldViews conventions table path taken attrs = .ok views) :
    List.Forall₂ (fun attr view =>
      view = fieldView conventions table view.ident attr ∧
        Name.Wordlike view.ident) attrs views := by
  induction attrs generalizing taken views with
  | nil =>
      rw [fieldViews_nil_eq_ok.mp h]
      exact .nil
  | cons attr attrs ih =>
      obtain ⟨name, others, hname, hothers, rfl⟩ := fieldViews_cons_eq_ok.mp h
      exact .cons
        ⟨rfl, wordlike_freeIdent (Name.wordlike_of_fieldName? hname)⟩
        (ih hothers)

theorem nodup_fieldViews
    (h : fieldViews conventions table path taken attrs = .ok views) :
    (views.map FieldView.ident).Nodup ∧
      ∀ view ∈ views, view.ident ∉ taken := by
  induction attrs generalizing taken views with
  | nil =>
      rw [fieldViews_nil_eq_ok.mp h]
      exact ⟨List.nodup_nil, nofun⟩
  | cons attr attrs ih =>
      obtain ⟨name, others, -, hothers, rfl⟩ := fieldViews_cons_eq_ok.mp h
      obtain ⟨hnodup, hapart⟩ := ih hothers
      constructor
      · refine List.nodup_cons.mpr ⟨?_, hnodup⟩
        intro hmem
        obtain ⟨view, hview, heq⟩ := List.mem_map.mp hmem
        refine hapart view hview ?_
        rw [heq]
        exact List.mem_cons_self
      · intro view hview
        rcases List.mem_cons.mp hview with rfl | hmem
        · exact freeIdent_not_mem
        · exact fun hin => hapart view hmem (List.mem_cons_of_mem _ hin)

/-! ## A view -/

theorem ofShape_eq_ok {shape : ClassShape} {view : ClassView} :
    ofShape conventions table shape = .ok view ↔
      fieldViews conventions table shape.path [] shape.attributes
          = .ok view.fields ∧
        view.className = (table.get shape.id).className ∧
        view.fileName = (table.get shape.id).fileName ∧
        view.path = shape.path ∧
        view.dependencies = (mentioned shape.attributes).map fun id =>
          ⟨(table.get id).className, (table.get id).module⟩ := by
  rw [ofShape]
  cases fieldViews conventions table shape.path [] shape.attributes with
  | error e => simp [Except.map]
  | ok fields =>
      constructor
      · intro h
        injection h with h
        subst h
        exact ⟨rfl, rfl, rfl, rfl, rfl⟩
      · rintro ⟨hfields, hclass, hfile, hpath, hdependencies⟩
        injection hfields with hfields
        cases view
        simp only at hfields hclass hfile hpath hdependencies
        subst hfields hclass hfile hpath hdependencies
        rfl

/-- A view has one field for each attribute, under its key. -/
theorem forall₂_key {shape : ClassShape} {view : ClassView}
    (h : ofShape conventions table shape = .ok view) :
    List.Forall₂ (fun attr field => field.key = attr.key)
      shape.attributes view.fields :=
  (forall₂_fieldViews (ofShape_eq_ok.mp h).1).imp
    fun attr field hfield => by rw [hfield.1]; rfl

theorem keys_of_ofShape {shape : ClassShape} {view : ClassView}
    (h : ofShape conventions table shape = .ok view) :
    view.fields.map FieldView.key = shape.attributes.map Attribute.key :=
  List.map_eq_map_of_forall₂ (forall₂_key h) fun _ _ hkey => hkey

theorem ofShape_ok (conventions : Conventions) (table : NameTable)
    {shape : ClassShape} (h : Infer.KeysUsable shape) :
    ∃ view, ofShape conventions table shape = .ok view := by
  obtain ⟨fields, hfields⟩ :=
    fieldViews_ok conventions table shape.path [] h.2
  rw [ofShape, hfields]
  exact ⟨_, rfl⟩

end Recast.ClassView
