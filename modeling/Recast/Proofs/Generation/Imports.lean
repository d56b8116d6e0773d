import Mathlib.Data.List.Induction
import Mathlib.Logic.Relation
import Recast.Proofs.Generation.Files
import Recast.Proofs.NameTable.Settled

/-!
# Every import finds the file it means

A class is declared under the name that the table has for it, referred to by
the name that the view puts into a type, and imported from the module that the
view lists among its dependencies. All three are read from one table, by the
number of the class, so they agree however the class was renamed. The file that
an import leads to is found by its name alone; no two files share a name, so it
is the file at the number of the class.

This holds of any class over the numbers of a schema, whatever its types are.
The classes of the schema itself refer only to classes that come later, so
among their files an import leads forward and never back.
-/

namespace Recast

/-! ## First mentions -/

/-- The members of a list, each at its first occurrence and so only once. -/
structure FirstMentions (mentions ids : List ClassId) : Prop where
  mem_iff : ∀ id, id ∈ ids ↔ id ∈ mentions
  ordered : ids.Pairwise fun a b => mentions.idxOf a < mentions.idxOf b

theorem firstMentions_eraseDups (mentions : List ClassId) :
    FirstMentions mentions mentions.eraseDups := by
  refine ⟨fun id => List.mem_eraseDups, ?_⟩
  induction mentions using List.reverseRecOn with
  | nil => exact .nil
  | append_singleton mentions last ih =>
      have hkept : mentions.eraseDups.Pairwise fun a b =>
          (mentions ++ [last]).idxOf a < (mentions ++ [last]).idxOf b := by
        refine ih.imp_of_mem fun ha hb hlt => ?_
        rwa [List.idxOf_append_of_mem (List.mem_eraseDups.mp ha),
          List.idxOf_append_of_mem (List.mem_eraseDups.mp hb)]
      rw [List.eraseDups_append]
      by_cases hlast : last ∈ mentions
      · have hnone : [last].removeAll mentions = [] := by
          simp [List.removeAll, hlast]
        rwa [hnone, List.eraseDups_nil, List.append_nil]
      · have hself : [last].removeAll mentions = [last] := by
          simp [List.removeAll, hlast]
        rw [hself, List.pairwise_append]
        refine ⟨hkept, List.pairwise_singleton _ _, ?_⟩
        intro a ha b hb
        rw [List.mem_eraseDups, List.mem_singleton] at hb
        rw [List.mem_eraseDups] at ha
        subst hb
        rw [List.idxOf_append_of_mem ha, List.idxOf_append_of_notMem hlast]
        exact Nat.lt_of_lt_of_le (List.idxOf_lt_length_of_mem ha)
          (Nat.le_add_right _ _)

/-! ## Types -/

/-- A type that calls every class what the table calls it. -/
inductive NamedType (entries : List ClassNames) :
    DataType ClassId → DataType String → Prop
  | scalar {kind} : NamedType entries (.scalar kind) (.scalar kind)
  | ref {id names} (entry : entries[id]? = some names) :
    NamedType entries (.ref id) (.ref names.className)
  | array {item named} : NamedType entries item named →
    NamedType entries (.array item) (.array named)
  | map {key value namedKey namedValue} : NamedType entries key namedKey →
    NamedType entries value namedValue →
    NamedType entries (.map key value) (.map namedKey namedValue)

variable {table : NameTable} {schema : Schema} {language : Language}
  {files : List SourceFile}

theorem NameTable.get_of_lt {id : ClassId} (h : id < table.entries.length) :
    table.entries[id]? = some (table.get id) := by
  rw [get, get?, List.getElem?_eq_getElem h]
  rfl

theorem namedType_mapRefs {type : DataType ClassId}
    (h : ∀ id ∈ type.refs, id < table.entries.length) :
    NamedType table.entries type
      (type.mapRefs fun id => (table.get id).className) := by
  induction type with
  | scalar kind => exact .scalar
  | ref id =>
      exact .ref (NameTable.get_of_lt (h id (List.mem_singleton_self id)))
  | array item ih => exact .array (ih h)
  | map key value ihk ihv =>
      exact .map (ihk fun id hid => h id (List.mem_append_left _ hid))
        (ihv fun id hid => h id (List.mem_append_right _ hid))

/-! ## Dependencies -/

/-- Exactly one file has the name that a dependency is imported by. It stands
at this place and declares the class. -/
structure Dependency.FoundAt (extension : String) (files : List SourceFile)
    (dependency : Dependency) (place : Nat) : Prop where
  file : ∃ file, files[place]? = some file ∧
    file.fileName = dependency.module ++ extension ∧
    file.className = dependency.className
  only : ∀ other file, files[other]? = some file →
    file.fileName = dependency.module ++ extension → other = place

/-- The number of a class is the place of its file. -/
theorem foundAt_of_infer {document : Json} {name : String}
    (h : (Schema.infer document name).outcome = .ok schema)
    (htable : (NameTable.resolve schema language.conventions true).outcome
      = .ok table)
    (hfiles : (emit language table schema.classes).outcome = .ok files)
    {id : ClassId} (hid : id < schema.size) :
    Dependency.FoundAt language.conventions.extension files
      ⟨(table.get id).className, (table.get id).module⟩ id := by
  have hlength := NameTable.length_of_resolve htable
  obtain ⟨hclassNames, hfileNames⟩ :=
    SourceFile.names_of_infer h hlength hfiles
  have hentry : table.entries[id]? = some (table.get id) :=
    NameTable.get_of_lt (Nat.lt_of_lt_of_eq hid hlength.symm)
  have hfile : (table.get id).fileName
      = (table.get id).module ++ language.conventions.extension :=
    NameTable.fileName_of_resolve htable _ (List.mem_of_getElem? hentry)
  have hname : (files.map SourceFile.fileName)[id]?
      = some (table.get id).fileName := by
    rw [hfileNames, List.getElem?_map, hentry]
    rfl
  have hclass : (files.map SourceFile.className)[id]?
      = some (table.get id).className := by
    rw [hclassNames, List.getElem?_map, hentry]
    rfl
  rw [List.getElem?_map] at hname hclass
  obtain ⟨file, hat, hown⟩ := Option.map_eq_some_iff.mp hname
  refine ⟨⟨file, hat, hown.trans hfile, ?_⟩, ?_⟩
  · rw [hat] at hclass
    exact Option.some.inj hclass
  · intro other file' hother hsame
    have hnodup := NameTable.nodup_fileName_of_resolve htable
    rw [← hfileNames] at hnodup
    have hplace : id < (files.map SourceFile.fileName).length := by
      rw [List.length_map]
      exact (List.getElem?_eq_some_iff.mp hat).1
    have hnames : (files.map SourceFile.fileName)[id]?
        = (files.map SourceFile.fileName)[other]? := by
      rw [List.getElem?_map, List.getElem?_map, hat, hother]
      simp [hown, hsame, hfile]
    exact ((List.getElem?_inj hplace hnodup).mp hnames).symm

/-! ## Views -/

/-- A class over the numbers of a schema, all of whose keys have names. -/
structure ClassShape.Within (schema : Schema) (shape : ClassShape) : Prop where
  id_lt : shape.id < schema.size
  refs_lt : ∀ id ∈ shape.refs, id < schema.size
  usable : ∀ attr ∈ shape.attributes, Name.usable attr.key = true

/-- A view calls every class by the name that its file declares, its own class
among them, and imports each class that the types of its fields mention, at its
first mention. -/
structure ClassView.Grounded (extension : String) (entries : List ClassNames)
    (files : List SourceFile) (shape : ClassShape) (view : ClassView) :
    Prop where
  own : ∃ names, entries[shape.id]? = some names ∧
    view.className = names.className ∧ view.fileName = names.fileName
  types : List.Forall₂ (fun attr field =>
    field.key = attr.key ∧ NamedType entries attr.type field.type)
    shape.attributes view.fields
  dependencies : ∃ ids, FirstMentions shape.refs ids ∧
    List.Forall₂ (fun id dependency =>
      (∃ names, entries[id]? = some names ∧
        dependency = ⟨names.className, names.module⟩) ∧
      dependency.FoundAt extension files id) ids view.dependencies

theorem ClassShape.within_of_infer {document : Json} {name : String}
    (h : (Schema.infer document name).outcome = .ok schema) :
    ∀ shape ∈ schema.classes, shape.Within schema := by
  intro shape hshape
  obtain ⟨i, hi⟩ := List.getElem?_of_mem hshape
  refine ⟨?_, ?_, (Schema.keysUsable_of_infer h shape hshape).2⟩
  · rw [Schema.id_of_infer h hi]
    exact (List.getElem?_eq_some_iff.mp hi).1
  · intro id hid
    obtain ⟨attr, hattr, hid⟩ := List.mem_flatMap.mp hid
    obtain ⟨j, hj⟩ := List.getElem?_of_mem hattr
    have href : schema.Refers (i, j) id := ⟨shape, attr, hi, hj, hid⟩
    exact (href.lt h).2

theorem ClassView.grounded_of_within {document : Json} {name : String}
    (h : (Schema.infer document name).outcome = .ok schema)
    (htable : (NameTable.resolve schema language.conventions true).outcome
      = .ok table)
    (hfiles : (emit language table schema.classes).outcome = .ok files)
    {shape : ClassShape} (hshape : shape.Within schema) {view : ClassView}
    (hview : ofShape language.conventions table shape = .ok view) :
    view.Grounded language.conventions.extension table.entries files shape := by
  have hlength := NameTable.length_of_resolve htable
  obtain ⟨hfields, hclass, hfile, -, hdependencies⟩ := ofShape_eq_ok.mp hview
  have hentry : ∀ id < schema.size, id < table.entries.length :=
    fun id hid => Nat.lt_of_lt_of_eq hid hlength.symm
  refine ⟨⟨_, NameTable.get_of_lt (hentry _ hshape.id_lt), hclass, hfile⟩, ?_,
    shape.refs.eraseDups, firstMentions_eraseDups _, ?_⟩
  · obtain ⟨hsize, hviews⟩ :=
      List.forall₂_iff_zip.mp (forall₂_fieldViews hfields)
    refine List.forall₂_iff_zip.mpr ⟨hsize, fun {attr field} hpair => ?_⟩
    rw [(hviews hpair).1]
    refine ⟨rfl, namedType_mapRefs fun id hid => hentry id ?_⟩
    exact hshape.refs_lt id
      (List.mem_flatMap.mpr ⟨attr, (List.of_mem_zip hpair).1, hid⟩)
  · rw [hdependencies, List.forall₂_map_right_iff, mentioned,
      ← ClassShape.refs, List.forall₂_same]
    intro id hid
    have hlt := hshape.refs_lt id (List.mem_eraseDups.mp hid)
    exact ⟨⟨_, NameTable.get_of_lt (hentry id hlt), rfl⟩,
      foundAt_of_infer h htable hfiles hlt⟩

/-! ## Imports between the files of a schema -/

/-- The file at a place is imported from by the class at another place. -/
def Imports (language : Language) (table : NameTable) (schema : Schema)
    (files : List SourceFile) (importer imported : Nat) : Prop :=
  ∃ shape view dependency file, schema.classes[importer]? = some shape ∧
    ClassView.ofShape language.conventions table shape = .ok view ∧
    dependency ∈ view.dependencies ∧ files[imported]? = some file ∧
    file.fileName = dependency.module ++ language.conventions.extension

theorem Imports.lt {document : Json} {name : String}
    (h : (Schema.infer document name).outcome = .ok schema)
    (htable : (NameTable.resolve schema language.conventions true).outcome
      = .ok table)
    (hfiles : (emit language table schema.classes).outcome = .ok files)
    {importer imported : Nat}
    (himports : Imports language table schema files importer imported) :
    importer < imported := by
  obtain ⟨shape, view, dependency, file, hshape, hview, hdependency, hfile,
    hname⟩ := himports
  have hmem := List.mem_of_getElem? hshape
  have hwithin := ClassShape.within_of_infer h shape hmem
  obtain ⟨-, -, ids, hids, hfound⟩ :=
    ClassView.grounded_of_within h htable hfiles hwithin hview
  obtain ⟨id, hid, -, hat⟩ :=
    List.exists_mem_of_forall₂_of_mem hfound hdependency
  rw [hat.only imported file hfile hname]
  obtain ⟨attr, hattr, hid⟩ := List.mem_flatMap.mp ((hids.mem_iff id).mp hid)
  obtain ⟨j, hj⟩ := List.getElem?_of_mem hattr
  have href : schema.Refers (importer, j) id := ⟨shape, attr, hshape, hj, hid⟩
  exact (href.lt h).1

/-- Where every step leads forward, no chain of steps leads back. -/
theorem not_transGen_self {r : Nat → Nat → Prop}
    (hforward : ∀ i k, r i k → i < k) (i : Nat) : ¬ Relation.TransGen r i i := by
  have hchain : ∀ k, Relation.TransGen r i k → i < k := by
    intro k hik
    induction hik with
    | single hstep => exact hforward _ _ hstep
    | tail _ hstep ih => exact Nat.lt_trans ih (hforward _ _ hstep)
  exact fun hback => Nat.lt_irrefl i (hchain i hback)

namespace Schema

/-- Lenient mode names and renders every class of an inferred schema. Every
class over its numbers, be it one of its own or not, has a view that is
grounded in the table and in the files. Among the files of the schema an import
leads to a later one, and none leads back. -/
theorem emit_grounded (language : Language) {document : Json} {name : String}
    {schema : Schema} (h : (Schema.infer document name).outcome = .ok schema) :
    ∃ table files,
      (NameTable.resolve schema language.conventions true).outcome
        = .ok table ∧
      (emit language table schema.classes).outcome = .ok files ∧
      (∀ shape ∈ schema.classes, shape.Within schema) ∧
      (∀ shape : ClassShape, shape.Within schema → ∃ view,
        ClassView.ofShape language.conventions table shape = .ok view ∧
        view.Grounded language.conventions.extension table.entries files
          shape) ∧
      (∀ importer imported,
        Imports language table schema files importer imported →
        importer < imported) ∧
      ∀ place,
        ¬ Relation.TransGen (Imports language table schema files) place place := by
  have hkeys := Schema.keysUsable_of_infer h
  obtain ⟨entries, hentries⟩ := NameTable.nameClasses_lenient_ok
    language.conventions [] fun shape hshape => (hkeys shape hshape).1
  have htable : (NameTable.resolve schema language.conventions true).outcome
      = .ok ⟨entries⟩ := NameTable.resolve_eq_ok.mpr hentries
  obtain ⟨files, hfiles⟩ := emit_ok language ⟨entries⟩ hkeys
  have hforward : ∀ importer imported,
      Imports language ⟨entries⟩ schema files importer imported →
      importer < imported := fun _ _ => Imports.lt h htable hfiles
  refine ⟨⟨entries⟩, files, htable, hfiles, ClassShape.within_of_infer h, ?_,
    hforward, not_transGen_self hforward⟩
  intro shape hshape
  obtain ⟨fields, hfields⟩ := ClassView.fieldViews_ok language.conventions
    ⟨entries⟩ shape.path [] hshape.usable
  obtain ⟨view, hview⟩ : ∃ view,
      ClassView.ofShape language.conventions ⟨entries⟩ shape = .ok view := by
    rw [ClassView.ofShape, hfields]
    exact ⟨_, rfl⟩
  exact ⟨view, hview,
    ClassView.grounded_of_within h htable hfiles hshape hview⟩

/-- A class that inference would not find: it refers to classes out of order,
twice, and through maps. -/
def atlasShape : ClassShape where
  id := 1
  key := ""
  path := "$.atlas"
  attributes := [⟨"maps", .map (.scalar .string) (.array (.ref 2))⟩,
    ⟨"grid", .map (.ref 1) (.ref 2)⟩]

theorem emit_grounded_atlas :
    (Schema.infer gridDocument "root").outcome = .ok gridSchema ∧
      atlasShape.Within gridSchema ∧
      ∃ table files view,
        (emit .java table gridSchema.classes).outcome = .ok files ∧
        ClassView.ofShape .java table atlasShape = .ok view ∧
        view.Grounded ".java" table.entries files atlasShape := by
  have h : (Schema.infer gridDocument "root").outcome = .ok gridSchema := rfl
  have hwithin : atlasShape.Within gridSchema := by
    refine ⟨by decide, by decide, by decide +kernel⟩
  obtain ⟨table, files, -, hfiles, -, hviews, -, -⟩ := emit_grounded .java h
  obtain ⟨view, hview, hgrounded⟩ := hviews atlasShape hwithin
  exact ⟨h, hwithin, table, files, view, hfiles, hview, hgrounded⟩

end Schema
end Recast
