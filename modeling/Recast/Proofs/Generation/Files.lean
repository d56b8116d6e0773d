import Recast.Generate
import Recast.Proofs.Generation.Views
import Recast.Proofs.Inference.Arena
import Recast.Proofs.NameTable.Modes

/-!
# What a generation returns

After inference nothing can go wrong any more except that two classes want
one file in strict mode: the walk has checked every key, so the naming of the
classes and of the fields finds a name for each of them, and rendering cannot
fail at all.

A generation is opened once, into the runs of its stages. The two modes share
all stages but the naming of the classes, so they are compared there, and the
comparison is carried through to the files.
-/

namespace Recast

open Traced (outcome_bind_eq_ok)

variable {language : Language} {table : NameTable} {shape : ClassShape}
  {shapes : List ClassShape} {file : SourceFile} {files : List SourceFile}

/-! ## Rendering -/

/-- A file is a class as a language renders it. -/
def SourceFile.Renders (language : Language) (table : NameTable)
    (shape : ClassShape) (file : SourceFile) : Prop :=
  ∃ view, ClassView.ofShape language.conventions table shape = .ok view ∧
    file = ⟨view.className, view.fileName, language.render view, view.path⟩

theorem SourceFile.ofShape_eq_ok :
    (SourceFile.ofShape language table shape).outcome = .ok file ↔
      SourceFile.Renders language table shape file := by
  rw [SourceFile.ofShape, SourceFile.Renders]
  simp only [outcome_bind_eq_ok, Traced.outcome_ofExcept]
  refine exists_congr fun view => and_congr_right fun _ => ?_
  simp [eq_comm]

theorem emit_eq_ok :
    (emit language table shapes).outcome = .ok files ↔
      List.Forall₂ (SourceFile.Renders language table) shapes files := by
  induction shapes generalizing files with
  | nil =>
      rw [emit, List.forall₂_nil_left_iff]
      simp [eq_comm]
  | cons shape shapes ih =>
      rw [emit, List.forall₂_cons_left_iff]
      simp only [outcome_bind_eq_ok, SourceFile.ofShape_eq_ok, ih]
      constructor
      · rintro ⟨file, hfile, others, hothers, heq⟩
        simp only [Traced.outcome_pure, Except.ok.injEq] at heq
        exact ⟨file, others, hfile, hothers, heq.symm⟩
      · rintro ⟨file, others, hfile, hothers, rfl⟩
        exact ⟨file, hfile, others, hothers, rfl⟩

theorem emit_ok (language : Language) (table : NameTable)
    (hkeys : ∀ shape ∈ shapes, Infer.KeysUsable shape) :
    ∃ files, (emit language table shapes).outcome = .ok files := by
  induction shapes with
  | nil => exact ⟨[], rfl⟩
  | cons shape shapes ih =>
      obtain ⟨view, hview⟩ := ClassView.ofShape_ok language.conventions table
        (hkeys shape List.mem_cons_self)
      obtain ⟨others, hothers⟩ :=
        ih (fun s hs => hkeys s (List.mem_cons_of_mem _ hs))
      exact ⟨_, emit_eq_ok.mpr
        (.cons ⟨view, hview, rfl⟩ (emit_eq_ok.mp hothers))⟩

/-- A file belongs to its class and has the names that the table gives it. -/
theorem SourceFile.Renders.names (h : Renders language table shape file) :
    file.origin = shape.path ∧
      file.className = (table.get shape.id).className ∧
      file.fileName = (table.get shape.id).fileName := by
  obtain ⟨view, hview, rfl⟩ := h
  obtain ⟨-, hclass, hfile, hpath, -⟩ := ClassView.ofShape_eq_ok.mp hview
  exact ⟨hpath, hclass, hfile⟩

/-- A table with an entry for each class of an inferred schema lists the names
of the classes in the order of the schema. -/
theorem NameTable.map_get_of_infer {document : Json} {name : String}
    {schema : Schema} (h : (Schema.infer document name).outcome = .ok schema)
    (hlength : table.entries.length = schema.classes.length) :
    schema.classes.map (fun shape => table.get shape.id) = table.entries := by
  refine List.ext_getElem (by simp [hlength]) ?_
  intro i hi hi'
  rw [List.length_map] at hi
  rw [List.getElem_map, Schema.id_of_infer h (List.getElem?_eq_getElem hi),
    NameTable.get, NameTable.get?, List.getElem?_eq_getElem hi']
  rfl

/-- The files of an inferred schema have the names that the table lists. -/
theorem SourceFile.names_of_infer {document : Json} {name : String}
    {schema : Schema} (h : (Schema.infer document name).outcome = .ok schema)
    (hlength : table.entries.length = schema.classes.length)
    (hfiles : (emit language table schema.classes).outcome = .ok files) :
    files.map SourceFile.className = table.entries.map ClassNames.className ∧
      files.map SourceFile.fileName
        = table.entries.map ClassNames.fileName := by
  have hrenders := emit_eq_ok.mp hfiles
  rw [← NameTable.map_get_of_infer h hlength, List.map_map, List.map_map]
  exact ⟨List.map_eq_map_of_forall₂ hrenders fun _ _ h => h.names.2.1,
    List.map_eq_map_of_forall₂ hrenders fun _ _ h => h.names.2.2⟩

namespace Request

variable {request : Request} {document : Json}

/-! ## The stages of a generation -/

theorem topLevelName_ok (request : Request) :
    ∃ name, request.topLevelName = .ok name := by
  rw [topLevelName]
  cases request.rootName with
  | some name => exact ⟨name, rfl⟩
  | none =>
      have hkey : Name.usable ("generated_from_" ++ request.source.id) = true := by
        cases request.source
        decide
      rw [← Name.isSome_nameOf? request.target.conventions.rootCase]
        at hkey
      obtain ⟨name, hname⟩ := Option.isSome_iff_exists.mp hkey
      exact ⟨name, by simp only [hname]⟩

theorem generateFrom_eq_ok :
    (request.generateFrom document).outcome = .ok files ↔
      ∃ name schema table, request.topLevelName = .ok name ∧
        (Schema.infer document name).outcome = .ok schema ∧
        (NameTable.resolve schema request.target.conventions
          request.lenient).outcome = .ok table ∧
        List.Forall₂ (SourceFile.Renders request.target table)
          schema.classes files := by
  rw [generateFrom]
  simp only [outcome_bind_eq_ok, Traced.outcome_ofExcept, emit_eq_ok]
  constructor
  · rintro ⟨name, hname, schema, hschema, table, htable, own, hown, _, -, heq⟩
    simp only [Traced.outcome_pure, Except.ok.injEq] at heq
    exact ⟨name, schema, table, hname, hschema, htable, heq ▸ hown⟩
  · rintro ⟨name, schema, table, hname, hschema, htable, hfiles⟩
    exact ⟨name, hname, schema, hschema, table, htable, files, hfiles, (), rfl,
      rfl⟩

/-- In lenient mode nothing can go wrong once inference has succeeded. -/
theorem generateFrom_lenient_ok {name : String} {schema : Schema}
    (hlenient : request.lenient = true)
    (hname : request.topLevelName = .ok name)
    (hschema : (Schema.infer document name).outcome = .ok schema) :
    ∃ files, (request.generateFrom document).outcome = .ok files := by
  have hkeys := Schema.keysUsable_of_infer hschema
  obtain ⟨entries, hentries⟩ :=
    NameTable.nameClasses_lenient_ok request.target.conventions []
      fun shape hshape => (hkeys shape hshape).1
  have htable : (NameTable.resolve schema request.target.conventions
      request.lenient).outcome = .ok ⟨entries⟩ := by
    rw [hlenient]
    exact NameTable.resolve_eq_ok.mpr hentries
  obtain ⟨files, hfiles⟩ := emit_ok request.target ⟨entries⟩ hkeys
  exact ⟨files, generateFrom_eq_ok.mpr
    ⟨name, schema, ⟨entries⟩, hname, hschema, htable, emit_eq_ok.mp hfiles⟩⟩

/-- A generation stops with the error of the naming, if that has one. -/
theorem generateFrom_eq_error {name : String} {schema : Schema}
    {e : GenerationError} (hname : request.topLevelName = .ok name)
    (hschema : (Schema.infer document name).outcome = .ok schema)
    (htable : (NameTable.resolve schema request.target.conventions
      request.lenient).outcome = .error e) :
    (request.generateFrom document).outcome = .error e := by
  rw [generateFrom]
  simp only [Traced.outcome_bind, Traced.outcome_ofExcept, hname, hschema,
    htable, Except.bind]

/-! ## The two modes -/

/-- Once inference has succeeded, lenient mode returns one file for each class
in the order of the schema. Strict mode returns the same files if lenient mode
has renamed no class, and otherwise it names the first clash. -/
theorem generateFrom_modes (request : Request) (document : Json) :
    ∃ name, request.topLevelName = .ok name ∧
      ∀ schema, (Schema.infer document name).outcome = .ok schema →
      ∃ table files,
        (NameTable.resolve schema request.target.conventions true).outcome
          = .ok table ∧
        ({ request with lenient := true }.generateFrom document).outcome
          = .ok files ∧
        files.map SourceFile.origin = schema.classes.map ClassShape.path ∧
        files.map SourceFile.className
          = table.entries.map ClassNames.className ∧
        files.map SourceFile.fileName
          = table.entries.map ClassNames.fileName ∧
        (({ request with lenient := false }.generateFrom document).outcome
            = .ok files ↔
          table.KeepsPlainNames request.target.conventions schema) ∧
        (({ request with lenient := false }.generateFrom document).outcome
            = .ok files ∨
          ∃ first second fileName,
            FirstClash request.target.conventions schema.classes fileName
              first second ∧
            ({ request with lenient := false }.generateFrom document).outcome
              = .error (.duplicateFile fileName first.path second.path)) := by
  obtain ⟨name, hname⟩ := topLevelName_ok request
  refine ⟨name, hname, fun schema hschema => ?_⟩
  have hkeys := Schema.keysUsable_of_infer hschema
  obtain ⟨table, hlenient, hmodes⟩ :=
    NameTable.resolve_modes request.target.conventions
      (fun shape hshape => (hkeys shape hshape).1)
  obtain ⟨files, hemit⟩ := emit_ok request.target table hkeys
  have hfiles := emit_eq_ok.mp hemit
  have hentries : schema.classes.map (fun shape => table.get shape.id)
      = table.entries :=
    NameTable.map_get_of_infer hschema
      (NameTable.length_of_nameClasses (NameTable.resolve_eq_ok.mp hlenient))
  have hclassNames : files.map SourceFile.className
      = table.entries.map ClassNames.className := by
    rw [← hentries, List.map_map]
    exact List.map_eq_map_of_forall₂ hfiles fun shape file h => h.names.2.1
  have hfileNames : files.map SourceFile.fileName
      = table.entries.map ClassNames.fileName := by
    rw [← hentries, List.map_map]
    exact List.map_eq_map_of_forall₂ hfiles fun shape file h => h.names.2.2
  refine ⟨table, files, hlenient,
    generateFrom_eq_ok.mpr ⟨name, schema, table, hname, hschema, hlenient, hfiles⟩,
    List.map_eq_map_of_forall₂ hfiles fun shape file h => h.names.1,
    hclassNames, hfileNames, ?_⟩
  rcases hmodes with ⟨hstrict, hkeeps⟩ |
    ⟨first, second, fileName, hclash, hstrict, hrenamed⟩
  · have hsame : ({ request with lenient := false }.generateFrom
        document).outcome = .ok files :=
      generateFrom_eq_ok.mpr
        ⟨name, schema, table, hname, hschema, hstrict, hfiles⟩
    exact ⟨⟨fun _ => hkeeps, fun _ => hsame⟩, .inl hsame⟩
  · have hstop : ({ request with lenient := false }.generateFrom
        document).outcome
          = .error (.duplicateFile fileName first.path second.path) :=
      generateFrom_eq_error hname hschema hstrict
    refine ⟨⟨fun hok => ?_, fun hkeeps => absurd hkeeps hrenamed⟩,
      .inr ⟨first, second, fileName, hclash, hstop⟩⟩
    rw [hstop] at hok
    cases hok

/-- Two keys that name one file in every language. -/
def twinDocument : Json :=
  .object [("item", .object [("x", .null)]), ("Item", .object [("y", .null)])]

def twinSchema : Schema where
  classes := [
    ⟨0, "root", "$", [⟨"item", .ref 1⟩, ⟨"Item", .ref 2⟩]⟩,
    ⟨1, "item", "$.item", [⟨"x", .scalar .string⟩]⟩,
    ⟨2, "Item", "$.Item", [⟨"y", .scalar .string⟩]⟩]

theorem generateFrom_modes_twins :
    (Schema.infer twinDocument "root").outcome = .ok twinSchema ∧
      (∃ files, (generateFrom ⟨.python, .json, true, some "root"⟩
          twinDocument).outcome = .ok files ∧
        files.map SourceFile.origin = ["$", "$.item", "$.Item"]) ∧
      ∃ first second fileName,
        FirstClash .python twinSchema.classes fileName first second ∧
        (generateFrom ⟨.python, .json, false, some "root"⟩
          twinDocument).outcome
            = .error (.duplicateFile fileName first.path second.path) := by
  obtain ⟨name, hname, hmodes⟩ :=
    generateFrom_modes ⟨.python, .json, true, some "root"⟩ twinDocument
  have hroot : "root" = name := by injection hname
  subst hroot
  have hschema : (Schema.infer twinDocument "root").outcome = .ok twinSchema :=
    rfl
  obtain ⟨table, files, htable, hfiles, horigins, -, -, hkeeps, hstrict⟩ :=
    hmodes twinSchema hschema
  refine ⟨hschema, ⟨files, hfiles, horigins⟩, ?_⟩
  rcases hstrict with hsame | hclash
  · have hfileNames : (table.entries.map ClassNames.fileName).Nodup := by
      simpa using NameTable.nodup_of_nameClasses
        (NameTable.resolve_eq_ok.mp htable) List.nodup_nil
    have hplain : (table.entries.map some).Nodup :=
      hfileNames.of_map.map fun _ _ => Option.some.inj
    have hlower : Name.className? .python "item" = some "Item" := by
      decide +kernel
    have hupper : Name.className? .python "Item" = some "Item" := by
      decide +kernel
    have htwins : ClassNames.plain? .python "item"
        = ClassNames.plain? .python "Item" := by
      rw [ClassNames.plain?, ClassNames.plain?, hlower, hupper]
    rw [show table.entries.map some = _ from hkeeps.mp hsame] at hplain
    simp [twinSchema, Language.conventions, htwins] at hplain
  · exact hclash

end Request
end Recast
