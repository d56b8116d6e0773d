import Recast.Proofs.Generation.Files
import Recast.Proofs.Inference.Trace
import Recast.Proofs.NameTable.Warnings

/-!
# The events of a generation account for it

Every stage reports what it does: inference the elements it passes over and the
classes it finds, the naming each class that it moves, rendering each class that
it renders. A generation that succeeds reports all of this in the order of the
stages, and nothing else. So from its events one can tell how many classes
there are, what each was inferred from and which file it has come to.
-/

namespace Recast

open Traced (events_bind_ok)

/-! ## Rendering -/

/-- What is reported of a class that was rendered. -/
def NameTable.NamedClass.emitted (named : NameTable.NamedClass) : Event :=
  .emittedClass named.2.className named.2.fileName named.1.attributes.length

section Emit

variable {language : Language} {table : NameTable} {shape : ClassShape}
  {shapes : List ClassShape} {file : SourceFile} {files : List SourceFile}

theorem events_ofShape
    (h : (SourceFile.ofShape language table shape).outcome = .ok file) :
    (SourceFile.ofShape language table shape).events
      = [NameTable.NamedClass.emitted (shape, table.get shape.id)] := by
  obtain ⟨view, hview, -⟩ := SourceFile.ofShape_eq_ok.mp h
  obtain ⟨-, hclass, hfile, -, -⟩ := ClassView.ofShape_eq_ok.mp hview
  have hfields : shape.attributes.length = view.fields.length :=
    (ClassView.forall₂_key hview).length_eq
  rw [SourceFile.ofShape, hview, NameTable.NamedClass.emitted, hfields, ← hclass,
    ← hfile]
  rfl

theorem events_emit
    (h : (emit language table shapes).outcome = .ok files) :
    (emit language table shapes).events
      = (shapes.map fun shape => (shape, table.get shape.id)).map
          NameTable.NamedClass.emitted := by
  induction shapes generalizing files with
  | nil => rfl
  | cons shape shapes ih =>
      rw [emit_eq_ok, List.forall₂_cons_left_iff] at h
      obtain ⟨file, others, hfile, hothers, rfl⟩ := h
      have hfile := SourceFile.ofShape_eq_ok.mpr hfile
      have hothers := emit_eq_ok.mpr hothers
      rw [emit, events_bind_ok hfile, events_bind_ok hothers,
        events_ofShape hfile, ih hothers, Traced.events_pure, List.append_nil]
      rfl

/-- The names that a table has for the numbers of the classes of a schema are
its entries. -/
theorem NameTable.named_of_infer {document : Json} {name : String}
    {schema : Schema} (h : (Schema.infer document name).outcome = .ok schema)
    (hlength : table.entries.length = schema.classes.length) :
    schema.classes.map (fun shape => (shape, table.get shape.id))
      = NameTable.named schema table := by
  rw [named, ← map_get_of_infer h hlength, List.map_prod_left_eq_zip]

end Emit

namespace Request

variable {request : Request} {document : Json} {files : List SourceFile}

/-- The events of a generation that succeeds: the elements of the document that
are not looked at, the classes in the post-order of their tree, their number, a
warning for each class that moves, each class as it is rendered, and the number
of files. No two classes have one file, so the class that holds a plain file is
the only one that does. Reading the document reports nothing. -/
theorem events_of_generateFrom
    (h : (request.generateFrom document).outcome = .ok files) :
    ∃ name schema table tree warnings,
      request.topLevelName = .ok name ∧
      (Schema.infer document name).outcome = .ok schema ∧
      (NameTable.resolve schema request.target.conventions
        request.lenient).outcome = .ok table ∧
      files.length = schema.size ∧
      (table.entries.map ClassNames.fileName).Nodup ∧
      ClassForest.IsTreeOf schema tree ∧
      (∀ other, ClassForest.IsTreeOf schema other → other = tree) ∧
      List.Forall₂
        (NameTable.Warns request.target.conventions
          (NameTable.named schema table))
        ((List.range schema.size).filter
          (NameTable.moved request.target.conventions
            (NameTable.named schema table))) warnings ∧
      (request.generateFrom document).events
        = document.discarded
          ++ tree.postorder.map ClassShape.inferred
          ++ [.finishedInference schema.size]
          ++ warnings
          ++ (NameTable.named schema table).map NameTable.NamedClass.emitted
          ++ [.generated request.target name files.length] ∧
      ∀ text, request.source.decode text = .ok document →
        (request.generate text).events
          = (request.generateFrom document).events := by
  obtain ⟨name, schema, table, hname, hschema, htable, hfiles⟩ :=
    generateFrom_eq_ok.mp h
  obtain ⟨tree, htree, hinfer⟩ := Schema.events_infer hschema
  have hemit := emit_eq_ok.mpr hfiles
  refine ⟨name, schema, table, tree, _, hname, hschema, htable,
    hfiles.length_eq.symm, NameTable.nodup_fileName_of_resolve htable,
    htree, fun other hother => hother.unique htree,
    NameTable.warnings_of_resolve htable, ?_, ?_⟩
  · have hread : (Traced.ofExcept request.topLevelName).outcome = .ok name := hname
    rw [generateFrom, events_bind_ok hread, events_bind_ok hschema,
      events_bind_ok htable, events_bind_ok hemit, hinfer, events_emit hemit,
      NameTable.named_of_infer hschema (NameTable.length_of_resolve htable)]
    simp only [Traced.events_ofExcept, List.nil_append, List.append_assoc]
    rfl
  · intro text htext
    have hread : (Traced.ofExcept (request.source.decode text)).outcome
        = .ok document := htext
    rw [generate, events_bind_ok hread]
    rfl

/-- Two records, of which the first has two keys that name one file. -/
def twinRecords : Json := .array [twinDocument, .null]

def twinTable : NameTable where
  entries := [⟨"Root", "root", "root.py"⟩, ⟨"Item", "item", "item.py"⟩,
    ⟨"Item_1", "item_1", "item_1.py"⟩]

/-- The class of the records above the two classes of its fields. -/
def twinTree : ClassForest :=
  .node ⟨0, "root", "$", [⟨"item", .ref 1⟩, ⟨"Item", .ref 2⟩]⟩
    (.node ⟨1, "item", "$.item", [⟨"x", .scalar .string⟩]⟩ .nil
      (.node ⟨2, "Item", "$.Item", [⟨"y", .scalar .string⟩]⟩ .nil .nil))
    .nil

theorem events_of_generateFrom_twins :
    ∃ files warnings,
      (generateFrom ⟨.python, .json, true, some "root"⟩ twinRecords).outcome
        = .ok files ∧
      List.Forall₂
        (NameTable.Warns .python (NameTable.named twinSchema twinTable)) [2]
        warnings ∧
      (generateFrom ⟨.python, .json, true, some "root"⟩ twinRecords).events
        = [.discardedElements 1, .inferredClass "item" "$.item" 1,
            .inferredClass "Item" "$.Item" 1, .inferredClass "root" "$" 2,
            .finishedInference 3]
          ++ warnings
          ++ [.emittedClass "Root" "root.py" 2, .emittedClass "Item" "item.py" 1,
            .emittedClass "Item_1" "item_1.py" 1, .generated .python "root" 3] := by
  have hschema : (Schema.infer twinRecords "root").outcome = .ok twinSchema := rfl
  have hname : (⟨.python, .json, true, some "root"⟩ : Request).topLevelName
      = .ok "root" := rfl
  obtain ⟨files, hfiles⟩ := generateFrom_lenient_ok rfl hname hschema
  obtain ⟨name, schema, table, tree, warnings, hrequested, hinfer, htable, hlength,
    -, htree, -, hwarnings, hevents, -⟩ := events_of_generateFrom hfiles
  obtain rfl : "root" = name := Except.ok.inj (hname.symm.trans hrequested)
  obtain rfl : twinSchema = schema := Except.ok.inj (hschema.symm.trans hinfer)
  have hentries : (NameTable.resolve twinSchema .python true).outcome.toOption
      = some twinTable := by decide +kernel
  have hresolve : (NameTable.resolve twinSchema .python true).outcome
      = .ok table := htable
  rw [hresolve] at hentries
  obtain rfl : table = twinTable := Option.some.inj hentries
  have htwin : ClassForest.IsTreeOf twinSchema twinTree :=
    ⟨rfl, rfl, rfl, ⟨rfl, trivial, rfl, trivial, trivial⟩, trivial⟩
  obtain rfl := htree.unique htwin
  refine ⟨files, warnings, hfiles, ?_, ?_⟩
  · have hmoved : (List.range twinSchema.size).filter
        (NameTable.moved .python (NameTable.named twinSchema twinTable)) = [2] := by
      decide +kernel
    rw [← hmoved]
    exact hwarnings
  · rw [hevents, hlength]
    simp only [List.append_assoc]
    rfl

end Request
end Recast
