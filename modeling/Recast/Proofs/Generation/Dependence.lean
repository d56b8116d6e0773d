import Recast.Proofs.Generation.Imports
import Recast.Proofs.Inference.Skeleton

/-!
# What the files of a document depend on

Two results tell what has no influence. The first is about a whole generation:
it looks at nothing but the skeleton of its document. Inference sees only the
skeleton, and what comes after it sees only the schema.

The second is about single files. A document is compared with a longer one
whose root has more fields behind its own, and each stage of the longer run
begins with the run over the shorter document. The walk meets the old fields
first and with the same counter, so the classes it finds in them are the same
classes, numbers included; only the root has more attributes. The names of a
class depend on the classes before it and on nothing that comes later, so the
table of the longer run begins with the table of the shorter one, whatever
names the new classes have to take. And a file is rendered from its class and
from the names of the classes that the class mentions, all of which are old.

None of this needs lenient mode: a strict run that meets no clash meets none in
its beginning.
-/

namespace Recast

/-! ## Documents with one skeleton -/

namespace Request

/-- Two documents with one skeleton give the same files or the same error,
whatever is asked for. The second one is an object or an array if the first
one is, since their skeletons are. -/
theorem generateFrom_eq_of_skeleton_eq (request : Request)
    {first second : Json} (hcontainer : first.isContainer = true)
    (h : first.skeleton = second.skeleton) :
    (request.generateFrom first).outcome
      = (request.generateFrom second).outcome := by
  have hinfer : ∀ name, (Schema.infer first name).outcome
      = (Schema.infer second name).outcome :=
    Schema.infer_eq_of_skeleton_eq hcontainer h
  simp only [generateFrom, Traced.outcome_bind, hinfer]

/-- Records that differ in every scalar and in all that follows the first
element of an array. -/
def fullRecord : Json :=
  .array [
    .object [("name", .string "Ann"), ("age", .number (.integer 41)),
      ("grid", .array [.array [.object [("x", .number .float)], .null],
        .array []])],
    .object [("", .array [])]]

def bareRecord : Json :=
  .array [
    .object [("name", .null), ("age", .number (.integer (-1))),
      ("grid", .array [.array [.object [("x", .number .float)]]])]]

def recordSchema : Schema where
  classes := [
    ⟨0, "person", "$", [⟨"name", .scalar .string⟩, ⟨"age", .scalar .integer⟩,
      ⟨"grid", .array (.array (.ref 1))⟩]⟩,
    ⟨1, "grid", "$.grid[0][0]", [⟨"x", .scalar .float⟩]⟩]

theorem generateFrom_eq_of_skeleton_eq_records :
    fullRecord.isContainer = true ∧
      fullRecord.skeleton = bareRecord.skeleton ∧
      ∃ files,
        (generateFrom ⟨.java, .json, true, some "person"⟩
          fullRecord).outcome = .ok files ∧
        (generateFrom ⟨.java, .json, true, some "person"⟩
          bareRecord).outcome = .ok files := by
  have hskeleton : fullRecord.skeleton = bareRecord.skeleton := rfl
  have hsame := generateFrom_eq_of_skeleton_eq
    ⟨.java, .json, true, some "person"⟩ rfl hskeleton
  have hschema : (Schema.infer bareRecord "person").outcome
      = .ok recordSchema := rfl
  obtain ⟨files, hfiles⟩ : ∃ files,
      (generateFrom ⟨.java, .json, true, some "person"⟩ bareRecord).outcome
        = .ok files := generateFrom_lenient_ok rfl rfl hschema
  exact ⟨rfl, hskeleton, files, hsame.trans hfiles, hfiles⟩

end Request

/-! ## The walk over the first fields -/

namespace Infer

theorem walkFields_append {before after : List (String × Json)}
    {path : KeyPath} {next : ClassId} {attributes : List Attribute}
    {found : List ClassShape}
    (h : (walkFields path next (before ++ after)).outcome
      = .ok (attributes, found)) :
    ∃ own others inside outside,
      (walkFields path next before).outcome = .ok (own, inside) ∧
      attributes = own ++ others ∧ found = inside ++ outside := by
  induction before generalizing next attributes found with
  | nil => exact ⟨[], attributes, [], found, by rw [walkFields]; rfl, rfl, rfl⟩
  | cons field before ih =>
      obtain ⟨key, value⟩ := field
      rw [List.cons_append] at h
      obtain ⟨hkey, type, inside, rest, outside, hvalue, hrest, rfl, rfl⟩ :=
        walkFields_cons_eq_ok.mp h
      obtain ⟨own, others, met, unmet, hown, rfl, rfl⟩ := ih hrest
      refine ⟨⟨key, type⟩ :: own, others, inside ++ met, unmet, ?_, rfl, ?_⟩
      · exact walkFields_cons_eq_ok.mpr
          ⟨hkey, type, inside, own, met, hvalue, hown, rfl, rfl⟩
      · rw [List.append_assoc]

end Infer

namespace Schema

theorem infer_object_eq_ok {fields : List (String × Json)} {name : String}
    {schema : Schema} :
    (infer (.object fields) name).outcome = .ok schema ↔
      fields ≠ [] ∧ Name.usable name = true ∧ ∃ attributes inside,
        (Infer.walkFields [] 1 fields).outcome = .ok (attributes, inside) ∧
        schema.classes = ⟨0, name, KeyPath.text [], attributes⟩ :: inside := by
  rw [infer_eq_ok]
  constructor
  · rintro ⟨own, hroot, hne, hname, type, hwalk⟩
    obtain ⟨-, hown | ⟨others, hother⟩⟩ := Json.selectRoot_eq_ok.mp hroot
    · injection hown with hown
      subst hown
      obtain ⟨attributes, inside, hfields, -, hclasses⟩ :=
        Infer.walkValue_object_eq_ok.mp hwalk
      exact ⟨hne, hname, attributes, inside, hfields, hclasses⟩
    · cases hother
  · rintro ⟨hne, hname, attributes, inside, hfields, hclasses⟩
    refine ⟨fields, Json.selectRoot_eq_ok.mpr ⟨hne, .inl rfl⟩, hne, hname,
      .ref 0, ?_⟩
    exact Infer.walkValue_object_eq_ok.mpr
      ⟨attributes, inside, hfields, rfl, hclasses⟩

/-- The classes of the shorter document open the longer one's, and only the
attributes of the root differ. -/
theorem infer_append {fields added : List (String × Json)} {name : String}
    {longer : Schema} (hfields : fields ≠ [])
    (h : (infer (.object (fields ++ added)) name).outcome = .ok longer) :
    ∃ shorter attributes more inside later,
      (infer (.object fields) name).outcome = .ok shorter ∧
      shorter.classes = ⟨0, name, KeyPath.text [], attributes⟩ :: inside ∧
      longer.classes
        = ⟨0, name, KeyPath.text [], attributes ++ more⟩ :: (inside ++ later) := by
  obtain ⟨-, hname, all, found, hwalk, hclasses⟩ := infer_object_eq_ok.mp h
  obtain ⟨attributes, more, inside, later, hown, rfl, rfl⟩ :=
    Infer.walkFields_append hwalk
  exact ⟨⟨⟨0, name, KeyPath.text [], attributes⟩ :: inside⟩, attributes, more,
    inside, later, infer_object_eq_ok.mpr
      ⟨hfields, hname, attributes, inside, hown, rfl⟩, rfl, hclasses⟩

end Schema

/-! ## The names of the first classes -/

namespace NameTable

variable {conventions : Conventions} {lenient : Bool} {taken : Holders}

/-- The names of classes are not made from their attributes. -/
theorem nameClasses_attributes (root : ClassShape) (attributes : List Attribute)
    (shapes : List ClassShape) :
    nameClasses conventions lenient taken
        ({ root with attributes := attributes } :: shapes)
      = nameClasses conventions lenient taken (root :: shapes) := by
  rw [nameClasses, nameClasses, nameClass, nameClass]

theorem nameClasses_append {shapes more : List ClassShape}
    {entries : List ClassNames}
    (h : (nameClasses conventions lenient taken (shapes ++ more)).outcome
      = .ok entries) :
    ∃ own later, (nameClasses conventions lenient taken shapes).outcome
        = .ok own ∧ entries = own ++ later := by
  induction shapes generalizing taken entries with
  | nil => exact ⟨[], entries, rfl, rfl⟩
  | cons shape shapes ih =>
      rw [List.cons_append] at h
      obtain ⟨names, others, hnames, hothers, rfl⟩ :=
        nameClasses_cons_eq_ok.mp h
      obtain ⟨own, later, hown, rfl⟩ := ih hothers
      exact ⟨names :: own, later,
        nameClasses_cons_eq_ok.mpr ⟨names, own, hnames, hown, rfl⟩, rfl⟩

/-- The table of a schema begins with the table of a schema whose classes open
its own, up to the attributes of the root. -/
theorem resolve_append {shorter longer : Schema} {table : NameTable}
    {root : ClassShape} {attributes : List Attribute}
    {inside later : List ClassShape}
    (hshorter : shorter.classes = root :: inside)
    (hlonger : longer.classes
      = { root with attributes := attributes } :: (inside ++ later))
    (h : (resolve longer conventions lenient).outcome = .ok table) :
    ∃ own rest, (resolve shorter conventions lenient).outcome = .ok ⟨own⟩ ∧
      table = ⟨own ++ rest⟩ := by
  have hrun := resolve_eq_ok.mp h
  rw [hlonger, nameClasses_attributes root, ← List.cons_append, ← hshorter]
    at hrun
  obtain ⟨own, rest, hown, hentries⟩ := nameClasses_append hrun
  refine ⟨own, rest, resolve_eq_ok.mpr hown, ?_⟩
  rw [← hentries]

theorem get_append {own later : List ClassNames} {id : ClassId}
    (h : id < own.length) : (⟨own ++ later⟩ : NameTable).get id
      = (⟨own⟩ : NameTable).get id := by
  rw [get, get, get?, get?, List.getElem?_append_left h]

end NameTable

/-! ## The files of classes with the same names -/

theorem DataType.mapRefs_congr {ρ σ : Type} {f g : ρ → σ} {type : DataType ρ}
    (h : ∀ target ∈ type.refs, f target = g target) :
    type.mapRefs f = type.mapRefs g := by
  induction type with
  | scalar kind => rfl
  | ref target =>
      rw [mapRefs, mapRefs, h target (List.mem_singleton_self target)]
  | array item ih => rw [mapRefs, mapRefs, ih h]
  | map key value ihk ihv =>
      rw [mapRefs, mapRefs, ihk fun t ht => h t (List.mem_append_left _ ht),
        ihv fun t ht => h t (List.mem_append_right _ ht)]

namespace ClassView

variable {conventions : Conventions} {table other : NameTable}

theorem fieldViews_congr {path : String} {taken : List String}
    {attrs : List Attribute}
    (h : ∀ id ∈ attrs.flatMap (·.type.refs), table.get id = other.get id) :
    fieldViews conventions table path taken attrs
      = fieldViews conventions other path taken attrs := by
  induction attrs generalizing taken with
  | nil => rfl
  | cons attr attrs ih =>
      rw [List.flatMap_cons] at h
      have htype : attr.type.mapRefs (fun id => (table.get id).className)
          = attr.type.mapRefs fun id => (other.get id).className := by
        refine DataType.mapRefs_congr fun id hid => ?_
        rw [h id (List.mem_append_left _ hid)]
      have hrest : ∀ now, fieldViews conventions table path now attrs
          = fieldViews conventions other path now attrs :=
        fun now => ih fun id hid => h id (List.mem_append_right _ hid)
      simp only [fieldViews, fieldView, htype, hrest]

/-- A view depends on the names of its own class and of those that the class
mentions. -/
theorem ofShape_congr {shape : ClassShape}
    (hown : table.get shape.id = other.get shape.id)
    (hrefs : ∀ id ∈ shape.refs, table.get id = other.get id) :
    ofShape conventions table shape = ofShape conventions other shape := by
  have hdependencies :
      (mentioned shape.attributes).map
          (fun id => (⟨(table.get id).className, (table.get id).module⟩ : Dependency))
        = (mentioned shape.attributes).map
          fun id => ⟨(other.get id).className, (other.get id).module⟩ := by
    refine List.map_congr_left fun id hid => ?_
    rw [hrefs id (List.mem_eraseDups.mp hid)]
  rw [ofShape, ofShape, fieldViews_congr hrefs, hown, hdependencies]

end ClassView

theorem SourceFile.Renders.congr {language : Language}
    {table other : NameTable} {shape : ClassShape} {file : SourceFile}
    (hown : table.get shape.id = other.get shape.id)
    (hrefs : ∀ id ∈ shape.refs, table.get id = other.get id)
    (h : Renders language table shape file) :
    Renders language other shape file := by
  rw [Renders, ClassView.ofShape_congr hown hrefs] at h
  exact h

namespace Request

/-- If a document with more fields at the end of its root gives files, then so
does the document without them. The longer run begins with as many files: the
root has its name, its file and its origin, and the other files are the same,
text included. -/
theorem generateFrom_append (request : Request)
    {fields added : List (String × Json)} {longer : List SourceFile}
    (hfields : fields ≠ [])
    (h : (request.generateFrom (.object (fields ++ added))).outcome
      = .ok longer) :
    ∃ root others root' more,
      (request.generateFrom (.object fields)).outcome = .ok (root :: others) ∧
      longer = root' :: others ++ more ∧
      root'.className = root.className ∧ root'.fileName = root.fileName ∧
      root'.origin = root.origin := by
  obtain ⟨name, long, table, hname, hlong, htable, hlonger⟩ :=
    generateFrom_eq_ok.mp h
  obtain ⟨short, attributes, new, inside, later, hshort, hclasses, hmore⟩ :=
    Schema.infer_append hfields hlong
  obtain ⟨own, rest, hown, rfl⟩ :=
    NameTable.resolve_append hclasses hmore htable
  have hlength : own.length = short.size := NameTable.length_of_resolve hown
  have hget : ∀ id < short.size,
      (⟨own ++ rest⟩ : NameTable).get id = (⟨own⟩ : NameTable).get id :=
    fun id hid => NameTable.get_append (hlength ▸ hid)
  have hsame : ∀ shape ∈ inside, ∀ file,
      SourceFile.Renders request.target ⟨own ++ rest⟩ shape file →
      SourceFile.Renders request.target ⟨own⟩ shape file := by
    intro shape hshape file hfile
    have hwithin := ClassShape.within_of_infer hshort shape
      (hclasses ▸ List.mem_cons_of_mem _ hshape)
    exact hfile.congr (hget _ hwithin.id_lt)
      fun id hid => hget id (hwithin.refs_lt id hid)
  rw [hmore, List.forall₂_cons_left_iff] at hlonger
  obtain ⟨root', files, hroot', hfiles, rfl⟩ := hlonger
  have hinside := List.forall₂_take inside.length hfiles
  rw [List.take_left] at hinside
  obtain ⟨root, hroot⟩ : ∃ root, SourceFile.Renders request.target ⟨own⟩
      ⟨0, name, KeyPath.text [], attributes⟩ root := by
    obtain ⟨view, hview⟩ := ClassView.ofShape_ok request.target.conventions
      ⟨own⟩ (Schema.keysUsable_of_infer hshort _
        (hclasses ▸ List.mem_cons_self))
    exact ⟨_, view, hview, rfl⟩
  have hfirst := hget 0 (by rw [Schema.size, hclasses]; simp)
  refine ⟨root, files.take inside.length, root', files.drop inside.length,
    generateFrom_eq_ok.mpr ⟨name, short, ⟨own⟩, hname, hshort, hown, ?_⟩,
    ?_, ?_⟩
  · rw [hclasses]
    refine .cons hroot <| ((List.forall₂_and_left _ _).mpr
      ⟨fun _ hshape => hshape, hinside⟩).imp ?_
    exact fun shape file hshape => hsame shape hshape.1 file hshape.2
  · rw [List.cons_append, List.take_append_drop]
  · obtain ⟨horigin, hclass, hfile⟩ := hroot.names
    obtain ⟨horigin', hclass', hfile'⟩ := hroot'.names
    rw [hclass, hfile, horigin, hclass', hfile', horigin', hfirst]
    exact ⟨rfl, rfl, rfl⟩

/-- Fields that bring another class for the file of one that is there. -/
def itemFields : List (String × Json) :=
  [("item", .object [("x", .null)])]

def laterFields : List (String × Json) :=
  [("items", .array [.object [("item", .object [("y", .boolean true)])]])]

theorem generateFrom_append_items :
    itemFields ≠ [] ∧ ∃ longer,
      (generateFrom ⟨.python, .json, true, some "root"⟩
        (.object (itemFields ++ laterFields))).outcome = .ok longer ∧
      ∃ root others root' more,
        (generateFrom ⟨.python, .json, true, some "root"⟩
          (.object itemFields)).outcome = .ok (root :: others) ∧
        longer = root' :: others ++ more ∧
        root'.className = root.className ∧ root'.fileName = root.fileName ∧
        root'.origin = root.origin := by
  have hfields : itemFields ≠ [] := List.cons_ne_nil _ _
  obtain ⟨schema, hschema⟩ : ∃ schema,
      (Schema.infer (.object (itemFields ++ laterFields)) "root").outcome
        = .ok schema := ⟨_, rfl⟩
  obtain ⟨longer, hlonger⟩ : ∃ longer,
      (generateFrom ⟨.python, .json, true, some "root"⟩
        (.object (itemFields ++ laterFields))).outcome = .ok longer :=
    generateFrom_lenient_ok rfl rfl hschema
  exact ⟨hfields, longer, hlonger,
    generateFrom_append ⟨.python, .json, true, some "root"⟩ hfields hlonger⟩

end Request
end Recast
