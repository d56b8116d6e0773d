import Recast.Proofs.Generation.Files
import Recast.Proofs.NameTable.Modules
import Recast.Proofs.Python.Conversions

/-!
# Generated Python round-trips

The modules of a generation are linked: under every class name that a module
mentions it finds the class that the name was given to. Class names are
different because files are, so neither the own class of a module nor any other
class that it imports gets in the way, and there is one file of the name that
an import gives.

A class only refers to classes after it. So by induction on how many classes
there are from a class on, its conversions give back every value of the class,
and they nest no deeper than there are classes.
-/

namespace Recast

/-! ## Tables of distinct names -/

namespace NameTable

variable {schema : Schema} {conventions : Conventions} {table : NameTable}
  {lenient : Bool}

theorem get_eq_getElem {id : ClassId} (h : id < table.entries.length) :
    table.get id = table.entries[id] := by
  rw [get, get?, List.getElem?_eq_getElem h, Option.getD_some]

theorem className_inj (hcase : conventions.classCase = .pascal)
    (h : (resolve schema conventions lenient).outcome = .ok table)
    {i j : ClassId} (hi : i < schema.size) (hj : j < schema.size)
    (heq : (table.get i).className = (table.get j).className) : i = j := by
  rw [Schema.size, ← length_of_resolve h] at hi hj
  rw [get_eq_getElem hi, get_eq_getElem hj] at heq
  rw [← List.length_map ClassNames.className] at hi hj
  have hget : (table.entries.map ClassNames.className)[i]
      = (table.entries.map ClassNames.className)[j] := by
    rwa [List.getElem_map, List.getElem_map]
  have hnodup := nodup_className h (module_of_pascal hcase h)
  exact hnodup.getElem_inj_iff.mp hget

theorem fileName_get
    (h : (resolve schema conventions lenient).outcome = .ok table)
    {id : ClassId} (hid : id < schema.size) :
    (table.get id).fileName
      = (table.get id).module ++ conventions.extension := by
  rw [Schema.size, ← length_of_resolve h] at hid
  rw [get_eq_getElem hid]
  exact fileName_of_resolve h _ (List.getElem_mem hid)

end NameTable

namespace Python

variable {α : Type} {schema : Schema} {table : NameTable}
  {views : List ClassView}

/-! ## Linked programs -/

/-- The views of the classes of a schema, with what keeps their names apart. -/
structure Linked (schema : Schema) (table : NameTable) (views : List ClassView) :
    Prop where
  views_eq : List.Forall₂
    (fun shape view => ClassView.ofShape .python table shape = .ok view)
    schema.classes views
  id_eq : ∀ i (shape : ClassShape), schema.classes[i]? = some shape → shape.id = i
  refs_after : ∀ i (shape : ClassShape), schema.classes[i]? = some shape →
    ∀ attr ∈ shape.attributes, ∀ ref ∈ attr.type.refs,
      i < ref ∧ ref < schema.size
  className_inj : ∀ i j, i < schema.size → j < schema.size →
    (table.get i).className = (table.get j).className → i = j
  fileName_get : ∀ id < schema.size,
    (table.get id).fileName = (table.get id).module ++ ".py"
  fileName_nodup : (views.map ClassView.fileName).Nodup

namespace Linked

variable (linked : Linked schema table views) {i : ClassId} {view : ClassView}
include linked

theorem shape_of_view (h : views[i]? = some view) :
    ∃ shape, schema.classes[i]? = some shape ∧
      ClassView.ofShape .python table shape = .ok view := by
  obtain ⟨hlt, rfl⟩ := List.getElem?_eq_some_iff.mp h
  have hshape : i < schema.classes.length := by
    rwa [linked.views_eq.length_eq]
  exact ⟨schema.classes[i], List.getElem?_eq_getElem hshape,
    linked.views_eq.get hshape hlt⟩

theorem names_of_view (h : views[i]? = some view) :
    view.className = (table.get i).className ∧
      view.fileName = (table.get i).fileName := by
  obtain ⟨shape, hshape, hview⟩ := linked.shape_of_view h
  obtain ⟨-, hclass, hfile, -, -⟩ := ClassView.ofShape_eq_ok.mp hview
  rw [linked.id_eq i shape hshape] at hclass hfile
  exact ⟨hclass, hfile⟩

/-- A file is found under its name. -/
theorem find?_fileName (h : view ∈ views) :
    (views.map ofView).find? (·.fileName == view.fileName)
      = some (ofView view) := by
  obtain ⟨module, hfound⟩ : ∃ module, (views.map ofView).find?
      (·.fileName == view.fileName) = some module :=
    Option.isSome_iff_exists.mp (List.find?_isSome.mpr
      ⟨ofView view, List.mem_map_of_mem h, beq_self_eq_true _⟩)
  obtain ⟨other, hother, rfl⟩ :=
    List.mem_map.mp (List.mem_of_find?_eq_some hfound)
  have hname : other.fileName = view.fileName := by
    have hbeq := List.find?_some hfound
    exact beq_iff_eq.mp hbeq
  rwa [List.inj_on_of_nodup_map linked.fileName_nodup hother h hname] at hfound

/-- A module knows the classes that it mentions. -/
theorem resolveIn_eq {shape : ClassShape} {ref : ClassId} {target : ClassView}
    (hshape : schema.classes[i]? = some shape) (hview : views[i]? = some view)
    {attr : Attribute} (hattr : attr ∈ shape.attributes)
    (href : ref ∈ attr.type.refs) (htarget : views[ref]? = some target) :
    resolveIn (views.map ofView) (ofView view) (table.get ref).className
      = some (ofView target) := by
  obtain ⟨hlt, hsize⟩ := linked.refs_after i shape hshape attr hattr ref href
  obtain ⟨hclass, -⟩ := linked.names_of_view hview
  obtain ⟨htargetClass, htargetFile⟩ := linked.names_of_view htarget
  have hown : (ofView view).className ≠ (table.get ref).className := by
    intro heq
    have hi : i < schema.size := Nat.lt_trans hlt hsize
    exact Nat.ne_of_lt hlt (linked.className_inj i ref hi hsize
      (hclass.symm.trans heq))
  have himports : (ofView view).imports
      = (ClassView.mentioned shape.attributes).map fun id =>
          ⟨(table.get id).module, (table.get id).className⟩ := by
    obtain ⟨own, hown, hmade⟩ := linked.shape_of_view hview
    obtain rfl : own = shape := Option.some.inj (hown.symm.trans hshape)
    change view.dependencies.map _ = _
    rw [(ClassView.ofShape_eq_ok.mp hmade).2.2.2.2, List.map_map]
    rfl
  have hmentioned : ref ∈ ClassView.mentioned shape.attributes :=
    List.mem_eraseDups.mpr (List.mem_flatMap.mpr ⟨attr, hattr, href⟩)
  -- Whichever import is found, it is that of the class.
  obtain ⟨found, hfound⟩ : ∃ found, (ofView view).imports.reverse.find?
      (·.className == (table.get ref).className) = some found := by
    refine Option.isSome_iff_exists.mp (List.find?_isSome.mpr
      ⟨⟨(table.get ref).module, (table.get ref).className⟩, ?_,
        beq_self_eq_true _⟩)
    rw [List.mem_reverse, himports]
    exact List.mem_map.mpr ⟨ref, hmentioned, rfl⟩
  have hmodule : found.module = (table.get ref).module := by
    have hmem := List.mem_of_find?_eq_some hfound
    rw [List.mem_reverse, himports] at hmem
    obtain ⟨id, hid, rfl⟩ := List.mem_map.mp hmem
    obtain ⟨other, hother, hidRef⟩ :=
      List.mem_flatMap.mp (List.mem_eraseDups.mp hid)
    have hidSize := (linked.refs_after i shape hshape other hother id hidRef).2
    have hbeq := List.find?_some hfound
    rw [linked.className_inj id ref hidSize hsize (beq_iff_eq.mp hbeq)]
  rw [resolveIn, if_neg hown, hfound]
  simp only [Option.bind_eq_bind, Option.bind_some]
  rw [hmodule, ← linked.fileName_get ref hsize, ← htargetFile,
    linked.find?_fileName (List.mem_of_getElem? htarget)]
  exact if_pos htargetClass

/-- What the conversions of a class give back, if calls may nest as deep as
there are classes from this one on. -/
theorem toDict_fromDict {depth : Nat} (hview : views[i]? = some view)
    (hdepth : schema.size ≤ i + depth) {value : Value α}
    (h : Conforms schema (.ref i) value) :
    ∃ object result,
      (methods (views.map ofView) depth).fromDict (ofView view) value
          = some object ∧
        object ≠ .none ∧
        (methods (views.map ofView) depth).toDict object = some result ∧
        Alike result value := by
  induction depth generalizing i view value with
  | zero =>
      obtain ⟨shape, hshape, -⟩ := linked.shape_of_view hview
      obtain ⟨hlt, -⟩ := List.getElem?_eq_some_iff.mp hshape
      exact absurd hlt (Nat.not_lt.mpr hdepth)
  | succ depth ih =>
      obtain ⟨shape, hshape, hmade⟩ := linked.shape_of_view hview
      refine Python.toDict_fromDict hshape hmade
        (linked.find?_fileName (List.mem_of_getElem? hview))
        (fun attr hattr ref href => ?_) h
      obtain ⟨hlt, hsize⟩ := linked.refs_after i shape hshape attr hattr ref href
      have hviews : ref < views.length := by
        rwa [← linked.views_eq.length_eq]
      have htarget := List.getElem?_eq_getElem hviews
      have hdepth : schema.size ≤ ref + depth :=
        calc schema.size ≤ i + (depth + 1) := hdepth
          _ = i + 1 + depth := Nat.add_right_comm i depth 1
          _ ≤ ref + depth := Nat.add_le_add_right hlt depth
      exact ⟨_, linked.resolveIn_eq hshape hview hattr href htarget,
        fun value hvalue => ih htarget hdepth hvalue⟩

end Linked

/-! ## Generations -/

/-- The modules of generated files, read from their texts. -/
def readProgram (files : List SourceFile) : Option (List Module) :=
  files.mapM fun file => readModule file.fileName file.text.toList

/-- The file of a view. -/
def fileOf (view : ClassView) : SourceFile :=
  ⟨view.className, view.fileName, Language.python.render view, view.path⟩

theorem exists_views {shapes : List ClassShape} {files : List SourceFile}
    (h : List.Forall₂ (SourceFile.Renders .python table) shapes files) :
    ∃ views, List.Forall₂
        (fun shape view => ClassView.ofShape .python table shape = .ok view)
        shapes views ∧
      files = views.map fileOf := by
  induction h with
  | nil => exact ⟨[], .nil, rfl⟩
  | cons hrenders _ ih =>
      obtain ⟨view, hview, rfl⟩ := hrenders
      obtain ⟨views, hviews, rfl⟩ := ih
      exact ⟨view :: views, .cons hview hviews, rfl⟩

theorem readProgram_eq (h : ∀ view ∈ views, view.Legible) :
    readProgram (views.map fileOf) = some (views.map ofView) :=
  List.mapM_map_eq_some fun view hview => readModule_render (h view hview)

/-- The classes of a generation are linked. -/
theorem linked_of_resolve {document : Json} {name : String} {lenient : Bool}
    (hschema : (Schema.infer document name).outcome = .ok schema)
    (htable : (NameTable.resolve schema .python lenient).outcome = .ok table)
    (hviews : List.Forall₂
      (fun shape view => ClassView.ofShape .python table shape = .ok view)
      schema.classes views) : Linked schema table views := by
  have hentries := NameTable.resolve_eq_ok.mp htable
  have hfiles : views.map ClassView.fileName
      = table.entries.map ClassNames.fileName := by
    rw [← NameTable.map_get_of_infer hschema
      (NameTable.length_of_nameClasses hentries), List.map_map]
    exact List.map_eq_map_of_forall₂ hviews fun shape view h =>
      (ClassView.ofShape_eq_ok.mp h).2.2.1
  refine ⟨hviews, fun i shape => Schema.id_of_infer hschema, ?_,
    fun i j => NameTable.className_inj rfl htable,
    fun id => NameTable.fileName_get htable, ?_⟩
  · intro i shape hshape attr hattr ref href
    obtain ⟨k, hk⟩ := List.mem_iff_getElem?.mp hattr
    have hrefers : schema.Refers (i, k) ref := ⟨shape, attr, hshape, hk, href⟩
    exact hrefers.lt hschema
  · rw [hfiles]
    simpa using NameTable.nodup_of_nameClasses hentries List.nodup_nil

theorem size_pos_of_infer {document : Json} {name : String}
    (h : (Schema.infer document name).outcome = .ok schema) :
    0 < schema.size := by
  have hroot := (Schema.refs_perm_of_infer h).mem_iff.mp List.mem_cons_self
  simpa using hroot

end Python

namespace Request

open Python (Value Conforms Alike Linked)

/-- The `from_dict` of the root, followed by `to_dict`, gives back every value
of the root class up to the order of keys. The conversions are read from the
generated texts and need to nest no deeper than there are files. -/
theorem toDict_fromDict_of_generateFrom {request : Request} {document : Json}
    {files : List SourceFile} (htarget : request.target = .python)
    (h : (request.generateFrom document).outcome = .ok files) :
    ∃ name schema program root, request.topLevelName = .ok name ∧
      (Schema.infer document name).outcome = .ok schema ∧
      Python.readProgram files = some program ∧ program.head? = some root ∧
      ∀ {α : Type} (value : Value α), Conforms schema (.ref 0) value →
        ∀ depth, files.length ≤ depth → ∃ object result,
          (Python.methods program depth).fromDict root value = some object ∧
          (Python.methods program depth).toDict object = some result ∧
          Alike result value := by
  obtain ⟨name, schema, table, hname, hschema, htable, hfiles⟩ :=
    generateFrom_eq_ok.mp h
  rw [htarget] at htable hfiles
  obtain ⟨views, hviews, rfl⟩ := Python.exists_views hfiles
  have linked : Linked schema table views :=
    Python.linked_of_resolve hschema htable hviews
  have hlegible : ∀ view ∈ views, view.Legible := by
    intro view hview
    obtain ⟨shape, -, hmade⟩ := List.exists_mem_of_forall₂_of_mem hviews hview
    exact ClassView.legible_of_ofShape (NameTable.wordlike_get htable) hmade
  have hlength : schema.size = views.length := hviews.length_eq
  have hroot : 0 < views.length := hlength ▸ Python.size_pos_of_infer hschema
  have hhead := List.getElem?_eq_getElem hroot
  refine ⟨name, schema, views.map Python.ofView, Python.ofView views[0], hname,
    hschema, Python.readProgram_eq hlegible, ?_, ?_⟩
  · rw [List.head?_eq_getElem?, List.getElem?_map, hhead]
    rfl
  · intro α value hvalue depth hdepth
    rw [List.length_map, ← hlength] at hdepth
    have hdepth : schema.size ≤ 0 + depth := by rwa [Nat.zero_add]
    obtain ⟨object, result, hfromDict, -, htoDict, halike⟩ :=
      linked.toDict_fromDict hhead hdepth hvalue
    exact ⟨object, result, hfromDict, htoDict, halike⟩

/-- A value with another order of keys, an absent object, and something else
than a list where no class is involved. -/
def gridValue : Value Nat :=
  .dict [("sizes", .scalar 7), ("home", .none),
    ("grid", .list [.list [.dict [("x", .none)]], .list []])]

theorem conforms_gridValue : Conforms Schema.gridSchema (.ref 0) gridValue := by
  have hcell : Conforms Schema.gridSchema (.ref 1)
      (.dict [("x", .none)] : Value Nat) := by
    refine .object rfl (by decide) (fun key => Iff.rfl) ?_
    intro attr hattr value hvalue hne
    rw [List.mem_singleton.mp hattr]
    exact .free rfl
  have hrows : Conforms Schema.gridSchema (.array (.array (.ref 1)))
      (.list [.list [.dict [("x", .none)]], .list []] : Value Nat) := by
    refine .array fun row hrow => ?_
    rcases List.mem_pair.mp hrow with rfl | rfl
    · exact .array fun cell h => by rwa [List.mem_singleton.mp h]
    · exact .array nofun
  refine .object rfl (by decide) (fun key => ?_) ?_
  · simp [or_left_comm, or_comm]
  · intro attr hattr value hvalue hne
    simp only [List.mem_cons, List.not_mem_nil, or_false] at hattr
    rcases hattr with rfl | rfl | rfl
    · obtain rfl : value = .list [.list [.dict [("x", .none)]], .list []] := by
        simpa using hvalue
      exact hrows
    · exact absurd (by simpa using hvalue) hne
    · exact .free rfl

theorem toDict_fromDict_of_generateFrom_grid :
    ∃ files program root, (generateFrom ⟨.python, .json, true, some "root"⟩
        Schema.gridDocument).outcome = .ok files ∧
      Python.readProgram files = some program ∧ program.head? = some root ∧
      ∃ object result,
        (Python.methods program files.length).fromDict root gridValue
          = some object ∧
        (Python.methods program files.length).toDict object = some result ∧
        Alike result gridValue := by
  have hgrid : (Schema.infer Schema.gridDocument "root").outcome
      = .ok Schema.gridSchema := rfl
  obtain ⟨files, hfiles⟩ : ∃ files,
      (generateFrom ⟨.python, .json, true, some "root"⟩
        Schema.gridDocument).outcome = .ok files :=
    generateFrom_lenient_ok rfl rfl hgrid
  obtain ⟨name, schema, program, root, hname, hschema, hprogram, hroot,
    hvalues⟩ := toDict_fromDict_of_generateFrom rfl hfiles
  obtain rfl : "root" = name := by injection hname
  obtain rfl : schema = Schema.gridSchema :=
    Except.ok.inj (hschema.symm.trans hgrid)
  obtain ⟨object, result, hresult⟩ :=
    hvalues gridValue conforms_gridValue files.length (Nat.le_refl _)
  exact ⟨files, program, root, hfiles, hprogram, hroot, object, result, hresult⟩

end Request
end Recast
