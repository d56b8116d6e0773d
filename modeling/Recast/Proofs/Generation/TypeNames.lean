import Recast.Proofs.Generation.Files
import Recast.Proofs.NameTable.Settled
import Recast.Proofs.Names.Roles

/-!
# What a declared type tells of a field

The declared type of a field is its type as the language spells it. Scalars and
classes are spelled as words, and an array puts something around the spelling of
its items that is in no word. So a spelled type can be taken apart again, down
to the word in the middle: two types without maps are spelled alike if and only
if they are the same type once the scalars are replaced by their words.

What is left is to tell a scalar from a class by its word. Class names open on
a capital, but so do some words for scalars, in Java and Ruby the boxed ones, in
Rust `String`, and nothing keeps a class from being called like that. In Python
and TypeScript no such word opens on a capital.
-/

namespace Recast

open Name (OpensOn Wordlike)
open Unicode (isUppercase)

/-! ## Words for scalars -/

namespace Conventions

/-- The words for scalars, outside containers and inside. -/
def scalarWords (conventions : Conventions) : List String :=
  [conventions.scalars, conventions.innerScalars].flatMap fun names =>
    [names.boolean, names.integer, names.float, names.string]

/-- A type with the word for a scalar in the place of each scalar. -/
def worded (conventions : Conventions) (inner : Bool) :
    DataType String → DataType String
  | .scalar kind => .ref (conventions.spell inner (.scalar kind))
  | .ref className => .ref className
  | .array item => .array (conventions.worded true item)
  | .map key value =>
    .map (conventions.worded true key) (conventions.worded true value)

/-- The spelling of a type is that of its words. -/
theorem spell_worded (conventions : Conventions) (inner : Bool)
    (type : DataType String) :
    conventions.spell inner (conventions.worded inner type)
      = conventions.spell inner type := by
  induction type generalizing inner with
  | scalar kind => rfl
  | ref className => rfl
  | array item ih => rw [worded, spell, ih, spell]
  | map key value ihk ihv => rw [worded, spell, ihk, ihv, spell]

end Conventions

namespace Language

/-- The words for scalars that a class name could be. -/
def capitalScalarWords (language : Language) : List String :=
  language.conventions.scalarWords.filter fun word =>
    word.toList.head?.any isUppercase

variable {language : Language} {inner : Bool} {word s t : String}

theorem spell_scalar_mem (language : Language) (inner : Bool) (kind : Scalar) :
    language.conventions.spell inner (.scalar kind)
      ∈ language.conventions.scalarWords := by
  cases language <;> cases inner <;> cases kind <;> decide

theorem spell_scalar_ne {kind : Scalar} {className : String}
    (h : className ∉ language.conventions.scalarWords) :
    language.conventions.spell inner (.scalar kind) ≠ className :=
  fun heq => h (heq ▸ language.spell_scalar_mem inner kind)

theorem wordlike_scalarWords (language : Language) :
    ∀ word ∈ language.conventions.scalarWords, Wordlike word := by
  have hall : language.conventions.scalarWords.all
      (fun word => word.toList.all Name.isNameChar) = true := by
    cases language <;> decide +kernel
  intro word hword
  exact List.all_eq_true.mp (List.all_eq_true.mp hall word hword)

theorem arrayType_inj : language.conventions.arrayType s
    = language.conventions.arrayType t ↔ s = t := by
  cases language <;>
    simp [Language.conventions, Conventions.java, Conventions.ruby,
      Conventions.python, Conventions.typescript, Conventions.rust]

/-- What an array puts around its items is in no word. -/
theorem not_wordlike_arrayType (language : Language) (s : String) :
    ¬ Wordlike (language.conventions.arrayType s) := by
  obtain ⟨c, hmem, hc⟩ : ∃ c ∈ (language.conventions.arrayType s).toList,
      Name.isNameChar c = false := by
    cases language with
    | java | ruby | rust =>
        refine ⟨'<', ?_, by decide⟩
        simp [Language.conventions, Conventions.java, Conventions.ruby,
          Conventions.rust]
    | python | typescript =>
        refine ⟨'[', ?_, by decide⟩
        simp [Language.conventions, Conventions.python, Conventions.typescript]
  exact fun hword => hword.not_mem hc hmem

theorem not_wordlike_mapType (language : Language) (key value : String) :
    ¬ Wordlike (language.conventions.mapType key value) := by
  obtain ⟨c, hmem, hc⟩ : ∃ c ∈ (language.conventions.mapType key value).toList,
      Name.isNameChar c = false := by
    refine ⟨if language = .python ∨ language = .ruby then ' ' else '<', ?_, ?_⟩
    · cases language <;>
        simp [Language.conventions, Conventions.java, Conventions.ruby,
          Conventions.python, Conventions.typescript, Conventions.rust]
    · cases language <;> decide
  exact fun hword => hword.not_mem hc hmem

end Language

/-! ## Spelled types can be taken apart -/

namespace Conventions

variable {language : Language} {inner : Bool} {first second : DataType String}

/-- A type without parts is spelled as its word. -/
theorem worded_cases (language : Language) (inner : Bool)
    (hmap : first.mapFree = true)
    (hrefs : ∀ className ∈ first.refs, Wordlike className) :
    (∃ item, first = .array item) ∨
      language.conventions.worded inner first
          = .ref (language.conventions.spell inner first) ∧
        Wordlike (language.conventions.spell inner first) := by
  match first with
  | .scalar kind =>
      have hmem := language.spell_scalar_mem inner kind
      exact .inr ⟨rfl, language.wordlike_scalarWords _ hmem⟩
  | .ref className => exact .inr ⟨rfl, hrefs className List.mem_cons_self⟩
  | .array item => exact .inl ⟨item, rfl⟩
  | .map key value => cases hmap

/-- Types that are spelled alike have the same words. -/
theorem worded_eq_of_spell_eq (hfirst : first.mapFree = true)
    (hsecond : second.mapFree = true)
    (hfirstRefs : ∀ className ∈ first.refs, Wordlike className)
    (hsecondRefs : ∀ className ∈ second.refs, Wordlike className)
    (h : language.conventions.spell inner first
      = language.conventions.spell inner second) :
    language.conventions.worded inner first
      = language.conventions.worded inner second := by
  have hsecondCases := worded_cases language inner hsecond hsecondRefs
  induction first generalizing inner second with
  | map key value => cases hfirst
  | array item ih =>
      rcases hsecondCases with ⟨other, rfl⟩ | ⟨-, hword⟩
      · have hother : other.mapFree = true := hsecond
        have hotherRefs : ∀ className ∈ other.refs, Wordlike className :=
          hsecondRefs
        rw [worded, worded, ih hfirst hother hfirstRefs hotherRefs
          (Language.arrayType_inj.mp h)
          (worded_cases language true hother hotherRefs)]
      · rw [← h] at hword
        exact absurd hword (language.not_wordlike_arrayType _)
  | scalar _ | ref _ =>
      rcases worded_cases language inner hfirst hfirstRefs with
        ⟨_, harray⟩ | ⟨hworded, hword⟩
      · cases harray
      · rcases hsecondCases with ⟨other, rfl⟩ | ⟨hother, -⟩
        · rw [h] at hword
          exact absurd hword (language.not_wordlike_arrayType _)
        · rw [hworded, hother, h]

theorem spell_eq_iff (hfirst : first.mapFree = true)
    (hsecond : second.mapFree = true)
    (hfirstRefs : ∀ className ∈ first.refs, Wordlike className)
    (hsecondRefs : ∀ className ∈ second.refs, Wordlike className) :
    language.conventions.spell inner first
        = language.conventions.spell inner second ↔
      language.conventions.worded inner first
        = language.conventions.worded inner second :=
  ⟨worded_eq_of_spell_eq hfirst hsecond hfirstRefs hsecondRefs, fun h => by
    rw [← spell_worded, h, spell_worded]⟩

/-- Nothing but a scalar is spelled like a word, apart from the class of that
name. -/
theorem eq_of_spell_eq {className : String} (hword : Wordlike className)
    (h : language.conventions.spell inner first = className) :
    first = .ref className ∨ ((∃ kind, first = .scalar kind) ∧
      className ∈ language.conventions.scalarWords) := by
  subst h
  match first with
  | .ref _ => exact .inl rfl
  | .scalar kind =>
      exact .inr ⟨⟨kind, rfl⟩, language.spell_scalar_mem inner kind⟩
  | .array item => exact absurd hword (language.not_wordlike_arrayType _)
  | .map key value => exact absurd hword (language.not_wordlike_mapType _ _)

end Conventions

/-! ## Types that a language tells apart -/

/-- A scalar as far as a language tells scalars apart. In TypeScript all numbers
have one type. -/
def Scalar.toldBy (language : Language) : Scalar → Scalar
  | .integer => if language = .typescript then .float else .integer
  | kind => kind

/-- A type as far as a language tells types apart. -/
def DataType.toldBy {ρ : Type} (language : Language) : DataType ρ → DataType ρ
  | .scalar kind => .scalar (kind.toldBy language)
  | .ref target => .ref target
  | .array item => .array (item.toldBy language)
  | .map key value => .map (key.toldBy language) (value.toldBy language)

namespace Conventions

variable {language : Language} {inner : Bool} {first second : DataType String}

theorem spell_scalar_eq_iff (language : Language) (inner : Bool)
    (first second : Scalar) :
    language.conventions.spell inner (.scalar first)
        = language.conventions.spell inner (.scalar second) ↔
      first.toldBy language = second.toldBy language := by
  cases language <;> cases inner <;> cases first <;> cases second <;> decide

/-- Where no class is called like a scalar, the words tell the types. -/
theorem worded_eq_iff
    (hfirst : ∀ className ∈ first.refs,
      className ∉ language.conventions.scalarWords)
    (hsecond : ∀ className ∈ second.refs,
      className ∉ language.conventions.scalarWords) :
    language.conventions.worded inner first
        = language.conventions.worded inner second ↔
      first.toldBy language = second.toldBy language := by
  induction first generalizing inner second with
  | scalar kind =>
      cases second with
      | scalar other =>
          rw [worded, worded, DataType.ref.injEq, spell_scalar_eq_iff,
            DataType.toldBy, DataType.toldBy, DataType.scalar.injEq]
      | ref className =>
          have hfree := hsecond className List.mem_cons_self
          simp [worded, DataType.toldBy, Language.spell_scalar_ne hfree]
      | array _ | map _ _ => simp [worded, DataType.toldBy]
  | ref className =>
      cases second with
      | scalar other =>
          have hfree := hfirst className List.mem_cons_self
          simp [worded, DataType.toldBy, (Language.spell_scalar_ne hfree).symm]
      | ref _ | array _ | map _ _ => simp [worded, DataType.toldBy]
  | array item ih =>
      cases second with
      | array other =>
          have hother : ∀ className ∈ other.refs,
              className ∉ language.conventions.scalarWords := hsecond
          simp [worded, DataType.toldBy, ih hfirst hother]
      | scalar _ | ref _ | map _ _ => simp [worded, DataType.toldBy]
  | map key value ihk ihv =>
      cases second with
      | map otherKey otherValue =>
          simp only [DataType.refs, List.mem_append, or_imp, forall_and]
            at hfirst hsecond
          simp [worded, DataType.toldBy, ihk hfirst.1 hsecond.1,
            ihv hfirst.2 hsecond.2]
      | scalar _ | ref _ | array _ => simp [worded, DataType.toldBy]

end Conventions

/-! ## Class names -/

namespace NameTable

variable {schema : Schema} {conventions : Conventions} {lenient : Bool}
  {table : NameTable}

/-- Every class name opens on a capital, numbered or not. -/
theorem opensOn_get
    (h : (resolve schema conventions lenient).outcome = .ok table)
    {id : ClassId} (hid : id < schema.size) :
    OpensOn isUppercase (table.get id).className := by
  have hlt : id < table.entries.length :=
    Nat.lt_of_lt_of_eq hid (length_of_resolve h).symm
  obtain ⟨plain, hplain, hsettled⟩ := settled_of_resolve h
    (List.getElem?_eq_getElem hid) (List.getElem?_eq_getElem hlt)
  have hget : table.get id = table.entries[id] := by
    rw [get, get?, List.getElem?_eq_getElem hlt]
    rfl
  rw [← hget] at hsettled
  obtain ⟨c, hhead, hupper⟩ :=
    Name.opensOn_className? (ClassNames.plain?_eq_some.mp hplain).1
  refine ⟨c, ?_, hupper⟩
  generalize table.get id = names at hsettled
  cases hsettled with
  | kept free => exact hhead
  | @moved n held least bound =>
      show (Name.numbered plain.className n).toList.head? = some c
      rw [Name.toList_numbered, List.head?_append, hhead]
      rfl

end NameTable

theorem Language.mem_scalarWords_iff {language : Language} {className : String}
    (h : OpensOn isUppercase className) :
    className ∈ language.conventions.scalarWords ↔
      className ∈ language.capitalScalarWords := by
  obtain ⟨c, hhead, hupper⟩ := h
  rw [Language.capitalScalarWords, List.mem_filter, hhead]
  simp [hupper]

theorem DataType.mapFree_mapRefs {ρ σ : Type} (f : ρ → σ) (type : DataType ρ) :
    (type.mapRefs f).mapFree = type.mapFree := by
  induction type with
  | scalar _ | ref _ | map _ _ => rfl
  | array item ih => exact ih

/-! ## The fields of a generation -/

namespace ClassView

/-- What the types of the classes that are generated in a language tell. -/
structure TellTypes (language : Language) (views : List ClassView) : Prop where
  /-- Two fields have one type name if and only if they have the same type once
  the scalars are replaced by their words. -/
  typeName_eq_iff : ∀ first ∈ views.flatMap ClassView.fields,
    ∀ second ∈ views.flatMap ClassView.fields,
      (first.typeName = second.typeName ↔
        language.conventions.worded false first.type
          = language.conventions.worded false second.type)
  /-- The name tells the type, if no class that is referred to is called like a
  scalar. -/
  type_eq_iff : ∀ first ∈ views.flatMap ClassView.fields,
    ∀ second ∈ views.flatMap ClassView.fields,
      (∀ className ∈ first.type.refs ++ second.type.refs,
        className ∉ language.capitalScalarWords) →
      (first.typeName = second.typeName ↔
        first.type.toldBy language = second.type.toldBy language)
  /-- In these languages no class is called so. -/
  capitals_eq_nil : language = .python ∨ language = .typescript →
    language.capitalScalarWords = []
  /-- Nothing else is spelled like a class, except a scalar whose word opens on
  a capital. -/
  apart : ∀ view ∈ views, ∀ inner type,
    language.conventions.spell inner type = view.className →
      type = .ref view.className ∨
        ((∃ kind, type = .scalar kind) ∧
          view.className ∈ language.capitalScalarWords)

/-- What is known of the type of a field: it has no maps, and the names it refers
to are words that open on a capital. -/
theorem type_of_ofShape {language : Language} {schema : Schema} {name : String}
    {document : Json} {table : NameTable} {lenient : Bool} {shape : ClassShape}
    {view : ClassView} {field : FieldView}
    (hschema : (Schema.infer document name).outcome = .ok schema)
    (htable : (NameTable.resolve schema language.conventions
      lenient).outcome = .ok table)
    (hshape : shape ∈ schema.classes)
    (hview : ofShape language.conventions table shape = .ok view)
    (hfield : field ∈ view.fields) :
    field.typeName = language.conventions.typeName field.type ∧
      field.type.mapFree = true ∧
      ∀ className ∈ field.type.refs,
        Wordlike className ∧ OpensOn isUppercase className := by
  obtain ⟨attr, hattr, hmade, -⟩ := List.exists_mem_of_forall₂_of_mem
    (forall₂_fieldViews (ofShape_eq_ok.mp hview).1) hfield
  have htype : field.type
      = attr.type.mapRefs fun id => (table.get id).className := by
    rw [hmade]
    rfl
  refine ⟨by rw [hmade]; rfl, ?_, ?_⟩
  · rw [htype, DataType.mapFree_mapRefs]
    exact Schema.mapFree_of_infer hschema hshape hattr
  · intro className hclass
    rw [htype, DataType.refs_mapRefs] at hclass
    obtain ⟨id, hid, rfl⟩ := List.mem_map.mp hclass
    obtain ⟨i, hi⟩ := List.getElem?_of_mem hshape
    obtain ⟨j, hj⟩ := List.getElem?_of_mem hattr
    have hrefers : schema.Refers (i, j) id := ⟨shape, attr, hi, hj, hid⟩
    exact ⟨(NameTable.wordlike_get htable id).1,
      NameTable.opensOn_get htable (hrefers.lt hschema).2⟩

theorem tellTypes_of_infer {language : Language} {schema : Schema}
    {name : String} {document : Json} {table : NameTable} {lenient : Bool}
    {views : List ClassView}
    (hschema : (Schema.infer document name).outcome = .ok schema)
    (htable : (NameTable.resolve schema language.conventions
      lenient).outcome = .ok table)
    (hviews : List.Forall₂ (fun shape view =>
      ofShape language.conventions table shape = .ok view)
      schema.classes views) :
    TellTypes language views := by
  have htyped : ∀ field ∈ views.flatMap ClassView.fields,
      field.typeName = language.conventions.typeName field.type ∧
        field.type.mapFree = true ∧
        ∀ className ∈ field.type.refs,
          Wordlike className ∧ OpensOn isUppercase className := by
    intro field hfield
    obtain ⟨view, hmem, hfield⟩ := List.mem_flatMap.mp hfield
    obtain ⟨shape, hshape, hview⟩ :=
      List.exists_mem_of_forall₂_of_mem hviews hmem
    exact type_of_ofShape hschema htable hshape hview hfield
  have htypeName : ∀ first ∈ views.flatMap ClassView.fields,
      ∀ second ∈ views.flatMap ClassView.fields,
        (first.typeName = second.typeName ↔
          language.conventions.worded false first.type
            = language.conventions.worded false second.type) := by
    intro first hfirst second hsecond
    obtain ⟨hname, hmap, hrefs⟩ := htyped first hfirst
    obtain ⟨hname', hmap', hrefs'⟩ := htyped second hsecond
    rw [hname, hname']
    exact Conventions.spell_eq_iff hmap hmap'
      (fun className h => (hrefs className h).1)
      (fun className h => (hrefs' className h).1)
  refine ⟨htypeName, ?types, ?capitals, ?apart⟩
  case types =>
    intro first hfirst second hsecond hfree
    obtain ⟨-, -, hrefs⟩ := htyped first hfirst
    obtain ⟨-, -, hrefs'⟩ := htyped second hsecond
    rw [htypeName first hfirst second hsecond]
    refine Conventions.worded_eq_iff (fun className h => ?_)
      (fun className h => ?_)
    · rw [Language.mem_scalarWords_iff (hrefs className h).2]
      exact hfree className (List.mem_append_left _ h)
    · rw [Language.mem_scalarWords_iff (hrefs' className h).2]
      exact hfree className (List.mem_append_right _ h)
  case capitals =>
    rintro (rfl | rfl) <;> decide
  case apart =>
    intro view hview inner type hspelled
    obtain ⟨shape, hshape, hview⟩ :=
      List.exists_mem_of_forall₂_of_mem hviews hview
    obtain ⟨i, hi⟩ := List.getElem?_of_mem hshape
    obtain ⟨hlt, -⟩ := List.getElem?_eq_some_iff.mp hi
    have hname := (ofShape_eq_ok.mp hview).2.1
    rw [Schema.id_of_infer hschema hi] at hname
    have hword : Wordlike view.className :=
      hname ▸ (NameTable.wordlike_get htable i).1
    have hopens : OpensOn isUppercase view.className :=
      hname ▸ NameTable.opensOn_get htable hlt
    refine (Conventions.eq_of_spell_eq hword hspelled).imp_right ?_
    exact And.imp_right (Language.mem_scalarWords_iff hopens).mp

end ClassView

/-- Files that render classes render views of them. -/
theorem SourceFile.exists_views {language : Language} {table : NameTable}
    {shapes : List ClassShape} {files : List SourceFile}
    (h : List.Forall₂ (SourceFile.Renders language table) shapes files) :
    ∃ views, List.Forall₂ (fun shape view =>
        ClassView.ofShape language.conventions table shape = .ok view)
        shapes views ∧
      files = views.map fun view => ⟨view.className, view.fileName,
        language.render view, view.path⟩ := by
  induction h with
  | nil => exact ⟨[], .nil, rfl⟩
  | cons hfile _ ih =>
      obtain ⟨view, hview, rfl⟩ := hfile
      obtain ⟨views, hviews, rfl⟩ := ih
      exact ⟨view :: views, .cons hview hviews, rfl⟩

namespace Request

variable {request : Request} {document : Json} {files : List SourceFile}

/-- In every generation the declared types of two fields, of one class or of
two, are the same if and only if the fields have the same type once the scalars
are replaced by their words. If no class that either refers to is called like a
scalar, this means that they have the same type, in TypeScript up to the kind of
number; and in Python and TypeScript no class is called so. -/
theorem typeNames_of_generateFrom
    (h : (request.generateFrom document).outcome = .ok files) :
    ∃ name schema table views, request.topLevelName = .ok name ∧
      (Schema.infer document name).outcome = .ok schema ∧
      (NameTable.resolve schema request.target.conventions
        request.lenient).outcome = .ok table ∧
      List.Forall₂ (fun shape view =>
        ClassView.ofShape request.target.conventions table shape = .ok view)
        schema.classes views ∧
      files = views.map (fun view => ⟨view.className, view.fileName,
        request.target.render view, view.path⟩) ∧
      ClassView.TellTypes request.target views := by
  obtain ⟨name, schema, table, hname, hschema, htable, hfiles⟩ :=
    generateFrom_eq_ok.mp h
  obtain ⟨views, hviews, hrendered⟩ := SourceFile.exists_views hfiles
  exact ⟨name, schema, table, views, hname, hschema, htable, hviews, hrendered,
    ClassView.tellTypes_of_infer hschema htable hviews⟩

/-- A number, a list of numbers, which are boxed, and an object. -/
def roomDocument : Json :=
  .object [("size", .number (.integer 1)),
    ("sizes", .array [.number (.integer 2)]),
    ("door", .object [("open", .boolean true)])]

def roomSchema : Schema where
  classes := [
    ⟨0, "room", "$", [⟨"size", .scalar .integer⟩,
      ⟨"sizes", .array (.scalar .integer)⟩, ⟨"door", .ref 1⟩]⟩,
    ⟨1, "door", "$.door", [⟨"open", .scalar .boolean⟩]⟩]

def roomTable : NameTable where
  entries := [⟨"Room", "Room", "Room.java"⟩, ⟨"Door", "Door", "Door.java"⟩]

theorem typeNames_of_generateFrom_room :
    ∃ files, (generateFrom ⟨.java, .json, true, some "room"⟩
        roomDocument).outcome = .ok files ∧
      ∃ views, ClassView.TellTypes .java views ∧
        (views.flatMap ClassView.fields).map FieldView.typeName
          = ["int", "List<Integer>", "Door", "boolean"] := by
  have hschema : (Schema.infer roomDocument "room").outcome
      = .ok roomSchema := rfl
  have htable : (NameTable.resolve roomSchema Language.java.conventions
      true).outcome.toOption = some roomTable := by decide
  have hroomNames : (ClassView.ofShape Language.java.conventions roomTable
      roomSchema.classes[0]).toOption.map (·.fields.map FieldView.typeName)
        = some ["int", "List<Integer>", "Door"] := by decide +kernel
  have hdoorNames : (ClassView.ofShape Language.java.conventions roomTable
      roomSchema.classes[1]).toOption.map (·.fields.map FieldView.typeName)
        = some ["boolean"] := by decide +kernel
  obtain ⟨files, hfiles⟩ : ∃ files,
      (generateFrom ⟨.java, .json, true, some "room"⟩
        roomDocument).outcome = .ok files :=
    generateFrom_lenient_ok rfl rfl hschema
  obtain ⟨name, schema, table, views, hname, hown, hresolved, hviews, -,
    htell⟩ := typeNames_of_generateFrom hfiles
  obtain rfl : "room" = name := by injection hname
  obtain rfl : roomSchema = schema := Except.ok.inj (hschema.symm.trans hown)
  have hnamed : (NameTable.resolve roomSchema Language.java.conventions
      true).outcome = .ok table := hresolved
  rw [hnamed] at htable
  obtain rfl : roomTable = table := (Option.some.inj htable).symm
  match views, hviews with
  | [room, door], .cons hroom (.cons hdoor .nil) =>
      have hroom : ClassView.ofShape Language.java.conventions roomTable
          roomSchema.classes[0] = .ok room := hroom
      have hdoor : ClassView.ofShape Language.java.conventions roomTable
          roomSchema.classes[1] = .ok door := hdoor
      rw [hroom] at hroomNames
      rw [hdoor] at hdoorNames
      have hroomNames : room.fields.map FieldView.typeName
          = ["int", "List<Integer>", "Door"] := Option.some.inj hroomNames
      have hdoorNames : door.fields.map FieldView.typeName
          = ["boolean"] := Option.some.inj hdoorNames
      refine ⟨files, hfiles, [room, door], htell, ?_⟩
      rw [List.flatMap_cons, List.flatMap_singleton, List.map_append,
        hroomNames, hdoorNames]
      rfl

/-- A class that is called like the text scalar of Java, and a text. -/
def stringDocument : Json :=
  .object [("a", .null), ("string", .object [("b", .boolean true)])]

def stringSchema : Schema where
  classes := [
    ⟨0, "root", "$", [⟨"a", .scalar .string⟩, ⟨"string", .ref 1⟩]⟩,
    ⟨1, "string", "$.string", [⟨"b", .scalar .boolean⟩]⟩]

def stringTable : NameTable where
  entries := [⟨"Root", "Root", "Root.java"⟩,
    ⟨"String", "String", "String.java"⟩]

/-- Both fields of the root are declared with the type `String`. -/
theorem typeNames_string :
    ∃ root inner, (generateFrom ⟨.java, .json, true, some "root"⟩
        stringDocument).outcome = .ok [root, inner] ∧
      ∃ view, root.text = Language.java.render view ∧
        view.fields.map FieldView.typeName = ["String", "String"] ∧
        view.fields.map FieldView.type = [.scalar .string, .ref "String"] := by
  have hschema : (Schema.infer stringDocument "root").outcome
      = .ok stringSchema := rfl
  have htable : (NameTable.resolve stringSchema Language.java.conventions
      true).outcome.toOption = some stringTable := by decide
  have htypes : (ClassView.ofShape Language.java.conventions stringTable
      stringSchema.classes[0]).toOption.map (fun view =>
        (view.fields.map FieldView.typeName, view.fields.map FieldView.type))
        = some (["String", "String"], [.scalar .string, .ref "String"]) := by
    decide +kernel
  obtain ⟨files, hfiles⟩ : ∃ files,
      (generateFrom ⟨.java, .json, true, some "root"⟩
        stringDocument).outcome = .ok files :=
    generateFrom_lenient_ok rfl rfl hschema
  obtain ⟨name, schema, table, hname, hown, hresolved, hrendered⟩ :=
    generateFrom_eq_ok.mp hfiles
  obtain rfl : "root" = name := by injection hname
  obtain rfl : stringSchema = schema := Except.ok.inj (hschema.symm.trans hown)
  have hnamed : (NameTable.resolve stringSchema Language.java.conventions
      true).outcome = .ok table := hresolved
  rw [hnamed] at htable
  obtain rfl : stringTable = table := (Option.some.inj htable).symm
  match files, hrendered with
  | [root, inner], .cons ⟨view, hview, hroot⟩ (.cons _ .nil) =>
      have hview : ClassView.ofShape Language.java.conventions stringTable
          stringSchema.classes[0] = .ok view := hview
      rw [hview] at htypes
      obtain ⟨hnames, htypes⟩ := Prod.mk.inj (Option.some.inj htypes)
      have htext : root.text = Language.java.render view := by rw [hroot]
      exact ⟨root, inner, hfiles, view, htext, hnames, htypes⟩

end Request
end Recast
