import Recast.Proofs.Generation.Identifiers
import Recast.Proofs.Generation.Imports
import Recast.Proofs.NameTable.Modules
import Recast.Proofs.Names.Roles
import Recast.Proofs.Python.Rendered

/-!
# Which imported modules a language accepts

An import in Python or in Rust spells the module of a class bare, so the
module has to be an identifier of the language and no keyword of it. The
imports are read back from the text of a file here, and the modules compared
with that.

A module is the class name in snake case. The class name opens on a capital
letter or a Roman numeral, and its small form is never empty and never opens
on a digit. Two things can go wrong, and the class name shows both. A dotted
capital leaves its dot in the module. And nothing keeps a module from being a
keyword, as it is done for fields: a class name of one word gets the module
that is this word in small letters, whatever that is.
-/

namespace Recast

open Name (OpensOn Wordlike opening? words)
open Unicode (SameKind isDecimal isNumeric isUppercase)

/-! ## Reading imports -/

namespace Rust

open Python (Import expect expect_bind expect_of_chars readLines readLines_text
  readName readName_append readUntil readUntil_append stops_append)

/-- The import of one class. -/
def readUse (text : List Char) : Option (Import × List Char) := do
  let rest ← expect "use super::" text
  let (module, rest) := readUntil ':' rest
  let rest ← expect "::" rest
  let (className, rest) := readName rest
  let rest ← expect ";\n" rest
  return (⟨module, className⟩, rest)

/-- The imports of other generated classes, behind that of the traits. -/
def readUses (text : List Char) : Option (List Import) := do
  let rest ← expect "use serde::\x7bDeserialize, Serialize\x7d;\n" text
  return (readLines readUse rest.length rest).1

def useLine (dependency : Dependency) : String :=
  "use super::" ++ dependency.module ++ "::" ++ dependency.className ++ ";\n"

theorem readUse_line {dependency : Dependency}
    (hclass : Wordlike dependency.className)
    (hmodule : ':' ∉ dependency.module.toList) (rest : List Char) :
    readUse ((useLine dependency).toList ++ rest)
      = some (⟨dependency.module, dependency.className⟩, rest) := by
  have hends : Python.Stops (";\n".toList ++ rest) := by
    rintro c hc
    injection hc with hc
    rw [← hc]
    decide
  unfold useLine
  simp only [String.toList_append, List.append_assoc]
  rw [readUse]
  simp only [Option.bind_eq_bind, expect_bind]
  rw [readUntil_append hmodule rfl]
  simp only [expect_bind]
  rw [readName_append hclass hends]
  simp only [expect_bind]
  rfl

theorem readUse_end (rest : List Char) :
    readUse ("\n#[derive(Debug, Clone, Default, PartialEq, Serialize, Deserialize)]\n".toList ++
      rest) = none := by
  rw [readUse, expect_of_chars rfl]
  rfl

theorem exists_render_eq (view : ClassView) :
    ∃ more, Language.rust.render view = Template.Rust.header view ++ more := by
  rw [Language.render, Template.render]
  simp only [String.append_assoc]
  exact ⟨_, rfl⟩

theorem readUses_render {view : ClassView}
    (h : ∀ d ∈ view.dependencies,
      Wordlike d.className ∧ ':' ∉ d.module.toList) :
    readUses (Language.rust.render view).toList
      = some (view.dependencies.map fun d => ⟨d.module, d.className⟩) := by
  have hline : (fun d : Dependency =>
      "use super::" ++ d.module ++ "::" ++ d.className ++ ";\n") = useLine := rfl
  obtain ⟨more, hmore⟩ := exists_render_eq view
  rw [hmore]
  unfold Template.Rust.header
  rw [hline]
  simp only [String.toList_append, List.append_assoc]
  rw [readUses]
  simp only [Option.bind_eq_bind, expect_bind]
  rw [readLines_text (fun d hd => readUse_line (h d hd).1 (h d hd).2)
    (readUse_end _)]
  rfl

end Rust

/-- The imports in the header of a file, for the languages that spell modules
bare. -/
def Language.readImports (language : Language) (text : String) :
    Option (List Python.Import) :=
  match language with
  | .python => (Python.readHead text.toList).map (·.1.1)
  | .rust => Rust.readUses text.toList
  | .java | .ruby | .typescript => none

/-- A language that spells modules bare in its imports. -/
def Language.SpellsBare (language : Language) : Prop :=
  language = .python ∨ language = .rust

variable {language : Language} {table : NameTable} {schema : Schema}
  {shape : ClassShape} {view : ClassView} {conventions : Conventions}

theorem readImports_render (hbare : language.SpellsBare)
    (htable : ∀ id, Wordlike (table.get id).className ∧
      Plain (table.get id).module)
    (hview : ClassView.ofShape language.conventions table shape = .ok view) :
    language.readImports (language.render view)
      = some (view.dependencies.map fun d => ⟨d.module, d.className⟩) := by
  rcases hbare with rfl | rfl
  · rw [Language.readImports, Python.render_eq]
    unfold Template.Python.serialization
    simp only [String.toList_append, List.append_assoc]
    rw [Python.readHead_text (ClassView.legible_of_ofShape htable hview)]
    rfl
  · refine Rust.readUses_render fun d hd => ?_
    obtain ⟨-, -, -, -, hdependencies⟩ := ClassView.ofShape_eq_ok.mp hview
    rw [hdependencies] at hd
    obtain ⟨id, -, rfl⟩ := List.mem_map.mp hd
    exact ⟨(htable id).1, (htable id).2.not_mem (by decide)⟩

/-! ## Modules of classes -/

namespace Name

/-- A class name of one word that is a keyword in small letters. -/
def IsRaisedKeyword (keywords : List String) (className : String) : Prop :=
  ∃ word, words className.toList = [word] ∧
    String.ofList (Unicode.lower word) ∈ keywords

/-- No keyword has an underscore, so a module of several words is none. -/
theorem snakeCase_mem_keywords_iff {name : String}
    (hwords : words name.toList ≠ []) :
    String.ofList (snakeCase name.toList) ∈ language.conventions.keywords ↔
      IsRaisedKeyword language.conventions.keywords name := by
  rw [IsRaisedKeyword, snakeCase]
  cases hsplit : words name.toList with
  | nil => exact absurd hsplit hwords
  | cons first others =>
      cases others with
      | nil => simp
      | cons second others =>
          have hunderscore : '_' ∈
              ['_'].intercalate ((first :: second :: others).map Unicode.lower) := by
            simp [List.intercalate_cons_cons]
          refine iff_of_false ?_ ?_
          · refine not_keyword_of_underscore ?_
            rwa [String.toList_ofList]
          · rintro ⟨word, hone, -⟩
            cases hone

theorem opening?_of_className? {key name : String}
    (hcase : conventions.classCase = .pascal)
    (h : className? conventions key = some name) :
    ∃ c, opening? name.toList = some c ∧ isUppercase c = true := by
  obtain ⟨c, hhead, hupper⟩ := opensOn_className? h
  obtain ⟨rest, hname⟩ := List.head?_eq_some_iff.mp hhead
  refine ⟨c, ?_, hupper⟩
  rw [opening?, hname,
    List.find?_cons_of_pos (isWordChar_of_pascal hcase h hhead hupper)]

theorem opening?_numbered {name : String} {c : Char} (n : Nat)
    (h : opening? name.toList = some c) :
    opening? (numbered name n).toList = some c := by
  rw [opening?] at h ⊢
  rw [toList_numbered, List.find?_append, h]
  rfl

/-- An uppercase character is no digit, nor is its small form. -/
theorem isDecimal_of_isUppercase {c : Char} (h : isUppercase c = true) :
    isDecimal c = false := by
  rw [Bool.eq_false_iff]
  intro hdecimal
  rw [isDecimal, beq_iff_eq] at hdecimal
  have hnumeric : isNumeric c = true := by
    rw [isNumeric, hdecimal]
    rfl
  rw [Unicode.category_of_isRoman (isRoman_of_isUppercase h hnumeric)]
    at hdecimal
  cases hdecimal

end Name

namespace NameTable

/-- In capitalized words every class name opens on an uppercase letter or
number, numbered or not. -/
theorem opening?_of_resolve {lenient : Bool}
    (hcase : conventions.classCase = .pascal)
    (h : (resolve schema conventions lenient).outcome = .ok table) :
    ∀ names ∈ table.entries,
      ∃ c, opening? names.className.toList = some c ∧ isUppercase c = true := by
  intro names hnames
  obtain ⟨i, hi⟩ := List.getElem?_of_mem hnames
  obtain ⟨hlt, -⟩ := List.getElem?_eq_some_iff.mp hi
  rw [length_of_resolve h] at hlt
  obtain ⟨plain, hplain, hsettled⟩ :=
    settled_of_resolve h (List.getElem?_eq_getElem hlt) hi
  obtain ⟨c, hopening, hupper⟩ := Name.opening?_of_className? hcase
    (ClassNames.plain?_eq_some.mp hplain).1
  refine ⟨c, ?_, hupper⟩
  cases hsettled with
  | kept free => exact hopening
  | moved held least bound => exact Name.opening?_numbered _ hopening

end NameTable

/-- A module that a language accepts where it is spelled bare. -/
structure Language.Accepts (language : Language) (module : String) : Prop where
  ne : module ≠ ""
  wordlike : Wordlike module
  opens : ¬ OpensOn isDecimal module
  free : module ∉ language.conventions.keywords

/-- The module of a class is never empty and never opens on a digit. It is
accepted unless the class name shows one of two faults. -/
theorem accepts_of_resolve {lenient : Bool} (hbare : language.SpellsBare)
    (h : (NameTable.resolve schema language.conventions lenient).outcome
      = .ok table) :
    ∀ names ∈ table.entries, names.module ≠ "" ∧
      ¬ OpensOn isDecimal names.module ∧
      (language.Accepts names.module ↔ 'İ' ∉ names.className.toList ∧
        ¬ Name.IsRaisedKeyword language.conventions.keywords
          names.className) := by
  have hcase : language.conventions.classCase = .pascal := by
    rcases hbare with rfl | rfl <;> rfl
  have hnaming : language.conventions.fileNaming = .snake := by
    rcases hbare with rfl | rfl <;> rfl
  intro names hnames
  obtain ⟨c, hopening, hupper⟩ := NameTable.opening?_of_resolve hcase h names hnames
  obtain ⟨d, hd, -, hkind⟩ := Name.head?_snakeCase hopening
  have hwords : words names.className.toList ≠ [] := by
    rw [Ne, Name.words_eq_nil_iff, hopening]
    exact Option.some_ne_none c
  have hmodule := NameTable.module_of_pascal hcase h names hnames
  rw [Name.moduleOf, hnaming] at hmodule
  simp only at hmodule
  rw [hmodule]
  have hne : String.ofList (Name.snakeCase names.className.toList) ≠ "" := by
    intro hempty
    rw [String.ofList_eq_empty_iff.mp hempty] at hd
    cases hd
  have hopens : ¬ OpensOn isDecimal
      (String.ofList (Name.snakeCase names.className.toList)) := by
    rintro ⟨e, he, hdecimal⟩
    rw [String.toList_ofList, hd] at he
    injection he with he
    rw [← he, hkind.decimal, Name.isDecimal_of_isUppercase hupper] at hdecimal
    cases hdecimal
  refine ⟨hne, hopens, ?_⟩
  rw [← Name.wordlike_snakeCase_iff, ← Name.snakeCase_mem_keywords_iff hwords]
  exact ⟨fun haccepts => ⟨haccepts.wordlike, haccepts.free⟩,
    fun hboth => ⟨hne, hboth.1, hopens, hboth.2⟩⟩

/-! ## Generated files -/

namespace Request

variable {request : Request} {document : Json} {files : List SourceFile}

/-- Each file of a generation imports the classes that its class refers to,
from the modules that the table has for them. Such a module is never empty and
does not open on a digit, and it is an identifier and no keyword exactly if the
class name has no dotted capital in it and is not a keyword raised. -/
theorem imports_of_generateFrom (hbare : request.target.SpellsBare)
    (h : (request.generateFrom document).outcome = .ok files) :
    ∃ name schema table, request.topLevelName = .ok name ∧
      (Schema.infer document name).outcome = .ok schema ∧
      (NameTable.resolve schema request.target.conventions
        request.lenient).outcome = .ok table ∧
      List.Forall₂ (fun shape file => ∃ imports,
        request.target.readImports file.text = some imports ∧
        imports = shape.refs.eraseDups.map (fun id =>
          ⟨(table.get id).module, (table.get id).className⟩) ∧
        ∀ entry ∈ imports, entry.module ≠ "" ∧
          ¬ OpensOn isDecimal entry.module ∧
          (request.target.Accepts entry.module ↔
            'İ' ∉ entry.className.toList ∧
              ¬ Name.IsRaisedKeyword request.target.conventions.keywords
                entry.className))
        schema.classes files := by
  obtain ⟨name, schema, table, hname, hschema, htable, hfiles⟩ :=
    generateFrom_eq_ok.mp h
  refine ⟨name, schema, table, hname, hschema, htable, ?_⟩
  have hwithin := ClassShape.within_of_infer hschema
  have haccepts := accepts_of_resolve hbare htable
  have hlength := NameTable.length_of_resolve htable
  refine ((List.forall₂_and_left _ _).mpr ⟨hwithin, hfiles⟩).imp ?_
  rintro shape file ⟨hshape, view, hview, rfl⟩
  obtain ⟨-, -, -, -, hdependencies⟩ := ClassView.ofShape_eq_ok.mp hview
  refine ⟨_, readImports_render hbare (NameTable.wordlike_get htable) hview, ?_,
    ?_⟩
  · rw [hdependencies, List.map_map]
    rfl
  · intro entry hentry
    obtain ⟨dependency, hdependency, rfl⟩ := List.mem_map.mp hentry
    rw [hdependencies] at hdependency
    obtain ⟨id, hid, rfl⟩ := List.mem_map.mp hdependency
    have hlt := hshape.refs_lt id (List.mem_eraseDups.mp hid)
    exact haccepts _ (List.mem_of_getElem?
      (NameTable.get_of_lt (Nat.lt_of_lt_of_eq hlt hlength.symm)))

/-- A key that is a keyword and another word. -/
def typeOfDocument : Json :=
  .object [("type_of", .object [("x", .null)])]

def typeOfSchema : Schema where
  classes := [
    ⟨0, "root", "$", [⟨"type_of", .ref 1⟩]⟩,
    ⟨1, "type_of", "$.type_of", [⟨"x", .scalar .string⟩]⟩]

theorem imports_of_generateFrom_typeOf :
    Language.rust.SpellsBare ∧
      ∃ file files, (generateFrom ⟨.rust, .json, true, some "root"⟩
          typeOfDocument).outcome = .ok (file :: files) ∧
        Language.rust.readImports file.text = some [⟨"type_of", "TypeOf"⟩] ∧
        Language.rust.Accepts "type_of" := by
  have hbare : Language.rust.SpellsBare := .inr rfl
  have hschema : (Schema.infer typeOfDocument "root").outcome
      = .ok typeOfSchema := rfl
  have hentries : (NameTable.resolve typeOfSchema .rust true).outcome.toOption
      = some ⟨[⟨"Root", "root", "root.rs"⟩,
          ⟨"TypeOf", "type_of", "type_of.rs"⟩]⟩ := by decide +kernel
  obtain ⟨files, hfiles⟩ : ∃ files,
      (generateFrom ⟨.rust, .json, true, some "root"⟩
        typeOfDocument).outcome = .ok files :=
    generateFrom_lenient_ok rfl rfl hschema
  obtain ⟨name, schema, table, hname, hown, htable, himports⟩ :=
    imports_of_generateFrom hbare hfiles
  obtain rfl : "root" = name := by injection hname
  obtain rfl : typeOfSchema = schema :=
    Except.ok.inj (hschema.symm.trans hown)
  have htable' : (NameTable.resolve typeOfSchema .rust true).outcome
      = .ok table := htable
  rw [htable'] at hentries
  obtain rfl := Option.some.inj hentries
  match files, himports with
  | file :: files, .cons ⟨imports, hread, himports, haccepts⟩ _ =>
      obtain rfl : imports = [⟨"type_of", "TypeOf"⟩] := himports
      refine ⟨hbare, file, files, hfiles, hread, ?_⟩
      refine (haccepts _ List.mem_cons_self).2.2.mpr ⟨by decide, ?_⟩
      rintro ⟨word, hword, -⟩
      have hwords : (words "TypeOf".toList).length = 2 := by decide
      rw [hword] at hwords
      cases hwords

/-- A key that is a keyword. -/
def importDocument : Json :=
  .object [("import", .object [("a", .null)])]

def importSchema : Schema where
  classes := [
    ⟨0, "root", "$", [⟨"import", .ref 1⟩]⟩,
    ⟨1, "import", "$.import", [⟨"a", .scalar .string⟩]⟩]

/-- The module of such a key is the keyword, and the file of the root spells it
in an import. -/
theorem imports_keyword_module :
    ∃ file files, (generateFrom ⟨.python, .json, true, some "root"⟩
        importDocument).outcome = .ok (file :: files) ∧
      Language.python.readImports file.text = some [⟨"import", "Import"⟩] ∧
      ¬ Language.python.Accepts "import" := by
  have hschema : (Schema.infer importDocument "root").outcome
      = .ok importSchema := rfl
  have hentries : (NameTable.resolve importSchema .python true).outcome.toOption
      = some ⟨[⟨"Root", "root", "root.py"⟩,
          ⟨"Import", "import", "import.py"⟩]⟩ := by decide +kernel
  obtain ⟨files, hgenerated⟩ : ∃ files,
      (generateFrom ⟨.python, .json, true, some "root"⟩
        importDocument).outcome = .ok files :=
    generateFrom_lenient_ok rfl rfl hschema
  obtain ⟨name, schema, table, hname, hown, htable, hfiles⟩ :=
    generateFrom_eq_ok.mp hgenerated
  obtain rfl : "root" = name := by injection hname
  obtain rfl : importSchema = schema :=
    Except.ok.inj (hschema.symm.trans hown)
  have hresolve : (NameTable.resolve importSchema .python true).outcome
      = .ok table := htable
  rw [hresolve] at hentries
  obtain rfl := Option.some.inj hentries
  match files, hfiles with
  | file :: files, .cons ⟨view, hview, hfile⟩ _ =>
      have hread := readImports_render (.inl rfl)
        (NameTable.wordlike_get htable) hview
      obtain ⟨-, -, -, -, hdependencies⟩ := ClassView.ofShape_eq_ok.mp hview
      refine ⟨file, files, hgenerated, ?_, fun haccepts =>
        haccepts.free (by decide)⟩
      rw [hfile]
      refine hread.trans ?_
      rw [hdependencies]
      rfl

end Request
end Recast
