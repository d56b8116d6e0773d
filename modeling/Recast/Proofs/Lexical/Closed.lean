import Recast.Proofs.Generation.Files
import Recast.Proofs.Lexical.Templates

/-!
# No key breaks out of a generated text

A key reaches a generated text in two ways. As a name it has been cut down to
plain characters, whatever it looked like before; as itself it stands in a
literal, where it is escaped. Both are neutral, so a generated text is as
closed as its template, in every language and for every document.
-/

namespace Recast

open Name (Wordlike)

variable {conventions : Conventions} {language : Language} {table : NameTable}
  {shape : ClassShape} {view : ClassView}

theorem Name.Wordlike.neutral {name : String} (h : Wordlike name) :
    Neutral name :=
  h.plain.neutral

/-- A view made with plain class names and modules holds nothing but neutral
names. -/
theorem ClassView.allNeutral_of_ofShape
    (htable : ∀ id, Wordlike (table.get id).className ∧
      Plain (table.get id).module)
    (h : ClassView.ofShape language.conventions table shape = .ok view) :
    view.AllNeutral := by
  obtain ⟨hfields, hclass, -, -, hdependencies⟩ := ClassView.ofShape_eq_ok.mp h
  refine ⟨?_, ?_, ?_⟩
  · rw [hclass]
    exact (htable shape.id).1.neutral
  · intro field hfield
    obtain ⟨attr, -, hmade, hident⟩ :=
      List.exists_mem_of_forall₂_of_mem (forall₂_fieldViews hfields) hfield
    have htype : field.type.NamesNeutral := by
      intro className hmem
      rw [hmade, fieldView, DataType.refs_mapRefs] at hmem
      obtain ⟨id, -, rfl⟩ := List.mem_map.mp hmem
      exact (htable id).1.neutral
    have haccessor : Neutral field.accessor := by
      rw [hmade]
      exact (Name.plain_raiseFirst hident).neutral
    have htypeName : Neutral field.typeName := by
      rw [hmade] at htype ⊢
      exact neutral_typeName language htype
    exact ⟨hident.neutral, haccessor, htypeName, htype⟩
  · intro dependency hdependency
    rw [hdependencies] at hdependency
    obtain ⟨id, -, rfl⟩ := List.mem_map.mp hdependency
    exact ⟨(htable id).1.neutral, (htable id).2.neutral⟩

/-- Whatever its document, its language and the name of its root, a generation
returns lexically closed texts only. -/
theorem Request.lexicallyClosed_of_generateFrom {request : Request}
    {document : Json} {files : List SourceFile}
    (h : (request.generateFrom document).outcome = .ok files) :
    ∀ file ∈ files, LexicallyClosed file.text := by
  obtain ⟨name, schema, table, -, -, htable, hfiles⟩ := generateFrom_eq_ok.mp h
  intro file hfile
  obtain ⟨shape, -, view, hview, rfl⟩ :=
    List.exists_mem_of_forall₂_of_mem hfiles hfile
  have hneutral := ClassView.allNeutral_of_ofShape
    (fun id => NameTable.wordlike_get htable id) hview
  exact (request.target.neutral_render hneutral).lexicallyClosed

/-- A document whose keys try to leave their literals. -/
def hostileDocument : Json :=
  .object [("a\"]\n", .object [("x'\\", .null), ("b", .null)])]

theorem Request.lexicallyClosed_of_generateFrom_hostile :
    ∃ files, (Request.generateFrom ⟨.java, .json, true, none⟩
        hostileDocument).outcome = .ok files ∧
      ∀ file ∈ files, LexicallyClosed file.text := by
  have hname : (Request.topLevelName ⟨.java, .json, true, none⟩).toOption
      = some "generatedFromJson" := by decide +kernel
  obtain ⟨name, hok⟩ := Request.topLevelName_ok ⟨.java, .json, true, none⟩
  rw [hok] at hname
  obtain rfl : name = "generatedFromJson" := Option.some.inj hname
  have hsome : (Schema.infer hostileDocument
      "generatedFromJson").outcome.toOption.isSome = true := by decide +kernel
  cases hschema : (Schema.infer hostileDocument "generatedFromJson").outcome with
  | error e =>
      rw [hschema] at hsome
      cases hsome
  | ok schema =>
      obtain ⟨files, hfiles⟩ := Request.generateFrom_lenient_ok rfl hok hschema
      exact ⟨files, hfiles, lexicallyClosed_of_generateFrom hfiles⟩

end Recast
