import Recast.Listing
import Recast.Proofs.Json.Printed

/-!
# The listing of generated files loses nothing

The listing is a printed document made of texts, arrays and objects alone, four
levels deep, and no object in it names a key twice. So reading it gives back the
very document: every input with its files, in order, and each text of a file
character for character, whatever stands in it.
-/

namespace Recast

open Json (Legible)

variable {depth : Nat}

theorem SourceFile.legible_toJson (file : SourceFile) :
    Legible (depth + 1) file.toJson := by
  refine .object (by simp) ?_
  simp only [List.forall_mem_cons]
  exact ⟨.string _, .string _, .string _, .string _, nofun⟩

theorem Output.legible_toJson (output : Output) :
    Legible (depth + 3) output.toJson := by
  refine .object (by simp) ?_
  simp only [List.forall_mem_cons]
  refine ⟨.string output.input, .array fun item hitem => ?_, nofun⟩
  obtain ⟨file, -, rfl⟩ := List.mem_map.mp hitem
  exact file.legible_toJson

theorem legible_listing (outputs : List Output) :
    Legible (depth + 4) (.array (outputs.map Output.toJson)) := by
  refine .array fun item hitem => ?_
  obtain ⟨output, -, rfl⟩ := List.mem_map.mp hitem
  exact output.legible_toJson

/-- Reading the listing of any outputs gives an array with one object for each
input, in order: its path, and an array with one object for each of its files,
in order, with the four texts of the file. -/
theorem decode_printListing (outputs : List Output) :
    SourceFormat.json.decode (printListing outputs)
      = .ok (.array (outputs.map fun output => .object [
          ("input", .string output.input),
          ("files", .array (output.files.map fun file => .object [
            ("logical_name", .string file.className),
            ("file_name", .string file.fileName),
            ("source_text", .string file.text),
            ("origin", .string file.origin)]))])) := by
  have hgap : Json.Blank ['\n'] := by
    intro c hc
    rw [List.mem_singleton.mp hc]
    rfl
  have hread : Json.readDocument (printListing outputs).toList
      = .ok (.array (outputs.map Output.toJson)) := by
    have hlegible : Legible 127 (.array (outputs.map Output.toJson)) :=
      legible_listing outputs
    rw [printListing, String.toList_append]
    exact Json.readDocument_print hlegible hgap
  rw [SourceFormat.decode, Json.decode, hread]
  rfl

end Recast
