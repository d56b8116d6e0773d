import Recast.Proofs.Command.Batch
import Recast.Proofs.Command.Inputs

/-!
# When a generation may change the disk

A generation goes through three gates before anything on the disk changes.
Every input must have come to its files; the command line must ask for a
directory and not for a dry run; and the look at the targets must find no two
alike and, without force, none that is there already. Each gate leaves the
world as it found it, so a generation that any of them stops has changed
nothing, and has not made the output directory either.

What comes through all of them is one batch, and what changes is what writing
that batch changes.
-/

namespace Recast.Command

open World (perform perform_bind Leaves)

variable {world : World} {colour : Bool} {options : Options}

/-- What lets a generation change the disk: there is a directory to write to,
everything was generated, and the targets have passed the look. -/
structure Cleared (options : Options) (world : World) (directory : String)
    (outputs : List Output) : Prop where
  outDir_eq : options.outDir = some directory
  not_dryRun : options.dryRun = false
  generated : Generated options world outputs
  distinct : (targets directory outputs).Pairwise fun file other =>
    Path.components file.path ≠ Path.components other.path
  absent : options.force = false → ∀ file ∈ targets directory outputs,
    world.disk.isPresent file.path = false

/-- A batch that does not pass the look changes nothing. -/
theorem writeOutputs_eq_or_passed (colour force : Bool) (directory : String)
    (outputs : List Output) :
    (perform (writeOutputs colour force directory outputs) world).2 = world ∨
      Passed world.disk force (targets directory outputs) := by
  rcases hrun : perform (writeOutputs colour force directory outputs) world
    with ⟨result, after⟩
  cases course_of_perform hrun with
  | stopped failure => exact .inl rfl
  | undirected passed directories => exact .inr passed
  | decided passed directories writes => exact .inr passed

/-! ## What is done with the files -/

section Outputs

variable {outputs : List Output}
  (h : perform (generateAll options) world = (.ok outputs, world))

include h

theorem disk_runGenerate_writing {directory : String}
    (hdirectory : options.outDir = some directory)
    (hdry : options.dryRun = false) :
    (perform (runGenerate colour options) world).2.disk
      = (perform (writeOutputs colour options.force directory outputs)
          world).2.disk := by
  rw [runGenerate, perform_bind, h]
  simp only [hdirectory, hdry]
  rw [perform_bind]
  cases hrun : perform (writeOutputs colour options.force directory outputs)
    world with
  | mk result after => cases result <;> rfl

theorem disk_runGenerate_printing
    (hprints : options.outDir = none ∨ options.dryRun = true) :
    (perform (runGenerate colour options) world).2.disk = world.disk := by
  rw [runGenerate, perform_bind, h]
  rcases hprints with hnone | hdry
  · simp only [hnone]
    cases options.json <;> rfl
  · simp only [hdry]
    cases options.outDir <;> cases options.json <;> rfl

end Outputs

/-- A generation leaves the disk exactly as it was, or it was cleared and has
changed what writing its batch changes. -/
theorem run_generate_unchanged_or_cleared (colour : Bool) (options : Options)
    (world : World) :
    (perform (run colour (.generate options)) world).2.disk = world.disk ∨
      ∃ directory outputs, Cleared options world directory outputs ∧
        (perform (run colour (.generate options)) world).2.disk
          = (perform (writeOutputs colour options.force directory outputs)
              world).2.disk := by
  rw [run]
  rcases hall : perform (generateAll options) world with ⟨result, between⟩
  obtain rfl := (leaves_generateAll options).of_perform hall
  cases result with
  | error failure =>
      rw [runGenerate, perform_bind, hall]
      exact .inl rfl
  | ok outputs =>
      cases hdry : options.dryRun with
      | true => exact .inl (disk_runGenerate_printing hall (.inr hdry))
      | false =>
          cases hdirectory : options.outDir with
          | none => exact .inl (disk_runGenerate_printing hall (.inl hdirectory))
          | some directory =>
              rw [disk_runGenerate_writing hall hdirectory hdry]
              rcases writeOutputs_eq_or_passed colour options.force directory
                outputs with hsame | ⟨hdistinct, habsent⟩
              · exact .inl (congrArg World.disk hsame)
              · exact .inr ⟨directory, outputs, ⟨hdirectory, hdry,
                  generated_of_generateAll hall, hdistinct, habsent⟩, rfl⟩

/-- A directory with one document in it. -/
def inputWorld : World :=
  { disk := ⟨[(["a.json"], .file "\x7b\"x\": 1\x7d".toUTF8)], []⟩ }

/-- A generation that is cleared, and writes. -/
example :
    (match Invocation.parse
        ["generate", "-l", "ruby", "-i", "a.json", "-o", "out"] with
      | .ok invocation =>
        (perform (run false invocation.task) inputWorld).2.disk.isPresent
          "out/generated_from_json.rb"
      | .error _ => false) = true := by
  decide +kernel

end Recast.Command
