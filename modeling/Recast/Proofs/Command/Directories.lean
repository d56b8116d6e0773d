import Recast.Command.Write
import Recast.Proofs.Command.World

/-!
# What making directories leaves

A directory is made with all that leads to it, one call after the other, and
between the calls the system is only asked. So whatever one new directory
respects, the whole respects, however far it gets, and on whatever system: it is
enough that the relation between the world before and the world after is a
preorder and holds for a single call.
-/

namespace Recast.Command

open World (Leaves)
open ExceptT (lift)

variable [host : Host (StateM World)]

/-- A preorder on worlds that looking at a path and making one directory
respect. -/
structure Respected (R : World → World → Prop) : Prop where
  refl : ∀ world, R world world
  trans : ∀ {first second third}, R first second → R second third →
    R first third
  kind : ∀ path world, R world (host.kind? path world).2
  directory : ∀ path world, R world (host.makeDirectory path world).2

namespace Respected

variable {R : World → World → Prop} {ε : Type}

theorem leaves_kind (hR : Respected R) (path : String) :
    Leaves R (lift (Host.kind? path) :
      ExceptT ε (StateM World) (Option NodeKind)) :=
  hR.kind path

theorem leaves_makeDirectory (hR : Respected R) (path : String) :
    Leaves R (lift (Host.makeDirectory path) :
      ExceptT ε (StateM World) (Except OsError Unit)) :=
  hR.directory path

theorem leaves_makeNearest (hR : Respected R) (missing paths : List String) :
    Leaves R (makeNearest missing paths :
      ExceptT OsError (StateM World) (List String)) := by
  induction paths generalizing missing with
  | nil => exact Leaves.pure hR.refl missing
  | cons path outer ih =>
      rw [makeNearest]
      refine Leaves.bind hR.trans (hR.leaves_makeDirectory path) fun result => ?_
      split
      · exact Leaves.pure hR.refl missing
      · exact ih (path :: missing)
      · refine Leaves.bind hR.trans (hR.leaves_kind path) fun kind => ?_
        split
        · exact Leaves.pure hR.refl missing
        · exact Leaves.throw hR.refl OsError.exists
      · exact Leaves.throw hR.refl _

theorem leaves_makeEach (hR : Respected R) (paths : List String) :
    Leaves R (makeEach paths : ExceptT OsError (StateM World) Unit) := by
  induction paths with
  | nil => exact Leaves.pure hR.refl ()
  | cons path inner ih =>
      rw [makeEach]
      refine Leaves.bind hR.trans (hR.leaves_makeDirectory path) fun result => ?_
      split
      · exact ih
      · next e =>
          refine Leaves.bind hR.trans (hR.leaves_kind path) fun kind => ?_
          split
          · exact ih
          · exact Leaves.throw hR.refl e

theorem leaves_makeDirectories (hR : Respected R) (path : String) :
    Leaves R (makeDirectories path : ExceptT OsError (StateM World) Unit) := by
  rw [makeDirectories]
  split
  · exact Leaves.bind hR.trans (hR.leaves_makeNearest _ _) hR.leaves_makeEach
  · exact Leaves.pure hR.refl ()

end Respected

end Recast.Command
