import Recast.Proofs.Disk.Changes

/-!
# Making new things takes nothing away

A directory is made, and a file is opened as a new one, only where a path ends
at a free name. The disk after such a change extends the one before it: every
place that held something holds the same.

Following a path asks about places, so a path that led to an entry leads to the
same entry on every larger disk. Only what was free can have become something
else. This is what makes the two ends of a longer run meet: a file that is made
in the middle of it led nowhere at the beginning, and is still what the path
leads to at the end.
-/

namespace Recast.Disk

open Recast.Path (endsInSeparator)

variable {disk before between after : Disk} {followLast slash : Bool}
  {spare : Nat} {here place : Place} {names : List String} {path : String}
  {target : Target} {held : Entry} {content : ByteArray}

/-- Whatever is on the first disk is on the second, at the same place. -/
structure Extends (before after : Disk) : Prop where
  kept : ∀ place held, before.lookup place = some held →
    after.lookup place = some held
  workingDirectory_eq : after.workingDirectory = before.workingDirectory

theorem Extends.refl (disk : Disk) : Extends disk disk :=
  ⟨fun _ _ h => h, rfl⟩

theorem Extends.trans (h : Extends before between)
    (h' : Extends between after) : Extends before after :=
  ⟨fun place held hheld => h'.kept place held (h.kept place held hheld),
    h'.workingDirectory_eq.trans h.workingDirectory_eq⟩

theorem extends_put {name : String}
    (h : disk.lookup (here ++ [name]) = none) (held : Entry) :
    Extends disk (disk.put (here ++ [name]) held) := by
  refine ⟨fun other entry hentry => ?_, rfl⟩
  have hne : other ≠ here ++ [name] := by
    intro heq
    rw [heq, h] at hentry
    cases hentry
  rw [lookup_put_of_ne disk held (by simp) hne]
  exact hentry

/-! ## Paths on a larger disk -/

theorem Leads.extends (hextends : Extends before after)
    (h : Leads before followLast spare slash here names target)
    (hentry : ∃ place held slash', target = .entry place held slash') :
    Leads after followLast spare slash here names target := by
  induction h with
  | arrived => exact .arrived
  | current _ ih => exact .current (ih hentry)
  | parent _ ih => exact .parent (ih hentry)
  | inside hname hheld _ ih =>
      exact .inside hname (hextends.kept _ _ hheld) (ih hentry)
  | free _ _ =>
      obtain ⟨_, _, _, hfree⟩ := hentry
      cases hfree
  | found hname hheld hdirectory hnolink =>
      exact .found hname (hextends.kept _ _ hheld) hdirectory hnolink
  | kept hname hheld hlast =>
      exact .kept hname (hextends.kept _ _ hheld) hlast
  | link hname hheld hlast _ ih =>
      exact .link hname (hextends.kept _ _ hheld) hlast (ih hentry)

theorem resolve_extends (hextends : Extends before after)
    (h : before.resolve followLast path = .ok (.entry place held slash)) :
    after.resolve followLast path = .ok (.entry place held slash) := by
  obtain ⟨hpath, hleads⟩ := resolve_eq_ok.mp h
  refine resolve_eq_ok.mpr ⟨hpath, ?_⟩
  rw [hextends.workingDirectory_eq]
  exact hleads.extends hextends ⟨_, _, _, rfl⟩

/-- What a path leads to is not lost. -/
theorem entry_extends (hextends : Extends before after)
    (h : before.entry? followLast path = some held) :
    after.entry? followLast path = some held := by
  rw [ entry?] at h ⊢
  split at h
  · next place entry slash hresolve =>
      rw [resolve_extends hextends hresolve]
      exact h
  · cases h

/-! ## Slashes and links at the end of a path

A link that is not followed at the end of a path hands on no slash, and where a
path ends at no link it does not matter whether one would be followed. -/

/-- Does the path ask for a directory? -/
def Target.asksDirectory : Target → Bool
  | .entry _ _ slash => slash
  | .free _ _ slash => slash

theorem Leads.asksDirectory_eq
    (h : Leads disk followLast spare slash here names target)
    (hlast : followLast = false) : target.asksDirectory = slash := by
  induction h with
  | arrived | free | found | kept => rfl
  | current _ ih | parent _ ih | inside _ _ _ ih => exact ih
  | @link _ _ _ _ _ rest _ _ _ hfollows _ ih =>
      cases rest with
      | nil => exact absurd (hfollows rfl) (by simp [hlast])
      | cons _ _ => simpa using ih

theorem Leads.following_last
    (h : Leads disk followLast spare slash here names target)
    (hnolink : ∀ place text slash', target ≠ .entry place (.link text) slash') :
    Leads disk true spare slash here names target := by
  induction h with
  | arrived => exact .arrived
  | current _ ih => exact .current (ih hnolink)
  | parent _ ih => exact .parent (ih hnolink)
  | inside hname hheld _ ih => exact .inside hname hheld (ih hnolink)
  | free hname hheld => exact .free hname hheld
  | found hname hheld hdirectory hlink =>
      exact .found hname hheld hdirectory hlink
  | kept _ _ _ => exact absurd rfl (hnolink _ _ _)
  | link hname hheld _ _ ih =>
      exact .link hname hheld (fun _ => rfl) (ih hnolink)

/-! ## New things -/

theorem extends_makeDirectory (h : disk.makeDirectory path = .ok after) :
    Extends disk after := by
  obtain ⟨directory, name, slash, hfree, rfl⟩ := makeDirectory_eq_ok.mp h
  exact extends_put (resolve_stands hfree) .directory

/-- A file that must be new is put at a free name. -/
theorem write_createNew_eq_ok :
    disk.write .createNew path content = .ok after ↔
      endsInSeparator path = false ∧ ∃ directory name,
        disk.resolve false path = .ok (.free directory name false) ∧
        after = disk.put (directory ++ [name]) (.file content) := by
  rw [write_eq_ok]
  constructor
  · rintro ⟨place, hopen, hplaced⟩
    obtain ⟨hslash, target, hresolve, hlanding⟩ := openFor_eq_ok.mp hopen
    obtain ⟨directory, name, slash, rfl, rfl, -⟩ | ⟨_, -, hmode, -⟩ :=
      landing_cases hlanding
    · have hnone : disk.lookup (directory ++ [name]) = none :=
        resolve_stands hresolve
      have hfree : slash = false :=
        ((resolve_eq_ok.mp hresolve).2.asksDirectory_eq rfl).trans hslash
      subst hfree
      obtain ⟨hfull, -⟩ | ⟨-, rfl⟩ := hplaced
      · rw [hnone] at hfull
        cases hfull
      · exact ⟨hslash, directory, name, hresolve, rfl⟩
    · cases hmode
  · rintro ⟨hslash, directory, name, hresolve, rfl⟩
    have hnone : disk.lookup (directory ++ [name]) = none :=
      resolve_stands hresolve
    refine ⟨directory ++ [name],
      openFor_eq_ok.mpr ⟨hslash, _, hresolve, rfl⟩, .inr ⟨?_, rfl⟩⟩
    rw [hnone]
    exact nofun

theorem extends_write (h : disk.write .createNew path content = .ok after) :
    Extends disk after := by
  obtain ⟨-, directory, name, hfree, rfl⟩ := write_createNew_eq_ok.mp h
  exact extends_put (resolve_stands hfree) (.file content)

/-- Between two disks a file has come to be: the path led to nothing, not even
to a link, and now it leads to a file with this content, at a place where
nothing was. -/
structure Creates (before after : Disk) (path : String)
    (content : ByteArray) : Prop where
  absent : before.entry? false path = none
  stands : ∃ place, before.lookup place = none ∧
    after.resolve false path = .ok (.entry place (.file content) false)

theorem Creates.of_extends (h : Extends before between)
    (hcreates : Creates between after path content) :
    Creates before after path content := by
  obtain ⟨habsent, place, hfree, hstands⟩ := hcreates
  refine ⟨?_, place, ?_, hstands⟩
  · cases hentry : before.entry? false path with
    | none => rfl
    | some held =>
        rw [entry_extends h hentry] at habsent
        cases habsent
  · cases hheld : before.lookup place with
    | none => rfl
    | some held =>
        rw [h.kept place held hheld] at hfree
        cases hfree

theorem Creates.extends (hcreates : Creates before between path content)
    (h : Extends between after) : Creates before after path content := by
  obtain ⟨habsent, place, hfree, hstands⟩ := hcreates
  exact ⟨habsent, place, hfree, resolve_extends h hstands⟩

theorem creates_write (h : disk.write .createNew path content = .ok after) :
    Creates disk after path content := by
  obtain ⟨hslash, directory, name, hfree, rfl⟩ := write_createNew_eq_ok.mp h
  have hnone : disk.lookup (directory ++ [name]) = none := resolve_stands hfree
  refine ⟨?_, directory ++ [name], hnone, ?_⟩
  · rw [ entry?, hslash, Bool.or_false, hfree]
  · have hclear : disk.Clear (directory ++ [name]) :=
      ⟨by simp, by simp [hnone], by simp [hnone]⟩
    rw [resolve_put hclear rfl hfree, Target.withFile, if_pos rfl]

/-- A file that has come to be can be read back. -/
theorem Creates.read (h : Creates before after path content) :
    after.read path = .ok content := by
  obtain ⟨-, place, -, hstands⟩ := h
  obtain ⟨hpath, hleads⟩ := resolve_eq_ok.mp hstands
  have hfollowed : after.resolve true path
      = .ok (.entry place (.file content) false) :=
    resolve_eq_ok.mpr ⟨hpath, hleads.following_last nofun⟩
  rw [Disk.read, hfollowed]
  rfl

end Recast.Disk
