import Recast.Proofs.Disk.Following

/-!
# What a change of the disk leaves as it was

A new directory stands where nothing was, so every file, link and device is
still there and there is no new one: the two disks have the same files.

A file that is written changes one place. A path that could be written to
before can still be written to, at the same place, since the way there is the
same. The only thing that a file can take from another path is the freedom of
the very place it was put at, and that matters only where a file must be new.
-/

namespace Recast.Disk

open Recast.Path (endsInSeparator)

variable {disk after last : Disk} {mode : WriteMode} {path other : String}
  {place : Place} {content content' : ByteArray}

/-! ## The same files -/

/-- Whatever is no directory is the same on both disks. -/
def SameFiles (before after : Disk) : Prop :=
  ∀ place held, held.isDirectory = false →
    (after.lookup place = some held ↔ before.lookup place = some held)

theorem SameFiles.refl (disk : Disk) : SameFiles disk disk :=
  fun _ _ _ => Iff.rfl

theorem SameFiles.trans (h : SameFiles disk after)
    (h' : SameFiles after last) : SameFiles disk last :=
  fun place held hfile => (h' place held hfile).trans (h place held hfile)

/-! ## Directories -/

theorem makeDirectory_eq_ok :
    disk.makeDirectory path = .ok after ↔ ∃ directory name slash,
      disk.resolve false path = .ok (.free directory name slash) ∧
      after = disk.put (directory ++ [name]) .directory := by
  rw [makeDirectory]
  cases disk.resolve false path with
  | error e => simp [bind, Except.bind]
  | ok target =>
      cases target with
      | entry place held slash =>
          simp [bind, Except.bind, throw, throwThe, MonadExceptOf.throw]
      | free directory name slash =>
          constructor
          · intro h
            injection h with h
            exact ⟨directory, name, slash, rfl, h.symm⟩
          · rintro ⟨_, _, _, hfree, rfl⟩
            injection hfree with hfree
            injection hfree with hdirectory hname
            subst hdirectory hname
            rfl

theorem sameFiles_makeDirectory (h : disk.makeDirectory path = .ok after) :
    SameFiles disk after := by
  obtain ⟨directory, name, slash, hfree, rfl⟩ := makeDirectory_eq_ok.mp h
  have hnone : disk.lookup (directory ++ [name]) = none := resolve_stands hfree
  intro place held hheld
  rw [lookup_put disk .directory (by simp)]
  split
  · next heq =>
      subst heq
      simp only [hnone, Option.some.injEq, reduceCtorEq, iff_false]
      intro heq
      subst heq
      cases hheld
  · exact Iff.rfl

/-! ## Opening -/

/-- Is a link at the end of the path followed when it is opened? -/
def followsLast : WriteMode → Bool
  | .createNew => false
  | .overwrite => true

/-- The file that is opened where a path leads. -/
def landing : WriteMode → Target → Except OsError Place
  | .createNew, .entry _ _ _ => .error .exists
  | .createNew, .free directory name _ => .ok (directory ++ [name])
  | .overwrite, .entry _ .directory _ | .overwrite, .entry _ _ true
  | .overwrite, .free _ _ true => .error .isDirectory
  | .overwrite, .entry _ (.link _) _ => .error .tooManyLinks
  | .overwrite, .entry place _ _ => .ok place
  | .overwrite, .free directory name _ => .ok (directory ++ [name])

theorem openFor_of_separator (h : endsInSeparator path = true) :
    disk.openFor mode path ≠ .ok place := by
  rw [openFor.eq_def, if_pos h]
  cases disk.resolveSteps true path ((steps path).dropLast ++ ["."]) <;>
    simp [bind, Except.bind, throw, throwThe, MonadExceptOf.throw]

theorem openFor_of_not_separator (h : endsInSeparator path = false) :
    disk.openFor mode path
      = (disk.resolve (followsLast mode) path).bind (landing mode) := by
  cases mode with
  | createNew =>
      rw [openFor, h, followsLast]
      cases disk.resolve false path with
      | error e => rfl
      | ok target => cases target <;> rfl
  | overwrite =>
      rw [openFor, h, followsLast]
      cases disk.resolve true path with
      | error e => rfl
      | ok target =>
          rcases target with ⟨place, held, slash⟩ | ⟨directory, name, slash⟩
          · cases held <;> cases slash <;> rfl
          · cases slash <;> rfl

/-- What is opened is where the path leads. -/
theorem openFor_eq_ok :
    disk.openFor mode path = .ok place ↔ endsInSeparator path = false ∧
      ∃ target, disk.resolve (followsLast mode) path = .ok target ∧
        landing mode target = .ok place := by
  cases hslash : endsInSeparator path with
  | true => simp [openFor_of_separator hslash]
  | false =>
      rw [openFor_of_not_separator hslash]
      cases disk.resolve (followsLast mode) path with
      | error e => simp [Except.bind]
      | ok target => simp [Except.bind]

/-- A file that is opened is new, or it is one that is written over. -/
theorem landing_cases {target : Target} (h : landing mode target = .ok place) :
    (∃ directory name slash, target = .free directory name slash ∧
      place = directory ++ [name] ∧ (mode = .overwrite → slash = false)) ∨
    ∃ held, target = .entry place held false ∧ mode = .overwrite ∧
      held.isDirectory = false ∧ ∀ text, held ≠ .link text := by
  rcases target with ⟨own, held, slash⟩ | ⟨directory, name, slash⟩
  · cases mode with
    | createNew => cases h
    | overwrite =>
        cases held with
        | directory => cases h
        | link text => cases slash <;> cases h
        | file _ | full =>
            cases slash with
            | true => cases h
            | false =>
                injection h with h
                subst h
                exact .inr ⟨_, rfl, rfl, rfl, nofun⟩
  · cases mode with
    | createNew =>
        injection h with h
        exact .inl ⟨directory, name, slash, rfl, h.symm, nofun⟩
    | overwrite =>
        cases slash with
        | true => cases h
        | false =>
            injection h with h
            exact .inl ⟨directory, name, false, rfl, h.symm, fun _ => rfl⟩

theorem landing_free {directory : Place} {name : String} {slash : Bool}
    (h : mode = .overwrite → slash = false) :
    landing mode (.free directory name slash) = .ok (directory ++ [name]) := by
  cases mode with
  | createNew => rfl
  | overwrite =>
      rw [h rfl]
      rfl

theorem isFile_of_landing {target : Target}
    (h : landing mode target = .ok place) : target.isFile = true := by
  obtain ⟨directory, name, slash, rfl, -, -⟩ | ⟨held, rfl, -, hfile, -⟩ :=
    landing_cases h
  · rfl
  · rw [Target.isFile, hfile]
    rfl

theorem clear_of_landing {target : Target} (hstands : target.Stands disk)
    (h : landing mode target = .ok place) : disk.Clear place := by
  obtain ⟨directory, name, slash, rfl, rfl, -⟩ | ⟨held, rfl, -, hfile, hnolink⟩ :=
    landing_cases h
  · have hnone : disk.lookup (directory ++ [name]) = none := hstands
    exact ⟨by simp, by simp [hnone], by simp [hnone]⟩
  · rcases hstands with rfl | ⟨hne, hheld⟩
    · cases hfile
    · refine ⟨hne, ?_, ?_⟩
      · rw [hheld]
        rintro ⟨⟩
        cases hfile
      · intro text
        rw [hheld, ne_eq, Option.some.injEq]
        exact hnolink text

/-- A new file does not change what is opened, unless something new was to be
opened at its place. -/
theorem landing_withFile {target : Target} {own : Place}
    (hapart : mode = .createNew → own ≠ place)
    (h : landing mode target = .ok own) :
    landing mode (target.withFile place content) = .ok own := by
  obtain ⟨directory, name, slash, rfl, rfl, hslash⟩ |
    ⟨held, rfl, rfl, hfile, hnolink⟩ := landing_cases h
  · rw [Target.withFile]
    split
    · next heq =>
        cases mode with
        | createNew => exact absurd heq (hapart rfl)
        | overwrite =>
            rw [hslash rfl, heq]
            rfl
    · exact landing_free hslash
  · rw [Target.withFile]
    split
    · next heq =>
        rw [heq]
        rfl
    · exact h

theorem clear_of_openFor (h : disk.openFor mode path = .ok place) :
    disk.Clear place := by
  obtain ⟨-, target, hresolve, hlanding⟩ := openFor_eq_ok.mp h
  exact clear_of_landing (resolve_stands hresolve) hlanding

theorem openFor_put {own : Place} (hclear : disk.Clear place)
    (hapart : mode = .createNew → own ≠ place)
    (h : disk.openFor mode path = .ok own) :
    (disk.put place (.file content)).openFor mode path = .ok own := by
  obtain ⟨hslash, target, hresolve, hlanding⟩ := openFor_eq_ok.mp h
  exact openFor_eq_ok.mpr ⟨hslash, target.withFile place content,
    resolve_put hclear (isFile_of_landing hlanding) hresolve,
    landing_withFile hapart hlanding⟩

/-! ## Writing -/

/-- A device without room takes nothing, and anything else takes all. -/
theorem write_eq_ok :
    disk.write mode path content = .ok after ↔ ∃ place,
      disk.openFor mode path = .ok place ∧
        ((disk.lookup place = some .full ∧ content.isEmpty = true ∧
            after = disk) ∨
          disk.lookup place ≠ some .full ∧
            after = disk.put place (.file content)) := by
  rw [write]
  cases disk.openFor mode path with
  | error e => simp
  | ok place =>
      have hfull : (disk.lookup place).any Entry.isFull = true ↔
          disk.lookup place = some .full := by
        cases disk.lookup place with
        | none => simp
        | some held => cases held <;> simp [Entry.isFull]
      simp only [hfull, Except.ok.injEq, exists_eq_left']
      by_cases hheld : disk.lookup place = some .full
      · rw [if_pos (hfull.mpr hheld)]
        cases content.isEmpty <;> simp [hheld, eq_comm (a := disk)]
      · rw [if_neg (mt hfull.mp hheld)]
        simp only [hheld, Except.ok.injEq, false_and, false_or, not_false_eq_true,
          true_and, ne_eq]
        exact eq_comm

/-- A path that can be written to. -/
def Accepts (disk : Disk) (mode : WriteMode) (path : String)
    (content : ByteArray) : Prop :=
  ∃ after, disk.write mode path content = .ok after

/-- Not both paths want the same new file. -/
def Apart (disk : Disk) (mode : WriteMode) (path other : String) : Prop :=
  mode = .createNew → ∀ place, disk.openFor mode path = .ok place →
    disk.openFor mode other ≠ .ok place

theorem openFor_write (hwrite : disk.write mode path content = .ok after)
    (hapart : disk.Apart mode path other) {own : Place}
    (h : disk.openFor mode other = .ok own) :
    after.openFor mode other = .ok own := by
  obtain ⟨place, hopen, ⟨-, -, rfl⟩ | ⟨-, rfl⟩⟩ := write_eq_ok.mp hwrite
  · exact h
  · refine openFor_put (clear_of_openFor hopen) (fun hnew heq => ?_) h
    exact hapart hnew place hopen (heq ▸ h)

theorem Accepts.after_write (hwrite : disk.write mode path content = .ok after)
    (hapart : disk.Apart mode path other)
    (h : disk.Accepts mode other content') :
    after.Accepts mode other content' := by
  obtain ⟨last, hlast⟩ := h
  obtain ⟨own, hown, hroom⟩ := write_eq_ok.mp hlast
  have hopen := openFor_write hwrite hapart hown
  by_cases hfull : after.lookup own = some .full
  · have hheld : disk.lookup own = some .full := by
      obtain ⟨place, hplace, ⟨-, -, rfl⟩ | ⟨-, rfl⟩⟩ := write_eq_ok.mp hwrite
      · exact hfull
      · rw [lookup_put _ _ (clear_of_openFor hplace).ne_nil] at hfull
        split at hfull
        · cases hfull
        · exact hfull
    obtain ⟨-, hempty, -⟩ | ⟨hnone, -⟩ := hroom
    · exact ⟨after, write_eq_ok.mpr ⟨own, hopen, .inl ⟨hfull, hempty, rfl⟩⟩⟩
    · exact absurd hheld hnone
  · exact ⟨_, write_eq_ok.mpr ⟨own, hopen, .inr ⟨hfull, rfl⟩⟩⟩

end Recast.Disk
