import Recast.Disk

/-!
# Where a path leads, and what a new file does to it

Following a path asks the disk about one place after the other. `Leads` says
the same as a relation, with one rule for each thing that can be found at a
place, and with the links to spare as its only bound; what is proved about
paths is proved by induction on it.

What a path is said to lead to is really there: an entry stands at its place,
and a free name is free.

The other result is a frame. A file that is put where there was no directory
and no link changes the way of no path: one that would have to pass through
that place did not get through before either. So a path leads where it led,
except that one which ended at that very place now finds the file there.
-/

namespace Recast.Disk

/-! ## Places -/

theorem lookup_put (disk : Disk) {place : Place} (entry : Entry)
    (hplace : place ≠ []) (other : Place) :
    (disk.put place entry).lookup other
      = if other = place then some entry else disk.lookup other := by
  rw [lookup, lookup, put]
  by_cases heq : other = place
  · subst heq
    simp [hplace]
  · by_cases hother : other = []
    · simp [hother, Ne.symm hplace]
    · have hne : ¬ (place == other) = true := by simpa using Ne.symm heq
      have hkept : ∀ held : Place × Entry,
          decide ((held.1 != place) = true ∧ (held.1 == other) = true)
            = (held.1 == other) := by
        intro held
        by_cases hheld : held.1 = other
        · simp [hheld, heq]
        · simp [hheld]
      simp only [List.isEmpty_iff, hother, if_false, heq, List.find?_cons, hne,
        List.find?_filter, hkept]

theorem lookup_put_self (disk : Disk) {place : Place} (entry : Entry)
    (hplace : place ≠ []) :
    (disk.put place entry).lookup place = some entry := by
  rw [lookup_put disk entry hplace, if_pos rfl]

theorem lookup_put_of_ne (disk : Disk) {place other : Place} (entry : Entry)
    (hplace : place ≠ []) (hne : other ≠ place) :
    (disk.put place entry).lookup other = disk.lookup other := by
  rw [lookup_put disk entry hplace, if_neg hne]

/-! ## The ways of paths -/

/-- A name that is looked up. -/
structure IsName (name : String) : Prop where
  ne_current : name ≠ "."
  ne_parent : name ≠ ".."
  fits : name.utf8ByteSize ≤ nameLimit

/-- From a place, with so many links to spare, the names lead to the target. -/
inductive Leads (disk : Disk) (followLast : Bool) :
    Nat → Bool → Place → List String → Target → Prop
  | arrived {spare slash here} :
    Leads disk followLast spare slash here [] (.entry here .directory slash)
  | current {spare slash here rest target} :
    Leads disk followLast spare slash here rest target →
    Leads disk followLast spare slash here ("." :: rest) target
  | parent {spare slash here rest target} :
    Leads disk followLast spare slash here.dropLast rest target →
    Leads disk followLast spare slash here (".." :: rest) target
  | inside {spare slash here name rest target} (isName : IsName name)
    (held : disk.lookup (here ++ [name]) = some .directory) :
    Leads disk followLast spare slash (here ++ [name]) rest target →
    Leads disk followLast spare slash here (name :: rest) target
  | free {spare slash here name} (isName : IsName name)
    (held : disk.lookup (here ++ [name]) = none) :
    Leads disk followLast spare slash here [name] (.free here name slash)
  | found {spare slash here name entry} (isName : IsName name)
    (held : disk.lookup (here ++ [name]) = some entry)
    (nodirectory : entry ≠ .directory) (nolink : ∀ text, entry ≠ .link text) :
    Leads disk followLast spare slash here [name]
      (.entry (here ++ [name]) entry slash)
  | kept {spare slash here name text} (isName : IsName name)
    (held : disk.lookup (here ++ [name]) = some (.link text))
    (last : followLast = false) :
    Leads disk followLast spare slash here [name]
      (.entry (here ++ [name]) (.link text) slash)
  | link {spare slash here name text rest target} (isName : IsName name)
    (held : disk.lookup (here ++ [name]) = some (.link text))
    (last : rest = [] → followLast = true) :
    Leads disk followLast spare
      (slash || rest.isEmpty && Path.endsInSeparator text)
      (if Path.isAbsolute text then [] else here) (steps text ++ rest) target →
    Leads disk followLast (spare + 1) slash here (name :: rest) target

variable {disk : Disk} {followLast slash : Bool} {here : Place}
  {spare : Nat} {names : List String} {path : String} {target : Target}

/-- What is done with a link, with so many to spare. -/
def onLink (disk : Disk) (followLast : Bool) :
    Nat → String → Bool → Place → List String → Except OsError Target
  | 0, _, _, _, _ => .error .tooManyLinks
  | spare + 1, text, slash, here, rest =>
    disk.follow followLast spare
      (slash || rest.isEmpty && Path.endsInSeparator text)
      (if Path.isAbsolute text then [] else here) (steps text ++ rest)

theorem follow_eq (disk : Disk) (followLast : Bool) (spare : Nat) :
    disk.follow followLast spare
      = followWith (onLink disk followLast spare) disk followLast := by
  cases spare <;> rfl

theorem follow_nil : disk.follow followLast spare slash here []
    = .ok (.entry here .directory slash) := by
  rw [follow_eq, followWith]

theorem follow_current {rest : List String} :
    disk.follow followLast spare slash here ("." :: rest)
      = disk.follow followLast spare slash here rest := by
  rw [follow_eq, followWith, if_pos rfl]

theorem follow_parent {rest : List String} :
    disk.follow followLast spare slash here (".." :: rest)
      = disk.follow followLast spare slash here.dropLast rest := by
  rw [follow_eq, followWith, if_neg (by decide), if_pos rfl]

theorem follow_name {name : String} (h : IsName name) {rest : List String} :
    disk.follow followLast spare slash here (name :: rest)
      = match disk.lookup (here ++ [name]) with
        | none =>
          if rest.isEmpty then .ok (.free here name slash) else .error .notFound
        | some .directory =>
          disk.follow followLast spare slash (here ++ [name]) rest
        | some (.link text) =>
          if rest.isEmpty && !followLast then
            .ok (.entry (here ++ [name]) (.link text) slash)
          else onLink disk followLast spare text slash here rest
        | some entry =>
          if rest.isEmpty then .ok (.entry (here ++ [name]) entry slash)
          else .error .notDirectory := by
  have hfits := Nat.not_lt_of_le h.fits
  rw [follow_eq]
  exact (if_neg h.ne_current).trans ((if_neg h.ne_parent).trans (if_neg hfits))

theorem isName_of_follow {name : String} {rest : List String}
    (hcurrent : name ≠ ".") (hparent : name ≠ "..")
    (h : disk.follow followLast spare slash here (name :: rest) = .ok target) :
    IsName name := by
  refine ⟨hcurrent, hparent, Nat.le_of_not_lt fun hlong => ?_⟩
  rw [follow_eq, followWith, if_neg hcurrent, if_neg hparent, if_pos hlong] at h
  cases h

theorem leads_of_follow
    (hlink : ∀ text slash here name rest target, IsName name →
      disk.lookup (here ++ [name]) = some (.link text) →
      (rest = [] → followLast = true) →
      onLink disk followLast spare text slash here rest = .ok target →
      Leads disk followLast spare slash here (name :: rest) target)
    (h : disk.follow followLast spare slash here names = .ok target) :
    Leads disk followLast spare slash here names target := by
  induction names generalizing here with
  | nil =>
      rw [follow_nil] at h
      injection h with h
      subst h
      exact .arrived
  | cons name rest ih =>
      by_cases hcurrent : name = "."
      · subst hcurrent
        rw [follow_current] at h
        exact .current (ih h)
      by_cases hparent : name = ".."
      · subst hparent
        rw [follow_parent] at h
        exact .parent (ih h)
      have hname := isName_of_follow hcurrent hparent h
      rw [follow_name hname] at h
      split at h
      · next hheld =>
          split at h
          · next hrest =>
              rw [List.isEmpty_iff] at hrest
              injection h with h
              subst hrest h
              exact .free hname hheld
          · cases h
      · next hheld => exact .inside hname hheld (ih h)
      · next text hheld =>
          split at h
          · next hkept =>
              rw [Bool.and_eq_true, List.isEmpty_iff, Bool.not_eq_true'] at hkept
              obtain ⟨hrest, hlast⟩ := hkept
              injection h with h
              subst hrest h
              exact .kept hname hheld hlast
          · next hgo =>
              refine hlink _ _ _ _ _ _ hname hheld (fun hrest => ?_) h
              simpa [hrest] using hgo
      · next entry hdirectory hnolink hheld =>
          split at h
          · next hrest =>
              rw [List.isEmpty_iff] at hrest
              injection h with h
              subst hrest h
              exact .found hname hheld (fun heq => hdirectory heq) hnolink
          · cases h

theorem follow_eq_ok :
    disk.follow followLast spare slash here names = .ok target ↔
      Leads disk followLast spare slash here names target := by
  constructor
  · intro h
    induction spare generalizing slash here names target with
    | zero =>
        refine leads_of_follow ?_ h
        intro text slash here name rest target hname hheld hlast hnone
        rw [onLink] at hnone
        cases hnone
    | succ spare ih =>
        refine leads_of_follow ?_ h
        intro text slash here name rest target hname hheld hlast hgo
        rw [onLink] at hgo
        exact .link hname hheld hlast (ih hgo)
  · intro h
    induction h with
    | arrived => rw [follow_nil]
    | current _ ih => rw [follow_current, ih]
    | parent _ ih => rw [follow_parent, ih]
    | inside hname hheld _ ih => simp only [follow_name hname, hheld, ih]
    | free hname hheld => simp [follow_name hname, hheld]
    | found hname hheld hdirectory hnolink => simp [follow_name hname, hheld]
    | kept hname hheld hlast => simp [follow_name hname, hheld, hlast]
    | @link _ _ _ _ _ rest _ hname hheld hlast _ ih =>
        have hgo : (rest.isEmpty && !followLast) = false := by
          cases rest <;> simp [hlast]
        simp [follow_name hname, hheld, hgo, onLink, ih]

/-! ## What a path leads to is there -/

/-- What a target says of the disk. A path may also end at a place that it has
come back to by `..`, or at the working directory; that is a directory by what
it is, and not by what is held there. -/
def Target.Stands (disk : Disk) : Target → Prop
  | .entry place held _ =>
    held = .directory ∨ place ≠ [] ∧ disk.lookup place = some held
  | .free directory name _ => disk.lookup (directory ++ [name]) = none

theorem Leads.stands (h : Leads disk followLast spare slash here names target) :
    target.Stands disk := by
  induction h with
  | arrived => exact .inl rfl
  | current _ ih | parent _ ih | inside _ _ _ ih | link _ _ _ _ ih => exact ih
  | free _ hheld => exact hheld
  | found _ hheld | kept _ hheld => exact .inr ⟨by simp, hheld⟩

/-! ## A new file -/

/-- A place below the root that no path leads through. -/
structure Clear (disk : Disk) (place : Place) : Prop where
  ne_nil : place ≠ []
  no_directory : disk.lookup place ≠ some .directory
  no_link : ∀ text, disk.lookup place ≠ some (.link text)

section NewFile

variable {place other : Place} {content : ByteArray}

theorem Clear.ne_of_directory (h : disk.Clear place)
    (hheld : disk.lookup other = some .directory) : other ≠ place := by
  intro heq
  subst heq
  exact h.no_directory hheld

theorem Clear.ne_of_link (h : disk.Clear place) {text : String}
    (hheld : disk.lookup other = some (.link text)) : other ≠ place := by
  intro heq
  subst heq
  exact h.no_link text hheld

/-- The target after a file has been put at a place. -/
def Target.withFile (place : Place) (content : ByteArray) : Target → Target
  | .entry own held slash =>
    if own = place then .entry place (.file content) slash
    else .entry own held slash
  | .free directory name slash =>
    if directory ++ [name] = place then .entry place (.file content) slash
    else .free directory name slash

/-- A target that is no directory. -/
def Target.isFile : Target → Bool
  | .entry _ held _ => !held.isDirectory
  | .free _ _ _ => true

theorem Leads.put (hclear : disk.Clear place) (hfile : target.isFile = true)
    (h : Leads disk followLast spare slash here names target) :
    Leads (disk.put place (.file content)) followLast spare slash here names
      (target.withFile place content) := by
  have hself := lookup_put_self disk (.file content) hclear.ne_nil
  have hother : ∀ {other}, other ≠ place →
      (disk.put place (.file content)).lookup other = disk.lookup other :=
    lookup_put_of_ne disk _ hclear.ne_nil
  induction h with
  | arrived => cases hfile
  | current _ ih => exact .current (ih hfile)
  | parent _ ih => exact .parent (ih hfile)
  | inside hname hheld _ ih =>
      have hne := hclear.ne_of_directory hheld
      exact .inside hname ((hother hne).trans hheld) (ih hfile)
  | free hname hheld =>
      rw [Target.withFile]
      split
      · next heq =>
          subst heq
          exact .found hname hself nofun nofun
      · next hne => exact .free hname ((hother hne).trans hheld)
  | found hname hheld hdirectory hnolink =>
      rw [Target.withFile]
      split
      · next heq =>
          subst heq
          exact .found hname hself nofun nofun
      · next hne =>
          exact .found hname ((hother hne).trans hheld) hdirectory hnolink
  | kept hname hheld hlast =>
      have hne := hclear.ne_of_link hheld
      rw [Target.withFile, if_neg hne]
      exact .kept hname ((hother hne).trans hheld) hlast
  | link hname hheld hlast _ ih =>
      have hne := hclear.ne_of_link hheld
      exact .link hname ((hother hne).trans hheld) hlast (ih hfile)

end NewFile

/-! ## Whole paths -/

/-- A path that is followed at all. -/
structure IsPath (path : String) : Prop where
  no_nul : ¬ path.toList.contains '\x00' = true
  nonempty : ¬ path.isEmpty = true
  fits : ¬ pathLimit ≤ path.utf8ByteSize

theorem resolve_of_isPath (h : IsPath path) :
    disk.resolve followLast path
      = disk.follow followLast linkLimit (Path.endsInSeparator path)
          (if Path.isAbsolute path then [] else disk.workingDirectory)
          (steps path) := by
  rw [resolve, resolveSteps, if_neg h.no_nul, if_neg h.nonempty, if_neg h.fits]

theorem isPath_of_resolve (h : disk.resolve followLast path = .ok target) :
    IsPath path := by
  rw [resolve, resolveSteps] at h
  split at h
  · cases h
  · next hnul =>
      split at h
      · cases h
      · next hempty =>
          split at h
          · cases h
          · next hlong => exact ⟨hnul, hempty, hlong⟩

theorem resolve_eq_ok :
    disk.resolve followLast path = .ok target ↔
      IsPath path ∧
        Leads disk followLast linkLimit (Path.endsInSeparator path)
          (if Path.isAbsolute path then [] else disk.workingDirectory)
          (steps path) target := by
  rw [← follow_eq_ok]
  constructor
  · intro h
    have hpath := isPath_of_resolve h
    exact ⟨hpath, resolve_of_isPath hpath ▸ h⟩
  · rintro ⟨hpath, h⟩
    rw [resolve_of_isPath hpath]
    exact h

theorem resolve_stands (h : disk.resolve followLast path = .ok target) :
    target.Stands disk :=
  (resolve_eq_ok.mp h).2.stands

theorem resolve_put {place : Place} {content : ByteArray}
    (hclear : disk.Clear place) (hfile : target.isFile = true)
    (h : disk.resolve followLast path = .ok target) :
    (disk.put place (.file content)).resolve followLast path
      = .ok (target.withFile place content) := by
  obtain ⟨hpath, hleads⟩ := resolve_eq_ok.mp h
  exact resolve_eq_ok.mpr ⟨hpath, hleads.put hclear hfile⟩

end Recast.Disk
