import Recast.Proofs.Command.Directories
import Recast.Proofs.Disk.Changes

/-!
# What a batch that fails has done

A batch is looked at before it is written, so that it is written as a whole or
not at all. The look changes nothing, and making the output directory changes
no file, however far it gets. What is left are the writes. Each is tried on the
disk that the ones before it have made, but none of them takes anything from
another except the freedom of a place, so files that can be written one by one
can be written one after the other.

A failure therefore leaves the files of before, provided that the look foresees
what the writes meet. It does not always do so. It follows links and sees
nothing where one leads nowhere, while no new file is made in the place of a
link; and where files may be written over, it does not ask whether they can be.
-/

namespace Recast.Command

open World (perform perform_pure perform_lift perform_lift_run perform_change
  perform_bind perform_bind_eq_ok perform_bind_eq_error exists_error_of_perform
  Leaves)
open ExceptT (lift)

variable {ε α : Type} {world after : World} {colour force : Bool}
  {directory path : String} {planned : List Planned}

/-! ## The same files -/

/-- The files on the disks of two worlds are the same. -/
def SameFiles (before after : World) : Prop :=
  Disk.SameFiles before.disk after.disk

theorem SameFiles.refl (world : World) : SameFiles world world :=
  Disk.SameFiles.refl world.disk

theorem SameFiles.trans {first second third : World}
    (h : SameFiles first second) (h' : SameFiles second third) :
    SameFiles first third :=
  Disk.SameFiles.trans h h'

theorem respected_sameFiles : Respected SameFiles where
  refl := SameFiles.refl
  trans := SameFiles.trans
  kind _ world := SameFiles.refl world
  directory path world := by
    show SameFiles world (World.change (·.makeDirectory path) world).2
    rw [World.change]
    cases hdisk : world.disk.makeDirectory path with
    | error e => exact SameFiles.refl world
    | ok disk => exact Disk.sameFiles_makeDirectory hdisk

theorem leaves_makeDirectories (path : String) :
    Leaves SameFiles
      (makeDirectories path : ExceptT OsError (StateM World) Unit) :=
  respected_sameFiles.leaves_makeDirectories path

/-! ## The look -/

/-- Where a file goes. -/
def target (directory : String) (entry : String × SourceFile) : Planned :=
  ⟨Path.join directory entry.2.fileName, entry.1, entry.2⟩

theorem isSome_kind :
    ((Host.kind? path : StateM World (Option NodeKind)) world).1.isSome
      = world.disk.isPresent path :=
  Option.isSome_map

/-- The look at one file asks what its path leads to, unless the path is one
that was planned before. -/
theorem plan_cons {host : Host (StateM World)}
    (entry : String × SourceFile) (rest : List (String × SourceFile)) :
    (plan directory force planned (entry :: rest) :
        ExceptT Failure (StateM World) (List Planned))
      = match clash? planned (target directory entry).path with
        | some other => throw (Cause.sameFile other.input entry.1
            (target directory entry).path).alone
        | none => lift (Host.kind? (target directory entry).path) >>= fun kind =>
          if !force && kind.isSome then
            throw (Cause.fileExists (target directory entry).path).alone
          else plan directory force (planned ++ [target directory entry]) rest := by
  obtain ⟨input, file⟩ := entry
  rw [plan, target]
  cases clash? planned (Path.join directory file.fileName) with
  | some other => rfl
  | none => rfl

/-- The look at one file: it clashes with a file before it, it is there
already, or it is planned. -/
theorem perform_plan_cons (entry : String × SourceFile)
    (rest : List (String × SourceFile)) :
    perform (plan directory force planned (entry :: rest)) world
      = match clash? planned (target directory entry).path with
        | some other =>
          (.error (Cause.sameFile other.input entry.1
            (target directory entry).path).alone, world)
        | none =>
          if !force && world.disk.isPresent (target directory entry).path then
            (.error (Cause.fileExists (target directory entry).path).alone, world)
          else
            perform (plan directory force (planned ++ [target directory entry])
              rest) world := by
  rw [plan_cons]
  split
  · rfl
  · rw [perform_bind, perform_lift]
    simp only [isSome_kind]
    split
    · rfl
    · rfl

/-- The look changes nothing. -/
theorem plan_leaves (entries : List (String × SourceFile)) :
    Leaves Eq (plan directory force planned entries) := by
  intro world
  induction entries generalizing planned with
  | nil => rfl
  | cons entry rest ih =>
      rw [perform_plan_cons]
      split
      · rfl
      · split
        · rfl
        · exact ih

/-- What the look makes sure of: no two files have the same path, and none is
there already unless it may be written over. -/
structure Passed (disk : Disk) (force : Bool) (files : List Planned) :
    Prop where
  distinct : files.Pairwise fun file other =>
    Path.components file.path ≠ Path.components other.path
  absent : force = false → ∀ file ∈ files, disk.isPresent file.path = false

theorem Passed.nil (disk : Disk) : Passed disk force [] :=
  ⟨List.Pairwise.nil, fun _ => nofun⟩

theorem Passed.concat {disk : Disk} {file : Planned}
    (h : Passed disk force planned) (hclash : clash? planned file.path = none)
    (habsent : ¬ (!force && disk.isPresent file.path) = true) :
    Passed disk force (planned ++ [file]) := by
  refine ⟨List.pairwise_append.mpr ⟨h.distinct, List.pairwise_singleton _ _, ?_⟩,
    fun hforce other hother => ?_⟩
  · intro other hother last hlast
    rw [List.mem_singleton] at hlast
    subst hlast
    rw [clash?, List.find?_eq_none] at hclash
    simpa using hclash other hother
  · rw [List.mem_append, List.mem_singleton] at hother
    rcases hother with hother | rfl
    · exact h.absent hforce other hother
    · simpa [hforce] using habsent

/-- What passes the look is the whole batch, in its order. -/
theorem plan_eq_ok {entries : List (String × SourceFile)} {all : List Planned}
    (hpassed : Passed world.disk force planned)
    (h : perform (plan directory force planned entries) world
      = (.ok all, after)) :
    all = planned ++ entries.map (target directory) ∧
      Passed world.disk force all := by
  induction entries generalizing planned with
  | nil =>
      rw [plan, perform_pure] at h
      injection h with hall
      injection hall with hall
      subst hall
      rw [List.map_nil, List.append_nil]
      exact ⟨rfl, hpassed⟩
  | cons entry rest ih =>
      rw [perform_plan_cons] at h
      split at h
      · cases h
      · next hclash =>
          split at h
          · cases h
          · next habsent =>
              obtain ⟨hall, hlast⟩ := ih (hpassed.concat hclash habsent) h
              rw [List.append_assoc, List.singleton_append] at hall
              rw [List.map_cons]
              exact ⟨hall, hlast⟩

/-! ## The writes -/

/-- How files are written. -/
def modeOf (force : Bool) : WriteMode :=
  if force then .overwrite else .createNew

/-- The bytes of a file. -/
def Planned.content (file : Planned) : ByteArray :=
  file.file.text.toUTF8

/-- The world after a file has been written. -/
def written (colour : Bool) (world : World) (path : String) (disk : Disk) :
    World :=
  { world with
    disk := disk
    errors := world.errors ++
      (green colour "Wrote out file" ++ " " ++ path ++ "\n") }

theorem writePlanned_cons {host : Host (StateM World)} (file : Planned)
    (rest : List Planned) :
    (writePlanned colour force (file :: rest) :
        ExceptT Failure (StateM World) (List String))
      = lift (Host.write (modeOf force) file.path file.file.text) >>= fun answer =>
        match answer with
        | .error e => throw (writeFailure file.path e)
        | .ok () => lift (Host.report
            (green colour "Wrote out file" ++ " " ++ file.path ++ "\n"))
          >>= fun _ => writePlanned colour force rest >>= fun paths =>
            pure (file.path :: paths) :=
  rfl

/-- What one write does: it fails and changes nothing, or the rest follows. -/
theorem perform_writePlanned_cons (file : Planned) (rest : List Planned) :
    perform (writePlanned colour force (file :: rest)) world
      = match world.disk.write (modeOf force) file.path file.content with
        | .error e => (.error (writeFailure file.path e), world)
        | .ok disk =>
          perform (writePlanned colour force rest >>= fun paths =>
            pure (file.path :: paths)) (written colour world file.path disk) := by
  rw [writePlanned_cons]
  show perform (lift (World.change
    (·.write (modeOf force) file.path file.content)) >>= _) world = _
  rw [perform_bind, perform_change]
  cases world.disk.write (modeOf force) file.path file.content with
  | error e => rfl
  | ok disk => rfl

/-- Every file can be written on this disk, and no two of them need the same
new file. -/
structure Writable (disk : Disk) (force : Bool) (planned : List Planned) :
    Prop where
  accepts : ∀ file ∈ planned, disk.Accepts (modeOf force) file.path file.content
  apart : planned.Pairwise fun file other =>
    disk.Apart (modeOf force) file.path other.path

/-- What is written leaves the rest writable. -/
theorem Writable.after_write {disk after : Disk} {file : Planned}
    {rest : List Planned} (h : Writable disk force (file :: rest))
    (hwrite : disk.write (modeOf force) file.path file.content = .ok after) :
    Writable after force rest := by
  obtain ⟨haccepts, hapart⟩ := h
  obtain ⟨hfirst, hrest⟩ := List.pairwise_cons.mp hapart
  refine ⟨fun other hother => ?_, ?_⟩
  · exact (haccepts other (List.mem_cons_of_mem _ hother)).after_write hwrite
      (hfirst other hother)
  · have hopen : ∀ other ∈ rest, ∀ place,
        after.openFor (modeOf force) other.path = .ok place →
        disk.openFor (modeOf force) other.path = .ok place := by
      intro other hother place hplace
      obtain ⟨last, hlast⟩ := haccepts other (List.mem_cons_of_mem _ hother)
      obtain ⟨own, hown, -⟩ := Disk.write_eq_ok.mp hlast
      rw [Disk.openFor_write hwrite (hfirst other hother) hown] at hplace
      rw [hown, hplace]
    refine hrest.imp_of_mem fun {file other} hfile hother hdisk hnew place h h' => ?_
    exact hdisk hnew place (hopen file hfile place h) (hopen other hother place h')

/-- Files that are writable are written, all of them. -/
theorem writePlanned_succeeds (h : Writable world.disk force planned) :
    ∃ after, perform (writePlanned colour force planned) world
      = (.ok (planned.map Planned.path), after) := by
  induction planned generalizing world with
  | nil => exact ⟨world, rfl⟩
  | cons file rest ih =>
      obtain ⟨disk, hdisk⟩ := h.accepts file List.mem_cons_self
      rw [perform_writePlanned_cons, hdisk]
      have hrest : Writable (written colour world file.path disk).disk force rest :=
        h.after_write hdisk
      obtain ⟨after, hafter⟩ := ih hrest
      exact ⟨after, perform_bind_eq_ok.mpr ⟨_, _, hafter, rfl⟩⟩

/-- Where every file can be written if the first one can, a failure has written
nothing. -/
theorem writePlanned_fails {failure : Failure}
    (hwritable : (∀ first ∈ planned.head?,
        world.disk.Accepts (modeOf force) first.path first.content) →
      Writable world.disk force planned)
    (h : perform (writePlanned colour force planned) world
      = (.error failure, after)) : after = world := by
  cases planned with
  | nil => cases h
  | cons first rest =>
      by_cases hfirst :
          world.disk.Accepts (modeOf force) first.path first.content
      · have hall : Writable world.disk force (first :: rest) := by
          refine hwritable fun file hfile => ?_
          rw [List.head?_cons, Option.mem_some_iff] at hfile
          rwa [← hfile]
        obtain ⟨last, hlast⟩ := writePlanned_succeeds hall
        rw [hlast] at h
        cases h
      · rw [perform_writePlanned_cons] at h
        split at h
        · injection h with _ hworld
          exact hworld.symm
        · next disk hdisk => exact absurd ⟨disk, hdisk⟩ hfirst

/-! ## The whole batch -/

/-- The files of a batch and where they go. -/
def targets (directory : String) (outputs : List Output) : List Planned :=
  (batch outputs).map (target directory)

theorem mem_targets {outputs : List Output} {output : Output}
    {file : SourceFile} (houtput : output ∈ outputs)
    (hfile : file ∈ output.files) :
    target directory (output.input, file) ∈ targets directory outputs :=
  List.mem_map_of_mem (List.mem_flatMap.mpr
    ⟨output, houtput, List.mem_map_of_mem hfile⟩)

/-- How a batch can go: the look stops it, the output directory cannot be made,
or the writes decide. -/
inductive Course (colour force : Bool) (directory : String)
    (outputs : List Output) (world : World) :
    Except Failure (List String) → World → Prop
  | stopped (failure : Failure) :
    Course colour force directory outputs world (.error failure) world
  | undirected {e : OsError} {made : World}
    (passed : Passed world.disk force (targets directory outputs))
    (directories : perform (makeDirectories directory) world = (.error e, made)) :
    Course colour force directory outputs world
      (.error ((Cause.os e).alone.during (.creatingDirectory directory))) made
  | decided {result : Except Failure (List String)} {made after : World}
    (passed : Passed world.disk force (targets directory outputs))
    (directories : perform (makeDirectories directory) world = (.ok (), made))
    (writes : perform (writePlanned colour force (targets directory outputs)) made
      = (result, after)) :
    Course colour force directory outputs world result after

theorem course_of_perform {outputs : List Output}
    {result : Except Failure (List String)}
    (h : perform (writeOutputs colour force directory outputs) world
      = (result, after)) :
    Course colour force directory outputs world result after := by
  rw [writeOutputs, perform_bind] at h
  rcases hplan : perform (plan directory force [] (batch outputs)) world
    with ⟨looked, between⟩
  obtain rfl := (plan_leaves _).of_perform hplan
  rw [hplan] at h
  cases looked with
  | error failure =>
      injection h with hresult hafter
      subst hresult hafter
      exact .stopped failure
  | ok planned =>
      obtain ⟨rfl, hpassed⟩ := plan_eq_ok (Passed.nil world.disk) hplan
      rw [List.nil_append] at h hpassed
      simp only [perform_bind, perform_lift_run] at h
      rcases hdirs : perform (makeDirectories directory) world with ⟨answer, made⟩
      rw [hdirs] at h
      cases answer with
      | error e =>
          injection h with hresult hafter
          subst hresult hafter
          exact .undirected hpassed hdirs
      | ok _ => exact .decided hpassed hdirs h

/-- The look foresees what the writes meet: a batch that passes it, and whose
first file can be written, can be written. -/
def Foreseen (before made : Disk) (force : Bool) (files : List Planned) :
    Prop :=
  Passed before force files →
  (∀ first ∈ files.head?,
    made.Accepts (modeOf force) first.path first.content) →
  Writable made force files

/-- Writing is all or nothing where the look foresees what the writes meet:
after a failure the files are those of before. -/
theorem writeOutputs_all_or_nothing {outputs : List Output} {failure : Failure}
    (hforeseen : ∀ made,
      perform (makeDirectories directory) world = (.ok (), made) →
      Foreseen world.disk made.disk force
        ((batch outputs).map (target directory)))
    (h : perform (writeOutputs colour force directory outputs) world
      = (.error failure, after)) : SameFiles world after := by
  rw [writeOutputs] at h
  rcases perform_bind_eq_error.mp h with hplan | ⟨planned, between, hplan, hrest⟩
  · rw [(plan_leaves _).of_perform hplan]
    exact SameFiles.refl after
  · obtain rfl := (plan_leaves _).of_perform hplan
    obtain ⟨hall, hpassed⟩ := plan_eq_ok (Passed.nil world.disk) hplan
    rw [perform_bind, perform_lift_run] at hrest
    rcases hdirs : perform (makeDirectories directory) world with ⟨result, made⟩
    have hsame : SameFiles world made :=
      (leaves_makeDirectories directory).of_perform hdirs
    rw [hdirs] at hrest
    cases result with
    | error e =>
        injection hrest with _ hafter
        exact hafter ▸ hsame
    | ok _ =>
        rw [List.nil_append] at hall
        rw [← hall] at hforeseen
        rw [writePlanned_fails (hforeseen made hdirs hpassed) hrest]
        exact hsame

/-- An output directory with a file. -/
def takenWorld : World :=
  { disk := ⟨[(["out"], .directory), (["out", "b.rb"], .file "".toUTF8)], []⟩ }

/-- An output directory with a link that leads nowhere. -/
def linkedWorld : World :=
  { disk := ⟨[(["out"], .directory), (["out", "b.rb"], .link "gone")], []⟩ }

/-- Two files, for a free name and for the name that is taken. -/
def twoFiles : List Output :=
  [⟨"", [⟨"A", "a.rb", "class A\nend\n", "$"⟩,
    ⟨"B", "b.rb", "class B\nend\n", "$"⟩]⟩]

/-- The same files, the one for the name that is taken first. -/
def twoFilesSwapped : List Output :=
  [⟨"", [⟨"B", "b.rb", "class B\nend\n", "$"⟩,
    ⟨"A", "a.rb", "class A\nend\n", "$"⟩]⟩]

/-- The look does not let this batch pass. -/
theorem foreseen_takenWorld (made : World) :
    Foreseen takenWorld.disk made.disk false
      ((batch twoFiles).map (target "out")) := by
  intro hpassed
  have hseen : takenWorld.disk.isPresent "out/b.rb" = true := by
    decide +kernel
  have habsent : takenWorld.disk.isPresent "out/b.rb" = false :=
    hpassed.absent rfl _ (.tail _ (.head _))
  rw [hseen] at habsent
  cases habsent

/-- The first file of this batch cannot be written. -/
theorem foreseen_linkedWorld {made : World}
    (h : perform (makeDirectories "out") linkedWorld = (.ok (), made)) :
    Foreseen linkedWorld.disk made.disk false
      ((batch twoFilesSwapped).map (target "out")) := by
  intro _ hfirst
  have hrefused : ((perform (makeDirectories "out") linkedWorld).2.disk.write
      .createNew "out/b.rb" "class B\nend\n".toUTF8).isOk = false := by
    decide +kernel
  obtain ⟨disk, hdisk⟩ := hfirst _ rfl
  change made.disk.write .createNew "out/b.rb" "class B\nend\n".toUTF8
    = .ok disk at hdisk
  rw [h, hdisk] at hrefused
  cases hrefused

/-- The look stops a batch that meets a file. It lets one pass that meets a
link, and what fails then is the first write. -/
theorem writeOutputs_all_or_nothing_taken :
    (∃ failure after,
      (∀ made, perform (makeDirectories "out") takenWorld = (.ok (), made) →
        Foreseen takenWorld.disk made.disk false
          ((batch twoFiles).map (target "out"))) ∧
      perform (writeOutputs false false "out" twoFiles) takenWorld
        = (.error failure, after) ∧
      SameFiles takenWorld after) ∧
    ∃ failure after,
      (∀ made, perform (makeDirectories "out") linkedWorld = (.ok (), made) →
        Foreseen linkedWorld.disk made.disk false
          ((batch twoFilesSwapped).map (target "out"))) ∧
      (perform (plan "out" false [] (batch twoFilesSwapped))
        linkedWorld).1.isOk = true ∧
      (perform (makeDirectories "out") linkedWorld).1.isOk = true ∧
      perform (writeOutputs false false "out" twoFilesSwapped) linkedWorld
        = (.error failure, after) ∧
      SameFiles linkedWorld after := by
  constructor
  · have hfails : (perform (writeOutputs false false "out" twoFiles)
        takenWorld).1.isOk = false := by decide +kernel
    obtain ⟨failure, after, h⟩ := exists_error_of_perform hfails
    exact ⟨failure, after, fun made _ => foreseen_takenWorld made, h,
      writeOutputs_all_or_nothing (fun made _ => foreseen_takenWorld made) h⟩
  · have hfails : (perform (writeOutputs false false "out" twoFilesSwapped)
        linkedWorld).1.isOk = false := by decide +kernel
    obtain ⟨failure, after, h⟩ := exists_error_of_perform hfails
    exact ⟨failure, after, fun _ => foreseen_linkedWorld, by decide +kernel,
      by decide +kernel, h,
      writeOutputs_all_or_nothing (fun _ => foreseen_linkedWorld) h⟩

/-- The look follows the link and finds nothing, and no new file is made where
a link is; by then the file before it has been written. -/
theorem writeOutputs_half_written :
    ∃ failure after,
      perform (writeOutputs false false "out" twoFiles) linkedWorld
        = (.error failure, after) ∧
      failure.message = "out/b.rb already exists; pass --force to overwrite" ∧
      ¬ SameFiles linkedWorld after := by
  have hfails : (perform (writeOutputs false false "out" twoFiles)
      linkedWorld).1.isOk = false := by decide +kernel
  have hmessage : (match (perform (writeOutputs false false "out" twoFiles)
        linkedWorld).1 with
      | .error failure => failure.message
      | .ok _ => "")
        = "out/b.rb already exists; pass --force to overwrite" := by
    decide +kernel
  have hnew : ((perform (writeOutputs false false "out" twoFiles)
      linkedWorld).2.disk.lookup ["out", "a.rb"]).any
        (fun held => held.isDirectory == false) = true := by decide +kernel
  obtain ⟨failure, after, h⟩ := exists_error_of_perform hfails
  rw [h] at hmessage hnew
  refine ⟨failure, after, h, hmessage, fun hsame => ?_⟩
  obtain ⟨held, hheld, hfile⟩ := (Option.any_eq_true _ _).mp hnew
  have hbefore := (hsame ["out", "a.rb"] held (beq_iff_eq.mp hfile)).mp hheld
  have hnone : linkedWorld.disk.lookup ["out", "a.rb"] = none := by decide
  rw [hnone] at hbefore
  cases hbefore

end Recast.Command
