import Recast.Proofs.Command.Batch
import Recast.Proofs.Disk.Extends

/-!
# Without force nothing that is there is touched

Making a directory and opening a file as a new one both extend the disk,
whatever else happens. So wherever a batch ends, at its end or at a failure in
the middle, the disk before is still there as a part of the disk after it, and
this needs nothing from the look: a dangling link, a path that leads back
through `..`, or a name that two files share is met by the write itself, which
makes a new file or none.

Nor does it need a system on which all goes well. A look may find nothing where
something is, a directory may be refused, and a write may break off when the
device is full. What is asked of the system is that each call does what it
answers, and that a call which fails does no more than a part of its own work.

A batch that succeeds has made every one of its files. Each was made in the
middle of the run, where its path led to nothing; it led to nothing before,
since what a path leads to is never lost, and the file is still there at the
end for the same reason.
-/

namespace Recast.Command

open World (perform perform_bind_eq_ok perform_lift_eq_ok perform_pure_eq_ok
  perform_throw_ne_ok Leaves)
open ExceptT (lift)

variable {world after : World} {colour force : Bool}
  {directory : String} {planned : List Planned}
  {outputs : List Output}

/-! ## Systems that keep to what their calls mean -/

/-- Looking and reporting leave the disk alone, a directory is made or refused,
and a file is written whole, or refused, or opened and written up to where its
writing breaks off. -/
structure Faithful (host : Host (StateM World)) : Prop where
  kind : ∀ path world, (host.kind? path world).2.disk = world.disk
  report : ∀ text world, (host.report text world).2.disk = world.disk
  makes : ∀ {path world after}, host.makeDirectory path world = (.ok (), after) →
    world.disk.makeDirectory path = .ok after.disk
  refuses : ∀ {path world e after},
    host.makeDirectory path world = (.error e, after) → after.disk = world.disk
  writes : ∀ {mode path text world after},
    host.write mode path text world = (.ok (), after) →
    world.disk.write mode path text.toUTF8 = .ok after.disk
  breaks : ∀ {mode path text world e after},
    host.write mode path text world = (.error e, after) →
    after.disk = world.disk ∨ ∃ count,
      world.disk.write mode path (text.toUTF8.extract 0 count) = .ok after.disk

/-- A world that is a value keeps to it: what fails there has done nothing. -/
theorem faithful_world : Faithful inferInstance where
  kind _ _ := rfl
  report _ _ := rfl
  makes h := by
    obtain ⟨disk, hdisk, rfl⟩ := World.change_eq_ok.mp h
    exact hdisk
  refuses h := by
    obtain ⟨-, rfl⟩ := World.change_eq_error.mp h
    rfl
  writes h := by
    obtain ⟨disk, hdisk, rfl⟩ := World.change_eq_ok.mp h
    exact hdisk
  breaks h := by
    obtain ⟨-, rfl⟩ := World.change_eq_error.mp h
    exact .inl rfl

/-! ## Worlds that grow -/

/-- The disk of the first world is still there in the second. -/
def Grows (before after : World) : Prop :=
  Disk.Extends before.disk after.disk

theorem Grows.refl (world : World) : Grows world world :=
  Disk.Extends.refl world.disk

theorem Grows.trans {first second third : World} (h : Grows first second)
    (h' : Grows second third) : Grows first third :=
  Disk.Extends.trans h h'

theorem Grows.of_disk_eq (h : after.disk = world.disk) : Grows world after := by
  rw [Grows, h]
  exact Disk.Extends.refl world.disk

/-! ## The steps of a batch -/

section Steps

variable {host : Host (StateM World)}

/-- What is planned is the whole batch, in its order. -/
theorem plan_eq_ok_map {entries : List (String × SourceFile)}
    {all : List Planned}
    (h : perform (plan directory force planned entries) world
      = (.ok all, after)) : all = planned ++ entries.map (target directory) := by
  induction entries generalizing planned world with
  | nil =>
      obtain ⟨rfl, -⟩ := perform_pure_eq_ok.mp h
      rw [List.map_nil, List.append_nil]
  | cons entry rest ih =>
      rw [plan_cons] at h
      split at h
      · exact absurd h perform_throw_ne_ok
      · obtain ⟨kind, between, -, h⟩ := perform_bind_eq_ok.mp h
        split at h
        · exact absurd h perform_throw_ne_ok
        · rw [ih h, List.append_assoc, List.singleton_append, List.map_cons]

variable (hhost : Faithful host)

include hhost

theorem Faithful.respected_grows : Respected Grows where
  refl := Grows.refl
  trans := Grows.trans
  kind path world := Grows.of_disk_eq (hhost.kind path world)
  directory path world := by
    rcases h : host.makeDirectory path world with ⟨answer, after⟩
    cases answer with
    | ok _ => exact Disk.extends_makeDirectory (hhost.makes h)
    | error e => exact Grows.of_disk_eq (hhost.refuses h)

theorem Faithful.grows_plan (entries : List (String × SourceFile)) :
    Leaves Grows (plan directory force planned entries) := by
  induction entries generalizing planned with
  | nil => exact Leaves.pure Grows.refl planned
  | cons entry rest ih =>
      rw [plan_cons]
      split
      · exact Leaves.throw Grows.refl _
      · refine Leaves.bind Grows.trans (hhost.respected_grows.leaves_kind _)
          fun kind => ?_
        split
        · exact Leaves.throw Grows.refl _
        · exact ih

theorem Faithful.grows_write (path text : String) (world : World) :
    Grows world (host.write .createNew path text world).2 := by
  rcases h : host.write .createNew path text world with ⟨answer, after⟩
  cases answer with
  | ok _ => exact Disk.extends_write (hhost.writes h)
  | error e =>
      obtain hsame | ⟨count, hpart⟩ := hhost.breaks h
      · exact Grows.of_disk_eq hsame
      · exact Disk.extends_write hpart

theorem Faithful.grows_writePlanned (planned : List Planned) :
    Leaves Grows (writePlanned colour false planned) := by
  induction planned with
  | nil => exact Leaves.pure Grows.refl []
  | cons file rest ih =>
      rw [writePlanned_cons]
      refine Leaves.bind Grows.trans (hhost.grows_write file.path file.file.text)
        fun answer => ?_
      split
      · exact Leaves.throw Grows.refl _
      · refine Leaves.bind Grows.trans
          (fun world => Grows.of_disk_eq (hhost.report _ world)) fun _ => ?_
        exact Leaves.bind Grows.trans ih fun _ => Leaves.pure Grows.refl _

/-- Writes that succeed have made their files. -/
theorem Faithful.creates_writePlanned {paths : List String}
    (h : perform (writePlanned colour false planned) world = (.ok paths, after)) :
    paths = planned.map Planned.path ∧ ∀ file ∈ planned,
      Disk.Creates world.disk after.disk file.path file.content := by
  induction planned generalizing world paths with
  | nil =>
      obtain ⟨rfl, -⟩ := perform_pure_eq_ok.mp h
      exact ⟨rfl, List.forall_mem_nil _⟩
  | cons file rest ih =>
      rw [writePlanned_cons] at h
      obtain ⟨answer, made, hwrite, h⟩ := perform_bind_eq_ok.mp h
      cases answer with
      | error e => exact absurd h perform_throw_ne_ok
      | ok _ =>
          obtain ⟨_, told, htold, h⟩ := perform_bind_eq_ok.mp h
          obtain ⟨others, last, hrest, h⟩ := perform_bind_eq_ok.mp h
          obtain ⟨rfl, rfl⟩ := perform_pure_eq_ok.mp h
          obtain ⟨rfl, hothers⟩ := ih hrest
          have hdisk : world.disk.write .createNew file.path file.content
              = .ok made.disk := hhost.writes (perform_lift_eq_ok.mp hwrite)
          have hsame : told.disk = made.disk := by
            rw [← hhost.report _ made, perform_lift_eq_ok.mp htold]
          rw [← hsame] at hdisk
          have hgrows : Disk.Extends told.disk last.disk :=
            (hhost.grows_writePlanned rest).of_perform hrest
          refine ⟨rfl, List.forall_mem_cons.mpr ⟨?_, fun other hother => ?_⟩⟩
          · exact (Disk.creates_write hdisk).extends hgrows
          · exact (hothers other hother).of_extends (Disk.extends_write hdisk)

/-! ## The whole batch -/

theorem Faithful.grows_writeOutputs (outputs : List Output) :
    Leaves Grows (writeOutputs colour false directory outputs) := by
  rw [writeOutputs]
  refine Leaves.bind Grows.trans (hhost.grows_plan _) fun planned => ?_
  refine Leaves.bind Grows.trans
    (hhost.respected_grows.leaves_makeDirectories directory).run fun answer => ?_
  split
  · exact Leaves.throw Grows.refl _
  · exact hhost.grows_writePlanned planned

/-- Files are written into a directory without force, on a system that may
refuse any call and break off any write. However that ends, every place that
held a file, a link or a directory holds the same, and every path that led
somewhere leads to the same. If it succeeds, the paths that are returned are
those of all files in their order; each led to nothing before, not even to a
link, and each leads to a file now that holds its own text. -/
theorem writeOutputs_keeps {result : Except Failure (List String)}
    (h : perform (writeOutputs colour false directory outputs) world
      = (result, after)) :
    Disk.Extends world.disk after.disk ∧
      (∀ followLast path held,
        world.disk.entry? followLast path = some held →
        after.disk.entry? followLast path = some held) ∧
      ∀ paths, result = .ok paths →
        paths = outputs.flatMap (fun output =>
          output.files.map fun file => Path.join directory file.fileName) ∧
        ∀ output ∈ outputs, ∀ file ∈ output.files,
          Disk.Creates world.disk after.disk
            (Path.join directory file.fileName) file.text.toUTF8 ∧
          after.disk.read (Path.join directory file.fileName)
            = .ok file.text.toUTF8 := by
  have hgrows : Disk.Extends world.disk after.disk :=
    (hhost.grows_writeOutputs outputs).of_perform h
  refine ⟨hgrows, fun _ _ _ => Disk.entry_extends hgrows, ?_⟩
  rintro paths rfl
  rw [writeOutputs] at h
  obtain ⟨planned, seen, hplan, h⟩ := perform_bind_eq_ok.mp h
  obtain ⟨answer, made, hmade, h⟩ := perform_bind_eq_ok.mp h
  cases answer with
  | error e => exact absurd h perform_throw_ne_ok
  | ok _ =>
      obtain ⟨rfl, hcreates⟩ := hhost.creates_writePlanned h
      obtain rfl : planned = targets directory outputs := plan_eq_ok_map hplan
      have hbefore : Grows world made :=
        Grows.trans ((hhost.grows_plan _).of_perform hplan)
          ((hhost.respected_grows.leaves_makeDirectories directory).run.of_perform
            hmade)
      refine ⟨?_, fun output houtput file hfile => ?_⟩
      · rw [targets, batch, List.map_map, List.map_flatMap]
        simp only [List.map_map]
        rfl
      · have hmem : target directory (output.input, file)
            ∈ targets directory outputs := mem_targets houtput hfile
        have hfound := (hcreates _ hmem).of_extends hbefore
        exact ⟨hfound, hfound.read⟩

end Steps

/-- A device that takes so many bytes of a file and no more. -/
@[reducible]
def shortHost (size : Nat) : Host (StateM World) where
  read := Host.read
  kind? := Host.kind?
  hasName := Host.hasName
  list := Host.list
  makeDirectory := Host.makeDirectory
  write mode path text world :=
    if text.toUTF8.size ≤ size then
      World.change (·.write mode path text.toUTF8) world
    else
      match World.change (·.write mode path (text.toUTF8.extract 0 size)) world with
      | (.ok (), after) => (.error (.writing .noSpace), after)
      | (.error e, after) => (.error e, after)
  print := Host.print
  report := Host.report
  log := Host.log

theorem faithful_shortHost (size : Nat) : Faithful (shortHost size) where
  kind := faithful_world.kind
  report := faithful_world.report
  makes := faithful_world.makes
  refuses := faithful_world.refuses
  writes {mode path text world after} h := by
    change (if _ then _ else _) = _ at h
    split at h
    · exact faithful_world.writes h
    · split at h <;> cases h
  breaks {mode path text world e after} h := by
    change (if _ then _ else _) = _ at h
    split at h
    · exact faithful_world.breaks h
    · split at h
      · next part hpart =>
          cases h
          obtain ⟨disk, hdisk, rfl⟩ := World.change_eq_ok.mp hpart
          exact .inr ⟨size, hdisk⟩
      · next failed hfailed =>
          cases h
          obtain ⟨-, rfl⟩ := World.change_eq_error.mp hfailed
          exact .inl rfl

/-- An output directory behind a link, with a file and a dangling link in it. -/
def storeWorld : World :=
  { disk := ⟨[(["store"], .directory), (["out"], .link "store"),
      (["store", "a.rb"], .file "kept".toUTF8),
      (["store", "b.rb"], .link "gone")], []⟩ }

/-- A file in the output directory, and a longer one beside it. -/
def freshFiles : List Output :=
  [⟨"", [⟨"C", "c.rb", "class C\nend\n", "$"⟩]⟩,
    ⟨"", [⟨"Dog", "../d.rb", "class Dog\nend\n", "$"⟩]⟩]

/-- Where there is room both files are written, and where there is not the
second one breaks off. -/
theorem writeOutputs_keeps_store :
    (∃ after,
      perform (@writeOutputs (StateM World) _ (shortHost 14) false false "out"
        freshFiles) storeWorld = (.ok ["out/c.rb", "out/../d.rb"], after) ∧
      Disk.Extends storeWorld.disk after.disk ∧
      after.disk.read "out/../d.rb" = .ok "class Dog\nend\n".toUTF8) ∧
    ∃ failure after,
      perform (@writeOutputs (StateM World) _ (shortHost 12) false false "out"
        freshFiles) storeWorld = (.error failure, after) ∧
      Disk.Extends storeWorld.disk after.disk := by
  constructor
  · have hpaths : (perform (@writeOutputs (StateM World) _ (shortHost 14) false
        false "out" freshFiles) storeWorld).1.toOption
          = some ["out/c.rb", "out/../d.rb"] := by
      decide +kernel
    rcases h : perform (@writeOutputs (StateM World) _ (shortHost 14) false false
      "out" freshFiles) storeWorld with ⟨result, after⟩
    rw [h] at hpaths
    obtain ⟨hgrows, -, hsucceeds⟩ := writeOutputs_keeps (faithful_shortHost 14) h
    cases result with
    | error failure => cases hpaths
    | ok paths =>
        obtain rfl := Option.some.inj hpaths
        obtain ⟨-, hmade⟩ := hsucceeds _ rfl
        exact ⟨after, rfl, hgrows, (hmade _ (.tail _ (.head _)) _ (.head _)).2⟩
  · have hfails : (perform (@writeOutputs (StateM World) _ (shortHost 12) false
        false "out" freshFiles) storeWorld).1.isOk = false := by
      decide +kernel
    obtain ⟨failure, after, h⟩ := World.exists_error_of_perform hfails
    obtain ⟨hgrows, -, -⟩ := writeOutputs_keeps (faithful_shortHost 12) h
    exact ⟨failure, after, h, hgrows⟩

end Recast.Command
