import Mathlib.Data.List.Forall2
import Recast.Command.Run
import Recast.Proofs.Command.World

/-!
# Inputs are found, read and generated from without a trace

Everything before the first write only asks: the search for the paths that
match a pattern looks into directories, and a source file is read. So the world
after it is the world before it, whatever came of it, and the inputs are all
seen on one and the same disk.

If all of it succeeds, every input has come the whole way, each on its own: its
path was found, its bytes were read and are Unicode, its document was decoded,
the part that is asked for is there, and files were generated from it. What a
generation logs leaves no trace in the world either.
-/

namespace Recast.Command

open World (perform perform_bind_eq_ok perform_lift_eq_ok perform_pure_eq_ok
  perform_throw_ne_ok Leaves)
open ExceptT (lift)

variable {ε α β : Type} {world after : World} {options : Options}
  {several : Bool} {path input : String}

/-! ## Computations that only ask -/

/-- The world is as before. -/
def Asks (x : StateM World α) : Prop :=
  ∀ world, (x world).2 = world

theorem asks_pure (a : α) : Asks (pure a : StateM World α) :=
  fun _ => rfl

theorem Asks.bind {x : StateM World α} {f : α → StateM World β} (hx : Asks x)
    (hf : ∀ a, Asks (f a)) : Asks (x >>= f) := by
  intro world
  show (f (x world).1 (x world).2).2 = world
  rw [hf, hx]

theorem asks_ite {p : Prop} [Decidable p] {x y : StateM World α} (hx : Asks x)
    (hy : Asks y) : Asks (if p then x else y) := by
  split
  · exact hx
  · exact hy

theorem asks_flatMapM {f : α → StateM World (List β)} (hf : ∀ a, Asks (f a))
    (as : List α) : Asks (as.flatMapM f) := by
  induction as with
  | nil => exact asks_pure []
  | cons a as ih =>
      rw [List.flatMapM_cons]
      exact (hf a).bind fun _ => ih.bind fun _ => asks_pure _

theorem Asks.leaves {x : StateM World α} (h : Asks x) :
    Leaves Eq (lift x : ExceptT ε (StateM World) α) :=
  fun world => (h world).symm

theorem asks_kind (path : String) :
    Asks (Host.kind? path : StateM World (Option NodeKind)) :=
  fun _ => rfl

theorem asks_hasName (path : String) :
    Asks (Host.hasName path : StateM World Bool) :=
  fun _ => rfl

theorem asks_list (path : String) :
    Asks (Host.list path : StateM World (Except OsError (List String))) :=
  fun _ => rfl

theorem asks_read (path : String) :
    Asks (Host.read path : StateM World (Except OsError ByteArray)) :=
  fun _ => rfl

theorem asks_log (events : List Event) :
    Asks (Host.log events : StateM World Unit) :=
  fun _ => rfl

/-! ## The search for paths -/

section Search

open Glob

variable {search : Search (StateM World)} {onlyDirectories : Bool}
  (hsearch : ∀ patterns path isDir, Asks (search patterns path isDir))

theorem asks_isDirectory (path : String) :
    Asks (Glob.isDirectory path : StateM World Bool) :=
  (asks_kind path).bind fun _ => asks_pure _

theorem asks_leadsOn (isDir : Bool) (segment path : String) :
    Asks (leadsOn isDir segment path : StateM World Bool) := by
  rw [leadsOn]
  refine asks_ite (asks_pure isDir) ((asks_kind path).bind fun kind => ?_)
  cases kind.isSome with
  | true => exact asks_pure true
  | false => exact (asks_hasName path).bind fun found => asks_pure _

include hsearch

theorem asks_matchHere (patterns : List Pattern) (path : String) (isDir : Bool) :
    Asks (matchHere search onlyDirectories patterns path isDir) := by
  rw [matchHere.eq_def]
  split
  · exact asks_ite (asks_pure [])
      (asks_ite (hsearch _ path isDir) (asks_ite (asks_pure _) (asks_pure [])))
  · exact asks_pure []

theorem asks_settled (patterns : List Pattern) (path : String) :
    Asks (settled search onlyDirectories patterns path) := by
  rw [settled]
  exact (asks_isDirectory path).bind fun isDir =>
    asks_ite (hsearch patterns path isDir) (asks_ite (asks_pure _) (asks_pure []))

theorem asks_visit (patterns : List Pattern) (path : String) :
    Asks (visit search onlyDirectories patterns path) := by
  rw [visit]
  refine (asks_isDirectory path).bind fun isDir => ?_
  split
  · exact asks_pure []
  · next p ps =>
      refine asks_ite (asks_matchHere hsearch _ path isDir) ?_
      dsimp only
      refine asks_ite ((asks_matchHere hsearch _ path isDir).bind fun here => ?_)
        ((asks_pure _).bind fun here => ?_)
      all_goals
        exact asks_ite ((hsearch _ path isDir).bind fun inside => asks_pure _)
          ((asks_pure []).bind fun inside => asks_pure _)

end Search

theorem asks_expand (onlyDirectories : Bool) (depth : Nat)
    (patterns : List Glob.Pattern) (path : String) (isDir : Bool) :
    Asks (Glob.expand onlyDirectories depth patterns path isDir :
      StateM World (List String)) := by
  induction depth generalizing patterns path isDir with
  | zero => exact asks_pure []
  | succ depth ih =>
      rw [Glob.expand.eq_def]
      cases patterns with
      | nil => exact asks_pure []
      | cons p ps =>
          dsimp only
          split
          · refine Asks.bind (asks_leadsOn isDir _ _) fun leads => ?_
            exact asks_ite (asks_settled ih ps _) (asks_pure [])
          · refine asks_ite (asks_pure []) ?_
            refine Asks.bind (asks_list path) fun names => ?_
            refine Asks.bind (asks_flatMapM (fun dot => asks_settled ih ps _) _)
              fun dots => ?_
            exact Asks.bind (asks_flatMapM (fun name => asks_visit ih (p :: ps) _) _)
              fun found => asks_pure _

theorem asks_matching (text : String) :
    Asks (Glob.matching text :
      StateM World (Except Glob.PatternError (List String))) := by
  rw [Glob.matching]
  split
  · exact asks_pure _
  · exact Asks.bind (asks_isDirectory _) fun isDir =>
      Asks.bind (asks_expand _ _ _ _ _) fun paths => asks_pure _

/-! ## From inputs to paths -/

/-- The paths that an input stands for: itself, or all that match it. -/
inductive StandsFor (world : World) (input : String) : List String → Prop
  | itself (plain : Glob.isPattern input = false) :
    StandsFor world input [input]
  | matching {paths : List String} (pattern : Glob.isPattern input = true)
    (found : ((Glob.matching input : StateM World _) world).1 = .ok paths)
    (nonempty : paths ≠ []) : StandsFor world input paths

theorem leaves_inputPaths (input : String) :
    Leaves Eq (inputPaths input : ExceptT Failure (StateM World) (List String)) := by
  rw [inputPaths]
  split
  · refine Leaves.bind Eq.trans (asks_matching input).leaves fun found => ?_
    split
    · exact Leaves.throw Eq.refl _
    · exact Leaves.throw Eq.refl _
    · exact Leaves.pure Eq.refl _
  · exact Leaves.pure Eq.refl _

theorem standsFor_of_inputPaths {paths : List String}
    (h : perform (inputPaths input) world = (.ok paths, after)) :
    StandsFor world input paths := by
  rw [inputPaths] at h
  split at h
  · next hpattern =>
      obtain ⟨found, between, hfound, hrest⟩ := perform_bind_eq_ok.mp h
      have hasked := congrArg Prod.fst (perform_lift_eq_ok.mp hfound)
      cases found with
      | error e => exact absurd hrest perform_throw_ne_ok
      | ok paths' =>
          cases paths' with
          | nil => exact absurd hrest perform_throw_ne_ok
          | cons first others =>
              obtain ⟨rfl, -⟩ := perform_pure_eq_ok.mp hrest
              exact .matching hpattern hasked (List.cons_ne_nil first others)
  · next hplain =>
      obtain ⟨rfl, -⟩ := perform_pure_eq_ok.mp h
      exact .itself (by simpa using hplain)

/-! ## From a path to its files -/

/-- A result that a path has come to on a disk: its bytes were read and are
Unicode, the text was decoded, the part that is asked for is there, and these
files were generated from it. -/
inductive Yields (options : Options) (several : Bool) (disk : Disk)
    (path : String) : List SourceFile → Prop
  | intro {request : Request} {bytes : ByteArray} {text : String}
    {document node : Json} {files : List SourceFile}
    (requested : requestFor options several path = .ok request)
    (read : disk.read path = .ok bytes)
    (unicode : String.fromUTF8? bytes = some text)
    (decoded : request.source.decode text = .ok document)
    (selected : selectNode options document = .ok node)
    (generated : (request.generateFrom node).outcome = .ok files) :
    Yields options several disk path files

theorem perform_orCause_eq_ok {δ : Type} {cause : δ → Cause}
    {result : Except δ α} {a : α} :
    perform (orCause cause result) world = (.ok a, after) ↔
      result = .ok a ∧ world = after := by
  cases result with
  | ok b => rw [orCause, perform_pure_eq_ok, Except.ok.injEq]
  | error e =>
      rw [orCause]
      exact ⟨fun h => absurd h perform_throw_ne_ok, fun h => nomatch h.1⟩

theorem leaves_orCause {δ : Type} (cause : δ → Cause) (result : Except δ α) :
    Leaves Eq (orCause cause result : ExceptT Failure (StateM World) α) := by
  cases result with
  | ok a => exact Leaves.pure Eq.refl a
  | error e => exact Leaves.throw Eq.refl _

theorem leaves_readSource (path : String) :
    Leaves Eq (readSource path : ExceptT Failure (StateM World) String) := by
  rw [readSource]
  refine Leaves.bind Eq.trans (asks_read path).leaves fun found => ?_
  split
  · exact Leaves.throw Eq.refl _
  · split
    · exact Leaves.pure Eq.refl _
    · exact Leaves.throw Eq.refl _

theorem read_of_readSource {text : String}
    (h : perform (readSource path) world = (.ok text, after)) :
    ∃ bytes, world.disk.read path = .ok bytes ∧
      String.fromUTF8? bytes = some text := by
  rw [readSource] at h
  obtain ⟨found, between, hfound, hrest⟩ := perform_bind_eq_ok.mp h
  have hread : world.disk.read path = found :=
    congrArg Prod.fst (perform_lift_eq_ok.mp hfound)
  cases found with
  | error e => exact absurd hrest perform_throw_ne_ok
  | ok bytes =>
      refine ⟨bytes, hread, ?_⟩
      cases htext : String.fromUTF8? bytes with
      | none =>
          simp only [htext] at hrest
          exact absurd hrest perform_throw_ne_ok
      | some own =>
          simp only [htext] at hrest
          rw [(perform_pure_eq_ok.mp hrest).1]

theorem leaves_generateOne (path : String) :
    Leaves Eq (generateOne options several path :
      ExceptT Failure (StateM World) (List SourceFile)) := by
  rw [generateOne]
  refine Leaves.bind Eq.trans (leaves_orCause _ _) fun request => ?_
  refine Leaves.bind Eq.trans (leaves_readSource path) fun text => ?_
  refine Leaves.bind Eq.trans (leaves_orCause _ _) fun document => ?_
  refine Leaves.bind Eq.trans (leaves_orCause _ _) fun node => ?_
  exact Leaves.bind Eq.trans (asks_log _).leaves fun _ => leaves_orCause _ _

theorem yields_of_generateOne {files : List SourceFile}
    (h : perform (generateOne options several path) world = (.ok files, after)) :
    Yields options several world.disk path files := by
  rw [generateOne] at h
  obtain ⟨request, _, hrequest, h⟩ := perform_bind_eq_ok.mp h
  obtain ⟨hrequested, rfl⟩ := perform_orCause_eq_ok.mp hrequest
  obtain ⟨text, _, htext, h⟩ := perform_bind_eq_ok.mp h
  obtain rfl := (leaves_readSource path).of_perform htext
  obtain ⟨bytes, hread, hunicode⟩ := read_of_readSource htext
  obtain ⟨document, _, hdocument, h⟩ := perform_bind_eq_ok.mp h
  obtain ⟨hdecoded, rfl⟩ := perform_orCause_eq_ok.mp hdocument
  obtain ⟨node, _, hnode, h⟩ := perform_bind_eq_ok.mp h
  obtain ⟨hselected, rfl⟩ := perform_orCause_eq_ok.mp hnode
  obtain ⟨_, _, -, h⟩ := perform_bind_eq_ok.mp h
  obtain ⟨hgenerated, -⟩ := perform_orCause_eq_ok.mp h
  exact .intro hrequested hread hunicode hdecoded hselected hgenerated

theorem leaves_generateEach (paths : List String) :
    Leaves Eq (generateEach options several paths :
      ExceptT Failure (StateM World) (List Output)) := by
  induction paths with
  | nil => exact Leaves.pure Eq.refl []
  | cons path paths ih =>
      rw [generateEach]
      refine Leaves.bind Eq.trans (leaves_generateOne path) fun result => ?_
      split
      · exact Leaves.throw Eq.refl _
      · exact Leaves.bind Eq.trans ih fun others => Leaves.pure Eq.refl _

/-- Every path has come to its own files, in order. -/
theorem yields_of_generateEach {paths : List String} {outputs : List Output}
    (h : perform (generateEach options several paths) world
      = (.ok outputs, after)) :
    List.Forall₂ (fun path output => output.input = path ∧
      Yields options several world.disk path output.files) paths outputs := by
  induction paths generalizing outputs after with
  | nil =>
      rw [generateEach] at h
      obtain ⟨rfl, -⟩ := perform_pure_eq_ok.mp h
      exact .nil
  | cons path paths ih =>
      rw [generateEach] at h
      obtain ⟨result, between, hresult, h⟩ := perform_bind_eq_ok.mp h
      have hone : perform (generateOne options several path) world
          = (result, between) := perform_lift_eq_ok.mp hresult
      obtain rfl := (leaves_generateOne path).of_perform hone
      cases result with
      | error failure => exact absurd h perform_throw_ne_ok
      | ok files =>
          obtain ⟨others, last, hothers, h⟩ := perform_bind_eq_ok.mp h
          obtain ⟨rfl, -⟩ := perform_pure_eq_ok.mp h
          exact .cons ⟨rfl, yields_of_generateOne hone⟩ (ih hothers)

/-! ## All inputs -/

theorem leaves_flatMapM {f : α → ExceptT ε (StateM World) (List β)}
    (hf : ∀ a, Leaves Eq (f a)) (as : List α) : Leaves Eq (as.flatMapM f) := by
  induction as with
  | nil => exact Leaves.pure Eq.refl []
  | cons a as ih =>
      rw [List.flatMapM_cons]
      exact Leaves.bind Eq.trans (hf a) fun _ =>
        Leaves.bind Eq.trans ih fun _ => Leaves.pure Eq.refl _

theorem standsFor_of_flatMapM {inputs paths : List String}
    (h : perform (inputs.flatMapM inputPaths) world = (.ok paths, after)) :
    ∃ found, List.Forall₂ (StandsFor world) inputs found ∧
      paths = found.flatten := by
  induction inputs generalizing paths after with
  | nil =>
      obtain ⟨rfl, -⟩ := perform_pure_eq_ok.mp h
      exact ⟨[], .nil, rfl⟩
  | cons input inputs ih =>
      rw [List.flatMapM_cons] at h
      obtain ⟨first, between, hfirst, h⟩ := perform_bind_eq_ok.mp h
      obtain rfl := (leaves_inputPaths input).of_perform hfirst
      obtain ⟨others, last, hothers, h⟩ := perform_bind_eq_ok.mp h
      obtain ⟨rfl, -⟩ := perform_pure_eq_ok.mp h
      obtain ⟨found, hfound, rfl⟩ := ih hothers
      exact ⟨first :: found, .cons (standsFor_of_inputPaths hfirst) hfound, rfl⟩

theorem leaves_generateAll (options : Options) :
    Leaves Eq (generateAll options :
      ExceptT Failure (StateM World) (List Output)) := by
  rw [generateAll]
  exact Leaves.bind Eq.trans (leaves_flatMapM leaves_inputPaths _)
    fun paths => leaves_generateEach paths

/-- Everything was generated: every input stands for paths, and every path has
come to its own files. -/
def Generated (options : Options) (world : World) (outputs : List Output) : Prop :=
  ∃ found, List.Forall₂ (StandsFor world) options.inputs found ∧
    List.Forall₂ (fun path output => output.input = path ∧
      Yields options (1 < found.flatten.length) world.disk path output.files)
      found.flatten outputs

theorem generated_of_generateAll {outputs : List Output}
    (h : perform (generateAll options) world = (.ok outputs, after)) :
    Generated options world outputs := by
  rw [generateAll] at h
  obtain ⟨paths, between, hpaths, h⟩ := perform_bind_eq_ok.mp h
  obtain rfl := (leaves_flatMapM leaves_inputPaths _).of_perform hpaths
  obtain ⟨found, hfound, rfl⟩ := standsFor_of_flatMapM hpaths
  exact ⟨found, hfound, yields_of_generateEach h⟩

end Recast.Command
