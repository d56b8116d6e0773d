import Mathlib.Data.List.Forall2
import Mathlib.Data.List.Nodup
import Recast.Proofs.Python.Reader

/-!
# Running generated Python

What the modules of a program do when their conversions are called. An
expression is evaluated where names have values; `data` and `self` are names
like the variables of the comprehensions. Nothing is assumed of the values
that a conversion passes on, so their scalars are of any type.

A class is found by the name that a module knows it under, and an object
remembers the file of its class. The conversions of one class call those of
others, so what a call gives is defined by how deep the calls may nest: at
depth zero no call returns.
-/

namespace Recast.Python

/-! ## Values -/

variable {α : Type}

inductive Value (α : Type)
  | none
  | scalar (value : α)
  | list (items : List (Value α))
  | dict (entries : List (String × Value α))
  /-- An object of the class that a file declares. -/
  | object (fileName : String) (fields : List (String × Value α))

/-- What names stand for, or keys, or fields. -/
abbrev Bindings (α : Type) := List (String × Value α)

/-- Sets a key. A key that is there already keeps its place. -/
def insert (key : String) (value : Value α) : Bindings α → Bindings α
  | [] => [(key, value)]
  | (k, v) :: entries =>
    if k = key then (k, value) :: entries else (k, v) :: insert key value entries

/-- The dictionary that entries are displayed for. Of two entries under one key
the later one counts. -/
def display (entries : Bindings α) : Bindings α :=
  entries.foldl (fun dict entry => insert entry.1 entry.2 dict) []

/-- The same value up to the order of the keys in dictionaries. -/
inductive Alike : Value α → Value α → Prop
  | same (value) : Alike value value
  | list {as bs} : List.Forall₂ Alike as bs → Alike (.list as) (.list bs)
  | dict {as cs bs} : as.Perm cs → cs.map Prod.fst = bs.map Prod.fst →
    List.Forall₂ Alike (cs.map Prod.snd) (bs.map Prod.snd) →
    Alike (.dict as) (.dict bs)

/-! ## Evaluation -/

/-- The conversions of all classes. A class is given by its module, and an
object knows its own. -/
structure Methods (α : Type) where
  fromDict : Module → Value α → Option (Value α)
  toDict : Value α → Option (Value α)

section Evaluation

variable (resolve : String → Option Module) (methods : Methods α)

def eval : Expr → Bindings α → Option (Value α)
  | .get key, names =>
    match names.lookup "data" with
    | some (.dict entries) => some ((entries.lookup key).getD .none)
    | _ => none
  | .attr ident, names =>
    match names.lookup "self" with
    | some (.object _ fields) => fields.lookup ident
    | _ => none
  | .var name, names => names.lookup name
  | .fromDict className value, names => do
    let module ← resolve className
    let value ← eval value names
    methods.fromDict module value
  | .toDict value, names => do
    let value ← eval value names
    methods.toDict value
  | .each body var list, names => do
    match ← eval list names with
    | .list items =>
      (items.mapM fun item => eval body ((var, item) :: names)).map .list
    | _ => none
  | .unlessNone subject body, names => do
    match ← eval subject names with
    | .none => return .none
    | _ => eval body names

/-- The values of named expressions, under their names. -/
def evalAll (named : List (String × Expr)) (names : Bindings α) :
    Option (Bindings α) :=
  named.mapM fun pair =>
    (eval resolve methods pair.2 names).map fun value => (pair.1, value)

end Evaluation

/-! ## Classes -/

/-- The class that a module knows under a name: its own, or else the one that
was imported last under it. -/
def resolveIn (program : List Module) (module : Module) (className : String) :
    Option Module :=
  if module.className = className then some module
  else do
    let found ← module.imports.reverse.find? (·.className == className)
    let target ← program.find? (·.fileName == found.module ++ ".py")
    if target.className = className then return target else none

/-- An object made with keyword arguments. An argument that no field is
declared for is refused, and so are two for one field; a field without an
argument is `None`. -/
def construct (module : Module) (args : Bindings α) : Option (Value α) :=
  if (args.map Prod.fst).Nodup ∧ ∀ arg ∈ args, arg.1 ∈ module.fields then
    some <| .object module.fileName <|
      module.fields.map fun ident => (ident, (args.lookup ident).getD .none)
  else none

/-- The conversions that may call given ones. -/
def Methods.next (program : List Module) (methods : Methods α) : Methods α where
  fromDict module data := do
    let args ← evalAll (resolveIn program module) methods module.decoded
      [("data", data)]
    construct module args
  toDict
    | .object fileName fields => do
      let module ← program.find? (·.fileName == fileName)
      let entries ← evalAll (resolveIn program module) methods module.encoded
        [("self", .object fileName fields)]
      return .dict (display entries)
    | _ => none

/-- The conversions of a program, with calls that nest up to a depth. -/
def methods (program : List Module) : Nat → Methods α
  | 0 => ⟨fun _ _ => none, fun _ => none⟩
  | depth + 1 => (methods program depth).next program

/-! ## Bindings and dictionaries -/

variable {key : String} {value : Value α} {entries : Bindings α}

theorem lookup_eq_some_of_mem (hnodup : (entries.map Prod.fst).Nodup)
    (h : (key, value) ∈ entries) : entries.lookup key = some value := by
  obtain ⟨before, after, rfl⟩ := List.append_of_mem h
  rw [List.map_append, List.map_cons, List.nodup_append] at hnodup
  refine List.lookup_eq_some_iff.mpr ⟨before, after, rfl, fun entry hentry => ?_⟩
  have hne := hnodup.2.2 entry.1 (List.mem_map_of_mem hentry) key
    List.mem_cons_self
  exact bne_iff_ne.mpr hne.symm

theorem mem_map_fst_insert {k : String} :
    k ∈ (insert key value entries).map Prod.fst ↔
      k = key ∨ k ∈ entries.map Prod.fst := by
  induction entries with
  | nil => simp [insert]
  | cons entry entries ih =>
      rw [insert]
      split
      · next h => simp [h]
      · next h =>
          rw [List.map_cons, List.map_cons, List.mem_cons, List.mem_cons, ih]
          exact or_left_comm

theorem nodup_insert (h : (entries.map Prod.fst).Nodup) :
    ((insert key value entries).map Prod.fst).Nodup := by
  induction entries with
  | nil => simp [insert]
  | cons entry entries ih =>
      rw [List.map_cons, List.nodup_cons] at h
      rw [insert]
      split
      · rw [List.map_cons, List.nodup_cons]
        exact h
      · next hne =>
          rw [List.map_cons, List.nodup_cons, mem_map_fst_insert]
          refine ⟨?_, ih h.2⟩
          rintro (heq | hmem)
          · exact hne heq
          · exact h.1 hmem

theorem mem_insert {entry : String × Value α}
    (h : entry ∈ insert key value entries) :
    entry = (key, value) ∨ entry ∈ entries := by
  induction entries with
  | nil => exact .inl (List.mem_singleton.mp h)
  | cons first entries ih =>
      rw [insert] at h
      split at h
      · next hkey =>
          rcases List.mem_cons.mp h with rfl | hmem
          · exact .inl (by rw [hkey])
          · exact .inr (List.mem_cons_of_mem _ hmem)
      · rcases List.mem_cons.mp h with rfl | hmem
        · exact .inr List.mem_cons_self
        · exact (ih hmem).imp_right (List.mem_cons_of_mem _)

/-- A displayed dictionary has the keys of its entries, each once, and every
value comes from one of them. -/
theorem display_spec (entries : Bindings α) :
    ((display entries).map Prod.fst).Nodup ∧
      (∀ k, k ∈ (display entries).map Prod.fst ↔ k ∈ entries.map Prod.fst) ∧
      ∀ entry ∈ display entries, entry ∈ entries := by
  have hfold : ∀ dict : Bindings α, (dict.map Prod.fst).Nodup →
      let result := entries.foldl (fun dict e => insert e.1 e.2 dict) dict
      (result.map Prod.fst).Nodup ∧
        (∀ k, k ∈ result.map Prod.fst ↔
          k ∈ dict.map Prod.fst ∨ k ∈ entries.map Prod.fst) ∧
        ∀ entry ∈ result, entry ∈ dict ∨ entry ∈ entries := by
    induction entries with
    | nil =>
        intro dict hdict
        exact ⟨hdict, fun k => by simp, fun entry h => .inl h⟩
    | cons first entries ih =>
        intro dict hdict
        obtain ⟨hnodup, hkeys, hentries⟩ := ih (insert first.1 first.2 dict)
          (nodup_insert hdict)
        refine ⟨hnodup, fun k => ?_, fun entry hentry => ?_⟩
        · rw [List.foldl_cons, hkeys, mem_map_fst_insert, List.map_cons,
            List.mem_cons]
          tauto
        · rcases hentries entry hentry with hmem | hmem
          · rcases mem_insert hmem with rfl | hmem
            · exact .inr List.mem_cons_self
            · exact .inl hmem
          · exact .inr (List.mem_cons_of_mem _ hmem)
  obtain ⟨hnodup, hkeys, hentries⟩ := hfold [] List.nodup_nil
  exact ⟨hnodup, fun k => (hkeys k).trans (by simp), fun entry hentry =>
    (hentries entry hentry).resolve_left List.not_mem_nil⟩

/-- Dictionaries with the same keys and alike values are alike. -/
theorem alike_dict {as bs : Bindings α} (has : (as.map Prod.fst).Nodup)
    (hbs : (bs.map Prod.fst).Nodup)
    (hkeys : ∀ k, k ∈ as.map Prod.fst ↔ k ∈ bs.map Prod.fst)
    (hvalues : ∀ k a b, (k, a) ∈ as → (k, b) ∈ bs → Alike a b) :
    Alike (.dict as) (.dict bs) := by
  have hfound : ∀ b ∈ bs, ∃ a, (b.1, a) ∈ as := by
    intro b hb
    obtain ⟨a, ha, hkey⟩ :=
      List.mem_map.mp ((hkeys b.1).mpr (List.mem_map_of_mem hb))
    exact ⟨a.2, hkey ▸ ha⟩
  -- The first dictionary, in the order of the second.
  let cs : Bindings α := bs.map fun b => (b.1, (as.lookup b.1).getD .none)
  have hcs : ∀ b ∈ bs, ∀ a, (b.1, a) ∈ as →
      (b.1, (as.lookup b.1).getD .none) = (b.1, a) := fun b _ a ha => by
    rw [lookup_eq_some_of_mem has ha, Option.getD_some]
  have hfst : cs.map Prod.fst = bs.map Prod.fst := by
    rw [List.map_map]
    rfl
  have horder : as.Perm cs := by
    refine (List.perm_ext_iff_of_nodup has.of_map
      (List.Nodup.of_map Prod.fst (by rwa [hfst]))).mpr fun entry => ?_
    rw [List.mem_map]
    constructor
    · intro hentry
      obtain ⟨b, hb, hkey⟩ :=
        List.mem_map.mp ((hkeys entry.1).mp (List.mem_map_of_mem hentry))
      exact ⟨b, hb, hcs b hb entry.2 (hkey ▸ hentry) |>.trans (by rw [hkey])⟩
    · rintro ⟨b, hb, rfl⟩
      obtain ⟨a, ha⟩ := hfound b hb
      rwa [hcs b hb a ha]
  refine .dict horder hfst ?_
  rw [List.map_map, List.forall₂_map_left_iff, List.forall₂_map_right_iff,
    List.forall₂_same]
  intro b hb
  obtain ⟨a, ha⟩ := hfound b hb
  have hvalue : (as.lookup b.1).getD .none = a := congrArg Prod.snd (hcs b hb a ha)
  change Alike ((as.lookup b.1).getD .none) b.2
  rw [hvalue]
  exact hvalues b.1 a b.2 ha hb

end Recast.Python
