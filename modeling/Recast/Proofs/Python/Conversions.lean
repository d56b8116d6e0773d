import Recast.Proofs.Python.Rendered
import Recast.Proofs.Python.Semantics

/-!
# Conversions invert each other

Decoding and encoding go through a type in the same way: where one makes an
object the other asks it for its dictionary, and where one walks a list the
other walks the list that came of it. So what has to be shown for a class is
shown for the values of a type, given that the classes in the type are already
known to round-trip.

A field is `None` or has a value of its type. That the test in front of a
conversion tells the two apart when it is written back needs one more fact: no
conversion that is tested ever gives `None`.
-/

namespace List

variable {α β γ : Type}

/-- If every element has a partner, then the elements can be paired up. -/
theorem exists_pairs {R : α → β → Prop} {l : List α}
    (h : ∀ a ∈ l, ∃ b, R a b) :
    ∃ pairs : List (α × β), pairs.map Prod.fst = l ∧
      ∀ pair ∈ pairs, R pair.1 pair.2 := by
  induction l with
  | nil => exact ⟨[], rfl, nofun⟩
  | cons a l ih =>
      obtain ⟨b, hb⟩ := h a mem_cons_self
      obtain ⟨pairs, hmap, hpairs⟩ := ih fun a ha => h a (mem_cons_of_mem _ ha)
      exact ⟨(a, b) :: pairs, by rw [map_cons, hmap],
        forall_mem_cons.mpr ⟨hb, hpairs⟩⟩

theorem mapM_map_eq_some {f : α → Option β} {g : γ → α} {h : γ → β} {l : List γ}
    (hl : ∀ c ∈ l, f (g c) = some (h c)) :
    (l.map g).mapM f = some (l.map h) := by
  induction l with
  | nil => rfl
  | cons c l ih =>
      rw [map_cons, mapM_cons, hl c mem_cons_self,
        ih fun c hc => hl c (mem_cons_of_mem _ hc)]
      rfl

end List

namespace Recast

theorem DataType.carriesClass_mapRefs {ρ σ : Type} (f : ρ → σ)
    (type : DataType ρ) : (type.mapRefs f).carriesClass = type.carriesClass := by
  rw [carriesClass_eq, carriesClass_eq, refs_mapRefs, List.isEmpty_map]

namespace Python

open Conversion (decodeAt encodeAt)
open Template.Python (decodeField decodeValue encodeField)

variable {α : Type}

/-! ## Values of a type -/

/-- The values of a type of a schema. Of the object of a class it is asked that
it has the keys of the class and no others, and that what is under a key is
`None` or a value of the type there. Where no class is involved anything is
allowed. -/
inductive Conforms (schema : Schema) : DataType ClassId → Value α → Prop
  | free {type value} : type.carriesClass = false → Conforms schema type value
  | array {item items} : (∀ value ∈ items, Conforms schema item value) →
    Conforms schema (.array item) (.list items)
  | object {id shape entries} : schema.get? id = some shape →
    (entries.map Prod.fst).Nodup →
    (∀ key, key ∈ entries.map Prod.fst ↔
      key ∈ shape.attributes.map Attribute.key) →
    (∀ attr ∈ shape.attributes, ∀ value, (attr.key, value) ∈ entries →
      value ≠ .none → Conforms schema attr.type value) →
    Conforms schema (.ref id) (.dict entries)

section Meaning

variable (schema : Schema) (resolve : String → Option Module)
  (methods : Methods α)

/-- Is a class known under a name whose conversions give every value of the
class back? -/
def ClassRoundTrips (className : String) (id : ClassId) : Prop :=
  ∃ module, resolve className = some module ∧
    ∀ value, Conforms schema (.ref id) value →
      ∃ object result, methods.fromDict module value = some object ∧
        object ≠ .none ∧ methods.toDict object = some result ∧
        Alike result value

/-- The conversions of a type turn one value into a second, and the second into
a third, wherever the values come from. -/
def Converts (type : DataType String) (value stored result : Value α) : Prop :=
  ∀ depth subject names,
    (eval resolve methods (Conversion.expr subject) names = some value →
      eval resolve methods (decodeAt (·.carriesClass) (fun _ value => value)
        type depth subject).expr names = some stored) ∧
    (eval resolve methods (Conversion.expr subject) names = some stored →
      eval resolve methods (encodeAt type depth subject).expr names
        = some result)

end Meaning

variable {schema : Schema} {resolve : String → Option Module}
  {methods : Methods α} {type : DataType ClassId} {name : ClassId → String}
  {value : Value α}

/-- A comprehension over a list whose elements come from another list. -/
theorem eval_each {β : Type} {body list : Expr} {var : String}
    {names : Bindings α} {l : List β} {g h : β → Value α}
    (hlist : eval resolve methods list names = some (.list (l.map g)))
    (hbody : ∀ b ∈ l, eval resolve methods body ((var, g b) :: names)
      = some (h b)) :
    eval resolve methods (.each body var list) names
      = some (.list (l.map h)) := by
  rw [eval, hlist]
  simp only [Option.bind_eq_bind, Option.bind_some]
  rw [List.mapM_map_eq_some
    (f := fun item => eval resolve methods body ((var, item) :: names)) hbody]
  rfl

/-- A type without classes is passed on as it is. -/
theorem converts_of_free {type : DataType String}
    (h : type.carriesClass = false) (value : Value α) :
    Converts resolve methods type value value value := by
  intro depth subject names
  cases type with
  | scalar kind => exact ⟨id, id⟩
  | map key item => exact ⟨id, id⟩
  | ref className => cases h
  | array item =>
      rw [DataType.carriesClass] at h
      simp only [decodeAt, encodeAt, h]
      exact ⟨id, id⟩

theorem converts_ref {className : String} {module : Module}
    {stored result : Value α} (hresolve : resolve className = some module)
    (hfromDict : methods.fromDict module value = some stored)
    (htoDict : methods.toDict stored = some result) :
    Converts resolve methods (.ref className) value stored result := by
  intro depth subject names
  constructor
  · intro hsubject
    simp only [decodeAt, Conversion.expr, eval, hresolve, hsubject,
      Option.bind_eq_bind, Option.bind_some]
    exact hfromDict
  · intro hsubject
    simp only [encodeAt, Conversion.expr, eval, hsubject, Option.bind_eq_bind,
      Option.bind_some]
    exact htoDict

/-- A list is converted element by element. Each element comes with what is
made of it. -/
theorem converts_array {item : DataType String} (hitem : item.carriesClass = true)
    {made : List (Value α × Value α × Value α)}
    (h : ∀ m ∈ made, Converts resolve methods item m.1 m.2.1 m.2.2) :
    Converts resolve methods (.array item) (.list (made.map Prod.fst))
      (.list (made.map fun m => m.2.1)) (.list (made.map fun m => m.2.2)) := by
  intro depth subject names
  have helement : ∀ v : Value α, eval resolve methods
      (Conversion.element depth).expr
      ((Conversion.loopVariable depth, v) :: names) = some v := fun v =>
    List.lookup_cons_self
  constructor
  · intro hsubject
    rw [decodeAt, if_pos hitem]
    exact eval_each hsubject fun m hm =>
      (h m hm (depth + 1) _ _).1 (helement m.1)
  · intro hsubject
    rw [encodeAt, if_pos hitem]
    exact eval_each hsubject fun m hm =>
      (h m hm (depth + 1) _ _).2 (helement m.2.1)

/-- If its classes round-trip, so do the values of a type. -/
theorem exists_converts
    (hrefs : ∀ id ∈ type.refs, ClassRoundTrips schema resolve methods (name id) id)
    (h : Conforms schema type value) :
    ∃ stored result, Converts resolve methods (type.mapRefs name) value stored
        result ∧
      (type.carriesClass = true → stored ≠ .none) ∧ Alike result value := by
  cases hcarries : type.carriesClass with
  | false =>
      rw [← type.carriesClass_mapRefs name] at hcarries
      exact ⟨value, value, converts_of_free hcarries value,
        fun hfalse => Bool.noConfusion hfalse, .same value⟩
  | true =>
      induction type generalizing value with
      | scalar kind => cases hcarries
      | map key item =>
          cases h with
          | free hfree => exact Bool.noConfusion (hfree.symm.trans hcarries)
      | ref id =>
          obtain ⟨module, hresolve, hvalues⟩ := hrefs id List.mem_cons_self
          obtain ⟨stored, result, hfromDict, hne, htoDict, halike⟩ :=
            hvalues value h
          exact ⟨stored, result, converts_ref hresolve hfromDict htoDict,
            fun _ => hne, halike⟩
      | array item ih =>
          cases h with
          | free hfree => exact Bool.noConfusion (hfree.symm.trans hcarries)
          | @array _ items hitems =>
              have hmade : ∀ v ∈ items, ∃ p : Value α × Value α,
                  Converts resolve methods (item.mapRefs name) v p.1 p.2 ∧
                    Alike p.2 v := by
                intro v hv
                obtain ⟨stored, result, hconverts, -, halike⟩ :=
                  ih hrefs (hitems v hv) hcarries
                exact ⟨(stored, result), hconverts, halike⟩
              obtain ⟨made, rfl, hpairs⟩ := List.exists_pairs hmade
              rw [DataType.carriesClass, ← item.carriesClass_mapRefs name]
                at hcarries
              refine ⟨_, _, converts_array hcarries fun m hm => (hpairs m hm).1,
                (fun _ hnone => by cases hnone), .list ?_⟩
              rw [List.forall₂_map_left_iff, List.forall₂_map_right_iff,
                List.forall₂_same]
              exact fun m hm => (hpairs m hm).2

/-! ## Fields -/

theorem eval_unlessNone {subject body : Expr} {names : Bindings α}
    {result : Value α} (hsubject : eval resolve methods subject names = some value)
    (hne : value ≠ .none) (hbody : eval resolve methods body names = some result) :
    eval resolve methods (.unlessNone subject body) names = some result := by
  rw [eval, hsubject]
  cases value with
  | none => exact absurd rfl hne
  | _ => exact hbody

theorem eval_unlessNone_none {subject body : Expr} {names : Bindings α}
    (hsubject : eval resolve methods subject names = some .none) :
    eval resolve methods (.unlessNone subject body) names = some .none := by
  rw [eval, hsubject]
  rfl

/-- A field turns the value under its key into the value that is stored, and
that into the value that is written under its key. -/
structure FieldConverts (resolve : String → Option Module) (methods : Methods α)
    (field : FieldView) (value stored result : Value α) : Prop where
  decode : ∀ {names entries}, names.lookup "data" = some (.dict entries) →
    entries.lookup field.key = some value →
    eval resolve methods (decodeField field).expr names = some stored
  encode : ∀ {names fileName fields},
    names.lookup "self" = some (.object fileName fields) →
    fields.lookup field.ident = some stored →
    eval resolve methods (encodeField field).expr names = some result

theorem exists_fieldConverts {field : FieldView}
    (htype : field.type = type.mapRefs name)
    (hrefs : ∀ id ∈ type.refs, ClassRoundTrips schema resolve methods (name id) id)
    (h : value ≠ .none → Conforms schema type value) :
    ∃ stored result, FieldConverts resolve methods field value stored result ∧
      Alike result value := by
  have hwire : ∀ {names : Bindings α} {entries : Bindings α},
      names.lookup "data" = some (.dict entries) →
      entries.lookup field.key = some value →
      eval resolve methods (Conversion.wire field.key).expr names
        = some value := by
    intro names entries hdata hvalue
    simp only [Conversion.expr, eval, hdata, hvalue, Option.getD_some]
  have hstored : ∀ {names fields : Bindings α} {fileName : String} {stored : Value α},
      names.lookup "self" = some (.object fileName fields) →
      fields.lookup field.ident = some stored →
      eval resolve methods (Conversion.stored field.ident).expr names
        = some stored := by
    intro names fields fileName stored hself hfield
    simp only [Conversion.expr, eval, hself, hfield]
  cases hconverts : Conversion.converts field.type with
  | false =>
      have hdecode : decodeField field = .wire field.key := by
        simp [decodeField, decodeValue, hconverts]
      have hencode : encodeField field = .stored field.ident := by
        simp [encodeField, Conversion.encodeGuarded, hconverts]
      exact ⟨value, value, ⟨hdecode ▸ hwire, hencode ▸ hstored⟩, .same value⟩
  | true =>
      have hdecode : decodeField field = .ifPresent (.wire field.key)
          (decodeAt (·.carriesClass) (fun _ value => value) field.type 0
            (.wire field.key)) := by
        simp [decodeField, decodeValue, hconverts]
      have hencode : encodeField field = .ifPresent (.stored field.ident)
          (encodeAt field.type 0 (.stored field.ident)) := by
        simp [encodeField, Conversion.encodeGuarded, hconverts]
      rcases eq_or_ne value .none with rfl | hne
      · refine ⟨.none, .none, ⟨?_, ?_⟩, .same .none⟩
        · intro names entries hdata hvalue
          rw [hdecode]
          exact eval_unlessNone_none (hwire hdata hvalue)
        · intro names fileName fields hself hfield
          rw [hencode]
          exact eval_unlessNone_none (hstored hself hfield)
      · have hcarries : type.carriesClass = true := by
          rw [Conversion.converts, Bool.and_eq_true, htype,
            DataType.carriesClass_mapRefs] at hconverts
          exact hconverts.1
        obtain ⟨stored, result, hconvert, hpresent, halike⟩ :=
          exists_converts hrefs (h hne)
        rw [← htype] at hconvert
        refine ⟨stored, result, ⟨?_, ?_⟩, halike⟩
        · intro names entries hdata hvalue
          have hsubject := hwire hdata hvalue
          rw [hdecode]
          exact eval_unlessNone hsubject hne ((hconvert 0 _ names).1 hsubject)
        · intro names fileName fields hself hfield
          have hsubject := hstored hself hfield
          rw [hencode]
          exact eval_unlessNone hsubject (hpresent hcarries)
            ((hconvert 0 _ names).2 hsubject)

/-! ## Classes -/

variable {program : List Module} {table : NameTable} {shape : ClassShape}
  {view : ClassView}

theorem evalAll_map {β : Type} {names : Bindings α} {l : List β}
    {key : β → String} {expr : β → Expr} {g : β → Value α}
    (h : ∀ b ∈ l, eval resolve methods (expr b) names = some (g b)) :
    evalAll resolve methods (l.map fun b => (key b, expr b)) names
      = some (l.map fun b => (key b, g b)) := by
  refine List.mapM_map_eq_some fun b hb => ?_
  rw [h b hb]
  rfl

/-- With one argument for each field, the arguments are the fields. -/
theorem construct_eq {module : Module} {args : Bindings α}
    (hkeys : args.map Prod.fst = module.fields) (hnodup : module.fields.Nodup) :
    construct module args = some (.object module.fileName args) := by
  have hdeclared : ∀ arg ∈ args, arg.1 ∈ module.fields := fun arg harg => by
    rw [← hkeys]
    exact List.mem_map_of_mem harg
  rw [← hkeys] at hnodup
  have hfields : (module.fields.map fun ident =>
      (ident, (args.lookup ident).getD .none)) = args := by
    rw [← hkeys, List.map_map]
    refine (List.map_congr_left fun arg harg => ?_).trans (List.map_id args)
    change (arg.1, (args.lookup arg.1).getD .none) = arg
    rw [lookup_eq_some_of_mem hnodup harg]
    rfl
  rw [construct, if_pos ⟨hnodup, hdeclared⟩, hfields]

/-- Every field of the view of a class finds its value in an object of the
class, and converts it. -/
theorem exists_made {entries : Bindings α}
    (hview : ClassView.ofShape .python table shape = .ok view)
    (hrefs : ∀ attr ∈ shape.attributes, ∀ ref ∈ attr.type.refs,
      ClassRoundTrips schema resolve methods (table.get ref).className ref)
    (hkeys : ∀ key, key ∈ entries.map Prod.fst ↔
      key ∈ shape.attributes.map Attribute.key)
    (hvalues : ∀ attr ∈ shape.attributes, ∀ value, (attr.key, value) ∈ entries →
      value ≠ .none → Conforms schema attr.type value) :
    ∃ made : List (FieldView × Value α × Value α × Value α),
      made.map Prod.fst = view.fields ∧
        ∀ m ∈ made, (m.1.key, m.2.1) ∈ entries ∧
          FieldConverts resolve methods m.1 m.2.1 m.2.2.1 m.2.2.2 ∧
          Alike m.2.2.2 m.2.1 := by
  refine List.exists_pairs
    (R := fun (field : FieldView) (p : Value α × Value α × Value α) =>
      (field.key, p.1) ∈ entries ∧
        FieldConverts resolve methods field p.1 p.2.1 p.2.2 ∧ Alike p.2.2 p.1)
    fun field hfield => ?_
  have hviews := ClassView.forall₂_fieldViews (ClassView.ofShape_eq_ok.mp hview).1
  obtain ⟨attr, hattr, heq, -⟩ :=
    List.exists_mem_of_forall₂_of_mem hviews hfield
  have hkey : field.key = attr.key := by
    rw [heq]
    rfl
  have htype : field.type
      = attr.type.mapRefs fun id => (table.get id).className := by
    rw [heq]
    rfl
  obtain ⟨entry, hentry, hentryKey⟩ := List.mem_map.mp
    ((hkeys attr.key).mpr (List.mem_map_of_mem hattr))
  have hpair : (attr.key, entry.2) ∈ entries := hentryKey ▸ hentry
  obtain ⟨stored, result, hconverts, halike⟩ := exists_fieldConverts htype
    (hrefs attr hattr) (hvalues attr hattr entry.2 hpair)
  exact ⟨(entry.2, stored, result), hkey ▸ hpair, hconverts, halike⟩

section Made

variable {made : List (FieldView × Value α × Value α × Value α)}
  {entries : Bindings α}

theorem fromDict_made (hmap : made.map Prod.fst = view.fields)
    (hidents : (view.fields.map FieldView.ident).Nodup)
    (hnodup : (entries.map Prod.fst).Nodup)
    (hmade : ∀ m ∈ made, (m.1.key, m.2.1) ∈ entries ∧
      FieldConverts (resolveIn program (ofView view)) methods m.1 m.2.1 m.2.2.1
        m.2.2.2) :
    (methods.next program).fromDict (ofView view) (.dict entries)
      = some (.object view.fileName
          (made.map fun m => (m.1.ident, m.2.2.1))) := by
  have hargs : (made.map fun m => (m.1.ident, m.2.2.1)).map Prod.fst
      = view.fields.map FieldView.ident := by
    rw [← hmap, List.map_map, List.map_map]
    rfl
  have hdecoded : evalAll (resolveIn program (ofView view)) methods
      (ofView view).decoded [("data", .dict entries)]
        = some (made.map fun m => (m.1.ident, m.2.2.1)) := by
    change evalAll _ _ (view.fields.map _) _ = _
    rw [← hmap, List.map_map]
    refine evalAll_map fun m hm => (hmade m hm).2.decode rfl ?_
    exact lookup_eq_some_of_mem hnodup (hmade m hm).1
  simp only [Methods.next, hdecoded, Option.bind_eq_bind, Option.bind_some]
  exact construct_eq hargs hidents

theorem toDict_made (hmap : made.map Prod.fst = view.fields)
    (hidents : (view.fields.map FieldView.ident).Nodup)
    (hmodule : program.find? (·.fileName == view.fileName) = some (ofView view))
    (hmade : ∀ m ∈ made,
      FieldConverts (resolveIn program (ofView view)) methods m.1 m.2.1 m.2.2.1
        m.2.2.2) :
    (methods.next program).toDict
        (.object view.fileName (made.map fun m => (m.1.ident, m.2.2.1)))
      = some (.dict (display (made.map fun m => (m.1.key, m.2.2.2)))) := by
  have hargs : ((made.map fun m => (m.1.ident, m.2.2.1)).map Prod.fst).Nodup := by
    rw [← hmap, List.map_map] at hidents
    rwa [List.map_map]
  have hencoded : evalAll (resolveIn program (ofView view)) methods
      (ofView view).encoded [("self", .object view.fileName
        (made.map fun m => (m.1.ident, m.2.2.1)))]
        = some (made.map fun m => (m.1.key, m.2.2.2)) := by
    change evalAll _ _ (view.fields.map _) _ = _
    rw [← hmap, List.map_map]
    refine evalAll_map fun m hm => (hmade m hm).encode rfl ?_
    exact lookup_eq_some_of_mem hargs (List.mem_map.mpr ⟨m, hm, rfl⟩)
  simp only [Methods.next, hmodule, hencoded, Option.bind_eq_bind,
    Option.bind_some]
  rfl

/-- What is written under the keys of the fields is the object again. Two
fields may share a key; then the later one is written, and either would do. -/
theorem alike_made (hnodup : (entries.map Prod.fst).Nodup)
    (hkeys : ∀ key, key ∈ entries.map Prod.fst ↔
      key ∈ made.map fun m => m.1.key)
    (hmade : ∀ m ∈ made, (m.1.key, m.2.1) ∈ entries ∧ Alike m.2.2.2 m.2.1) :
    Alike (.dict (display (made.map fun m => (m.1.key, m.2.2.2))))
      (.dict entries) := by
  obtain ⟨hdisplayNodup, hdisplayKeys, hdisplay⟩ :=
    display_spec (made.map fun m => (m.1.key, m.2.2.2))
  refine alike_dict hdisplayNodup hnodup ?_ ?_
  · intro k
    rw [hdisplayKeys, hkeys, List.map_map]
    rfl
  · intro k a b ha hb
    obtain ⟨m, hm, heq⟩ := List.mem_map.mp (hdisplay _ ha)
    obtain ⟨rfl, rfl⟩ := Prod.mk.inj heq
    obtain ⟨hentry, halike⟩ := hmade m hm
    have hsame := lookup_eq_some_of_mem hnodup hentry
    rw [lookup_eq_some_of_mem hnodup hb] at hsame
    rwa [Option.some.inj hsame]

end Made

/-- If the classes that a class refers to round-trip, then so does the class,
one call deeper. -/
theorem toDict_fromDict {id : ClassId} (hshape : schema.get? id = some shape)
    (hview : ClassView.ofShape .python table shape = .ok view)
    (hmodule : program.find? (·.fileName == view.fileName) = some (ofView view))
    (hrefs : ∀ attr ∈ shape.attributes, ∀ ref ∈ attr.type.refs,
      ClassRoundTrips schema (resolveIn program (ofView view)) methods
        (table.get ref).className ref)
    (h : Conforms schema (.ref id) value) :
    ∃ object result,
      (methods.next program).fromDict (ofView view) value = some object ∧
        object ≠ .none ∧
        (methods.next program).toDict object = some result ∧
        Alike result value := by
  cases h with
  | free hfree => cases hfree
  | @object _ own entries hown hnodup hkeys hvalues =>
      obtain rfl : own = shape := Option.some.inj (hown.symm.trans hshape)
      obtain ⟨hfields, -⟩ := ClassView.ofShape_eq_ok.mp hview
      have hidents := (ClassView.nodup_fieldViews hfields).1
      have hattributes : view.fields.map FieldView.key
          = own.attributes.map Attribute.key :=
        List.map_eq_map_of_forall₂ (ClassView.forall₂_fieldViews hfields)
          fun attr field h => by rw [h.1]; rfl
      obtain ⟨made, hmap, hmade⟩ := exists_made hview hrefs hkeys hvalues
      refine ⟨_, _,
        fromDict_made hmap hidents hnodup
          fun m hm => ⟨(hmade m hm).1, (hmade m hm).2.1⟩,
        nofun,
        toDict_made hmap hidents hmodule fun m hm => (hmade m hm).2.1,
        alike_made hnodup ?_ fun m hm => ⟨(hmade m hm).1, (hmade m hm).2.2⟩⟩
      intro key
      rw [hkeys, ← hattributes, ← hmap, List.map_map]
      rfl

end Python
end Recast
