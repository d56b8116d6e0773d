import Recast.Proofs.Generation.Files
import Recast.Proofs.Generation.Identifiers
import Recast.Proofs.Generation.Methods
import Recast.Proofs.Inference.Arena
import Recast.Proofs.Names.Roles

/-!
# Which accessors are told apart

The identifiers of a class are pairwise different, and in Java each of them
gives its getter and its setter their names. There it stands with its first
character raised, and two identifiers that differ in that character can become
one: the dotless `ı` and the `i` share their capital form, and that of the sharp
`ß` begins with that of the `s`.

An identifier opens on the small form of its key's opening or on an underscore,
so it can be seen from the keys whether this may happen. It does not happen
where all of these small forms come back from their capital forms.
-/

namespace Recast

open Unicode (isWordChar lowerChar upperChar)

/-! ## Raising the first character -/

namespace Name

/-- Two characters of which one has a capital form that the capital form of the
other begins with, so that texts which open on them can be raised to the same
one. -/
def RaisedAlike (c d : Char) : Prop :=
  c ≠ d ∧ (upperChar c <+: upperChar d ∨ upperChar d <+: upperChar c)

/-- A character that comes back from its capital form. -/
def returns (c : Char) : Bool :=
  (upperChar c).flatMap lowerChar == [c]

instance (c d : Char) : Decidable (RaisedAlike c d) :=
  inferInstanceAs (Decidable (_ ∧ _))

variable {c d : Char}

theorem RaisedAlike.symm (h : RaisedAlike c d) : RaisedAlike d c :=
  ⟨h.1.symm, h.2.symm⟩

theorem eq_of_returns (hc : returns c = true) (hd : returns d = true)
    (h : upperChar c <+: upperChar d) : c = d := by
  obtain ⟨rest, hrest⟩ := h
  rw [returns, beq_iff_eq] at hc hd
  rw [← hrest, List.flatMap_append, hc] at hd
  injection hd

theorem not_raisedAlike_of_returns (hc : returns c = true)
    (hd : returns d = true) : ¬ RaisedAlike c d := by
  rintro ⟨hne, hbegins | hbegins⟩
  · exact hne (eq_of_returns hc hd hbegins)
  · exact hne (eq_of_returns hd hc hbegins).symm

theorem not_raisedAlike_underscore : ¬ RaisedAlike '_' c := by
  have hraised : upperChar '_' = ['_'] := by decide
  rintro ⟨hne, hbegins | hbegins⟩
  · rw [hraised] at hbegins
    exact hne (Unicode.underscore_of_mem_upperChar
      (hbegins.subset List.mem_cons_self)).symm
  · obtain ⟨d, rest, hd⟩ := List.exists_cons_of_ne_nil (upperChar_ne_nil c)
    have hmem : d ∈ upperChar c := hd ▸ List.mem_cons_self
    have hunder : d ∈ ['_'] := hraised ▸ hbegins.subset hmem
    rw [List.mem_singleton.mp hunder] at hmem
    exact hne (Unicode.underscore_of_mem_upperChar hmem).symm

theorem raisedAlike_iff : RaisedAlike c d ↔
    c ≠ d ∧ ∃ s t, raiseFirst (c :: s) = raiseFirst (d :: t) := by
  refine and_congr_right fun _ => ⟨?_, ?_⟩
  · rintro (⟨rest, hrest⟩ | ⟨rest, hrest⟩)
    · exact ⟨rest, [], hrest.trans (List.append_nil _).symm⟩
    · exact ⟨[], rest, (List.append_nil _).trans hrest.symm⟩
  · rintro ⟨s, t, h⟩
    exact List.prefix_or_prefix_of_prefix ⟨s, h⟩ ⟨t, rfl⟩

example : RaisedAlike 'i' 'ı' ∧ RaisedAlike 's' 'ß' := by decide

/-- Texts that differ and are raised to the same open on characters that are
raised alike. -/
theorem raisedAlike_of_raiseFirst_eq {s t : List Char} (hne : s ≠ t)
    (h : raiseFirst s = raiseFirst t) :
    ∃ c d, s.head? = some c ∧ t.head? = some d ∧ RaisedAlike c d := by
  match s, t with
  | [], [] => exact absurd rfl hne
  | [], d :: t =>
      have hempty := (List.append_eq_nil_iff.mp h.symm).1
      exact absurd hempty (upperChar_ne_nil d)
  | c :: s, [] =>
      have hempty := (List.append_eq_nil_iff.mp h).1
      exact absurd hempty (upperChar_ne_nil c)
  | c :: s, d :: t =>
      refine ⟨c, d, rfl, rfl, raisedAlike_iff.mpr ⟨?_, s, t, h⟩⟩
      rintro rfl
      exact hne (congrArg (c :: ·) (List.append_cancel_left h))

/-- The small form of the first letter or number of a key. -/
def smallOpening? (key : String) : Option Char :=
  (opening? key.toList).bind fun c => (lowerChar c).head?

/-- Keys whose small openings are raised alike. -/
def OpenAlike (first second : String) : Prop :=
  ∃ c d, smallOpening? first = some c ∧ smallOpening? second = some d ∧
    RaisedAlike c d

/-- Small forms of ASCII letters and digits come back. -/
theorem returns_of_smallOpening? {key : String}
    (hascii : ∀ e ∈ opening? key.toList, e.toNat < 0x80)
    (h : smallOpening? key = some c) : returns c = true := by
  have hall : ∀ n < 0x80, isWordChar (Char.ofNat n) = true →
      (lowerChar (Char.ofNat n)).head?.all returns = true := by decide +kernel
  obtain ⟨e, he, hc⟩ := Option.bind_eq_some_iff.mp h
  have hreturns := hall e.toNat (hascii e he)
  rw [Char.ofNat_toNat] at hreturns
  exact (Option.all_eq_true _ _).mp
    (hreturns (isWordChar_of_opening? he)) c hc

/-- A field opens on the small opening of its key if not on an underscore. -/
theorem smallOpening?_of_head?_fieldName? (language : Language)
    {key name : String}
    (hfield : fieldName? language.conventions key = some name)
    (hhead : name.toList.head? = some c) (hc : c ≠ '_') :
    smallOpening? key = some c := by
  rw [smallOpening?]
  cases hopening : opening? key.toList with
  | none =>
      rw [fieldName?_of_opening?_eq_none language hfield hopening] at hhead
      cases hhead
  | some e =>
      obtain ⟨d, hd, hlower, -⟩ := head?_fieldName? language hfield hopening
      rw [hhead] at hd
      injection hd with hd
      split at hd
      · exact absurd hd hc
      · rw [hd]
        exact hlower

end Name

/-! ## The fields of a class -/

namespace ClassView

open Name (returns smallOpening?)

variable {language : Language} {table : NameTable} {path : String}
  {attrs : List Attribute} {views : List FieldView}

/-- A number goes behind a name, so it changes what an identifier opens on only
if the name is empty. -/
theorem Identified.head?_eq {earlier : List String} {name ident : String}
    (h : Identified earlier name ident) :
    ident.toList.head? = name.toList.head? ∨ ident.toList.head? = some '_' := by
  cases h with
  | kept free => exact .inl rfl
  | moved held least bound =>
      rw [Name.toList_numbered]
      cases name.toList with
      | nil => exact .inr rfl
      | cons c rest => exact .inl rfl

theorem smallOpening?_of_fieldViews
    (h : fieldViews language.conventions table path [] attrs = .ok views)
    {view : FieldView} (hview : view ∈ views) {c : Char}
    (hhead : view.ident.toList.head? = some c) (hc : c ≠ '_') :
    smallOpening? view.key = some c := by
  obtain ⟨i, hi⟩ := List.getElem?_of_mem hview
  have hshape := forall₂_fieldViews h
  obtain ⟨hlt, hget⟩ := List.getElem?_eq_some_iff.mp hi
  have hlt' : i < attrs.length := hshape.length_eq ▸ hlt
  obtain ⟨name, hname, hidentified⟩ :=
    identified_of_fieldViews [] h (List.getElem?_eq_getElem hlt') hi
  have hkey : view.key = attrs[i].key := by
    have hmade := (hshape.get hlt' hlt).1
    rw [List.get_eq_getElem, hget] at hmade
    rw [hmade]
    rfl
  rw [hkey]
  refine Name.smallOpening?_of_head?_fieldName? language hname ?_ hc
  rcases hidentified.head?_eq with hsame | hunderscore
  · rwa [← hsame]
  · rw [hhead] at hunderscore
    exact absurd (Option.some.inj hunderscore) hc

theorem accessor_of_fieldViews
    (h : fieldViews language.conventions table path [] attrs = .ok views)
    {view : FieldView} (hview : view ∈ views) :
    view.accessor = String.ofList (Name.raiseFirst view.ident.toList) := by
  obtain ⟨attr, -, hmade, -⟩ :=
    List.exists_mem_of_forall₂_of_mem (forall₂_fieldViews h) hview
  rw [hmade]
  rfl

/-- Two fields with one accessor have keys whose small openings are raised
alike. -/
theorem raisedAlike_of_accessor_eq
    (h : fieldViews language.conventions table path [] attrs = .ok views)
    {first second : FieldView} (hfirst : first ∈ views)
    (hsecond : second ∈ views) (hne : first.ident ≠ second.ident)
    (heq : first.accessor = second.accessor) :
    Name.OpenAlike first.key second.key := by
  rw [accessor_of_fieldViews h hfirst, accessor_of_fieldViews h hsecond,
    String.ofList_inj] at heq
  obtain ⟨c, d, hc, hd, halike⟩ := Name.raisedAlike_of_raiseFirst_eq
    (fun hsame => hne (String.toList_inj.mp hsame)) heq
  refine ⟨c, d, smallOpening?_of_fieldViews h hfirst hc ?_,
    smallOpening?_of_fieldViews h hsecond hd ?_, halike⟩
  · rintro rfl
    exact Name.not_raisedAlike_underscore halike
  · rintro rfl
    exact Name.not_raisedAlike_underscore halike.symm

/-- Fields are told apart by their accessors unless the small openings of their
keys are raised alike. -/
theorem pairwise_fieldViews
    (h : fieldViews language.conventions table path [] attrs = .ok views) :
    views.Pairwise fun first second => first.accessor = second.accessor →
      Name.OpenAlike first.key second.key :=
  (List.pairwise_map.mp (nodup_fieldViews h).1).imp_of_mem
    fun hfirst hsecond hne => raisedAlike_of_accessor_eq h hfirst hsecond hne

theorem nodup_accessor_of_returns
    (h : views.Pairwise fun first second => first.accessor = second.accessor →
      Name.OpenAlike first.key second.key)
    (hkeys : ∀ view ∈ views, (smallOpening? view.key).all returns = true) :
    (views.map FieldView.accessor).Nodup := by
  refine List.pairwise_map.mpr (h.imp_of_mem ?_)
  intro first second hfirst hsecond halike heq
  obtain ⟨c, d, hc, hd, hraised⟩ := halike heq
  have hfirst := hkeys first hfirst
  have hsecond := hkeys second hsecond
  rw [hc] at hfirst
  rw [hd] at hsecond
  exact Name.not_raisedAlike_of_returns hfirst hsecond hraised

/-- A class has accessors that are pairwise different if its keys open on ASCII
letters and digits. -/
theorem nodup_accessor_of_ascii {shape : ClassShape} {view : ClassView}
    (h : ofShape language.conventions table shape = .ok view)
    (hascii : ∀ attr ∈ shape.attributes,
      ∀ e ∈ Name.opening? attr.key.toList, e.toNat < 0x80) :
    (view.fields.map FieldView.accessor).Nodup := by
  refine nodup_accessor_of_returns (pairwise_fieldViews (ofShape_eq_ok.mp h).1)
    fun field hfield => (Option.all_eq_true _ _).mpr fun c hc =>
      Name.returns_of_smallOpening? ?_ hc
  obtain ⟨attr, hattr, hkey⟩ :=
    List.exists_mem_of_forall₂_of_mem (forall₂_key h) hfield
  rw [hkey]
  exact hascii attr hattr

end ClassView

/-! ## Generated files -/

namespace Request

open Name (OpenAlike returns smallOpening?)
open Template.Java (accessorNames constructorNames)

variable {request : Request} {document : Json} {files : List SourceFile}

theorem methodNames_ofShape {table : NameTable} {shape : ClassShape}
    {view : ClassView} (hnames : ∀ id, Name.Wordlike (table.get id).className ∧
      Plain (table.get id).module)
    (hview : ClassView.ofShape Language.java.conventions table shape
      = .ok view) :
    methodNames (Language.java.render view) = constructorNames view ++
      view.fields.flatMap accessorNames ++
      ["fromMap", "toMap", "fromJson", "toJson"] :=
  Template.Java.methodNames_render (ClassView.clean_of_ofShape hnames hview)
    (ClassView.callable_of_ofShape (fun id => (hnames id).1) hview)

/-- The methods of every class that is generated in Java are its constructors,
a getter and a setter for each field, named after its accessor, and the
conversions. Two fields have one accessor only if the small openings of their
keys are raised alike, so the accessors are pairwise different if all of these
come back from their capital forms. -/
theorem accessors_of_generateFrom (hjava : request.target = .java)
    (h : (request.generateFrom document).outcome = .ok files) :
    ∃ name schema table, request.topLevelName = .ok name ∧
      (Schema.infer document name).outcome = .ok schema ∧
      (NameTable.resolve schema .java request.lenient).outcome = .ok table ∧
      List.Forall₂ (fun shape file => ∃ view,
        ClassView.ofShape .java table shape = .ok view ∧
        view.fields.map FieldView.key = shape.attributes.map Attribute.key ∧
        methodNames file.text = constructorNames view ++
          view.fields.flatMap accessorNames ++
          ["fromMap", "toMap", "fromJson", "toJson"] ∧
        view.fields.Pairwise (fun first second =>
          first.accessor = second.accessor →
            OpenAlike first.key second.key) ∧
        ((∀ attr ∈ shape.attributes,
            (smallOpening? attr.key).all returns = true) →
          (view.fields.map FieldView.accessor).Nodup))
        schema.classes files := by
  obtain ⟨name, schema, table, hname, hschema, htable, hfiles⟩ :=
    generateFrom_eq_ok.mp h
  rw [hjava] at htable hfiles
  refine ⟨name, schema, table, hname, hschema, htable, hfiles.imp ?_⟩
  rintro shape file ⟨view, hview, rfl⟩
  have hnames := NameTable.wordlike_get htable
  have hkeys := ClassView.keys_of_ofShape hview
  have hfields := (ClassView.ofShape_eq_ok.mp hview).1
  have hpairwise := ClassView.pairwise_fieldViews hfields
  refine ⟨view, hview, hkeys, ?_, hpairwise, fun hreturns => ?_⟩
  · exact methodNames_ofShape hnames hview
  · refine ClassView.nodup_accessor_of_returns hpairwise fun field hfield => ?_
    obtain ⟨attr, hattr, hkey⟩ := List.exists_mem_of_forall₂_of_mem
      (ClassView.forall₂_key hview) hfield
    rw [hkey]
    exact hreturns attr hattr

/-- Keys that come out alike, and one that opens on a digit. -/
def nameShape : ClassShape where
  id := 0
  key := "root"
  path := "$"
  attributes := ["first_name", "firstName", "2nd"].map
    fun key => ⟨key, .scalar .string⟩

def nameDocument : Json :=
  .object [("first_name", .null), ("firstName", .null), ("2nd", .null)]

/-- The table of a class that is called `Root` in Java. -/
def rootTable : NameTable where
  entries := [⟨"Root", "Root", "Root.java"⟩]

theorem accessors_of_generateFrom_names :
    ∃ file, (generateFrom ⟨.java, .json, true, some "root"⟩
        nameDocument).outcome = .ok [file] ∧
      ∃ view, ClassView.ofShape .java rootTable nameShape = .ok view ∧
        methodNames file.text = constructorNames view ++
          view.fields.flatMap accessorNames ++
          ["fromMap", "toMap", "fromJson", "toJson"] ∧
        view.fields.map FieldView.accessor
          = ["FirstName", "FirstName_2", "_2nd"] ∧
        (view.fields.map FieldView.accessor).Nodup := by
  have hschema : (Schema.infer nameDocument "root").outcome
      = .ok ⟨[nameShape]⟩ := rfl
  have hresolve : (NameTable.resolve ⟨[nameShape]⟩ .java true).outcome.toOption
      = some rootTable := by decide
  have haccessors : (ClassView.ofShape .java rootTable nameShape).toOption.map
      (fun view => view.fields.map FieldView.accessor)
        = some ["FirstName", "FirstName_2", "_2nd"] := by decide +kernel
  obtain ⟨files, hfiles⟩ : ∃ files,
      (generateFrom ⟨.java, .json, true, some "root"⟩
        nameDocument).outcome = .ok files :=
    generateFrom_lenient_ok rfl rfl hschema
  obtain ⟨name, schema, table, hname, hown, htable, hclasses⟩ :=
    accessors_of_generateFrom rfl hfiles
  obtain rfl : "root" = name := by injection hname
  obtain rfl : ⟨[nameShape]⟩ = schema :=
    Except.ok.inj (hschema.symm.trans hown)
  have hnamed : (NameTable.resolve ⟨[nameShape]⟩ .java true).outcome
      = .ok table := htable
  rw [hnamed] at hresolve
  obtain rfl := Option.some.inj hresolve
  match files, hclasses with
  | [file], .cons ⟨view, hview, _, hmethods, _, hnodup⟩ .nil =>
      rw [hview] at haccessors
      exact ⟨file, hfiles, view, hview, hmethods, Option.some.inj haccessors,
        hnodup (by decide)⟩

/-- Keys that differ in the dot of their first letter. -/
def dotlessShape : ClassShape where
  id := 0
  key := "root"
  path := "$"
  attributes := ["id", "ıd"].map fun key => ⟨key, .scalar .string⟩

def dotlessDocument : Json :=
  .object [("id", .null), ("ıd", .null)]

/-- The class declares two getters of one name, and two setters. -/
theorem methodNames_dotless :
    ∃ file, (generateFrom ⟨.java, .json, true, some "root"⟩
        dotlessDocument).outcome = .ok [file] ∧
      methodNames file.text = ["Root", "Root", "getId", "setId", "getId",
        "setId", "fromMap", "toMap", "fromJson", "toJson"] := by
  have hschema : (Schema.infer dotlessDocument "root").outcome
      = .ok ⟨[dotlessShape]⟩ := rfl
  have hresolve : (NameTable.resolve ⟨[dotlessShape]⟩ .java
      true).outcome.toOption = some rootTable := by decide
  have hmethods : (ClassView.ofShape .java rootTable dotlessShape).toOption.map
      (fun view => constructorNames view ++ view.fields.flatMap accessorNames)
        = some ["Root", "Root", "getId", "setId", "getId", "setId"] := by
    decide +kernel
  obtain ⟨files, hgenerated⟩ : ∃ files,
      (generateFrom ⟨.java, .json, true, some "root"⟩
        dotlessDocument).outcome = .ok files :=
    generateFrom_lenient_ok rfl rfl hschema
  obtain ⟨name, schema, table, hname, hown, htable, hfiles⟩ :=
    generateFrom_eq_ok.mp hgenerated
  obtain rfl : "root" = name := by injection hname
  obtain rfl : ⟨[dotlessShape]⟩ = schema :=
    Except.ok.inj (hschema.symm.trans hown)
  have hnames := NameTable.wordlike_get htable
  have hnamed : (NameTable.resolve ⟨[dotlessShape]⟩ .java true).outcome
      = .ok table := htable
  rw [hnamed] at hresolve
  obtain rfl := Option.some.inj hresolve
  match files, hfiles with
  | [file], .cons ⟨view, hview, hfile⟩ .nil =>
      have hrendered := methodNames_ofShape hnames hview
      rw [show ClassView.ofShape .java rootTable dotlessShape = .ok view
        from hview] at hmethods
      refine ⟨file, hgenerated, ?_⟩
      rw [hfile]
      exact hrendered.trans (congrArg (· ++ _) (Option.some.inj hmethods))

end Request
end Recast
