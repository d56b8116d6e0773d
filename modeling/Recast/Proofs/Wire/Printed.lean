import Recast.Proofs.Wire.Accesses
import Recast.Proofs.Wire.Literals
import Recast.Template

/-!
# What a printed conversion looks up and what it reads

A conversion looks a value up under keys and reads fields of the object. Every
language prints the keys as literals and the fields behind its mark, and prints
nothing else that could be taken for either, so both can be read off the text
again. The orders differ, since a comprehension puts its body in front, and some
expressions are printed twice; which keys and which fields there are does not
depend on the language.

The conversion of a field looks up the key of the field and no other when it
decodes, and reads the field and no other when it encodes.
-/

namespace Recast

open Name (Wordlike)

/-! ## Keys and fields of a conversion -/

namespace Conversion

/-- The keys that values are looked up under. -/
def keys : Conversion → List String
  | wire key => [key]
  | stored _ | element _ => []
  | ascribe _ value | decode _ value | encode _ value => value.keys
  | each _ _ _ list body => list.keys ++ body.keys
  | ifPresent subject body => subject.keys ++ body.keys

/-- The fields of the object that are read. -/
def idents : Conversion → List String
  | stored ident => [ident]
  | wire _ | element _ => []
  | ascribe _ value | decode _ value | encode _ value => value.idents
  | each _ _ _ list body => list.idents ++ body.idents
  | ifPresent subject body => subject.idents ++ body.idents

/-- Outside of its keys there is nothing but calm texts. -/
def AllCalm : Conversion → Prop
  | wire _ | element _ => True
  | stored ident => Calm ident
  | ascribe (.exactly type) value =>
    (∀ className ∈ type.refs, Calm className) ∧ value.AllCalm
  | ascribe (.orAbsent typeName) value => Calm typeName ∧ value.AllCalm
  | decode className value => Calm className ∧ value.AllCalm
  | encode _ value => value.AllCalm
  | each _ _ _ list body => list.AllCalm ∧ body.AllCalm
  | ifPresent subject body => subject.AllCalm ∧ body.AllCalm

/-- It writes an object out, so it makes no object and looks nothing up. -/
def Writes : Conversion → Prop
  | element _ => True
  | stored ident => Wordlike ident
  | wire _ | ascribe _ _ | decode _ _ | each .decode _ _ _ _ => False
  | encode _ value => value.Writes
  | each .encode _ _ list body => list.Writes ∧ body.Writes
  | ifPresent subject body => subject.Writes ∧ body.Writes

end Conversion

/-- A text holds the keys of a conversion as its literals. -/
def ShowsKeys (conversion : Conversion) (text : String) : Prop :=
  ∃ keys, Spelled text keys ∧ ∀ key, key ∈ keys ↔ key ∈ conversion.keys

/-- A text reads the fields of a conversion. -/
def ShowsIdents (mark : String) (conversion : Conversion) (text : String) :
    Prop :=
  ∃ names, Mentions mark text names ∧
    ∀ name, name ∈ names ↔ name ∈ conversion.idents

theorem wordlike_words (h : s.toList.all Name.isNameChar = true) : Wordlike s :=
  List.all_eq_true.mp h

theorem mentions_loopVariable {mark : String}
    (hmark : (mark.toList.head? == some 'e') = false) (depth : Nat) :
    Mentions mark (Conversion.loopVariable depth) [] := by
  have hopen : Wordlike "e" := wordlike_words (by decide)
  have hname : Wordlike (Conversion.loopVariable depth) :=
    hopen.append (Name.wordlike_toString depth)
  refine mentions_name hname fun c heq => ?_
  rw [← heq, Conversion.loopVariable, String.toList_append] at hmark
  cases hmark

theorem Conversion.AllCalm.ascribed {ascription : Ascription}
    {value : Conversion} (h : (Conversion.ascribe ascription value).AllCalm) :
    value.AllCalm := by
  cases ascription <;> exact h.2

/-! ## One construct at a time

A language has to say how each construct carries the keys and the fields of its
parts. What a whole conversion carries follows by induction, once for all
languages. -/

/-- A printer keeps the keys in every construct, for a way in which a text can
hold keys. Only a loop may change their order. -/
structure PrintsKeys (Holds : String → List String → Prop)
    (print : Conversion → String) : Prop where
  wire (key : String) : Holds (print (.wire key)) [key]
  stored {ident : String} : Calm ident → Holds (print (.stored ident)) []
  element (depth : Nat) : Holds (print (.element depth)) []
  ascribe {ascription : Ascription} {value : Conversion} {keys : List String} :
    (Conversion.ascribe ascription value).AllCalm → Holds (print value) keys →
    Holds (print (.ascribe ascription value)) keys
  decode {className : String} {value : Conversion} {keys : List String} :
    Calm className → Holds (print value) keys →
    Holds (print (.decode className value)) keys
  encode (optional : Bool) {value : Conversion} {keys : List String} :
    Holds (print value) keys → Holds (print (.encode optional value)) keys
  each (direction : Direction) (optional : Bool) (depth : Nat)
    {list body : Conversion} {keys more : List String} :
    Holds (print list) keys → Holds (print body) more →
    ∃ all, Holds (print (.each direction optional depth list body)) all ∧
      all.Perm (keys ++ more)
  ifPresent {subject body : Conversion} {keys more : List String} :
    Holds (print subject) keys → Holds (print body) more →
    Holds (print (.ifPresent subject body)) (keys ++ more)

theorem PrintsKeys.holds {Holds : String → List String → Prop}
    {print : Conversion → String} (h : PrintsKeys Holds print)
    {conversion : Conversion} (hcalm : conversion.AllCalm) :
    ∃ keys, Holds (print conversion) keys ∧ keys.Perm conversion.keys := by
  induction conversion with
  | wire key => exact ⟨[key], h.wire key, .refl _⟩
  | stored ident => exact ⟨[], h.stored hcalm, .refl _⟩
  | element depth => exact ⟨[], h.element depth, .refl _⟩
  | ascribe ascription value ih =>
      obtain ⟨keys, hkeys, hperm⟩ := ih hcalm.ascribed
      exact ⟨keys, h.ascribe hcalm hkeys, hperm⟩
  | decode className value ih =>
      obtain ⟨keys, hkeys, hperm⟩ := ih hcalm.2
      exact ⟨keys, h.decode hcalm.1 hkeys, hperm⟩
  | encode optional value ih =>
      obtain ⟨keys, hkeys, hperm⟩ := ih hcalm
      exact ⟨keys, h.encode optional hkeys, hperm⟩
  | each direction optional depth list body ihList ihBody =>
      obtain ⟨keys, hkeys, hperm⟩ := ihList hcalm.1
      obtain ⟨more, hmore, hperm'⟩ := ihBody hcalm.2
      obtain ⟨all, hall, horder⟩ := h.each direction optional depth hkeys hmore
      exact ⟨all, hall, horder.trans (hperm.append hperm')⟩
  | ifPresent subject body ihSubject ihBody =>
      obtain ⟨keys, hkeys, hperm⟩ := ihSubject hcalm.1
      obtain ⟨more, hmore, hperm'⟩ := ihBody hcalm.2
      exact ⟨keys ++ more, h.ifPresent hkeys hmore, hperm.append hperm'⟩

theorem PrintsKeys.showsKeys {print : Conversion → String}
    (h : PrintsKeys Spelled print) {conversion : Conversion}
    (hcalm : conversion.AllCalm) : ShowsKeys conversion (print conversion) := by
  obtain ⟨keys, hkeys, hperm⟩ := h.holds hcalm
  exact ⟨keys, hkeys, fun _ => hperm.mem_iff⟩

/-- A printer reads the fields of the parts in every construct that writes an
object out. -/
structure PrintsIdents (mark : String) (print : Conversion → String) :
    Prop where
  stored {ident : String} :
    Wordlike ident → Mentions mark (print (.stored ident)) [ident]
  element (depth : Nat) : Mentions mark (print (.element depth)) []
  encode (optional : Bool) {value : Conversion} {names : List String} :
    Mentions mark (print value) names →
    Mentions mark (print (.encode optional value)) names
  each (optional : Bool) (depth : Nat) {list body : Conversion}
    {names more : List String} :
    Mentions mark (print list) names → Mentions mark (print body) more →
    ∃ all, Mentions mark (print (.each .encode optional depth list body)) all ∧
      all.Perm (names ++ more)
  ifPresent {subject body : Conversion} {names more : List String} :
    Mentions mark (print subject) names → Mentions mark (print body) more →
    Mentions mark (print (.ifPresent subject body)) (names ++ more)

theorem PrintsIdents.mentions {mark : String} {print : Conversion → String}
    (h : PrintsIdents mark print) {conversion : Conversion}
    (hwrites : conversion.Writes) :
    ∃ names, Mentions mark (print conversion) names ∧
      names.Perm conversion.idents := by
  induction conversion with
  | wire key => cases hwrites
  | ascribe ascription value ih => cases hwrites
  | decode className value ih => cases hwrites
  | stored ident => exact ⟨[ident], h.stored hwrites, .refl _⟩
  | element depth => exact ⟨[], h.element depth, .refl _⟩
  | encode optional value ih =>
      obtain ⟨names, hnames, hperm⟩ := ih hwrites
      exact ⟨names, h.encode optional hnames, hperm⟩
  | each direction optional depth list body ihList ihBody =>
      cases direction with
      | decode => cases hwrites
      | encode =>
          obtain ⟨names, hnames, hperm⟩ := ihList hwrites.1
          obtain ⟨more, hmore, hperm'⟩ := ihBody hwrites.2
          obtain ⟨all, hall, horder⟩ := h.each optional depth hnames hmore
          exact ⟨all, hall, horder.trans (hperm.append hperm')⟩
  | ifPresent subject body ihSubject ihBody =>
      obtain ⟨names, hnames, hperm⟩ := ihSubject hwrites.1
      obtain ⟨more, hmore, hperm'⟩ := ihBody hwrites.2
      exact ⟨names ++ more, h.ifPresent hnames hmore, hperm.append hperm'⟩

theorem PrintsIdents.showsIdents {mark : String} {print : Conversion → String}
    (h : PrintsIdents mark print) {conversion : Conversion}
    (hwrites : conversion.Writes) :
    ShowsIdents mark conversion (print conversion) := by
  obtain ⟨names, hnames, hperm⟩ := h.mentions hwrites
  exact ⟨names, hnames, fun _ => hperm.mem_iff⟩

namespace Template

/-! ## Java -/

namespace Java

theorem spelled_ascribed {keys : List String} (h : Spelled s keys)
    {ascription : Ascription} (value : Conversion)
    (hcalm : (Conversion.ascribe ascription value).AllCalm) :
    Spelled (ascribed s ascription) keys := by
  have hcast : ∀ {typeName : String}, Calm typeName →
      Spelled ("(" ++ typeName ++ ") " ++ s) keys := fun htype =>
    ((htype.spelled.after_words (by decide)).words (by decide)).append h
  unfold ascribed
  split
  · exact h.after_words (by decide)
  · exact h.after_words (by decide)
  · exact (h.after_words (by decide)).words (by decide)
  · exact (h.after_words (by decide)).words (by decide)
  · exact hcast (calm_spell .java false hcalm.1)
  · exact hcast hcalm.1

theorem printsKeys : PrintsKeys Spelled print where
  wire key := by
    unfold print
    exact ((spelled_literal rfl key).after_words (by decide)).words (by decide)
  stored hident := by
    unfold print
    exact hident.spelled.after_words (by decide)
  element depth := by
    unfold print
    exact (calm_loopVariable depth).spelled
  ascribe {_ value _} hcalm hvalue := by
    unfold print
    exact spelled_ascribed hvalue value hcalm
  decode hclass hvalue := by
    unfold print
    exact ((hclass.spelled.words (by decide)).append hvalue).words (by decide)
  encode _ _ _ hvalue := by
    unfold print
    exact hvalue.words (by decide)
  each direction _ depth _ _ keys more hlist hbody := by
    refine ⟨keys ++ more, ?_, .refl _⟩
    unfold print
    cases direction with
    | decode =>
        exact ((((((hlist.after_words (by decide)).words (by decide)).words
          (by decide)).calm (calm_loopVariable depth)).words
          (by decide)).append hbody).words (by decide)
    | encode =>
        exact ((((hlist.words (by decide)).calm (calm_loopVariable depth)).words
          (by decide)).append hbody).words (by decide)
  ifPresent hsubject hbody := by
    unfold print
    exact (hsubject.words (by decide)).append hbody

theorem printsIdents : PrintsIdents "this." print where
  stored hident := by
    unfold print
    exact mentions_stored (by decide) hident
  element depth := by
    unfold print
    exact mentions_loopVariable (by decide) depth
  encode _ _ _ hvalue := by
    unfold print
    exact (hvalue.close (by decide)).mentions
  each _ depth _ _ names more hlist hbody := by
    refine ⟨names ++ more, ?_, .refl _⟩
    unfold print
    exact (((((hlist.close (by decide)).idle
      (mentions_loopVariable (by decide) depth)).close (by decide)).append
      hbody).close (by decide)).mentions
  ifPresent hsubject hbody := by
    unfold print
    exact (hsubject.close (by decide)).append hbody

end Java

/-! ## Ruby -/

namespace Ruby

theorem calm_call (optional : Bool) : Calm (call optional) := by
  cases optional <;> exact calm_words (by decide)

theorem silent_call (optional : Bool) : silent "@" (call optional) = true := by
  cases optional <;> decide

theorem printsKeys : PrintsKeys (Woven '\'') print where
  wire key := by
    unfold print
    exact ((Woven.literal key).after_words (by decide)).words (by decide)
  stored hident := by
    unfold print
    exact (Woven.calm hident).after_words (by decide)
  element depth := by
    unfold print
    exact .calm (calm_loopVariable depth)
  ascribe _ hvalue := by
    unfold print
    exact hvalue
  decode hclass hvalue := by
    unfold print
    exact (((Woven.calm hclass).words (by decide)).append hvalue).words
      (by decide)
  encode optional _ _ hvalue := by
    unfold print
    exact (hvalue.then_calm (calm_call optional)).words (by decide)
  each _ optional depth _ _ keys more hlist hbody := by
    refine ⟨keys ++ more, ?_, .refl _⟩
    unfold print
    exact (((((hlist.then_calm (calm_call optional)).words (by decide)).then_calm
      (calm_loopVariable depth)).words (by decide)).append hbody).words
      (by decide)
  ifPresent hsubject hbody := by
    unfold print
    exact (hsubject.words (by decide)).append hbody

theorem woven_print {conversion : Conversion} (h : conversion.AllCalm) :
    ∃ keys, Woven '\'' (print conversion) keys ∧
      ∀ key, key ∈ keys ↔ key ∈ conversion.keys := by
  obtain ⟨keys, hkeys, hperm⟩ := printsKeys.holds h
  exact ⟨keys, hkeys, fun _ => hperm.mem_iff⟩

theorem showsKeys_print {conversion : Conversion} (h : conversion.AllCalm) :
    ShowsKeys conversion (print conversion) := by
  obtain ⟨keys, hkeys, hmem⟩ := woven_print h
  exact ⟨keys, hkeys.spelled rfl, hmem⟩

theorem printsIdents : PrintsIdents "@" print where
  stored hident := by
    unfold print
    exact mentions_stored (by decide) hident
  element depth := by
    unfold print
    exact mentions_loopVariable (by decide) depth
  encode optional _ _ hvalue := by
    have hmethod : Mentions "@" "to_hash" [] :=
      mentions_name (wordlike_words (by decide)) fun c => by simp
    unfold print
    exact (hvalue.close (silent_call optional)).idle hmethod
  each optional depth _ _ names more hlist hbody := by
    have hloop := ((hlist.close (silent_call optional)).then_words
      (t := "map \x7b |") (by decide)).idle
      (mentions_loopVariable (by decide) depth)
    refine ⟨names ++ more, ?_, .refl _⟩
    unfold print
    exact (((hloop.close (by decide)).append hbody).close (by decide)).mentions
  ifPresent hsubject hbody := by
    unfold print
    exact (hsubject.close (by decide)).append hbody

end Ruby

/-! ## Python -/

namespace Python

theorem printsKeys : PrintsKeys Spelled print where
  wire key := by
    unfold print
    exact ((spelled_literal rfl key).after_words (by decide)).words (by decide)
  stored hident := by
    unfold print
    exact hident.spelled.after_words (by decide)
  element depth := by
    unfold print
    exact (calm_loopVariable depth).spelled
  ascribe _ hvalue := by
    unfold print
    exact hvalue
  decode hclass hvalue := by
    unfold print
    exact ((hclass.spelled.words (by decide)).append hvalue).words (by decide)
  encode _ _ _ hvalue := by
    unfold print
    exact hvalue.words (by decide)
  -- a comprehension puts its body in front of the list
  each _ _ depth _ _ keys more hlist hbody := by
    refine ⟨more ++ keys, ?_, List.perm_append_comm⟩
    unfold print
    exact (((((hbody.after_words (by decide)).words (by decide)).calm
      (calm_loopVariable depth)).words (by decide)).append hlist).words
      (by decide)
  ifPresent hsubject hbody := by
    unfold print
    exact ((hsubject.after_words (by decide)).words (by decide)).append hbody

theorem printsIdents : PrintsIdents "self." print where
  stored hident := by
    unfold print
    exact mentions_stored (by decide) hident
  element depth := by
    unfold print
    exact mentions_loopVariable (by decide) depth
  encode _ _ _ hvalue := by
    unfold print
    exact (hvalue.close (by decide)).mentions
  each _ depth _ _ names more hlist hbody := by
    have hfront := (mentionsClosed_words (by decide)).append hbody (s := "[")
    refine ⟨more ++ names, ?_, List.perm_append_comm⟩
    unfold print
    exact (((((hfront.close (by decide)).idle
      (mentions_loopVariable (by decide) depth)).close (by decide)).append
      hlist).close (by decide)).mentions
  ifPresent hsubject hbody := by
    have hfront := (mentionsClosed_words (by decide)).append hsubject
      (s := "None if ")
    unfold print
    exact (hfront.close (by decide)).append hbody

end Python

/-! ## TypeScript -/

namespace TypeScript

theorem calm_call (optional : Bool) : Calm (call optional) := by
  cases optional <;> exact calm_words (by decide)

theorem silent_call (optional : Bool) :
    silent "this." (call optional) = true := by
  cases optional <;> decide

theorem spelled_ascribed {keys : List String} (h : Spelled s keys)
    {ascription : Ascription} (value : Conversion)
    (hcalm : (Conversion.ascribe ascription value).AllCalm) :
    Spelled (ascribed s ascription) keys := by
  unfold ascribed
  split
  · exact (h.words (by decide)).calm (calm_spell .typescript false hcalm.1)
  · exact ((h.words (by decide)).calm hcalm.1).words (by decide)

theorem spelled_asList {keys : List String} (h : Spelled s keys)
    (optional : Bool) : Spelled (asList optional s) keys := by
  have habsent : Calm (if optional then " | undefined" else "") := by
    cases optional <;> exact calm_words (by decide)
  exact (((h.after_words (by decide)).words (by decide)).calm habsent).words
    (by decide)

theorem printsKeys : PrintsKeys Spelled print where
  wire key := by
    unfold print
    exact ((spelled_literal rfl key).after_words (by decide)).words (by decide)
  stored hident := by
    unfold print
    exact hident.spelled.after_words (by decide)
  element depth := by
    unfold print
    exact (calm_loopVariable depth).spelled
  ascribe {_ value _} hcalm hvalue := by
    unfold print
    exact spelled_ascribed hvalue value hcalm
  decode hclass hvalue := by
    unfold print
    exact ((((hclass.spelled.words (by decide)).append hvalue).words
      (by decide)).words (by decide)).words (by decide)
  encode optional _ _ hvalue := by
    unfold print
    exact (hvalue.calm (calm_call optional)).words (by decide)
  each direction optional depth _ _ keys more hlist hbody := by
    refine ⟨keys ++ more, ?_, .refl _⟩
    unfold print
    cases direction with
    | decode =>
        exact ((((((spelled_asList hlist optional).calm
          (calm_call optional)).words (by decide)).calm
          (calm_loopVariable depth)).words (by decide)).append hbody).words
          (by decide)
    | encode =>
        exact (((((hlist.calm (calm_call optional)).words (by decide)).calm
          (calm_loopVariable depth)).words (by decide)).append hbody).words
          (by decide)
  ifPresent hsubject hbody := by
    unfold print
    exact (hsubject.words (by decide)).append hbody

theorem printsIdents : PrintsIdents "this." print where
  stored hident := by
    unfold print
    exact mentions_stored (by decide) hident
  element depth := by
    unfold print
    exact mentions_loopVariable (by decide) depth
  encode optional _ _ hvalue := by
    unfold print
    exact ((hvalue.close (silent_call optional)).then_words
      (by decide)).mentions
  each optional depth _ _ names more hlist hbody := by
    have hloop := ((hlist.close (silent_call optional)).then_words
      (t := "map((") (by decide)).idle
      (mentions_loopVariable (by decide) depth)
    refine ⟨names ++ more, ?_, .refl _⟩
    unfold print
    exact (((hloop.close (by decide)).append hbody).close (by decide)).mentions
  ifPresent hsubject hbody := by
    unfold print
    exact (hsubject.close (by decide)).append hbody

end TypeScript
end Template
end Recast
