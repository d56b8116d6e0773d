import Recast.Proofs.Names.Openings

/-!
# When the names of a key can be used

A class name is always an identifier that opens on a capital, and a field name
always an identifier apart from what it opens on. The rest depends on the key,
and `spellable` says how.

What is a letter or a number is asked three times in the making of names. A
key is accepted for any alphanumeric character, enclosed letters and marks
among them, but only letters and numbers make words: a key without any gets an
empty field. A leading digit is kept off only if it is an ASCII digit, so a
field opens on any other number that its key opens on. And a module is the
small form of a class name without being made an identifier again, so it can
hold the combining dot of a dotted capital.
-/

namespace Recast.Name

open Unicode (SameKind isAlphanumeric isNumeric isRoman isUppercase isWordChar
  lowerChar upperChar)

/-- A text opens on a character with a property. -/
def OpensOn (p : Char → Bool) (text : String) : Prop :=
  ∃ c, text.toList.head? = some c ∧ p c = true

/-- What the names of a key are to be like. -/
structure Fit (className fieldName moduleName : String) : Prop where
  class_ne : className ≠ ""
  field_ne : fieldName ≠ ""
  module_ne : moduleName ≠ ""
  class_wordlike : Wordlike className
  field_wordlike : Wordlike fieldName
  module_wordlike : Wordlike moduleName
  class_opens : OpensOn isUppercase className
  field_opens : ¬ OpensOn isNumeric fieldName
  module_opens : ¬ OpensOn isNumeric moduleName

/-- A key opens on an enclosed letter: the capital form is uppercase, but
neither a letter nor a number. -/
def opensEnclosed (key : List Char) : Bool :=
  key.head?.any fun c => isAlphanumeric c &&
    (upperChar c).head?.any fun d => isUppercase d && !isWordChar d

/-- The opening of a key is a letter or an ASCII digit. -/
def opensWell (key : List Char) : Bool :=
  (opening? key).any fun c => !isNumeric c || c.isDigit

/-- What the module in a language asks of a key. One in snake case takes no
class name with a dotted capital. In Ruby, where an enclosed letter can open a
class name, no number may follow such a letter as the opening. -/
def suitsModule (language : Language) (key : List Char) : Bool :=
  match language with
  | .java | .typescript => true
  | .ruby => !key.contains 'İ' &&
      !(opensEnclosed key && (opening? key).any isNumeric)
  | .python | .rust => (words key).all fun word => word.head? != some 'İ'

/-- What a key must be like for its names in a language. -/
def spellable (language : Language) (key : List Char) : Bool :=
  opensWell key && suitsModule language key

variable {conventions : Conventions} {key name : String} {c : Char}

/-! ## Fields -/

theorem head?_avoidKeyword {keywords : List String} (h : name ≠ "") :
    (avoidKeyword keywords name).toList.head? = name.toList.head? := by
  rw [avoidKeyword]
  split
  · rw [String.toList_append, List.head?_append_of_ne_nil]
    exact fun hnil => h (String.toList_eq_nil_iff.mp hnil)
  · rfl

/-- A field opens on the small form of its key's opening, or on an underscore
in front of that. -/
theorem head?_fieldName? (language : Language)
    (hfield : fieldName? language.conventions key = some name)
    (hopening : opening? key.toList = some c) :
    ∃ d, name.toList.head? = some (if d.isDigit then '_' else d) ∧
      (lowerChar c).head? = some d ∧ SameKind c d := by
  obtain ⟨own, hown, rfl⟩ := Option.map_eq_some_iff.mp hfield
  rw [Case.nameOf?] at hown
  split at hown
  · injection hown with hown
    have hwrite : ∃ d, (language.conventions.fieldCase.write key.toList).head?
        = some d ∧ (lowerChar c).head? = some d ∧ SameKind c d := by
      cases language with
      | java | typescript => exact head?_camelCase hopening
      | ruby | python | rust => exact head?_snakeCase hopening
    obtain ⟨d, hd, hlower, hkind⟩ := hwrite
    have hhead : own.toList.head? = some (if d.isDigit then '_' else d) := by
      rw [← hown, String.toList_ofList, head?_identifier, hd, Option.map_some,
        identifierChar_of_isWordChar hkind.word]
    refine ⟨d, ?_, hlower, hkind⟩
    rw [head?_avoidKeyword, hhead]
    rintro rfl
    cases hhead
  · cases hown

/-- A key without an opening has an empty field. -/
theorem fieldName?_of_opening?_eq_none (language : Language)
    (hfield : fieldName? language.conventions key = some name)
    (hopening : opening? key.toList = none) : name = "" := by
  have hwords := words_eq_nil_iff.mpr hopening
  obtain ⟨own, hown, rfl⟩ := Option.map_eq_some_iff.mp hfield
  rw [Case.nameOf?] at hown
  split at hown
  · injection hown with hown
    have hwrite :
        language.conventions.fieldCase.write key.toList = [] := by
      cases language with
      | java | typescript =>
          rw [show Case.write _ _ = camelCase key.toList from rfl, camelCase,
            hwords]
      | ruby | python | rust => exact snakeCase_eq_nil_iff.mpr hwords
    rw [hwrite] at hown
    subst hown
    cases language <;> decide
  · cases hown

/-- A field is empty or opens on a number exactly if the key has no opening or
the opening is a number beyond ASCII. -/
theorem field_fit_iff (language : Language)
    (hfield : fieldName? language.conventions key = some name) :
    (name ≠ "" ∧ ¬ OpensOn isNumeric name) ↔ opensWell key.toList = true := by
  rw [opensWell]
  cases hopening : opening? key.toList with
  | none =>
      have hempty := fieldName?_of_opening?_eq_none language hfield hopening
      simp [hempty]
  | some c =>
      obtain ⟨d, hhead, -, hkind⟩ := head?_fieldName? language hfield hopening
      have hne : name ≠ "" := by
        rintro rfl
        cases hhead
      have hunderscore : isNumeric '_' = false := by decide
      rw [Option.any_some, ← hkind.numeric, ← hkind.digit, OpensOn, hhead]
      by_cases hdigit : d.isDigit = true
      · simp [hne, hdigit, hunderscore]
      · simp [hne, hdigit]

/-! ## Classes -/

theorem className?_cases (h : className? conventions key = some name) :
    ∃ own, identifier (conventions.classCase.write key.toList) = own ∧
      ((∃ c, own.head? = some c ∧ isUppercase c = true ∧ name.toList = own) ∨
        name.toList = "Class".toList ++ own ∧
          ∀ c, own.head? = some c → isUppercase c = false) := by
  obtain ⟨own, hown, rfl⟩ := Option.map_eq_some_iff.mp h
  rw [Case.nameOf?] at hown
  split at hown
  · injection hown with hown
    refine ⟨_, rfl, ?_⟩
    rw [← hown, openCapital, String.toList_ofList]
    split
    · next c rest hchars =>
        rw [hchars]
        split
        · next hupper =>
            exact .inl ⟨c, rfl, hupper, by rw [String.toList_ofList]⟩
        · next hlower =>
            refine .inr ⟨by simp, ?_⟩
            rintro d hd
            injection hd with hd
            rw [← hd]
            simpa using hlower
    · next hnil =>
        rw [hnil]
        refine .inr ⟨by simp, ?_⟩
        rintro d hd
        cases hd
  · cases hown

theorem opensOn_className? (h : className? conventions key = some name) :
    OpensOn isUppercase name := by
  obtain ⟨own, -, ⟨c, hc, hupper, hname⟩ | ⟨hname, -⟩⟩ := className?_cases h
  · exact ⟨c, by rw [hname, hc], hupper⟩
  · refine ⟨'C', by rw [hname]; rfl, by decide⟩

theorem not_isUppercase_underscore : isUppercase '_' = false := by
  decide

theorem of_head?_identifier {text : List Char}
    (h : (identifier text).head? = some c) (hne : c ≠ '_') :
    text.head? = some c ∧ isAlphanumeric c = true := by
  rw [head?_identifier] at h
  obtain ⟨d, hd, hc⟩ := Option.map_eq_some_iff.mp h
  split at hc
  · exact absurd hc.symm hne
  · rw [identifierChar] at hc
    split at hc
    · next hchar =>
        subst hc
        rw [Bool.or_eq_true, beq_iff_eq] at hchar
        exact ⟨hd, hchar.resolve_right hne⟩
    · exact absurd hc.symm hne

/-- A class name that is the raised key opens on the capital form of the first
character of the key. -/
theorem of_head?_raiseFirst {text : List Char}
    (h : (identifier (raiseFirst (identifier text))).head? = some c)
    (hne : c ≠ '_') :
    ∃ d, text.head? = some d ∧ isAlphanumeric d = true ∧
      (upperChar d).head? = some c := by
  obtain ⟨hhead, -⟩ := of_head?_identifier h hne
  cases hown : identifier text with
  | nil =>
      rw [hown] at hhead
      cases hhead
  | cons d rest =>
      rw [hown, raiseFirst, List.head?_append_of_ne_nil _ (upperChar_ne_nil d)]
        at hhead
      have hd : d ≠ '_' := by
        rintro rfl
        have hupper : upperChar '_' = ['_'] := by decide
        rw [hupper] at hhead
        injection hhead with hhead
        exact hne hhead.symm
      obtain ⟨htext, halnum⟩ := of_head?_identifier (by rw [hown]; rfl) hd
      exact ⟨d, htext, halnum, hhead⟩

theorem of_head?_pascalCase {text : List Char}
    (h : (identifier (pascalCase text)).head? = some c) (hne : c ≠ '_') :
    ∃ d, opening? text = some d ∧ (upperChar d).head? = some c := by
  obtain ⟨hhead, -⟩ := of_head?_identifier h hne
  cases hopening : opening? text with
  | none =>
      rw [pascalCase, words_eq_nil_iff.mpr hopening] at hhead
      cases hhead
  | some d =>
      rw [head?_pascalCase hopening] at hhead
      exact ⟨d, rfl, hhead⟩

/-- The only uppercase characters that are numbers are Roman numerals. -/
theorem isRoman_of_isUppercase (hupper : isUppercase c = true)
    (hnumeric : isNumeric c = true) : isRoman c = true := by
  have hword : isWordChar c = true := by rw [isWordChar, hnumeric, Bool.or_true]
  have hplain := not_isEnclosed_of_isWordChar hword
  rw [isUppercase, Bool.or_eq_true] at hupper
  rcases hupper with hcapital | hother
  · rw [Unicode.isCapital, beq_iff_eq] at hcapital
    rw [isNumeric, hcapital] at hnumeric
    cases hnumeric
  · refine Unicode.isRoman_iff.mpr ?_
    simp only [Unicode.otherUppercase, Unicode.inRanges, isEnclosed,
      Bool.or_eq_false_iff, Bool.and_eq_false_iff, decide_eq_false_iff_not]
      at hother hplain
    grind

theorem isWordChar_of_isRoman (h : isRoman c = true) : isWordChar c = true := by
  rw [isWordChar, isNumeric, Unicode.category_of_isRoman h]
  exact Bool.or_true _

/-- A class name opens on a number only if its key does, and then on a Roman
numeral. -/
theorem opening?_of_isRoman (language : Language)
    (h : className? language.conventions key = some name)
    (hhead : name.toList.head? = some c) (hroman : isRoman c = true) :
    ∃ d, opening? key.toList = some d ∧ isRoman d = true := by
  have hne : c ≠ '_' := by
    rintro rfl
    revert hroman
    decide
  obtain ⟨own, hown, ⟨d, -, -, hname⟩ | ⟨hname, -⟩⟩ := className?_cases h
  · rw [hname, ← hown] at hhead
    have hpascal : (identifier (pascalCase key.toList)).head? = some c →
        ∃ d, opening? key.toList = some d ∧ isRoman d = true := by
      intro hhead
      obtain ⟨d, hd, hupper⟩ := of_head?_pascalCase hhead hne
      exact ⟨d, hd, Unicode.isRoman_of_mem_upperChar
        (List.mem_of_head? hupper) hroman⟩
    have hraised : (identifier (raiseFirst (identifier key.toList))).head?
          = some c → ∃ d, opening? key.toList = some d ∧ isRoman d = true := by
      intro hhead
      obtain ⟨d, hd, -, hupper⟩ := of_head?_raiseFirst hhead hne
      have hroman' := Unicode.isRoman_of_mem_upperChar
        (List.mem_of_head? hupper) hroman
      obtain ⟨rest, hkey⟩ := List.head?_eq_some_iff.mp hd
      refine ⟨d, ?_, hroman'⟩
      rw [opening?, hkey, List.find?_cons_of_pos (isWordChar_of_isRoman hroman')]
    cases language with
    | java | ruby => exact hraised hhead
    | python | typescript | rust => exact hpascal hhead
  · obtain rfl : 'C' = c := by
      rw [hname] at hhead
      exact Option.some.inj hhead
    exact absurd hroman (by decide)

theorem not_isNumeric_of_head? (language : Language)
    (h : className? language.conventions key = some name)
    (hhead : name.toList.head? = some c) (hupper : isUppercase c = true)
    (hkey : opensWell key.toList = true) : isNumeric c = false := by
  rw [Bool.eq_false_iff]
  intro hnumeric
  obtain ⟨d, hd, hroman⟩ := opening?_of_isRoman language h hhead
    (isRoman_of_isUppercase hupper hnumeric)
  have hnumber : isNumeric d = true := by
    rw [isNumeric, Unicode.category_of_isRoman hroman]
    rfl
  rw [opensWell, hd, Option.any_some, hnumber,
    Unicode.isDigit_eq_false_of_isRoman hroman] at hkey
  cases hkey

/-- A class name in capitalized words opens on a letter or number. -/
theorem isWordChar_of_pascal (hcase : conventions.classCase = .pascal)
    (h : className? conventions key = some name)
    (hhead : name.toList.head? = some c) (hupper : isUppercase c = true) :
    isWordChar c = true := by
  obtain ⟨own, hown, ⟨d, -, -, hname⟩ | ⟨hname, -⟩⟩ := className?_cases h
  · rw [hname, ← hown, hcase] at hhead
    refine isWordChar_of_isUppercase hupper ?_
    rcases mem_of_mem_identifier (List.mem_of_head? hhead) with rfl | hmem
    · decide
    · exact not_isEnclosed_of_mem_pascalCase hmem
  · obtain rfl : 'C' = c := by
      rw [hname] at hhead
      exact Option.some.inj hhead
    decide

/-- A class name that is the raised key opens on a letter or number unless the
key opens on an enclosed letter. -/
theorem isWordChar_of_raised (hcase : conventions.classCase = .capitalizeFirst)
    (h : className? conventions key = some name)
    (hhead : name.toList.head? = some c) (hupper : isUppercase c = true)
    (henclosed : opensEnclosed key.toList = false) : isWordChar c = true := by
  obtain ⟨own, hown, ⟨d, -, -, hname⟩ | ⟨hname, -⟩⟩ := className?_cases h
  · rw [hname, ← hown, hcase] at hhead
    have hne : c ≠ '_' := by
      rintro rfl
      rw [not_isUppercase_underscore] at hupper
      cases hupper
    obtain ⟨d, hd, halnum, hraised⟩ := of_head?_raiseFirst hhead hne
    rw [opensEnclosed, hd, Option.any_some, halnum, hraised, Option.any_some,
      hupper] at henclosed
    simpa using henclosed
  · obtain rfl : 'C' = c := by
      rw [hname] at hhead
      exact Option.some.inj hhead
    decide

/-- No capital form of several characters opens on an enclosed letter. -/
theorem upperChar_eq_of_isEnclosed {d : Char}
    (hhead : (upperChar c).head? = some d) (hd : isEnclosed d.toNat = true) :
    upperChar c = [d] := by
  have hseveral : Unicode.upperSeveral.all (fun row => row.2.all fun n =>
      !isEnclosed (Char.ofNat n).toNat) = true := by decide
  rw [upperChar, Unicode.mapCase] at hhead ⊢
  split at hhead
  · next images himages =>
      obtain ⟨n, hn, rfl⟩ := List.mem_map.mp (List.mem_of_head? hhead)
      have himage := List.all_eq_true.mp hseveral _
        (Unicode.mem_of_severalFor himages)
      have hnot := List.all_eq_true.mp himage n hn
      rw [hd] at hnot
      cases hnot
  · injection hhead with hhead
    rw [hhead]

theorem opening?_cons_of_not {rest : List Char} (h : isWordChar c = false) :
    opening? (c :: rest) = opening? rest := by
  rw [opening?, List.find?_cons_of_neg (by rw [h]; exact Bool.false_ne_true),
    opening?]

theorem identifier_of_not_isWordChar {rest : List Char}
    (halnum : isAlphanumeric c = true) (hword : isWordChar c = false) :
    identifier (c :: rest) = c :: rest.map identifierChar := by
  have hchar : identifierChar c = c := by
    rw [identifierChar, if_pos]
    rw [halnum, Bool.true_or]
  have hdigit : c.isDigit = false := by
    rw [Bool.eq_false_iff]
    intro hdigit
    rw [(digit_properties hdigit).2.1] at hword
    cases hword
  simp [identifier, hchar, hdigit]

/-- An enclosed letter does not get into a word, so the class name has the
opening of the key. -/
theorem opening?_of_opensEnclosed
    (hcase : conventions.classCase = .capitalizeFirst)
    (h : className? conventions key = some name)
    (henclosed : opensEnclosed key.toList = true) :
    opening? name.toList = opening? key.toList := by
  obtain ⟨k, hk, hcapital⟩ := (Option.any_eq_true _ _).mp henclosed
  rw [Bool.and_eq_true] at hcapital
  obtain ⟨halnum, hcapital⟩ := hcapital
  obtain ⟨d, hd, hkinds⟩ := (Option.any_eq_true _ _).mp hcapital
  rw [Bool.and_eq_true, Bool.not_eq_true'] at hkinds
  obtain ⟨hupper, hword⟩ := hkinds
  have hdenclosed : isEnclosed d.toNat = true := by
    by_contra hplain
    rw [isWordChar_of_isUppercase hupper (by simpa using hplain)] at hword
    cases hword
  have hkword : isWordChar k = false := by
    by_contra hkword
    rw [not_isEnclosed_mapCase (by decide) (by decide)
      (by simpa using hkword) (List.mem_of_head? hd)] at hdenclosed
    cases hdenclosed
  obtain ⟨rest, hkey⟩ := List.head?_eq_some_iff.mp hk
  have hwrite : identifier (raiseFirst (identifier (k :: rest)))
      = d :: (rest.map identifierChar).map identifierChar := by
    rw [identifier_of_not_isWordChar halnum hkword, raiseFirst,
      upperChar_eq_of_isEnclosed hd hdenclosed, List.singleton_append,
      identifier_of_not_isWordChar
        (Unicode.isAlphanumeric_of_isUppercase hupper) hword]
  obtain ⟨own, hown, ⟨-, -, -, hname⟩ | ⟨-, hlower⟩⟩ := className?_cases h
  · rw [hname, ← hown, hcase, hkey, opening?_cons_of_not hkword]
    rw [show Case.write _ _ = raiseFirst (identifier (k :: rest)) from rfl,
      hwrite, opening?_cons_of_not hword, opening?_map_identifierChar,
      opening?_map_identifierChar]
  · rw [hcase, hkey, show Case.write _ _
      = raiseFirst (identifier (k :: rest)) from rfl, hwrite] at hown
    rw [← hown] at hlower
    rw [hlower d rfl] at hupper
    cases hupper

/-! ## The dotted capital in class names -/

theorem mem_identifier_iff {text : List Char} (hc : isWordChar c = true) :
    c ∈ identifier text ↔ c ∈ text := by
  constructor
  · intro h
    rcases mem_of_mem_identifier h with rfl | hmem
    · rw [not_isWordChar_underscore] at hc
      cases hc
    · exact hmem
  · intro h
    have hmap : c ∈ text.map identifierChar :=
      List.mem_map.mpr ⟨c, h, identifierChar_of_isWordChar hc⟩
    rw [identifier]
    split
    · next hnil =>
        rw [hnil] at hmap
        cases hmap
    · next first rest hcons =>
        rw [hcons] at hmap
        split
        · exact List.mem_cons_of_mem _ hmap
        · exact hmap

theorem isWordChar_dotted : isWordChar 'İ' = true := by
  decide

theorem dotted_mem_className? (h : className? conventions key = some name) :
    'İ' ∈ name.toList ↔ 'İ' ∈ conventions.classCase.write key.toList := by
  obtain ⟨own, hown, hcases⟩ := className?_cases h
  have hmem : 'İ' ∈ own ↔ 'İ' ∈ conventions.classCase.write key.toList := by
    rw [← hown, mem_identifier_iff isWordChar_dotted]
  rcases hcases with ⟨-, -, -, hname⟩ | ⟨hname, -⟩
  · rw [hname, hmem]
  · have hclass : 'İ' ∉ "Class".toList := by decide
    rw [hname, List.mem_append, or_iff_right hclass, hmem]

theorem dotted_mem_pascalCase {text : List Char} :
    'İ' ∈ pascalCase text ↔ ∃ word ∈ words text, word.head? = some 'İ' := by
  rw [pascalCase, List.mem_flatMap]
  refine exists_congr fun word => and_congr_right fun _ => ?_
  cases word with
  | nil => simp [capitalize]
  | cons c rest =>
      have hrest : 'İ' ∉ rest.flatMap lowerChar := by
        intro h
        obtain ⟨d, -, hd⟩ := List.mem_flatMap.mp h
        exact Unicode.dotted_not_mem_lowerChar d hd
      rw [capitalize, List.mem_append, or_iff_left hrest,
        Unicode.dotted_mem_upperChar, List.head?_cons, Option.some.injEq]

theorem dotted_mem_raiseFirst {text : List Char} :
    'İ' ∈ raiseFirst text ↔ 'İ' ∈ text := by
  cases text with
  | nil => rfl
  | cons c rest =>
      rw [raiseFirst, List.mem_append, Unicode.dotted_mem_upperChar,
        List.mem_cons, eq_comm]

/-! ## Modules -/

theorem wordlike_snakeCase_iff {text : List Char} :
    Wordlike (String.ofList (snakeCase text)) ↔ 'İ' ∉ text := by
  rw [Wordlike, String.toList_ofList, isNameChar_snakeCase_iff]

/-- A module in snake case opens on a number exactly if the opening of its
class name is one. -/
theorem opensOn_snakeCase_iff {text : List Char} (h : opening? text = some c) :
    String.ofList (snakeCase text) ≠ "" ∧
      (OpensOn isNumeric (String.ofList (snakeCase text)) ↔
        isNumeric c = true) := by
  obtain ⟨d, hd, -, hkind⟩ := head?_snakeCase h
  constructor
  · intro hempty
    rw [String.ofList_eq_empty_iff] at hempty
    rw [hempty] at hd
    cases hd
  · rw [OpensOn, String.toList_ofList, hd, ← hkind.numeric]
    simp

/-- The module of a key that opens well. -/
theorem module_fit_iff (language : Language)
    (h : className? language.conventions key = some name)
    (hkey : opensWell key.toList = true) :
    (moduleOf language.conventions name ≠ "" ∧
        Wordlike (moduleOf language.conventions name) ∧
        ¬ OpensOn isNumeric (moduleOf language.conventions name)) ↔
      suitsModule language key.toList = true := by
  obtain ⟨c, hhead, hupper⟩ := opensOn_className? h
  have hnumeric := not_isNumeric_of_head? language h hhead hupper hkey
  have hplain : name ≠ "" ∧ Wordlike name ∧ ¬ OpensOn isNumeric name := by
    refine ⟨?_, wordlike_of_className? h, ?_⟩
    · rintro rfl
      cases hhead
    · simp [OpensOn, hhead, hnumeric]
  have hsnake : ∀ {d : Char}, opening? name.toList = some d →
      ((String.ofList (snakeCase name.toList) ≠ "" ∧
        Wordlike (String.ofList (snakeCase name.toList)) ∧
        ¬ OpensOn isNumeric (String.ofList (snakeCase name.toList))) ↔
      ('İ' ∉ name.toList ∧ isNumeric d = false)) := by
    intro d hd
    obtain ⟨hne, hopens⟩ := opensOn_snakeCase_iff hd
    rw [wordlike_snakeCase_iff, hopens, Bool.not_eq_true]
    exact and_iff_right hne
  have hword : isWordChar c = true → opening? name.toList = some c := by
    intro hc
    obtain ⟨rest, hname⟩ := List.head?_eq_some_iff.mp hhead
    rw [opening?, hname, List.find?_cons_of_pos hc]
  cases language with
  | java | typescript => exact iff_of_true hplain rfl
  | python | rust =>
      refine (hsnake (hword (isWordChar_of_pascal rfl h hhead hupper))).trans ?_
      rw [dotted_mem_className? h, hnumeric, and_iff_left rfl]
      refine (not_congr dotted_mem_pascalCase).trans ?_
      simp [suitsModule]
  | ruby =>
      have hdotted : 'İ' ∈ name.toList ↔ 'İ' ∈ key.toList := by
        rw [dotted_mem_className? h]
        exact dotted_mem_raiseFirst.trans (mem_identifier_iff isWordChar_dotted)
      cases henclosed : opensEnclosed key.toList with
      | false =>
          refine (hsnake (hword
            (isWordChar_of_raised rfl h hhead hupper henclosed))).trans ?_
          rw [hdotted, hnumeric, and_iff_left rfl]
          simp [suitsModule, henclosed]
      | true =>
          obtain ⟨d, hd, -⟩ := (Option.any_eq_true _ _).mp hkey
          have hopening := opening?_of_opensEnclosed rfl h henclosed
          refine (hsnake (hopening.trans hd)).trans ?_
          rw [hdotted]
          simp [suitsModule, henclosed, hd]

/-- A usable key has names in every language, of which the class is always as
it should be and the field always an identifier apart from its opening. All
three names are as they should be exactly for spellable keys. -/
theorem fit_iff_spellable (language : Language) (h : usable key = true) :
    ∃ className fieldName moduleName,
      className? language.conventions key = some className ∧
      fieldName? language.conventions key = some fieldName ∧
      moduleName? language.conventions key = some moduleName ∧
      (className ≠ "" ∧ Wordlike className ∧ OpensOn isUppercase className ∧
        Wordlike fieldName) ∧
      (Fit className fieldName moduleName ↔
        spellable language key.toList = true) := by
  obtain ⟨className, hclass⟩ := Option.isSome_iff_exists.mp
    ((isSome_className? language.conventions).trans h)
  obtain ⟨fieldName, hfield⟩ := Option.isSome_iff_exists.mp
    ((isSome_fieldName? language.conventions).trans h)
  have hopens := opensOn_className? hclass
  have hwordlike := wordlike_of_className? hclass
  have hfieldlike := wordlike_of_fieldName? hfield
  have hne : className ≠ "" := by
    rintro rfl
    obtain ⟨c, hc, -⟩ := hopens
    cases hc
  refine ⟨className, fieldName, moduleOf language.conventions className, hclass,
    hfield, by rw [moduleName?, hclass, Option.map_some],
    ⟨hne, hwordlike, hopens, hfieldlike⟩, ?_⟩
  rw [spellable, Bool.and_eq_true, ← field_fit_iff language hfield]
  constructor
  · intro hfit
    have hfieldfit := And.intro hfit.field_ne hfit.field_opens
    have hkey := (field_fit_iff language hfield).mp hfieldfit
    exact ⟨hfieldfit, (module_fit_iff language hclass hkey).mp
      ⟨hfit.module_ne, hfit.module_wordlike, hfit.module_opens⟩⟩
  · rintro ⟨hfieldfit, hsuits⟩
    have hkey := (field_fit_iff language hfield).mp hfieldfit
    obtain ⟨hmodule, hmodulelike, hmoduleopens⟩ :=
      (module_fit_iff language hclass hkey).mpr hsuits
    exact ⟨hne, hfieldfit.1, hmodule, hwordlike, hfieldlike, hmodulelike, hopens,
      hfieldfit.2, hmoduleopens⟩

/-- A key with a number in it that is no digit. -/
theorem fit_iff_spellable_area :
    usable "area m²" = true ∧
      ∃ className fieldName moduleName,
        className? .ruby "area m²" = some className ∧
        fieldName? .ruby "area m²" = some fieldName ∧
        moduleName? .ruby "area m²" = some moduleName ∧
        Fit className fieldName moduleName := by
  have husable : usable "area m²" = true := by decide
  obtain ⟨className, fieldName, moduleName, hclass, hfield, hmodule, -, hfit⟩ :=
    fit_iff_spellable .ruby husable
  exact ⟨husable, className, fieldName, moduleName, hclass, hfield, hmodule,
    hfit.mpr (by decide)⟩

/-- An enclosed letter makes a key usable, but neither a field nor a module. -/
theorem not_fit_circled :
    usable "Ⓐ" = true ∧
      ∃ className fieldName moduleName,
        className? .ruby "Ⓐ" = some className ∧
        fieldName? .ruby "Ⓐ" = some fieldName ∧
        moduleName? .ruby "Ⓐ" = some moduleName ∧
        fieldName = "" ∧ moduleName = "" ∧
        ¬ Fit className fieldName moduleName := by
  refine ⟨by decide +kernel, "Ⓐ", "", "", by decide +kernel, by decide +kernel,
    by decide +kernel, rfl, rfl, fun hfit => hfit.field_ne rfl⟩

end Recast.Name
