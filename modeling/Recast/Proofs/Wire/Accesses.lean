import Recast.Conversion
import Recast.Proofs.Names.Plain

/-!
# The fields that an expression reads

Each language has a mark that stands in front of the fields of the object at
hand: a name and a dot, or a sign of its own. A reader goes through an
expression name by name, so a name that merely ends like the mark is not taken
for it, and a name behind the mark is read to its end.

`Mentions` says which fields a text reads, whatever stands behind it as long as
no name goes on there. The words of a template that bring neither a mark nor the
beginning of one can be read over.
-/

namespace Recast

open Name (Wordlike isNameChar)

/-! ## Reading -/

/-- The names behind the marks of a text, given the name that is being read,
last character first, and whether that one stands behind a mark itself. -/
def accessesFrom (mark : String) (behind : Bool) (name : List Char) :
    List Char → List String
  | [] => if behind then [String.ofList name.reverse] else []
  | c :: rest =>
    if isNameChar c then accessesFrom mark behind (c :: name) rest
    else
      let others := accessesFrom mark
        (!behind && name.reverse ++ [c] == mark.toList) [] rest
      if behind then String.ofList name.reverse :: others else others

/-- The fields that an expression reads, in order. -/
def accesses (mark expression : String) : List String :=
  accessesFrom mark false [] expression.toList

/-! ## Texts that read fields -/

/-- Neither a name nor a mark goes on into the rest. -/
def Boundary (mark : String) (rest : List Char) : Prop :=
  ∀ c, rest.head? = some c → isNameChar c = false ∧ [c] ≠ mark.toList

/-- A text reads these fields if no name goes on behind it. -/
def Mentions (mark text : String) (names : List String) : Prop :=
  ∀ rest, Boundary mark rest →
    accessesFrom mark false [] (text.toList ++ rest)
      = names ++ accessesFrom mark false [] rest

/-- A text reads these fields, and no name goes on behind it in any case. -/
def MentionsClosed (mark text : String) (names : List String) : Prop :=
  ∀ rest, accessesFrom mark false [] (text.toList ++ rest)
    = names ++ accessesFrom mark false [] rest

/-- Where the reader stands behind a text in which no name ends that is behind
a mark. -/
def readOver (mark : String) (behind : Bool) (name : List Char) :
    List Char → Option (Bool × List Char)
  | [] => some (behind, name)
  | c :: rest =>
    if isNameChar c then readOver mark behind (c :: name) rest
    else if behind then none
    else readOver mark (name.reverse ++ [c] == mark.toList) [] rest

/-- Words that open on no name and end outside of one, and bring no mark. -/
def silent (mark words : String) : Bool :=
  words.toList.head?.any (fun c => !isNameChar c && [c] != mark.toList) &&
    readOver mark false [] words.toList == some (false, [])

variable {mark text words : String} {names : List String} {rest : List Char}

theorem Mentions.accesses_eq (h : Mentions mark text names) :
    accesses mark text = names := by
  have hall := h [] nofun
  rw [List.append_nil] at hall
  rw [accesses, hall, accessesFrom, if_neg Bool.false_ne_true,
    List.append_nil]

theorem accessesFrom_append {behind behind' : Bool} {name name' chars : List Char}
    (h : readOver mark behind name chars = some (behind', name'))
    (rest : List Char) :
    accessesFrom mark behind name (chars ++ rest)
      = accessesFrom mark behind' name' rest := by
  induction chars generalizing behind name with
  | nil =>
      rw [readOver] at h
      obtain ⟨rfl, rfl⟩ := Prod.mk.inj (Option.some.inj h)
      rfl
  | cons c chars ih =>
      rw [readOver] at h
      rw [List.cons_append, accessesFrom]
      split at h
      · next hname =>
          rw [if_pos hname, ih h]
      · next hname =>
          split at h
          · cases h
          · next hbehind =>
              rw [Bool.not_eq_true] at hbehind
              subst hbehind
              rw [if_neg hname, if_neg Bool.false_ne_true, Bool.not_false,
                Bool.true_and, ih h]

theorem accessesFrom_words
    (h : readOver mark false [] words.toList = some (false, []))
    (rest : List Char) :
    accessesFrom mark false [] (words.toList ++ rest)
      = accessesFrom mark false [] rest :=
  accessesFrom_append h rest

theorem boundary_of_silent (h : silent mark words = true) (rest : List Char) :
    Boundary mark (words.toList ++ rest) := by
  rw [silent, Bool.and_eq_true, Option.any_eq_true] at h
  obtain ⟨⟨d, hhead, hd⟩, -⟩ := h
  intro c hc
  rw [List.head?_append, hhead, Option.some_or, Option.some.injEq] at hc
  subst hc
  simpa using hd

theorem accessesFrom_silent (h : silent mark words = true) (rest : List Char) :
    accessesFrom mark false [] (words.toList ++ rest)
      = accessesFrom mark false [] rest := by
  rw [silent, Bool.and_eq_true, beq_iff_eq] at h
  exact accessesFrom_words h.2 rest

theorem accessesFrom_name {name : String} (h : Wordlike name) (behind : Bool)
    (read rest : List Char) :
    accessesFrom mark behind read (name.toList ++ rest)
      = accessesFrom mark behind (name.toList.reverse ++ read) rest := by
  have hchars : ∀ {chars : List Char}, (∀ c ∈ chars, isNameChar c = true) →
      ∀ read, accessesFrom mark behind read (chars ++ rest)
        = accessesFrom mark behind (chars.reverse ++ read) rest := by
    intro chars hchars
    induction chars with
    | nil => exact fun read => rfl
    | cons c chars ih =>
        intro read
        rw [List.cons_append, accessesFrom,
          if_pos (hchars c List.mem_cons_self),
          ih (fun d hd => hchars d (List.mem_cons_of_mem _ hd)),
          List.reverse_cons, List.append_assoc]
        rfl
  exact hchars h read

/-- A name that the mark does not open with is not taken for one. -/
theorem accessesFrom_boundary {name : List Char} (hrest : Boundary mark rest)
    (hname : ∀ c, name.reverse ++ [c] ≠ mark.toList) :
    accessesFrom mark false name rest = accessesFrom mark false [] rest := by
  cases rest with
  | nil => rfl
  | cons c rest =>
      obtain ⟨hc, hmark⟩ := hrest c rfl
      have hread : (name.reverse ++ [c] == mark.toList) = false := by
        simpa using hname c
      have hnone : ([c] == mark.toList) = false := by
        simpa using hmark
      simp [accessesFrom, hc, hread, hnone]

/-- A field behind the mark. -/
theorem mentions_stored (hmark : readOver mark false [] mark.toList
      = some (true, [])) {ident : String} (hident : Wordlike ident) :
    Mentions mark (mark ++ ident) [ident] := by
  intro rest hrest
  rw [String.toList_append, List.append_assoc, accessesFrom_append hmark,
    accessesFrom_name hident, List.append_nil]
  cases rest with
  | nil => simp [accessesFrom]
  | cons c rest =>
      obtain ⟨hc, hsign⟩ := hrest c rfl
      have hnone : ([c] == mark.toList) = false := by
        simpa using hsign
      simp [accessesFrom, hc, hnone]

/-- A name that the mark does not open with. -/
theorem mentions_name {name : String} (hname : Wordlike name)
    (hmark : ∀ c, name.toList ++ [c] ≠ mark.toList) : Mentions mark name [] := by
  intro rest hrest
  rw [accessesFrom_name hname, List.append_nil,
    accessesFrom_boundary hrest (by simpa using hmark)]
  rfl

/-! ## Putting texts together -/

variable {s t : String} {first second : List String}

theorem mentionsClosed_words (h : readOver mark false [] words.toList
      = some (false, [])) : MentionsClosed mark words [] :=
  accessesFrom_words h

theorem MentionsClosed.mentions (h : MentionsClosed mark text names) :
    Mentions mark text names :=
  fun rest _ => h rest

theorem MentionsClosed.append (hs : MentionsClosed mark s first)
    (ht : Mentions mark t second) : Mentions mark (s ++ t) (first ++ second) := by
  intro rest hrest
  rw [String.toList_append, List.append_assoc, hs, ht rest hrest,
    List.append_assoc]

/-- A text that reads nothing. -/
theorem MentionsClosed.idle (hs : MentionsClosed mark s names)
    (ht : Mentions mark t []) : Mentions mark (s ++ t) names := by
  simpa using hs.append ht

theorem MentionsClosed.then_words (hs : MentionsClosed mark s names)
    (hwords : readOver mark false [] t.toList = some (false, [])) :
    MentionsClosed mark (s ++ t) names := by
  intro rest
  rw [String.toList_append, List.append_assoc, hs, accessesFrom_words hwords]

/-- Words end the name that a text may end in. -/
theorem Mentions.close (hs : Mentions mark s first)
    (hwords : silent mark words = true) :
    MentionsClosed mark (s ++ words) first := by
  intro rest
  rw [String.toList_append, List.append_assoc,
    hs _ (boundary_of_silent hwords rest), accessesFrom_silent hwords]

end Recast
