import Labeling.Proofs.Scan.Leftmost
import Labeling.Proofs.Xml.Mark

namespace Labeling.Scan

open Xml (isSpace isNamePart AllSpace)

inductive Place where
  | content
  | tag
  | quoted (quote : Char)
  deriving DecidableEq, Repr

def Place.of (insideTag : Bool) : Place := if insideTag then tag else content

def Place.after (c : Char) : Place → Place
  | content => if c = '<' then tag else content
  | tag => if c = '>' then content else if c = '"' ∨ c = '\'' then quoted c else tag
  | quoted quote => if c = quote then tag else quoted quote

/-- Whether `cs` begins with the word and an equals sign, white space in between. -/
def assigns (word cs : List Char) : Bool :=
  match Text.stripChars word cs with
  | some rest => (rest.dropWhile Text.isBlank).head? == some '='
  | none => false

/-- What a plain text may have before `rest`: in a tag only such white space as XML knows and, if
the word is assigned in `rest`, white space only in a tag and a colon only outside. -/
def PlainAt (word : List Char) (place : Place) (c : Char) (rest : List Char) : Prop :=
  (place = .tag → Text.isBlank c = true → isSpace c = true) ∧
    (assigns word rest = true →
      (Text.isBlank c = true → place = .tag) ∧ (place = .tag → c ≠ ':'))

instance (word : List Char) (place : Place) (c : Char) (rest : List Char) :
    Decidable (PlainAt word place c rest) :=
  inferInstanceAs (Decidable (_ ∧ _))

def PlainFrom (word : List Char) : Place → List Char → Prop
  | _, [] => True
  | place, c :: rest => PlainAt word place c rest ∧ PlainFrom word (place.after c) rest

instance decidablePlainFrom (word : List Char) :
    (place : Place) → (cs : List Char) → Decidable (PlainFrom word place cs)
  | _, [] => .isTrue trivial
  | place, c :: rest =>
    have := decidablePlainFrom word (place.after c) rest
    inferInstanceAs (Decidable (_ ∧ _))

def delimiters : List Char := ['=', ':', '"', '\'', '/', '>', '?']

/-- Words that are searched for: none declares a namespace or stands in an XML declaration. -/
structure IsWord (word : List Char) : Prop where
  ne_nil : word ≠ []
  not_blank : ∀ c ∈ word, Text.isBlank c = false
  not_delimiter : ∀ c ∈ word, c ∉ delimiters
  ne_xmlns : word ≠ "xmlns".toList
  initial : ∀ c ∈ Xml.Event.declarationInitials, word.head? ≠ some c

variable {word cs rest : List Char} {place place' : Place} {c : Char}

theorem IsWord.of_all (hne : word ≠ [] ∧ word ≠ "xmlns".toList)
    (hchars : word.all (fun c => !Text.isBlank c && !delimiters.contains c) = true)
    (hinitial : Xml.Event.declarationInitials.all (fun c => word.head? != some c) = true) :
    IsWord word := by
  simp only [List.all_eq_true, Bool.and_eq_true, Bool.not_eq_true', List.contains_eq_mem,
    decide_eq_false_iff_not, bne_iff_ne] at hchars hinitial
  exact ⟨hne.1, fun c hc => (hchars c hc).1, fun c hc => (hchars c hc).2, hne.2, hinitial⟩

theorem isWord_name : IsWord "name".toList :=
  .of_all (by decide) (by decide +kernel) (by decide +kernel)

theorem isWord_toName : IsWord "toName".toList :=
  .of_all (by decide) (by decide +kernel) (by decide +kernel)

theorem isBlank_of_isSpace (h : isSpace c = true) : Text.isBlank c = true := by
  simp only [isSpace, Bool.or_eq_true, beq_iff_eq, or_assoc] at h
  rcases h with rfl | rfl | rfl | rfl <;> decide

theorem allBlank_of_allSpace (h : AllSpace cs) : Text.AllBlank cs :=
  fun c hc => isBlank_of_isSpace (h c hc)

theorem assigns_cons_eq_false (hword : word ≠ []) (h : c ∉ word) :
    assigns word (c :: rest) = false := by
  obtain ⟨d, ds, rfl⟩ := List.exists_cons_of_ne_nil hword
  have hne : d ≠ c := fun he => h (he ▸ List.mem_cons_self)
  rw [assigns, Text.stripChars, if_neg hne]

theorem IsWord.assigns_blank (h : IsWord word) (hc : Text.isBlank c = true) :
    assigns word (c :: rest) = false :=
  assigns_cons_eq_false h.ne_nil fun hmem =>
    Bool.false_ne_true ((h.not_blank c hmem).symm.trans hc)

theorem IsWord.assigns_delimiter (h : IsWord word) (hc : c ∈ delimiters) :
    assigns word (c :: rest) = false :=
  assigns_cons_eq_false h.ne_nil fun hmem => h.not_delimiter c hmem hc

theorem assignment?_eq_none (h : Text.isBlank c = true → assigns word rest = false) :
    assignment? word (c :: rest) = none := by
  rw [assignment?]
  split
  · next hblank =>
      have hassigns := h hblank
      rw [assigns] at hassigns
      cases hword : Text.stripChars word rest with
      | none => rfl
      | some after =>
          rw [hword] at hassigns
          have hequals : Text.stripChars ['='] (after.dropWhile Text.isBlank) = none := by
            cases hafter : after.dropWhile Text.isBlank with
            | nil => rfl
            | cons d _ =>
                simp only [hafter, List.head?_cons, beq_eq_false_iff_ne, ne_eq,
                  Option.some.injEq] at hassigns
                rw [Text.stripChars, if_neg (Ne.symm hassigns)]
          simp [bind, hequals]
  · rfl

theorem PlainAt.assignment?_eq_none (h : PlainAt word place c rest) (hplace : place ≠ .tag) :
    assignment? word (c :: rest) = none := by
  apply Scan.assignment?_eq_none
  intro hblank
  rw [Bool.eq_false_iff]
  exact fun hassigns => hplace ((h.2 hassigns).1 hblank)

/-- A search of `text` finds nothing before `rest`, from where on the text is plain. -/
structure Passes (word text : List Char) (place : Place) (rest : List Char) : Prop where
  plain : PlainFrom word place rest
  same : occurrences (assignment? word) 0 text = occurrences (assignment? word) 0 rest

theorem Passes.trans {text : List Char} (h : Passes word text place cs)
    (h' : Passes word cs place' rest) : Passes word text place' rest :=
  ⟨h'.plain, h.same.trans h'.same⟩

theorem passes_refl (h : PlainFrom word place rest) : Passes word rest place rest := ⟨h, rfl⟩

theorem passes_cons (hnone : assignment? word (c :: rest) = none)
    (h : PlainFrom word place (c :: rest)) : Passes word (c :: rest) (place.after c) rest :=
  ⟨h.2, occurrences_of_none hnone⟩

theorem passes_char (hc : Text.isBlank c = false) (h : PlainFrom word place (c :: rest)) :
    Passes word (c :: rest) (place.after c) rest :=
  passes_cons (assignment?_eq_none fun hblank => absurd (hc.symm.trans hblank) Bool.false_ne_true) h

theorem passes_of_forall (hstay : ∀ c ∈ cs, place.after c = place)
    (hnone : ∀ c ∈ cs, ∀ after, PlainAt word place c after → assignment? word (c :: after) = none)
    (h : PlainFrom word place (cs ++ rest)) : Passes word (cs ++ rest) place rest := by
  induction cs with
  | nil => exact passes_refl h
  | cons c cs ih =>
      obtain ⟨hstay, hstays⟩ := List.forall_mem_cons.1 hstay
      obtain ⟨hnone, hnones⟩ := List.forall_mem_cons.1 hnone
      have hfirst := passes_cons (hnone _ h.1) h
      rw [hstay] at hfirst
      exact hfirst.trans (ih hstays hnones hfirst.plain)

theorem passes_of_ne_tag (hplace : place ≠ .tag) (hstay : ∀ c ∈ cs, place.after c = place)
    (h : PlainFrom word place (cs ++ rest)) : Passes word (cs ++ rest) place rest :=
  passes_of_forall hstay (fun _ _ _ hat => hat.assignment?_eq_none hplace) h

theorem passes_content (hcs : '<' ∉ cs) (h : PlainFrom word .content (cs ++ rest)) :
    Passes word (cs ++ rest) .content rest := by
  have hplace : Place.content ≠ .tag := nofun
  have hstay : ∀ c ∈ cs, Place.content.after c = .content := fun c hc =>
    if_neg fun (he : c = '<') => hcs (he ▸ hc)
  exact passes_of_ne_tag hplace hstay h

theorem Place.after_tag (hangle : c ≠ '>') (hdouble : c ≠ '"') (hsingle : c ≠ '\'') :
    Place.tag.after c = .tag := by
  rw [Place.after, if_neg hangle, if_neg (not_or.2 ⟨hdouble, hsingle⟩)]

theorem Place.after_tag_of_isSpace (hc : isSpace c = true) : Place.tag.after c = .tag := by
  simp only [isSpace, Bool.or_eq_true, beq_iff_eq, or_assoc] at hc
  rcases hc with rfl | rfl | rfl | rfl <;> rfl

theorem Place.after_tag_of_isNamePart (hc : isNamePart c = true) : Place.tag.after c = .tag :=
  Place.after_tag (Xml.ne_of_isNamePart hc (by decide)) (Xml.ne_of_isNamePart hc (by decide))
    (Xml.ne_of_isNamePart hc (by decide))

/-- There is white space that may stand in names; a plain text has none of it in a tag. -/
theorem not_blank_of_plain (hcs : ∀ c ∈ cs, isNamePart c = true)
    (h : PlainFrom word .tag (cs ++ rest)) : ∀ c ∈ cs, Text.isBlank c = false := by
  induction cs with
  | nil => exact nofun
  | cons c cs ih =>
      obtain ⟨hc, hcs⟩ := List.forall_mem_cons.1 hcs
      obtain ⟨hat, hlater⟩ := h
      rw [Place.after_tag_of_isNamePart hc] at hlater
      refine List.forall_mem_cons.2 ⟨Bool.eq_false_iff.2 fun hblank => ?_, ih hcs hlater⟩
      exact Bool.eq_false_iff.1 (Xml.isSpace_of_isNamePart hc) (hat.1 rfl hblank)

theorem passes_name (hcs : ∀ c ∈ cs, isNamePart c = true) (h : PlainFrom word .tag (cs ++ rest)) :
    Passes word (cs ++ rest) .tag rest :=
  passes_of_forall (fun c hc => Place.after_tag_of_isNamePart (hcs c hc))
    (fun c hc _ _ => assignment?_eq_none fun hblank =>
      absurd hblank (Bool.eq_false_iff.1 (not_blank_of_plain hcs h c hc))) h

theorem PlainFrom.of_space (hcs : AllSpace cs) (h : PlainFrom word .tag (cs ++ rest)) :
    PlainFrom word .tag rest := by
  induction cs with
  | nil => exact h
  | cons c cs ih =>
      obtain ⟨hc, hcs⟩ := List.forall_mem_cons.1 hcs
      obtain ⟨-, hlater⟩ := h
      rw [Place.after_tag_of_isSpace hc] at hlater
      exact ih hcs hlater

theorem passes_space (hword : IsWord word) (hcs : AllSpace cs) (hrest : assigns word rest = false)
    (h : PlainFrom word .tag (cs ++ rest)) : Passes word (cs ++ rest) .tag rest := by
  induction cs with
  | nil => exact passes_refl h
  | cons c cs ih =>
      obtain ⟨hc, hcs⟩ := List.forall_mem_cons.1 hcs
      have hnone : assigns word (cs ++ rest) = false := by
        cases cs with
        | nil => exact hrest
        | cons d cs => exact hword.assigns_blank (isBlank_of_isSpace (hcs d List.mem_cons_self))
      have hfirst := passes_cons (assignment?_eq_none fun _ => hnone) h
      rw [Place.after_tag_of_isSpace hc] at hfirst
      exact hfirst.trans (ih hcs hfirst.plain)

end Labeling.Scan
