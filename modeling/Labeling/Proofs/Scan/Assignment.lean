import Labeling.Proofs.Scan.Plain
import Mathlib.Data.List.Basic

namespace Labeling.Scan

open Xml (isNamePart AllSpace Assignment QName)

variable {word before rest : List Char} {c : Char} {a : Assignment} {q : QName}

theorem body_append (a : Assignment) (rest : List Char) : a.body ++ rest =
    a.name ++ (a.before ++ ('=' :: (a.after ++ (a.quote :: (a.value ++ a.quote :: rest))))) := by
  simp [Assignment.body]

theorem assigns_append (hbefore : AllSpace before) :
    assigns word (word ++ (before ++ '=' :: rest)) = true := by
  rw [assigns, Text.stripChars_eq_some_iff.2 rfl]
  simp only [dropWhile_isBlank (allBlank_of_allSpace hbefore) (c := '=') (by decide),
    List.head?_cons, beq_self_eq_true]

theorem isBlank_quote (a : Assignment) : Text.isBlank a.quote = false :=
  isBlank_of_isQuote a.isQuote

theorem after_quote (a : Assignment) : Place.tag.after a.quote = .quoted a.quote := by
  rcases a.isQuote with h | h <;> rw [h] <;> rfl

theorem quote_mem_delimiters (a : Assignment) : a.quote ∈ delimiters := by
  rcases a.isQuote with h | h <;> rw [h] <;> decide

/-- Nothing is found in a name and its value: a search begins before the name. -/
theorem passes_body (hword : IsWord word) (h : PlainFrom word .tag (a.body ++ rest)) :
    Passes word (a.body ++ rest) .tag rest := by
  rw [body_append] at h ⊢
  have hname := passes_name a.isNamePart_name h
  have hbefore := passes_space hword a.allSpace_before (hword.assigns_delimiter (by decide))
    hname.plain
  have hequals : Passes word _ .tag _ := passes_char (by decide) hbefore.plain
  have hafter := passes_space hword a.allSpace_after
    (hword.assigns_delimiter (quote_mem_delimiters a)) hequals.plain
  have hopen := passes_char (isBlank_quote a) hafter.plain
  rw [after_quote] at hopen
  have hstay : ∀ c ∈ a.value, (Place.quoted a.quote).after c = .quoted a.quote := fun c hc =>
    if_neg fun (he : c = a.quote) => a.quote_not_mem (he ▸ hc)
  have hplace : Place.quoted a.quote ≠ .tag := nofun
  have hvalue := passes_of_ne_tag hplace hstay hopen.plain
  have hclose := passes_char (isBlank_quote a) hvalue.plain
  rw [Place.after, if_pos rfl] at hclose
  exact hname.trans (hbefore.trans (hequals.trans (hafter.trans (hopen.trans (hvalue.trans hclose)))))

theorem IsWord.eq_nil_of_append_eq {more after : List Char} (hword : IsWord word)
    (hmore : ∀ c ∈ more, c ∈ word) (hbefore : AllSpace before)
    (h : before ++ '=' :: rest = more ++ after) : more = [] := by
  cases more with
  | nil => rfl
  | cons c more =>
      have hc : c ∈ word := hmore c List.mem_cons_self
      cases before with
      | nil =>
          obtain ⟨rfl, -⟩ := List.cons.inj h
          exact absurd (by decide) (hword.not_delimiter _ hc)
      | cons d before =>
          obtain ⟨rfl, -⟩ := List.cons.inj h
          have hd := isBlank_of_isSpace (hbefore d List.mem_cons_self)
          exact absurd hd (Bool.eq_false_iff.1 (hword.not_blank d hc))

theorem eq_nil_of_dropWhile_isBlank {more : List Char}
    (hblank : ∀ c ∈ more, Text.isBlank c = false) (hmore : ∀ c ∈ more, isNamePart c = true)
    (h : ((more ++ rest).dropWhile Text.isBlank).head? = some '=') : more = [] := by
  cases more with
  | nil => rfl
  | cons c more =>
      rw [List.cons_append, List.dropWhile_cons_of_neg
        (Bool.eq_false_iff.1 (hblank c List.mem_cons_self)), List.head?_cons,
        Option.some.injEq] at h
      exact absurd h (Xml.ne_of_isNamePart (hmore c List.mem_cons_self) (by decide))

theorem assigns_body_iff (hword : IsWord word) (h : PlainFrom word .tag (a.body ++ rest)) :
    assigns word (a.body ++ rest) = true ↔ a.name = word := by
  rw [body_append] at h ⊢
  constructor
  · intro hassigns
    rw [assigns] at hassigns
    split at hassigns
    · next after hafter =>
        have hsplit := Text.stripChars_eq_some_iff.1 hafter
        have hblank := not_blank_of_plain a.isNamePart_name h
        -- either the word is the name and more, or the name is the word and more
        obtain ⟨more, hmore, hafter⟩ | ⟨more, hmore, rfl⟩ := List.append_eq_append_iff.1 hsplit
        · have hmem : ∀ c ∈ more, c ∈ word := fun c hc => hmore ▸ List.mem_append_right _ hc
          rw [hmore, hword.eq_nil_of_append_eq hmem a.allSpace_before hafter, List.append_nil]
        · have hmem : ∀ c ∈ more, c ∈ a.name := fun c hc => hmore ▸ List.mem_append_right _ hc
          rw [hmore, eq_nil_of_dropWhile_isBlank (fun c hc => hblank c (hmem c hc))
            (fun c hc => a.isNamePart_name c (hmem c hc)) (beq_iff_eq.1 hassigns),
            List.append_nil]
    · cases hassigns
  · rintro rfl
    exact assigns_append a.allSpace_before

theorem assigned_body (hname : a.name = word) (hc : Text.isBlank c = true) :
    Assigned word (c :: a.body) a.value := by
  rw [Assignment.body, hname]
  exact .mk hc (allBlank_of_allSpace a.allSpace_before) (allBlank_of_allSpace a.allSpace_after)
    a.isQuote a.quote_not_mem

theorem name_eq_of_localName (hname : q.Written a.name) (hlocal : q.localName.toList = word)
    (h : PlainFrom word .tag (a.body ++ rest)) : q.qualifier = "" ∧ a.name = word := by
  obtain hplain | ⟨qualifier, hqualified⟩ := hname.eq_of_localName hlocal
  · exact hplain
  · rw [body_append, hqualified, List.append_assoc] at h
    have hqualifier : ∀ c ∈ qualifier, isNamePart c = true := fun c hc =>
      a.isNamePart_name c (hqualified ▸ List.mem_append_left _ hc)
    obtain ⟨hat, -⟩ := (passes_name hqualifier h).plain
    exact absurd rfl ((hat.2 (assigns_append a.allSpace_before)).2 rfl)

theorem localName_eq_of_name (hword : IsWord word) (hname : q.Written a.name)
    (h : a.name = word) : q.localName.toList = word := by
  rw [hname.localName_of_eq, h]
  exact fun hcolon => hword.not_delimiter ':' (h ▸ hcolon) (by decide)

theorem passes_text (hword : IsWord word) (hname : a.name ≠ word)
    (h : PlainFrom word .tag (a.text ++ rest)) : Passes word (a.text ++ rest) .tag rest := by
  rw [Assignment.text, List.append_assoc] at h ⊢
  have hbody := h.of_space a.allSpace_gap
  have hnone : assigns word (a.body ++ rest) = false :=
    Bool.eq_false_iff.2 fun h => hname ((assigns_body_iff hword hbody).1 h)
  exact (passes_space hword a.allSpace_gap hnone h).trans (passes_body hword hbody)

/-- A search finds an attribute of the given name and passes over any other. -/
theorem occurrences_text (hword : IsWord word) (hgap : a.gap ≠ [])
    (h : PlainFrom word .tag (a.text ++ rest)) :
    occurrences (assignment? word) 0 (a.text ++ rest) =
      (if a.name = word then [String.ofList a.value] else []) ++
        occurrences (assignment? word) 0 rest := by
  split
  · next hname =>
      rw [Assignment.text, List.append_assoc] at h ⊢
      obtain hnil | ⟨gap, c, hsplit⟩ := List.eq_nil_or_concat' a.gap
      · exact absurd hnil hgap
      · have hspace := a.allSpace_gap
        rw [hsplit] at hspace h ⊢
        obtain ⟨hspaces, hc⟩ := List.forall_mem_append.1 hspace
        have hblank := isBlank_of_isSpace (hc c List.mem_cons_self)
        rw [List.append_assoc, List.singleton_append] at h ⊢
        have hbefore := passes_space hword hspaces (hword.assigns_blank hblank) h
        exact hbefore.same.trans ((assigned_body hname hblank).occurrences_append rest)
  · next hname => exact (passes_text hword hname h).same

end Labeling.Scan
