import Labeling.Proofs.Scan.Reading
import Labeling.Proofs.Text.Pieces
import Labeling.Tag.Control

namespace Labeling

open Text (AllBlank)

namespace Xml.Event

def IsBreak (c : Char) : Prop := c = ',' ∨ Text.isBlank c = true

instance : DecidablePred IsBreak := fun _ => inferInstanceAs (Decidable (_ ∨ _))

theorem IsBreak.toNat {c : Char} (h : IsBreak c) : c.toNat < 48 ∨ 122 < c.toNat := by
  rcases h with rfl | hblank
  · decide
  · simp only [Text.isBlank, Bool.or_eq_true, Bool.and_eq_true, decide_eq_true_eq, beq_iff_eq]
      at hblank
    omega

theorem not_isBreak_of_digitValue? {base n : Nat} {c : Char} (h : digitValue? base c = some n) :
    ¬IsBreak c := by
  intro hbreak
  have houtside := hbreak.toNat
  have hrange {low high : Char} (hlow : 48 ≤ low.toNat) (hhigh : high.toNat ≤ 122) :
      ¬(low ≤ c ∧ c ≤ high) := by
    rintro ⟨hl, hh⟩
    have hl' : low.toNat ≤ c.toNat := hl
    have hh' : c.toNat ≤ high.toNat := hh
    omega
  rw [digitValue?, if_neg (hrange (by decide) (by decide)), if_neg (hrange (by decide) (by decide)),
    if_neg (hrange (by decide) (by decide)), if_neg (Nat.lt_irrefl base)] at h
  cases h

theorem not_isBreak_of_numericReference? {base : Nat} {digits : List Char} {resolved : Char}
    (h : numericReference? base digits = some resolved) : ∀ c ∈ digits, ¬IsBreak c := by
  obtain ⟨values, hvalues, -⟩ := Option.bind_eq_some_iff.1 h
  clear h
  induction digits generalizing values with
  | nil => exact nofun
  | cons d digits ih =>
      rw [List.mapM_cons] at hvalues
      obtain ⟨n, hn, hrest⟩ := Option.bind_eq_some_iff.1 hvalues
      obtain ⟨later, hlater, -⟩ := Option.bind_eq_some_iff.1 hrest
      exact List.forall_mem_cons.2 ⟨not_isBreak_of_digitValue? hn, ih later hlater⟩

theorem not_isBreak_of_all {cs : List Char} (h : cs.all (fun c => !decide (IsBreak c)) = true) :
    ∀ c ∈ cs, ¬IsBreak c := by
  simpa using h

theorem not_isBreak_of_reference? {name : List Char} {resolved : Char}
    (h : reference? name = some resolved) : ∀ c ∈ name, ¬IsBreak c := by
  unfold reference? at h
  split at h
  · exact List.forall_mem_cons.2
      ⟨by decide, List.forall_mem_cons.2 ⟨by decide, not_isBreak_of_numericReference? h⟩⟩
  · exact List.forall_mem_cons.2 ⟨by decide, not_isBreak_of_numericReference? h⟩
  · split at h
    case h_6 => cases h
    all_goals
      next hname =>
        rw [← String.toList_inj, String.toList_ofList] at hname
        rw [hname]
        exact not_isBreak_of_all (by decide)

/-- What becomes of a reference that is being read, and what is read, at a character. -/
def readChar (reference : Option (List Char)) (c : Char) (next : Option Char) :
    Option (Option (List Char) × List Char) :=
  match reference with
  | some name =>
    if c = ';' then (reference? name.reverse).map fun resolved => (none, [resolved])
    else some (some (c :: name), [])
  | none =>
    if c = '&' then some (some [], [])
    else if c = '\r' && next == some '\n' then some (none, [])
    else some (none, [if isSpace c then ' ' else c])

theorem attributeChars_cons (reference : Option (List Char)) (c : Char) (rest : List Char) :
    attributeChars reference (c :: rest) = (readChar reference c rest.head?).bind fun step =>
      (attributeChars step.1 rest).map (step.2 ++ ·) := by
  cases reference with
  | none =>
      rw [attributeChars, readChar]
      split
      · exact Option.map_id'.symm
      · split
        · exact Option.map_id'.symm
        · rfl
  | some name =>
      rw [attributeChars, readChar]
      split
      · cases reference? name.reverse with
        | none => rfl
        | some resolved =>
            rw [Option.map_some, Option.bind_some]
            cases attributeChars none rest <;> rfl
      · exact Option.map_id'.symm

theorem readChar_congr {reference : Option (List Char)} {c : Char} {next next' : Option Char}
    (h : c = '\r' → (next == some '\n') = (next' == some '\n')) :
    readChar reference c next = readChar reference c next' := by
  have hreturn : (decide (c = '\r') && next == some '\n') =
      (decide (c = '\r') && next' == some '\n') := by
    by_cases hc : c = '\r'
    · rw [h hc]
    · rw [decide_eq_false hc, Bool.false_and, Bool.false_and]
  cases reference with
  | none => rw [readChar, readChar, hreturn]
  | some name => rfl

/-- A comma or white space cannot be part of a reference, so a text with one there is no value. -/
theorem attributeChars_eq_none {name cs : List Char} {d : Char} (hd : d ∈ name) (h : IsBreak d) :
    attributeChars (some name) cs = none := by
  induction cs generalizing name with
  | nil => rfl
  | cons c cs ih =>
      rw [attributeChars]
      split
      · cases hresolved : reference? name.reverse with
        | none => rfl
        | some resolved =>
            exact absurd h (not_isBreak_of_reference? hresolved d (List.mem_reverse.2 hd))
      · exact ih (List.mem_cons_of_mem c hd)

theorem attributeChars_some_break {name rest : List Char} {c : Char} (hc : IsBreak c) :
    attributeChars (some name) (c :: rest) = none := by
  have hsemicolon : c ≠ ';' := by
    rintro rfl
    revert hc
    decide
  rw [attributeChars, if_neg hsemicolon, attributeChars_eq_none List.mem_cons_self hc]

theorem attributeChars_append_comma (reference : Option (List Char)) (cs rest : List Char) :
    attributeChars reference (cs ++ ',' :: rest) =
      (attributeChars reference cs).bind fun first =>
        (attributeChars none rest).map fun others => first ++ ',' :: others := by
  induction cs generalizing reference with
  | nil =>
      cases reference with
      | none => rfl
      | some name => exact attributeChars_some_break (.inl rfl)
  | cons c cs ih =>
      have hstep : readChar reference c (cs ++ ',' :: rest).head? = readChar reference c cs.head? :=
        readChar_congr fun _ => by cases cs <;> rfl
      rw [List.cons_append, attributeChars_cons, attributeChars_cons, hstep]
      cases readChar reference c cs.head? with
      | none => rfl
      | some step =>
          rw [Option.bind_some, Option.bind_some, ih]
          cases attributeChars step.1 cs <;> cases attributeChars none rest <;> simp

theorem attributeChars_blank {c : Char} {rest w : List Char} (hc : Text.isBlank c = true)
    (h : attributeChars none (c :: rest) = some w) : ∃ before read, w = before ++ read ∧
      AllBlank before ∧ attributeChars none rest = some read := by
  have hamp : c ≠ '&' := by
    rintro rfl
    cases hc
  rw [attributeChars, if_neg hamp] at h
  split at h
  · exact ⟨[], w, rfl, nofun, h⟩
  · obtain ⟨read, hread, rfl⟩ := Option.map_eq_some_iff.1 h
    refine ⟨[if isSpace c then ' ' else c], read, rfl, List.forall_mem_singleton.2 ?_, hread⟩
    split
    · rfl
    · exact hc

theorem attributeChars_append_left {before cs w : List Char} (hbefore : AllBlank before)
    (h : attributeChars none (before ++ cs) = some w) : ∃ first read, w = first ++ read ∧
      AllBlank first ∧ attributeChars none cs = some read := by
  induction before generalizing w with
  | nil => exact ⟨[], w, rfl, nofun, h⟩
  | cons c before ih =>
      obtain ⟨hc, hbefore⟩ := List.forall_mem_cons.1 hbefore
      obtain ⟨first, others, rfl, hfirst, hothers⟩ := attributeChars_blank hc h
      obtain ⟨second, read, rfl, hsecond, hread⟩ := ih hbefore hothers
      exact ⟨first ++ second, read, (List.append_assoc ..).symm,
        List.forall_mem_append.2 ⟨hfirst, hsecond⟩, hread⟩

theorem attributeChars_append_right {reference : Option (List Char)} {cs after w : List Char}
    (hafter : AllBlank after) (hlast : ∀ c ∈ cs.getLast?, Text.isBlank c = false)
    (h : attributeChars reference (cs ++ after) = some w) : ∃ read last, w = read ++ last ∧
      AllBlank last ∧ attributeChars reference cs = some read := by
  induction cs generalizing reference w with
  | nil =>
      cases reference with
      | none =>
          have hall : attributeChars none (after ++ []) = some w := by rwa [List.append_nil]
          obtain ⟨last, read, rfl, hblank, hread⟩ := attributeChars_append_left hafter hall
          cases hread
          exact ⟨[], last, List.append_nil last, hblank, rfl⟩
      | some name =>
          cases after with
          | nil => cases h
          | cons d after =>
              have hnone : attributeChars (some name) (d :: after) = none :=
                attributeChars_some_break (.inr (hafter d List.mem_cons_self))
              cases hnone.symm.trans h
  | cons c cs ih =>
      -- The character before the white space is none, so no pair of line ends is torn apart.
      have hstep : readChar reference c (cs ++ after).head? = readChar reference c cs.head? := by
        apply readChar_congr
        rintro rfl
        cases cs with
        | nil => cases hlast '\r' rfl
        | cons d cs => rfl
      have hlater : ∀ d ∈ cs.getLast?, Text.isBlank d = false := by
        cases cs with
        | nil => exact nofun
        | cons d cs => exact hlast
      rw [List.cons_append, attributeChars_cons, hstep] at h
      obtain ⟨step, hread, hrest⟩ := Option.bind_eq_some_iff.1 h
      obtain ⟨w, hw, rfl⟩ := Option.map_eq_some_iff.1 hrest
      obtain ⟨read, last, rfl, hblank, hfirst⟩ := ih hlater hw
      refine ⟨step.2 ++ read, last, (List.append_assoc ..).symm, hblank, ?_⟩
      rw [attributeChars_cons, hread, Option.bind_some, hfirst, Option.map_some]

theorem attributeChars_of_literal {cs : List Char}
    (h : ∀ c ∈ cs, c ≠ '&' ∧ (isSpace c = true → c = ' ')) :
    attributeChars none cs = some cs := by
  induction cs with
  | nil => rfl
  | cons c cs ih =>
      obtain ⟨⟨hamp, hspace⟩, hrest⟩ := List.forall_mem_cons.1 h
      have hreturn : c ≠ '\r' := by
        rintro rfl
        cases hspace rfl
      have hsame : (if isSpace c then ' ' else c) = c := by
        split
        · next hblank => exact (hspace hblank).symm
        · rfl
      rw [attributeChars, if_neg hamp, decide_eq_false hreturn, Bool.false_and,
        if_neg Bool.false_ne_true, ih hrest, Option.map_some, hsame]

/-- Trimming a value as it is written does not change its trimmed pieces as they are read. -/
theorem attributeChars_trimChars {cs w : List Char} (h : attributeChars none cs = some w) :
    ∃ read, attributeChars none (Text.trimChars cs) = some read ∧
      (Text.splitChars ',' w).map Text.trimChars =
        (Text.splitChars ',' read).map Text.trimChars := by
  obtain ⟨before, after, hcs, hbefore, hafter, hlast⟩ := Text.exists_eq_append_trimChars cs
  rw [hcs] at h
  obtain ⟨first, others, rfl, hfirst, hothers⟩ := attributeChars_append_left hbefore h
  obtain ⟨read, last, rfl, hblank, hread⟩ := attributeChars_append_right hafter hlast hothers
  exact ⟨read, hread, Text.map_trimChars_splitChars (by decide) hfirst hblank⟩

theorem map_trimChars_attributeChars {cs w : List Char} (h : attributeChars none cs = some w) :
    (Text.splitChars ',' w).map Text.trimChars =
      ((Text.splitChars ',' cs).map Text.trimChars).flatMap fun piece =>
        (Text.splitChars ',' ((attributeChars none piece).getD piece)).map Text.trimChars := by
  induction hpieces : Text.splitChars ',' cs generalizing cs w with
  | nil => exact absurd hpieces (Text.splitChars_ne_nil ',')
  | cons first pieces ih =>
      rw [List.map_cons, List.flatMap_cons]
      obtain ⟨-, ⟨rfl, rfl⟩ | ⟨others, rfl, rfl⟩⟩ := Text.eq_of_splitChars_eq_cons hpieces
      · obtain ⟨read, hread, hsame⟩ := attributeChars_trimChars h
        rw [hread, hsame, List.map_nil, List.flatMap_nil, List.append_nil, Option.getD_some]
      · rw [attributeChars_append_comma] at h
        obtain ⟨u, hu, hrest⟩ := Option.bind_eq_some_iff.1 h
        obtain ⟨v, hv, rfl⟩ := Option.map_eq_some_iff.1 hrest
        obtain ⟨read, hread, hsame⟩ := attributeChars_trimChars hu
        rw [hread, Option.getD_some, Text.splitChars_append_cons, List.map_append, hsame,
          ih hv rfl]

end Xml.Event

namespace Scan

open Xml (Event)

theorem toList_decoded (s : String) :
    (decoded s).toList = (Event.attributeChars none s.toList).getD s.toList := by
  rw [decoded]
  cases Event.attributeChars none s.toList with
  | none => rfl
  | some cs => rw [Option.map_some, Option.getD_some, Option.getD_some, String.toList_ofList]

theorem Decodes.commaPieces {scanned value : String} (h : Decodes scanned value) :
    Text.commaPieces value =
      (Text.commaPieces scanned).flatMap fun piece => Text.commaPieces (Scan.decoded piece) := by
  rw [Text.commaPieces_eq, Event.map_trimChars_attributeChars h, List.map_flatMap,
    Text.commaPieces_eq scanned, List.flatMap_map (f := String.ofList)]
  apply List.flatMap_congr
  intro piece _
  rw [Text.commaPieces_eq, toList_decoded, String.toList_ofList]

/-- The entries of a list that is read are those of the pieces that are scanned. -/
theorem Decodes.targetsOf {scanned value : String} (h : Decodes scanned value) :
    ControlTag.targetsOf value =
      (Text.commaPieces scanned).flatMap fun piece =>
        ControlTag.targetsOf (Scan.decoded piece) := by
  rw [ControlTag.targetsOf, h.commaPieces, List.filter_flatMap]
  rfl

/-- Whether a scanned value says what it is: no reference, and no white space that is made a
space. -/
def IsLiteral (scanned : String) : Prop :=
  ∀ c ∈ scanned.toList, c ≠ '&' ∧ (Xml.isSpace c = true → c = ' ')

instance : DecidablePred IsLiteral := fun scanned => List.decidableBAll _ scanned.toList

theorem decoded_of_isLiteral {s : String} (h : IsLiteral s) : decoded s = s := by
  rw [← String.toList_inj, toList_decoded, Event.attributeChars_of_literal h, Option.getD_some]

theorem targetsOf_piece {scanned piece : String} (hpiece : piece ∈ Text.commaPieces scanned)
    (hliteral : IsLiteral piece) (hne : piece ≠ "") :
    ControlTag.targetsOf (decoded piece) = [piece] := by
  obtain ⟨cs, hcs, rfl⟩ := List.mem_map.1 (Text.commaPieces_eq scanned ▸ hpiece)
  obtain ⟨stretch, hstretch, rfl⟩ := List.mem_map.1 hcs
  have hcomma : ',' ∉ Text.trimChars stretch := fun hmem =>
    Text.not_mem_of_mem_splitChars hstretch (Text.mem_of_mem_trimChars hmem)
  rw [decoded_of_isLiteral hliteral, ControlTag.targetsOf, Text.commaPieces_eq,
    String.toList_ofList, Text.splitChars_of_not_mem hcomma, List.map_singleton,
    Text.trimChars_idem, List.map_singleton]
  exact List.filter_cons_of_pos (decide_eq_true hne)

end Scan

end Labeling
