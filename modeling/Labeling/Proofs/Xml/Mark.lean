import Labeling.Proofs.Text
import Labeling.Proofs.Text.Pieces
import Labeling.Xml.Event
import Mathlib.Data.List.TakeWhile

namespace Labeling

namespace Xml

variable {cs rest w : List Char}

def isNamePart (c : Char) : Bool := isNameChar c || c == ':'

theorem ne_of_isNamePart {c d : Char} (h : isNamePart c = true) (hd : isNamePart d = false) : c ≠ d :=
  fun he => Bool.false_ne_true (hd.symm.trans (he ▸ h))

theorem isSpace_of_isNamePart {c : Char} (h : isNamePart c = true) : isSpace c = false := by
  rw [isSpace, Bool.or_eq_false_iff, Bool.or_eq_false_iff, Bool.or_eq_false_iff]
  exact ⟨⟨⟨beq_false_of_ne (ne_of_isNamePart h (by decide)),
    beq_false_of_ne (ne_of_isNamePart h (by decide))⟩,
    beq_false_of_ne (ne_of_isNamePart h (by decide))⟩,
    beq_false_of_ne (ne_of_isNamePart h (by decide))⟩

structure QName.Written (q : QName) (w : List Char) : Prop where
  ne_nil : w ≠ []
  part : ∀ c ∈ w, isNamePart c = true
  colon : ':' ∉ q.localName.toList
  form : q.qualifier = "" ∧ w = q.localName.toList ∨
    w = q.qualifier.toList ++ ':' :: q.localName.toList

theorem QName.written_of_read? {q : QName} (h : QName.read? cs = some (q, rest)) :
    ∃ w, cs = w ++ rest ∧ q.Written w := by
  unfold QName.read? at h
  simp only at h
  have hsplit : cs = cs.takeWhile isNamePart ++ cs.dropWhile isNamePart :=
    List.takeWhile_append_dropWhile.symm
  have hpart : ∀ c ∈ cs.takeWhile isNamePart, isNamePart c = true :=
    fun c hc => List.mem_takeWhile_imp hc
  have hne {name : List Char} (hname : beginsName name = true) : name ≠ [] := by
    rintro rfl
    cases hname
  split at h
  · next name hname =>
      obtain ⟨hcolon, ⟨-, htake⟩ | ⟨_, -, hother⟩⟩ := Text.eq_of_splitChars_eq_cons hname
      · split at h
        · next hbegins =>
            cases h
            refine ⟨_, hsplit, htake ▸ hne hbegins, hpart, ?_, .inl ⟨rfl, ?_⟩⟩
            · rwa [String.toList_ofList]
            · rw [String.toList_ofList]
              exact htake
        · cases h
      · exact absurd hother (Text.splitChars_ne_nil ':')
  · next qualifier name hname =>
      obtain ⟨-, ⟨hnil, -⟩ | ⟨others, htake, hothers⟩⟩ := Text.eq_of_splitChars_eq_cons hname
      · cases hnil
      · obtain ⟨hcolon, ⟨-, rfl⟩ | ⟨_, -, hother⟩⟩ := Text.eq_of_splitChars_eq_cons hothers
        · split at h
          · cases h
            refine ⟨_, hsplit, ?_, hpart, ?_, .inr ?_⟩
            · exact fun hnil => List.append_ne_nil_of_right_ne_nil qualifier (List.cons_ne_nil _ _)
                (htake.symm.trans hnil)
            · rwa [String.toList_ofList]
            · rw [String.toList_ofList, String.toList_ofList]
              exact htake
          · cases h
        · exact absurd hother (Text.splitChars_ne_nil ':')
  · cases h

theorem QName.Written.eq_of_localName {q : QName} {key : List Char} (h : q.Written w)
    (hkey : q.localName.toList = key) :
    q.qualifier = "" ∧ w = key ∨ ∃ qualifier, w = qualifier ++ ':' :: key := by
  subst hkey
  exact h.form.imp_right fun hw => ⟨_, hw⟩

theorem QName.Written.localName_of_eq {q : QName} (h : q.Written w) (hw : ':' ∉ w) :
    q.localName.toList = w := by
  obtain ⟨-, hform⟩ | hform := h.form
  · exact hform.symm
  · rw [hform] at hw
    simp at hw

def AllSpace (cs : List Char) : Prop := ∀ c ∈ cs, isSpace c = true

theorem allSpace_takeWhile (cs : List Char) : AllSpace (cs.takeWhile isSpace) :=
  fun _ hc => List.mem_takeWhile_imp hc

structure Assignment where
  gap : List Char
  name : List Char
  before : List Char
  after : List Char
  quote : Char
  value : List Char
  allSpace_gap : AllSpace gap
  isNamePart_name : ∀ c ∈ name, isNamePart c = true
  allSpace_before : AllSpace before
  allSpace_after : AllSpace after
  isQuote : quote = '"' ∨ quote = '\''
  quote_not_mem : quote ∉ value
  angle_not_mem : '<' ∉ value

def Assignment.body (a : Assignment) : List Char :=
  a.name ++ (a.before ++ '=' :: (a.after ++ a.quote :: (a.value ++ [a.quote])))

def Assignment.text (a : Assignment) : List Char := a.gap ++ a.body

theorem takeWhile_append_drop (p : Char → Bool) (cs : List Char) :
    cs.takeWhile p ++ cs.drop (cs.takeWhile p).length = cs := by
  have htake : cs.takeWhile p = cs.take (cs.takeWhile p).length :=
    List.prefix_iff_eq_take.1 (List.takeWhile_prefix p)
  calc cs.takeWhile p ++ cs.drop (cs.takeWhile p).length
      = cs.take (cs.takeWhile p).length ++ cs.drop (cs.takeWhile p).length :=
        congrArg (· ++ _) htake
    _ = cs := List.take_append_drop _ cs

namespace Event

theorem assignment?_eq_some {q : QName} {written gap : List Char} (hgap : AllSpace gap)
    (h : assignment? cs = some (q, written, rest)) :
    ∃ a : Assignment, gap ++ cs = a.text ++ rest ∧ a.gap = gap ∧ q.Written a.name ∧
      a.value = written := by
  simp only [assignment?, bind, Option.bind_eq_some_iff, Text.stripChars_eq_some_iff] at h
  obtain ⟨⟨q', afterName⟩, hname, afterEquals, hequals, h⟩ := h
  obtain ⟨w, rfl, hw⟩ := QName.written_of_read? hname
  dsimp only at hequals h
  split at h
  · cases h
  · next quote quoted hquoted =>
      split at h
      · cases h
      · next hquote =>
          obtain ⟨after, hafter, h⟩ := Option.bind_eq_some_iff.1 h
          cases h
          have hstop : ∀ c ∈ quoted.takeWhile (fun c => c != quote && c != '<'),
              c ≠ quote ∧ c ≠ '<' := by
            intro c hc
            simpa using List.mem_takeWhile_imp hc
          have hisQuote : quote = '"' ∨ quote = '\'' := by
            simpa [or_iff_not_imp_left] using hquote
          refine ⟨⟨gap, w, afterName.takeWhile isSpace, afterEquals.takeWhile isSpace, quote, _,
            hgap, hw.part, allSpace_takeWhile _, allSpace_takeWhile _, hisQuote,
            fun hmem => (hstop quote hmem).1 rfl, fun hmem => (hstop '<' hmem).2 rfl⟩,
            ?_, rfl, hw, rfl⟩
          have hvalue := takeWhile_append_drop (fun c => c != quote && c != '<') quoted
          rw [Text.stripChars_eq_some_iff.1 hafter] at hvalue
          have hbefore := List.takeWhile_append_dropWhile (p := isSpace) (l := afterName)
          rw [hequals] at hbefore
          have hspace := List.takeWhile_append_dropWhile (p := isSpace) (l := afterEquals)
          rw [hquoted, ← hvalue] at hspace
          rw [← hspace] at hbefore
          simp only [Assignment.text, Assignment.body, List.append_assoc, List.cons_append,
            List.nil_append] at hbefore ⊢
          rw [hbefore]

def isOrdinary : Event → Bool
  | .literalText _ | .instruction => false
  | _ => true

def endsInTag : Event → Bool
  | .attribute .. | .tagEnd _ => true
  | _ => false

/-- The characters of a mark in a text; comments, literal text and instructions are left out. -/
inductive Written : Event → List Char → Prop
  | tagStart {q : QName} {w : List Char} (name : q.Written w) : Written (.tagStart q) ('<' :: w)
  | attribute {q : QName} {a : Assignment} {value : List Char} (gap : a.gap ≠ [])
      (name : q.Written a.name) (resolved : attributeChars none a.value = some value) :
      Written (.attribute q (String.ofList value)) a.text
  | tagEnd {gap : List Char} (space : AllSpace gap) : Written (.tagEnd false) (gap ++ ['>'])
  | emptyTagEnd {gap : List Char} (space : AllSpace gap) :
      Written (.tagEnd true) (gap ++ ['/', '>'])
  | endTag {q : QName} {w gap : List Char} (name : q.Written w) (space : AllSpace gap) :
      Written (.endTag q) ('<' :: '/' :: (w ++ (gap ++ ['>'])))
  | text {w : List Char} (angle : '<' ∉ w) : Written (.text w) w

theorem written_of_attribute? {gap : List Char} {event : Event} (hne : gap ≠ [])
    (hgap : AllSpace gap) (h : attribute? cs = some (event, rest)) :
    ∃ w, gap ++ cs = w ++ rest ∧ Written event w ∧ event.endsInTag = true := by
  simp only [attribute?, bind, Option.bind_eq_some_iff] at h
  obtain ⟨⟨q, written, after⟩, hassignment, value, hvalue, h⟩ := h
  cases h
  obtain ⟨a, htext, rfl, hname, rfl⟩ := assignment?_eq_some hgap hassignment
  exact ⟨a.text, htext, .attribute hne hname hvalue, rfl⟩

theorem written_of_nextInTag? {event : Event} (h : nextInTag? cs = some (event, rest)) :
    ∃ w, cs = w ++ rest ∧ Written event w ∧ event.endsInTag = true := by
  have hsplit := List.takeWhile_append_dropWhile (p := isSpace) (l := cs)
  have hgap := allSpace_takeWhile cs
  rw [nextInTag?] at h
  split at h
  · next after hdrop =>
      obtain ⟨rest', hrest, he⟩ := Option.map_eq_some_iff.1 h
      cases he
      rw [hdrop, Text.stripChars_eq_some_iff.1 hrest] at hsplit
      exact ⟨_, by simpa using hsplit.symm, .emptyTagEnd hgap, rfl⟩
  · next after hdrop =>
      cases h
      rw [hdrop] at hsplit
      exact ⟨_, by simpa using hsplit.symm, .tagEnd hgap, rfl⟩
  · split at h
    · next hspace =>
        have hne : cs.takeWhile isSpace ≠ [] := by
          cases cs with
          | nil => simp at hspace
          | cons c cs =>
              have hc : isSpace c = true := by simpa using hspace
              rw [List.takeWhile_cons_of_pos hc]
              exact List.cons_ne_nil _ _
        obtain ⟨w, hw, hwritten⟩ := written_of_attribute? hne hgap h
        exact ⟨w, hsplit.symm.trans hw, hwritten⟩
    · cases h

theorem written_of_nextInContent? {event : Event} (h : nextInContent? cs = some (event, rest))
    (hordinary : event.isOrdinary = true) :
    (∃ content body, event = .comment (String.ofList content) ∧
      cs = '<' :: '!' :: '-' :: '-' :: body ∧ splitAt? "-->".toList body = some (content, rest)) ∨
    ∃ w, cs = w ++ rest ∧ Written event w ∧ event.endsInTag = false := by
  unfold nextInContent? at h
  split at h
  · next body =>
      simp only [comment?, bind, Option.bind_eq_some_iff] at h
      obtain ⟨⟨content, after⟩, hbody, he⟩ := h
      split at he
      · cases he
      · cases he
        exact .inl ⟨content, body, rfl, rfl, hbody⟩
  · simp only [bind, Option.bind_eq_some_iff] at h
    obtain ⟨after, -, split, -, he⟩ := h
    cases he
    cases hordinary
  · split at h
    · cases h
    · simp only [instruction?, bind, Option.bind_eq_some_iff] at h
      obtain ⟨content, -, split, -, he⟩ := h
      cases he
      cases hordinary
  · simp only [bind, Option.bind_eq_some_iff] at h
    obtain ⟨⟨q, afterName⟩, hname, after, hafter, he⟩ := h
    cases he
    obtain ⟨w, rfl, hw⟩ := QName.written_of_read? hname
    have hsplit := List.takeWhile_append_dropWhile (p := isSpace) (l := afterName)
    rw [Text.stripChars_eq_some_iff.1 hafter] at hsplit
    refine .inr ⟨_, ?_, .endTag hw (allSpace_takeWhile afterName), rfl⟩
    simpa using hsplit.symm
  · obtain ⟨⟨q, after⟩, hname, he⟩ := Option.map_eq_some_iff.1 h
    cases he
    obtain ⟨w, rfl, hw⟩ := QName.written_of_read? hname
    exact .inr ⟨_, rfl, .tagStart hw, rfl⟩
  · cases h
    refine .inr ⟨_, (takeWhile_append_drop (· != '<') cs).symm, .text ?_, rfl⟩
    intro hmem
    simpa using List.mem_takeWhile_imp hmem

theorem endsInTag_of_nextInContent? {event : Event}
    (h : nextInContent? cs = some (event, rest)) : event.endsInTag = false := by
  cases event with
  | «attribute» | tagEnd =>
      obtain ⟨_, _, he, -⟩ | ⟨_, -, -, hend⟩ := written_of_nextInContent? h rfl
      · cases he
      · exact hend
  | tagStart | endTag | text | literalText | comment | «instruction» => rfl

/-- The marks of a text one after the other, from inside a tag or from outside. -/
inductive Scans : Bool → List Char → List Event → Prop
  | done {insideTag : Bool} : Scans insideTag [] []
  | inTag {cs rest : List Char} {event : Event} {events : List Event}
      (next : nextInTag? cs = some (event, rest)) (later : Scans event.inTag rest events) :
      Scans true cs (event :: events)
  | inContent {cs rest : List Char} {event : Event} {events : List Event}
      (next : nextInContent? cs = some (event, rest)) (later : Scans event.inTag rest events) :
      Scans false cs (event :: events)

theorem scans_of_scan {fuel : Nat} {insideTag : Bool} {events : List Event}
    (h : scan fuel insideTag cs = some events) : Scans insideTag cs events := by
  induction fuel generalizing insideTag cs events with
  | zero =>
      cases cs with
      | nil => cases h; exact .done
      | cons c cs => cases h
  | succ fuel ih =>
      cases cs with
      | nil => cases h; exact .done
      | cons c cs =>
          cases insideTag with
          | true =>
              simp only [scan, bind, if_true, Option.bind_eq_some_iff] at h
              obtain ⟨⟨event, rest⟩, hnext, later, hlater, he⟩ := h
              cases he
              exact .inTag hnext (ih hlater)
          | false =>
              simp only [scan, bind, Bool.false_eq_true, if_false, Option.bind_eq_some_iff] at h
              obtain ⟨⟨event, rest⟩, hnext, later, hlater, he⟩ := h
              cases he
              exact .inContent hnext (ih hlater)

def declarationInitials : List Char := ['v', 'e', 's']

def InDeclaration (w : List Char) : Prop :=
  ∃ (attributes : List Assignment) (gap : List Char),
    w = attributes.flatMap Assignment.text ++ gap ∧ AllSpace gap ∧
      ∀ a ∈ attributes, ∃ c ∈ declarationInitials, a.name.head? = some c

theorem inDeclaration_nil : InDeclaration [] := ⟨[], [], rfl, nofun, nofun⟩

theorem InDeclaration.gap (hw : InDeclaration w) {space : List Char} (hspace : AllSpace space) :
    InDeclaration (w ++ space) := by
  obtain ⟨attributes, gap, rfl, hgap, hinitial⟩ := hw
  refine ⟨attributes, gap ++ space, List.append_assoc .., ?_, hinitial⟩
  exact fun c hc => (List.mem_append.1 hc).elim (hgap c) (hspace c)

theorem InDeclaration.gap? (hw : InDeclaration w) (h : declarationGap? cs = some rest) :
    ∃ w', w ++ cs = w' ++ rest ∧ InDeclaration w' := by
  rw [declarationGap?] at h
  split at h
  · cases h
    refine ⟨_, ?_, hw.gap (allSpace_takeWhile cs)⟩
    rw [List.append_assoc, List.takeWhile_append_dropWhile]
  · split at h
    · cases h
      exact ⟨w, rfl, hw⟩
    · cases h

theorem InDeclaration.item? (hw : InDeclaration w) {key : String}
    (hkey : ∃ c ∈ declarationInitials, key.toList.head? = some c)
    (h : declarationItem? key cs = some rest) : ∃ w', w ++ cs = w' ++ rest ∧ InDeclaration w' := by
  rw [declarationItem?] at h
  split at h
  · next hprefix =>
      obtain ⟨attributes, gap, rfl, hgap, hinitial⟩ := hw
      obtain ⟨c, hc, hhead⟩ := hkey
      obtain ⟨⟨q, written, after⟩, hassignment, he⟩ := Option.map_eq_some_iff.1 h
      cases he
      obtain ⟨a, htext, rfl, hname, -⟩ := assignment?_eq_some hgap hassignment
      refine ⟨(attributes ++ [a]).flatMap Assignment.text ++ [], ?_, attributes ++ [a], [], rfl,
        nofun, ?_⟩
      · rw [List.append_assoc, htext]
        simp
      · intro b hb
        rcases List.mem_append.1 hb with hb | hb
        · exact hinitial b hb
        · cases List.mem_singleton.1 hb
          obtain ⟨r, rfl⟩ := Text.isSome_stripChars_iff.1 hprefix
          rw [Assignment.text, Assignment.body, List.append_assoc, List.append_cancel_left_eq,
            List.append_assoc] at htext
          have hkeyhead := congrArg List.head? htext
          obtain ⟨d, more, hd⟩ := List.exists_cons_of_ne_nil hname.ne_nil
          rw [List.head?_append, hhead, hd] at hkeyhead
          rw [hd]
          exact ⟨c, hc, hkeyhead.symm⟩
  · cases h
    exact ⟨w, rfl, hw⟩

/-- The characters of an XML declaration, or none. -/
inductive Declaration : List Char → Prop
  | absent : Declaration []
  | present {w : List Char} (inside : InDeclaration w) :
      Declaration ("<?xml".toList ++ (w ++ "?>".toList))

theorem declaration_of_afterDeclaration? (h : afterDeclaration? cs = some rest) :
    ∃ w, cs = w ++ rest ∧ Declaration w := by
  rw [afterDeclaration?] at h
  split at h
  · cases h
    exact ⟨[], rfl, .absent⟩
  · next body hbody =>
      have hstart : cs = "<?xml".toList ++ cs.drop 5 := by
        rw [Text.stripChars_eq_some_iff.1 hbody]
        rfl
      simp only [bind, Option.bind_eq_some_iff] at h
      obtain ⟨cs₁, h₁, -, -, cs₂, h₂, cs₃, h₃, cs₄, h₄, h⟩ := h
      obtain ⟨cs₅, h₅, cs₆, h₆, h⟩ : ∃ cs₅, (declarationGap? cs₄ = some cs₅ ∨ cs₄ = cs₅) ∧
          ∃ cs₆, declarationItem? "standalone" cs₅ = some cs₆ ∧
            Text.stripChars "?>".toList (cs₆.dropWhile isSpace) = some rest := by
        split at h
        · obtain ⟨cs₅, h₅, h⟩ := Option.bind_eq_some_iff.1 h
          exact ⟨cs₅, .inl h₅, Option.bind_eq_some_iff.1 h⟩
        · exact ⟨cs₄, .inr rfl, Option.bind_eq_some_iff.1 h⟩
      obtain ⟨w₁, e₁, hw₁⟩ := inDeclaration_nil.gap? h₁
      obtain ⟨w₂, e₂, hw₂⟩ := hw₁.item? ⟨'v', by decide, rfl⟩ h₂
      obtain ⟨w₃, e₃, hw₃⟩ := hw₂.gap? h₃
      obtain ⟨w₄, e₄, hw₄⟩ := hw₃.item? ⟨'e', by decide, rfl⟩ h₄
      obtain ⟨w₅, e₅, hw₅⟩ : ∃ w₅, w₄ ++ cs₄ = w₅ ++ cs₅ ∧ InDeclaration w₅ := by
        obtain h₅ | rfl := h₅
        · exact hw₄.gap? h₅
        · exact ⟨w₄, rfl, hw₄⟩
      obtain ⟨w₆, e₆, hw₆⟩ := hw₅.item? ⟨'s', by decide, rfl⟩ h₆
      have hend := List.takeWhile_append_dropWhile (p := isSpace) (l := cs₆)
      rw [Text.stripChars_eq_some_iff.1 h] at hend
      refine ⟨_, ?_, .present (hw₆.gap (allSpace_takeWhile cs₆))⟩
      rw [List.nil_append] at e₁
      rw [hstart, e₁, e₂, e₃, e₄, e₅, e₆]
      simpa using hend.symm

/-- A text is a byte order mark or none, an XML declaration or none, and marks. -/
theorem scans_of_ofText? {s : String} {events : List Event} (h : ofText? s = some events) :
    ∃ mark declaration cs, s.toList = mark ++ (declaration ++ cs) ∧
      (mark = [] ∨ mark = ['\ufeff']) ∧ Declaration declaration ∧ Scans false cs events := by
  have hmark : ∃ mark body, s.toList = mark ++ body ∧ (mark = [] ∨ mark = ['\ufeff']) ∧
      ∃ cs, afterDeclaration? body = some cs ∧ scan cs.length false cs = some events := by
    simp only [ofText?, bind] at h
    split at h
    · next body hbody =>
        split at h
        · exact ⟨['\ufeff'], body, hbody, .inr rfl, Option.bind_eq_some_iff.1 h⟩
        · cases h
    · split at h
      · exact ⟨[], _, rfl, .inl rfl, Option.bind_eq_some_iff.1 h⟩
      · cases h
  obtain ⟨mark, body, hsplit, hmark, cs, hafter, hscan⟩ := hmark
  obtain ⟨declaration, rfl, hdeclaration⟩ := declaration_of_afterDeclaration? hafter
  exact ⟨mark, declaration, cs, hsplit, hmark, hdeclaration, scans_of_scan hscan⟩

end Event

end Xml

end Labeling
