import Labeling.Proofs.Xml.Element
import Labeling.Xml.Reader

namespace Labeling.Xml

def IsLocalName (s : String) : Prop := beginsName s.toList = true

def Element.Named (e : Element) : Prop := ∀ d ∈ e.descendants, IsLocalName d.name

theorem Element.Named.name {e : Element} (h : e.Named) : IsLocalName e.name :=
  h e (mem_descendants_self e)

theorem Element.Named.child {e c : Element} (h : e.Named) (hc : c ∈ e.children) : c.Named :=
  fun d hd => h d (mem_descendants_iff.2 (.inr ⟨c, hc, hd⟩))

theorem QName.isLocalName_of_read {cs rest : List Char} {q : QName}
    (h : QName.read? cs = some (q, rest)) : IsLocalName q.localName := by
  unfold QName.read? at h
  simp only at h
  split at h
  · split at h
    · next hname => cases h; simpa [IsLocalName] using hname
    · cases h
  · split at h
    · next hname =>
        cases h
        simp only [Bool.and_eq_true] at hname
        simpa [IsLocalName] using hname.2
    · cases h
  · cases h

namespace Event

theorem nextInTag?_ne_tagStart {cs rest : List Char} {event : Event}
    (h : nextInTag? cs = some (event, rest)) (q : QName) : event ≠ .tagStart q := by
  rw [nextInTag?] at h
  split at h
  · simp only [Option.map_eq_some_iff] at h
    obtain ⟨after, -, he⟩ := h
    cases he; exact nofun
  · cases h; exact nofun
  · split at h
    · simp only [attribute?, bind, Option.bind_eq_some_iff] at h
      obtain ⟨written, -, value, -, he⟩ := h
      cases he; exact nofun
    · cases h

theorem isLocalName_of_nextInContent? {cs rest : List Char} {q : QName}
    (h : nextInContent? cs = some (.tagStart q, rest)) : IsLocalName q.localName := by
  unfold nextInContent? at h
  split at h
  · simp only [comment?, bind, Option.bind_eq_some_iff] at h
    obtain ⟨split, -, he⟩ := h
    split at he <;> cases he
  · simp only [bind, Option.bind_eq_some_iff] at h
    obtain ⟨after, -, split, -, he⟩ := h
    cases he
  · split at h
    · cases h
    · simp only [instruction?, bind, Option.bind_eq_some_iff] at h
      obtain ⟨content, -, split, -, he⟩ := h
      cases he
  · simp only [bind, Option.bind_eq_some_iff] at h
    obtain ⟨name, -, after, -, he⟩ := h
    cases he
  · simp only [Option.map_eq_some_iff] at h
    obtain ⟨⟨name, after⟩, hread, he⟩ := h
    cases he
    exact QName.isLocalName_of_read hread
  · cases h

theorem isLocalName_of_scan {fuel : Nat} {insideTag : Bool} {cs : List Char} {events : List Event}
    (h : scan fuel insideTag cs = some events) {q : QName} (hq : .tagStart q ∈ events) :
    IsLocalName q.localName := by
  induction fuel generalizing insideTag cs events with
  | zero =>
      cases cs with
      | nil => rw [scan] at h; cases h; cases hq
      | cons c cs => rw [scan] at h; cases h
  | succ fuel ih =>
      cases cs with
      | nil => rw [scan] at h; cases h; cases hq
      | cons c cs =>
          cases insideTag with
          | true =>
              simp only [scan, bind, if_true, Option.bind_eq_some_iff] at h
              obtain ⟨⟨event, rest⟩, hnext, later, hlater, he⟩ := h
              cases he
              rcases List.mem_cons.1 hq with rfl | hmem
              · exact absurd rfl (nextInTag?_ne_tagStart hnext q)
              · exact ih hlater hmem
          | false =>
              simp only [scan, bind, Bool.false_eq_true, if_false, Option.bind_eq_some_iff] at h
              obtain ⟨⟨event, rest⟩, hnext, later, hlater, he⟩ := h
              cases he
              rcases List.mem_cons.1 hq with rfl | hmem
              · exact isLocalName_of_nextInContent? hnext
              · exact ih hlater hmem

theorem isLocalName_of_ofText? {s : String} {events : List Event} (h : ofText? s = some events)
    {q : QName} (hq : .tagStart q ∈ events) : IsLocalName q.localName := by
  have hscan : ∃ cs, scan cs.length false cs = some events := by
    simp only [ofText?, bind] at h
    split at h <;> split at h <;> try cases h
    all_goals
      obtain ⟨cs, -, hscan⟩ := Option.bind_eq_some_iff.1 h
      exact ⟨cs, hscan⟩
  obtain ⟨cs, hscan⟩ := hscan
  exact isLocalName_of_scan hscan hq

end Event

def OpenElement.Named (e : OpenElement) : Prop :=
  IsLocalName e.name.localName ∧ ∀ c ∈ e.children, c.Named

theorem OpenElement.Named.close {e : OpenElement} (h : e.Named) : e.close.Named := by
  intro d hd
  rcases Element.mem_descendants_iff.1 hd with rfl | ⟨c, hc, hdc⟩
  · exact h.1
  · exact h.2 c (List.mem_reverse.1 hc) d hdc

theorem OpenElement.Named.addChild {e : OpenElement} (h : e.Named) {child : Element}
    (hchild : child.Named) : (e.addChild child).Named :=
  ⟨h.1, List.forall_mem_cons.2 ⟨hchild, h.2⟩⟩

theorem OpenElement.Named.addText {e : OpenElement} (h : e.Named) (s : String) :
    (e.addText s).Named := by
  rw [OpenElement.addText]
  split <;> exact h

namespace Reader

structure Named (r : Reader) : Prop where
  tag : ∀ t ∈ r.tag, IsLocalName t.name.localName
  stack : ∀ e ∈ r.stack, e.Named
  root : ∀ e ∈ r.root, e.Named

theorem Named.top {r : Reader} {e : OpenElement} {outer : List OpenElement} (h : r.Named)
    (hstack : r.stack = e :: outer) : e.Named ∧ ∀ o ∈ outer, o.Named :=
  List.forall_mem_cons.1 (hstack ▸ h.stack)

theorem Named.place {r r' : Reader} {e : Element} (h : r.Named) (he : e.Named)
    (hr : r.place e = some r') : r'.Named := by
  rw [Reader.place] at hr
  split at hr
  · next parent outer hstack =>
      cases hr
      obtain ⟨hparent, houter⟩ := h.top hstack
      exact ⟨h.tag, List.forall_mem_cons.2 ⟨hparent.addChild he, houter⟩, h.root⟩
  · split at hr
    · cases hr
      exact ⟨h.tag, h.stack, fun d hd => Option.mem_some.1 hd ▸ he⟩
    · cases hr

theorem Named.finishTag {r r' : Reader} {t : OpenTag} {empty : Bool} (h : r.Named)
    (ht : IsLocalName t.name.localName) (hr : r.finishTag t empty = some r') : r'.Named := by
  simp only [Reader.finishTag, bind, Option.bind_eq_some_iff] at hr
  obtain ⟨⟨declared, written⟩, -, attributes, -, hr⟩ := hr
  split at hr
  · cases hr
  · have hopen : OpenElement.Named
        ⟨t.name, attributes, declared ++ r.scope, [], [], false⟩ := ⟨ht, by simp⟩
    split at hr
    · have hafter : Named { r with tag := none } := ⟨by simp, h.stack, h.root⟩
      exact hafter.place hopen.close hr
    · cases hr
      refine ⟨by simp, ?_, h.root⟩
      intro e he
      rcases List.mem_cons.1 he with rfl | he
      · exact hopen
      · exact h.stack e he

theorem Named.addText {r r' : Reader} {written : List Char} {content : Option (List Char)}
    (h : r.Named) (hr : r.addText written content = some r') : r'.Named := by
  rw [Reader.addText] at hr
  split at hr
  · next e outer hstack =>
      obtain ⟨cs, -, rfl⟩ := Option.map_eq_some_iff.1 hr
      obtain ⟨he, houter⟩ := h.top hstack
      exact ⟨h.tag, List.forall_mem_cons.2 ⟨he.addText _, houter⟩, h.root⟩
  · split at hr
    · cases hr; exact h
    · cases hr

theorem Named.endText {r : Reader} (h : r.Named) : r.endText.Named := by
  rw [Reader.endText]
  split
  · next e outer hstack =>
      obtain ⟨he, houter⟩ := h.top hstack
      exact ⟨h.tag, List.forall_mem_cons.2 ⟨he, houter⟩, h.root⟩
  · exact h

theorem Named.step {r r' : Reader} {event : Event} (h : r.Named)
    (hevent : ∀ q, event = .tagStart q → IsLocalName q.localName)
    (hr : r.step event = some r') : r'.Named := by
  cases event with
  | tagStart name =>
      simp only [Reader.step] at hr
      split at hr
      · cases hr
      · cases hr
        exact ⟨fun t ht => Option.mem_some.1 ht ▸ hevent name rfl, h.stack, h.root⟩
  | «attribute» name value =>
      obtain ⟨t, ht, rfl⟩ := Option.map_eq_some_iff.1 hr
      exact ⟨fun u hu => Option.mem_some.1 hu ▸ h.tag t ht, h.stack, h.root⟩
  | tagEnd empty =>
      obtain ⟨t, ht, hr⟩ := Option.bind_eq_some_iff.1 hr
      exact h.finishTag (h.tag t ht) hr
  | endTag name =>
      simp only [Reader.step] at hr
      split at hr
      · next e outer hstack =>
          obtain ⟨he, houter⟩ := h.top hstack
          split at hr
          · have hrest : Named { r with stack := outer } := ⟨h.tag, houter, h.root⟩
            exact hrest.place he.close hr
          · cases hr
      · cases hr
  | text written =>
      simp only [Reader.step] at hr
      split at hr
      · cases hr
      · exact h.addText hr
  | literalText written =>
      simp only [Reader.step] at hr
      split at hr
      · cases hr
      · exact h.addText hr
  | comment content =>
      cases hr
      exact ⟨h.endText.tag, h.endText.stack, h.endText.root⟩
  | instruction =>
      cases hr
      exact h.endText

theorem Named.run {events : List Event} {r r' : Reader} (h : r.Named)
    (hevents : ∀ q, .tagStart q ∈ events → IsLocalName q.localName)
    (hr : events.foldlM Reader.step r = some r') : r'.Named := by
  induction events generalizing r with
  | nil => cases hr; exact h
  | cons event rest ih =>
      rw [List.foldlM_cons] at hr
      obtain ⟨after, hstep, hr⟩ := Option.bind_eq_some_iff.1 hr
      exact ih (h.step (fun q hq => hevents q (hq ▸ List.mem_cons_self)) hstep)
        (fun q hq => hevents q (List.mem_cons_of_mem _ hq)) hr

theorem named_empty : Reader.empty.Named :=
  ⟨by simp [Reader.empty], by simp [Reader.empty], by simp [Reader.empty]⟩

end Reader

/-- Every element of a document that was read has a name. -/
theorem Document.named_of_read {s : String} {doc : Document} (h : Document.read? s = some doc) :
    doc.root.Named := by
  obtain ⟨events, hevents, h⟩ := Option.bind_eq_some_iff.1 h
  obtain ⟨r, hr, h⟩ := Option.bind_eq_some_iff.1 h
  have hnamed := Reader.named_empty.run (fun q => Event.isLocalName_of_ofText? hevents) hr
  rw [Reader.finish] at h
  split at h
  · next hroot => cases h; exact hnamed.root _ hroot
  · cases h

end Labeling.Xml
