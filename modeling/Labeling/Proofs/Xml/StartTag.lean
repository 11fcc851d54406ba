import Labeling.Proofs.Dict
import Labeling.Proofs.Xml.Element
import Labeling.Proofs.Xml.Mark
import Labeling.Xml.Reader
import Mathlib.Data.List.Forall2

namespace Labeling.Xml

namespace Event

/-- The attributes of each start tag in the order of the text. A tag that is open at first has the
attributes `tag` already. -/
def startTags (tag : Option (List WrittenAttribute)) : List Event → List (List WrittenAttribute)
  | [] => tag.toList
  | .tagStart _ :: rest => startTags (some []) rest
  | .attribute name value :: rest => startTags (tag.map (· ++ [(name, value)])) rest
  | .tagEnd _ :: rest => tag.toList ++ startTags none rest
  | _ :: rest => startTags tag rest

def writtenAttribute? : Event → Option WrittenAttribute
  | .attribute name value => some (name, value)
  | _ => none

end Event

def Opens (written : List WrittenAttribute) (attributes : List Attribute) : Prop :=
  ∃ declared scope others, declarations? written = some (declared, others) ∧
    resolveAttributes? scope others = some attributes

def Element.heads (e : Element) : List (List Attribute) := e.descendants.map Element.attributes

theorem Element.heads_eq (e : Element) :
    e.heads = e.attributes :: e.children.flatMap Element.heads := by
  rw [heads, descendants_cons, List.map_cons, List.map_flatMap]
  rfl

def OpenElement.heads (e : OpenElement) : List (List Attribute) := e.close.heads

theorem OpenElement.heads_eq (e : OpenElement) :
    e.heads = e.attributes :: e.children.reverse.flatMap Element.heads :=
  Element.heads_eq e.close

theorem OpenElement.heads_addChild (e : OpenElement) (child : Element) :
    (e.addChild child).heads = e.heads ++ child.heads := by
  simp [OpenElement.heads_eq, OpenElement.addChild]

theorem OpenElement.heads_addText (e : OpenElement) (s : String) : (e.addText s).heads = e.heads := by
  rw [OpenElement.heads_eq, OpenElement.heads_eq, OpenElement.addText]
  split <;> rfl

namespace Reader

def heads (r : Reader) : List (List Attribute) :=
  r.root.toList.flatMap Element.heads ++ r.stack.reverse.flatMap OpenElement.heads

def written (r : Reader) : Option (List WrittenAttribute) := r.tag.map (·.attributes.reverse)

variable {r r' : Reader}

theorem heads_of_stack_eq_cons {e : OpenElement} {outer : List OpenElement}
    (h : r.stack = e :: outer) : r.heads = { r with stack := outer }.heads ++ e.heads := by
  simp [heads, h]

theorem heads_place {e : Element} (h : r.place e = some r') :
    r'.heads = r.heads ++ e.heads ∧ r'.tag = r.tag := by
  rw [Reader.place] at h
  split at h
  · next parent outer hstack =>
      cases h
      refine ⟨?_, rfl⟩
      rw [heads_of_stack_eq_cons hstack, heads_of_stack_eq_cons rfl, OpenElement.heads_addChild,
        List.append_assoc]
  · next hstack =>
      split at h
      · next hroot =>
          cases h
          simp [heads, hstack, Option.isNone_iff_eq_none.1 hroot]
      · cases h

theorem heads_finishTag {t : OpenTag} {empty : Bool} (h : r.finishTag t empty = some r') :
    r'.tag = none ∧ ∃ attributes, Opens t.attributes.reverse attributes ∧
      r'.heads = r.heads ++ [attributes] := by
  simp only [Reader.finishTag, bind, Option.bind_eq_some_iff] at h
  obtain ⟨⟨declared, written⟩, hdeclared, attributes, hattributes, h⟩ := h
  split at h
  · cases h
  · refine ⟨?_, attributes, ⟨declared, _, written, hdeclared, hattributes⟩, ?_⟩
    · split at h
      · exact (heads_place h).2
      · cases h; rfl
    · split at h
      · rw [(heads_place h).1]
        rfl
      · cases h
        rw [heads_of_stack_eq_cons rfl]
        rfl

theorem heads_endText (r : Reader) : r.endText.heads = r.heads ∧ r.endText.tag = r.tag := by
  rw [Reader.endText]
  split
  · next e outer hstack =>
      refine ⟨?_, rfl⟩
      rw [heads_of_stack_eq_cons hstack, heads_of_stack_eq_cons rfl]
      rfl
  · exact ⟨rfl, rfl⟩

theorem heads_addText {cs : List Char} {content : Option (List Char)}
    (h : r.addText cs content = some r') : r'.heads = r.heads ∧ r'.tag = r.tag := by
  rw [Reader.addText] at h
  split at h
  · next e outer hstack =>
      obtain ⟨cs, -, rfl⟩ := Option.map_eq_some_iff.1 h
      refine ⟨?_, rfl⟩
      rw [heads_of_stack_eq_cons hstack, heads_of_stack_eq_cons rfl, OpenElement.heads_addText]
  · split at h
    · cases h
      exact ⟨rfl, rfl⟩
    · cases h

/-- A mark that is no part of a start tag leaves the start tags as they are. -/
theorem heads_step {event : Event} (h : r.step event = some r') (hin : event.inTag = false)
    (hend : event.endsInTag = false) : r'.heads = r.heads ∧ r'.tag = r.tag := by
  cases event with
  | tagStart name => cases hin
  | «attribute» name value => cases hin
  | tagEnd empty => cases hend
  | endTag name =>
      simp only [Reader.step] at h
      split at h
      · next e outer hstack =>
          split at h
          · rw [heads_of_stack_eq_cons hstack]
            exact heads_place h
          · cases h
      · cases h
  | text cs =>
      simp only [Reader.step] at h
      split at h
      · cases h
      · exact heads_addText h
  | literalText cs =>
      simp only [Reader.step] at h
      split at h
      · cases h
      · exact heads_addText h
  | comment content =>
      cases h
      exact heads_endText r
  | instruction =>
      cases h
      exact heads_endText r

theorem opens_of_run {events : List Event} (h : events.foldlM Reader.step r = some r')
    (hclosed : r'.tag = none) : ∃ attributes, r'.heads = r.heads ++ attributes ∧
      List.Forall₂ Opens (Event.startTags r.written events) attributes := by
  induction events generalizing r with
  | nil =>
      cases h
      refine ⟨[], (List.append_nil _).symm, ?_⟩
      rw [Event.startTags, written, hclosed]
      exact .nil
  | cons event rest ih =>
      rw [List.foldlM_cons] at h
      obtain ⟨after, hstep, hrest⟩ := Option.bind_eq_some_iff.1 h
      obtain ⟨attributes, hheads, hopens⟩ := ih hrest
      have keeps (hin : event.inTag = false) (hend : event.endsInTag = false) :
          ∃ attributes, r'.heads = r.heads ++ attributes ∧
            List.Forall₂ Opens (Event.startTags r.written rest) attributes := by
        obtain ⟨hsame, htag⟩ := heads_step hstep hin hend
        rw [written, htag] at hopens
        exact ⟨attributes, hsame ▸ hheads, hopens⟩
      cases event with
      | tagStart name =>
          simp only [Reader.step] at hstep
          split at hstep
          · cases hstep
          · cases hstep
            exact ⟨attributes, hheads, hopens⟩
      | «attribute» name value =>
          obtain ⟨t, ht, rfl⟩ := Option.map_eq_some_iff.1 hstep
          refine ⟨attributes, hheads, ?_⟩
          rw [Event.startTags, written, ht]
          simpa [written] using hopens
      | tagEnd empty =>
          obtain ⟨t, ht, hfinish⟩ := Option.bind_eq_some_iff.1 hstep
          obtain ⟨htag, own, hown, hown'⟩ := heads_finishTag hfinish
          refine ⟨own :: attributes, ?_, ?_⟩
          · rw [hheads, hown', List.append_assoc]
            rfl
          · rw [Event.startTags, written, ht]
            rw [written, htag] at hopens
            exact .cons hown hopens
      | endTag | text | literalText | comment | «instruction» => exact keeps rfl rfl

end Reader

/-- Each element of a document has the attributes that are written in its start tag. -/
theorem Document.opens_of_read {s : String} {doc : Document} (h : Document.read? s = some doc) :
    ∃ events, Event.ofText? s = some events ∧
      List.Forall₂ Opens (Event.startTags none events) doc.root.heads := by
  obtain ⟨events, hevents, h⟩ := Option.bind_eq_some_iff.1 h
  obtain ⟨r, hr, h⟩ := Option.bind_eq_some_iff.1 h
  refine ⟨events, hevents, ?_⟩
  rw [Reader.finish] at h
  split at h
  · next root htag hstack hroot =>
      cases h
      obtain ⟨attributes, hheads, hopens⟩ := Reader.opens_of_run hr htag
      have hroots : r.heads = root.heads := by simp [Reader.heads, hroot, hstack]
      rw [← hroots, hheads]
      exact hopens
  · cases h

theorem Event.flatten_startTags {insideTag : Bool} {cs : List Char} {events : List Event}
    (h : Scans insideTag cs events) {tag : Option (List WrittenAttribute)}
    (htag : tag.isSome = insideTag) :
    (startTags tag events).flatten = tag.getD [] ++ events.filterMap writtenAttribute? := by
  induction h generalizing tag with
  | done => cases tag <;> simp [startTags]
  | @inTag cs rest event events next later ih =>
      obtain ⟨written, rfl⟩ := Option.isSome_iff_exists.1 htag
      obtain ⟨w, -, -, hend⟩ := written_of_nextInTag? next
      cases event with
      | «attribute» name value =>
          rw [startTags, ih rfl]
          simp [writtenAttribute?]
      | tagEnd empty =>
          rw [startTags, List.flatten_append, ih rfl]
          simp [List.filterMap_cons, writtenAttribute?]
      | tagStart | endTag | text | literalText | comment | «instruction» => cases hend
  | @inContent cs rest event events next later ih =>
      cases Option.not_isSome_iff_eq_none.1 (Bool.eq_false_iff.1 htag)
      have hend := endsInTag_of_nextInContent? next
      have hopen : Option.isSome (some ([] : List WrittenAttribute)) = true := rfl
      have hclosed : Option.isSome (none : Option (List WrittenAttribute)) = false := rfl
      cases event with
      | tagStart name => exact ih hopen
      | «attribute» | tagEnd => cases hend
      | endTag | text | literalText | comment | «instruction» => exact ih hclosed

section

variable {key : String} {scope : Scope} {written others : List WrittenAttribute}
  {attributes : List Attribute}

def WrittenAttribute.valueOf? (key : String) (w : WrittenAttribute) : Option String :=
  if w.1.localName = key then some w.2 else none

/-- Whether `key` is written only without a qualifier. -/
def Unqualified (key : String) (written : List WrittenAttribute) : Prop :=
  ∀ w ∈ written, w.1.localName = key → w.1.qualifier = ""

theorem filterMap_of_declarations? (hkey : key ≠ "xmlns") (hplain : Unqualified key written)
    (h : declarations? written = some (scope, others)) :
    others.filterMap (WrittenAttribute.valueOf? key) =
      written.filterMap (WrittenAttribute.valueOf? key) ∧ Unqualified key others := by
  induction written generalizing scope others with
  | nil =>
      cases h
      exact ⟨rfl, hplain⟩
  | cons w rest ih =>
      obtain ⟨⟨qualifier, name⟩, value⟩ := w
      obtain ⟨hw, hrest⟩ := List.forall_mem_cons.1 hplain
      simp only [declarations?, bind, Option.bind_eq_some_iff] at h
      obtain ⟨⟨scope', others'⟩, hbelow, h⟩ := h
      obtain ⟨hvalues, hplain'⟩ := ih hrest hbelow
      have skip (hother : name ≠ key) :
          List.filterMap (WrittenAttribute.valueOf? key) ((⟨qualifier, name⟩, value) :: rest) =
            others'.filterMap (WrittenAttribute.valueOf? key) := by
        rw [List.filterMap_cons, WrittenAttribute.valueOf?, if_neg hother, hvalues]
      split at h
      · next hxmlns =>
          have hother : name ≠ key := fun he =>
            absurd ((hw he).symm.trans (beq_iff_eq.1 hxmlns)) (by decide)
          rw [skip hother]
          split at h
          · cases h
          · split at h <;> cases h <;> exact ⟨rfl, hplain'⟩
      · split at h
        · next hdefault =>
            rw [skip fun he => hkey (he.symm.trans (beq_iff_eq.1 hdefault))]
            split at h <;> cases h
            exact ⟨rfl, hplain'⟩
        · cases h
          refine ⟨?_, List.forall_mem_cons.2 ⟨hw, hplain'⟩⟩
          rw [List.filterMap_cons, hvalues, ← List.filterMap_cons]

def Resolves (scope : Scope) (w : WrittenAttribute) (a : Attribute) : Prop :=
  scope.attributeUri? w.1 = some a.uri ∧ a.name = w.1.localName ∧ a.value = w.2

theorem resolveAttributes?_eq_some (h : resolveAttributes? scope written = some attributes) :
    List.Forall₂ (Resolves scope) written attributes ∧
      attributes.Pairwise fun a b => ¬(b.uri = a.uri ∧ b.name = a.name) := by
  induction written generalizing attributes with
  | nil =>
      cases h
      exact ⟨.nil, .nil⟩
  | cons w rest ih =>
      obtain ⟨name, value⟩ := w
      simp only [resolveAttributes?, bind, Option.bind_eq_some_iff] at h
      obtain ⟨uri, huri, others, hothers, h⟩ := h
      split at h
      · cases h
      · next hnew =>
          cases h
          obtain ⟨hsame, hapart⟩ := ih hothers
          refine ⟨.cons ⟨huri, rfl, rfl⟩ hsame, List.pairwise_cons.2 ⟨?_, hapart⟩⟩
          simpa using hnew

theorem uri_of_resolves (h : List.Forall₂ (Resolves scope) written attributes)
    (hplain : Unqualified key written) : ∀ a ∈ attributes, a.name = key → a.uri = none := by
  induction h with
  | nil => exact nofun
  | cons hwa _ ih =>
      obtain ⟨hw, hplain⟩ := List.forall_mem_cons.1 hplain
      obtain ⟨huri, hlocal, -⟩ := hwa
      refine List.forall_mem_cons.2 ⟨fun hname => ?_, ih hplain⟩
      rw [Scope.attributeUri?, hw (hlocal.symm.trans hname)] at huri
      exact (Option.some.inj huri).symm

theorem filter_of_resolves (h : List.Forall₂ (Resolves scope) written attributes) :
    (attributes.filter (·.name == key)).map (·.value) =
      written.filterMap (WrittenAttribute.valueOf? key) := by
  induction h with
  | nil => rfl
  | @cons w a _ _ hwa _ ih =>
      obtain ⟨-, hname, hvalue⟩ := hwa
      rw [List.filterMap_cons, WrittenAttribute.valueOf?, ← hname, ← ih, List.filter_cons]
      by_cases hlocal : a.name = key
      · rw [if_pos hlocal, if_pos (beq_iff_eq.2 hlocal), List.map_cons, hvalue]
      · rw [if_neg hlocal, if_neg (mt beq_iff_eq.1 hlocal)]

/-- Without a qualifier a tag has at most one attribute of a name, with the value that is written. -/
theorem Opens.filter (h : Opens written attributes) (hkey : key ≠ "xmlns")
    (hplain : Unqualified key written) :
    (attributes.filter (·.name == key)).map (·.value) =
        written.filterMap (WrittenAttribute.valueOf? key) ∧
      (attributes.filter (·.name == key)).length ≤ 1 := by
  obtain ⟨declared, scope, others, hdeclared, hresolved⟩ := h
  obtain ⟨hvalues, hplain'⟩ := filterMap_of_declarations? hkey hplain hdeclared
  obtain ⟨hsame, hapart⟩ := resolveAttributes?_eq_some hresolved
  refine ⟨(filter_of_resolves hsame).trans hvalues, ?_⟩
  have hapart := hapart.filter (·.name == key)
  have hno : ∀ a ∈ attributes.filter (·.name == key), a.uri = none ∧ a.name = key := by
    intro a ha
    obtain ⟨ha, hname⟩ := List.mem_filter.1 ha
    exact ⟨uri_of_resolves hsame hplain' a ha (beq_iff_eq.1 hname), beq_iff_eq.1 hname⟩
  generalize attributes.filter (·.name == key) = found at hno hapart ⊢
  match found with
  | [] => exact Nat.zero_le 1
  | [_] => exact Nat.le_refl 1
  | a :: b :: rest =>
      obtain ⟨ha, hb⟩ := List.forall_mem_cons.1 hno
      obtain ⟨hb, -⟩ := List.forall_mem_cons.1 hb
      exact absurd ⟨hb.1.trans ha.1.symm, hb.2.trans ha.2.symm⟩
        (List.rel_of_pairwise_cons hapart List.mem_cons_self)

end

section

variable {key : String} {e : Element}

def Element.Single (key : String) (e : Element) : Prop :=
  (e.attributes.filter (·.name == key)).length ≤ 1

theorem Element.toList_attribute? (h : e.Single key) :
    (e.attribute? key).toList = (e.attributes.filter (·.name == key)).map (·.value) := by
  rw [Element.Single] at h
  rw [attribute?, ← List.head?_filter]
  generalize e.attributes.filter (·.name == key) = found at h ⊢
  match found with
  | [] => rfl
  | [_] => rfl

theorem Element.get?_attributeDict (h : e.Single key) :
    e.attributeDict.get? key = e.attribute? key := by
  rw [Element.Single] at h
  rw [attributeDict, Dict.get?_ofList, ← List.map_reverse, List.find?_map, Option.map_map,
    attribute?, ← List.head?_filter, ← List.head?_filter, List.filter_reverse]
  change ((e.attributes.filter (·.name == key)).reverse.head?).map _ = _
  generalize e.attributes.filter (·.name == key) = found at h ⊢
  match found with
  | [] => rfl
  | [_] => rfl

/-- The values of an attribute that is written only without a qualifier, in document order. -/
theorem Document.filterMap_attribute? {s : String} {doc : Document} {events : List Event}
    (hread : Document.read? s = some doc) (hevents : Event.ofText? s = some events)
    (hkey : key ≠ "xmlns") (hplain : Unqualified key (events.filterMap Event.writtenAttribute?)) :
    doc.root.descendants.filterMap (·.attribute? key) =
        (events.filterMap Event.writtenAttribute?).filterMap (WrittenAttribute.valueOf? key) ∧
      ∀ e ∈ doc.root.descendants, e.Single key := by
  obtain ⟨events', hevents', hopens⟩ := Document.opens_of_read hread
  cases hevents'.symm.trans hevents
  obtain ⟨-, -, cs, -, -, -, hscans⟩ := Event.scans_of_ofText? hevents
  have htags : (Event.startTags none events).flatten = events.filterMap Event.writtenAttribute? :=
    Event.flatten_startTags hscans rfl
  rw [← htags] at hplain ⊢
  rw [Element.heads, List.forall₂_map_right_iff] at hopens
  generalize Event.startTags none events = tags at hopens hplain ⊢
  generalize doc.root.descendants = elements at hopens ⊢
  induction hopens with
  | nil => exact ⟨rfl, nofun⟩
  | @cons written e _ _ hopens _ ih =>
      rw [List.flatten_cons] at hplain ⊢
      obtain ⟨hown, hlater⟩ := List.forall_mem_append.1 hplain
      obtain ⟨hvalues, hsingle⟩ := hopens.filter hkey hown
      obtain ⟨hrest, hrest'⟩ := ih hlater
      refine ⟨?_, List.forall_mem_cons.2 ⟨hsingle, hrest'⟩⟩
      rw [List.filterMap_append, ← hvalues, ← Element.toList_attribute? hsingle, ← hrest,
        List.filterMap_cons]
      cases e.attribute? key <;> rfl

end

end Labeling.Xml
