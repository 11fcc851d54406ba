import Labeling.Proofs.Scan.Assignment
import Labeling.Proofs.Scan.Comment
import Labeling.Proofs.Xml.StartTag

namespace Labeling.Scan

open Xml (Assignment QName Event)

section

variable {key : String} {word cs rest w : List Char} {event : Event}

theorem passes_written (hword : IsWord word) (hwritten : event.Written w)
    (hother : event.writtenAttribute? = none)
    (h : PlainFrom word (.of event.endsInTag) (w ++ rest)) :
    Passes word (w ++ rest) (.of event.inTag) rest := by
  cases hwritten with
  | tagStart name =>
      have hangle := passes_char (c := '<') (by decide) h
      exact hangle.trans (passes_name name.part hangle.plain)
  | «attribute» => cases hother
  | tagEnd space =>
      rw [List.append_assoc] at h ⊢
      have hspace := passes_space hword space (hword.assigns_delimiter (by decide)) h
      exact hspace.trans (passes_char (by decide) hspace.plain)
  | emptyTagEnd space =>
      rw [List.append_assoc] at h ⊢
      have hspace := passes_space hword space (hword.assigns_delimiter (by decide)) h
      have hslash := passes_char (by decide) hspace.plain
      exact hspace.trans (hslash.trans (passes_char (by decide) hslash.plain))
  | endTag name space =>
      simp only [List.cons_append, List.append_assoc, List.nil_append] at h ⊢
      have hangle := passes_char (c := '<') (by decide) h
      have hslash := passes_char (c := '/') (by decide) hangle.plain
      have hname := passes_name name.part hslash.plain
      have hspace := passes_space hword space (hword.assigns_delimiter (by decide)) hname.plain
      have hclose := passes_char (by decide) hspace.plain
      exact hangle.trans (hslash.trans (hname.trans (hspace.trans hclose)))
  | text angle => exact passes_content angle h

/-- A scanned value is what an attribute with the given value may have in the text. -/
def Decodes (scanned value : String) : Prop :=
  Event.attributeChars none scanned.toList = some value.toList

/-- What a search of `text` finds are the values of the attributes `key` among the marks. -/
structure Finds (key : String) (text : List Char) (events : List Event) : Prop where
  unqualified : Xml.Unqualified key (events.filterMap Event.writtenAttribute?)
  values : List.Forall₂ Decodes (occurrences (assignment? key.toList) 0 text)
    ((events.filterMap Event.writtenAttribute?).filterMap (Xml.WrittenAttribute.valueOf? key))

theorem finds_attribute (hword : IsWord key.toList) {a : Assignment} {q : QName}
    {value text : List Char} {later : List Event} (hgap : a.gap ≠ []) (hname : q.Written a.name)
    (hvalue : Event.attributeChars none a.value = some value)
    (hplain : PlainFrom key.toList .tag (a.text ++ text))
    (hlater : PlainFrom key.toList .tag text → Finds key text later) :
    Finds key (a.text ++ text) (.attribute q (String.ofList value) :: later) := by
  have hbody : PlainFrom key.toList .tag (a.body ++ text) := by
    rw [Assignment.text, List.append_assoc] at hplain
    exact hplain.of_space a.allSpace_gap
  obtain ⟨hunqualified, hvalues⟩ := hlater (passes_body hword hbody).plain
  refine ⟨List.forall_mem_cons.2 ⟨fun hlocal => ?_, hunqualified⟩, ?_⟩
  · exact (name_eq_of_localName hname (congrArg String.toList hlocal) hbody).1
  · have hcons : (Event.attribute q (String.ofList value) :: later).filterMap
        Event.writtenAttribute? =
          (q, String.ofList value) :: later.filterMap Event.writtenAttribute? := rfl
    rw [occurrences_text hword hgap hplain, hcons, List.filterMap_cons,
      Xml.WrittenAttribute.valueOf?]
    by_cases hlocal : q.localName = key
    · have hfound := (name_eq_of_localName hname (congrArg String.toList hlocal) hbody).2
      rw [if_pos hlocal, if_pos hfound]
      refine .cons ?_ hvalues
      rw [Decodes, String.toList_ofList, String.toList_ofList, hvalue]
    · have hfound : a.name ≠ key.toList := fun he =>
        hlocal (String.toList_inj.1 (localName_eq_of_name hword hname he))
      rw [if_neg hlocal, if_neg hfound]
      exact hvalues

theorem finds_other (hword : IsWord key.toList) {later : List Event} (hwritten : event.Written w)
    (hother : event.writtenAttribute? = none)
    (hplain : PlainFrom key.toList (.of event.endsInTag) (withoutComments 0 (w ++ rest)))
    (hlater : PlainFrom key.toList (.of event.inTag) (withoutComments 0 rest) →
      Finds key (withoutComments 0 rest) later) :
    Finds key (withoutComments 0 (w ++ rest)) (event :: later) := by
  rw [withoutComments_written hwritten] at hplain ⊢
  have hpasses := passes_written hword hwritten hother hplain
  obtain ⟨hunqualified, hvalues⟩ := hlater hpasses.plain
  constructor <;> rw [List.filterMap_cons_none hother]
  · exact hunqualified
  · rw [hpasses.same]
    exact hvalues

theorem finds_of_scans (hword : IsWord key.toList) {insideTag : Bool} {events : List Event}
    (h : Event.Scans insideTag cs events) (hordinary : ∀ event ∈ events, event.isOrdinary = true)
    (hplain : PlainFrom key.toList (.of insideTag) (withoutComments 0 cs)) :
    Finds key (withoutComments 0 cs) events := by
  induction h with
  | done => exact ⟨nofun, .nil⟩
  | @inTag cs rest event later next scans ih =>
      obtain ⟨-, hlater⟩ := List.forall_mem_cons.1 hordinary
      obtain ⟨w, rfl, hwritten, hend⟩ := Event.written_of_nextInTag? next
      cases event with
      | «attribute» =>
          rw [withoutComments_written hwritten] at hplain ⊢
          cases hwritten with
          | «attribute» gap name resolved =>
              exact finds_attribute hword gap name resolved hplain (ih hlater)
      | tagEnd empty => exact finds_other hword hwritten rfl hplain (ih hlater)
      | tagStart | endTag | text | literalText | comment | «instruction» => cases hend
  | @inContent cs rest event later next scans ih =>
      obtain ⟨hevent, hlater⟩ := List.forall_mem_cons.1 hordinary
      obtain ⟨content, body, rfl, rfl, hbody⟩ | ⟨w, rfl, hwritten, hend⟩ :=
        Event.written_of_nextInContent? next hevent
      · rw [withoutComments_comment hbody] at hplain ⊢
        obtain ⟨hunqualified, hvalues⟩ := ih hlater hplain
        exact ⟨hunqualified, hvalues⟩
      · have hother : event.writtenAttribute? = none := by
          cases event with
          | «attribute» => cases hend
          | tagStart | tagEnd | endTag | text | literalText | comment | «instruction» => rfl
        exact finds_other hword hwritten hother (hend.symm ▸ hplain) (ih hlater)

end

section

variable {key config : String} {word w rest : List Char}

theorem passes_attributes (hword : IsWord word) {attributes : List Assignment}
    (hinitial : ∀ a ∈ attributes, ∃ c ∈ Event.declarationInitials, a.name.head? = some c)
    (h : PlainFrom word .tag (attributes.flatMap Assignment.text ++ rest)) :
    Passes word (attributes.flatMap Assignment.text ++ rest) .tag rest := by
  induction attributes with
  | nil => exact passes_refl h
  | cons a attributes ih =>
      obtain ⟨⟨c, hc, hhead⟩, hinitials⟩ := List.forall_mem_cons.1 hinitial
      have hname : a.name ≠ word := fun he => hword.initial c hc (he ▸ hhead)
      rw [List.flatMap_cons, List.append_assoc] at h ⊢
      have hfirst := passes_text hword hname h
      exact hfirst.trans (ih hinitials hfirst.plain)

theorem passes_declaration (hword : IsWord word) (hdeclaration : Event.Declaration w)
    (h : PlainFrom word .content (w ++ rest)) : Passes word (w ++ rest) .content rest := by
  cases hdeclaration with
  | absent => exact passes_refl h
  | @present w inside =>
      obtain ⟨attributes, gap, rfl, hgap, hinitial⟩ := inside
      have hopening : "<?xml".toList = '<' :: '?' :: "xml".toList := rfl
      have hclosing : "?>".toList = ['?', '>'] := rfl
      simp only [hopening, hclosing, List.cons_append, List.append_assoc, List.nil_append] at h ⊢
      have hangle := passes_char (c := '<') (by decide) h
      have hmark := passes_char (c := '?') (by decide) hangle.plain
      have hname := passes_name (List.all_eq_true.1 (by decide +kernel)) hmark.plain
      have hattributes := passes_attributes hword hinitial hname.plain
      have hspace := passes_space hword hgap (hword.assigns_delimiter (by decide)) hattributes.plain
      have hmark' := passes_char (c := '?') (by decide) hspace.plain
      have hclose := passes_char (c := '>') (by decide) hmark'.plain
      exact hangle.trans (hmark.trans (hname.trans (hattributes.trans (hspace.trans
        (hmark'.trans hclose)))))

/-- Whether a search of the text of a config for assignments to `key` finds the attributes. -/
structure Plain (key config : String) : Prop where
  ordinary : (Event.ofText? config).all (·.all Event.isOrdinary) = true
  plain : PlainFrom key.toList .content (stripComments config)

instance : Decidable (Plain key config) :=
  decidable_of_iff (_ ∧ _) ⟨fun h => ⟨h.1, h.2⟩, fun h => ⟨h.ordinary, h.plain⟩⟩

def decoded (scanned : String) : String :=
  ((Event.attributeChars none scanned.toList).map String.ofList).getD scanned

theorem Decodes.decoded {scanned value : String} (h : Decodes scanned value) :
    decoded scanned = value := by
  rw [Scan.decoded, h, Option.map_some, String.ofList_toList, Option.getD_some]

theorem Plain.decodes (hword : IsWord key.toList) (h : Plain key config) {doc : Xml.Document}
    (hread : Xml.Document.read? config = some doc) :
    List.Forall₂ Decodes (values key (stripComments config))
      (doc.root.descendants.filterMap (·.attributeDict.get? key)) := by
  obtain ⟨hordinary, hplain⟩ := h
  obtain ⟨events, hevents, -⟩ := Xml.Document.opens_of_read hread
  obtain ⟨mark, declaration, cs, htext, hmark, hdeclaration, hscans⟩ :=
    Event.scans_of_ofText? hevents
  rw [hevents, Option.all_some, List.all_eq_true] at hordinary
  have hangle : '<' ∉ mark := by
    rcases hmark with rfl | rfl <;> decide
  have hstripped : stripComments config = mark ++ (declaration ++ withoutComments 0 cs) := by
    rw [stripComments, htext, withoutComments_append hangle,
      withoutComments_declaration hdeclaration]
  rw [hstripped] at hplain ⊢
  have hmark' := passes_content hangle hplain
  have hbefore := hmark'.trans (passes_declaration hword hdeclaration hmark'.plain)
  obtain ⟨hunqualified, hvalues⟩ := finds_of_scans hword hscans hordinary hbefore.plain
  have hkey : key ≠ "xmlns" := fun he => hword.ne_xmlns (he ▸ rfl)
  obtain ⟨hattributes, hsingle⟩ :=
    Xml.Document.filterMap_attribute? hread hevents hkey hunqualified
  rw [List.filterMap_congr fun e he => Xml.Element.get?_attributeDict (hsingle e he), hattributes,
    Scan.values, hbefore.same]
  exact hvalues

theorem Plain.values (hword : IsWord key.toList) (h : Plain key config) {doc : Xml.Document}
    (hread : Xml.Document.read? config = some doc) :
    doc.root.descendants.filterMap (·.attributeDict.get? key) =
      (values key (stripComments config)).map decoded := by
  have hdecoded := (h.decodes hword hread).imp fun _ _ => Decodes.decoded
  exact (List.forall₂_eq_eq_eq ▸ List.forall₂_map_left_iff.2 hdecoded).symm

end

end Labeling.Scan
