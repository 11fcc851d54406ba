import Labeling.Proofs.Grammar.Tree
import Labeling.Proofs.Text
import Mathlib.Data.List.Nodup

namespace Labeling

namespace Dict

variable {α : Type} {d e : Dict α}

theorem eq_of_get?_eq (hd : d.Sorted) (he : e.Sorted) (h : ∀ key, d.get? key = e.get? key) :
    d = e := by
  have hmem (entry : String × α) : entry ∈ d ↔ entry ∈ e := by
    obtain ⟨key, v⟩ := entry
    rw [mem_iff_get? hd.nodup_keys, mem_iff_get? he.nodup_keys, h]
  have hperm : d.Perm e :=
    (List.perm_ext_iff_of_nodup (List.Nodup.of_map _ hd.nodup_keys)
      (List.Nodup.of_map _ he.nodup_keys)).2 hmem
  refine hperm.eq_of_pairwise ?_ (List.pairwise_map.1 hd) (List.pairwise_map.1 he)
  intro p q _ _ hpq hqp
  exact absurd (String.lt_trans hpq hqp) (String.lt_irrefl _)

theorem mem_of_mem_ofList {entries : List (String × α)} {entry : String × α}
    (h : entry ∈ ofList entries) : entry ∈ entries := by
  obtain ⟨key, v⟩ := entry
  exact mem_of_get?_ofList (get?_eq_some_of_mem (ofList_sorted entries).nodup_keys h)

theorem get?_ofList_of_last {before after : List (String × α)} {key : String} {v : α}
    (h : ∀ e ∈ after, e.1 ≠ key) : (ofList (before ++ (key, v) :: after)).get? key = some v := by
  rw [List.append_cons, get?_ofList_append h, List.reverse_append]
  simp

end Dict

namespace Xml.Element

/-- The way from the root of a tree down to an element: the names on it, each with the position
among the children of that name. -/
abbrev Place := List (String × Nat)

def at? (e : Element) : Place → Option Element
  | [] => some e
  | (name, i) :: rest => (e.childrenNamed name)[i]?.bind fun c => c.at? rest

variable {e d : Element} {place : Place}

theorem mem_childrenNamed {c : Element} {name : String} :
    c ∈ e.childrenNamed name ↔ c ∈ e.children ∧ c.name = name := by
  rw [childrenNamed, List.mem_filter, beq_iff_eq]

theorem exists_place (h : d ∈ e.descendants) : ∃ place, e.at? place = some d := by
  induction e using induction_children with
  | step e ih =>
      rcases mem_descendants_iff.1 h with rfl | ⟨c, hc, hd⟩
      · exact ⟨[], rfl⟩
      · obtain ⟨place, hplace⟩ := ih c hc hd
        obtain ⟨i, hi⟩ := List.getElem?_of_mem (mem_childrenNamed.2 ⟨hc, rfl⟩)
        exact ⟨(c.name, i) :: place, by rw [at?, hi, Option.bind_some, hplace]⟩

theorem Named.at? (h : e.Named) (hplace : e.at? place = some d) : d.Named := by
  induction place generalizing e with
  | nil =>
      cases hplace
      exact h
  | cons step rest ih =>
      obtain ⟨c, hc, hplace⟩ := Option.bind_eq_some_iff.1 hplace
      exact ih (h.child (mem_childrenNamed.1 (List.mem_of_getElem? hc)).1) hplace

end Xml.Element

namespace Grammar

open Xml (Element Document IsLocalName)
open Xml.Element (Place)

variable {e : Element} {entries : Dict Json} {key name : String} {place : Place}

/-- The entries are the attributes, the text and the children of an element and nothing else. Of
attributes with one local name the last counts; blank texts are left out. -/
structure Describes (entries : Dict Json) (e : Element) : Prop where
  sorted : entries.Sorted
  keys : ∀ key, key ∈ entries.keys ↔ (∃ a ∈ e.attributes, key = attributeKey a.name) ∨
    (key = textKey ∧ ∃ t ∈ e.texts, Text.trim t ≠ "") ∨ ∃ c ∈ e.children, key = c.name
  «attribute» : ∀ before a after, e.attributes = before ++ a :: after →
    (∀ b ∈ after, b.name ≠ a.name) → entries.get? (attributeKey a.name) = some (.string a.value)
  text : (∃ t ∈ e.texts, Text.trim t ≠ "") → entries.get? textKey =
    some (.string (String.intercalate " " ((e.texts.filter (Text.trim · ≠ "")).map Text.trim)))
  child : ∀ c ∈ e.children, e.childrenNamed c.name = [c] →
    entries.get? c.name = some (ofElement c)
  children : ∀ name, 2 ≤ (e.childrenNamed name).length →
    entries.get? name = some (.array ((e.childrenNamed name).map ofElement))

theorem joinedText_eq (texts : List String) : joinedText texts =
    String.intercalate " " ((texts.filter (Text.trim · ≠ "")).map Text.trim) := by
  rw [joinedText, List.filter_map]
  rfl

theorem joinedText_eq_empty {texts : List String} :
    joinedText texts = "" ↔ ¬∃ t ∈ texts, Text.trim t ≠ "" := by
  have hpieces : ∀ p ∈ (texts.filter (Text.trim · ≠ "")).map Text.trim, p ≠ "" := by
    intro p hp
    obtain ⟨t, ht, rfl⟩ := List.mem_map.1 hp
    exact of_decide_eq_true (List.mem_filter.1 ht).2
  rw [joinedText_eq]
  constructor
  · rintro hempty ⟨t, ht, hne⟩
    have hnil := List.map_eq_nil_iff.1 (Text.eq_nil_of_intercalate_eq_empty hpieces hempty)
    exact of_decide_eq_false (Bool.not_eq_true _ ▸ List.filter_eq_nil_iff.1 hnil t ht) hne
  · intro hblank
    have hnil : texts.filter (Text.trim · ≠ "") = [] :=
      List.filter_eq_nil_iff.2 fun t ht hne => hblank ⟨t, ht, of_decide_eq_true hne⟩
    rw [hnil, List.map_nil, String.intercalate_nil]

theorem mem_keys_ownEntries : key ∈ (ownEntries e).keys ↔
    (∃ a ∈ e.attributes, key = attributeKey a.name) ∨
      (key = textKey ∧ ∃ t ∈ e.texts, Text.trim t ≠ "") := by
  have hattributes : key ∈ (Dict.ofList (e.attributes.map fun a =>
      (attributeKey a.name, Json.string a.value))).keys ↔
        ∃ a ∈ e.attributes, key = attributeKey a.name := by
    rw [Dict.mem_keys_ofList]
    simp [eq_comm]
  simp only [ownEntries]
  split
  · next hempty =>
      rw [hattributes, iff_false_intro (joinedText_eq_empty.1 hempty), and_false, or_false]
  · next htext =>
      rw [joinedText_eq_empty, not_not] at htext
      rw [Dict.mem_keys_insert, hattributes, or_comm, iff_true_intro htext, and_true]

theorem mem_keys_addChildren {cs : List Element} :
    key ∈ (addChildren entries cs).keys ↔ key ∈ entries.keys ∨ ∃ c ∈ cs, key = c.name := by
  induction cs generalizing entries with
  | nil => simp [addChildren]
  | cons c rest ih =>
      rw [addChildren, ih, addChild_eq, Dict.alter, Dict.mem_keys_insert, List.exists_mem_cons_iff,
        or_assoc, or_left_comm]

theorem get?_ownEntries_text (h : ∃ t ∈ e.texts, Text.trim t ≠ "") :
    (ownEntries e).get? textKey = some (.string (joinedText e.texts)) := by
  have htext : joinedText e.texts ≠ "" := fun hempty => joinedText_eq_empty.1 hempty h
  simp only [ownEntries]
  rw [if_neg htext, Dict.get?_insert, if_pos rfl]

theorem get?_entriesOf_own (he : e.Named) (hkey : isChildKey key = false) :
    (entriesOf e).get? key = (ownEntries e).get? key :=
  get?_addChildren_other (name_ne_of_not_isChildKey (fun _ hc => (he.child hc).name) hkey)

theorem describes_entriesOf (he : e.Named) : Describes (entriesOf e) e where
  sorted := entriesOf_sorted e
  keys key := by
    rw [entriesOf, mem_keys_addChildren, mem_keys_ownEntries, or_assoc]
  «attribute» before a after hsplit hafter := by
    rw [get?_entriesOf_own he (isChildKey_attributeKey _), get?_ownEntries_attribute,
      Element.attributeDict, hsplit, List.map_append, List.map_cons, Dict.get?_ofList_of_last,
      Option.map_some]
    intro entry hentry
    obtain ⟨b, hb, rfl⟩ := List.mem_map.1 hentry
    exact hafter b hb
  text htext := by
    rw [get?_entriesOf_own he isChildKey_textKey, get?_ownEntries_text htext, joinedText_eq]
  child c hc hlone := by
    rw [get?_entriesOf_child e (isChildKey_of_isLocalName (he.child hc).name), hlone]
    rfl
  children name hmany := by
    have hchild : isChildKey name = true := by
      obtain ⟨c, hc⟩ := List.exists_mem_of_length_pos (by omega : 0 < (e.childrenNamed name).length)
      obtain ⟨hchild, rfl⟩ := Element.mem_childrenNamed.1 hc
      exact isChildKey_of_isLocalName (he.child hchild).name
    rw [get?_entriesOf_child e hchild]
    cases hlist : e.childrenNamed name with
    | nil =>
        rw [hlist] at hmany
        cases hmany
    | cons c tail =>
        cases tail with
        | nil =>
            rw [hlist, List.length_singleton] at hmany
            omega
        | cons d rest => rfl

def itemsUnder (v : Json) (name : String) : List Json :=
  if isChildKey name then ((v.member? name).map itemsOf).getD [] else []

def treeAt? (v : Json) : Place → Option Json
  | [] => some v
  | (name, i) :: rest => (itemsUnder v name)[i]?.bind fun item => treeAt? item rest

theorem itemsOf_grouped {items : List Json} (h : ∀ v ∈ items, ¬ IsArray v) :
    ((grouped items).map itemsOf).getD [] = items := by
  match items, h with
  | [], _ => rfl
  | [_], h => exact itemsOf_of_grouped h rfl
  | _ :: _ :: _, _ => rfl

theorem itemsUnder_ofElement (he : e.Named) (name : String) :
    itemsUnder (ofElement e) name = (e.childrenNamed name).map ofElement := by
  have hnamed : ∀ c ∈ e.children, IsLocalName c.name := fun c hc => (he.child hc).name
  rw [← childrenUnder_eq hnamed, childrenUnder, itemsUnder]
  split
  · next hkey =>
      have hmember : (ofElement e).member? name = (entriesOf e).get? name := by
        rw [ofElement_eq]
        rfl
      rw [hmember, get?_entriesOf_child e hkey]
      apply itemsOf_grouped
      intro v hv
      obtain ⟨c, -, rfl⟩ := List.mem_map.1 hv
      exact not_isArray_ofElement c
  · rfl

theorem treeAt?_ofElement (he : e.Named) (place : Place) :
    treeAt? (ofElement e) place = (e.at? place).map ofElement := by
  induction place generalizing e with
  | nil => rfl
  | cons step rest ih =>
      obtain ⟨name, i⟩ := step
      rw [treeAt?, Element.at?, itemsUnder_ofElement he, List.getElem?_map]
      cases hc : (e.childrenNamed name)[i]? with
      | none => rfl
      | some c => exact ih (he.child (Element.mem_childrenNamed.1 (List.mem_of_getElem? hc)).1)

variable {a b : Element}

theorem ownEntries_eq_of_ofElement_eq (ha : a.Named) (hb : b.Named)
    (h : ofElement a = ofElement b) : ownEntries a = ownEntries b := by
  rw [ofElement_eq, ofElement_eq] at h
  have hentries : entriesOf a = entriesOf b := Json.object.inj h
  apply Dict.eq_of_get?_eq (ownEntries_sorted a) (ownEntries_sorted b)
  intro key
  cases hkey : isChildKey key with
  | true => rw [get?_ownEntries_child hkey, get?_ownEntries_child hkey]
  | false => rw [← get?_entriesOf_own ha hkey, hentries, get?_entriesOf_own hb hkey]

theorem ofElement_eq_of_forall_place (ha : a.Named) (hb : b.Named)
    (h : ∀ place, (a.at? place).map ownEntries = (b.at? place).map ownEntries) :
    ofElement a = ofElement b := by
  induction a using Element.induction_children generalizing b with
  | step a ih =>
      have hown : ownEntries a = ownEntries b := Option.some.inj (h [])
      have hchildren (name : String) :
          (a.childrenNamed name).map ofElement = (b.childrenNamed name).map ofElement := by
        apply List.ext_getElem?
        intro i
        have hi := h [(name, i)]
        rw [List.getElem?_map, List.getElem?_map]
        simp only [Element.at?] at hi
        -- The places below the children are places below `a` and `b`.
        have hbelow (rest : Place) := h ((name, i) :: rest)
        simp only [Element.at?] at hbelow
        cases hc : (a.childrenNamed name)[i]? with
        | none =>
            cases hd : (b.childrenNamed name)[i]? with
            | none => rfl
            | some d => rw [hc, hd] at hi; cases hi
        | some c =>
            cases hd : (b.childrenNamed name)[i]? with
            | none => rw [hc, hd] at hi; cases hi
            | some d =>
                have hca := (Element.mem_childrenNamed.1 (List.mem_of_getElem? hc)).1
                have hdb := (Element.mem_childrenNamed.1 (List.mem_of_getElem? hd)).1
                rw [hc, hd] at hbelow
                exact congrArg some (ih c hca (ha.child hca) (hb.child hdb) hbelow)
      rw [ofElement_eq, ofElement_eq, Json.object.injEq]
      apply Dict.eq_of_get?_eq (entriesOf_sorted a) (entriesOf_sorted b)
      intro key
      cases hkey : isChildKey key with
      | true => rw [get?_entriesOf_child a hkey, get?_entriesOf_child b hkey, hchildren]
      | false => rw [get?_entriesOf_own ha hkey, get?_entriesOf_own hb hkey, hown]

theorem ofElement_eq_iff (ha : a.Named) (hb : b.Named) : ofElement a = ofElement b ↔
    ∀ place, (a.at? place).map ownEntries = (b.at? place).map ownEntries := by
  refine ⟨fun h place => ?_, ofElement_eq_of_forall_place ha hb⟩
  have htree := treeAt?_ofElement ha place
  rw [h, treeAt?_ofElement hb] at htree
  cases hc : a.at? place with
  | none =>
      rw [hc] at htree
      rw [Option.map_eq_none_iff.1 htree, Option.map_none]
  | some c =>
      rw [hc] at htree
      obtain ⟨d, hd, hdc⟩ := Option.map_eq_some_iff.1 htree
      rw [hd, Option.map_some, Option.map_some,
        ownEntries_eq_of_ofElement_eq (ha.at? hc) (hb.at? hd) hdc.symm]

mutual

def objectCount : Json → Nat
  | .array items => countInList items
  | .object members => 1 + countInMembers members
  | _ => 0

def countInList : List Json → Nat
  | [] => 0
  | v :: rest => objectCount v + countInList rest

def countInMembers : List (String × Json) → Nat
  | [] => 0
  | (_, v) :: rest => objectCount v + countInMembers rest

end

theorem countInList_append (xs ys : List Json) :
    countInList (xs ++ ys) = countInList xs + countInList ys := by
  induction xs with
  | nil => simp [countInList]
  | cons v rest ih => rw [List.cons_append, countInList, countInList, ih, Nat.add_assoc]

theorem countInMembers_eq_zero {members : List (String × Json)}
    (h : ∀ m ∈ members, objectCount m.2 = 0) : countInMembers members = 0 := by
  induction members with
  | nil => rfl
  | cons m rest ih =>
      obtain ⟨hm, hrest⟩ := List.forall_mem_cons.1 h
      rw [countInMembers, hm, ih hrest]

theorem countInMembers_insert (h : entries.Sorted) (key : String) (v : Json) :
    countInMembers (entries.insert key v) + ((entries.get? key).map objectCount).getD 0 =
      countInMembers entries + objectCount v := by
  induction entries with
  | nil => simp [Dict.insert, countInMembers]
  | cons entry rest ih =>
      obtain ⟨k, w⟩ := entry
      have hcons : (∀ other ∈ Dict.keys rest, k < other) ∧ Dict.Sorted rest :=
        List.pairwise_cons.1 h
      rw [Dict.insert, Dict.get?_cons]
      by_cases heq : k = key
      · rw [if_pos heq, if_pos heq, Option.map_some, Option.getD_some, countInMembers,
          countInMembers]
        omega
      · rw [if_neg heq, if_neg heq]
        by_cases hlt : key < k
        · have hnone : Dict.get? rest key = none := by
            rw [Dict.get?_eq_none_iff]
            exact fun hmem => String.lt_irrefl _ (String.lt_trans hlt (hcons.1 key hmem))
          rw [if_pos hlt, hnone, Option.map_none, Option.getD_none, countInMembers]
          omega
        · rw [if_neg hlt, countInMembers, countInMembers]
          have hrest := ih hcons.2
          omega

theorem objectCount_joined (found : Option Json) (child : Json) :
    objectCount (joined found child) = (found.map objectCount).getD 0 + objectCount child := by
  match found with
  | none => exact (Nat.zero_add _).symm
  | some (.array items) =>
      rw [joined, objectCount, countInList_append]
      rfl
  | some .null | some (.bool _) | some (.number _) | some (.string _) | some (.object _) => rfl

theorem countInMembers_addChild (h : entries.Sorted) (name : String) (child : Json) :
    countInMembers (addChild entries name child) = countInMembers entries + objectCount child := by
  have hinsert := countInMembers_insert h name (joined (entries.get? name) child)
  rw [objectCount_joined] at hinsert
  rw [addChild_eq, Dict.alter]
  omega

theorem countInMembers_addChildren (h : entries.Sorted) (cs : List Element) :
    countInMembers (addChildren entries cs) =
      countInMembers entries + countInList (cs.map ofElement) := by
  induction cs generalizing entries with
  | nil => rfl
  | cons c rest ih =>
      have hsorted : (addChild entries c.name (ofElement c)).Sorted := by
        rw [addChild_eq]
        exact Dict.alter_sorted h _ _
      rw [addChildren, ih hsorted, countInMembers_addChild h, List.map_cons, countInList,
        Nat.add_assoc]

theorem countInMembers_ownEntries (e : Element) : countInMembers (ownEntries e) = 0 := by
  have hattributes : ∀ entry ∈ Dict.ofList (e.attributes.map fun a =>
      (attributeKey a.name, Json.string a.value)), objectCount entry.2 = 0 := by
    intro entry hentry
    obtain ⟨a, -, rfl⟩ := List.mem_map.1 (Dict.mem_of_mem_ofList hentry)
    rfl
  apply countInMembers_eq_zero
  simp only [ownEntries]
  split
  · exact hattributes
  · intro entry hentry
    rcases Dict.mem_insert hentry with rfl | hentry
    · rfl
    · exact hattributes entry hentry

theorem countInList_map_ofElement {cs : List Element}
    (h : ∀ c ∈ cs, objectCount (ofElement c) = c.descendants.length) :
    countInList (cs.map ofElement) = (cs.flatMap Element.descendants).length := by
  induction cs with
  | nil => rfl
  | cons c rest ih =>
      obtain ⟨hc, hrest⟩ := List.forall_mem_cons.1 h
      rw [List.map_cons, countInList, hc, ih hrest, List.flatMap_cons, List.length_append]

theorem objectCount_ofElement (e : Element) : objectCount (ofElement e) = e.descendants.length := by
  induction e using Element.induction_children with
  | step e ih =>
      rw [ofElement_eq, objectCount, entriesOf, countInMembers_addChildren (ownEntries_sorted e),
        countInMembers_ownEntries, countInList_map_ofElement ih, Element.descendants_cons,
        List.length_cons, Nat.zero_add, Nat.add_comm]

theorem treeAt?_ofDocument {doc : Document} (h : doc.root.Named) (place : Place) :
    treeAt? (ofDocument doc) ((doc.root.name, 0) :: place) =
      (doc.root.at? place).map ofElement := by
  have hroot : itemsUnder (ofDocument doc) doc.root.name = [ofElement doc.root] := by
    have hmember : (ofDocument doc).member? doc.root.name = some (ofElement doc.root) :=
      if_pos rfl
    rw [itemsUnder, if_pos (isChildKey_of_isLocalName h.name), hmember]
    exact itemsOf_of_grouped (List.forall_mem_singleton.2 (not_isArray_ofElement _)) rfl
  rw [treeAt?, hroot]
  exact treeAt?_ofElement h place

/-- Every element of a readable config has its object in the tree, at the place where it stands in
the document. The object holds its attributes, its text and its children, so that under each name
the children of this name are found in their order. Beside these objects there is only the one that
holds the root, and the trees of two configs are the same when the configs have the same attributes
and text at each place. -/
theorem ofDocument_lossless {config : String} {doc : Document}
    (h : Document.read? config = some doc) :
    (∀ e ∈ doc.root.descendants, ∃ place entries, doc.root.at? place = some e ∧
      treeAt? (ofDocument doc) ((doc.root.name, 0) :: place) = some (.object entries) ∧
      Describes entries e ∧
      ∀ name, itemsUnder (.object entries) name = (e.childrenNamed name).map ofElement) ∧
    (∀ place, treeAt? (ofDocument doc) ((doc.root.name, 0) :: place) =
      (doc.root.at? place).map ofElement) ∧
    objectCount (ofDocument doc) = doc.root.descendants.length + 1 ∧
    ∀ config' doc', Document.read? config' = some doc' →
      (ofDocument doc = ofDocument doc' ↔ doc.root.name = doc'.root.name ∧
        ∀ place, (doc.root.at? place).map ownEntries = (doc'.root.at? place).map ownEntries) := by
  have hnamed := Document.named_of_read h
  refine ⟨fun e he => ?_, treeAt?_ofDocument hnamed, ?_, fun config' doc' h' => ?_⟩
  · obtain ⟨place, hplace⟩ := Element.exists_place he
    have hbelow := hnamed.at? hplace
    refine ⟨place, entriesOf e, hplace, ?_, describes_entriesOf hbelow, ?_⟩
    · rw [treeAt?_ofDocument hnamed, hplace, Option.map_some, ofElement_eq]
    · rw [← ofElement_eq]
      exact itemsUnder_ofElement hbelow
  · rw [ofDocument, objectCount, countInMembers, countInMembers, objectCount_ofElement]
    omega
  · rw [← ofElement_eq_iff hnamed (Document.named_of_read h')]
    simp only [ofDocument, Json.object.injEq, List.cons.injEq, Prod.mk.injEq, and_true]

theorem ofDocument_lossless_interleaved : ∃ config doc d, Document.read? config = some doc ∧
    doc.root.descendants.map Element.name = ["View", "Label", "Header", "Label"] ∧
    doc.root.at? [("Label", 1)] = some d ∧ d.attribute? "value" = some "B" ∧
    treeAt? (ofDocument doc) [("View", 0), ("Label", 1)] = some (ofElement d) ∧
    objectCount (ofDocument doc) = 5 ∧
    ∃ place entries, doc.root.at? place = some d ∧
      treeAt? (ofDocument doc) (("View", 0) :: place) = some (.object entries) ∧
      Describes entries d := by
  let label (value : String) : Element := .element "Label" [⟨none, "value", value⟩] [] []
  let root : Element :=
    .element "View" [] ["a", " b "] [label "A", .element "Header" [] [] [], label "B"]
  have hread : Document.read? "<View>a<Label value='A'/><Header/> b <Label value='B'/></View>" =
      some ⟨[], root⟩ := rfl
  obtain ⟨hobjects, hplaces, hcount, -⟩ := ofDocument_lossless hread
  have hdescendants : root.descendants = [root, label "A", .element "Header" [] [] [], label "B"] :=
    rfl
  obtain ⟨place, entries, hplace, htree, hdescribes, -⟩ :=
    hobjects (label "B") (by simp [hdescendants])
  exact ⟨_, _, label "B", hread, rfl, rfl, rfl, hplaces [("Label", 1)], hcount, place, entries,
    hplace, htree, hdescribes⟩

end Grammar

end Labeling
