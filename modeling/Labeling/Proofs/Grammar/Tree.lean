import Labeling.Grammar.Check
import Labeling.Proofs.Dict
import Labeling.Proofs.Xml.NameOrder
import Labeling.Proofs.Xml.Names

namespace Labeling.Grammar

open Xml (Element IsLocalName beginsName)

variable {α : Type}

def entriesOf (e : Element) : Dict Json := addChildren (ownEntries e) e.children

theorem ofElement_eq (e : Element) : ofElement e = .object (entriesOf e) := by
  cases e with
  | element name attributes texts children => rfl

theorem isChildKey_attributeKey (name : String) : isChildKey (attributeKey name) = false := by
  simp [isChildKey, attributeKey, Text.beginsWith, Text.stripChars]

theorem isChildKey_textKey : isChildKey textKey = false := by decide

theorem isChildKey_of_isLocalName {name : String} (h : IsLocalName name) :
    isChildKey name = true := by
  rw [IsLocalName, beginsName] at h
  cases hname : name.toList with
  | nil => rw [hname] at h; cases h
  | cons c cs =>
      rw [hname] at h
      have hstart : Xml.isNameStart c = true := h
      have hat : c ≠ '@' := fun he => by rw [he] at hstart; exact absurd hstart (by decide)
      have hdollar : name ≠ textKey := by
        rintro rfl
        cases hname
        exact absurd hstart (by decide)
      have hbegins : Text.beginsWith "@" name = false := by
        simp [Text.beginsWith, hname, Text.stripChars, Ne.symm hat]
      rw [isChildKey, hbegins, bne_iff_ne.2 hdollar]
      rfl

theorem attributeKey_injective (a b : String) (h : attributeKey a = attributeKey b) : a = b := by
  have hlist := congrArg String.toList h
  simp only [attributeKey, String.toList_append] at hlist
  exact String.toList_inj.1 (List.append_cancel_left hlist)

theorem ownEntries_sorted (e : Element) : (ownEntries e).Sorted := by
  simp only [ownEntries]
  split
  · exact Dict.ofList_sorted _
  · exact Dict.insert_sorted (Dict.ofList_sorted _) _ _

theorem get?_ownEntries_attribute (e : Element) (key : String) :
    (ownEntries e).get? (attributeKey key) = (e.attributeDict.get? key).map Json.string := by
  have hdict : (Dict.ofList
      (e.attributes.map fun a => (attributeKey a.name, Json.string a.value))).get?
      (attributeKey key) = (e.attributeDict.get? key).map Json.string := by
    have h := Dict.get?_ofList_map attributeKey_injective Json.string
      (e.attributes.map fun a => (a.name, a.value)) key
    rw [List.map_map] at h
    exact h
  simp only [ownEntries]
  split
  · exact hdict
  · rw [Dict.get?_insert, if_neg, hdict]
    intro he
    exact absurd (congrArg String.toList he) (by simp [textKey, attributeKey])

theorem get?_ownEntries_child {e : Element} {key : String} (h : isChildKey key = true) :
    (ownEntries e).get? key = none := by
  have hdict : (Dict.ofList
      (e.attributes.map fun a => (attributeKey a.name, Json.string a.value))).get?
      key = none := by
    apply Dict.get?_ofList_eq_none
    intro entry hentry he
    obtain ⟨a, -, rfl⟩ := List.mem_map.1 hentry
    rw [← he, isChildKey_attributeKey] at h
    cases h
  simp only [ownEntries]
  split
  · exact hdict
  · rw [Dict.get?_insert, if_neg, hdict]
    rintro rfl
    rw [isChildKey_textKey] at h
    cases h

def joined : Option Json → Json → Json
  | none, child => child
  | some (.array items), child => .array (items ++ [child])
  | some first, child => .array [first, child]

/-- What stands under the name of some children: a lone one as it is, more of them as a list. -/
def grouped : List Json → Option Json
  | [] => none
  | [child] => some child
  | items => some (.array items)

def itemsOf : Json → List Json
  | .array items => items
  | child => [child]

def IsArray (v : Json) : Prop := ∃ items, v = .array items

theorem not_isArray_ofElement (e : Element) : ¬ IsArray (ofElement e) := by
  rintro ⟨items, h⟩
  rw [ofElement_eq] at h
  cases h

theorem joined_grouped {items : List Json} (h : ∀ v ∈ items, ¬ IsArray v) (child : Json) :
    some (joined (grouped items) child) = grouped (items ++ [child]) := by
  match items, h with
  | [], _ => rfl
  | [first], h =>
      cases first with
      | array inner => exact absurd ⟨inner, rfl⟩ (h _ List.mem_cons_self)
      | _ => rfl
  | first :: second :: rest, _ => rfl

theorem itemsOf_of_grouped {items : List Json} {v : Json} (h : ∀ w ∈ items, ¬ IsArray w)
    (hv : grouped items = some v) : itemsOf v = items := by
  match items, h, hv with
  | [child], h, hv =>
      cases hv
      cases v with
      | array inner => exact absurd ⟨inner, rfl⟩ (h _ List.mem_cons_self)
      | _ => rfl
  | first :: second :: rest, _, hv => cases hv; rfl

theorem addChild_eq (entries : Dict Json) (name : String) (child : Json) :
    addChild entries name child = entries.alter name fun found => joined found child := by
  unfold addChild Dict.alter
  congr 1
  cases entries.get? name with
  | none => rfl
  | some found => cases found <;> rfl

theorem addChildren_sorted {entries : Dict Json} (h : entries.Sorted) (cs : List Element) :
    (addChildren entries cs).Sorted := by
  induction cs generalizing entries with
  | nil => exact h
  | cons c rest ih =>
      rw [addChildren, addChild_eq]
      exact ih (Dict.alter_sorted h _ _)

theorem get?_addChildren_other {entries : Dict Json} {cs : List Element} {key : String}
    (h : ∀ c ∈ cs, c.name ≠ key) : (addChildren entries cs).get? key = entries.get? key := by
  induction cs generalizing entries with
  | nil => rfl
  | cons c rest ih =>
      obtain ⟨hc, hrest⟩ := List.forall_mem_cons.1 h
      rw [addChildren, ih hrest, addChild_eq, Dict.get?_alter, if_neg hc]

theorem get?_addChildren {entries : Dict Json} (before : List Element) {cs : List Element}
    {key : String} (h : entries.get? key = grouped (before.map ofElement)) :
    (addChildren entries cs).get? key =
      grouped ((before ++ cs.filter fun c => c.name == key).map ofElement) := by
  induction cs generalizing entries before with
  | nil => simpa [addChildren] using h
  | cons c rest ih =>
      rw [addChildren, addChild_eq]
      by_cases hc : c.name = key
      · have hadded : (entries.alter c.name fun found => joined found (ofElement c)).get? key =
            grouped ((before ++ [c]).map ofElement) := by
          rw [Dict.get?_alter, if_pos hc, hc, h, List.map_append]
          refine joined_grouped ?_ (ofElement c)
          intro v hv
          obtain ⟨b, -, rfl⟩ := List.mem_map.1 hv
          exact not_isArray_ofElement b
        rw [ih _ hadded, List.filter_cons_of_pos (by simpa using hc), List.append_assoc,
          List.singleton_append]
      · have hkept : (entries.alter c.name fun found => joined found (ofElement c)).get? key =
            grouped (before.map ofElement) := by
          rw [Dict.get?_alter, if_neg hc, h]
        rw [ih _ hkept, List.filter_cons_of_neg (by simpa using hc)]

theorem entriesOf_sorted (e : Element) : (entriesOf e).Sorted :=
  addChildren_sorted (ownEntries_sorted e) e.children

theorem get?_entriesOf_child (e : Element) {key : String} (h : isChildKey key = true) :
    (entriesOf e).get? key = grouped ((e.childrenNamed key).map ofElement) :=
  get?_addChildren [] (get?_ownEntries_child h)

theorem name_ne_of_not_isChildKey {e : Element} (hnamed : ∀ c ∈ e.children, IsLocalName c.name)
    {key : String} (h : isChildKey key = false) : ∀ c ∈ e.children, c.name ≠ key := by
  rintro c hc rfl
  rw [isChildKey_of_isLocalName (hnamed c hc)] at h
  cases h

theorem attribute?_entriesOf {e : Element} (hnamed : ∀ c ∈ e.children, IsLocalName c.name)
    (key : String) : attribute? (entriesOf e) key = e.attributeDict.get? key := by
  rw [attribute?, entriesOf,
    get?_addChildren_other (name_ne_of_not_isChildKey hnamed (isChildKey_attributeKey key)),
    get?_ownEntries_attribute]
  cases e.attributeDict.get? key <;> rfl

theorem itemsOf_of_mem_entriesOf {e : Element} {key : String} {v : Json}
    (h : (key, v) ∈ entriesOf e) (hkey : isChildKey key = true) :
    itemsOf v = (e.childrenNamed key).map ofElement := by
  have hget := Dict.get?_eq_some_of_mem (entriesOf_sorted e).nodup_keys h
  rw [get?_entriesOf_child e hkey] at hget
  refine itemsOf_of_grouped ?_ hget
  intro w hw
  obtain ⟨c, -, rfl⟩ := List.mem_map.1 hw
  exact not_isArray_ofElement c

theorem flatMap_if_key {d : Dict Json} (hd : d.keys.Nodup) (key : String) (xs : List α) :
    (d.flatMap fun p => if p.1 = key then xs else []) = if key ∈ d.keys then xs else [] := by
  induction d with
  | nil => rfl
  | cons e rest ih =>
      obtain ⟨k, v⟩ := e
      have hcons : k ∉ Dict.keys rest ∧ (Dict.keys rest).Nodup := List.nodup_cons.1 hd
      rw [List.flatMap_cons, ih hcons.2]
      have hkeys : key ∈ Dict.keys ((k, v) :: rest) ↔ key = k ∨ key ∈ Dict.keys rest :=
        List.mem_cons
      by_cases hk : k = key
      · subst hk
        rw [if_pos rfl, if_neg hcons.1, List.append_nil, if_pos (hkeys.2 (.inl rfl))]
      · rw [if_neg hk, List.nil_append]
        refine if_congr ?_ rfl rfl
        rw [hkeys]
        exact ⟨.inr, fun h => h.resolve_left (Ne.symm hk)⟩

def childrenUnder (e : Element) (key : String) : List Element :=
  if isChildKey key then e.childrenNamed key else []

theorem name_of_mem_childrenUnder {e c : Element} {key : String} (h : c ∈ childrenUnder e key) :
    c.name = key := by
  rw [childrenUnder] at h
  split at h
  · exact beq_iff_eq.1 (List.mem_filter.1 h).2
  · cases h

theorem pairwise_childrenUnder (e : Element) (key : String) :
    (childrenUnder e key).Pairwise fun a b => a.name ≤ b.name := by
  apply List.pairwise_of_forall_mem_list
  intro a ha b hb
  have hab : a.name = b.name :=
    (name_of_mem_childrenUnder ha).trans (name_of_mem_childrenUnder hb).symm
  exact hab ▸ String.le_refl a.name

theorem filter_childrenUnder (e : Element) (key name : String) :
    (childrenUnder e key).filter (fun c => c.name == name) =
      if key = name then childrenUnder e name else [] := by
  by_cases h : key = name
  · subst h
    rw [if_pos rfl, List.filter_eq_self]
    intro c hc
    exact beq_iff_eq.2 (name_of_mem_childrenUnder hc)
  · rw [if_neg h, List.filter_eq_nil_iff]
    intro c hc
    rw [name_of_mem_childrenUnder hc]
    simpa using h

theorem childrenUnder_eq {e : Element} (hnamed : ∀ c ∈ e.children, IsLocalName c.name)
    (name : String) : childrenUnder e name = e.childrenNamed name := by
  rw [childrenUnder]
  split
  · rfl
  · next hname =>
      symm
      apply List.filter_eq_nil_iff.2
      intro c hc
      simpa using name_ne_of_not_isChildKey hnamed (Bool.not_eq_true _ ▸ hname) c hc

theorem childrenUnder_of_not_mem_keys {e : Element} {key : String} (h : key ∉ (entriesOf e).keys) :
    childrenUnder e key = [] := by
  rw [childrenUnder]
  split
  · next hkey =>
      have hget := (Dict.get?_eq_none_iff _ _).2 h
      rw [get?_entriesOf_child e hkey] at hget
      cases hcs : e.childrenNamed key with
      | nil => rfl
      | cons c cs =>
          rw [hcs] at hget
          cases cs <;> cases hget
  · rfl

theorem childrenByName_eq_flatMap {e : Element} (hnamed : ∀ c ∈ e.children, IsLocalName c.name) :
    ((entriesOf e).flatMap fun p => childrenUnder e p.1) = e.childrenByName := by
  apply Element.eq_childrenByName
  · apply List.pairwise_flatMap.2
    constructor
    · intro p _
      exact pairwise_childrenUnder e p.1
    · have hsorted : (entriesOf e).Pairwise fun p q => p.1 < q.1 :=
        List.pairwise_map.1 (entriesOf_sorted e)
      apply hsorted.imp
      intro p q hlt a ha b hb
      rw [name_of_mem_childrenUnder ha, name_of_mem_childrenUnder hb]
      exact String.not_lt.1 fun h => String.lt_irrefl _ (String.lt_trans hlt h)
  · intro name
    rw [List.filter_flatMap]
    simp only [filter_childrenUnder]
    rw [flatMap_if_key (entriesOf_sorted e).nodup_keys, ← childrenUnder_eq hnamed]
    split
    · rfl
    · next h => exact (childrenUnder_of_not_mem_keys h).symm

/-- Whatever is collected from the children by way of the entries is collected in the order of
their names. -/
theorem flatMap_entriesOf {e : Element} (hnamed : ∀ c ∈ e.children, IsLocalName c.name)
    (f : String → Json → List α) :
    ((entriesOf e).flatMap fun p => if isChildKey p.1 then (itemsOf p.2).flatMap (f p.1) else []) =
      e.childrenByName.flatMap fun c => f c.name (ofElement c) := by
  rw [← childrenByName_eq_flatMap hnamed, List.flatMap_assoc]
  apply List.flatMap_congr
  intro p hp
  rw [childrenUnder]
  split
  · next hkey =>
      rw [itemsOf_of_mem_entriesOf hp hkey, List.flatMap_map]
      apply List.flatMap_congr
      intro c hc
      rw [beq_iff_eq.1 (List.mem_filter.1 hc).2]
  · rfl

theorem exists_item_iff {e : Element} (hnamed : ∀ c ∈ e.children, IsLocalName c.name)
    (P : String → Json → Prop) :
    (∃ p ∈ entriesOf e, isChildKey p.1 = true ∧ ∃ v ∈ itemsOf p.2, P p.1 v) ↔
      ∃ c ∈ e.children, P c.name (ofElement c) := by
  have hlist := flatMap_entriesOf hnamed fun key v => [(key, v)]
  have hmem : ∀ key v, (∃ p ∈ entriesOf e, isChildKey p.1 = true ∧ p.1 = key ∧ v ∈ itemsOf p.2) ↔
      ∃ c ∈ e.children, c.name = key ∧ ofElement c = v := by
    intro key v
    have hkv : (key, v) ∈ ((entriesOf e).flatMap fun p =>
        if isChildKey p.1 then (itemsOf p.2).flatMap fun w => [(p.1, w)] else []) ↔
          (key, v) ∈ e.childrenByName.flatMap fun c => [(c.name, ofElement c)] := by
      rw [hlist]
    simp only [List.mem_flatMap, List.mem_ite_nil_right, List.mem_singleton, Prod.mk.injEq] at hkv
    constructor
    · rintro ⟨p, hp, hkey, rfl, hv⟩
      obtain ⟨c, hc, hname, hof⟩ := hkv.1 ⟨p, hp, hkey, v, hv, rfl, rfl⟩
      exact ⟨c, e.childrenByName_perm.mem_iff.1 hc, hname.symm, hof.symm⟩
    · rintro ⟨c, hc, rfl, rfl⟩
      obtain ⟨p, hp, hkey, w, hw, hname, rfl⟩ :=
        hkv.2 ⟨c, e.childrenByName_perm.mem_iff.2 hc, rfl, rfl⟩
      exact ⟨p, hp, hkey, hname.symm, hw⟩
  constructor
  · rintro ⟨p, hp, hkey, v, hv, hP⟩
    obtain ⟨c, hc, hname, rfl⟩ := (hmem p.1 v).1 ⟨p, hp, hkey, rfl, hv⟩
    exact ⟨c, hc, hname ▸ hP⟩
  · rintro ⟨c, hc, hP⟩
    obtain ⟨p, hp, hkey, hname, hv⟩ := (hmem c.name (ofElement c)).2 ⟨c, hc, rfl, rfl⟩
    exact ⟨p, hp, hkey, ofElement c, hv, hname ▸ hP⟩

end Labeling.Grammar
