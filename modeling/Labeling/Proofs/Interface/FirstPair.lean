import Labeling.Proofs.Except
import Labeling.Proofs.Interface.Linked
import Labeling.Proofs.Text

namespace Labeling.Interface

open Xml (Document)

/-- Whether a kind is one of the given ones, up to the case of the letters A to Z. No kinds at all
stand for any kind. -/
def IsAmong (kinds : List String) (kind : String) : Prop :=
  kinds = [] ∨ ∃ k ∈ kinds, k.toLower = kind.toLower

/-- The `i`-th control and the object that its `j`-th target names, both of the given kinds. -/
structure PairAt (li : Interface) (controlKinds objectKinds : List String) (i j : Nat)
    (c : ControlTag) (o : ObjectTag) : Prop where
  control : li.controls.tags[i]? = some c
  target : c.targets[j]? = some o.name
  object : o ∈ li.objects.tags
  controlKind : IsAmong controlKinds c.kind
  objectKind : IsAmong objectKinds o.kind

/-- A pair that comes before all others: by the place of the control, then by that of the target. -/
def IsFirstPair (li : Interface) (controlKinds objectKinds : List String) (c : ControlTag)
    (o : ObjectTag) : Prop :=
  ∃ i j, li.PairAt controlKinds objectKinds i j c o ∧
    ∀ i' j' c' o', li.PairAt controlKinds objectKinds i' j' c' o' → i < i' ∨ i = i' ∧ j ≤ j'

def InDocumentOrder (li : Interface) : Prop :=
  ∃ doc, Document.read? li.config = some doc ∧
    (li.controls.tags.map fun c => (c.kind, c.attributes)).Sublist
      ((doc.root.descendants.filter isControl).map fun e => (e.name, e.attributeDict))

theorem kindIn_iff {kinds : List String} {kind : String} :
    kindIn kinds kind = true ↔ IsAmong kinds kind := by
  simp only [kindIn, Bool.or_eq_true, List.isEmpty_iff, List.any_eq_true,
    Text.sameIgnoringCase_iff, IsAmong]

theorem exists_place_of_findSome? {α β : Type} {f : α → Option β} {l : List α} {b : β}
    (h : l.findSome? f = some b) : ∃ (i : Nat) (a : α), l[i]? = some a ∧ f a = some b ∧
      ∀ (j : Nat) (a' : α), l[j]? = some a' → f a' ≠ none → i ≤ j := by
  obtain ⟨before, a, after, rfl, hfound, hnone⟩ := List.findSome?_eq_some_iff.1 h
  refine ⟨before.length, a, by simp, hfound, fun j a' hj hsome => ?_⟩
  by_contra hlt
  rw [List.getElem?_append_left (Nat.lt_of_not_le hlt)] at hj
  exact hsome (hnone a' (List.mem_of_getElem? hj))

variable {li : Interface} {controlKinds objectKinds : List String} {i j : Nat} {c c' : ControlTag}
  {o o' : ObjectTag}

def pair? (li : Interface) (controlKinds objectKinds : List String) (c : ControlTag)
    (target : String) : Option (ControlTag × ObjectTag) :=
  if kindIn controlKinds c.kind then
    ((li.objects.get? target).filter fun o => kindIn objectKinds o.kind).map fun o => (c, o)
  else none

theorem Linked.pair?_eq_some (h : li.Linked) {target : String} :
    li.pair? controlKinds objectKinds c target = some (c', o) ↔ c = c' ∧ o.name = target ∧
      o ∈ li.objects.tags ∧ IsAmong controlKinds c.kind ∧ IsAmong objectKinds o.kind := by
  rw [pair?, ← kindIn_iff, ← kindIn_iff]
  split
  · next hkind =>
      simp only [hkind, Option.map_eq_some_iff, Option.filter_eq_some_iff,
        h.objects.get?_eq_some_iff, Prod.mk.injEq]
      constructor
      · rintro ⟨o', ⟨⟨hmem, hname⟩, hobject⟩, rfl, rfl⟩
        exact ⟨rfl, hname, hmem, trivial, hobject⟩
      · rintro ⟨rfl, hname, hmem, -, hobject⟩
        exact ⟨o, ⟨⟨hmem, hname⟩, hobject⟩, rfl, rfl⟩
  · next hkind => simp [hkind]

theorem Linked.pairAt_iff (h : li.Linked) : li.PairAt controlKinds objectKinds i j c o ↔
    li.controls.tags[i]? = some c ∧ c.targets[j]? = some o.name ∧
      li.pair? controlKinds objectKinds c o.name = some (c, o) := by
  rw [h.pair?_eq_some]
  constructor
  · rintro ⟨hcontrol, htarget, hobject, hkind, hkind'⟩
    exact ⟨hcontrol, htarget, rfl, rfl, hobject, hkind, hkind'⟩
  · rintro ⟨hcontrol, htarget, -, -, hobject, hkind, hkind'⟩
    exact ⟨hcontrol, htarget, hobject, hkind, hkind'⟩

theorem Linked.objectsOf_eq (h : li.Linked) (hc : c ∈ li.controls.tags) :
    li.objectsOf c = c.targets.filterMap li.objects.get? := by
  rw [objectsOf, h.targets c hc, List.filterMap_filter]
  apply List.filterMap_congr
  intro target _
  split
  · rfl
  · next hnot => exact (h.objects.get?_eq_none_iff.2 hnot).symm

theorem Linked.firstOccurrence_eq (h : li.Linked) :
    li.firstOccurrence controlKinds objectKinds = li.controls.tags.findSome? fun c =>
      c.targets.findSome? (li.pair? controlKinds objectKinds c) := by
  rw [firstOccurrence, ← List.head?_filterMap, ← List.head?_filterMap, List.filterMap_filter]
  congr 1
  apply List.filterMap_congr
  intro c hc
  by_cases hkind : kindIn controlKinds c.kind = true
  · rw [if_pos hkind, h.objectsOf_eq hc, ← List.head?_filter, List.filter_filterMap,
      List.head?_filterMap, List.map_findSome?]
    congr 1
    funext target
    rw [pair?, if_pos hkind]
    rfl
  · have hnone : li.pair? controlKinds objectKinds c = fun _ => none := by
      funext target
      rw [pair?, if_neg hkind]
    rw [if_neg hkind, hnone, eq_comm, List.findSome?_eq_none_iff]
    exact fun _ _ => rfl

theorem Linked.pairAt_unique (h : li.Linked) (hpair : li.PairAt controlKinds objectKinds i j c o)
    (hpair' : li.PairAt controlKinds objectKinds i j c' o') : c = c' ∧ o = o' := by
  cases Option.some.inj (hpair.control.symm.trans hpair'.control)
  have hname : o.name = o'.name := Option.some.inj (hpair.target.symm.trans hpair'.target)
  have hget := h.objects.get?_eq_some_iff.2 ⟨hpair.object, hname⟩
  have hget' := h.objects.get?_eq_some_iff.2 ⟨hpair'.object, rfl⟩
  exact ⟨rfl, Option.some.inj (hget.symm.trans hget')⟩

theorem Linked.isFirstPair_of_firstOccurrence (h : li.Linked)
    (hfirst : li.firstOccurrence controlKinds objectKinds = some (c, o)) :
    li.IsFirstPair controlKinds objectKinds c o := by
  rw [h.firstOccurrence_eq] at hfirst
  obtain ⟨i, c', hi, htargets, hleast⟩ := exists_place_of_findSome? hfirst
  obtain ⟨j, target, hj, hpair, hleast'⟩ := exists_place_of_findSome? htargets
  obtain ⟨rfl, rfl, -⟩ := h.pair?_eq_some.1 hpair
  refine ⟨i, j, h.pairAt_iff.2 ⟨hi, hj, hpair⟩, fun i' j' c' o' hat => ?_⟩
  obtain ⟨hi', hj', hpair'⟩ := h.pairAt_iff.1 hat
  have hle : i ≤ i' := by
    refine hleast i' c' hi' fun hnone => ?_
    have htarget := List.findSome?_eq_none_iff.1 hnone o'.name (List.mem_of_getElem? hj')
    cases hpair'.symm.trans htarget
  obtain hlt | rfl := Nat.lt_or_eq_of_le hle
  · exact .inl hlt
  · cases hi.symm.trans hi'
    refine .inr ⟨rfl, hleast' j' o'.name hj' fun hnone => ?_⟩
    cases hpair'.symm.trans hnone

theorem Linked.firstOccurrence_eq_none (h : li.Linked) :
    li.firstOccurrence controlKinds objectKinds = none ↔
      ∀ i j c o, ¬li.PairAt controlKinds objectKinds i j c o := by
  rw [h.firstOccurrence_eq, List.findSome?_eq_none_iff]
  constructor
  · intro hnone i j c o hat
    obtain ⟨hi, hj, hpair⟩ := h.pairAt_iff.1 hat
    have htargets := List.findSome?_eq_none_iff.1 (hnone c (List.mem_of_getElem? hi))
    cases hpair.symm.trans (htargets o.name (List.mem_of_getElem? hj))
  · intro hno c hc
    rw [List.findSome?_eq_none_iff]
    intro target htarget
    rw [Option.eq_none_iff_forall_ne_some]
    rintro ⟨c', o⟩ hpair
    obtain ⟨rfl, rfl, -⟩ := h.pair?_eq_some.1 hpair
    obtain ⟨i, hi⟩ := List.getElem?_of_mem hc
    obtain ⟨j, hj⟩ := List.getElem?_of_mem htarget
    exact hno i j c o (h.pairAt_iff.2 ⟨hi, hj, hpair⟩)

theorem inDocumentOrder_ofDocument {registry : Registry} {config : String} {doc : Document}
    (hread : Document.read? config = some doc) :
    (ofDocument registry config doc).InDocumentOrder := by
  obtain ⟨tags, hsublist, leaves, htags⟩ := tags_ofDocument registry config doc
  refine ⟨doc, hread, ?_⟩
  have helements := hsublist.map fun c => (c.kind, c.attributes)
  rw [controlTags, List.map_map] at helements
  rw [htags, List.map_map]
  exact helements

theorem Reachable.inDocumentOrder (h : li.Reachable) : li.InDocumentOrder := by
  induction h with
  | parsed hparse =>
      obtain ⟨doc, hread, rfl⟩ := parseWith_eq_ok.1 hparse
      exact inDocumentOrder_ofDocument hread
  | loaded _ hload ih =>
      obtain ⟨data, -, rfl⟩ := map_eq_ok.1 hload
      exact ih

/-- A search by kinds finds the first pair, and nothing just if there is no pair. A control of such
a kind without such an object is passed over. -/
theorem firstOccurrence_isFirst (h : li.Reachable) (controlKinds objectKinds : List String) :
    li.InDocumentOrder ∧
      (li.firstOccurrence controlKinds objectKinds = none ↔
        ∀ i j c o, ¬li.PairAt controlKinds objectKinds i j c o) ∧
      ∀ c o, li.firstOccurrence controlKinds objectKinds = some (c, o) ↔
        li.IsFirstPair controlKinds objectKinds c o := by
  refine ⟨h.inDocumentOrder, h.linked.firstOccurrence_eq_none, fun c o => ?_⟩
  constructor
  · exact h.linked.isFirstPair_of_firstOccurrence
  · rintro ⟨i, j, hat, hleast⟩
    cases hfound : li.firstOccurrence controlKinds objectKinds with
    | none => exact absurd hat (h.linked.firstOccurrence_eq_none.1 hfound i j c o)
    | some found =>
        obtain ⟨i', j', hat', hleast'⟩ := h.linked.isFirstPair_of_firstOccurrence hfound
        have hplace : i = i' ∧ j = j' := by
          have hle := hleast _ _ _ _ hat'
          have hge := hleast' _ _ _ _ hat
          omega
        obtain ⟨rfl, rfl⟩ := hplace
        obtain ⟨rfl, rfl⟩ := h.linked.pairAt_unique hat hat'
        rfl

theorem firstOccurrence_isFirst_caption :
    ∃ (li : Interface) (c : ControlTag) (o : ObjectTag), li.Reachable ∧
      li.controls.tags.map (fun c => (c.name, c.targets)) =
        [("box", ["image"]), ("quality", ["gone", "image", "caption"])] ∧
      li.firstOccurrence [] ["TEXT"] = some (c, o) ∧ (c.name, o.name) = ("quality", "caption") ∧
      li.IsFirstPair [] ["TEXT"] c o := by
  have hcheck : ((parse ("<View><Image name='image' value='$i'/><Text name='caption' value='$c'/>"
      ++ "<Rectangle name='box' toName='image'/>"
      ++ "<Choices name='quality' toName='gone,image,caption'/></View>")).toOption.any fun li =>
        li.controls.tags.map (fun c => (c.name, c.targets)) ==
            [("box", ["image"]), ("quality", ["gone", "image", "caption"])] &&
          (li.firstOccurrence [] ["TEXT"]).any fun p =>
            (p.1.name, p.2.name) == ("quality", "caption")) = true := by
    decide +kernel
  obtain ⟨li, hli, hcheck⟩ := (Option.any_eq_true _ _).1 hcheck
  obtain ⟨hcontrols, hfound⟩ := Bool.and_eq_true_iff.1 hcheck
  obtain ⟨⟨c, o⟩, hfirst, hnames⟩ := (Option.any_eq_true _ _).1 hfound
  have hreach : li.Reachable := .parsed (toOption_eq_some.1 hli)
  exact ⟨li, c, o, hreach, beq_iff_eq.1 hcontrols, hfirst, beq_iff_eq.1 hnames,
    ((firstOccurrence_isFirst hreach [] ["TEXT"]).2.2 c o).1 hfirst⟩

end Labeling.Interface
