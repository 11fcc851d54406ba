import Labeling.Proofs.Interface.Leaves

namespace Labeling.Interface

open Xml (Element Document)

def inside (d : Element) : List Element := d.children.flatMap Element.descendants

/-- The leaves are those of elements inside `d`, in document order, and of all of them if none has a
name of its own. -/
structure DeclaredInside (d : Element) (name : String) (leaves : List LabelLeaf) : Prop where
  sublist : leaves.Sublist ((inside d).filterMap (leafOf? name))
  all : d.attribute? "name" = some name → (∀ e ∈ inside d, e.attribute? "name" = none) →
    leaves = (inside d).filterMap (leafOf? name)

/-- The control `c` of `li` is `c'` of `li'` but for labels that are declared inside `d`. -/
structure KeptBeside (d : Element) (li li' : Interface) (c c' : ControlTag) : Prop where
  same : c = { c' with labels := c.labels, labelAttributes := c.labelAttributes }
  labelled : Labelled c (li.leavesOf c)
  labelled' : Labelled c' (li'.leavesOf c')
  leaves : ∃ earlier added later, li.leavesOf c = earlier ++ (added ++ later) ∧
    li'.leavesOf c' = earlier ++ later ∧ DeclaredInside d c.name added ∧ (added = [] → c = c')

theorem filter_leafAt? (controls : TagMap ControlTag) (ancestors : List Element) (e : Element)
    (name : String) :
    (Collected.leafAt? controls ancestors e).filter (fun leaf => leaf.control == name) = none ∨
      (Collected.leafAt? controls ancestors e).filter (fun leaf => leaf.control == name) =
        leafOf? name e := by
  rw [Collected.leafAt?, Collected.leaf?, leafOf?]
  split
  · cases Collected.parentControl? controls ancestors with
    | none => exact .inl rfl
    | some control =>
        cases LabelLeaf.labelText? e.attributeDict with
        | none => exact .inl rfl
        | some value =>
            by_cases hname : control = name
            · exact .inr (by simp [hname])
            · exact .inl (by simp [hname])
  · exact .inl rfl

theorem filterMap_sublist_filterMap {α β : Type} {f g : α → Option β} {xs : List α}
    (h : ∀ x ∈ xs, f x = none ∨ f x = g x) : (xs.filterMap f).Sublist (xs.filterMap g) := by
  induction xs with
  | nil => exact List.Sublist.slnil
  | cons x rest ih =>
      obtain ⟨hx, hrest⟩ := List.forall_mem_cons.1 h
      rw [List.filterMap_cons, List.filterMap_cons]
      rcases hx with hx | hx
      · rw [hx]
        cases g x with
        | none => exact ih hrest
        | some y => exact (ih hrest).cons y
      · rw [hx]
        cases g x with
        | none => exact ih hrest
        | some y => exact (ih hrest).cons_cons y

theorem addsNoTag_inside {controls : TagMap ControlTag} {d : Element} {name : String}
    (above : List Element) (hcontrol : isControl d = true)
    (hname : d.attributeDict.get? "name" = some name) (htaken : controls.contains name = true)
    (hinside : ∀ e ∈ inside d, IsLeaf e) :
    ∀ v ∈ d.visitsBelow above, Collected.AddsNoTag controls v.2 := by
  intro v hv
  have hmem : v.2 ∈ d.descendants := Element.map_snd_visitsBelow above d ▸ List.mem_map_of_mem hv
  rw [Element.descendants_cons] at hmem
  rcases List.mem_cons.1 hmem with hd | he
  · rw [hd]
    exact ⟨by rw [definesObject, hcontrol]; rfl, fun _ => ⟨name, hname, htaken⟩⟩
  · obtain ⟨hnot, hobject, -⟩ := hinside v.2 he
    exact ⟨by rw [definesObject, hobject, Bool.and_false],
      fun h => absurd (hnot.symm.trans h) Bool.false_ne_true⟩

theorem leafAt?_inside {controls : TagMap ControlTag} {d : Element} {name : String}
    {above : List Element} (hinside : ∀ e ∈ inside d, IsLeaf e)
    (htaken : controls.contains name = true) (hd : d.attribute? "name" = some name)
    (hnone : ∀ e ∈ inside d, e.attribute? "name" = none) :
    ∀ v ∈ d.children.flatMap (Element.visitsBelow (d :: above)),
      Collected.leafAt? controls v.1 v.2 = leafOf? name v.2 := by
  rintro ⟨ancestors, e⟩ hv
  obtain ⟨c, hc, hv⟩ := List.mem_flatMap.1 hv
  obtain ⟨before, after, hplace⟩ := List.append_of_mem hv
  have hmem : ∀ b ∈ (before ++ (ancestors, e) :: after).map Prod.snd, b ∈ inside d := by
    rw [← hplace, Element.map_snd_visitsBelow]
    exact fun b hb => List.mem_flatMap.2 ⟨c, hc, hb⟩
  rw [List.map_append, List.forall_mem_append, List.map_cons, List.forall_mem_cons] at hmem
  obtain ⟨between, rfl, hbetween⟩ := Element.ancestors_of_visit hplace
  have hskip : ∀ b ∈ between, ∀ n, b.attribute? "name" = some n → controls.contains n = true →
      n = name := by
    intro b hb n hn
    rw [hnone b (hmem.1 b (hbetween b hb))] at hn
    cases hn
  exact Collected.leafAt?_of_parent (hinside e hmem.2.1)
    (Collected.parentControl?_of_nearest above hskip hd htaken)

theorem declaredInside_gathered {registry : Registry} {controls : TagMap ControlTag}
    {d : Element} {name : String} (above : List Element) (hcontrol : isControl d = true)
    (hinside : ∀ e ∈ inside d, IsLeaf e) (htaken : controls.contains name = true)
    (hadds : ∀ v ∈ d.visitsBelow above, Collected.AddsNoTag controls v.2) :
    DeclaredInside d name ((Collected.gathered registry controls (d.visitsBelow above)).filter
      fun leaf => leaf.control == name) := by
  let below := d.children.flatMap (Element.visitsBelow (d :: above))
  have hbelow : below.map Prod.snd = inside d :=
    Element.map_snd_flatMap_visitsBelow (d :: above) d.children
  have hnot : ¬IsLeaf d := fun hleaf => absurd (hleaf.1.symm.trans hcontrol) Bool.false_ne_true
  have hleaves : (Collected.gathered registry controls (d.visitsBelow above)).filter
      (fun leaf => leaf.control == name) = below.filterMap fun v =>
        (Collected.leafAt? controls v.1 v.2).filter fun leaf => leaf.control == name := by
    rw [Collected.gathered_eq_filterMap hadds, List.filter_filterMap, Element.visitsBelow_eq,
      List.filterMap_cons, Collected.leafAt?, if_neg hnot]
    rfl
  have hdeclared : (inside d).filterMap (leafOf? name) =
      below.filterMap fun v => leafOf? name v.2 := by
    rw [← hbelow, List.filterMap_map]
    rfl
  rw [hleaves]
  constructor
  · rw [hdeclared]
    exact filterMap_sublist_filterMap fun v _ => filter_leafAt? controls v.1 v.2 name
  · intro hd hnone
    rw [hdeclared]
    apply List.filterMap_congr
    intro v hv
    rw [leafAt?_inside hinside htaken hd hnone v hv, leafOf?]
    cases LabelLeaf.labelText? v.2.attributeDict <;> simp

/-- Let a config have a control `d` with nothing but label leaves inside and a name that a control
before it has. Then the control that is held under the name is the one that the config without `d`
has, but for labels; and if no leaf inside `d` goes to it, it is the same in all. -/
theorem kept_of_repeated {registry : Registry} {config config' : String} {doc doc' : Document}
    {d : Element} {before : List Element} (hread : Document.read? config = some doc)
    (hread' : Document.read? config' = some doc')
    (hwithout : Element.Without d before doc.root doc'.root) (hcontrol : isControl d = true)
    (htaken : ∃ c ∈ before, isControl c = true ∧
      c.attributeDict.get? "name" = d.attributeDict.get? "name")
    (hinside : ∀ e ∈ inside d, IsLeaf e) :
    ∃ li li' name c c', parseWith registry config = .ok li ∧ parseWith registry config' = .ok li' ∧
      d.attributeDict.get? "name" = some name ∧ li.controls.get? name = some c ∧
      li'.controls.get? name = some c' ∧ KeptBeside d li li' c c' := by
  obtain ⟨above, first, first', last, last', hvisits, hvisits', rfl, hfirst, hlast⟩ :=
    hwithout.visits .nil
  obtain ⟨b, hb, hbcontrol, hbname⟩ := htaken
  have hname := get?_name_of_isControl hcontrol registry
  let s := Collected.walk registry .empty first
  -- The walks come to `d` with the same tags and leaves, and go on from it with the same tags.
  have hroot : Collected.ofRoot registry doc.root = Collected.walk registry
      (Collected.walk registry s (d.visitsBelow above)) last := by
    rw [Collected.ofRoot_eq, Element.visits, hvisits, Collected.walk_append, Collected.walk_append]
  have hroot' : Collected.ofRoot registry doc'.root = Collected.walk registry s last := by
    rw [Collected.ofRoot_eq, Element.visits, hvisits', Collected.walk_append,
      ← Collected.walk_congr hfirst, ← Collected.walk_congr hlast]
  have hcontains : s.controls.contains (controlTag registry d).name = true :=
    Collected.contains_controls_walk.2 (.inr ⟨b, hb, hbcontrol, hbname.trans hname⟩)
  have hadds := addsNoTag_inside above hcontrol hname hcontains hinside
  have hmid : Collected.SameTags (Collected.walk registry s (d.visitsBelow above)) s :=
    Collected.sameTags_walk hadds
  have htags : Collected.SameTags (Collected.ofRoot registry doc.root)
      (Collected.ofRoot registry doc'.root) := by
    rw [hroot, hroot']
    exact hmid.walk last
  obtain ⟨t, htname, ht'⟩ : ∃ t, t.name = (controlTag registry d).name ∧
      (Collected.ofRoot registry doc'.root).controls.get? t.name = some t := by
    apply exists_collected
    rw [hroot']
    exact Collected.contains_controls_walk.2 (.inl hcontains)
  have ht : (Collected.ofRoot registry doc.root).controls.get? t.name = some t :=
    htags.controls ▸ ht'
  rw [← htname] at hname hcontains
  refine ⟨_, _, t.name, _, _, parseWith_eq_ok.2 ⟨doc, hread, rfl⟩,
    parseWith_eq_ok.2 ⟨doc', hread', rfl⟩, hname, get?_controls_of_collected ht,
    get?_controls_of_collected ht', ?_, labelled_link _ _ t, labelled_link _ _ t, ?_⟩
  · rw [htags.objects]
    rfl
  · let under (visits : List (List Element × Element)) : List LabelLeaf :=
      (Collected.gathered registry s.controls visits).filter fun leaf => leaf.control == t.name
    have hleaves : (Collected.ofRoot registry doc.root).leavesUnder t.name =
        s.leavesUnder t.name ++ (under (d.visitsBelow above) ++ under last) := by
      rw [hroot, Collected.leavesUnder_walk, Collected.leavesUnder_walk, hmid.controls,
        List.append_assoc]
    have hleaves' : (Collected.ofRoot registry doc'.root).leavesUnder t.name =
        s.leavesUnder t.name ++ under last := by
      rw [hroot', Collected.leavesUnder_walk]
    refine ⟨_, _, _, hleaves, hleaves',
      declaredInside_gathered above hcontrol hinside hcontains hadds, fun hnone => ?_⟩
    rw [hleaves, hleaves', htags.objects, hnone, List.nil_append]

theorem kept_of_repeated_labels : ∃ config config' doc doc' d before li li' name c c',
    Document.read? config = some doc ∧ Document.read? config' = some doc' ∧
    Element.Without d before doc.root doc'.root ∧ (inside d).length = 1 ∧
    parseWith .builtin config = .ok li ∧ parseWith .builtin config' = .ok li' ∧
    d.attributeDict.get? "name" = some name ∧ li.controls.get? name = some c ∧
    li'.controls.get? name = some c' ∧ KeptBeside d li li' c c' := by
  let labels (leaves : List Element) : Element :=
    .element "Labels" [⟨none, "name", "l"⟩, ⟨none, "toName", "t"⟩] [] leaves
  let first := labels []
  let later := labels [.element "Label" [⟨none, "value", "A"⟩] [] []]
  have hread : Document.read? ("<View><Labels name='l' toName='t'/>"
      ++ "<Labels name='l' toName='t'><Label value='A'/></Labels></View>") =
      some ⟨[], .element "View" [] [] [first, later]⟩ := rfl
  have hread' : Document.read? "<View><Labels name='l' toName='t'/></View>" =
      some ⟨[], .element "View" [] [] [first]⟩ := rfl
  have hwithout : Element.Without later
      (.element "View" [] [] [first, later] :: [first].flatMap Element.descendants)
      (.element "View" [] [] [first, later]) (.element "View" [] [] [first]) :=
    @Element.Without.child later "View" [] [] [] [first] []
  have htaken : ∃ c ∈ .element "View" [] [] [first, later] :: [first].flatMap Element.descendants,
      isControl c = true ∧ c.attributeDict.get? "name" = later.attributeDict.get? "name" :=
    ⟨first, List.mem_cons_of_mem _ List.mem_cons_self, by decide, rfl⟩
  obtain ⟨li, li', name, c, c', h⟩ := @kept_of_repeated .builtin _ _ _ _ _ _ hread hread' hwithout
    (by decide) htaken (by decide)
  exact ⟨_, _, _, _, _, _, li, li', name, c, c', hread, hread', hwithout, rfl, h⟩

/-- A control is not what it is without a later control of its name, whose labels it has. -/
theorem not_kept : ∃ config config' doc doc' d before li li',
    Document.read? config = some doc ∧ Document.read? config' = some doc' ∧
    Element.Without d before doc.root doc'.root ∧ isControl d = true ∧
    (∃ c ∈ before, isControl c = true ∧
      c.attributeDict.get? "name" = d.attributeDict.get? "name") ∧
    (∀ e ∈ inside d, IsLeaf e) ∧ d.attributeDict.get? "name" = some "l" ∧
    parse config = .ok li ∧ parse config' = .ok li' ∧
    (li.controls.get? "l").map (fun c => (c.labels, c.labelAttributes.keys)) =
      some (["A"], ["A"]) ∧
    (li'.controls.get? "l").map (fun c => (c.labels, c.labelAttributes.keys)) = some ([], []) := by
  let labels (leaves : List Element) : Element :=
    .element "Labels" [⟨none, "name", "l"⟩, ⟨none, "toName", "t"⟩] [] leaves
  let first := labels []
  let later := labels [.element "Label" [⟨none, "value", "A"⟩] [] []]
  have hread : Document.read? ("<View><Labels name='l' toName='t'/>"
      ++ "<Labels name='l' toName='t'><Label value='A'/></Labels></View>") =
      some ⟨[], .element "View" [] [] [first, later]⟩ := rfl
  have hread' : Document.read? "<View><Labels name='l' toName='t'/></View>" =
      some ⟨[], .element "View" [] [] [first]⟩ := rfl
  have hwithout : Element.Without later
      (.element "View" [] [] [first, later] :: [first].flatMap Element.descendants)
      (.element "View" [] [] [first, later]) (.element "View" [] [] [first]) :=
    @Element.Without.child later "View" [] [] [] [first] []
  exact ⟨_, _, _, _, _, _, _, _, hread, hread', hwithout, by decide,
    ⟨first, List.mem_cons_of_mem _ List.mem_cons_self, by decide, rfl⟩, by decide, rfl,
    parseWith_eq_ok.2 ⟨_, hread, rfl⟩, parseWith_eq_ok.2 ⟨_, hread', rfl⟩, by decide +kernel,
    by decide +kernel⟩

end Labeling.Interface
