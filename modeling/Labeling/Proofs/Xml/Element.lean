import Labeling.Xml.Element
import Mathlib.Data.List.Basic

namespace Labeling

theorem exists_of_flatMap_eq_append_cons {α β : Type} {f : α → List β} {xs : List α}
    {before after : List β} {y : β} (h : xs.flatMap f = before ++ y :: after) :
    ∃ x ∈ xs, ∃ left first last, f x = first ++ y :: last ∧ before = left ++ first := by
  induction xs generalizing before with
  | nil => simp at h
  | cons x rest ih =>
      rw [List.flatMap_cons, List.append_eq_append_iff] at h
      have hlater {skipped before' : List β} (hbefore : before = skipped ++ before')
          (hrest : rest.flatMap f = before' ++ y :: after) :
          ∃ z ∈ x :: rest, ∃ left first last, f z = first ++ y :: last ∧ before = left ++ first := by
        obtain ⟨z, hz, left, first, last, hfz, rfl⟩ := ih hrest
        exact ⟨z, List.mem_cons_of_mem x hz, skipped ++ left, first, last, hfz,
          hbefore.trans (List.append_assoc ..).symm⟩
      rcases h with ⟨before', hbefore, hrest⟩ | ⟨tail, hfx, htail⟩
      · exact hlater hbefore hrest
      · cases tail with
        | nil => exact hlater (List.append_nil before).symm htail.symm
        | cons z last =>
            obtain ⟨rfl, -⟩ := List.cons.inj htail
            exact ⟨x, List.mem_cons_self, [], before, last, hfx, rfl⟩

namespace Xml.Element

theorem sizeOf_lt_of_mem_children {c e : Element} (h : c ∈ e.children) : sizeOf c < sizeOf e := by
  cases e with
  | element name attributes texts children =>
      have hlt : sizeOf c < sizeOf children := List.sizeOf_lt_of_mem h
      rw [Element.element.sizeOf_spec]
      omega

/-- What holds of an element whenever it holds of its children holds of every element. -/
theorem induction_children {P : Element → Prop} (step : ∀ e : Element, (∀ c ∈ e.children, P c) → P e)
    (e : Element) : P e :=
  step e fun c _ => induction_children step c
termination_by sizeOf e
decreasing_by exact sizeOf_lt_of_mem_children ‹_›

theorem visitsOfAll_eq (ancestors cs : List Element) :
    visitsOfAll ancestors cs = cs.flatMap (visitsBelow ancestors) := by
  induction cs with
  | nil => rfl
  | cons c rest ih => rw [visitsOfAll, ih, List.flatMap_cons]

theorem visitsBelow_eq (ancestors : List Element) (e : Element) :
    visitsBelow ancestors e =
      (ancestors, e) :: e.children.flatMap (visitsBelow (e :: ancestors)) := by
  cases e with
  | element name attributes texts children => rw [visitsBelow, visitsOfAll_eq]; rfl

theorem map_snd_visitsBelow (ancestors : List Element) (e : Element) :
    (visitsBelow ancestors e).map Prod.snd = e.descendants := by
  induction e using induction_children generalizing ancestors with
  | step e ih =>
      rw [visitsBelow_eq, descendants_cons, List.map_cons, List.map_flatMap]
      congr 1
      exact List.flatMap_congr fun c hc => ih c hc (e :: ancestors)

theorem exists_visit {d e : Element} (h : d ∈ e.descendants) :
    ∃ ancestors, (ancestors, d) ∈ e.visits := by
  rw [← map_snd_visitsBelow []] at h
  obtain ⟨⟨ancestors, _⟩, hvisit, rfl⟩ := List.mem_map.1 h
  exact ⟨ancestors, hvisit⟩

theorem mem_descendants_iff {d e : Element} :
    d ∈ e.descendants ↔ d = e ∨ ∃ c ∈ e.children, d ∈ c.descendants := by
  rw [descendants_cons, List.mem_cons, List.mem_flatMap]

/-- The ancestors of an element on the way are visited before it. -/
theorem ancestors_of_visit {ancestors above : List Element} {d e : Element}
    {before after : List (List Element × Element)}
    (h : visitsBelow ancestors e = before ++ (above, d) :: after) :
    ∃ between, above = between ++ ancestors ∧ ∀ b ∈ between, b ∈ before.map Prod.snd := by
  induction e using induction_children generalizing ancestors before after with
  | step e ih =>
      rw [visitsBelow_eq] at h
      cases before with
      | nil =>
          cases h
          exact ⟨[], rfl, nofun⟩
      | cons v rest =>
          obtain ⟨rfl, hrest⟩ := List.cons.inj h
          obtain ⟨c, hc, left, first, last, hvisits, rfl⟩ := exists_of_flatMap_eq_append_cons hrest
          obtain ⟨between, rfl, hbetween⟩ := ih c hc hvisits
          refine ⟨between ++ [e], List.append_cons .., ?_⟩
          rw [List.forall_mem_append, List.forall_mem_singleton, List.map_cons, List.map_append]
          refine ⟨fun b hb => ?_, List.mem_cons_self⟩
          exact List.mem_cons_of_mem _ (List.mem_append_right _ (hbetween b hb))

end Xml.Element

end Labeling
