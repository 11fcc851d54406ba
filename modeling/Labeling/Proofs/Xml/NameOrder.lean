import Labeling.Proofs.Xml.Element
import Mathlib.Data.List.Perm.Basic

namespace Labeling.Xml

section

variable {α : Type} {key : α → String} {xs ys : List α} {a b : α}

theorem mem_iff_of_filter_key_eq
    (h : ∀ k, xs.filter (fun a => key a == k) = ys.filter (fun a => key a == k)) :
    a ∈ xs ↔ a ∈ ys := by
  have ha : a ∈ xs.filter (fun b => key b == key a) ↔ a ∈ ys.filter (fun b => key b == key a) := by
    rw [h]
  simpa using ha

theorem key_head_le (h : (a :: xs).Pairwise fun a b => key a ≤ key b) (hb : b ∈ a :: xs) :
    key a ≤ key b := by
  rcases List.mem_cons.1 hb with rfl | hb
  · exact String.le_refl _
  · exact (List.pairwise_cons.1 h).1 b hb

/-- Two lists that ascend in their keys are equal when they agree on each single key. -/
theorem eq_of_filter_key_eq (hxs : xs.Pairwise fun a b => key a ≤ key b)
    (hys : ys.Pairwise fun a b => key a ≤ key b)
    (h : ∀ k, xs.filter (fun a => key a == k) = ys.filter (fun a => key a == k)) : xs = ys := by
  induction xs generalizing ys with
  | nil =>
      cases ys with
      | nil => rfl
      | cons b ys =>
          exact absurd ((mem_iff_of_filter_key_eq h).2 List.mem_cons_self) List.not_mem_nil
  | cons a xs ih =>
      cases ys with
      | nil => exact absurd ((mem_iff_of_filter_key_eq h).1 List.mem_cons_self) List.not_mem_nil
      | cons b ys =>
          have hba := key_head_le hys ((mem_iff_of_filter_key_eq h).1 List.mem_cons_self)
          have hab := key_head_le hxs ((mem_iff_of_filter_key_eq h).2 List.mem_cons_self)
          have hkey : key a = key b := String.le_antisymm hab hba
          -- Both heads come first among the elements with their key, so they are the same.
          have hhead := h (key a)
          rw [List.filter_cons_of_pos (by simp), List.filter_cons_of_pos (by simp [hkey])] at hhead
          obtain ⟨rfl, -⟩ := List.cons.inj hhead
          rw [ih (List.pairwise_cons.1 hxs).2 (List.pairwise_cons.1 hys).2]
          intro k
          have hk := h k
          by_cases hak : key a = k
          · rw [List.filter_cons_of_pos (by simp [hak]),
              List.filter_cons_of_pos (by simp [hak])] at hk
            exact (List.cons.inj hk).2
          · rwa [List.filter_cons_of_neg (by simp [hak]),
              List.filter_cons_of_neg (by simp [hak])] at hk

end

namespace Element

def byName (a b : Element) : Bool := decide (a.name ≤ b.name)

def childrenByName (e : Element) : List Element := e.children.mergeSort byName

def childrenNamed (e : Element) (name : String) : List Element :=
  e.children.filter fun c => c.name == name

theorem byName_trans (a b c : Element) (hab : byName a b = true) (hbc : byName b c = true) :
    byName a c = true :=
  decide_eq_true (String.le_trans (of_decide_eq_true hab) (of_decide_eq_true hbc))

theorem byName_total (a b : Element) : (byName a b || byName b a) = true := by
  simpa [byName] using String.le_total a.name b.name

theorem childrenByName_perm (e : Element) : e.childrenByName.Perm e.children :=
  List.mergeSort_perm _ _

theorem pairwise_childrenByName (e : Element) :
    e.childrenByName.Pairwise fun a b => a.name ≤ b.name :=
  (List.pairwise_mergeSort byName_trans byName_total e.children).imp of_decide_eq_true

theorem filter_childrenByName (e : Element) (name : String) :
    e.childrenByName.filter (fun c => c.name == name) = e.childrenNamed name := by
  have hsame : (e.childrenNamed name).Pairwise fun a b => byName a b = true := by
    apply List.pairwise_of_forall_mem_list
    intro a ha b hb
    have ha' := (List.mem_filter.1 ha).2
    have hb' := (List.mem_filter.1 hb).2
    rw [beq_iff_eq] at ha' hb'
    rw [byName, ha', hb']
    exact decide_eq_true (String.le_refl _)
  have hsub : (e.childrenNamed name).Sublist e.childrenByName :=
    List.sublist_mergeSort byName_trans byName_total hsame List.filter_sublist
  have hfiltered := hsub.filter fun c => c.name == name
  rw [childrenNamed, List.filter_filter] at hfiltered
  simp only [Bool.and_self] at hfiltered
  exact (hfiltered.eq_of_length ((e.childrenByName_perm.filter _).length_eq.symm)).symm

/-- The order is the only one that ascends in the names and keeps the children with one name in
document order. -/
theorem eq_childrenByName {e : Element} {cs : List Element}
    (hsorted : cs.Pairwise fun a b => a.name ≤ b.name)
    (h : ∀ name, cs.filter (fun c => c.name == name) = e.childrenNamed name) :
    cs = e.childrenByName :=
  eq_of_filter_key_eq hsorted e.pairwise_childrenByName
    fun name => (h name).trans (e.filter_childrenByName name).symm

/-- Every element of the tree with its ancestors, nearest first: an element before what is inside
it, and children in the order of their names. -/
def visitsByName (ancestors : List Element) (e : Element) : List (List Element × Element) :=
  (ancestors, e) :: e.childrenByName.attach.flatMap fun c => visitsByName (e :: ancestors) c.1
termination_by sizeOf e
decreasing_by exact sizeOf_lt_of_mem_children (e.childrenByName_perm.mem_iff.1 c.2)

theorem visitsByName_eq (ancestors : List Element) (e : Element) :
    visitsByName ancestors e =
      (ancestors, e) :: e.childrenByName.flatMap (visitsByName (e :: ancestors)) := by
  rw [visitsByName]
  congr 1
  rw [List.flatMap_subtype (g := visitsByName (e :: ancestors)) (fun _ _ => rfl),
    List.unattach_attach]

theorem visitsByName_perm (ancestors : List Element) (e : Element) :
    (visitsByName ancestors e).Perm (visitsBelow ancestors e) := by
  induction e using induction_children generalizing ancestors with
  | step e ih =>
      rw [visitsByName_eq, visitsBelow_eq]
      apply List.Perm.cons _
      apply (e.childrenByName_perm.flatMap_right _).trans
      exact List.Perm.flatMap_left _ fun c hc => ih c hc (e :: ancestors)

end Element

end Labeling.Xml
