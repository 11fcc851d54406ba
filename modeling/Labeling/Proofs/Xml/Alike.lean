import Labeling.Proofs.Xml.Element
import Mathlib.Data.List.Forall2

namespace Labeling.Xml.Element

section

variable {Q R : Element → Element → Prop} {ancestors ancestors' : List Element}

/-- If elements related by `R` have children related by `R`, walks through them visit elements that
are so related; the ancestors are then related by any weaker `Q`. -/
theorem forall₂_visitsBelow (hQ : ∀ e e', R e e' → Q e e')
    (hR : ∀ e e', R e e' → List.Forall₂ R e.children e'.children) {e e' : Element} (h : R e e')
    (hancestors : List.Forall₂ Q ancestors ancestors') :
    List.Forall₂ (fun v v' => List.Forall₂ Q v.1 v'.1 ∧ R v.2 v'.2)
      (visitsBelow ancestors e) (visitsBelow ancestors' e') := by
  induction e using induction_children generalizing ancestors ancestors' e' with
  | step e ih =>
      have hchildren := (List.forall₂_and_left _ _).2 ⟨fun _ hc => hc, hR e e' h⟩
      rw [visitsBelow_eq, visitsBelow_eq]
      refine .cons ⟨hancestors, h⟩ (List.rel_flatMap hchildren ?_)
      rintro c c' ⟨hc, hcc⟩
      exact ih c hc hcc (.cons (hQ e e' h) hancestors)

end

/-- The trees differ at most in the names of their elements, which `N` relates. -/
inductive Renamed (N : String → String → Prop) : Element → Element → Prop where
  | element {name name' : String} {attributes : List Attribute} {texts : List String}
      {children children' : List Element} (hname : N name name')
      (hchildren : List.Forall₂ (Renamed N) children children') :
      Renamed N (.element name attributes texts children)
        (.element name' attributes texts children')

namespace Renamed

variable {N M : String → String → Prop} {e e' : Element}

theorem name (h : Renamed N e e') : N e.name e'.name := by
  cases h with
  | element hname => exact hname

theorem attributes (h : Renamed N e e') : e.attributes = e'.attributes := by
  cases h
  rfl

theorem children (h : Renamed N e e') : List.Forall₂ (Renamed N) e.children e'.children := by
  cases h with
  | element _ hchildren => exact hchildren

theorem visits (h : Renamed N e e') :
    List.Forall₂ (fun v v' => List.Forall₂ (Renamed N) v.1 v'.1 ∧ Renamed N v.2 v'.2)
      e.visits e'.visits :=
  forall₂_visitsBelow (fun _ _ => id) (fun _ _ => children) h .nil

theorem descendants (h : Renamed N e e') :
    List.Forall₂ (Renamed N) e.descendants e'.descendants := by
  rw [← map_snd_visitsBelow [], ← map_snd_visitsBelow [], List.forall₂_map_left_iff,
    List.forall₂_map_right_iff]
  exact h.visits.imp fun _ _ => And.right

end Renamed

def SameTag (e e' : Element) : Prop := e.name = e'.name ∧ e.attributes = e'.attributes

theorem sameTag_rfl {e : Element} : SameTag e e := ⟨rfl, rfl⟩

def SameVisit (v v' : List Element × Element) : Prop :=
  List.Forall₂ SameTag v.1 v'.1 ∧ SameTag v.2 v'.2

/-- The second tree is the first without the element `d` in it; `before` are the elements of the
first that come before `d`. The texts around `d` may be joined. -/
inductive Without (d : Element) : List Element → Element → Element → Prop where
  | child {name : String} {attributes : List Attribute} {texts texts' : List String}
      {left right : List Element} :
      Without d (.element name attributes texts (left ++ d :: right) :: left.flatMap descendants)
        (.element name attributes texts (left ++ d :: right))
        (.element name attributes texts' (left ++ right))
  | inside {name : String} {attributes : List Attribute} {texts : List String}
      {left right before : List Element} {c c' : Element} (hchild : Without d before c c') :
      Without d
        (.element name attributes texts (left ++ c :: right) :: (left.flatMap descendants ++ before))
        (.element name attributes texts (left ++ c :: right))
        (.element name attributes texts (left ++ c' :: right))

section

variable {ancestors ancestors' : List Element} (h : List.Forall₂ SameTag ancestors ancestors')

include h

theorem forall₂_sameVisit (e : Element) :
    List.Forall₂ SameVisit (visitsBelow ancestors e) (visitsBelow ancestors' e) := by
  have hvisits := forall₂_visitsBelow (R := Eq) (fun _ _ he => he ▸ sameTag_rfl)
    (fun _ _ he => he ▸ List.forall₂_refl _) (rfl : e = e) h
  exact hvisits.imp fun _ _ hv => ⟨hv.1, hv.2 ▸ sameTag_rfl⟩

theorem forall₂_sameVisit_flatMap (cs : List Element) :
    List.Forall₂ SameVisit (cs.flatMap (visitsBelow ancestors))
      (cs.flatMap (visitsBelow ancestors')) :=
  List.rel_flatMap (R := Eq) (List.forall₂_refl cs) fun c _ hc => hc ▸ forall₂_sameVisit h c

end

theorem map_snd_flatMap_visitsBelow (ancestors cs : List Element) :
    (cs.flatMap (visitsBelow ancestors)).map Prod.snd = cs.flatMap descendants := by
  rw [List.map_flatMap]
  exact List.flatMap_congr fun c _ => map_snd_visitsBelow ancestors c

/-- A walk through the tree without `d` is a walk through the whole tree less the visits inside
`d`. -/
theorem Without.visits {d e e' : Element} {before ancestors ancestors' : List Element}
    (h : Without d before e e') (hancestors : List.Forall₂ SameTag ancestors ancestors') :
    ∃ above first first' last last',
      visitsBelow ancestors e = first ++ (visitsBelow above d ++ last) ∧
      visitsBelow ancestors' e' = first' ++ last' ∧ first.map Prod.snd = before ∧
      List.Forall₂ SameVisit first first' ∧ List.Forall₂ SameVisit last last' := by
  induction h generalizing ancestors ancestors' with
  | @child name attributes texts texts' left right =>
      let e : Element := .element name attributes texts (left ++ d :: right)
      let e' : Element := .element name attributes texts' (left ++ right)
      have hbelow : List.Forall₂ SameTag (e :: ancestors) (e' :: ancestors') :=
        .cons ⟨rfl, rfl⟩ hancestors
      refine ⟨e :: ancestors, (ancestors, e) :: left.flatMap (visitsBelow (e :: ancestors)),
        (ancestors', e') :: left.flatMap (visitsBelow (e' :: ancestors')),
        right.flatMap (visitsBelow (e :: ancestors)),
        right.flatMap (visitsBelow (e' :: ancestors')), ?_, ?_, ?_, ?_, ?_⟩
      · rw [visitsBelow_eq, List.cons_append, ← List.flatMap_cons, ← List.flatMap_append]
        rfl
      · rw [visitsBelow_eq, List.cons_append, ← List.flatMap_append]
        rfl
      · rw [List.map_cons, map_snd_flatMap_visitsBelow]
      · exact .cons ⟨hancestors, rfl, rfl⟩ (forall₂_sameVisit_flatMap hbelow left)
      · exact forall₂_sameVisit_flatMap hbelow right
  | @inside name attributes texts left right before c c' _ ih =>
      let e : Element := .element name attributes texts (left ++ c :: right)
      let e' : Element := .element name attributes texts (left ++ c' :: right)
      have hbelow : List.Forall₂ SameTag (e :: ancestors) (e' :: ancestors') :=
        .cons ⟨rfl, rfl⟩ hancestors
      obtain ⟨above, first, first', last, last', hvisits, hvisits', hbefore, hfirst, hlast⟩ :=
        ih hbelow
      refine ⟨above, (ancestors, e) :: (left.flatMap (visitsBelow (e :: ancestors)) ++ first),
        (ancestors', e') :: (left.flatMap (visitsBelow (e' :: ancestors')) ++ first'),
        last ++ right.flatMap (visitsBelow (e :: ancestors)),
        last' ++ right.flatMap (visitsBelow (e' :: ancestors')), ?_, ?_, ?_, ?_, ?_⟩
      · rw [visitsBelow_eq]
        simp only [children, e, List.flatMap_append, List.flatMap_cons, List.cons_append,
          List.append_assoc] at hvisits ⊢
        rw [hvisits, List.append_assoc, List.append_assoc]
      · rw [visitsBelow_eq]
        simp only [children, e', List.flatMap_append, List.flatMap_cons, List.cons_append,
          List.append_assoc] at hvisits' ⊢
        rw [hvisits', List.append_assoc]
      · rw [List.map_cons, List.map_append, map_snd_flatMap_visitsBelow, hbefore]
      · exact .cons ⟨hancestors, rfl, rfl⟩
          (List.rel_append (forall₂_sameVisit_flatMap hbelow left) hfirst)
      · exact List.rel_append hlast (forall₂_sameVisit_flatMap hbelow right)

end Labeling.Xml.Element
