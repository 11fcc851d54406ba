import Mathlib.Data.List.Basic

namespace Labeling

variable {ε α β : Type}

theorem bind_eq_ok {x : Except ε α} {f : α → Except ε β} {b : β} :
    x >>= f = .ok b ↔ ∃ a, x = .ok a ∧ f a = .ok b := by
  cases x with
  | error e => exact ⟨nofun, nofun⟩
  | ok a => exact ⟨fun h => ⟨a, rfl, h⟩, fun ⟨_, ha, h⟩ => by cases ha; exact h⟩

theorem map_eq_ok {x : Except ε α} {f : α → β} {b : β} :
    x.map f = .ok b ↔ ∃ a, x = .ok a ∧ f a = b := by
  cases x with
  | error e => exact ⟨nofun, nofun⟩
  | ok a => simp [Except.map]

theorem bind_unit_eq_ok {x : Except ε Unit} {f : Unit → Except ε β} {b : β} :
    x >>= f = .ok b ↔ x = .ok () ∧ f () = .ok b := by
  rw [bind_eq_ok]
  exact ⟨fun ⟨_, h⟩ => h, fun h => ⟨(), h⟩⟩

theorem ite_ok_eq_ok {P : Prop} [Decidable P] {e : ε} :
    (if P then .ok () else .error e : Except ε Unit) = .ok () ↔ P := by
  by_cases h : P
  · rw [if_pos h]
    exact iff_of_true rfl h
  · rw [if_neg h]
    exact iff_of_false nofun h

theorem ite_error_eq_ok {P : Prop} [Decidable P] {e : ε} {x : Except ε α} {a : α} :
    (if P then .error e else x) = .ok a ↔ ¬P ∧ x = .ok a := by
  by_cases h : P
  · rw [if_pos h]
    exact iff_of_false nofun fun hx => hx.1 h
  · rw [if_neg h]
    exact (and_iff_right h).symm

theorem toOption_eq_some {x : Except ε α} {a : α} : x.toOption = some a ↔ x = .ok a := by
  cases x <;> simp [Except.toOption]

theorem isOk_eq_true {x : Except ε Unit} : x.isOk = true ↔ x = .ok () := by
  cases x <;> simp [Except.isOk, Except.toBool]

theorem mapM_cons_eq_ok {f : α → Except ε β} {a : α} {as : List α} {bs : List β} :
    (a :: as).mapM f = .ok bs ↔
      ∃ b rest, f a = .ok b ∧ as.mapM f = .ok rest ∧ bs = b :: rest := by
  rw [List.mapM_cons, bind_eq_ok]
  constructor
  · rintro ⟨b, hb, h⟩
    obtain ⟨rest, hrest, hbs⟩ := bind_eq_ok.1 h
    cases hbs
    exact ⟨b, rest, hb, hrest, rfl⟩
  · rintro ⟨b, rest, hb, hrest, rfl⟩
    exact ⟨b, hb, bind_eq_ok.2 ⟨rest, hrest, rfl⟩⟩

theorem mapM_map_eq_ok {γ : Type} {f : β → Except ε γ} {g : α → β} {h : α → γ} {as : List α}
    (hf : ∀ a ∈ as, f (g a) = .ok (h a)) : (as.map g).mapM f = .ok (as.map h) := by
  induction as with
  | nil => rfl
  | cons a as ih =>
      obtain ⟨ha, has⟩ := List.forall_mem_cons.1 hf
      exact mapM_cons_eq_ok.2 ⟨h a, as.map h, ha, ih has, rfl⟩

theorem exists_mapM {f : α → Except ε β} {as : List α} {C : β → Prop} :
    (∃ bs, as.mapM f = .ok bs ∧ ∀ b ∈ bs, C b) ↔ ∀ a ∈ as, ∃ b, f a = .ok b ∧ C b := by
  induction as with
  | nil => exact ⟨fun _ => nofun, fun _ => ⟨[], rfl, nofun⟩⟩
  | cons a as ih =>
      rw [List.forall_mem_cons, ← ih]
      constructor
      · rintro ⟨bs, h, hC⟩
        obtain ⟨b, rest, hb, hrest, rfl⟩ := mapM_cons_eq_ok.1 h
        obtain ⟨hCb, hCrest⟩ := List.forall_mem_cons.1 hC
        exact ⟨⟨b, hb, hCb⟩, rest, hrest, hCrest⟩
      · rintro ⟨⟨b, hb, hCb⟩, rest, hrest, hCrest⟩
        exact ⟨b :: rest, mapM_cons_eq_ok.2 ⟨b, rest, hb, hrest, rfl⟩,
          List.forall_mem_cons.2 ⟨hCb, hCrest⟩⟩

theorem mapM_eq_ok_iff_map {f : α → Except ε β} {g : β → α} {C : β → Prop}
    (h : ∀ a b, f a = .ok b ↔ a = g b ∧ C b) {as : List α} {bs : List β} :
    as.mapM f = .ok bs ↔ as = bs.map g ∧ ∀ b ∈ bs, C b := by
  induction as generalizing bs with
  | nil =>
      cases bs with
      | nil => exact ⟨fun _ => ⟨rfl, nofun⟩, fun _ => rfl⟩
      | cons b bs => exact ⟨nofun, nofun⟩
  | cons a as ih =>
      rw [mapM_cons_eq_ok]
      constructor
      · rintro ⟨b, rest, hb, hrest, rfl⟩
        obtain ⟨rfl, hCb⟩ := (h a b).1 hb
        obtain ⟨rfl, hCrest⟩ := ih.1 hrest
        exact ⟨rfl, List.forall_mem_cons.2 ⟨hCb, hCrest⟩⟩
      · rintro ⟨hmap, hC⟩
        cases bs with
        | nil => cases hmap
        | cons b rest =>
            obtain ⟨rfl, rfl⟩ := List.cons.inj hmap
            obtain ⟨hCb, hCrest⟩ := List.forall_mem_cons.1 hC
            exact ⟨b, rest, (h _ b).2 ⟨rfl, hCb⟩, ih.2 ⟨rfl, hCrest⟩, rfl⟩

end Labeling
