import Labeling.Json.Decode
import Labeling.Proofs.Except

namespace Labeling

namespace Decoder

variable {α β : Type} {v : Json}

theorem string_eq_ok {s : String} : string v = .ok s ↔ v = .string s := by
  cases v <;> simp [string]

theorem bool_eq_ok {b : Bool} : bool v = .ok b ↔ v = .bool b := by
  cases v <;> simp [bool]

theorem double_eq_ok {x : Binary64} : double v = .ok x ↔ ∃ n, v = .number n ∧ n.toBinary64 = x := by
  cases v <;> simp [double]

theorem integer_eq_ok {type : String} {least greatest n : Int} :
    integer type least greatest v = .ok n ↔ v = .ofInt n ∧ least ≤ n ∧ n ≤ greatest := by
  have hnot : ∀ {w : Json} {m : Mismatch}, (∀ k, w ≠ .ofInt k) →
      ((Except.error m : Except Mismatch Int) = .ok n ↔
        w = .ofInt n ∧ least ≤ n ∧ n ≤ greatest) :=
    fun hw => ⟨nofun, fun h => absurd h.1 (hw n)⟩
  cases v with
  | number k =>
      cases k with
      | integer k =>
          rw [integer]
          split
          · next hk =>
              constructor
              · intro h
                cases h
                exact ⟨rfl, hk⟩
              · rintro ⟨h, -⟩
                cases h
                rfl
          · next hk =>
              refine ⟨nofun, ?_⟩
              rintro ⟨h, hn⟩
              cases h
              exact absurd hn hk
      | double x => exact hnot nofun
  | _ => exact hnot nofun

theorem optional_of_ne_null {d : Decoder α} (h : v ≠ .null) : optional d v = (d v).map some := by
  cases v with
  | null => exact absurd rfl h
  | _ => rfl

theorem exists_optional {d : Decoder α} {C : Option α → Prop} :
    (∃ o, optional d v = .ok o ∧ C o) ↔
      (v = .null ∧ C none) ∨ (v ≠ .null ∧ ∃ a, d v = .ok a ∧ C (some a)) := by
  by_cases hv : v = .null
  · subst hv
    simp [optional]
  · simp [optional_of_ne_null hv, map_eq_ok, hv]

theorem exists_list {d : Decoder α} {C : α → Prop} :
    (∃ as, list d v = .ok as ∧ ∀ a ∈ as, C a) ↔
      ∃ items, v = .array items ∧ ∀ w ∈ items, ∃ a, d w = .ok a ∧ C a := by
  cases v with
  | array items =>
      rw [list, exists_mapM]
      exact ⟨fun h => ⟨items, rfl, h⟩, fun ⟨_, he, h⟩ => by cases he; exact h⟩
  | _ => exact ⟨nofun, nofun⟩

theorem list_eq_ok_iff_map {d : Decoder α} {g : α → Json} {C : α → Prop}
    (h : ∀ v a, d v = .ok a ↔ v = g a ∧ C a) {as : List α} :
    list d v = .ok as ↔ v = .array (as.map g) ∧ ∀ a ∈ as, C a := by
  cases v with
  | array items =>
      rw [list, mapM_eq_ok_iff_map h]
      exact and_congr_left' (by simp)
  | _ => exact ⟨nofun, nofun⟩

theorem list_eq_ok_nil {d : Decoder α} : list d v = .ok [] ↔ v = .array [] := by
  constructor
  · intro h
    cases v with
    | array items =>
        cases items with
        | nil => rfl
        | cons w items =>
            obtain ⟨b, rest, -, -, hcons⟩ := mapM_cons_eq_ok.1 h
            cases hcons
    | _ => cases h
  · rintro rfl
    rfl

theorem list_string_eq_ok {ss : List String} : list string v = .ok ss ↔ v = .strings ss := by
  rw [list_eq_ok_iff_map (g := Json.string) (C := fun _ => True) fun v s => by
    rw [string_eq_ok, and_true]]
  exact and_iff_left fun _ _ => trivial

theorem pair_eq_ok {d : Decoder α} {a b : α} :
    pair d v = .ok (a, b) ↔ ∃ x y, v = .array [x, y] ∧ d x = .ok a ∧ d y = .ok b := by
  cases v with
  | array items =>
      match items with
      | [] => exact ⟨nofun, nofun⟩
      | [x] =>
          refine ⟨?_, nofun⟩
          intro h
          obtain ⟨_, -, h⟩ := bind_eq_ok.1 h
          cases h
      | x :: y :: rest =>
          rw [pair, bind_eq_ok]
          constructor
          · rintro ⟨a', ha, h⟩
            obtain ⟨b', hb, h⟩ := bind_eq_ok.1 h
            cases rest with
            | nil => cases h; exact ⟨x, y, rfl, ha, hb⟩
            | cons z rest => cases h
          · rintro ⟨x', y', he, ha, hb⟩
            cases he
            exact ⟨a, ha, bind_eq_ok.2 ⟨b, hb, rfl⟩⟩
  | _ => exact ⟨nofun, nofun⟩

theorem exists_map {f : α → β} {d : Decoder α} :
    (∃ b, d.map f v = .ok b) ↔ ∃ a, d v = .ok a := by
  simp only [map, map_eq_ok]
  exact ⟨fun ⟨_, a, ha, _⟩ => ⟨a, ha⟩, fun ⟨a, ha⟩ => ⟨f a, a, ha, rfl⟩⟩

theorem exists_either {type : String} {first second : Decoder α} :
    (∃ a, either type first second v = .ok a) ↔
      (∃ a, first v = .ok a) ∨ ∃ a, second v = .ok a := by
  rw [either]
  cases first v with
  | ok a => simp
  | error e => cases second v <;> simp

theorem exists_dictOf {d : Decoder α} :
    (∃ m, dictOf d v = .ok m) ↔ ∃ ms, v = .object ms ∧ ∀ e ∈ ms, ∃ a, d e.2 = .ok a := by
  cases v with
  | object ms =>
      have hmembers : (∃ m, dictOf d (.object ms) = .ok m) ↔
          ∀ e ∈ ms, ∃ b, (d e.2).map (fun a => (e.1, a)) = .ok b := by
        have h := @exists_mapM _ _ _ (fun e : String × Json => (d e.2).map fun a => (e.1, a)) ms
          fun _ => True
        simp only [implies_true, and_true] at h
        exact h
      rw [hmembers]
      simp only [map_eq_ok]
      constructor
      · intro h
        refine ⟨ms, rfl, fun e he => ?_⟩
        obtain ⟨_, a, ha, -⟩ := h e he
        exact ⟨a, ha⟩
      · rintro ⟨ms', he, h⟩
        cases he
        intro e he
        obtain ⟨a, ha⟩ := h e he
        exact ⟨(e.1, a), a, ha, rfl⟩
  | _ => exact ⟨nofun, nofun⟩

end Decoder

end Labeling
