import Labeling.Proofs.Number.Binary64
import Labeling.Sample.Noise

namespace Labeling.Sample.Noise

theorem length_pairUp : (words : List UInt32) → (pairUp words).length = words.length / 2
  | [] => by simp [pairUp]
  | [_] => by simp [pairUp]
  | low :: high :: rest => by
      rw [pairUp, List.length_cons, length_pairUp rest, List.length_cons, List.length_cons]
      omega

theorem pairUp_lt : (words : List UInt32) → ∀ draw ∈ pairUp words, draw < 0x10000000000000000
  | [] => by simp [pairUp]
  | [_] => by simp [pairUp]
  | low :: high :: rest => by
      have hlow : low.toNat < 0x100000000 := low.toNat_lt
      have hhigh : high.toNat < 0x100000000 := high.toNat_lt
      rw [pairUp]
      exact List.forall_mem_cons.2 ⟨by omega, pairUp_lt rest⟩

theorem length_draws (count : Nat) : (draws count).length = (count / 8 + 1) * 8 := by
  have hblock (counter : Nat) : (pairUp (block counter).toList).length = 8 := by
    rw [length_pairUp, Vector.length_toList]
  simp [draws, List.length_flatMap, hblock, List.map_const']

theorem length_numbers (count : Nat) : (numbers count).length = count := by
  rw [numbers, List.length_map, List.length_take, length_draws]
  omega

theorem isFinite_fraction {draw : Nat} (h : draw < 0x10000000000000000) :
    (fraction draw).isFinite = true :=
  Binary64.isFinite_ofRatio false (by decide) (by omega)

theorem isFinite_of_mem_numbers {count : Nat} {x : Binary64} (h : x ∈ numbers count) :
    x.isFinite = true := by
  obtain ⟨draw, hdraw, rfl⟩ := List.mem_map.1 h
  obtain ⟨counter, -, hblock⟩ := List.mem_flatMap.1 (List.mem_of_mem_take hdraw)
  exact isFinite_fraction (pairUp_lt _ draw hblock)

end Labeling.Sample.Noise
