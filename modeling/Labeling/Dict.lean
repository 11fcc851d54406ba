namespace Labeling

/-- Entries in strictly ascending order of their keys. -/
abbrev Dict (α : Type) := List (String × α)

namespace Dict

variable {α β : Type}

def get? : Dict α → String → Option α
  | [], _ => none
  | (k, v) :: rest, key => if k = key then some v else get? rest key

def contains (d : Dict α) (key : String) : Bool := (d.get? key).isSome

def insert : Dict α → String → α → Dict α
  | [], key, value => [(key, value)]
  | (k, v) :: rest, key, value =>
    if k = key then (key, value) :: rest
    else if key < k then (key, value) :: (k, v) :: rest
    else (k, v) :: insert rest key value

def alter (d : Dict α) (key : String) (f : Option α → α) : Dict α := d.insert key (f (d.get? key))

/-- The dictionary of a list of entries; of two with the same key the later one counts. -/
def ofList (entries : List (String × α)) : Dict α :=
  entries.foldl (fun d e => d.insert e.1 e.2) []

def keys (d : Dict α) : List String := d.map Prod.fst

def values (d : Dict α) : List α := d.map Prod.snd

def mapValues (f : α → β) (d : Dict α) : Dict β := d.map fun e => (e.1, f e.2)

def Sorted (d : Dict α) : Prop := d.keys.Pairwise (· < ·)

@[simp] theorem get?_nil (key : String) : get? ([] : Dict α) key = none := rfl

theorem get?_cons (k : String) (v : α) (d : Dict α) (key : String) :
    get? ((k, v) :: d) key = if k = key then some v else d.get? key := rfl

theorem get?_insert (d : Dict α) (key : String) (value : α) (other : String) :
    (d.insert key value).get? other = if key = other then some value else d.get? other := by
  induction d with
  | nil => simp [insert, get?]
  | cons e rest ih =>
    obtain ⟨k, v⟩ := e
    simp only [insert]
    split
    · subst k; simp only [get?_cons]; split <;> rfl
    · split
      · rfl
      · rename_i hne _
        simp only [get?_cons, ih]
        by_cases hk : k = other
        · subst hk
          rw [if_pos rfl, if_pos rfl, if_neg (Ne.symm hne)]
        · rw [if_neg hk, if_neg hk]

theorem mem_keys_insert (d : Dict α) (key : String) (value : α) (other : String) :
    other ∈ (d.insert key value).keys ↔ other = key ∨ other ∈ d.keys := by
  induction d with
  | nil => simp [insert, keys]
  | cons e rest ih =>
    obtain ⟨k, v⟩ := e
    simp only [keys] at ih
    simp only [insert, keys]
    split
    · subst k; simp
    · split
      · simp
      · simp only [List.map_cons, List.mem_cons, ih]
        constructor
        · rintro (h | h | h) <;> simp [h]
        · rintro (h | h | h) <;> simp [h]

theorem get?_eq_none_iff (d : Dict α) (key : String) : d.get? key = none ↔ key ∉ d.keys := by
  induction d with
  | nil => simp [keys]
  | cons e rest ih =>
    obtain ⟨k, v⟩ := e
    simp only [get?_cons, keys, List.map_cons, List.mem_cons]
    split
    · simp_all
    · rename_i h
      simp only [keys] at ih
      simp [ih, Ne.symm h]

theorem insert_sorted {d : Dict α} (h : d.Sorted) (key : String) (value : α) :
    (d.insert key value).Sorted := by
  induction d with
  | nil => simp [insert, Sorted, keys]
  | cons e rest ih =>
    obtain ⟨k, v⟩ := e
    have hcons : (∀ x ∈ keys rest, k < x) ∧ Sorted rest := by
      simpa [Sorted, keys] using h
    simp only [insert]
    split
    · subst k; simpa [Sorted, keys] using h
    · rename_i hne
      split
      · rename_i hlt
        refine List.pairwise_cons.2 ⟨?_, h⟩
        intro x hx
        rcases List.mem_cons.1 hx with rfl | hx
        · exact hlt
        · exact String.lt_trans hlt (hcons.1 x hx)
      · rename_i hnlt
        refine List.pairwise_cons.2 ⟨?_, ih hcons.2⟩
        intro x hx
        rcases (mem_keys_insert rest key value x).1 hx with rfl | hx
        · exact String.not_le.1 fun hle => hne (String.le_antisymm (String.not_lt.1 hnlt) hle)
        · exact hcons.1 x hx

theorem ofList_sorted (entries : List (String × α)) : (ofList entries).Sorted := by
  suffices ∀ d : Dict α, d.Sorted →
      (entries.foldl (fun d e => d.insert e.1 e.2) d).Sorted from this [] List.Pairwise.nil
  induction entries with
  | nil => exact fun d h => h
  | cons e rest ih => exact fun d h => ih _ (insert_sorted h _ _)

end Dict

end Labeling
