import Labeling.Dict

namespace Labeling.Dict

variable {α β : Type}

theorem get?_foldl_insert (entries : List (String × α)) (d : Dict α) (key : String) :
    Dict.get? (entries.foldl (fun d e => Dict.insert d e.1 e.2) d) key =
      ((entries.reverse.find? fun e => e.1 == key).map Prod.snd).or (d.get? key) := by
  induction entries generalizing d with
  | nil => rfl
  | cons e rest ih =>
    rw [List.foldl_cons, ih, get?_insert, List.reverse_cons, List.find?_append]
    cases rest.reverse.find? fun e => e.1 == key with
    | some found => rfl
    | none =>
      by_cases h : e.1 = key
      · simp [h]
      · simp [h, beq_eq_false_iff_ne.2 h]

theorem get?_ofList (entries : List (String × α)) (key : String) :
    (ofList entries).get? key = (entries.reverse.find? fun e => e.1 == key).map Prod.snd := by
  rw [ofList, get?_foldl_insert, get?_nil, Option.or_none]

theorem get?_ofList_map {f : String → String} (hf : ∀ a b, f a = f b → a = b) (g : α → β)
    (entries : List (String × α)) (key : String) :
    (ofList (entries.map fun e => (f e.1, g e.2))).get? (f key) =
      ((ofList entries).get? key).map g := by
  have hpred : ((fun e : String × β => e.1 == f key) ∘ fun e : String × α => (f e.1, g e.2)) =
      fun e => e.1 == key := by
    funext e
    rw [Function.comp_apply, Bool.eq_iff_iff, beq_iff_eq, beq_iff_eq]
    exact ⟨hf e.1 key, congrArg f⟩
  rw [get?_ofList, get?_ofList, ← List.map_reverse, List.find?_map, hpred, Option.map_map,
    Option.map_map]
  rfl

theorem get?_ofList_eq_none {entries : List (String × α)} {key : String}
    (h : ∀ e ∈ entries, e.1 ≠ key) : (ofList entries).get? key = none := by
  rw [get?_ofList, List.find?_eq_none.2, Option.map_none]
  intro e he
  simpa using h e (List.mem_reverse.1 he)

theorem mem_keys_ofList {entries : List (String × α)} {key : String} :
    key ∈ (ofList entries).keys ↔ ∃ e ∈ entries, e.1 = key := by
  have hnot : key ∉ (ofList entries).keys ↔ ∀ e ∈ entries, e.1 ≠ key := by
    rw [← get?_eq_none_iff, get?_ofList, Option.map_eq_none_iff, List.find?_eq_none]
    simp
  rw [← Decidable.not_not (p := key ∈ _), hnot]
  simp

theorem get?_ofList_append {entries extra : List (String × α)} {key : String}
    (h : ∀ e ∈ extra, e.1 ≠ key) :
    (ofList (entries ++ extra)).get? key =
      (entries.reverse.find? fun e => e.1 == key).map Prod.snd := by
  have hextra : extra.reverse.find? (fun e => e.1 == key) = none := by
    rw [List.find?_eq_none]
    intro e he
    simpa using h e (List.mem_reverse.1 he)
  rw [get?_ofList, List.reverse_append, List.find?_append, hextra, Option.none_or]

theorem sorted_nil : Sorted ([] : Dict α) := List.Pairwise.nil

theorem Sorted.nodup_keys {d : Dict α} (h : d.Sorted) : d.keys.Nodup :=
  List.Pairwise.imp (fun {a b} (hlt : a < b) (he : a = b) => String.lt_irrefl b (he ▸ hlt)) h

theorem get?_eq_some_of_mem {d : Dict α} (hd : d.keys.Nodup) {k : String} {v : α}
    (h : (k, v) ∈ d) : d.get? k = some v := by
  induction d with
  | nil => cases h
  | cons e rest ih =>
    obtain ⟨l, w⟩ := e
    have hcons : l ∉ keys rest ∧ (keys rest).Nodup := List.nodup_cons.1 hd
    rcases List.mem_cons.1 h with he | hmem
    · obtain ⟨rfl, rfl⟩ := Prod.mk.inj he
      rw [get?_cons, if_pos rfl]
    · have hne : l ≠ k := fun he => hcons.1 (he ▸ List.mem_map_of_mem hmem)
      rw [get?_cons, if_neg hne, ih hcons.2 hmem]

theorem mem_of_get?_eq_some {d : Dict α} {k : String} {v : α} (h : d.get? k = some v) :
    (k, v) ∈ d := by
  induction d with
  | nil => cases h
  | cons e rest ih =>
    obtain ⟨l, w⟩ := e
    rw [get?_cons] at h
    split at h
    · next he => cases h; exact he ▸ List.mem_cons_self
    · exact List.mem_cons_of_mem _ (ih h)

theorem mem_iff_get? {d : Dict α} (hd : d.keys.Nodup) {k : String} {v : α} :
    (k, v) ∈ d ↔ d.get? k = some v :=
  ⟨get?_eq_some_of_mem hd, mem_of_get?_eq_some⟩

theorem get?_eq_find? (d : Dict α) (key : String) :
    d.get? key = (d.find? fun e => e.1 == key).map Prod.snd := by
  induction d with
  | nil => rfl
  | cons e rest ih =>
    obtain ⟨k, v⟩ := e
    rw [get?_cons]
    by_cases h : k = key
    · simp [h]
    · simp [h, ih]

theorem mem_ofList {entries : List (String × α)} (h : (entries.map Prod.fst).Nodup)
    {e : String × α} : e ∈ ofList entries ↔ e ∈ entries := by
  obtain ⟨key, v⟩ := e
  have hnodup : (keys entries.reverse).Nodup := by
    rw [keys, List.map_reverse]
    exact (List.reverse_perm _).nodup_iff.2 h
  rw [mem_iff_get? (ofList_sorted entries).nodup_keys, get?_ofList, ← get?_eq_find?,
    ← mem_iff_get? hnodup, List.mem_reverse]

theorem exists_last_of_find?_reverse {p : α → Bool} {as : List α} {a : α}
    (h : as.reverse.find? p = some a) :
    p a = true ∧ ∃ before after, as = before ++ a :: after ∧ ∀ b ∈ after, p b = false := by
  obtain ⟨ha, after, before, hsplit, hafter⟩ := List.find?_eq_some_iff_append.1 h
  refine ⟨ha, before.reverse, after.reverse, ?_, fun b hb => ?_⟩
  · rw [← List.reverse_reverse as, hsplit, List.reverse_append, List.reverse_cons,
      List.append_assoc, List.singleton_append]
  · simpa using hafter b (List.mem_reverse.1 hb)

theorem exists_last_of_get?_ofList {entries : List (String × α)} {key : String} {v : α}
    (h : (ofList entries).get? key = some v) :
    ∃ before after, entries = before ++ (key, v) :: after ∧ ∀ e ∈ after, e.1 ≠ key := by
  rw [get?_ofList] at h
  obtain ⟨⟨_, _⟩, hfound, rfl⟩ := Option.map_eq_some_iff.1 h
  obtain ⟨hkey, before, after, hsplit, hafter⟩ := exists_last_of_find?_reverse hfound
  obtain rfl := beq_iff_eq.1 hkey
  exact ⟨before, after, hsplit, fun e he => beq_eq_false_iff_ne.1 (hafter e he)⟩

theorem mem_of_get?_ofList {entries : List (String × α)} {key : String} {v : α}
    (h : (ofList entries).get? key = some v) : (key, v) ∈ entries := by
  obtain ⟨before, after, rfl, -⟩ := exists_last_of_get?_ofList h
  exact List.mem_append_right before List.mem_cons_self

theorem mem_insert {d : Dict α} {key : String} {v : α} {e : String × α}
    (h : e ∈ Dict.insert d key v) : e = (key, v) ∨ e ∈ d := by
  induction d with
  | nil => exact .inl (List.mem_singleton.1 h)
  | cons f rest ih =>
      obtain ⟨k, w⟩ := f
      rw [Dict.insert] at h
      split at h
      · exact (List.mem_cons.1 h).imp_right (List.mem_cons_of_mem _)
      · split at h
        · exact List.mem_cons.1 h
        · rcases List.mem_cons.1 h with rfl | hmem
          · exact .inr List.mem_cons_self
          · exact (ih hmem).imp_right (List.mem_cons_of_mem _)

theorem keys_zip (names : List String) (values : List α) :
    keys (names.zip values) = names.take values.length := by
  induction names generalizing values with
  | nil => simp [keys]
  | cons name names ih =>
    cases values with
    | nil => rfl
    | cons v values => exact congrArg (name :: ·) (ih values)

theorem contains_insert {d : Dict α} {key other : String} {v : α} :
    (d.insert key v).contains other = true ↔ key = other ∨ d.contains other = true := by
  rw [contains, contains, get?_insert]
  by_cases h : key = other <;> simp [h]

theorem get?_alter (d : Dict α) (key : String) (f : Option α → α) (other : String) :
    (d.alter key f).get? other = if key = other then some (f (d.get? key)) else d.get? other :=
  get?_insert d key _ other

theorem alter_sorted {d : Dict α} (h : d.Sorted) (key : String) (f : Option α → α) :
    (d.alter key f).Sorted :=
  insert_sorted h key _

/-- The entries of both dictionaries; under a key of both the one of `e` counts. -/
def override (d e : Dict α) : Dict α := e.foldr (fun entry d => Dict.insert d entry.1 entry.2) d

theorem get?_override (d e : Dict α) (key : String) :
    (d.override e).get? key = (e.get? key).or (d.get? key) := by
  induction e with
  | nil => rfl
  | cons entry rest ih =>
      obtain ⟨k, v⟩ := entry
      have hcons : override d ((k, v) :: rest) = Dict.insert (d.override rest) k v := rfl
      rw [hcons, get?_insert, get?_cons, ih]
      split <;> rfl

end Labeling.Dict
