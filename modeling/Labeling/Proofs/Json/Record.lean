import Labeling.Proofs.Dict
import Labeling.Proofs.Json.Decode

namespace Labeling

namespace RecordDecoder

variable {α β : Type} {name : String} {d : Decoder α} {lookup : String → Option Json}

theorem exists_build_map {f : α → β} {r : RecordDecoder α} {C : β → Prop} :
    (∃ b, (f <$> r).build lookup = .ok b ∧ C b) ↔ ∃ a, r.build lookup = .ok a ∧ C (f a) := by
  change (∃ b, (r.build lookup).map f = .ok b ∧ C b) ↔ _
  simp only [map_eq_ok]
  constructor
  · rintro ⟨_, ⟨a, ha, rfl⟩, hC⟩
    exact ⟨a, ha, hC⟩
  · rintro ⟨a, ha, hC⟩
    exact ⟨f a, ⟨a, ha, rfl⟩, hC⟩

theorem build_seq_eq_ok {r : RecordDecoder (α → β)} {s : RecordDecoder α} {b : β} :
    (r <*> s).build lookup = .ok b ↔
      ∃ f a, r.build lookup = .ok f ∧ s.build lookup = .ok a ∧ f a = b := by
  change (r.build lookup >>= fun f => s.build lookup >>= fun a => pure (f a)) = .ok b ↔ _
  rw [bind_eq_ok]
  constructor
  · rintro ⟨f, hf, h⟩
    obtain ⟨a, ha, h⟩ := bind_eq_ok.1 h
    cases h
    exact ⟨f, a, hf, ha, rfl⟩
  · rintro ⟨f, a, hf, ha, rfl⟩
    exact ⟨f, hf, bind_eq_ok.2 ⟨a, ha, rfl⟩⟩

theorem exists_build_seq {r : RecordDecoder (α → β)} {s : RecordDecoder α} {C : β → Prop} :
    (∃ b, (r <*> s).build lookup = .ok b ∧ C b) ↔
      ∃ f, r.build lookup = .ok f ∧ ∃ a, s.build lookup = .ok a ∧ C (f a) := by
  simp only [build_seq_eq_ok]
  constructor
  · rintro ⟨_, ⟨f, a, hf, ha, rfl⟩, hC⟩
    exact ⟨f, hf, a, ha, hC⟩
  · rintro ⟨f, hf, a, ha, hC⟩
    exact ⟨f a, ⟨f, a, hf, ha, rfl⟩, hC⟩

theorem build_required_eq_ok {a : α} :
    (required name d).build lookup = .ok a ↔ ∃ v, lookup name = some v ∧ d v = .ok a := by
  simp only [required]
  cases lookup name <;> simp

theorem exists_build_required {C : α → Prop} :
    (∃ a, (required name d).build lookup = .ok a ∧ C a) ↔
      ∃ v, lookup name = some v ∧ ∃ a, d v = .ok a ∧ C a := by
  simp only [build_required_eq_ok]
  constructor
  · rintro ⟨a, ⟨v, hv, ha⟩, hC⟩
    exact ⟨v, hv, a, ha, hC⟩
  · rintro ⟨v, hv, a, ha, hC⟩
    exact ⟨a, ⟨v, hv, ha⟩, hC⟩

theorem build_withDefault_of_none {value : α} (h : lookup name = none) :
    (withDefault name d value).build lookup = .ok value := by
  simp only [withDefault, h]

theorem build_withDefault_of_some {value : α} {v : Json} (h : lookup name = some v) :
    (withDefault name d value).build lookup = d v := by
  simp only [withDefault, h]

theorem exists_build_withDefault {value : α} {C : α → Prop} :
    (∃ a, (withDefault name d value).build lookup = .ok a ∧ C a) ↔
      (lookup name = none ∧ C value) ∨ ∃ v, lookup name = some v ∧ ∃ a, d v = .ok a ∧ C a := by
  simp only [withDefault]
  cases lookup name with
  | none => simp
  | some v => simp

theorem exists_build_optional {C : Option α → Prop} :
    (∃ o, (optional name d).build lookup = .ok o ∧ C o) ↔
      ((lookup name = none ∨ lookup name = some .null) ∧ C none) ∨
        ∃ v, lookup name = some v ∧ v ≠ .null ∧ ∃ a, d v = .ok a ∧ C (some a) := by
  rw [optional, exists_build_withDefault]
  simp only [Decoder.exists_optional]
  constructor
  · rintro (⟨hnone, hC⟩ | ⟨v, hv, ⟨rfl, hC⟩ | ⟨hne, ha⟩⟩)
    · exact .inl ⟨.inl hnone, hC⟩
    · exact .inl ⟨.inr hv, hC⟩
    · exact .inr ⟨v, hv, hne, ha⟩
  · rintro (⟨hnone | hnull, hC⟩ | ⟨v, hv, hne, ha⟩)
    · exact .inl ⟨hnone, hC⟩
    · exact .inr ⟨.null, hnull, .inl ⟨rfl, hC⟩⟩
    · exact .inr ⟨v, hv, .inr ⟨hne, ha⟩⟩

/-- The fields of a record and the reading of it belong together: it is read from its own fields
alone, and when it is read its fields pass their checks. -/
structure Lawful (r : RecordDecoder α) : Prop where
  congr : ∀ {l l' : String → Option Json}, (∀ f ∈ r.fields, l f.name = l' f.name) →
    r.build l = r.build l'
  checked : ∀ {l : String → Option Json} {a : α}, r.build l = .ok a → ∀ f ∈ r.fields,
    (∀ v, l f.name = some v → f.check v = .ok ()) ∧ (f.required = true → l f.name ≠ none)

theorem lawful_required (name : String) (d : Decoder α) : (required name d).Lawful := by
  constructor
  · intro l l' h
    have hname : l name = l' name := h _ List.mem_cons_self
    simp only [required, hname]
  · intro l a ha f hf
    obtain ⟨v, hv, hd⟩ := build_required_eq_ok.1 ha
    cases List.mem_singleton.1 hf
    refine ⟨fun w hw => ?_, fun _ hnone => ?_⟩
    · cases hv.symm.trans hw
      simp only [hd]
      rfl
    · cases hv.symm.trans hnone

theorem lawful_withDefault (name : String) (d : Decoder α) (value : α) :
    (withDefault name d value).Lawful := by
  constructor
  · intro l l' h
    have hname : l name = l' name := h _ List.mem_cons_self
    simp only [withDefault, hname]
  · intro l a ha f hf
    cases List.mem_singleton.1 hf
    refine ⟨fun v hv => ?_, nofun⟩
    have hname : l name = some v := hv
    simp only [withDefault, hname] at ha
    simp only [ha]
    rfl

theorem lawful_optional (name : String) (d : Decoder α) : (optional name d).Lawful :=
  lawful_withDefault name (.optional d) none

theorem Lawful.map {r : RecordDecoder α} (h : r.Lawful) (f : α → β) : (f <$> r).Lawful := by
  constructor
  · intro l l' hl
    exact congrArg (Except.map f) (h.congr hl)
  · intro l b hb
    obtain ⟨a, ha, -⟩ := map_eq_ok.1 (show (r.build l).map f = .ok b from hb)
    exact h.checked ha

theorem Lawful.seq {r : RecordDecoder (α → β)} {s : RecordDecoder α} (hr : r.Lawful)
    (hs : s.Lawful) : (r <*> s).Lawful := by
  have hfields : (r <*> s).fields = r.fields ++ s.fields := rfl
  constructor
  · intro l l' hl
    rw [hfields] at hl
    have hr' := hr.congr fun f hf => hl f (List.mem_append_left _ hf)
    have hs' := hs.congr fun f hf => hl f (List.mem_append_right _ hf)
    change (r.build l >>= fun f => s.build l >>= fun a => pure (f a)) =
      (r.build l' >>= fun f => s.build l' >>= fun a => pure (f a))
    rw [hr', hs']
  · intro l b hb f hf
    obtain ⟨g, a, hg, ha, -⟩ := build_seq_eq_ok.1 hb
    rw [hfields] at hf
    rcases List.mem_append.1 hf with hf | hf
    · exact hr.checked hg f hf
    · exact hs.checked ha f hf

variable {r : RecordDecoder α} {a : α}

theorem checkMembers_eq_ok {ms : Dict Json} :
    r.checkMembers ms = .ok () ↔ ∀ e ∈ ms, ∀ f, r.fields.find? (·.name == e.1) = some f →
      f.check e.2 = .ok () := by
  induction ms with
  | nil => exact ⟨fun _ => nofun, fun _ => rfl⟩
  | cons e rest ih =>
      obtain ⟨key, v⟩ := e
      rw [List.forall_mem_cons, ← ih, checkMembers]
      cases hf : r.fields.find? (·.name == key) with
      | none =>
          refine ⟨fun h => ⟨nofun, h⟩, fun h => h.2⟩
      | some field =>
          simp only
          rw [bind_unit_eq_ok]
          refine and_congr_left' ⟨fun h f hf' => ?_, fun h => h field rfl⟩
          cases hf'
          exact h

theorem ofMembers_eq_ok (hr : r.Lawful) {ms : Dict Json} (hms : ms.keys.Nodup) :
    r.ofMembers ms = .ok a ↔ r.build ms.get? = .ok a := by
  rw [ofMembers, bind_unit_eq_ok, and_iff_right_iff_imp]
  intro ha
  refine checkMembers_eq_ok.2 fun e he f hf => ?_
  have hfound := List.find?_some hf
  have hname : f.name = e.1 := by simpa using hfound
  have hget := Dict.get?_eq_some_of_mem hms he
  exact (hr.checked ha f (List.mem_of_find?_eq_some hf)).1 e.2 (hname ▸ hget)

/-- The fields and the items are taken in pairs; fields that are left over must not be required. -/
theorem checkItems_eq_ok {type : String} {position : Nat} {fields : List Field}
    {items : List Json} : checkItems type position fields items = .ok () ↔
      items.length ≤ fields.length ∧ (∀ p ∈ fields.zip items, p.1.check p.2 = .ok ()) ∧
        ∀ f ∈ fields.drop items.length, f.required = false := by
  induction fields generalizing position items with
  | nil =>
      cases items with
      | nil => simp [checkItems]
      | cons v items => simp [checkItems]
  | cons field fields ih =>
      cases items with
      | nil =>
          rw [checkItems]
          split
          · next hrequired => simp [hrequired]
          · next hrequired => rw [ih]; simp [hrequired]
      | cons v items =>
          rw [checkItems, bind_unit_eq_ok, ih]
          simp [and_assoc, and_left_comm]

theorem ofItems_eq_ok (hr : r.Lawful) (hnames : (r.fields.map (·.name)).Nodup) {type : String}
    {items : List Json} : r.ofItems type items = .ok a ↔ items.length ≤ r.fields.length ∧
      r.build (Dict.get? ((r.fields.map (·.name)).zip items)) = .ok a := by
  rw [ofItems, bind_unit_eq_ok, checkItems_eq_ok]
  have hkeys := Dict.keys_zip (r.fields.map (·.name)) items
  have hnodup : (Dict.keys ((r.fields.map (·.name)).zip items)).Nodup :=
    hkeys ▸ hnames.sublist (List.take_sublist _ _)
  refine ⟨fun h => ⟨h.1.1, h.2⟩, fun ⟨hlength, ha⟩ => ⟨⟨hlength, ?_, ?_⟩, ha⟩⟩
  · intro p hp
    have hpair : (p.1.name, p.2) ∈ (r.fields.map (·.name)).zip items := by
      rw [List.zip_map_left]
      exact List.mem_map_of_mem hp
    exact (hr.checked ha p.1 (List.of_mem_zip hp).1).1 p.2
      (Dict.get?_eq_some_of_mem hnodup hpair)
  · intro f hf
    by_contra hrequired
    apply (hr.checked ha f (List.mem_of_mem_drop hf)).2 (by simpa using hrequired)
    rw [Dict.get?_eq_none_iff, hkeys]
    -- The name stands after the ones that have items, and no name stands twice.
    have hdrop : f.name ∈ (r.fields.map (·.name)).drop items.length := by
      rw [← List.map_drop]
      exact List.mem_map_of_mem hf
    rw [← List.take_append_drop items.length (r.fields.map (·.name)), List.nodup_append] at hnames
    exact fun htake => hnames.2.2 _ htake _ hdrop rfl

theorem read_eq_ok {type : String} {v : Json} : r.read type v = .ok a ↔
    (∃ ms, v = .object ms ∧ r.ofMembers ms = .ok a) ∨
      ∃ items, v = .array items ∧ r.ofItems ("struct " ++ type) items = .ok a := by
  cases v with
  | object ms => simp [read]
  | array items => simp [read]
  | _ => simp [read]

theorem read_record {type : String} {entries : List (String × Json)} (hr : r.Lawful)
    (h : r.build (Dict.get? (Dict.ofList entries)) = .ok a) :
    r.read type (.record entries) = .ok a :=
  read_eq_ok.2 (.inl ⟨_, rfl, (ofMembers_eq_ok hr (Dict.ofList_sorted entries).nodup_keys).2 h⟩)

end RecordDecoder

end Labeling
