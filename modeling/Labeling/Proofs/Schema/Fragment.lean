import Labeling.Proofs.Schema.Satisfies
import Labeling.Proofs.Shape.Check

namespace Labeling

open Shape
open Json (IsString IsStrings IsNumber ListOf)

namespace Schema

variable {v : Json} {labels : List String} {members : List (String × Json)}

theorem hasType_string : hasType "string" v = true ↔ v.IsString := by
  cases v <;> simp [hasType, IsString]

theorem hasType_array : hasType "array" v = true ↔ ∃ items, v = .array items := by
  cases v <;> simp [hasType]

theorem hasType_object : hasType "object" v = true ↔ ∃ ms, v = .object ms := by
  cases v <;> simp [hasType]

theorem hasType_number : hasType "number" v = true ↔ v.IsNumber := by
  cases v <;> simp [hasType, IsNumber]

theorem isNumber_of_hasType_integer (h : hasType "integer" v = true) : v.IsNumber := by
  cases v with
  | number n => exact ⟨n, rfl⟩
  | _ => cases h

theorem satisfiesKeyword_type {name : String} :
    satisfiesKeyword ("type", .string name) v = hasType name v :=
  satisfiesKeyword_eq_asserts (by decide)

theorem satisfies_typed {name : String} {rest : List (String × Json)} :
    (∀ e ∈ type name ++ rest, satisfiesKeyword e v = true) ↔
      hasType name v = true ∧ ∀ e ∈ rest, satisfiesKeyword e v = true := by
  rw [type, List.singleton_append, List.forall_mem_cons, satisfiesKeyword_type]

theorem equal_string {s : String} : equal v (.string s) = true ↔ v = .string s := by
  cases v <;> simp [equal]

theorem satisfiesKeyword_enum :
    satisfiesKeyword ("enum", .strings labels) v = true ↔ ∃ s ∈ labels, v = .string s := by
  rw [satisfiesKeyword_eq_asserts (by decide)]
  simp [asserts, Json.strings, equal_string]

theorem satisfiesKeyword_minimum {bound n : JsonNumber} :
    satisfiesKeyword ("minimum", .number bound) (.number n) = bound.atMost n :=
  satisfiesKeyword_eq_asserts (by decide)

theorem satisfiesKeyword_maximum {bound n : JsonNumber} :
    satisfiesKeyword ("maximum", .number bound) (.number n) = n.atMost bound :=
  satisfiesKeyword_eq_asserts (by decide)

theorem satisfiesKeyword_required {keys : List String} {ms : Dict Json} :
    satisfiesKeyword ("required", .strings keys) (.object ms) = true ↔
      ∀ key ∈ keys, ∃ w, Dict.get? ms key = some w := by
  have hkeys : (keys.map Json.string).filterMap Json.string? = keys := by
    rw [List.filterMap_map]
    exact List.filterMap_some
  rw [satisfiesKeyword_eq_asserts (by decide)]
  simp only [asserts, Json.strings, hkeys, List.all_eq_true, Dict.contains, Option.isSome_iff_exists]

theorem satisfies_stringEnum : satisfies (stringEnum labels) v = true ↔
    ∃ s, v = .string s ∧ (labels = [] ∨ s ∈ labels) := by
  rw [stringEnum]
  cases labels with
  | nil =>
      rw [satisfies_record (by simp [type]), satisfies_typed, hasType_string]
      simp [IsString]
  | cons label rest =>
      rw [satisfies_record (by simp [type]), satisfies_typed, hasType_string, List.isEmpty_cons,
        if_neg (by decide), List.forall_mem_singleton, satisfiesKeyword_enum]
      constructor
      · rintro ⟨-, s, hs, rfl⟩
        exact ⟨s, rfl, .inr hs⟩
      · rintro ⟨s, rfl, hs⟩
        exact ⟨⟨s, rfl⟩, s, hs.resolve_left (List.cons_ne_nil _ _), rfl⟩

theorem satisfies_string : satisfies (.record (type "string")) v = true ↔ v.IsString := by
  rw [satisfies_record (by simp [type]), type, List.forall_mem_singleton, satisfiesKeyword_type,
    hasType_string]

theorem satisfies_arrayOf {items : Json} :
    (∀ e ∈ arrayOf items, satisfiesKeyword e v = true) ↔
      v.ListOf fun w => satisfies items w = true := by
  rw [arrayOf, satisfies_typed, hasType_array, List.forall_mem_singleton, satisfiesKeyword_items]
  constructor
  · rintro ⟨⟨vs, rfl⟩, h⟩
    exact ⟨vs, rfl, h⟩
  · rintro ⟨vs, rfl, h⟩
    exact ⟨⟨vs, rfl⟩, h⟩

theorem satisfies_record_arrayOf {items : Json} :
    satisfies (.record (arrayOf items)) v = true ↔ v.ListOf fun w => satisfies items w = true := by
  rw [satisfies_record (by simp [arrayOf, type]), satisfies_arrayOf]

theorem listOf_iff_map {α : Type} {f : α → Json} {P : α → Prop} :
    (v.ListOf fun w => ∃ a, w = f a ∧ P a) ↔
      ∃ as : List α, v = .array (as.map f) ∧ ∀ a ∈ as, P a := by
  constructor
  · rintro ⟨items, rfl, h⟩
    induction items with
    | nil => exact ⟨[], rfl, nofun⟩
    | cons w items ih =>
        obtain ⟨⟨a, rfl, ha⟩, hitems⟩ := List.forall_mem_cons.1 h
        obtain ⟨as, has, hall⟩ := ih hitems
        cases has
        exact ⟨a :: as, rfl, List.forall_mem_cons.2 ⟨ha, hall⟩⟩
  · rintro ⟨as, rfl, h⟩
    refine ⟨_, rfl, fun w hw => ?_⟩
    obtain ⟨a, ha, rfl⟩ := List.mem_map.1 hw
    exact ⟨a, rfl, h a ha⟩

theorem listOf_stringEnum : (v.ListOf fun w => satisfies (stringEnum labels) w = true) ↔
    ∃ ss, v = .strings ss ∧ ∀ s ∈ ss, labels = [] ∨ s ∈ labels := by
  simp only [satisfies_stringEnum]
  exact listOf_iff_map

theorem isNonNegative_of_satisfies (hv : v.WellFormed) (h : satisfies offset v = true) :
    IsNonNegative v := by
  rw [offset, satisfies_record (by simp [type]), satisfies_typed, List.forall_mem_singleton] at h
  obtain ⟨n, rfl⟩ := isNumber_of_hasType_integer h.1
  rw [Json.ofInt, satisfiesKeyword_minimum] at h
  exact ⟨_, ⟨n, rfl, rfl⟩, JsonNumber.zero_le_of_atMost hv.ofNumber h.2⟩

theorem span_of_satisfies (hv : v.WellFormed) (h : satisfies (span labels) v = true) :
    ∃ ms start finish ss, v = .object ms ∧ Dict.get? ms "start" = some start ∧
      Dict.get? ms "end" = some finish ∧ Dict.get? ms "labels" = some (.strings ss) ∧
        IsNonNegative start ∧ IsNonNegative finish ∧ (∀ s ∈ ss, labels = [] ∨ s ∈ labels) ∧
          HasUnlessNull (Dict.get? ms) "text" IsString := by
  rw [span, satisfies_record (by simp [type]), satisfies_typed, hasType_object,
    List.forall_mem_cons, List.forall_mem_singleton, satisfiesKeyword_properties (by simp)] at h
  obtain ⟨⟨ms, rfl⟩, hproperties, hrequired⟩ := h
  simp only [List.forall_mem_cons] at hproperties
  obtain ⟨hstart, hend, hlabels, htext, -⟩ := hproperties
  rw [satisfiesKeyword_required] at hrequired
  obtain ⟨start, hs⟩ := hrequired "start" (by decide)
  obtain ⟨finish, hf⟩ := hrequired "end" (by decide)
  obtain ⟨list, hl⟩ := hrequired "labels" (by decide)
  obtain ⟨ss, rfl, hss⟩ := listOf_stringEnum.1 (satisfies_record_arrayOf.1 (hlabels list hl))
  refine ⟨ms, start, finish, ss, rfl, hs, hf, hl, ?_, ?_, hss, fun w hw => .inr ?_⟩
  · exact isNonNegative_of_satisfies (hv.member hs) (hstart start hs)
  · exact isNonNegative_of_satisfies (hv.member hf) (hend finish hf)
  · exact satisfies_string.1 (htext w hw)

end Schema

end Labeling
