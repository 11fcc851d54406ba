import Labeling.Proofs.Dict
import Labeling.Proofs.Json.WellFormed
import Labeling.Proofs.Number.Rounded
import Labeling.Schema

namespace Labeling

namespace JsonNumber

def units? : JsonNumber → Option Int
  | integer n => some (n * Binary64.one)
  | double (.finite negative units) => some (Binary64.signedUnits negative units)
  | double _ => none

/-- Whether `m ≤ n`, without rounding. -/
def atMost (m n : JsonNumber) : Bool :=
  match m.units?, n.units? with
  | some a, some b => a ≤ b
  | _, _ => false

def isWhole : JsonNumber → Bool
  | integer _ => true
  | double x => x.isWhole

end JsonNumber

namespace Schema

mutual

/-- Equality of values. A number that is written in two ways is still one number. -/
def equal : Json → Json → Bool
  | .null, .null => true
  | .bool a, .bool b => a == b
  | .number m, .number n => m.atMost n && n.atMost m
  | .string s, .string t => s == t
  | .array vs, .array ws => equalItems vs ws
  | .object vs, .object ws => equalMembers vs ws
  | _, _ => false

def equalItems : List Json → List Json → Bool
  | [], [] => true
  | v :: vs, w :: ws => equal v w && equalItems vs ws
  | _, _ => false

def equalMembers : List (String × Json) → List (String × Json) → Bool
  | [], [] => true
  | (k, v) :: vs, (l, w) :: ws => k == l && equal v w && equalMembers vs ws
  | _, _ => false

end

def hasType (type : String) : Json → Bool
  | .null => type == "null"
  | .bool _ => type == "boolean"
  | .number n => type == "number" || type == "integer" && n.isWhole
  | .string _ => type == "string"
  | .array _ => type == "array"
  | .object _ => type == "object"

/-- What a keyword says that holds no schemas. It says something about the values of one type only,
and a keyword that is none of these says nothing. -/
def asserts (keyword : String) (argument v : Json) : Bool :=
  match keyword, argument, v with
  | "type", .string type, v => hasType type v
  | "enum", .array values, v => values.any (equal v)
  | "required", .array keys, .object ms => (keys.filterMap Json.string?).all (Dict.contains ms)
  | "minimum", .number bound, .number n => bound.atMost n
  | "maximum", .number bound, .number n => n.atMost bound
  | "uniqueItems", .bool true, .array items => items.Pairwise fun v w => equal v w = false
  | _, _, _ => true

mutual

/-- Whether a value satisfies a schema, the first argument. -/
def satisfies : Json → Json → Bool
  | .object keywords, v => satisfiesAll keywords v
  | .bool b, _ => b
  | _, _ => false
termination_by structural schema => schema

def satisfiesAll : List (String × Json) → Json → Bool
  | [], _ => true
  | e :: rest, v => satisfiesKeyword e v && satisfiesAll rest v
termination_by structural keywords => keywords

def satisfiesKeyword : String × Json → Json → Bool
  | (keyword, argument), v =>
    if keyword = "items" then (v.items?.getD []).all fun w => satisfies argument w
    else if keyword = "properties" then satisfiesObject argument v
    else if keyword = "oneOf" then satisfiesOne argument v
    else asserts keyword argument v
termination_by structural keyword => keyword

def satisfiesObject : Json → Json → Bool
  | .object properties, v => satisfiesProperties properties v
  | _, _ => true
termination_by structural argument => argument

def satisfiesOne : Json → Json → Bool
  | .array schemas, v => satisfiedCount schemas v == 1
  | _, _ => true
termination_by structural argument => argument

def satisfiesProperties : List (String × Json) → Json → Bool
  | [], _ => true
  | e :: rest, v => satisfiesProperty e v && satisfiesProperties rest v
termination_by structural properties => properties

def satisfiesProperty : String × Json → Json → Bool
  | (key, schema), v => (v.member? key).all fun w => satisfies schema w
termination_by structural property => property

def satisfiedCount : List Json → Json → Nat
  | [], _ => 0
  | schema :: rest, v => (satisfies schema v).toNat + satisfiedCount rest v
termination_by structural schemas => schemas

end

end Schema

namespace JsonNumber

variable {n : JsonNumber} {x : Binary64}

-- A bound that is compared without rounding also holds of the double that a number is read as.
theorem units?_eq_some {z : Int} (hn : n.WellFormed) (h : n.units? = some z) :
    (∃ k : Int, n = integer k ∧ k.natAbs ≤ 2 ^ 64 ∧ z = k * Binary64.one) ∨
      ∃ s m, n = double (.finite s m) ∧ z = Binary64.signedUnits s m := by
  cases n with
  | integer k =>
      obtain ⟨hleast, hgreatest⟩ := hn
      simp only [Numeral.leastInt64, Numeral.greatestUInt64] at hleast hgreatest
      exact .inl ⟨k, rfl, by omega, (Option.some.inj h).symm⟩
  | double y =>
      cases y with
      | finite s m => exact .inr ⟨s, m, rfl, (Option.some.inj h).symm⟩
      | _ => cases h

theorem atMost_eq_true {m n : JsonNumber} :
    m.atMost n = true ↔ ∃ a b, m.units? = some a ∧ n.units? = some b ∧ a ≤ b := by
  rw [atMost]
  cases m.units? with
  | none => simp
  | some a =>
      cases n.units? with
      | none => simp
      | some b => simp

theorem le_of_atMost (hx : x.IsRounded) (hn : n.WellFormed) (h : (double x).atMost n = true) :
    x ≤ n.toBinary64 := by
  obtain ⟨a, b, ha, hb, hle⟩ := atMost_eq_true.1 h
  cases x with
  | finite s m =>
      cases ha
      rcases units?_eq_some hn hb with ⟨k, rfl, hk, rfl⟩ | ⟨t, l, rfl, rfl⟩
      · exact Binary64.le_ofInt hk hx hle
      · exact Binary64.le_finite_iff.2 hle
  | _ => cases ha

theorem ge_of_atMost (hx : x.IsRounded) (hn : n.WellFormed) (h : n.atMost (double x) = true) :
    n.toBinary64 ≤ x := by
  obtain ⟨a, b, ha, hb, hle⟩ := atMost_eq_true.1 h
  cases x with
  | finite s m =>
      cases hb
      rcases units?_eq_some hn ha with ⟨k, rfl, hk, rfl⟩ | ⟨t, l, rfl, rfl⟩
      · exact Binary64.ofInt_le hk hx hle
      · exact Binary64.le_finite_iff.2 hle
  | _ => cases hb

theorem zero_le_of_atMost (hn : n.WellFormed) (h : (integer 0).atMost n = true) :
    .zero ≤ n.toBinary64 := by
  have hzero : (integer 0).units? = (double .zero).units? := congrArg some (Int.zero_mul _)
  rw [atMost, hzero] at h
  exact le_of_atMost (Binary64.isRounded_finite_zero false) hn h

theorem atMost_integer {m n : Int} : (integer m).atMost (integer n) = true ↔ m ≤ n := by
  have hone : (0 : Int) < Binary64.one := Int.natCast_pos.2 Binary64.one_pos
  rw [atMost_eq_true]
  constructor
  · rintro ⟨a, b, ha, hb, hle⟩
    cases ha
    cases hb
    exact Int.le_of_mul_le_mul_right hle hone
  · intro hle
    exact ⟨_, _, rfl, rfl, Int.mul_le_mul_of_nonneg_right hle (Int.le_of_lt hone)⟩

end JsonNumber

namespace Schema

variable {v : Json} {entries : List (String × Json)} {keyword : String} {argument : Json}

theorem satisfiesAll_eq_true {keywords : List (String × Json)} :
    satisfiesAll keywords v = true ↔ ∀ e ∈ keywords, satisfiesKeyword e v = true := by
  induction keywords with
  | nil => simp [satisfiesAll]
  | cons e rest ih => rw [satisfiesAll, Bool.and_eq_true, ih, List.forall_mem_cons]

theorem satisfies_record (h : (entries.map Prod.fst).Nodup) :
    satisfies (.record entries) v = true ↔ ∀ e ∈ entries, satisfiesKeyword e v = true := by
  rw [Json.record, satisfies, satisfiesAll_eq_true]
  simp only [Dict.mem_ofList h]

theorem satisfiesKeyword_eq_asserts (h : keyword ∉ ["items", "properties", "oneOf"]) :
    satisfiesKeyword (keyword, argument) v = asserts keyword argument v := by
  simp only [List.mem_cons, List.not_mem_nil, or_false, not_or] at h
  rw [satisfiesKeyword, if_neg h.1, if_neg h.2.1, if_neg h.2.2]

theorem satisfiesKeyword_items : satisfiesKeyword ("items", argument) v = true ↔
    ∀ w ∈ v.items?.getD [], satisfies argument w = true := by
  rw [satisfiesKeyword, if_pos rfl, List.all_eq_true]

theorem satisfiesProperties_eq_true {properties : List (String × Json)} :
    satisfiesProperties properties v = true ↔
      ∀ e ∈ properties, ∀ w, v.member? e.1 = some w → satisfies e.2 w = true := by
  induction properties with
  | nil => simp [satisfiesProperties]
  | cons e rest ih =>
      rw [satisfiesProperties, Bool.and_eq_true, ih, List.forall_mem_cons, satisfiesProperty,
        Option.all_eq_true]

theorem satisfiesKeyword_properties (h : (entries.map Prod.fst).Nodup) :
    satisfiesKeyword ("properties", .record entries) v = true ↔
      ∀ e ∈ entries, ∀ w, v.member? e.1 = some w → satisfies e.2 w = true := by
  rw [Json.record, satisfiesKeyword, if_neg (by decide), if_pos rfl, satisfiesObject]
  simp only [satisfiesProperties_eq_true, Dict.mem_ofList h]

theorem satisfiesKeyword_oneOf {s t : Json} :
    satisfiesKeyword ("oneOf", .array [s, t]) v = true ↔
      (satisfies s v = true ∧ satisfies t v = false) ∨
        (satisfies s v = false ∧ satisfies t v = true) := by
  rw [satisfiesKeyword, if_neg (by decide), if_neg (by decide), if_pos rfl, satisfiesOne]
  simp only [satisfiedCount]
  cases satisfies s v <;> cases satisfies t v <;> decide

end Schema

end Labeling
