import Labeling.Proofs.Schema.Fragment

namespace Labeling.ControlTag

open Schema Shape

variable {c : ControlTag} {s v w : Json} {m : Members} {members : List (String × Json)}
  {what : String}

def carrying (c : ControlTag) (v : Json) : List Json :=
  match c.variant with
  | .choices => [.record [("choices", if c.isMultiple then v else .array [v])]]
  | .labels => v.items?.getD []
  | .number => [.record [("number", v)]]
  | .rating => [.record [("rating", v)]]
  | .taxonomy => [.record [("taxonomy", v)]]
  | .textArea => [.record [("text", v)]]
  | .pairwise => [.record [("selected", v)]]
  | _ => []

/-- The value `w` of a result carries `v`, which satisfies the schema. -/
def Describes (c : ControlTag) (v w : Json) : Prop :=
  ∃ s, c.schema = .ok s ∧ satisfies s v = true ∧ w ∈ c.carrying v

/-- What the check wants of the members of a value and the schema does not say: the order of the
ends of a span, that no path is empty, that a rating is written as an integer, and what follows
from bounds that JSON cannot write. -/
def Unsaid (c : ControlTag) (m : Members) : Prop :=
  match c.variant with
  | .labels => ∀ start finish, m "start" = some start → m "end" = some finish →
    Ordered start finish
  | .number => (∀ least ∈ c.number? "min", least ≠ .nan ∧ least ≠ .infinite false) ∧
    ∀ greatest ∈ c.number? "max", greatest ≠ .nan ∧ greatest ≠ .infinite true
  | .rating => Has m "rating" fun v => ∃ n, v = .ofInt n
  | .taxonomy => Has m "taxonomy" fun v => ∃ paths, v = .array paths ∧ .array [] ∉ paths
  | _ => True

theorem mem_keys_stringEnum {labels : List String} {key : String}
    (h : key ∈ ((stringEnum labels).members?.getD []).map Prod.fst) :
    key = "type" ∨ key = "enum" := by
  obtain ⟨e, he, rfl⟩ := Dict.mem_keys_ofList.1 h
  rcases List.mem_append.1 he with he | he
  · exact .inl (congrArg Prod.fst (List.mem_singleton.1 he))
  · split at he
    · cases he
    · exact .inr (congrArg Prod.fst (List.mem_singleton.1 he))

theorem nodup_schemaParts (h : c.schemaParts? = some (members, what)) (d : Json) :
    ((members ++ [("description", d)]).map Prod.fst).Nodup := by
  rw [List.map_append, List.map_singleton, (List.perm_append_singleton _ _).nodup_iff,
    List.nodup_cons]
  cases hkind : c.variant <;> simp only [schemaParts?, hkind, reduceCtorEq] at h <;> cases h
  case choices =>
    split
    · simp [arrayOf, type]
    · constructor
      · have hne : "description" ≠ "type" ∧ "description" ≠ "enum" := by decide
        exact fun hmem => (mem_keys_stringEnum hmem).elim hne.1 hne.2
      · exact (Dict.ofList_sorted _).nodup_keys
  case number =>
    cases c.number? "min" <;> cases c.number? "max" <;> simp [type, bound]
  all_goals simp [arrayOf, type]

theorem satisfies_schema (h : c.schema = .ok s) : ∃ members what,
    c.schemaParts? = some (members, what) ∧
      ∀ v, satisfies s v = true ↔ ∀ e ∈ members, satisfiesKeyword e v = true := by
  rw [schema] at h
  cases hparts : c.schemaParts? with
  | none => rw [hparts] at h; cases h
  | some parts =>
      obtain ⟨members, what⟩ := parts
      rw [hparts] at h
      cases h
      refine ⟨members, what, rfl, fun v => ?_⟩
      rw [satisfies_record (nodup_schemaParts hparts _), List.forall_mem_append,
        List.forall_mem_singleton, satisfiesKeyword_eq_asserts (by decide)]
      exact and_iff_left rfl

theorem member?_field {key : String} : (Json.record [(key, v)]).member? key = some v := if_pos rfl

theorem has_field {key : String} {P : Json → Prop} :
    Has (Json.record [(key, v)]).member? key P ↔ P v := by
  simp [Has, member?_field]

theorem checkValue_field (hv : v.WellFormed) (key : String) :
    c.checkValue (.record [(key, v)]) = .ok () ↔
      IsLabelled c (Json.record [(key, v)]).member? ∧ IsShaped c (Json.record [(key, v)]).member? :=
  checkValue_object_eq_ok (Json.wellFormed_record (List.forall_mem_singleton.2 hv))

theorem isLabelled_iff {key : String} (hkey : c.variant.labelKey? = some key) :
    IsLabelled c m ↔ Has m key (IsLabelList c) := by
  rw [IsLabelled, hkey]
  exact ⟨fun h => h key rfl, fun h k hk => by cases hk; exact h⟩

theorem checkValue_field_of_isLabelFree (hv : v.WellFormed) (key : String)
    (hkey : c.variant.labelKey? = none) :
    c.checkValue (.record [(key, v)]) = .ok () ↔ IsShaped c (Json.record [(key, v)]).member? := by
  rw [checkValue_field hv, IsLabelled, hkey]
  exact and_iff_right nofun

theorem allows_of_listed (hlabels : c.isDynamic = true ∨ c.labels ≠ []) {label : String}
    (h : c.labels = [] ∨ label ∈ c.labels) : Allows c label :=
  hlabels.elim .inl fun hne => .inr (h.resolve_left hne)

theorem isLabelList_strings (hkind : c.variant ≠ .taxonomy)
    (hlabels : c.isDynamic = true ∨ c.labels ≠ []) {ss : List String}
    (h : ∀ s ∈ ss, c.labels = [] ∨ s ∈ c.labels) : IsLabelList c (.strings ss) := by
  rw [IsLabelList, if_neg hkind]
  exact ⟨ss, rfl, fun s hs => allows_of_listed hlabels (h s hs)⟩

-- A schema has null for a bound that is not finite, which bounds nothing.
theorem isRounded_of_number? {key : String} {x : Binary64} (h : c.number? key = some x) :
    x.IsRounded := by
  obtain ⟨text, -, hx⟩ := Option.bind_eq_some_iff.1 h
  exact Numeral.isRounded_of_binary64? hx

theorem satisfiesKeyword_bound {key : String} {x : Binary64}
    (h : ∀ e ∈ bound key (some x), satisfiesKeyword e v = true) (hx : x.isFinite = true) :
    satisfiesKeyword (key, .number (.double x)) v = true := by
  have hbound : satisfiesKeyword (key, .ofBinary64 x) v = true := h _ List.mem_cons_self
  rwa [Json.ofBinary64, if_pos hx] at hbound

theorem le_iff_of_minimum {n : JsonNumber} {x : Binary64} (hn : n.WellFormed)
    (h : ∀ e ∈ bound "minimum" (some x), satisfiesKeyword e (.number n) = true)
    (hx : x.IsRounded) : x ≤ n.toBinary64 ↔ x ≠ .nan ∧ x ≠ .infinite false := by
  apply Binary64.le_iff_of_isFinite hn.isFinite
  intro hfinite
  have hminimum := satisfiesKeyword_bound h hfinite
  rw [satisfiesKeyword_minimum] at hminimum
  exact JsonNumber.le_of_atMost hx hn hminimum

theorem ge_iff_of_maximum {n : JsonNumber} {x : Binary64} (hn : n.WellFormed)
    (h : ∀ e ∈ bound "maximum" (some x), satisfiesKeyword e (.number n) = true)
    (hx : x.IsRounded) : n.toBinary64 ≤ x ↔ x ≠ .nan ∧ x ≠ .infinite true := by
  apply Binary64.ge_iff_of_isFinite hn.isFinite
  intro hfinite
  have hmaximum := satisfiesKeyword_bound h hfinite
  rw [satisfiesKeyword_maximum] at hmaximum
  exact JsonNumber.ge_of_atMost hx hn hmaximum

theorem maxRating_le : c.maxRating ≤ Numeral.greatestInt64 := by
  rw [maxRating]
  cases hread : (c.attributes.get? "maxRating").bind Numeral.int64? with
  | none => decide
  | some n =>
      obtain ⟨text, -, hn⟩ := Option.bind_eq_some_iff.1 hread
      exact (Numeral.binary64?_of_int64? hn).2.1

section

variable (hparts : c.schemaParts? = some (members, what)) (hv : v.WellFormed)
  (h : ∀ e ∈ members, satisfiesKeyword e v = true) (hw : w ∈ c.carrying v)

include hparts hv h hw

theorem checkValue_choices (hkind : c.variant = .choices)
    (hlabels : c.isDynamic = true ∨ c.labels ≠ []) : c.checkValue w = .ok () := by
  obtain ⟨ss, hcarried, hss⟩ : ∃ ss, (if c.isMultiple then v else .array [v]) = .strings ss ∧
      ∀ s ∈ ss, c.labels = [] ∨ s ∈ c.labels := by
    simp only [schemaParts?, hkind] at hparts
    cases hmultiple : c.isMultiple with
    | true =>
        rw [hmultiple, if_pos rfl] at hparts
        cases hparts
        rw [List.forall_mem_append, satisfies_arrayOf] at h
        exact listOf_stringEnum.1 h.1
    | false =>
        rw [hmultiple, if_neg (by decide)] at hparts
        cases hparts
        obtain ⟨s, rfl, hs⟩ := satisfies_stringEnum.1 (satisfiesAll_eq_true.2 h)
        exact ⟨[s], rfl, List.forall_mem_singleton.2 hs⟩
  have hwell : (if c.isMultiple then v else .array [v]).WellFormed := by
    split
    · exact hv
    · exact .array (List.forall_mem_singleton.2 hv)
  simp only [carrying, hkind, List.mem_singleton] at hw
  rw [hw, checkValue_field hwell, isLabelled_iff (by rw [hkind]; rfl)]
  simp only [IsShaped, hkind, has_field, hcarried]
  exact ⟨isLabelList_strings (by rw [hkind]; decide) hlabels hss, ss, rfl⟩

theorem checkValue_labels (hkind : c.variant = .labels)
    (hlabels : c.isDynamic = true ∨ c.labels ≠ []) :
    c.checkValue w = .ok () ↔ c.Unsaid w.member? := by
  simp only [schemaParts?, hkind] at hparts
  cases hparts
  obtain ⟨items, rfl, hitems⟩ := satisfies_arrayOf.1 h
  simp only [carrying, hkind] at hw
  have hwell : w.WellFormed := hv.all_items w hw
  obtain ⟨ms, start, finish, ss, rfl, hs, hf, hl, hstart, hfinish, hss, htext⟩ :=
    span_of_satisfies hwell (hitems w hw)
  have hlist : IsLabelList c (.strings ss) :=
    isLabelList_strings (by rw [hkind]; decide) hlabels hss
  rw [checkValue_object_eq_ok hwell, isLabelled_iff (by rw [hkind]; rfl)]
  simp only [IsShaped, Unsaid, hkind, IsSpan]
  constructor
  · rintro ⟨-, ⟨start', finish', hs', hf', -, -, hordered⟩, -⟩ x y hx hy
    cases hs'.symm.trans hx
    cases hf'.symm.trans hy
    exact hordered
  · intro hordered
    exact ⟨⟨_, hl, hlist⟩, ⟨start, finish, hs, hf, .inl hstart, .inl hfinish,
      hordered start finish hs hf⟩, htext⟩

theorem checkValue_taxonomy (hkind : c.variant = .taxonomy)
    (hlabels : c.isDynamic = true ∨ c.labels ≠ []) :
    c.checkValue w = .ok () ↔ c.Unsaid w.member? := by
  simp only [schemaParts?, hkind] at hparts
  cases hparts
  have hpaths := satisfies_arrayOf.1 h
  simp only [satisfies_record_arrayOf, listOf_stringEnum] at hpaths
  obtain ⟨paths, rfl, hlisted⟩ := listOf_iff_map.1 hpaths
  have hlist : IsLabelList c (.array (paths.map .strings)) := by
    rw [IsLabelList, if_pos hkind]
    exact ⟨paths, rfl, fun path hpath s hs => allows_of_listed hlabels (hlisted path hpath s hs)⟩
  simp only [carrying, hkind, List.mem_singleton] at hw
  rw [hw, checkValue_field hv, isLabelled_iff (by rw [hkind]; rfl)]
  simp only [IsShaped, Unsaid, hkind, IsTaxonomy, has_field]
  constructor
  · rintro ⟨-, paths', hpaths', hempty⟩
    refine ⟨_, hpaths', fun hmem => ?_⟩
    obtain ⟨path, hpath, hnil⟩ := List.mem_map.1 hmem
    cases path with
    | nil => exact hempty hpath
    | cons s path => cases hnil
  · rintro ⟨items, hitems, hempty⟩
    cases hitems
    exact ⟨hlist, paths, rfl, fun hmem => hempty (List.mem_map.2 ⟨[], hmem, rfl⟩)⟩

theorem checkValue_number (hkind : c.variant = .number) :
    c.checkValue w = .ok () ↔ c.Unsaid w.member? := by
  simp only [schemaParts?, hkind] at hparts
  cases hparts
  rw [List.append_assoc, satisfies_typed, hasType_number, List.forall_mem_append] at h
  obtain ⟨⟨n, rfl⟩, hmin, hmax⟩ := h
  simp only [carrying, hkind, List.mem_singleton] at hw
  rw [hw, checkValue_field_of_isLabelFree hv _ (by rw [hkind]; rfl)]
  -- The schema compares `n` itself with the bounds, and the check compares what `n` is rounded to.
  have hleast : (∀ least ∈ c.number? "min", least ≤ n.toBinary64) ↔
      ∀ least ∈ c.number? "min", least ≠ .nan ∧ least ≠ .infinite false :=
    forall₂_congr fun least hl =>
      le_iff_of_minimum hv.ofNumber (hl ▸ hmin) (isRounded_of_number? hl)
  have hgreatest : (∀ greatest ∈ c.number? "max", n.toBinary64 ≤ greatest) ↔
      ∀ greatest ∈ c.number? "max", greatest ≠ .nan ∧ greatest ≠ .infinite true :=
    forall₂_congr fun greatest hg =>
      ge_iff_of_maximum hv.ofNumber (hg ▸ hmax) (isRounded_of_number? hg)
  simp only [IsShaped, Unsaid, hkind, IsNumberIn, has_field]
  rw [← hleast, ← hgreatest]
  constructor
  · rintro ⟨x, ⟨k, hk, rfl⟩, hbounds⟩
    cases hk
    exact hbounds
  · intro hbounds
    exact ⟨_, ⟨n, rfl, rfl⟩, hbounds⟩

theorem checkValue_rating (hkind : c.variant = .rating) :
    c.checkValue w = .ok () ↔ c.Unsaid w.member? := by
  simp only [schemaParts?, hkind] at hparts
  cases hparts
  rw [satisfies_typed, List.forall_mem_cons, List.forall_mem_singleton] at h
  obtain ⟨htype, hmin, hmax⟩ := h
  simp only [carrying, hkind, List.mem_singleton] at hw
  rw [hw, checkValue_field_of_isLabelFree hv _ (by rw [hkind]; rfl)]
  simp only [IsShaped, Unsaid, hkind, IsRating, has_field]
  constructor
  · rintro ⟨n, hn, -⟩
    exact ⟨n, hn⟩
  · rintro ⟨n, rfl⟩
    rw [Json.ofInt, Json.ofInt, satisfiesKeyword_minimum, JsonNumber.atMost_integer] at hmin
    rw [Json.ofInt, Json.ofInt, satisfiesKeyword_maximum, JsonNumber.atMost_integer] at hmax
    exact ⟨n, rfl, hmin, Int.le_trans hmax maxRating_le, Binary64.ofInt_mono_of_nonneg hmin hmax⟩

theorem checkValue_textArea (hkind : c.variant = .textArea) : c.checkValue w = .ok () := by
  simp only [schemaParts?, hkind] at hparts
  cases hparts
  rw [List.forall_mem_singleton, satisfiesKeyword_oneOf] at h
  simp only [carrying, hkind, List.mem_singleton] at hw
  rw [hw, checkValue_field_of_isLabelFree hv _ (by rw [hkind]; rfl)]
  simp only [IsShaped, hkind, IsTextArea, has_field]
  rcases h with ⟨htext, -⟩ | ⟨-, hlist⟩
  · exact .inl (satisfies_string.1 htext)
  · have hstrings : v.ListOf fun w => satisfies (stringEnum []) w = true :=
      satisfies_record_arrayOf.1 hlist
    obtain ⟨ss, hss, -⟩ := listOf_stringEnum.1 hstrings
    exact .inr ⟨ss, hss⟩

theorem checkValue_pairwise (hkind : c.variant = .pairwise) : c.checkValue w = .ok () := by
  simp only [schemaParts?, hkind] at hparts
  cases hparts
  rw [satisfies_typed, List.forall_mem_singleton, satisfiesKeyword_enum] at h
  obtain ⟨-, side, hside, rfl⟩ := h
  simp only [carrying, hkind, List.mem_singleton] at hw
  rw [hw, checkValue_field_of_isLabelFree hv _ (by rw [hkind]; rfl)]
  simp only [IsShaped, hkind, IsPairwise, member?_field]
  rcases List.mem_cons.1 hside with rfl | hside
  · exact .inl rfl
  · cases List.mem_singleton.1 hside
    exact .inr rfl

end

/-- A value that carries what satisfies the schema of a control is accepted just when it has what
the schema leaves unsaid. -/
theorem checkValue_of_describes (hkind : c.variant ≠ .dateTime)
    (hlabels : c.variant.labelKey? = none ∨ c.isDynamic = true ∨ c.labels ≠ [])
    (hv : v.WellFormed) (h : c.Describes v w) :
    c.checkValue w = .ok () ↔ c.Unsaid w.member? := by
  obtain ⟨s, hs, hsatisfied, hw⟩ := h
  obtain ⟨members, what, hparts, hsatisfies⟩ := satisfies_schema hs
  have hmembers := (hsatisfies v).1 hsatisfied
  cases hvariant : c.variant with
  | choices =>
      have hsome := hlabels.resolve_left (by rw [hvariant]; nofun)
      simp only [Unsaid, hvariant, iff_true]
      exact checkValue_choices hparts hv hmembers hw hvariant hsome
  | labels =>
      have hsome := hlabels.resolve_left (by rw [hvariant]; nofun)
      exact checkValue_labels hparts hv hmembers hw hvariant hsome
  | taxonomy =>
      have hsome := hlabels.resolve_left (by rw [hvariant]; nofun)
      exact checkValue_taxonomy hparts hv hmembers hw hvariant hsome
  | number => exact checkValue_number hparts hv hmembers hw hvariant
  | rating => exact checkValue_rating hparts hv hmembers hw hvariant
  | textArea =>
      simp only [Unsaid, hvariant, iff_true]
      exact checkValue_textArea hparts hv hmembers hw hvariant
  | pairwise =>
      simp only [Unsaid, hvariant, iff_true]
      exact checkValue_pairwise hparts hv hmembers hw hvariant
  | dateTime => exact absurd hvariant hkind
  | _ =>
      simp only [carrying, hvariant] at hw
      cases hw

theorem checkValue_of_describes_number :
    let c := ofAttributes "Number" .number [("min", "1.5"), ("name", "n"), ("toName", "t")]
    let w := Json.record [("number", .ofInt 3)]
    (Json.ofInt 3).WellFormed ∧ c.Describes (.ofInt 3) w ∧ c.checkValue w = .ok () := by
  intro c w
  have hv : (Json.ofInt 3).WellFormed := .number ⟨by decide, by decide⟩
  have hsatisfied : (c.schema.toOption.any fun s => satisfies s (.ofInt 3)) = true := by
    decide +kernel
  obtain ⟨s, hs, hsatisfied⟩ := (Option.any_eq_true _ _).1 hsatisfied
  have hdescribes : c.Describes (.ofInt 3) w :=
    ⟨s, toOption_eq_some.1 hs, hsatisfied, List.mem_singleton_self w⟩
  have hleast : ((c.number? "min").all fun x => x != .nan && x != .infinite false) = true := by
    decide +kernel
  have hunsaid : c.Unsaid w.member? := by
    have hgreatest : c.number? "max" = none := by rfl
    constructor
    · intro x hx
      simpa using (Option.all_eq_true _ _).1 hleast x hx
    · rw [hgreatest]
      exact nofun
  have hkind : c.variant ≠ .dateTime := show ControlKind.number ≠ .dateTime from nofun
  exact ⟨hv, hdescribes, (checkValue_of_describes hkind (.inl rfl) hv hdescribes).2 hunsaid⟩

/-- What schemas leave unsaid: the ends of a span in the wrong order, a path with nothing on it, a
rating with a decimal point, and a bound that is not a number. A control that has no labels and
gets none from elsewhere has a schema that allows any. -/
theorem describes_not_accepted :
    let labels := { ofAttributes "Labels" .labels [] with labels := ["A"] }
    let taxonomy := { ofAttributes "Taxonomy" .taxonomy [] with labels := ["A"] }
    let span := Json.record [("start", .ofInt 5), ("end", .ofInt 2), ("labels", .strings ["A"])]
    ∀ e ∈ [(labels, .array [span]), (taxonomy, .array [.array []]),
      (ofAttributes "Rating" .rating [], .number (.double (.ofNat 4))),
      (ofAttributes "Number" .number [("min", "nan")], .ofInt 3),
      (ofAttributes "Choices" .choices [], .string "x")],
      ∃ w, e.1.Describes e.2 w ∧ e.1.checkValue w ≠ .ok () := by
  intro labels taxonomy span e he
  have hcheck : ∀ e ∈ [(labels, Json.array [span]), (taxonomy, .array [.array []]),
      (ofAttributes "Rating" .rating [], .number (.double (.ofNat 4))),
      (ofAttributes "Number" .number [("min", "nan")], .ofInt 3),
      (ofAttributes "Choices" .choices [], .string "x")],
      (e.1.schema.toOption.any fun s => satisfies s e.2) = true ∧
        ((e.1.carrying e.2).any fun w => !(e.1.checkValue w).isOk) = true := by
    decide +kernel
  obtain ⟨hsatisfied, hrefused⟩ := hcheck e he
  obtain ⟨s, hs, hsatisfied⟩ := (Option.any_eq_true _ _).1 hsatisfied
  obtain ⟨w, hw, hrefused⟩ := List.any_eq_true.1 hrefused
  refine ⟨w, ⟨s, toOption_eq_some.1 hs, hsatisfied, hw⟩, fun hok => ?_⟩
  rw [hok] at hrefused
  cases hrefused

end Labeling.ControlTag
