import Labeling.Proofs.Grammar.Walk
import Labeling.Proofs.Tag.Registry
import Labeling.Proofs.Xml.Alike

namespace Labeling

theorem exists_mem_iff_of_forall₂ {α β : Type} {R : α → β → Prop} {p : α → Prop} {q : β → Prop}
    {xs : List α} {ys : List β} (h : List.Forall₂ R xs ys) (hpq : ∀ x y, R x y → (p x ↔ q y)) :
    (∃ x ∈ xs, p x) ↔ ∃ y ∈ ys, q y := by
  induction h with
  | nil => simp
  | cons hxy _ ih =>
      rw [List.exists_mem_cons_iff, List.exists_mem_cons_iff, hpq _ _ hxy, ih]

theorem countP_flatMap_of_forall₂ {α β γ δ : Type} {R : α → β → Prop} {f : α → List γ}
    {g : β → List δ} {p : γ → Bool} {q : δ → Bool} {xs : List α} {ys : List β}
    (h : List.Forall₂ R xs ys) (hfg : ∀ x y, R x y → (f x).countP p = (g y).countP q) :
    (xs.flatMap f).countP p = (ys.flatMap g).countP q := by
  induction h with
  | nil => rfl
  | cons hxy _ ih =>
      rw [List.flatMap_cons, List.flatMap_cons, List.countP_append, List.countP_append,
        hfg _ _ hxy, ih]

namespace Grammar

open Xml (Element Document)

def IsBuiltin (name : String) : Prop :=
  ControlKind.ofLowerName? (Text.lowerAscii name) ≠ none ∨
    ObjectKind.ofLowerName? (Text.lowerAscii name) ≠ none

instance : DecidablePred IsBuiltin := fun _ => inferInstanceAs (Decidable (_ ∨ _))

theorem IsBuiltin.isAscii {name : String} (h : IsBuiltin name) : Text.IsAscii name := by
  rcases h with hcontrol | hobject
  · obtain ⟨k, hk⟩ := Option.ne_none_iff_exists'.1 hcontrol
    exact isAscii_of_control hk
  · obtain ⟨k, hk⟩ := Option.ne_none_iff_exists'.1 hobject
    exact isAscii_of_object hk

def Respelled (name name' : String) : Prop :=
  name = name' ∨ IsBuiltin name ∧ Text.lowerAscii name = Text.lowerAscii name'

instance (name name' : String) : Decidable (Respelled name name') :=
  inferInstanceAs (Decidable (_ ∨ _))

namespace Respelled

variable {name name' : String} (h : Respelled name name')

include h

theorem lowerAscii_eq : Text.lowerAscii name = Text.lowerAscii name' := by
  rcases h with rfl | ⟨-, h⟩
  · rfl
  · exact h

theorem eq_iff {other : String} (hother : ¬IsBuiltin other) : name = other ↔ name' = other := by
  rcases h with rfl | ⟨hbuiltin, h⟩
  · exact Iff.rfl
  · constructor
    · rintro rfl
      exact absurd hbuiltin hother
    · rintro rfl
      rw [IsBuiltin, h] at hbuiltin
      exact absurd hbuiltin hother

theorem lower_eq : Text.lower name = Text.lower name' := by
  rcases h with rfl | ⟨hbuiltin, h⟩
  · rfl
  · have hbuiltin' : IsBuiltin name' := by rwa [IsBuiltin, h] at hbuiltin
    rw [Text.lower_of_ascii hbuiltin.isAscii, Text.lower_of_ascii hbuiltin'.isAscii, h]

end Respelled

theorem not_isBuiltin_leaf : ∀ leaf ∈ LabelLeaf.kinds, ¬IsBuiltin leaf := by
  decide +kernel

/-- The names that some rule asks for in just this spelling. -/
def spelledNames : List String :=
  enumRules.map EnumRule.kind ++ numberRules.filterMap NumberRule.kind
    ++ orderRules.map OrderRule.kind ++ ["Choices", "Taxonomy", "Relations"]

def spelledCodes : List IssueCode :=
  [.misplacedLeaf, .invalidEnumValue, .invalidNumber, .outOfRange, .invalidRangeOrder]

/-- The names differ at most in the letter case of a built-in name, and no rule asks for the
spelling of one of them and not of the other. -/
def PlainlyRespelled (name name' : String) : Prop :=
  Respelled name name' ∧ ∀ spelled ∈ spelledNames, (name = spelled ↔ name' = spelled)

instance (name name' : String) : Decidable (PlainlyRespelled name name') :=
  inferInstanceAs (Decidable (_ ∧ _))

namespace Spot

/-- The spots are at one place of trees whose names are related by `N`. -/
structure Renamed (N : String → String → Prop) (s s' : Spot) : Prop where
  ancestors : List.Forall₂ (Element.Renamed N) s.ancestors s'.ancestors
  element : Element.Renamed N s.element s'.element

namespace Renamed

variable {N : String → String → Prop} {s s' : Spot}

section

variable (h : Spot.Renamed N s s')

include h

theorem value?_eq (key : String) : s.value? key = s'.value? key := by
  rw [value?, value?, Element.attributeDict, h.element.attributes]
  rfl

theorem judged_eq (key : String) (f : String → List Violation) :
    s.judged key f = s'.judged key f := by
  rw [judged, judged, h.value?_eq]

theorem numbers_eq (keys : List String) : s.numbers keys = s'.numbers keys := by
  simp only [numbers, h.value?_eq]

theorem blankNames_eq : s.blankNames = s'.blankNames := by
  simp only [blankNames, h.judged_eq]

theorem wrongBooleans_eq : s.wrongBooleans = s'.wrongBooleans := by
  simp only [wrongBooleans, h.judged_eq]

end

section

variable (hN : ∀ name name', N name name' → Respelled name name') (h : Spot.Renamed N s s')

include hN h

theorem control?_eq : s.control? = s'.control? :=
  congrArg ControlKind.ofLowerName? (hN _ _ h.element.name).lowerAscii_eq

theorem object?_eq : s.object? = s'.object? :=
  congrArg ObjectKind.ofLowerName? (hN _ _ h.element.name).lowerAscii_eq

theorem kind_eq_iff {leaf : String} (hleaf : leaf ∈ LabelLeaf.kinds) :
    s.kind = leaf ↔ s'.kind = leaf :=
  (hN _ _ h.element.name).eq_iff (not_isBuiltin_leaf leaf hleaf)

theorem holds_iff {leaf : String} (hleaf : leaf ∈ LabelLeaf.kinds) :
    s.Holds leaf ↔ s'.Holds leaf := by
  have hinside := List.rel_flatMap h.element.children fun _ _ hc => hc.descendants
  exact exists_mem_iff_of_forall₂ hinside fun d d' hd =>
    (hN _ _ hd.name).eq_iff (not_isBuiltin_leaf leaf hleaf)

theorem missingAttributes_eq : s.missingAttributes = s'.missingAttributes := by
  simp only [missingAttributes, h.control?_eq hN, h.object?_eq hN, h.value?_eq]

theorem emptyLeaf_eq : s.emptyLeaf = s'.emptyLeaf := by
  have hkind : s.kind ∈ LabelLeaf.kinds ↔ s'.kind ∈ LabelLeaf.kinds := by
    constructor
    · intro hmem
      rwa [(h.kind_eq_iff hN hmem).1 rfl]
    · intro hmem
      rwa [(h.kind_eq_iff hN hmem).2 rfl]
  simp only [emptyLeaf, hkind, h.value?_eq]

theorem missingLeaves_eq : s.missingLeaves = s'.missingLeaves := by
  have hdynamic : s.Dynamic ↔ s'.Dynamic := by
    simp only [Dynamic, h.value?_eq]
  have hleaf : ∀ control leaf, leafKind? control = some leaf → leaf ∈ LabelLeaf.kinds := by
    intro control leaf hleaf
    cases control <;> cases hleaf <;> decide
  rw [missingLeaves, missingLeaves, h.control?_eq hN]
  cases s'.control? with
  | none => rfl
  | some control =>
      cases hcontrol : leafKind? control with
      | none => simp [hcontrol]
      | some leaf =>
          have hholds := h.holds_iff hN (hleaf control leaf hcontrol)
          simp [hcontrol, hdynamic, hholds]

end

end Renamed

theorem mem_given {p : Prop} [Decidable p] {v w : Violation} : v ∈ given p w ↔ p ∧ v = w := by
  unfold given
  split <;> simp_all

section

variable {s : Spot} {v : Violation}

theorem code_of_misplacement (h : v ∈ s.misplacement) : v.code = .misplacedLeaf := by
  obtain ⟨home, -, hv⟩ := List.mem_flatMap.1 h
  obtain ⟨-, rfl⟩ := mem_given.1 hv
  rfl

theorem exists_of_mem_judged {key : String} {f : String → List Violation}
    (h : v ∈ s.judged key f) : ∃ written, v ∈ f written := by
  rw [judged] at h
  cases hvalue : s.value? key with
  | none => rw [hvalue] at h; cases h
  | some written => rw [hvalue] at h; exact ⟨written, h⟩

theorem code_of_wrongEnums (h : v ∈ s.wrongEnums) : v.code = .invalidEnumValue := by
  obtain ⟨r, -, hv⟩ := List.mem_flatMap.1 h
  obtain ⟨written, hv⟩ := exists_of_mem_judged hv
  obtain ⟨-, rfl⟩ := mem_given.1 hv
  rfl

theorem code_of_wrongNumbers (h : v ∈ s.wrongNumbers) :
    v.code = .invalidNumber ∨ v.code = .outOfRange := by
  obtain ⟨r, -, hv⟩ := List.mem_flatMap.1 h
  obtain ⟨written, hv⟩ := exists_of_mem_judged hv
  rw [numberViolations] at hv
  split at hv
  · rw [List.mem_singleton.1 hv]
    exact .inl rfl
  · split at hv
    · rw [List.mem_singleton.1 hv]
      exact .inl rfl
    · obtain ⟨-, rfl⟩ := mem_given.1 hv
      exact .inr rfl

theorem code_of_wrongOrders (h : v ∈ s.wrongOrders) : v.code = .invalidRangeOrder := by
  obtain ⟨r, -, hv⟩ := List.mem_flatMap.1 h
  obtain ⟨⟨low, high⟩, -, hv⟩ := List.mem_flatMap.1 hv
  obtain ⟨-, rfl⟩ := mem_given.1 hv
  rfl

end

namespace Renamed

variable {s s' : Spot}

theorem countP_code (h : Spot.Renamed Respelled s s') {code : IssueCode}
    (hcode : code ∉ spelledCodes) :
    s.violations.countP (fun v => v.code == code) =
      s'.violations.countP fun v => v.code == code := by
  have hzero : ∀ vs : List Violation, (∀ v ∈ vs, v.code ∈ spelledCodes) →
      vs.countP (fun v => v.code == code) = 0 := by
    intro vs hvs
    apply List.countP_eq_zero.2
    intro v hv hsame
    exact hcode (beq_iff_eq.1 hsame ▸ hvs v hv)
  have hsplit : ∀ t : Spot, t.violations.countP (fun v => v.code == code) =
      (t.missingAttributes ++ t.blankNames ++ t.emptyLeaf ++ t.missingLeaves
        ++ t.wrongBooleans).countP fun v => v.code == code := by
    intro t
    have hplace := hzero t.misplacement fun v hv => by simp [code_of_misplacement hv, spelledCodes]
    have henum := hzero t.wrongEnums fun v hv => by simp [code_of_wrongEnums hv, spelledCodes]
    have hnumber := hzero t.wrongNumbers fun v hv => by
      rcases code_of_wrongNumbers hv with hv | hv <;> simp [hv, spelledCodes]
    have horder := hzero t.wrongOrders fun v hv => by simp [code_of_wrongOrders hv, spelledCodes]
    simp only [violations, List.countP_append, hplace, henum, hnumber, horder, Nat.zero_add,
      Nat.add_zero]
  rw [hsplit, hsplit, h.missingAttributes_eq fun _ _ => id, h.blankNames_eq,
    h.emptyLeaf_eq fun _ _ => id, h.missingLeaves_eq fun _ _ => id, h.wrongBooleans_eq]

section

variable (h : Spot.Renamed PlainlyRespelled s s')

include h

theorem kind_eq_spelled_iff {spelled : String} (hspelled : spelled ∈ spelledNames) :
    s.kind = spelled ↔ s'.kind = spelled :=
  h.element.name.2 spelled hspelled

theorem misplacement_eq : s.misplacement = s'.misplacement := by
  have hleaf : ∀ home ∈ homes, home.leaf ∈ LabelLeaf.kinds := by decide
  have hholds : ∀ home ∈ homes, ∀ name name', PlainlyRespelled name name' →
      (home.holds name = true ↔ home.holds name' = true) := by
    rintro home hhome name name' ⟨hname, hspelled⟩
    have hchoices := hspelled "Choices" (by decide)
    have htaxonomy := hspelled "Taxonomy" (by decide)
    have hrelations := hspelled "Relations" (by decide)
    simp only [homes, List.mem_cons, List.not_mem_nil, or_false] at hhome
    rcases hhome with rfl | rfl | rfl
    · simp only [decide_eq_true_iff, hchoices, htaxonomy]
    · simp only [hname.lowerAscii_eq]
    · simp only [decide_eq_true_iff, hrelations]
  have hfilter : (homes.filter fun home => home.leaf == s.kind) =
      homes.filter fun home => home.leaf == s'.kind := by
    apply List.filter_congr
    intro home hhome
    rw [Bool.eq_iff_iff, beq_iff_eq, beq_iff_eq, eq_comm,
      h.kind_eq_iff (fun _ _ => And.left) (hleaf home hhome), eq_comm]
  rw [misplacement, misplacement, hfilter]
  apply List.flatMap_congr
  intro home hhome
  have habove := exists_mem_iff_of_forall₂ h.ancestors fun a a' ha =>
    hholds home (List.mem_filter.1 hhome).1 a.name a'.name ha.name
  simp only [habove]

theorem wrongEnums_eq : s.wrongEnums = s'.wrongEnums := by
  have hfilter : (enumRules.filter fun r => r.kind == s.kind) =
      enumRules.filter fun r => r.kind == s'.kind := by
    apply List.filter_congr
    intro r hr
    have hspelled : r.kind ∈ spelledNames := by
      simp only [spelledNames, List.mem_append]
      exact .inl (.inl (.inl (List.mem_map_of_mem hr)))
    rw [Bool.eq_iff_iff, beq_iff_eq, beq_iff_eq, eq_comm, h.kind_eq_spelled_iff hspelled, eq_comm]
  simp only [wrongEnums, hfilter, h.judged_eq]

theorem wrongNumbers_eq : s.wrongNumbers = s'.wrongNumbers := by
  have hfilter : (numberRules.filter fun r => r.kind.all (· == s.kind)) =
      numberRules.filter fun r => r.kind.all (· == s'.kind) := by
    apply List.filter_congr
    intro r hr
    cases hkind : r.kind with
    | none => rfl
    | some spelled =>
        have hspelled : spelled ∈ spelledNames := by
          simp only [spelledNames, List.mem_append]
          exact .inl (.inl (.inr (List.mem_filterMap.2 ⟨r, hr, hkind⟩)))
        rw [Option.all_some, Option.all_some, Bool.eq_iff_iff, beq_iff_eq, beq_iff_eq, eq_comm,
          h.kind_eq_spelled_iff hspelled, eq_comm]
  simp only [wrongNumbers, hfilter, h.judged_eq]

theorem wrongOrders_eq : s.wrongOrders = s'.wrongOrders := by
  have hfilter : (orderRules.filter fun r => r.kind == s.kind) =
      orderRules.filter fun r => r.kind == s'.kind := by
    apply List.filter_congr
    intro r hr
    have hspelled : r.kind ∈ spelledNames := by
      simp only [spelledNames, List.mem_append]
      exact .inl (.inr (List.mem_map_of_mem hr))
    rw [Bool.eq_iff_iff, beq_iff_eq, beq_iff_eq, eq_comm, h.kind_eq_spelled_iff hspelled, eq_comm]
  simp only [wrongOrders, hfilter, h.numbers_eq]

theorem violations_eq : s.violations = s'.violations := by
  have hN : ∀ name name', PlainlyRespelled name name' → Respelled name name' := fun _ _ => And.left
  rw [violations, violations, h.missingAttributes_eq hN, h.blankNames_eq, h.misplacement_eq,
    h.emptyLeaf_eq hN, h.missingLeaves_eq hN, h.wrongBooleans_eq, h.wrongEnums_eq,
    h.wrongNumbers_eq, h.wrongOrders_eq]

end

end Renamed

end Spot

def violationsIn (e : Element) : List Violation :=
  e.visits.flatMap fun visit => Spot.violations ⟨visit.1, visit.2⟩

theorem countP_checkDocument (f : Severity → IssueCode → Bool) {doc : Document}
    (h : doc.root.Named) :
    (checkDocument doc).issues.countP (fun i => f i.severity i.code) =
      (if doc.root.name = "View" then 0 else if f .error .rootNotView then 1 else 0)
        + (violationsIn doc.root).countP fun v => f v.severity v.code := by
  have hroot : (if doc.root.name = "View" then []
      else [rootIssue ("root element must be <View>, found <" ++ doc.root.name ++ ">")]).countP
        (fun i => f i.severity i.code) =
      if doc.root.name = "View" then 0 else if f .error .rootNotView then 1 else 0 := by
    split
    · rfl
    · exact List.countP_singleton
  have hperm := (doc.root.visitsByName_perm []).flatMap_right fun visit =>
    (Spot.violations ⟨visit.1, visit.2⟩).map (Spot.issue ⟨visit.1, visit.2⟩)
  have hissues : (issuesFrom [] doc.root).countP (fun i => f i.severity i.code) =
      (violationsIn doc.root).countP fun v => f v.severity v.code := by
    rw [issuesFrom, hperm.countP_eq]
    apply countP_flatMap_of_forall₂ (R := Eq) (List.forall₂_refl _)
    rintro visit _ rfl
    rw [List.countP_map]
    rfl
  rw [checkDocument_eq h, documentIssues, List.countP_append, hroot, hissues]

theorem countP_violationsIn {N : String → String → Prop} {e e' : Element}
    (h : Element.Renamed N e e') {p : Violation → Bool}
    (hspot : ∀ s s', Spot.Renamed N s s' → s.violations.countP p = s'.violations.countP p) :
    (violationsIn e).countP p = (violationsIn e').countP p :=
  countP_flatMap_of_forall₂ h.visits fun v v' hv => hspot ⟨v.1, v.2⟩ ⟨v'.1, v'.2⟩ ⟨hv.1, hv.2⟩

/-- Two spellings of one document have as many issues of each kind, but for those that the rules for
the spelling of a name find. If no such rule asks for a name that was spelled otherwise, the
documents have as many errors. The parser takes the elements of both for the same kinds in any case. -/
theorem issues_respelled {config config' : String} {doc doc' : Document}
    (hread : Document.read? config = some doc) (hread' : Document.read? config' = some doc')
    (h : Element.Renamed Respelled doc.root doc'.root) :
    List.Forall₂ (fun e e' => ∀ registry : Registry,
        registry.controlKind e.name = registry.controlKind e'.name ∧
          registry.objectKind e.name = registry.objectKind e'.name)
      doc.root.descendants doc'.root.descendants ∧
    (∀ code, code ∉ spelledCodes →
      (checkDocument doc).issues.countP (fun i => i.code == code) =
        (checkDocument doc').issues.countP fun i => i.code == code) ∧
    (Element.Renamed PlainlyRespelled doc.root doc'.root →
      (checkDocument doc).errorCount = (checkDocument doc').errorCount) := by
  have hnamed := Document.named_of_read hread
  have hnamed' := Document.named_of_read hread'
  have hview : doc.root.name = "View" ↔ doc'.root.name = "View" :=
    h.name.eq_iff (by decide +kernel)
  refine ⟨?_, ?_, ?_⟩
  · refine h.descendants.imp fun e e' he registry => ?_
    rw [Registry.controlKind, Registry.controlKind, Registry.objectKind, Registry.objectKind,
      he.name.lower_eq]
    exact ⟨rfl, rfl⟩
  · intro code hcode
    have hsum := countP_violationsIn h fun s s' hs => hs.countP_code hcode
    rw [countP_checkDocument (fun _ c => c == code) hnamed,
      countP_checkDocument (fun _ c => c == code) hnamed', hsum]
    simp only [hview]
  · intro hplain
    have hsum := countP_violationsIn (p := fun v => v.severity == .error) hplain
      fun s s' hs => by rw [hs.violations_eq]
    rw [Report.errorCount, Report.errorCount, Report.count, Report.count,
      ← List.countP_eq_length_filter, ← List.countP_eq_length_filter,
      countP_checkDocument (fun severity _ => severity == .error) hnamed,
      countP_checkDocument (fun severity _ => severity == .error) hnamed', hsum]
    simp only [hview]

theorem issues_respelled_labels : ∃ config config' doc doc',
    Document.read? config = some doc ∧ Document.read? config' = some doc' ∧
    doc.root.descendants.map Element.name = ["View", "Labels"] ∧
    doc'.root.descendants.map Element.name = ["View", "lABELS"] ∧
    Element.Renamed PlainlyRespelled doc.root doc'.root ∧
    (checkDocument doc).errorCount = 1 ∧ (checkDocument doc').errorCount = 1 ∧
    (checkDocument doc').issues.countP (fun i => i.code == .noLabels) = 1 := by
  let root (name : String) : Element := .element "View" [] []
    [.element name [⟨none, "name", "l"⟩, ⟨none, "toName", "t"⟩, ⟨none, "zoom", "yes"⟩] [] []]
  have hread : Document.read? "<View><Labels name='l' toName='t' zoom='yes'/></View>" =
      some ⟨[], root "Labels"⟩ := rfl
  have hread' : Document.read? "<View><lABELS name='l' toName='t' zoom='yes'/></View>" =
      some ⟨[], root "lABELS"⟩ := rfl
  have hlabels : PlainlyRespelled "Labels" "lABELS" := by decide +kernel
  have hview : PlainlyRespelled "View" "View" := by decide +kernel
  have hplain : Element.Renamed PlainlyRespelled (root "Labels") (root "lABELS") :=
    .element hview (.cons (.element hlabels .nil) .nil)
  have hrespelled : Element.Renamed Respelled (root "Labels") (root "lABELS") :=
    .element hview.1 (.cons (.element hlabels.1 .nil) .nil)
  obtain ⟨-, hcodes, herrors⟩ := issues_respelled hread hread' hrespelled
  refine ⟨_, _, _, _, hread, hread', rfl, rfl, hplain, by decide +kernel, ?_, ?_⟩
  · rw [← herrors hplain]
    decide +kernel
  · rw [← hcodes .noLabels (by decide)]
    decide +kernel

/-- Errors come and go with the spelling of a name: a greatest rating of zero is let through, and a
choice is out of place where it belongs. -/
theorem errorCount_not_respelled :
    (∃ config config' doc doc', Document.read? config = some doc ∧
      Document.read? config' = some doc' ∧ Element.Renamed Respelled doc.root doc'.root ∧
      (checkDocument doc).errorCount = 1 ∧ (checkDocument doc').errorCount = 0) ∧
    ∃ config config' doc doc', Document.read? config = some doc ∧
      Document.read? config' = some doc' ∧ Element.Renamed Respelled doc.root doc'.root ∧
      (checkDocument doc).errorCount = 0 ∧ (checkDocument doc').errorCount = 1 := by
  constructor
  · let root (name : String) : Element := .element "View" [] []
      [.element name [⟨none, "name", "r"⟩, ⟨none, "toName", "t"⟩, ⟨none, "maxRating", "0"⟩] [] []]
    have hread : Document.read? "<View><Rating name='r' toName='t' maxRating='0'/></View>" =
        some ⟨[], root "Rating"⟩ := rfl
    have hread' : Document.read? "<View><rating name='r' toName='t' maxRating='0'/></View>" =
        some ⟨[], root "rating"⟩ := rfl
    have hrenamed : Element.Renamed Respelled (root "Rating") (root "rating") :=
      .element (.inl rfl) (.cons (.element (by decide +kernel) .nil) .nil)
    exact ⟨_, _, _, _, hread, hread', hrenamed, by decide +kernel, by decide +kernel⟩
  · let choice : Element := .element "Choice" [⟨none, "value", "A"⟩] [] []
    let root (name : String) : Element := .element "View" [] []
      [.element name [⟨none, "name", "c"⟩, ⟨none, "toName", "t"⟩] [] [choice]]
    have hread : Document.read?
        "<View><Choices name='c' toName='t'><Choice value='A'/></Choices></View>" =
        some ⟨[], root "Choices"⟩ := rfl
    have hread' : Document.read?
        "<View><choices name='c' toName='t'><Choice value='A'/></choices></View>" =
        some ⟨[], root "choices"⟩ := rfl
    have hchoice : Element.Renamed Respelled choice choice := .element (.inl rfl) .nil
    have hrenamed : Element.Renamed Respelled (root "Choices") (root "choices") :=
      .element (.inl rfl) (.cons (.element (by decide +kernel) (.cons hchoice .nil)) .nil)
    exact ⟨_, _, _, _, hread, hread', hrenamed, by decide +kernel, by decide +kernel⟩

end Grammar

end Labeling
