import Labeling.Proofs.Interface.Held
import Labeling.Proofs.Scan.Occurrence
import Labeling.Proofs.Scan.Reading

namespace Labeling

open Xml (Element Document)

namespace Scan

variable {s : String} {ss : List String}

theorem mem_of_two_le_count (h : 2 ≤ ss.count s) : s ∈ ss :=
  List.one_le_count_iff.1 (Nat.le_of_succ_le h)

theorem count_map_of_injOn {f : String → String}
    (hf : ∀ a ∈ ss, ∀ b ∈ ss, f a = f b → a = b) (hs : s ∈ ss) :
    (ss.map f).count (f s) = ss.count s := by
  rw [List.count, List.countP_map, List.count]
  apply List.countP_congr
  intro t ht
  rw [Function.comp_apply, beq_iff_eq, beq_iff_eq]
  exact ⟨hf t ht s hs, congrArg f⟩

/-- Whether a search of the text of a config finds the names that its elements carry, and what is
written in different ways is different. -/
structure PlainNames (config : String) : Prop where
  plain : Plain "name" config
  uniform : ∀ a ∈ names (stripComments config), ∀ b ∈ names (stripComments config),
    decoded a = decoded b → a = b

instance : DecidablePred PlainNames := fun _ =>
  decidable_of_iff (_ ∧ _) ⟨fun h => ⟨h.1, h.2⟩, fun h => ⟨h.plain, h.uniform⟩⟩

end Scan

def Xml.Element.carriedNames (root : Element) : List String :=
  root.descendants.filterMap (·.attributeDict.get? "name")

/-- The validator fails for repeated names just if some value occurs twice among `ss`, and these
values are what the names that it reports are written for. -/
structure ReportsRepeated (config : String) (decode : String → String) (ss : List String) :
    Prop where
  fails : (∃ names, validate config = .error (.duplicateNames names)) ↔ ∃ s, 2 ≤ ss.count s
  reported : ∀ names, validate config = .error (.duplicateNames names) →
    names.Nodup ∧ ∀ s, s ∈ names.map decode ↔ 2 ≤ ss.count s

namespace Interface

/-- Whether each control and each object that an element defines is held, in document order. -/
structure HoldsAll (registry : Registry) (root : Element) (li : Interface) : Prop where
  controls : ∃ leaves : ControlTag → List LabelLeaf, li.controls.tags =
    (controlTags registry root).map fun c => link li.objects (leaves c) c
  objects : li.objects.tags = objectTags registry root

variable {registry : Registry} {config : String} {doc : Document}

theorem sublist_carriedNames {α : Type} [Named α] {defines : Element → Bool} (tag : Element → α)
    (hname : ∀ d, defines d = true → d.attributeDict.get? "name" = some (Named.name (tag d)))
    (root : Element) :
    (((root.descendants.filter defines).map tag).map Named.name).Sublist root.carriedNames := by
  have hnames : ((root.descendants.filter defines).map tag).map Named.name =
      (root.descendants.filter defines).filterMap (·.attributeDict.get? "name") := by
    rw [List.map_map, ← List.filterMap_eq_map]
    apply List.filterMap_congr
    intro d hd
    exact (hname d (List.mem_filter.1 hd).2).symm
  rw [hnames]
  exact List.filter_sublist.filterMap _

theorem holdsAll_ofDocument (h : doc.root.carriedNames.Nodup) :
    HoldsAll registry doc.root (ofDocument registry config doc) := by
  constructor
  · have hnames : ((controlTags registry doc.root).map Named.name).Nodup :=
      (sublist_carriedNames (controlTag registry)
        (fun d hd => get?_name_of_isControl hd registry) doc.root).nodup h
    have htags : (Collected.ofRoot registry doc.root).controls.tags =
        controlTags registry doc.root := by
      rw [Collected.controls_ofRoot]
      exact TagMap.coherent_empty.tags_foldl_insert hnames
    exact ⟨_, congrArg (List.map _) htags⟩
  · have hnames : ((objectTags registry doc.root).map Named.name).Nodup :=
      (sublist_carriedNames (objectTag registry)
        (fun d hd => get?_name_of_definesObject hd registry) doc.root).nodup h
    have htags : (Collected.ofRoot registry doc.root).objects.tags =
        objectTags registry doc.root := by
      rw [Collected.objects_ofRoot]
      exact TagMap.coherent_empty.tags_foldl_insert hnames
    exact htags

end Interface

theorem mem_duplicateNames {s : String} {text : List Char} :
    s ∈ Scan.duplicateNames text ↔ 2 ≤ (Scan.names text).count s := by
  rw [(Scan.lists_duplicateNames text).mem, true_and]
  exact Iff.rfl

section

variable {config : String} {doc : Document}

theorem reportsRepeated_of_mem_map {decode : String → String} {ss : List String}
    (hread : Document.read? config = some doc) (hok : (Grammar.checkDocument doc).isOk = true)
    (hmem : ∀ s, s ∈ (Scan.duplicateNames (Scan.stripComments config)).map decode ↔
      2 ≤ ss.count s) : ReportsRepeated config decode ss := by
  have hverdict (names : List String) : validate config = .error (.duplicateNames names) ↔
      Scan.duplicateNames (Scan.stripComments config) ≠ [] ∧
        names = Scan.duplicateNames (Scan.stripComments config) := by
    rw [validate_of_read hread, verdict_eq_duplicateNames, and_iff_right hok]
  constructor
  · simp only [hverdict, exists_and_left, exists_eq, and_true, ← hmem]
    rw [ne_eq, ← List.map_eq_nil_iff (f := decode), List.eq_nil_iff_forall_not_mem, not_forall_not]
  · intro names hnames
    obtain ⟨-, rfl⟩ := (hverdict names).1 hnames
    exact ⟨(Scan.lists_duplicateNames _).nodup, hmem⟩

theorem Scan.PlainNames.carriedNames (h : PlainNames config)
    (hread : Document.read? config = some doc) :
    doc.root.carriedNames = (names (stripComments config)).map decoded :=
  h.plain.values isWord_name hread

theorem Scan.PlainNames.mem_map_decoded (h : PlainNames config)
    (hread : Document.read? config = some doc) (name : String) :
    name ∈ (duplicateNames (stripComments config)).map decoded ↔
      2 ≤ doc.root.carriedNames.count name := by
  rw [h.carriedNames hread, List.mem_map]
  constructor
  · rintro ⟨s, hs, rfl⟩
    have hcount := mem_duplicateNames.1 hs
    rwa [count_map_of_injOn h.uniform (mem_of_two_le_count hcount)]
  · intro hcount
    obtain ⟨s, hs, rfl⟩ := List.mem_map.1 (mem_of_two_le_count hcount)
    rw [count_map_of_injOn h.uniform hs] at hcount
    exact ⟨s, mem_duplicateNames.2 hcount, rfl⟩

/-- The validator reports the values that its search finds twice. In a plain text these are the
names that two elements carry, and if there are none, no control and no object is left out. -/
theorem reportsRepeated_of_read (hread : Document.read? config = some doc)
    (hok : (Grammar.checkDocument doc).isOk = true) :
    ReportsRepeated config id (Scan.names (Scan.stripComments config)) ∧
      (Scan.PlainNames config → ReportsRepeated config Scan.decoded doc.root.carriedNames ∧
        (validate config = .ok () → ∀ registry li, Interface.parseWith registry config = .ok li →
          li.HoldsAll registry doc.root)) := by
  constructor
  · refine reportsRepeated_of_mem_map hread hok fun s => ?_
    rw [List.map_id, mem_duplicateNames]
  · intro hplain
    have hmem := hplain.mem_map_decoded hread
    refine ⟨reportsRepeated_of_mem_map hread hok hmem, fun hvalid registry li hparse => ?_⟩
    obtain ⟨doc', hread', rfl⟩ := Interface.parseWith_eq_ok.1 hparse
    cases hread'.symm.trans hread
    obtain ⟨-, -, -, hnone, -⟩ := validate_eq_ok.1 hvalid
    apply Interface.holdsAll_ofDocument
    rw [List.nodup_iff_count]
    intro name
    rw [hnone] at hmem
    exact Nat.le_of_lt_succ (Nat.lt_of_not_le fun htwo => List.not_mem_nil ((hmem name).2 htwo))

end

theorem reportsRepeated_of_read_texts : ∃ config doc, Document.read? config = some doc ∧
    (Grammar.checkDocument doc).isOk = true ∧ Scan.PlainNames config ∧
    ReportsRepeated config Scan.decoded doc.root.carriedNames ∧
    2 ≤ doc.root.carriedNames.count "t" := by
  let first : Element := .element "Text" [⟨none, "name", "t"⟩, ⟨none, "value", "$a"⟩] [] []
  let second : Element := .element "Text" [⟨none, "value", "$b"⟩, ⟨none, "name", "t"⟩] [] []
  have hread : Document.read?
      "<View><Text name='t' value='$a'/><!-- x --><Text value='$b' name = \"t\"/></View>" =
      some ⟨[], .element "View" [] [] [first, second]⟩ := rfl
  have hok : (Grammar.checkDocument ⟨[], .element "View" [] [] [first, second]⟩).isOk = true := by
    decide +kernel
  have hplain : Scan.PlainNames
      "<View><Text name='t' value='$a'/><!-- x --><Text value='$b' name = \"t\"/></View>" := by
    decide +kernel
  exact ⟨_, _, hread, hok, hplain, ((reportsRepeated_of_read hread hok).2 hplain).1,
    by decide +kernel⟩

/-- The validator does not report the names that two elements carry: it takes text for the name of
an element, and does not see that a reference stands for a name that is there already. -/
theorem not_reportsRepeated :
    (∃ config doc, Document.read? config = some doc ∧
      (Grammar.checkDocument doc).isOk = true ∧
      validate config = .error (.duplicateNames ["t"]) ∧
      ∀ name, ¬2 ≤ doc.root.carriedNames.count name) ∧
    ∃ config doc, Document.read? config = some doc ∧ validate config = .ok () ∧
      2 ≤ doc.root.carriedNames.count "t" := by
  constructor
  · let text : Element := .element "Text" [⟨none, "name", "t"⟩, ⟨none, "value", "$a"⟩] [] []
    let root : Element := .element "View" [] ["call it name='t'"] [text]
    have hread : Document.read? "<View>call it name='t'<Text name='t' value='$a'/></View>" =
        some ⟨[], root⟩ := rfl
    have hok : (Grammar.checkDocument ⟨[], root⟩).isOk = true := by decide +kernel
    have hfound : Scan.duplicateNames (Scan.stripComments
        "<View>call it name='t'<Text name='t' value='$a'/></View>") = ["t"] := by decide +kernel
    refine ⟨_, _, hread, hok, ?_, fun name htwo => ?_⟩
    · rw [validate_of_read hread, verdict_eq_duplicateNames, hfound]
      exact ⟨hok, List.cons_ne_nil _ _, rfl⟩
    · exact absurd (Nat.le_trans htwo List.count_le_length) (by decide +kernel)
  · let first : Element := .element "Text" [⟨none, "name", "t"⟩, ⟨none, "value", "$a"⟩] [] []
    let second : Element := .element "Text" [⟨none, "name", "t"⟩, ⟨none, "value", "$b"⟩] [] []
    have hvalid : validate
        "<View><Text name='t' value='$a'/><Text name='&#116;' value='$b'/></View>" = .ok () :=
      isOk_eq_true.1 (by decide +kernel)
    have hread : Document.read?
        "<View><Text name='t' value='$a'/><Text name='&#116;' value='$b'/></View>" =
        some ⟨[], .element "View" [] [] [first, second]⟩ := rfl
    exact ⟨_, _, hread, hvalid, by decide +kernel⟩

end Labeling
