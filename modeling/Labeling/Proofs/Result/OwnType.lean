import Labeling.Interface.Parse
import Labeling.Proofs.Result.Clean

namespace Labeling

inductive ControlTag.Builds (c : ControlTag) : Region → Prop
  | regionOn (id target : String) (value : Json) : Builds c (c.regionOn id target value)
  | region (id : String) (value : Json) : Builds c (c.region id value)
  | label (id : String) (labels : List String) : Builds c (c.label id labels)

theorem ControlTag.Builds.names {c : ControlTag} {r : Region} (h : c.Builds r) :
    r.fromName = c.name ∧ r.type = Text.lower c.kind := by
  cases h <;> exact ⟨rfl, rfl⟩

namespace Interface

variable {li : Interface} {c : ControlTag} {e : ResultEntry} {r : Region}

/-- Only where the control and the object are found are the types compared. -/
theorem checkEntry_typeMismatch_iff {fromName toName type : String}
    (hfrom : e.fromName = some fromName) (hto : e.toName = some toName) (htype : e.type = some type)
    (hcontrol : li.controls.get? fromName = some c) :
    (∃ f, li.checkEntry e = .error f ∧ f.code = .typeMismatch) ↔
      li.objects.contains toName = true ∧ ¬Text.sameIgnoringCase type c.kind = true := by
  rw [checkEntry, hfrom, hto, htype]
  simp only [need, hcontrol, bind, Except.bind]
  cases li.objects.contains toName with
  | false => simp [must]
  | true =>
      cases Text.sameIgnoringCase type c.kind with
      | false => simp [must]
      | true =>
          -- What is checked after the type has codes of its own.
          cases c.targets.contains toName with
          | false => simp [must]
          | true =>
              cases e.value with
              | none => simp [must]
              | some v =>
                  cases hvalue : c.checkValue v with
                  | ok => simp [must, hvalue, pure, Except.pure]
                  | error fault =>
                      simp [must, hvalue, throw, throwThe, MonadExceptOf.throw]

theorem checkRegion_toJson_typeMismatch_iff (hcontrol : li.controls.get? r.fromName = some c) :
    (∃ i, li.checkRegion r.toJson = .error i ∧ i.code = .typeMismatch) ↔
      li.objects.contains r.toName = true ∧ ¬Text.sameIgnoringCase r.type c.kind = true := by
  obtain ⟨value, hvalue⟩ := RecordDecoder.exists_build_optional_any "value"
    (Dict.get? (Dict.ofList (r.members ++ r.score.toList.map fun x => ("score", .ofBinary64 x))))
  obtain ⟨e, hentry, hfrom, hto, htype⟩ : ∃ e, ResultEntry.ofJson r.toJson = .ok e ∧
      e.fromName = some r.fromName ∧ e.toName = some r.toName ∧ e.type = some r.type :=
    ⟨_, Region.ofJson_toJson_of_value hvalue, rfl, rfl, rfl⟩
  rw [← checkEntry_typeMismatch_iff hfrom hto htype hcontrol, checkRegion, checkRegionAt, hentry]
  cases hfinding : li.checkEntry e with
  | ok => simp [hfinding, Except.mapError]
  | error f => simp [hfinding, Except.mapError, Finding.issue, Issue.error]

/-- Of the regions that a control makes, on whatever target and with whatever value, the check finds
the type wrong exactly when the target is an object and the name of the control's element has a
character outside of ASCII that is not its own lower-case form. -/
theorem checkRegion_typeMismatch_iff (hli : li.Reachable) (hc : c ∈ li.controls.tags)
    (hr : c.Builds r) : (∃ i, li.checkRegion r.toJson = .error i ∧ i.code = .typeMismatch) ↔
      li.objects.contains r.toName = true ∧ ∃ x ∈ c.kind.toList, ¬Text.KeepsForm x := by
  obtain ⟨hname, htype⟩ := hr.names
  have hcontrol : li.controls.get? r.fromName = some c := by
    rw [hname]
    exact hli.linked.get?_name hc
  rw [checkRegion_toJson_typeMismatch_iff hcontrol, htype, Text.sameIgnoringCase_lower_iff]
  simp

theorem checkRegion_typeMismatch_iff_lower : ∃ li c,
    parse "<View><Text name='t' value='$x'/><Catégorie name='c' toName='t'/></View>" = .ok li ∧
    c ∈ li.controls.tags ∧ c.kind = "Catégorie" ∧ (∀ x ∈ c.kind.toList, Text.KeepsForm x) ∧
    ∀ r, c.Builds r → ¬∃ i, li.checkRegion r.toJson = .error i ∧ i.code = .typeMismatch := by
  have hcheck : ((parse
      "<View><Text name='t' value='$x'/><Catégorie name='c' toName='t'/></View>").toOption.any
      fun li => li.controls.tags.any fun c => c.kind == "Catégorie") = true := by
    decide +kernel
  obtain ⟨li, hli, hcheck⟩ := (Option.any_eq_true _ _).1 hcheck
  obtain ⟨c, hc, hkind⟩ := List.any_eq_true.1 hcheck
  have hparse := toOption_eq_some.1 hli
  have hkeeps : ∀ x ∈ c.kind.toList, Text.KeepsForm x := by
    rw [beq_iff_eq.1 hkind, ← Text.sameIgnoringCase_lower_iff]
    decide +kernel
  refine ⟨li, c, hparse, hc, beq_iff_eq.1 hkind, hkeeps, fun r hr hmismatch => ?_⟩
  obtain ⟨-, x, hx, hform⟩ := (checkRegion_typeMismatch_iff (.parsed hparse) hc hr).1 hmismatch
  exact hform (hkeeps x hx)

/-- A region is refused for its type although a control of the interface has made it. -/
theorem ownType_refused : ∃ li c r,
    parse "<View><Text name='t' value='$x'/><Étiquette name='e' toName='t'/></View>" = .ok li ∧
    c ∈ li.controls.tags ∧ c.Builds r ∧
    ∃ i, li.checkRegion r.toJson = .error i ∧ i.code = .typeMismatch := by
  have hcheck : ((parse
      "<View><Text name='t' value='$x'/><Étiquette name='e' toName='t'/></View>").toOption.any
      fun li => li.controls.tags.any fun c =>
        (issueOf (li.checkRegion (c.region "r" (.record [])).toJson)).any
          fun i => i.code == .typeMismatch) = true := by
    decide +kernel
  obtain ⟨li, hli, hcheck⟩ := (Option.any_eq_true _ _).1 hcheck
  obtain ⟨c, hc, hcheck⟩ := List.any_eq_true.1 hcheck
  obtain ⟨i, hi, hcode⟩ := (Option.any_eq_true _ _).1 hcheck
  refine ⟨li, c, _, toOption_eq_some.1 hli, hc, .region "r" (.record []), i, ?_, beq_iff_eq.1 hcode⟩
  cases hregion : li.checkRegion (c.region "r" (.record [])).toJson with
  | ok => rw [hregion] at hi; cases hi
  | error j =>
      rw [hregion] at hi
      cases hi
      rfl

end Interface

end Labeling
