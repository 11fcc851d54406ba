import Labeling.Proofs.Number.Rounded
import Labeling.Proofs.Sample.Prediction
import Labeling.Proofs.Schema.Conforming

namespace Labeling

open Numeral (Denotes int64? leastInt64 greatestInt64)

namespace ControlTag

variable {c : ControlTag} {n r : Int}

def rated (r : Int) : Json := .record [("rating", .ofInt r)]

/-- Ratings are the integers from zero to `n`, by the check of values and by the schema. -/
structure AllowsUpTo (c : ControlTag) (n : Int) : Prop where
  check : ∀ r, leastInt64 ≤ r → r ≤ greatestInt64 →
    (c.checkValue (rated r) = .ok () ↔ 0 ≤ r ∧ r ≤ n)
  schema : ∃ s, c.schema = .ok s ∧ s.member? "maximum" = some (.ofInt n)

theorem checkValue_rated (hc : c.variant = .rating) (hleast : leastInt64 ≤ r)
    (hgreatest : r ≤ greatestInt64) : c.checkValue (rated r) = .ok () ↔
      0 ≤ r ∧ Binary64.ofInt r ≤ .ofInt c.maxRating := by
  have hwell : (Json.ofInt r).WellFormed :=
    .number ⟨hleast, Int.le_trans hgreatest (by decide)⟩
  rw [rated, checkValue_field_of_isLabelFree hwell _ (by rw [hc]; rfl)]
  simp only [Shape.IsShaped, hc, Shape.IsRating, has_field]
  constructor
  · rintro ⟨_, hr, hzero, -, hmax⟩
    cases hr
    exact ⟨hzero, hmax⟩
  · rintro ⟨hzero, hmax⟩
    exact ⟨r, rfl, hzero, hgreatest, hmax⟩

theorem schema_maximum (hc : c.variant = .rating) :
    ∃ s, c.schema = .ok s ∧ s.member? "maximum" = some (.ofInt c.maxRating) := by
  refine ⟨_, by rw [schema, schemaParts?, hc], ?_⟩
  exact Dict.get?_ofList _ _

theorem checkValue_rated_iff (hc : c.variant = .rating) (hmax : 0 ≤ c.maxRating)
    (hleast : leastInt64 ≤ r) (hgreatest : r ≤ greatestInt64) : c.checkValue (rated r) = .ok () ↔
      0 ≤ r ∧ (r ≤ c.maxRating ∨ Binary64.ofInt r = .ofInt c.maxRating) := by
  rw [checkValue_rated hc hleast hgreatest]
  exact and_congr_right fun hr => Binary64.ofInt_le_iff hr hmax

theorem allowsUpTo_iff_maxRating (hc : c.variant = .rating) (hmax : 0 ≤ c.maxRating) :
    c.AllowsUpTo n ↔ c.maxRating = n ∧
      (n = greatestInt64 ∨ Binary64.ofInt (n + 1) ≠ Binary64.ofInt n) := by
  constructor
  · rintro ⟨hallowed, s, hs, hmaximum⟩
    obtain ⟨t, ht, hmaximum'⟩ := schema_maximum hc
    cases hs.symm.trans ht
    cases hmaximum.symm.trans hmaximum'
    refine ⟨rfl, or_iff_not_imp_left.2 fun hne hsame => ?_⟩
    have hlt : c.maxRating < greatestInt64 := Int.lt_iff_le_and_ne.2 ⟨maxRating_le, hne⟩
    have hleast : leastInt64 ≤ c.maxRating + 1 := Int.le_trans (by decide) (Int.le_add_one hmax)
    have hnext := (checkValue_rated_iff hc hmax hleast hlt).2 ⟨Int.le_add_one hmax, .inr hsame⟩
    exact absurd ((hallowed _ hleast hlt).1 hnext).2 (by omega)
  · rintro ⟨rfl, hnext⟩
    refine ⟨fun r hleast hgreatest => ?_, schema_maximum hc⟩
    rw [checkValue_rated_iff hc hmax hleast hgreatest]
    refine and_congr_right fun hr => or_iff_left_of_imp fun hsame => ?_
    by_contra hlt
    rcases hnext with hlast | hnext
    · exact hlt (hlast ▸ hgreatest)
    · -- The double of the next integer lies between the two that are the same.
      have hle := Binary64.ofInt_mono_of_nonneg (Int.le_add_one hmax) (Int.not_le.1 hlt)
      rw [hsame, Binary64.ofInt_le_iff (Int.le_add_one hmax) hmax] at hle
      exact hle.elim (by omega) hnext

end ControlTag

namespace Interface

open Xml (Element Document)
open ControlTag (rated)

variable {registry : Registry} {config text : String} {c : ControlTag}

/-- A rating control of a config that the grammar accepts, with `text` for its greatest rating. -/
structure AcceptedRating (registry : Registry) (config text : String) (c : ControlTag) : Prop where
  accepted : ∃ doc, Document.read? config = some doc ∧ (Grammar.checkDocument doc).isOk = true
  control : ∃ li, parseWith registry config = .ok li ∧ c ∈ li.controls.tags
  kind : c.kind = "Rating"
  variant : c.variant = .rating
  greatest : c.attributes.get? "maxRating" = some text

theorem AcceptedRating.maxRating_eq (h : AcceptedRating registry config text c) :
    c.maxRating = (int64? text).getD 5 := by
  rw [ControlTag.maxRating, h.greatest, Option.bind_some]

theorem AcceptedRating.one_le_maxRating (h : AcceptedRating registry config text c) :
    1 ≤ c.maxRating := by
  obtain ⟨doc, hread, hok⟩ := h.accepted
  obtain ⟨li, hparse, hc⟩ := h.control
  obtain ⟨doc', hread', rfl⟩ := parseWith_eq_ok.1 hparse
  cases hread.symm.trans hread'
  obtain ⟨e, he, -, hname, -, hattributes⟩ := exists_element_of_mem_controls hc
  obtain ⟨ancestors, hvisit⟩ := Element.exists_visit he
  have haccepted := ((Grammar.isOk_checkDocument (Document.named_of_read hread)).1 hok).2 _ hvisit
  rw [ControlTag.maxRating, hattributes]
  exact Sample.one_le_maxRating haccepted (hname ▸ h.kind)

/-- The bound of the ratings, which the schema has too, is the integer that the text is, or five if
it is none: also where the text is a numeral of another integer, with a point or an exponent or out
of 64 bits. Above it only such ratings are let through as have its double. So the ratings are those
up to the number `n` that the text denotes exactly when the text is written as an integer, or `n` is
five anyway, and the next integer has another double than `n`. -/
theorem allowsUpTo_iff (h : AcceptedRating registry config text c) :
    ∃ bound, (int64? text).getD 5 = bound ∧ 1 ≤ bound ∧
      (∃ s, c.schema = .ok s ∧ s.member? "maximum" = some (.ofInt bound)) ∧
      (∀ r, leastInt64 ≤ r → r ≤ greatestInt64 → (c.checkValue (rated r) = .ok () ↔
        0 ≤ r ∧ (r ≤ bound ∨ Binary64.ofInt r = Binary64.ofInt bound))) ∧
      ∀ n, Denotes text n → (c.AllowsUpTo n ↔ (int64? text = some n ∨ n = 5) ∧
        (n = greatestInt64 ∨ Binary64.ofInt (n + 1) ≠ Binary64.ofInt n)) := by
  have hzero : 0 ≤ c.maxRating := Int.le_trans (by decide) h.one_le_maxRating
  refine ⟨c.maxRating, h.maxRating_eq.symm, h.one_le_maxRating,
    ControlTag.schema_maximum h.variant, fun r hleast hgreatest => ?_, fun n hn => ?_⟩
  · exact ControlTag.checkValue_rated_iff h.variant hzero hleast hgreatest
  · rw [ControlTag.allowsUpTo_iff_maxRating h.variant hzero, h.maxRating_eq]
    refine and_congr_left fun _ => ?_
    cases hint : int64? text with
    | none => exact ⟨fun hfive => .inr hfive.symm, fun hfive => (hfive.resolve_left nofun).symm⟩
    | some m =>
        cases hn.eq_of_int64? hint
        exact iff_of_true rfl (.inl rfl)

theorem exists_acceptedRating (h : ((Document.read? config).any fun doc =>
    (Grammar.checkDocument doc).isOk && (ofDocument .builtin config doc).controls.tags.any fun c =>
      c.kind == "Rating" && c.variant == .rating &&
        c.attributes.get? "maxRating" == some text) = true) :
    ∃ c, AcceptedRating .builtin config text c := by
  obtain ⟨doc, hread, h⟩ := (Option.any_eq_true _ _).1 h
  obtain ⟨hok, h⟩ := Bool.and_eq_true_iff.1 h
  obtain ⟨c, hc, h⟩ := List.any_eq_true.1 h
  simp only [Bool.and_eq_true, beq_iff_eq] at h
  exact ⟨c, ⟨doc, hread, hok⟩, ⟨_, parseWith_eq_ok.2 ⟨doc, hread, rfl⟩, hc⟩, h.1.1, h.1.2, h.2⟩

theorem allowsUpTo_iff_signed : ∃ c, AcceptedRating .builtin
      "<View><Text name='t' value='$x'/><Rating name='r' toName='t' maxRating='+07'/></View>"
      "+07" c ∧ Denotes "+07" 7 ∧ c.AllowsUpTo 7 := by
  obtain ⟨c, hc⟩ := @exists_acceptedRating
    "<View><Text name='t' value='$x'/><Rating name='r' toName='t' maxRating='+07'/></View>"
    "+07" (by decide +kernel)
  have hdenotes : Denotes "+07" 7 := by decide +kernel
  obtain ⟨-, -, -, -, -, hbound⟩ := allowsUpTo_iff hc
  exact ⟨c, hc, hdenotes, (hbound 7 hdenotes).2
    ⟨.inl (by decide +kernel), .inr (Binary64.ofInt_succ_ne (by decide) (by decide))⟩⟩

/-- A rating below the number that the text denotes is refused, and one above it is let through. -/
theorem not_allowsUpTo :
    (∃ c, AcceptedRating .builtin
        "<View><Text name='t' value='$x'/><Rating name='r' toName='t' maxRating='10.0'/></View>"
        "10.0" c ∧ Denotes "10.0" 10 ∧ c.checkValue (rated 7) ≠ .ok () ∧ ¬c.AllowsUpTo 10) ∧
    ∃ c, AcceptedRating .builtin
        ("<View><Text name='t' value='$x'/><Rating name='r' toName='t' " ++
          "maxRating='9007199254740992'/></View>") "9007199254740992" c ∧
      Denotes "9007199254740992" 9007199254740992 ∧
      c.checkValue (rated 9007199254740993) = .ok () ∧ ¬c.AllowsUpTo 9007199254740992 := by
  constructor
  · obtain ⟨c, hc⟩ := @exists_acceptedRating
      "<View><Text name='t' value='$x'/><Rating name='r' toName='t' maxRating='10.0'/></View>"
      "10.0" (by decide +kernel)
    have hrefused : c.checkValue (rated 7) ≠ .ok () := by
      rw [Ne, ControlTag.checkValue_rated hc.variant (by decide) (by decide), hc.maxRating_eq]
      decide +kernel
    refine ⟨c, hc, by decide +kernel, hrefused, fun h => hrefused ?_⟩
    exact (h.check 7 (by decide) (by decide)).2 (by decide)
  · obtain ⟨c, hc⟩ := @exists_acceptedRating
      ("<View><Text name='t' value='$x'/><Rating name='r' toName='t' " ++
        "maxRating='9007199254740992'/></View>") "9007199254740992" (by decide +kernel)
    have haccepted : c.checkValue (rated 9007199254740993) = .ok () := by
      rw [ControlTag.checkValue_rated hc.variant (by decide) (by decide), hc.maxRating_eq]
      decide +kernel
    refine ⟨c, hc, by decide +kernel, haccepted, fun h => ?_⟩
    exact absurd ((h.check _ (by decide) (by decide)).1 haccepted) (by decide)

end Interface

end Labeling
