import Labeling.Json.Reader
import Labeling.Proofs.Json.Numeral
import Mathlib.Data.List.Basic

namespace Labeling

namespace Json

namespace Token

def Plain (t : Token) : Prop := ∀ v, t = .word v → v.WellFormed

variable {c : Char} {ts : List Token} {p p' : Pending}

theorem plain_of_ofWord {cs : List Char} {t : Token} (h : ofWord cs = some t) : t.Plain := by
  intro v hv
  subst hv
  rw [ofWord] at h
  split at h
  · cases h; exact .null
  · cases h; exact .bool true
  · cases h; exact .bool false
  · cases h

theorem plain_start (h : start c = some (ts, p')) : ∀ t ∈ ts, t.Plain := by
  have hone : ∀ {t : Token}, (∀ v, t ≠ .word v) → ∀ u ∈ [t], u.Plain := by
    intro t ht u hu v hv
    cases List.mem_singleton.1 hu
    exact absurd hv (ht v)
  unfold start at h
  split at h
  · cases h; exact nofun
  · split at h
    case h_7 => cases h; exact nofun
    case h_8 =>
      split at h
      · cases h; exact nofun
      · split at h
        · cases h; exact nofun
        · cases h
    all_goals
      cases h
      exact hone nofun

theorem plain_stepText {content : Content} (h : stepText content c = some (ts, p')) :
    ∀ t ∈ ts, t.Plain := by
  rw [stepText] at h
  split at h
  · cases h
    intro t ht v hv
    cases List.mem_singleton.1 ht
    cases hv
  · split at h
    · cases h; exact nofun
    · split at h
      · cases h
      · cases h; exact nofun

theorem plain_stepEscape {content : Content} (h : stepEscape content c = some (ts, p')) :
    ∀ t ∈ ts, t.Plain := by
  rw [stepEscape] at h
  split at h
  · cases h; exact nofun
  · obtain ⟨e, -, he⟩ := Option.map_eq_some_iff.1 h
    cases he
    exact nofun

theorem plain_step (h : step p c = some (ts, p')) : ∀ t ∈ ts, t.Plain := by
  unfold step at h
  split at h
  · exact plain_start h
  · split at h
    · cases h; exact nofun
    · obtain ⟨token, htoken, h⟩ := Option.bind_eq_some_iff.1 h
      obtain ⟨⟨tokens, pending⟩, hstart, h⟩ := Option.bind_eq_some_iff.1 h
      cases h
      exact List.forall_mem_cons.2 ⟨plain_of_ofWord htoken, plain_start hstart⟩
  · split at h
    · cases h; exact nofun
    · obtain ⟨n, -, h⟩ := Option.bind_eq_some_iff.1 h
      obtain ⟨⟨tokens, pending⟩, hstart, h⟩ := Option.bind_eq_some_iff.1 h
      cases h
      exact List.forall_mem_cons.2 ⟨nofun, plain_start hstart⟩
  · exact plain_stepText h
  · exact plain_stepEscape h
  · obtain ⟨d, -, h⟩ := Option.bind_eq_some_iff.1 h
    simp only at h
    split at h <;> cases h <;> exact nofun
  · split at h
    · cases h; exact nofun
    · exact plain_stepText h
  · split at h
    · cases h; exact nofun
    · exact plain_stepEscape h

theorem plain_foldlM {cs : List Char} {s s' : Scanned} (hs : ∀ t ∈ s.1, t.Plain)
    (h : cs.foldlM advance s = some s') : ∀ t ∈ s'.1, t.Plain := by
  induction cs generalizing s with
  | nil => cases h; exact hs
  | cons c cs ih =>
      rw [List.foldlM_cons] at h
      obtain ⟨after, hafter, h⟩ := Option.bind_eq_some_iff.1 h
      obtain ⟨⟨tokens, pending⟩, hstep, rfl⟩ := Option.map_eq_some_iff.1 hafter
      refine ih ?_ h
      intro t ht
      rcases List.mem_append.1 ht with ht | ht
      · exact plain_step hstep t (List.mem_reverse.1 ht)
      · exact hs t ht

theorem plain_of_tokens? {s : String} (h : tokens? s = some ts) : ∀ t ∈ ts, t.Plain := by
  obtain ⟨⟨tokens, pending⟩, hfold, h⟩ := Option.bind_eq_some_iff.1 h
  obtain ⟨last, hlast, h⟩ := Option.bind_eq_some_iff.1 h
  cases h
  intro t ht
  rcases List.mem_append.1 ht with ht | ht
  · exact plain_foldlM (s := ([], .nothing)) nofun hfold t (List.mem_reverse.1 ht)
  · unfold finish at hlast
    split at hlast
    · cases hlast; cases ht
    · obtain ⟨token, htoken, rfl⟩ := Option.map_eq_some_iff.1 hlast
      cases List.mem_singleton.1 ht
      exact plain_of_ofWord htoken
    · obtain ⟨n, -, rfl⟩ := Option.map_eq_some_iff.1 hlast
      cases List.mem_singleton.1 ht
      exact nofun
    · cases hlast

end Token

def Frame.WellFormed : Frame → Prop
  | .array reversed => ∀ v ∈ reversed, v.WellFormed
  | .object members _ => (Json.object members).WellFormed

namespace Reader

structure WellFormed (r : Reader) : Prop where
  stack : ∀ frame ∈ r.stack, frame.WellFormed
  result : ∀ v, r.expecting = .nothing v → v.WellFormed

variable {r r' : Reader} {v : Json} {frame : Frame} {rest : List Frame}

theorem WellFormed.top (h : r.WellFormed) (hstack : r.stack = frame :: rest) :
    frame.WellFormed ∧ ∀ f ∈ rest, f.WellFormed :=
  List.forall_mem_cons.1 (hstack ▸ h.stack)

theorem WellFormed.complete (h : ∀ frame ∈ r.stack, frame.WellFormed) (hv : v.WellFormed)
    (hr : r.complete v = some r') : r'.WellFormed := by
  rw [Reader.complete] at hr
  split at hr
  · cases hr
    refine ⟨h, fun w hw => ?_⟩
    cases hw
    exact hv
  · next items rest hstack =>
      rw [hstack] at h
      obtain ⟨hitems, hrest⟩ := List.forall_mem_cons.1 h
      cases hr
      exact ⟨List.forall_mem_cons.2 ⟨List.forall_mem_cons.2 ⟨hv, hitems⟩, hrest⟩, nofun⟩
  · next ms key rest hstack =>
      rw [hstack] at h
      obtain ⟨hms, hrest⟩ := List.forall_mem_cons.1 h
      have hobject : (Json.object ms).WellFormed := hms
      split at hr
      · cases hr
      · cases hr
        exact ⟨List.forall_mem_cons.2 ⟨hobject.insert key hv, hrest⟩, nofun⟩

theorem WellFormed.opening {expecting : Expecting} (h : r.WellFormed) (hframe : frame.WellFormed)
    (hexpecting : ∀ v, expecting ≠ .nothing v) (hr : r.opening frame expecting = some r') :
    r'.WellFormed := by
  rw [Reader.opening] at hr
  split at hr
  · cases hr
    exact ⟨List.forall_mem_cons.2 ⟨hframe, h.stack⟩, fun v hv => absurd hv (hexpecting v)⟩
  · cases hr

theorem WellFormed.beginValue {token : Token} (h : r.WellFormed) (htoken : token.Plain)
    (hr : r.beginValue token = some r') : r'.WellFormed := by
  unfold Reader.beginValue at hr
  split at hr
  · have hframe : (Frame.array []).WellFormed := fun v hv => absurd hv List.not_mem_nil
    exact h.opening hframe (fun v hv => by cases hv) hr
  · have hframe : (Frame.object [] "").WellFormed := wellFormed_empty_object
    exact h.opening hframe (fun v hv => by cases hv) hr
  · exact .complete h.stack (htoken _ rfl) hr
  · split at hr
    · exact .complete h.stack .null hr
    · obtain ⟨n, hn, hr⟩ := Option.bind_eq_some_iff.1 hr
      exact .complete h.stack (.number (JsonNumber.wellFormed_of_toNumber? hn)) hr
  · split at hr
    · exact .complete h.stack .null hr
    · obtain ⟨s, -, hr⟩ := Option.bind_eq_some_iff.1 hr
      exact .complete h.stack (.string s) hr
  · cases hr

theorem WellFormed.close {token : Token} (h : r.WellFormed) (hr : r.close token = some r') :
    r'.WellFormed := by
  unfold Reader.close at hr
  split at hr
  · split at hr
    · next items rest hstack =>
        obtain ⟨hitems, hrest⟩ := h.top hstack
        exact .complete (r := { r with stack := rest }) hrest
          (.array fun v hv => hitems v (List.mem_reverse.1 hv)) hr
    · cases hr
  · split at hr
    · next ms key rest hstack =>
        obtain ⟨hms, hrest⟩ := h.top hstack
        exact .complete (r := { r with stack := rest }) hrest hms hr
    · cases hr
  · cases hr

theorem WellFormed.readKey {token : Token} (h : r.WellFormed) (hr : r.readKey token = some r') :
    r'.WellFormed := by
  unfold Reader.readKey at hr
  split at hr
  · split at hr
    · next ms key rest hstack =>
        obtain ⟨hms, hrest⟩ := h.top hstack
        obtain ⟨key', -, rfl⟩ := Option.map_eq_some_iff.1 hr
        exact ⟨List.forall_mem_cons.2 ⟨hms, hrest⟩, nofun⟩
    · cases hr
  · cases hr

theorem WellFormed.step {token : Token} (h : r.WellFormed) (htoken : token.Plain)
    (hr : r.step token = some r') : r'.WellFormed := by
  unfold Reader.step at hr
  split at hr
  · exact h.beginValue htoken hr
  · split at hr
    · exact h.close hr
    · exact h.beginValue htoken hr
  · exact h.readKey hr
  · split at hr
    · exact h.close hr
    · exact h.readKey hr
  · split at hr
    · cases hr
      exact ⟨h.stack, nofun⟩
    · cases hr
  · split at hr
    · split at hr
      · cases hr
        exact ⟨h.stack, nofun⟩
      · cases hr
        exact ⟨h.stack, nofun⟩
      · cases hr
    · exact h.close hr
  · cases hr

theorem WellFormed.run {tokens : List Token} (h : r.WellFormed) (htokens : ∀ t ∈ tokens, t.Plain)
    (hr : r.run tokens = some v) : v.WellFormed := by
  induction tokens generalizing r with
  | nil =>
      rw [Reader.run] at hr
      split at hr
      · next hexpecting =>
          cases hr
          exact h.result _ hexpecting
      · cases hr
  | cons token rest ih =>
      obtain ⟨htoken, hrest⟩ := List.forall_mem_cons.1 htokens
      obtain ⟨after, hafter, hr⟩ := Option.bind_eq_some_iff.1 hr
      exact ih (h.step htoken hafter) hrest hr

end Reader

/-- What is read from a text is well-formed. -/
theorem wellFormed_of_readSelected? {selection : Selection} {s : String} {v : Json}
    (h : readSelected? selection s = some v) : v.WellFormed := by
  obtain ⟨tokens, htokens, h⟩ := Option.bind_eq_some_iff.1 h
  have hreader : Reader.WellFormed ⟨selection, [], .value⟩ :=
    ⟨fun frame hframe => absurd hframe List.not_mem_nil, fun v hv => by cases hv⟩
  exact hreader.run (Token.plain_of_tokens? htokens) h

end Json

end Labeling
