import Labeling.Proofs.Text.Pieces
import Labeling.Text.Form
import Labeling.Xml.Event

namespace Labeling.Text.Form

def hexByte? : List Char → Option UInt8
  | high :: low :: _ => do
    let high ← Xml.Event.digitValue? 16 high
    let low ← Xml.Event.digitValue? 16 low
    return UInt8.ofNat (16 * high + low)
  | _ => none

/-- The bytes that a form-encoded text stands for; the first `skip` characters are passed over. A
percent sign without digits stands for itself. -/
def bytes : Nat → List Char → List UInt8
  | _, [] => []
  | skip + 1, _ :: rest => bytes skip rest
  | 0, c :: rest =>
    if c = '%' then
      match hexByte? rest with
      | some b => b :: bytes 2 rest
      | none => 37 :: bytes 0 rest
    else if c = '+' then 32 :: bytes 0 rest
    else String.utf8EncodeChar c ++ bytes 0 rest

def decode? (cs : List Char) : Option String := String.fromUTF8? (bytes 0 cs).toByteArray

def pair? (cs : List Char) : Option (String × String) := do
  let name := cs.takeWhile (· != '=')
  return (← decode? name, ← decode? (cs.drop (name.length + 1)))

def pairs? (query : String) : Option (List (String × String)) :=
  ((splitChars '&' query.toList).filter (· ≠ [])).mapM pair?

def parameter? (query name : String) : Option String := (pairs? query).bind (·.lookup name)

def marks : List Char := ['&', '=', '%', '+']

theorem isPlain_spec (b : UInt8) : isPlain b = true →
    Char.ofNat b.toNat ∉ marks ∧ String.utf8EncodeChar (Char.ofNat b.toNat) = [b] := by
  have hall : ∀ n : Fin 256, isPlain (.ofFin n) = true →
      Char.ofNat (UInt8.ofFin n).toNat ∉ marks ∧
        String.utf8EncodeChar (Char.ofNat (UInt8.ofFin n).toNat) = [.ofFin n] := by
    decide +kernel
  exact hall b.toFin

theorem hexDigit_spec (b : UInt8) :
    hexDigit (b.toNat / 16) ∉ marks ∧ hexDigit (b.toNat % 16) ∉ marks ∧
      hexByte? [hexDigit (b.toNat / 16), hexDigit (b.toNat % 16)] = some b := by
  have hall : ∀ n : Fin 256, hexDigit ((UInt8.ofFin n).toNat / 16) ∉ marks ∧
      hexDigit ((UInt8.ofFin n).toNat % 16) ∉ marks ∧
        hexByte? [hexDigit ((UInt8.ofFin n).toNat / 16), hexDigit ((UInt8.ofFin n).toNat % 16)] =
          some (.ofFin n) := by
    decide +kernel
  exact hall b.toFin

theorem bytes_encodeByte (b : UInt8) (rest : List Char) :
    bytes 0 (encodeByte b ++ rest) = b :: bytes 0 rest := by
  rw [encodeByte]
  split
  · next hplain =>
      obtain ⟨hmarks, hbyte⟩ := isPlain_spec b hplain
      have hpercent : Char.ofNat b.toNat ≠ '%' := fun he => hmarks (by rw [he]; decide)
      have hplus : Char.ofNat b.toNat ≠ '+' := fun he => hmarks (by rw [he]; decide)
      rw [List.singleton_append, bytes, if_neg hpercent, if_neg hplus, hbyte, List.singleton_append]
  · split
    · next hspace =>
        rw [hspace]
        rfl
    · have hbyte : hexByte? (hexDigit (b.toNat / 16) :: hexDigit (b.toNat % 16) :: rest) = some b :=
        (hexDigit_spec b).2.2
      rw [List.cons_append, List.cons_append, List.singleton_append, bytes, if_pos rfl, hbyte]
      rfl

theorem bytes_flatMap (bs : List UInt8) : bytes 0 (bs.flatMap encodeByte) = bs := by
  induction bs with
  | nil => rfl
  | cons b bs ih => rw [List.flatMap_cons, bytes_encodeByte, ih]

theorem toList_encode (s : String) :
    (encode s).toList = (s.toList.flatMap String.utf8EncodeChar).flatMap encodeByte :=
  String.toList_ofList

theorem decode?_encode (s : String) : decode? (encode s).toList = some s := by
  have hbytes : (s.toList.flatMap String.utf8EncodeChar).toByteArray = s.toByteArray :=
    String.utf8Encode_toList
  rw [decode?, toList_encode, bytes_flatMap, hbytes, String.fromUTF8?, dif_pos s.isValidUTF8]
  rfl

theorem not_mem_encode {c : Char} (hc : c ∈ ['&', '=']) (s : String) : c ∉ (encode s).toList := by
  rw [toList_encode, List.mem_flatMap]
  rintro ⟨b, -, hmem⟩
  have hmarks : c ∈ marks := List.mem_append_left ['%', '+'] hc
  obtain ⟨hhigh, hlow, -⟩ := hexDigit_spec b
  rw [encodeByte] at hmem
  split at hmem
  · next hplain =>
      exact (isPlain_spec b hplain).1 (List.mem_singleton.1 hmem ▸ hmarks)
  · split at hmem
    · rw [List.mem_singleton.1 hmem] at hc
      revert hc
      decide
    · rcases List.mem_cons.1 hmem with rfl | hmem
      · revert hc
        decide
      · rcases List.mem_pair.1 hmem with rfl | rfl
        · exact hhigh hmarks
        · exact hlow hmarks

theorem toList_pair (p : String × String) : (encode p.1 ++ "=" ++ encode p.2).toList =
    (encode p.1).toList ++ '=' :: (encode p.2).toList := by
  rw [String.toList_append, String.toList_append, List.append_assoc]
  rfl

theorem pair?_encode (p : String × String) :
    pair? (encode p.1 ++ "=" ++ encode p.2).toList = some p := by
  have hname : ((encode p.1).toList ++ '=' :: (encode p.2).toList).takeWhile (· != '=') =
      (encode p.1).toList := by
    rw [List.takeWhile_append_of_pos, List.takeWhile_cons_of_neg (by decide), List.append_nil]
    exact fun c hc => bne_iff_ne.2 fun he => not_mem_encode (by decide) p.1 (he ▸ hc)
  rw [pair?, toList_pair]
  simp only [hname, List.drop_length_add_append, List.drop_succ_cons, List.drop_zero,
    decode?_encode]
  rfl

/-- What is read in a query is what was written. -/
theorem pairs?_query (pairs : List (String × String)) : pairs? (query pairs) = some pairs := by
  by_cases hpairs : pairs = []
  · rw [hpairs]
    rfl
  have hparts : ∀ part ∈ (pairs.map fun p => encode p.1 ++ "=" ++ encode p.2).map String.toList,
      '&' ∉ part ∧ part ≠ [] := by
    simp only [List.forall_mem_map, toList_pair, List.mem_append, List.mem_cons, not_or]
    exact fun p _ => ⟨⟨not_mem_encode (by decide) p.1, by decide, not_mem_encode (by decide) p.2⟩,
      List.append_ne_nil_of_right_ne_nil _ (List.cons_ne_nil _ _)⟩
  have hchars : (query pairs).toList = ['&'].intercalate
      ((pairs.map fun p => encode p.1 ++ "=" ++ encode p.2).map String.toList) :=
    String.toList_intercalate
  have hread : pair? ∘ (String.toList ∘ fun p => encode p.1 ++ "=" ++ encode p.2) = pure :=
    funext pair?_encode
  rw [pairs?, hchars, splitChars_intercalate (fun part hpart => (hparts part hpart).1) (by simpa),
    List.filter_eq_self.2 fun part hpart => decide_eq_true (hparts part hpart).2, List.map_map,
    List.mapM_map, hread]
  exact (List.mapM_pure (f := id)).trans (congrArg some (List.map_id pairs))

theorem parameter?_query (pairs : List (String × String)) (name : String) :
    parameter? (query pairs) name = pairs.lookup name := by
  rw [parameter?, pairs?_query, Option.bind_some]

example : parameter? "a=b%26+&&c&=d" "c" = some "" := by
  decide +kernel

end Labeling.Text.Form
