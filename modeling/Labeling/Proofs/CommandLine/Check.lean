import Labeling.CommandLine.Run
import Labeling.Proofs.Except

namespace Labeling

theorem Report.isOk_foldl_merge (reports : List Report) (r : Report) :
    (reports.foldl Report.merge r).isOk = true ↔
      r.isOk = true ∧ ∀ s ∈ reports, s.isOk = true := by
  induction reports generalizing r with
  | nil => simp
  | cons s rest ih =>
      rw [List.foldl_cons, ih, Report.isOk_merge, Bool.and_eq_true, List.forall_mem_cons, and_assoc]

namespace CommandLine

variable {files : Files} {ids : Nat → String} {config path bare wrapped text : String}
  {li : Interface} {v : Json} {entries : List Json}

def Succeeds (files : Files) (ids : Nat → String) (command : Command) : Prop :=
  (run files ids command).failure = none

instance (files : Files) (ids : Nat → String) : DecidablePred (Succeeds files ids) := fun _ =>
  inferInstanceAs (Decidable (_ = none))

/-- Whether a list holds several payloads: there is something in it, and everything has a member
`result`. -/
def IsBatch (entries : List Json) : Prop :=
  entries ≠ [] ∧ ∀ entry ∈ entries, ∃ result, entry.member? "result" = some result

theorem payloads_array (entries : List Json) :
    (IsBatch entries → payloads (.array entries) = entries) ∧
      (¬IsBatch entries → payloads (.array entries) = [.array entries]) := by
  have hbatch : (!entries.isEmpty && entries.all fun item => (item.member? "result").isSome) = true ↔
      IsBatch entries := by
    simp [IsBatch, Option.isSome_iff_exists]
  rw [payloads, ← hbatch]
  exact ⟨fun h => if_pos h, fun h => if_neg h⟩

theorem failureOf_eq_none {failed : Bool} {r : Report} :
    failureOf failed r = none ↔ failed = false := by
  rw [failureOf]
  cases failed <;> simp

theorem readInterface_eq_ok (hconfig : files config = .ok text)
    (hparse : Interface.parse text = .ok li) : readInterface files config = .ok li := by
  rw [readInterface, readFile, hconfig]
  exact congrArg (Except.mapError Failure.config) hparse

theorem succeeds_check (hconfig : files config = .ok text) (hparse : Interface.parse text = .ok li)
    (hread : readJson files path = .ok v) (output : OutputFormat) :
    Succeeds files ids (.check config path output) ↔
      ∀ payload ∈ payloads v, (li.checkResults payload).isOk = true := by
  have hempty : Report.empty.isOk = true := rfl
  have hmerged := Report.isOk_foldl_merge ((payloads v).map li.checkResults) .empty
  rw [and_iff_right hempty, List.forall_mem_map] at hmerged
  rw [← hmerged, Succeeds, run]
  simp only [runCheck, readInterface_eq_ok hconfig hparse, hread, bind, Except.bind, pure,
    Except.pure]
  rw [failureOf_eq_none, Bool.not_eq_false']

/-- A list of results under `result` is checked as one payload. So is the bare list, unless it is a
batch: then everything in it is a payload of its own. -/
theorem succeeds_check_list (hconfig : files config = .ok text)
    (hparse : Interface.parse text = .ok li) (hbare : readJson files bare = .ok (.array entries))
    (hwrapped : readJson files wrapped = .ok (.object [("result", .array entries)]))
    (output output' : OutputFormat) :
    (Succeeds files ids (.check config wrapped output') ↔
      (li.checkResults (.array entries)).isOk = true) ∧
    (¬IsBatch entries → (Succeeds files ids (.check config bare output) ↔
      (li.checkResults (.array entries)).isOk = true)) ∧
    (IsBatch entries → (Succeeds files ids (.check config bare output) ↔
      ∀ payload ∈ entries, (li.checkResults payload).isOk = true)) := by
  obtain ⟨hbatch, hsingle⟩ := payloads_array entries
  rw [succeeds_check hconfig hparse hwrapped, succeeds_check hconfig hparse hbare]
  refine ⟨?_, fun h => ?_, fun h => ?_⟩
  · exact List.forall_mem_singleton
  · rw [hsingle h, List.forall_mem_singleton]
  · rw [hbatch h]

def listFiles (entries : List Json) : Files :=
  Folder.read [("bare", (Json.array entries).compact),
    ("config", "<View><Text name='t' value='$x'/><Number name='n' toName='t'/></View>"),
    ("wrapped", (Json.object [("result", .array entries)]).compact)]

def numberRegion (further : List (String × Json)) : Json :=
  .object ([("from_name", .string "n")] ++ further ++ [("to_name", .string "t"),
    ("type", .string "number"), ("value", .object [("number", .number (.integer 3))])])

def mixedEntries : List Json :=
  [numberRegion [("result", .null)], numberRegion []]

set_option maxRecDepth 2000 in
theorem succeeds_check_list_mixed :
    readJson (listFiles mixedEntries) "bare" = .ok (.array mixedEntries) ∧
    readJson (listFiles mixedEntries) "wrapped" =
      .ok (.object [("result", .array mixedEntries)]) ∧
    ¬IsBatch mixedEntries ∧
    Succeeds (listFiles mixedEntries) (fun _ => "") (.check "config" "bare" .text) ∧
    Succeeds (listFiles mixedEntries) (fun _ => "") (.check "config" "wrapped" .json) := by
  have hconfig : listFiles mixedEntries "config" =
      .ok "<View><Text name='t' value='$x'/><Number name='n' toName='t'/></View>" := rfl
  have hcheck : ((Interface.parse
      "<View><Text name='t' value='$x'/><Number name='n' toName='t'/></View>").toOption.any
      fun li => (li.checkResults (.array mixedEntries)).isOk) = true := by
    decide +kernel
  obtain ⟨li, hli, hresults⟩ := (Option.any_eq_true _ _).1 hcheck
  have hbare : readJson (listFiles mixedEntries) "bare" = .ok (.array mixedEntries) := by
    rfl
  have hwrapped : readJson (listFiles mixedEntries) "wrapped" =
      .ok (.object [("result", .array mixedEntries)]) := by
    rfl
  have hsingle : ¬IsBatch mixedEntries := by
    rintro ⟨-, hall⟩
    obtain ⟨result, hresult⟩ := hall (numberRegion []) (by simp [mixedEntries])
    cases hresult
  obtain ⟨hone, hother, -⟩ := @succeeds_check_list _ (fun _ => "") _ _ _ _ _ _ hconfig
    (toOption_eq_some.1 hli) hbare hwrapped .text .json
  exact ⟨hbare, hwrapped, hsingle, (hother hsingle).2 hresults, hone.2 hresults⟩

/-- A list and the same list under `result` can differ: where the list is a batch, its payloads may
be right and its entries wrong, or the other way round. -/
theorem batch_differs :
    (∃ entries, readJson (listFiles entries) "bare" = .ok (.array entries) ∧
      readJson (listFiles entries) "wrapped" = .ok (.object [("result", .array entries)]) ∧
      Succeeds (listFiles entries) (fun _ => "") (.check "config" "bare" .text) ∧
      ¬Succeeds (listFiles entries) (fun _ => "") (.check "config" "wrapped" .text)) ∧
    ∃ entries, readJson (listFiles entries) "bare" = .ok (.array entries) ∧
      readJson (listFiles entries) "wrapped" = .ok (.object [("result", .array entries)]) ∧
      ¬Succeeds (listFiles entries) (fun _ => "") (.check "config" "bare" .text) ∧
      Succeeds (listFiles entries) (fun _ => "") (.check "config" "wrapped" .text) :=
  ⟨⟨[.object [("result", .array [])]], by rfl, by rfl, by decide +kernel, by decide +kernel⟩,
    [numberRegion [("result", .null)]], by rfl, by rfl, by decide +kernel, by decide +kernel⟩

end CommandLine

end Labeling
