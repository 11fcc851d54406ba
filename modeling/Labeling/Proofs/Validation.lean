import Labeling.Proofs.Grammar.Accepted
import Labeling.Validation

namespace Labeling

open Xml (Document)

theorem validate_eq_ok {config : String} : validate config = .ok () ↔
    ∃ doc, Document.read? config = some doc ∧ (Grammar.checkDocument doc).isOk = true ∧
      Scan.duplicateNames (Scan.stripComments config) = [] ∧
        Scan.unknownTargets (Scan.stripComments config) (Scan.names (Scan.stripComments config)) =
          [] := by
  rw [validate]
  cases Document.read? config with
  | none => simp
  | some doc =>
      simp only [Option.some.injEq, exists_eq_left']
      by_cases hok : (Grammar.checkDocument doc).isOk = true
      · by_cases hnames : Scan.duplicateNames (Scan.stripComments config) = []
        · cases Scan.unknownTargets (Scan.stripComments config)
            (Scan.names (Scan.stripComments config)) <;> simp [hok, hnames]
        · simp [hok, hnames]
      · simp [hok]

/-- The verdict on a config with the grammar report `g`, the repeated names `found`, the unknown
targets `targets` and the names `names`. -/
def verdict (g : Report) (found targets names : List String) : Except ConfigError Unit :=
  if !g.isOk then .error (.grammar g)
  else if found ≠ [] then .error (.duplicateNames found)
  else match targets with
    | target :: _ => .error (.unknownToName target (sortedUnique names))
    | [] => .ok ()

theorem validate_of_read {config : String} {doc : Document} (h : Document.read? config = some doc) :
    validate config = verdict (Grammar.checkDocument doc)
      (Scan.duplicateNames (Scan.stripComments config))
      (Scan.unknownTargets (Scan.stripComments config) (Scan.names (Scan.stripComments config)))
      (Scan.names (Scan.stripComments config)) := by
  rw [validate, h]
  rfl

section

variable {g : Report} {found targets names : List String}

theorem verdict_eq_ok : verdict g found targets names = .ok () ↔
    g.isOk = true ∧ found = [] ∧ targets = [] := by
  unfold verdict
  cases g.isOk <;> cases found <;> cases targets <;> simp

theorem verdict_eq_grammar {r : Report} : verdict g found targets names = .error (.grammar r) ↔
    g.isOk = false ∧ r = g := by
  unfold verdict
  cases g.isOk <;> cases found <;> cases targets <;> simp [eq_comm]

theorem verdict_eq_duplicateNames {ns : List String} :
    verdict g found targets names = .error (.duplicateNames ns) ↔
      g.isOk = true ∧ found ≠ [] ∧ ns = found := by
  unfold verdict
  cases g.isOk <;> cases found <;> cases targets <;> simp [eq_comm]

theorem verdict_eq_unknownToName {target : String} {known : List String} :
    verdict g found targets names = .error (.unknownToName target known) ↔
      g.isOk = true ∧ found = [] ∧ targets.head? = some target ∧ known = sortedUnique names := by
  unfold verdict
  cases g.isOk <;> cases found <;> cases targets <;> simp [eq_comm]

end

end Labeling
