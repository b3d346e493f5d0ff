/- SolanaAuditor/Reports/Triage
   digest: scripts/triage-findings.py: rows, filters and the report of triage. -/

import Mathlib.Data.List.Sort
import SolanaAuditor.Cvss.Recompute
import SolanaAuditor.Lib.Lists
import SolanaAuditor.Lib.Tally
import SolanaAuditor.Numbers

set_option autoImplicit false
set_option relaxedAutoImplicit false

namespace SolanaAuditor.Reports.Triage

open SolanaAuditor.Lib

def severityRanks : List (String × Int) :=
  [("CRITICAL", 4), ("HIGH", 3), ("MEDIUM", 2), ("LOW", 1), ("INFO", 0)]

def openStatuses : List String := ["Open", "PENDING", "POC-PENDING"]

def defaultCvss : ℚ := 5

structure TriageEntry where
  id : String
  severity : String
  cvss : FloatValue
  cvssVector : String
  rule : Json
  ruleCaught : String
  cwe : String
  file : String
  line : Json
  status : String
  priorityScore : FloatValue
  title : String
  locationFunction : String

structure TriageReport where
  totalFindings : Nat
  bySeverity : List (String × Nat)
  meanCvss : FloatValue
  maxCvss : FloatValue
  openCount : Nat
  cvssRecomputed : Nat
  cvssMismatches : Nat
  findings : List TriageEntry

/-- `x if isinstance(x, int) else None` -/
def intOrNone : Json → Json
  | .bool b => .bool b
  | .int n => .int n
  | _ => .null

section Rows

variable (text : PyText) (parseFloat : String → Option FloatValue)

def severityRank (value : String) : Int :=
  (Dict.get? severityRanks (text.upper value)).getD (-1)

/-- `float(finding.get("cvss") or DEFAULT_CVSS)` -/
def cvssOf (finding : PyDict) : Py FloatValue :=
  pyFloat parseFloat (pyOr (finding.get "cvss") (.float (.finite defaultCvss)))

def priorityScore (finding : PyDict) : Py FloatValue := do
  let cvss ← cvssOf parseFloat finding
  let sevBonus := severityRank text (text.format (field finding "severity" (.str "MEDIUM"))) * 2
  let status := text.upper (text.format (field finding "status" (.str "Open")))
  let openBonus : ℚ := if status ∈ openStatuses then 5 else 0
  return (((cvss.times 10).add (.finite sevBonus)).add (.finite openBonus)).rounded
    Decimal.roundHundredth

def enrichFinding (finding : PyDict) : Py TriageEntry := do
  let location := pyOr (finding.get "location") (.obj [])
  let cvss ← cvssOf parseFloat finding
  let file ← pyGet location "file" .null
  let line ← pyGet location "line" .null
  let score ← priorityScore text parseFloat finding
  let function ← pyGet location "function" .null
  return {
    id := text.format (field finding "id" (.str ""))
    severity := text.upper (text.format (field finding "severity" (.str "MEDIUM")))
    cvss
    cvssVector := text.format (pyOr (finding.get "cvss_vector") (.str ""))
    rule := intOrNone (finding.get "rule")
    ruleCaught := text.format (pyOr (finding.get "rule_caught") (.str ""))
    cwe := text.format (pyOr (finding.get "cwe") (.str ""))
    file := text.format (pyOr file (.str ""))
    line := intOrNone line
    status := text.format (field finding "status" (.str "Open"))
    priorityScore := score
    title := text.format (pyOr (finding.get "title") (.str ""))
    locationFunction := text.format (pyOr function (.str "")) }

def enrichAll : List PyDict → Py (List TriageEntry)
  | [] => return []
  | finding :: findings => do
      let row ← enrichFinding text parseFloat finding
      return row :: (← enrichAll findings)

/-- The order of the tuples `(-rank, -priority_score, -cvss, id)`. -/
def comesBefore (a b : TriageEntry) : Bool :=
  let rankA := severityRank text a.severity
  let rankB := severityRank text b.severity
  if rankA ≠ rankB then decide (rankB < rankA)
  else if !a.priorityScore.eq b.priorityScore then b.priorityScore.lt a.priorityScore
  else if !a.cvss.eq b.cvss then b.cvss.lt a.cvss
  else textLess a.id b.id

/-- `rows.sort(key=…)`: a stable sort. -/
def sortRows (rows : List TriageEntry) : List TriageEntry :=
  rows.insertionSort fun a b => comesBefore text b a = false

/-- The sum of the scores of the rows. -/
def cvssSum (rows : List TriageEntry) : FloatValue :=
  rows.foldl (fun total r => total.add r.cvss) (.finite 0)

def meanCvss (rows : List TriageEntry) : FloatValue :=
  if rows.isEmpty then .finite 0
  else ((cvssSum rows).times (1 / rows.length)).rounded Decimal.roundHundredth

def maxCvss : List TriageEntry → FloatValue
  | [] => .finite 0
  | r :: rows =>
      (rows.foldl (fun best r => if best.lt r.cvss then r.cvss else best) r.cvss).rounded
        Decimal.roundTenth

/-- The filter of `--min-severity`, unless it names no level. -/
def filterSeverity (minSeverity : Option String) (findings : List PyDict) : List PyDict :=
  match minSeverity with
  | none => findings
  | some level =>
      if level ≠ "" ∧ 0 ≤ severityRank text level then
        findings.filter fun f => decide (severityRank text level ≤
          severityRank text (text.format (field f "severity" (.str ""))))
      else findings

/-- The filter of `--status`. -/
def filterStatus (statusFilter : Option String) (findings : List PyDict) : List PyDict :=
  match statusFilter with
  | none => findings
  | some status =>
      if status ≠ "" then
        findings.filter fun f =>
          decide (text.upper (text.format (field f "status" (.str ""))) = text.upper status)
      else findings

/-- The report of some rows. -/
def reportOf (rows : List TriageEntry) (mismatches recomputed : Nat) : TriageReport where
  totalFindings := rows.length
  bySeverity := (rows.map TriageEntry.severity).foldl Tally.grow []
  meanCvss := meanCvss rows
  maxCvss := maxCvss rows
  openCount := rows.countP fun r => decide (text.upper r.status ∈ openStatuses)
  cvssRecomputed := recomputed
  cvssMismatches := mismatches
  findings := rows

/-- `recompute_cvss` where it is asked for; it writes the scores into the findings. -/
def recomputed (helper : Option (String → Option ℚ)) (recompute : Bool)
    (findings : List PyDict) : Py (List PyDict × Nat × Nat) :=
  if recompute then Cvss.Triage.recomputeCvss helper findings else return (findings, 0, 0)

def triage (helper : Option (String → Option ℚ)) (findings : List PyDict)
    (minSeverity statusFilter : Option String) (recompute : Bool) :
    Py (TriageReport × Nat × Nat) := do
  let (findings', mismatches, count) ← recomputed helper recompute findings
  let filtered := filterStatus text statusFilter (filterSeverity text minSeverity findings')
  let rows ← enrichAll text parseFloat filtered
  return (reportOf text (sortRows text rows) mismatches count, findings.length, filtered.length)

end Rows

section Counts

variable {text : PyText} {parseFloat : String → Option FloatValue}

theorem sortRows_perm (text : PyText) (rows : List TriageEntry) :
    (sortRows text rows).Perm rows := List.perm_insertionSort _ _

/-- Each row counts for its own severity. -/
theorem bySeverity_count (rows : List TriageEntry) (mismatches recomputed : Nat)
    (level : String) :
    (Dict.get? (reportOf text (sortRows text rows) mismatches recomputed).bySeverity
        level).getD 0 = (rows.map TriageEntry.severity).count level := by
  have hperm := (sortRows_perm text rows).map TriageEntry.severity
  change (Dict.get? (((sortRows text rows).map TriageEntry.severity).foldl Tally.grow [])
    level).getD 0 = _
  rw [Tally.getD_foldl_grow, hperm.count_eq]
  simp

theorem enrichAll_ok {findings : List PyDict} {rows : List TriageEntry} :
    enrichAll text parseFloat findings = .ok rows ↔
      List.Forall₂ (fun f r => enrichFinding text parseFloat f = .ok r) findings rows :=
  Collects.ok_iff ⟨rfl, fun _ _ => rfl⟩

theorem enrichAll_returns {findings : List PyDict} :
    (∃ rows, enrichAll text parseFloat findings = .ok rows) ↔
      ∀ f ∈ findings, ∃ row, enrichFinding text parseFloat f = .ok row := by
  simp only [enrichAll_ok]
  exact Lists.exists_forall₂_iff

/-- Without filters every finding has a row. -/
theorem triage_all (helper : Option (String → Option ℚ)) (findings : List PyDict) :
    triage text parseFloat helper findings none none false = (do
      let rows ← enrichAll text parseFloat findings
      return (reportOf text (sortRows text rows) 0 0, findings.length, findings.length)) := rfl

end Counts

end SolanaAuditor.Reports.Triage
