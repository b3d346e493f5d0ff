/- SolanaAuditor/Reports/SeverityTable
   digest: The counting checks of tests/severity_counts.py. -/

import SolanaAuditor.Cvss.Recompute
import SolanaAuditor.Lib.Tally

set_option autoImplicit false
set_option relaxedAutoImplicit false

namespace SolanaAuditor.Reports

open SolanaAuditor.Lib

abbrev Counts := List (String × Nat)

namespace SeverityCounts

def severities : List String := ["critical", "high", "medium", "low", "info"]

def noCounts : Counts := severities.map fun sev => (sev, 0)

section Count

variable (text : PyText)

/-- The loop of `count_by_severity`. -/
def countLoop : Counts → List PyDict → Py Counts
  | counts, [] => return counts
  | counts, finding :: findings => do
      let sev ← text.lowered ((Dict.get? finding "severity").getD (.str ""))
      countLoop (Tally.bump counts sev) findings

def countBySeverity (findings : List PyDict) : Py Counts :=
  if findings.isEmpty then return noCounts
  else do
    let counts ← countLoop text noCounts findings
    return Dict.set counts "total" findings.length

end Count

/-- `_mismatches`: the levels whose values differ. -/
def mismatches (expected : Counts) (actual : PyDict) : List (String × Nat × Json) :=
  severities.filterMap fun sev =>
    let count := (Dict.get? expected sev).getD 0
    let value := (Dict.get? actual sev).getD (.int 0)
    if pyKey value = some (.number (.finite count)) then none else some (sev, count, value)

/-- What `check_summary` and `check_report` expect of a document. -/
def expectedCounts (text : PyText) (d : Json) : Py Counts := do
  let findings ← pyGet d "findings" (.arr [])
  if truthy findings then countBySeverity text (← pyRows findings)
  else return noCounts

def checkSummary (text : PyText) (d : Json) : Py Nat := do
  let expected ← expectedCounts text d
  match ← pyGet d "summary" (.obj []) with
  | .obj actual => return if (mismatches expected actual).isEmpty then 0 else 1
  | _ => .error .attributeError

/-- `check_cvss_math` of a document. -/
def checkCvssMathOf (d : Json) : Py Nat := do
  let findings ← pyGet d "findings" (.arr [])
  Cvss.SeverityCounts.checkCvssMath (← pyRows findings)

theorem mismatches_eq_nil {expected : Counts} {actual : PyDict} :
    mismatches expected actual = [] ↔ ∀ sev ∈ severities,
      pyKey ((Dict.get? actual sev).getD (.int 0)) =
        some (.number (.finite ((Dict.get? expected sev).getD 0))) := by
  simp [mismatches, List.filterMap_eq_nil_iff]

theorem get?_noCounts {sev : String} (h : sev ∈ severities) :
    Dict.get? noCounts sev = some 0 := by
  revert sev
  decide

/-- Findings whose severities are texts are counted under the lower case of these. -/
theorem countLoop_ok {text : PyText} {findings : List PyDict} {sevs : List String}
    (h : List.Forall₂ (fun f s => text.lowered ((Dict.get? f "severity").getD (.str "")) = .ok s)
      findings sevs) (counts : Counts) :
    countLoop text counts findings = .ok (sevs.foldl Tally.bump counts) := by
  induction h generalizing counts with
  | nil => rfl
  | cons hf _ ih => simp [countLoop, hf, ih, bind, Except.bind]

/-- The table has every level, with the number of findings of the level. -/
theorem countBySeverity_ok {text : PyText} {findings : List PyDict} {sevs : List String}
    (h : List.Forall₂ (fun f s => text.lowered ((Dict.get? f "severity").getD (.str "")) = .ok s)
      findings sevs) :
    ∃ counts, countBySeverity text findings = .ok counts ∧
      ∀ sev ∈ severities, Dict.get? counts sev = some (sevs.count sev) := by
  have hloop := countLoop_ok h noCounts
  have hcount : ∀ sev ∈ severities,
      Dict.get? (sevs.foldl Tally.bump noCounts) sev = some (sevs.count sev) := by
    intro sev hsev
    simp [Tally.get?_foldl_bump, get?_noCounts hsev]
  cases findings with
  | nil =>
    obtain rfl := List.forall₂_nil_left_iff.mp h
    exact ⟨noCounts, rfl, hcount⟩
  | cons f findings =>
    refine ⟨Dict.set (sevs.foldl Tally.bump noCounts) "total" (findings.length + 1), ?_, ?_⟩
    · simp [countBySeverity, hloop, bind, Except.bind, pure, Except.pure]
    · intro sev hsev
      have htotal : sev ≠ "total" := by
        rintro rfl
        exact absurd hsev (by decide)
      rw [Dict.get?_set_of_ne _ _ htotal, hcount sev hsev]

theorem expectedCounts_ok {text : PyText} {d : Json} {findings : List PyDict} {sevs : List String}
    (hd : pyGet d "findings" (.arr []) = .ok (.arr (findings.map Json.obj)))
    (h : List.Forall₂ (fun f s => text.lowered ((Dict.get? f "severity").getD (.str "")) = .ok s)
      findings sevs) :
    ∃ expected, expectedCounts text d = .ok expected ∧
      ∀ sev ∈ severities, Dict.get? expected sev = some (sevs.count sev) := by
  obtain ⟨counts, hcounts, hget⟩ := countBySeverity_ok h
  cases findings with
  | nil =>
    obtain rfl := List.forall₂_nil_left_iff.mp h
    refine ⟨noCounts, ?_, fun sev hsev => by simpa using get?_noCounts hsev⟩
    simp [expectedCounts, hd, truthy, bind, Except.bind, pure, Except.pure]
  | cons f findings =>
    refine ⟨counts, ?_, hget⟩
    have hrows : pyRows (.arr ((f :: findings).map Json.obj)) = .ok (f :: findings) :=
      pyDicts_map_obj _
    rw [expectedCounts, hd]
    change pyRows (.arr ((f :: findings).map Json.obj)) >>= countBySeverity text = .ok counts
    rw [hrows]
    exact hcounts

/-- A summary that has the number of findings of every level passes the check. -/
theorem checkSummary_ok {text : PyText} {d : Json} {findings : List PyDict} {sevs : List String}
    {actual : PyDict} (hd : pyGet d "findings" (.arr []) = .ok (.arr (findings.map Json.obj)))
    (h : List.Forall₂ (fun f s => text.lowered ((Dict.get? f "severity").getD (.str "")) = .ok s)
      findings sevs)
    (hsummary : pyGet d "summary" (.obj []) = .ok (.obj actual))
    (hactual : ∀ sev ∈ severities, Dict.get? actual sev = some (.int (sevs.count sev))) :
    checkSummary text d = .ok 0 := by
  obtain ⟨expected, hexpected, hget⟩ := expectedCounts_ok hd h
  have hnil : mismatches expected actual = [] := by
    rw [mismatches_eq_nil]
    intro sev hsev
    simp [hactual sev hsev, hget sev hsev, pyKey]
  simp [checkSummary, hexpected, hsummary, hnil, bind, Except.bind, pure, Except.pure]

theorem checkCvssMathOf_eq {d : Json} {findings : List PyDict}
    (hd : pyGet d "findings" (.arr []) = .ok (.arr (findings.map Json.obj))) :
    checkCvssMathOf d = Cvss.SeverityCounts.checkCvssMath findings := by
  simp [checkCvssMathOf, hd, pyRows, pyDicts_map_obj, bind, Except.bind]

end SeverityCounts

end SolanaAuditor.Reports
