/- SolanaAuditor/Reports/TriageScores
   digest: When triage returns, and reports the scores that the findings have. -/

import SolanaAuditor.Reports.TriageRecompute

set_option autoImplicit false
set_option relaxedAutoImplicit false

namespace SolanaAuditor.Reports.Triage

open SolanaAuditor.Lib

/-- The score of a row: the cvss of the finding where it is a finite number, DEFAULT_CVSS where it
is missing or no number. -/
def expectedCvss (f : PyDict) : Option FloatValue :=
  match f.get "cvss" with
  | .int n => some (.finite n)
  | .float (.finite q) => some (.finite q)
  | .float _ => none
  | .null | .bool _ | .str _ | .arr _ | .obj _ => some (.finite defaultCvss)

/-- The row reports the expected score, and its priority is computed from it. -/
def RowReports (text : PyText) (f : PyDict) (r : TriageEntry) : Prop :=
  ∀ x, expectedCvss f = some x → r.cvss = x ∧ r.priorityScore =
    ((baseScore text f x).add (.finite (openBonus text f))).rounded Decimal.roundHundredth

/-- Triage returns a row for each finding that passes, as recompute_cvss left it, with its score. -/
def ReportsScores (text : PyText) (parseFloat : String → Option FloatValue)
    (helper : Option (String → Option ℚ)) (minSeverity statusFilter : Option String)
    (recompute : Bool) (findings : List PyDict) : Prop :=
  ∃ result rows,
    triage text parseFloat helper findings minSeverity statusFilter recompute = .ok result ∧
    List.Forall₂ (fun f r => enrichFinding text parseFloat f = .ok r ∧ RowReports text f r)
      ((kept text minSeverity statusFilter findings).map (settled helper recompute)) rows ∧
    result.1.findings.Perm rows

/-- A cvss that is reported as it should be: no number that Python takes for false, and no value
but a number that it takes for true, save a text of the default score. -/
def WellScored (parseFloat : String → Option FloatValue) : Json → Prop
  | .null => True
  | .bool b => b = false
  | .int n => n ≠ 0 ∧ n.natAbs < floatLimit
  | .float x => x ≠ .finite 0
  | .str s => s = "" ∨ parseFloat s = some (.finite defaultCvss)
  | .arr items => items = []
  | .obj entries => entries = []

section Scores

variable {text : PyText} {parseFloat : String → Option FloatValue}

theorem cvssOf_expected_iff {f : PyDict} :
    (∃ x, cvssOf parseFloat f = .ok x ∧ ∀ y, expectedCvss f = some y → x = y) ↔
      WellScored parseFloat (f.get "cvss") := by
  unfold cvssOf expectedCvss
  cases hcvss : f.get "cvss" with
  | null => simp [WellScored, pyOr, truthy, pyFloat, toFloat]
  | bool b => cases b <;> simp [WellScored, pyOr, truthy, pyFloat, toFloat, defaultCvss]
  | int n =>
    by_cases hn : n = 0
    · subst hn
      simp [WellScored, pyOr, truthy, pyFloat, toFloat, defaultCvss]
    · by_cases hrange : n.natAbs < floatLimit
      · simp [WellScored, pyOr, truthy, hn, pyFloat, toFloat, floatOfInt, hrange]
      · simp [WellScored, pyOr, truthy, hn, pyFloat, toFloat, floatOfInt, hrange]
  | float x =>
    cases x with
    | finite q =>
      by_cases hq : q = 0
      · subst hq
        simp [WellScored, pyOr, truthy, pyFloat, toFloat, defaultCvss]
      · simp [WellScored, pyOr, truthy, hq, pyFloat, toFloat]
    | posInf | negInf | nan => simp [WellScored, pyOr, truthy, pyFloat, toFloat]
  | str s =>
    by_cases hs : s = ""
    · simp [WellScored, pyOr, truthy, hs, pyFloat, toFloat]
    · cases hparse : parseFloat s with
      | none => simp [WellScored, pyOr, truthy, hs, pyFloat, hparse]
      | some x => simp [WellScored, pyOr, truthy, hs, pyFloat, hparse]
  | arr items => cases items <;> simp [WellScored, pyOr, truthy, pyFloat, toFloat]
  | obj entries => cases entries <;> simp [WellScored, pyOr, truthy, pyFloat, toFloat]

variable (text) in
theorem row_iff {f : PyDict} :
    (∃ r, enrichFinding text parseFloat f = .ok r ∧ RowReports text f r) ↔
      Located f ∧ WellScored parseFloat (f.get "cvss") := by
  rw [← cvssOf_expected_iff]
  constructor
  · rintro ⟨r, hr, hreports⟩
    obtain ⟨hlocated, x, hx, rfl⟩ := enrichFinding_ok_iff.mp hr
    exact ⟨hlocated, x, hx, fun y hy => (hreports y hy).1⟩
  · rintro ⟨hlocated, x, hx, hexpected⟩
    refine ⟨_, enrichFinding_ok_iff.mpr ⟨hlocated, x, hx, rfl⟩, ?_⟩
    intro y hy
    obtain rfl := hexpected y hy
    exact ⟨rfl, rfl⟩

end Scores

/-- No row of a finding of a badly formed score will do. -/
theorem not_reportsScores {text : PyText} {parseFloat : String → Option FloatValue}
    {helper : Option (String → Option ℚ)} {recompute : Bool} {f : PyDict}
    (h : ¬ WellScored parseFloat ((settled helper recompute f).get "cvss")) :
    ¬ ReportsScores text parseFloat helper none none recompute [f] := by
  rintro ⟨result, rows, -, hrows, -⟩
  have hmem : settled helper recompute f ∈
      (kept text none none [f]).map (settled helper recompute) :=
    List.mem_map_of_mem (mem_kept.mpr ⟨List.mem_cons_self, rfl, rfl⟩)
  have hrow := Lists.exists_forall₂_iff.mp ⟨rows, hrows⟩ _ hmem
  exact h ((row_iff text).mp hrow).2

/-- The finding of a vector without any impact, whose score is 0. -/
def harmlessFinding : PyDict :=
  [("id", .str "VULN-01"), ("cvss", .float (.finite (15 / 2))),
    ("cvss_vector", .str "CVSS:3.1/AV:N/AC:L/PR:N/UI:N/S:U/C:N/I:N/A:N")]

end SolanaAuditor.Reports.Triage
