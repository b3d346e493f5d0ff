/- SolanaAuditor/Sast/IntegrityChecks
   digest: Whether the document of run-sast.py passes check_summary and check_cvss_math. -/

import SolanaAuditor.Cvss.CheckMath
import SolanaAuditor.Reports.SeverityTable
import SolanaAuditor.Sast.Occurrences

set_option autoImplicit false
set_option relaxedAutoImplicit false

namespace SolanaAuditor.Sast

open SolanaAuditor.Lib SolanaAuditor.Suggestions SolanaAuditor.Reports

def entriesOf (f : Finding) : PyDict :=
  match asdict f with
  | .obj entries => entries
  | _ => []

/-- The document is read by both checks as the list of its findings. -/
theorem rows_document (text : PyText) (env : Surroundings) (rules : List Rule)
    (findings : List Finding) :
    pyGet (document text env rules findings) "findings" (.arr []) =
      .ok (.arr ((findings.map entriesOf).map Json.obj)) := by
  rw [List.map_map]
  rfl

section Summary

variable {text : PyText}

theorem severityCounts_eq (findings : List Finding) :
    severityCounts text findings = (findings.map fun f => text.lower f.severity).foldl Tally.bump
      [("critical", 0), ("high", 0), ("medium", 0), ("low", 0), ("info", 0),
        ("total", findings.length)] := by
  rw [List.foldl_map]
  rfl

theorem get?_severityCounts (findings : List Finding) {sev : String}
    (h : sev ∈ SeverityCounts.severities) :
    Dict.get? (severityCounts text findings) sev =
      some ((findings.map fun f => text.lower f.severity).count sev) := by
  rw [severityCounts_eq, Tally.get?_foldl_bump]
  have hzero : Dict.get? [("critical", 0), ("high", 0), ("medium", 0), ("low", 0), ("info", 0),
      ("total", findings.length)] sev = some 0 := by
    simp only [SeverityCounts.severities, List.mem_cons, List.not_mem_nil, or_false] at h
    rcases h with rfl | rfl | rfl | rfl | rfl <;> rfl
  simp [hzero]

theorem get?_map_int (counts : Counts) (k : String) :
    Dict.get? (counts.map fun e => (e.1, Json.int e.2)) k =
      (Dict.get? counts k).map fun n => Json.int n := by
  induction counts with
  | nil => rfl
  | cons e counts ih =>
    obtain ⟨k', n⟩ := e
    by_cases h : k' = k <;> simp [h, ih]

/-- The summary of a scan counts the levels as the check does, whatever the severities. -/
theorem checkSummary_document (env : Surroundings) (rules : List Rule) (findings : List Finding) :
    SeverityCounts.checkSummary text (document text env rules findings) = .ok 0 := by
  have hsevs : List.Forall₂
      (fun f s => text.lowered ((Dict.get? f "severity").getD (.str "")) = .ok s)
      (findings.map entriesOf) (findings.map fun f => text.lower f.severity) := by
    rw [List.forall₂_map_left_iff, List.forall₂_map_right_iff, List.forall₂_same]
    intro f _
    rfl
  refine SeverityCounts.checkSummary_ok (rows_document text env rules findings) hsevs rfl ?_
  intro sev hsev
  rw [get?_map_int, get?_severityCounts findings hsev]
  rfl

end Summary

section CvssMath

variable {text : PyText}

/-- The score is the one of the vector, within the tolerance of check_cvss_math. -/
def agrees (score : ℚ × String) : Bool :=
  match Cvss.SeverityCounts.computeCvssScore score.2 with
  | some computed =>
      !farFrom (.finite score.1) computed Cvss.SeverityCounts.cvssScoreTolerance
  | none => false

/-- Of the table and its fallback only the entry of CRITICAL agrees with its vector. -/
theorem agrees_scoreOf (sev : String) : agrees (scoreOf sev) = decide (sev = "CRITICAL") := by
  have htable : ∀ e ∈ severityScore, agrees e.2 = decide (e.1 = "CRITICAL") := by decide +kernel
  unfold scoreOf
  cases h : Dict.get? severityScore sev with
  | some score => exact htable (sev, score) (Dict.mem_of_get? h)
  | none =>
    have hne : sev ≠ "CRITICAL" := by
      rintro rfl
      simp [severityScore] at h
    rw [decide_eq_false hne]
    decide +kernel

theorem scoreOf_vector_ne (sev : String) : (scoreOf sev).2 ≠ "" := by
  have htable : ∀ e ∈ severityScore, e.2.2 ≠ "" := by decide
  unfold scoreOf
  cases h : Dict.get? severityScore sev with
  | some score => exact htable (sev, score) (Dict.mem_of_get? h)
  | none => decide

theorem checkFinding_eq_nil (f : Finding) (hvector : f.cvssVector ≠ "") :
    Cvss.SeverityCounts.checkFinding (entriesOf f) = .ok [] ↔
      agrees (f.cvss, f.cvssVector) = true := by
  have hvec : Dict.get? (entriesOf f) "cvss_vector" = some (.str f.cvssVector) := rfl
  have hcvss : (entriesOf f).get "cvss" = .float (.finite f.cvss) := rfl
  cases hscore : Cvss.SeverityCounts.computeCvssScore f.cvssVector with
  | none =>
    simp [Cvss.SeverityCounts.checkFinding, hvec, hcvss, truthy, hvector, hscore, agrees, pure,
      Except.pure]
  | some computed =>
    have hs : Cvss.scored (entriesOf f) = some computed :=
      Cvss.scored_eq_some.mpr ⟨f.cvssVector, rfl, hscore⟩
    have hx : toFloat ((entriesOf f).get "cvss") = .ok (.finite f.cvss) := rfl
    rw [Cvss.checkFinding_scored hs hx]
    cases hfar : farFrom (.finite f.cvss) computed Cvss.SeverityCounts.cvssScoreTolerance <;>
      simp [agrees, hscore, hfar]

theorem checkFinding_yields {o : Occurrence} {f : Finding} (h : Yields text o f) :
    Cvss.SeverityCounts.checkFinding (entriesOf f) = .ok [] ↔
      ∃ s, o.rule.severity = .str s ∧ text.upper s = "CRITICAL" := by
  obtain ⟨s, hs, hscore⟩ := h.severity
  have hne : f.cvssVector ≠ "" := by
    intro hnil
    exact scoreOf_vector_ne (text.upper s) ((congrArg Prod.snd hscore).symm.trans hnil)
  rw [checkFinding_eq_nil f hne, hscore, agrees_scoreOf, decide_eq_true_iff, hs]
  simp

end CvssMath

/-- The document passes both checks. -/
def PassesChecks (text : PyText) (doc : Json) : Prop :=
  SeverityCounts.checkSummary text doc = .ok 0 ∧ SeverityCounts.checkCvssMathOf doc = .ok 0

/-- Every rule with a match in a file that is not left out has the severity CRITICAL. -/
def OnlyCriticalFires (text : PyText) (engine : Engine) (env : Surroundings) : Prop :=
  ∀ rules, loadRules env.rulesFile = .ok (some rules) →
    ∀ file ∈ env.files, excluded file = false → ∀ rule ∈ rules, Fires engine rule file →
      ∃ s, rule.severity = .str s ∧ text.upper s = "CRITICAL"

/-- The written document passes both checks exactly when no rule fires but critical ones. -/
theorem document_passes_checks_iff (text : PyText) (engine : Engine) (env : Surroundings)
    {doc : Json} (h : main text engine env = .written doc) :
    PassesChecks text doc ↔ OnlyCriticalFires text engine env := by
  obtain ⟨rules, findings, hrules, hfindings, rfl⟩ := main_written h
  have honly : OnlyCriticalFires text engine env ↔
      ∀ o ∈ occurrences engine rules env.files,
        ∃ s, o.rule.severity = .str s ∧ text.upper s = "CRITICAL" := by
    rw [forall_occurrence_rule (p := fun rule =>
      ∃ s, rule.severity = .str s ∧ text.upper s = "CRITICAL")]
    constructor
    · exact fun hs => hs rules hrules
    · intro hs rules' hrules'
      obtain rfl := Option.some.inj (Except.ok.inj (hrules.symm.trans hrules'))
      exact hs
  have hmath : SeverityCounts.checkCvssMathOf (document text env rules findings) = .ok 0 ↔
      ∀ f ∈ findings, Cvss.SeverityCounts.checkFinding (entriesOf f) = .ok [] := by
    rw [SeverityCounts.checkCvssMathOf_eq (rows_document text env rules findings),
      Cvss.SeverityCounts.checkCvssMath_eq_zero, List.forall_mem_map]
  rw [PassesChecks, hmath, honly, and_iff_right (checkSummary_document env rules findings)]
  exact (Lists.forall_mem_iff_of_forall₂ (runAudit_ok hfindings) fun o _ f hf =>
    (checkFinding_yields hf).symm).symm

/-- A scan with one match of one rule of the given severity. -/
def severityRun (severity : String) : Surroundings :=
  { sampleRun "invoke_signed(&ix)?;\n" with
    rulesFile := .value (.obj [("rules", .arr [.obj [
      ("rule_id", .str "RULE-04"), ("severity", .str severity), ("cwe", .str "CWE-862"),
      ("pattern", .str "invoke_signed"), ("pattern_type", .str "regex"),
      ("file_glob", .str "**/*.rs"), ("description", .str "Unchecked CPI"),
      ("impact", .str "Privilege escalation"),
      ("recommendation", .str "Check the program id")]])]) }

theorem document_passes_checks_iff_critical :
    ∃ doc, main PyText.ascii literalEngine (severityRun "critical") = .written doc ∧
      PassesChecks PyText.ascii doc := by
  refine ⟨_, rfl, (document_passes_checks_iff PyText.ascii literalEngine
    (severityRun "critical") rfl).mpr ?_⟩
  intro rules hrules file _ _ rule hrule _
  obtain rfl := Option.some.inj (Except.ok.inj hrules)
  obtain rfl := List.mem_singleton.mp hrule
  exact ⟨"critical", rfl, by decide⟩

theorem document_of_high_rule_fails_cvss_math :
    ∃ doc, main PyText.ascii literalEngine (severityRun "HIGH") = .written doc ∧
      ¬ PassesChecks PyText.ascii doc := by
  refine ⟨_, rfl, ?_⟩
  rintro ⟨-, hmath⟩
  revert hmath
  decide +kernel

end SolanaAuditor.Sast
