/- SolanaAuditor/Reports/LevelCounts
   digest: The counting loop that dashboard.py and audit-report.py share. -/

import SolanaAuditor.Reports.SeverityTable

set_option autoImplicit false
set_option relaxedAutoImplicit false

namespace SolanaAuditor.Reports

open SolanaAuditor.Lib

/-- `SEVERITY_LEVELS` of dashboard.py and `SEVERITY_ORDER` of audit-report.py. -/
def severityLevels : List String := ["CRITICAL", "HIGH", "MEDIUM", "LOW", "INFO"]

/-- `{s: 0 for s in SEVERITY_LEVELS}` -/
def noLevels : Counts := severityLevels.map fun s => (s, 0)

section Loop

variable (text : PyText)

def levelLoop : Counts → List PyDict → Py Counts
  | counts, [] => return counts
  | counts, f :: findings => do
      let sev ← text.uppered (field f "severity" (.str "INFO"))
      levelLoop (Tally.bump counts sev) findings

def levelCounts (findings : List PyDict) : Py Counts := levelLoop text noLevels findings

end Loop

/-- The severity is missing or a text. -/
def TextSeverity (f : PyDict) : Prop :=
  ∀ v, Dict.get? f "severity" = some v → ∃ s, v = .str s

/-- The severity of a finding where it is a text, else a default. -/
def severityText (default : String) (f : PyDict) : String :=
  match Dict.get? f "severity" with
  | some (.str s) => s
  | _ => default

/-- The number of findings whose severity, missing read as `default`, is `level` in upper case. -/
def upperCount (text : PyText) (default : String) (findings : List PyDict) (level : String) :
    Nat :=
  findings.countP fun f => text.upper (severityText default f) == level

section Severity

variable {f : PyDict}

theorem TextSeverity.field_eq (h : TextSeverity f) (default : String) :
    field f "severity" (.str default) = .str (severityText default f) := by
  unfold severityText field
  cases hget : Dict.get? f "severity" with
  | none => rfl
  | some v =>
    obtain ⟨s, rfl⟩ := h v hget
    rfl

theorem severityText_of_present {s : String} (h : Dict.get? f "severity" = some (.str s))
    (default : String) : severityText default f = s := by
  simp [severityText, h]

theorem severityText_of_absent (h : Dict.get? f "severity" = none) (default : String) :
    severityText default f = default := by
  simp [severityText, h]

end Severity

section Count

variable {text : PyText} {findings : List PyDict}

theorem levelLoop_ok (h : ∀ f ∈ findings, TextSeverity f) (counts : Counts) :
    levelLoop text counts findings =
      .ok ((findings.map fun f => text.upper (severityText "INFO" f)).foldl Tally.bump counts) := by
  induction findings generalizing counts with
  | nil => rfl
  | cons f findings ih =>
    obtain ⟨hf, hfindings⟩ := List.forall_mem_cons.mp h
    simp only [levelLoop, hf.field_eq "INFO", PyText.uppered, pure_bind, List.map_cons,
      List.foldl_cons]
    exact ih hfindings _

theorem get?_noLevels {level : String} (h : level ∈ severityLevels) :
    Dict.get? noLevels level = some 0 := by
  revert level
  decide

/-- The table has every level, with the number of findings of the level. -/
theorem levelCounts_ok (text : PyText) (h : ∀ f ∈ findings, TextSeverity f) :
    ∃ counts, levelCounts text findings = .ok counts ∧ ∀ level ∈ severityLevels,
      Dict.get? counts level = some (upperCount text "INFO" findings level) := by
  refine ⟨_, levelLoop_ok h noLevels, ?_⟩
  intro level hlevel
  rw [Tally.get?_foldl_bump, get?_noLevels hlevel, Option.map_some, Nat.zero_add, List.count,
    List.countP_map]
  rfl

end Count

end SolanaAuditor.Reports
