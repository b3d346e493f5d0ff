/- SolanaAuditor/Reports/CountAgreement
   digest: When the four severity counters give one table. -/

import SolanaAuditor.Lib.Lists
import SolanaAuditor.Reports.AuditReport
import SolanaAuditor.Reports.Dashboard
import SolanaAuditor.Reports.TriageRows

set_option autoImplicit false
set_option relaxedAutoImplicit false

namespace SolanaAuditor.Reports

open SolanaAuditor.Lib

/-- The levels, as count_by_severity and as the other counters write them. -/
def levels : List (String × String) :=
  [("critical", "CRITICAL"), ("high", "HIGH"), ("medium", "MEDIUM"), ("low", "LOW"),
    ("info", "INFO")]

/-- What Python's case tables say of the levels. -/
structure LevelCasing (text : PyText) : Prop where
  upperOfLower : ∀ p ∈ levels, ∀ s, text.lower s = p.1 → text.upper s = p.2
  upperLevel : ∀ p ∈ levels, text.upper p.2 = p.2
  lowerEmpty : text.lower "" = ""

/-- The severity of a finding is present, and a level in upper case only if it is one in lower
case. -/
def Leveled (text : PyText) (f : PyDict) : Prop :=
  ∃ s, Dict.get? f "severity" = some (.str s) ∧
    ∀ p ∈ levels, text.upper s = p.2 → text.lower s = p.1

/-- The four counters return, and agree on every level. -/
def CountersAgree (text : PyText) (parseFloat : String → Option FloatValue)
    (helper : Option (String → Option ℚ)) (findings : List PyDict) : Prop :=
  ∃ counts summary reportCounts result,
    SeverityCounts.countBySeverity text findings = .ok counts ∧
    Dashboard.computeSummary text findings = .ok summary ∧
    AuditReport.counts text findings = .ok reportCounts ∧
    Triage.triage text parseFloat helper findings none none false = .ok result ∧
    ∀ p ∈ levels,
      (Dict.get? counts p.1).getD 0 = summary.count p.2 ∧
      summary.count p.2 = (Dict.get? reportCounts p.2).getD 0 ∧
      (Dict.get? reportCounts p.2).getD 0 = (Dict.get? result.1.bySeverity p.2).getD 0

/-- The severity is missing or a text, the cvss missing or a number, the location missing or an
object. -/
structure Countable (f : PyDict) : Prop where
  severity : TextSeverity f
  cvss : ∀ v, Dict.get? f "cvss" = some v → (∃ n, v = .int n) ∨ ∃ x, v = .float x
  location : ∀ v, Dict.get? f "location" = some v → ∃ d, v = .obj d

section Counters

variable {text : PyText} {parseFloat : String → Option FloatValue} {findings : List PyDict}

def lowerCount (text : PyText) (findings : List PyDict) (level : String) : Nat :=
  findings.countP fun f => text.lower (severityText "" f) == level

theorem lowered_severities (text : PyText) (h : ∀ f ∈ findings, TextSeverity f) :
    List.Forall₂ (fun f s => text.lowered ((Dict.get? f "severity").getD (.str "")) = .ok s)
      findings (findings.map fun f => text.lower (severityText "" f)) := by
  rw [List.forall₂_map_right_iff, List.forall₂_same]
  intro f hf
  have hfield := (h f hf).field_eq ""
  unfold field at hfield
  rw [hfield]
  rfl

theorem count_lowered (level : String) :
    (findings.map fun f => text.lower (severityText "" f)).count level =
      lowerCount text findings level := by
  rw [List.count, List.countP_map]
  rfl

variable (text) in
theorem countBySeverity_returns (h : ∀ f ∈ findings, TextSeverity f) :
    ∃ counts, SeverityCounts.countBySeverity text findings = .ok counts ∧ ∀ p ∈ levels,
      (Dict.get? counts p.1).getD 0 = lowerCount text findings p.1 := by
  have hsevs := lowered_severities text h
  obtain ⟨counts, hcounts, hget⟩ := SeverityCounts.countBySeverity_ok hsevs
  refine ⟨counts, hcounts, fun p hp => ?_⟩
  have hsev : p.1 ∈ SeverityCounts.severities := by
    revert p
    decide
  rw [hget p.1 hsev, Option.getD_some, count_lowered]

variable (parseFloat) in
/-- The score of a finding is read unless it is an integer too large for a float. -/
theorem cvssOf_returns {f : PyDict} (h : Countable f) :
    (∃ x, Triage.cvssOf parseFloat f = .ok x) ↔
      ∀ n, Dict.get? f "cvss" = some (.int n) → n.natAbs < floatLimit := by
  unfold Triage.cvssOf PyDict.get
  cases hget : Dict.get? f "cvss" with
  | none => exact iff_of_true ⟨_, rfl⟩ (by simp)
  | some v =>
    rcases h.cvss v hget with ⟨n, rfl⟩ | ⟨x, rfl⟩
    · by_cases hn : n = 0
      · subst hn
        refine iff_of_true ⟨_, rfl⟩ fun m hm => ?_
        obtain rfl := Json.int.inj (Option.some.inj hm)
        exact Triage.floatLimit_pos
      · have htrue : truthy (.int n) = true := by simp [truthy, hn]
        simp only [Option.getD_some, pyOr, htrue, if_true, pyFloat, toFloat_returns, isNumber,
          true_and, Json.int.injEq, Option.some.injEq]
    · refine iff_of_true ?_ (by simp)
      cases htrue : truthy (.float x) with
      | true => exact ⟨x, by simp [pyOr, htrue, pyFloat, toFloat]⟩
      | false => exact ⟨.finite Triage.defaultCvss, by simp [pyOr, htrue, pyFloat, toFloat]⟩

theorem enrichFinding_returns {f : PyDict} (h : Countable f) :
    (∃ row, Triage.enrichFinding text parseFloat f = .ok row) ↔
      ∀ n, Dict.get? f "cvss" = some (.int n) → n.natAbs < floatLimit := by
  have hlocated : Triage.Located f := by
    refine Triage.located_of_object ?_
    unfold PyDict.get
    cases hget : Dict.get? f "location" with
    | none => exact .inl rfl
    | some v => exact .inr (h.location v hget)
  rw [Triage.enrichFinding_returns_iff, and_iff_right hlocated, cvssOf_returns parseFloat h]

theorem enrichFinding_severity {f : PyDict} (h : TextSeverity f) {row : Triage.TriageEntry}
    (hrow : Triage.enrichFinding text parseFloat f = .ok row) :
    row.severity = text.upper (severityText "MEDIUM" f) := by
  obtain ⟨-, cvss, -, rfl⟩ := Triage.enrichFinding_ok_iff.mp hrow
  simp only [Triage.rowOf, h.field_eq "MEDIUM", PyText.format]

variable (text parseFloat) in
theorem triage_returns (helper : Option (String → Option ℚ)) (h : ∀ f ∈ findings, Countable f) :
    (∃ result, Triage.triage text parseFloat helper findings none none false = .ok result) ↔
      ∀ f ∈ findings, ∀ n, Dict.get? f "cvss" = some (.int n) → n.natAbs < floatLimit := by
  have hrows : (∃ rows, Triage.enrichAll text parseFloat findings = .ok rows) ↔
      ∀ f ∈ findings, ∀ n, Dict.get? f "cvss" = some (.int n) → n.natAbs < floatLimit :=
    Triage.enrichAll_returns.trans (forall₂_congr fun f hf => enrichFinding_returns (h f hf))
  rw [← hrows, Triage.triage_all]
  constructor
  · rintro ⟨result, hresult⟩
    obtain ⟨rows, hrows, -⟩ := Py.bind_eq_ok.mp hresult
    exact ⟨rows, hrows⟩
  · rintro ⟨rows, hrows⟩
    exact ⟨_, Py.bind_eq_ok.mpr ⟨rows, hrows, rfl⟩⟩

theorem severities_of_rows {rows : List Triage.TriageEntry} (h : ∀ f ∈ findings, TextSeverity f)
    (hrows : List.Forall₂ (fun f r => Triage.enrichFinding text parseFloat f = .ok r) findings
      rows) :
    rows.map Triage.TriageEntry.severity =
      findings.map fun f => text.upper (severityText "MEDIUM" f) := by
  induction hrows with
  | nil => rfl
  | cons hrow _ ih =>
    obtain ⟨hf, hfindings⟩ := List.forall_mem_cons.mp h
    rw [List.map_cons, List.map_cons, enrichFinding_severity hf hrow, ih hfindings]

theorem triage_count {helper : Option (String → Option ℚ)} {result : Triage.TriageReport × Nat × Nat}
    (h : ∀ f ∈ findings, TextSeverity f)
    (hresult : Triage.triage text parseFloat helper findings none none false = .ok result)
    (level : String) :
    (Dict.get? result.1.bySeverity level).getD 0 = upperCount text "MEDIUM" findings level := by
  rw [Triage.triage_all] at hresult
  obtain ⟨rows, hrows, hresult⟩ := Py.bind_eq_ok.mp hresult
  obtain rfl := Except.ok.inj hresult
  rw [Triage.bySeverity_count]
  rw [severities_of_rows h (Triage.enrichAll_ok.mp hrows), List.count, List.countP_map]
  rfl

end Counters

section Levels

variable {text : PyText} {findings : List PyDict}

/-- Where every severity is levelled, a default is never used and both cases count alike. -/
theorem upperCount_of_leveled (hcase : LevelCasing text) (h : ∀ f ∈ findings, Leveled text f)
    (default : String) {p : String × String} (hp : p ∈ levels) :
    upperCount text default findings p.2 = lowerCount text findings p.1 := by
  refine List.countP_congr fun f hf => ?_
  obtain ⟨s, hs, hlevel⟩ := h f hf
  rw [severityText_of_present hs, severityText_of_present hs, beq_iff_eq, beq_iff_eq]
  exact ⟨hlevel p hp, hcase.upperOfLower p hp s⟩

/-- The table of triage is the one of count_by_severity only where every severity is levelled. -/
theorem leveled_of_counts (hcase : LevelCasing text) (htexts : ∀ f ∈ findings, TextSeverity f)
    (h : ∀ p ∈ levels, lowerCount text findings p.1 = upperCount text "MEDIUM" findings p.2) :
    ∀ f ∈ findings, Leveled text f := by
  have hpoint : ∀ p ∈ levels, ∀ f ∈ findings, text.upper (severityText "MEDIUM" f) = p.2 →
      text.lower (severityText "" f) = p.1 := by
    intro p hp
    have himp : ∀ f ∈ findings, (text.lower (severityText "" f) == p.1) = true →
        (text.upper (severityText "MEDIUM" f) == p.2) = true := by
      intro f hf hlower
      rw [beq_iff_eq] at hlower ⊢
      cases hget : Dict.get? f "severity" with
      | none =>
        rw [severityText_of_absent hget, hcase.lowerEmpty] at hlower
        exact absurd hlower (by revert p; decide)
      | some v =>
        obtain ⟨s, rfl⟩ := htexts f hf v hget
        rw [severityText_of_present hget] at hlower ⊢
        exact hcase.upperOfLower p hp s hlower
    have hcount := (Lists.countP_eq_iff_of_imp himp).mp (h p hp)
    simpa only [beq_iff_eq] using hcount
  intro f hf
  cases hget : Dict.get? f "severity" with
  | none =>
    have hmedium : ("medium", "MEDIUM") ∈ levels := by decide
    have hlower := hpoint _ hmedium f hf (by
      rw [severityText_of_absent hget]
      exact hcase.upperLevel _ hmedium)
    rw [severityText_of_absent hget, hcase.lowerEmpty] at hlower
    exact absurd hlower (by decide)
  | some v =>
    obtain ⟨s, rfl⟩ := htexts f hf v hget
    refine ⟨s, hget, fun p hp hupper => ?_⟩
    have hlower := hpoint p hp f hf (by rwa [severityText_of_present hget])
    rwa [severityText_of_present hget] at hlower

end Levels

/-- The four counters agree exactly when every finding has a severity that is a level in lower
case if it is one in upper case, no integer score is too large for a float, and the dashboard's
average of the scores exists. -/
theorem counters_agree_iff (text : PyText) (parseFloat : String → Option FloatValue)
    (helper : Option (String → Option ℚ)) (findings : List PyDict) (hcase : LevelCasing text)
    (h : ∀ f ∈ findings, Countable f) :
    CountersAgree text parseFloat helper findings ↔
      (∀ f ∈ findings, Leveled text f) ∧
      (∀ f ∈ findings, ∀ n, Dict.get? f "cvss" = some (.int n) → n.natAbs < floatLimit) ∧
      Dashboard.Averageable findings := by
  have htexts : ∀ f ∈ findings, TextSeverity f := fun f hf => (h f hf).severity
  have hlevel : ∀ p ∈ levels, p.2 ∈ severityLevels := by decide
  obtain ⟨counts, hcounts, hlower⟩ := countBySeverity_returns text htexts
  obtain ⟨reportCounts, hreport, hupper⟩ := levelCounts_ok text htexts
  rw [← triage_returns text parseFloat helper h,
    ← Dashboard.computeSummary_returns text htexts]
  constructor
  · rintro ⟨counts', summary, _, result, hcounts', hsummary, -, htriage, hagree⟩
    obtain rfl := Except.ok.inj (hcounts.symm.trans hcounts')
    refine ⟨leveled_of_counts hcase htexts fun p hp => ?_, ⟨result, htriage⟩, summary, hsummary⟩
    obtain ⟨h₁, h₂, h₃⟩ := hagree p hp
    rw [← hlower p hp, h₁, h₂, h₃, triage_count htexts htriage]
  · rintro ⟨hleveled, ⟨result, htriage⟩, summary, hsummary⟩
    refine ⟨counts, summary, reportCounts, result, hcounts, hsummary, hreport, htriage,
      fun p hp => ?_⟩
    rw [hlower p hp, Dashboard.computeSummary_count htexts hsummary (hlevel p hp),
      hupper p.2 (hlevel p hp), Option.getD_some,
      triage_count htexts htriage, upperCount_of_leveled hcase hleveled "INFO" hp,
      upperCount_of_leveled hcase hleveled "MEDIUM" hp]
    exact ⟨rfl, rfl, rfl⟩

section Ascii

theorem toUpper_toLower (c : Char) : c.toLower.toUpper = c.toUpper := by
  by_cases h : c.val ≥ 'A'.val ∧ c.val ≤ 'Z'.val
  · have hcases : ∀ n < 91, 65 ≤ n → (Char.ofNat n).toLower.toUpper = (Char.ofNat n).toUpper := by
      decide
    have hlow : 65 ≤ c.toNat := UInt32.le_iff_toNat_le.mp h.1
    have hhigh : c.toNat ≤ 90 := UInt32.le_iff_toNat_le.mp h.2
    rw [← Char.ofNat_toNat c]
    exact hcases c.toNat (by omega) hlow
  · have hsame : c.toLower = c := dif_neg h
    rw [hsame]

theorem levelCasing_ascii : LevelCasing PyText.ascii where
  upperOfLower := by
    intro p hp s hlower
    have hagain : PyText.ascii.upper (PyText.ascii.lower s) = PyText.ascii.upper s := by
      simp only [PyText.ascii, String.toList_ofList, List.map_map]
      exact congrArg String.ofList (List.map_congr_left fun c _ => toUpper_toLower c)
    rw [← hagain, hlower]
    clear hlower hagain
    revert p
    decide
  upperLevel := by decide
  lowerEmpty := by decide

end Ascii

def countedFinding (severity : String) : PyDict :=
  [("id", .str "VULN-01"), ("severity", .str severity), ("cvss", .int 8)]

theorem countable_countedFinding (severity : String) : Countable (countedFinding severity) where
  severity := by
    intro v hv
    exact ⟨severity, (Option.some.inj hv).symm⟩
  cvss := by
    intro v hv
    exact Or.inl ⟨8, (Option.some.inj hv).symm⟩
  location := by
    intro v hv
    simp [countedFinding] at hv

theorem counters_agree_iff_high :
    CountersAgree PyText.ascii (fun _ => none) none [countedFinding "High"] := by
  have hall : ∀ f ∈ [countedFinding "High"], f = countedFinding "High" := by simp
  have hscores : Dashboard.cvssScores [countedFinding "High"] = [8].map PyNumber.int := rfl
  refine (counters_agree_iff PyText.ascii (fun _ => none) none [countedFinding "High"]
    levelCasing_ascii ?_).mpr ⟨?_, ?_, ?_, ?_⟩
  · intro f hf
    obtain rfl := hall f hf
    exact countable_countedFinding "High"
  · intro f hf
    obtain rfl := hall f hf
    exact ⟨"High", rfl, by decide⟩
  · intro f hf n hn
    obtain rfl := hall f hf
    obtain rfl := Json.int.inj (Option.some.inj hn)
    decide +kernel
  · rw [hscores, ← PyNumber.sum_returns]
    exact ⟨_, PyNumber.sumFrom_ints 0 [8]⟩
  · intro ints hints _
    obtain rfl := List.map_injective_iff.mpr (fun _ _ h => PyNumber.int.inj h)
      (hscores.symm.trans hints)
    decide +kernel

/-- A finding without a severity is nothing for one counter and MEDIUM for another. -/
theorem counters_disagree_on_missing_severity :
    Countable [("id", .str "VULN-01")] ∧
      ¬ CountersAgree PyText.ascii (fun _ => none) none [[("id", .str "VULN-01")]] := by
  have hcountable : Countable [("id", .str "VULN-01")] :=
    ⟨by simp [TextSeverity], by simp, by simp⟩
  refine ⟨hcountable, ?_⟩
  rintro ⟨counts, summary, _, result, hcounts, -, -, htriage, hagree⟩
  obtain ⟨h₁, h₂, h₃⟩ := hagree ("medium", "MEDIUM") (by decide)
  obtain rfl := Except.ok.inj hcounts
  have htexts : ∀ f ∈ [[("id", Json.str "VULN-01")]], TextSeverity f := by
    intro f hf
    obtain rfl := List.mem_singleton.mp hf
    exact hcountable.severity
  rw [h₂, h₃, triage_count htexts htriage] at h₁
  exact absurd h₁ (by decide)

end SolanaAuditor.Reports
