/- SolanaAuditor/Reports/TriageFilters
   digest: When the filters of triage select among the rows of a run without them. -/

import SolanaAuditor.Lib.Lists
import SolanaAuditor.Reports.TriageRuns

set_option autoImplicit false
set_option relaxedAutoImplicit false

namespace SolanaAuditor.Reports.Triage

open SolanaAuditor.Lib

/-- What Python's case tables say of the texts that the filters compare. -/
structure FilterCasing (text : PyText) : Prop where
  again : ∀ s, text.upper (text.upper s) = text.upper s
  empty : ∀ s, text.upper s = "" ↔ s = ""
  medium : text.upper "MEDIUM" = "MEDIUM"

def atLeast (text : PyText) (level : String) (r : TriageEntry) : Bool :=
  decide (severityRank text level ≤ severityRank text r.severity)

def hasStatus (text : PyText) (status : String) (r : TriageEntry) : Bool :=
  decide (text.upper r.status = text.upper status)

/-- The run at a level has the rows of the run at a lower level, or at none, that rank at least
the level, and they are the first of them. -/
def SeverityLaw (text : PyText) (parseFloat : String → Option FloatValue)
    (helper : Option (String → Option ℚ)) (lower : Option String) (level : String)
    (findings : List PyDict) : Prop :=
  ∃ all some', triage text parseFloat helper findings lower none false = .ok all ∧
    triage text parseFloat helper findings (some level) none false = .ok some' ∧
    some'.1.findings = all.1.findings.filter (atLeast text level) ∧
    some'.1.findings <+: all.1.findings

/-- The run for a status has the rows of the unfiltered run with this status. -/
def StatusLaw (text : PyText) (parseFloat : String → Option FloatValue)
    (helper : Option (String → Option ℚ)) (status : String) (findings : List PyDict) : Prop :=
  ∃ all some', triage text parseFloat helper findings none none false = .ok all ∧
    triage text parseFloat helper findings none (some status) false = .ok some' ∧
    some'.1.findings = all.1.findings.filter (hasStatus text status)

section Rows

variable {text : PyText}

theorem filter_sortRows {rows : List TriageEntry} (h : ∀ r ∈ rows, Scored r)
    (p : TriageEntry → Bool) :
    (sortRows text rows).filter p = sortRows text (rows.filter p) :=
  StableSort.filter_sort strictWeak_comesBefore h p

/-- The rows of some findings are those of more findings with a property, exactly when no other
finding has a row with it. -/
theorem rows_of_filter_iff {findings : List PyDict} (pass pass' : PyDict → Bool)
    (p : TriageEntry → Bool)
    (h : ∀ f ∈ findings, pass' f = true → pass f = true ∧ p (rowFor text f) = true) :
    sortRows text ((findings.filter pass').map (rowFor text)) =
        (sortRows text ((findings.filter pass).map (rowFor text))).filter p ↔
      ∀ f ∈ findings, pass f = true → p (rowFor text f) = true → pass' f = true := by
  have hsort : (sortRows text ((findings.filter pass).map (rowFor text))).filter p =
      sortRows text ((findings.filter fun f => pass f && p (rowFor text f)).map (rowFor text)) := by
    rw [filter_sortRows scored_rows, List.filter_map, List.filter_filter]
    simp only [Function.comp_apply, Bool.and_comm]
  rw [hsort]
  constructor
  · intro heq
    have hlength := congrArg List.length heq
    simp only [sortRows, List.length_insertionSort, List.length_map,
      ← List.countP_eq_length_filter] at hlength
    have himp : ∀ f ∈ findings, pass' f = true → (pass f && p (rowFor text f)) = true := by
      intro f hf hpass
      simpa using h f hf hpass
    have hall := (Lists.countP_eq_iff_of_imp himp).mp hlength
    intro f hf hpass hp
    exact hall f hf (by simp [hpass, hp])
  · intro hall
    have hsame : findings.filter pass' = findings.filter fun f => pass f && p (rowFor text f) := by
      refine List.filter_congr fun f hf => ?_
      rw [Bool.eq_iff_iff, Bool.and_eq_true]
      exact ⟨h f hf, fun hboth => hall f hf hboth.1 hboth.2⟩
    rw [hsame]

/-- The rows that rank at least a level are the first ones. -/
theorem atLeast_front (level : String) (findings : List PyDict) :
    (sortRows text (findings.map (rowFor text))).filter (atLeast text level) <+:
      sortRows text (findings.map (rowFor text)) := by
  refine StableSort.filter_front ?_
  refine (StableSort.sort_pairwise strictWeak_comesBefore scored_rows).imp_of_mem ?_
  intro a b ha hb hlt hlevel
  have horder := (comesBefore_eq_false (scored_rows a (StableSort.mem_sort.mp ha))
    (scored_rows b (StableSort.mem_sort.mp hb))).mp hlt
  simp only [atLeast, decide_eq_true_eq] at hlevel ⊢
  rcases horder with hrank | ⟨hrank, -⟩ <;> omega

end Rows

section Defaults

variable {text : PyText} {f : PyDict}

theorem status_of_present {v : Json} (h : Dict.get? f "status" = some v) :
    text.upper (rowFor text f).status = filteredStatus text f := by
  simp only [rowFor, rowOf, filteredStatus, field, h, Option.getD_some]

theorem severityRank_upper (hcase : FilterCasing text) (s : String) :
    severityRank text (text.upper s) = severityRank text s := by
  rw [severityRank, hcase.again, severityRank]

theorem severityRank_empty (hcase : FilterCasing text) : severityRank text "" = -1 := by
  rw [severityRank, (hcase.empty "").mpr rfl]
  decide

/-- A finding with a severity has the rank of its row. -/
theorem rank_of_present (hcase : FilterCasing text) {v : Json} (h : Dict.get? f "severity" = some v) :
    severityRank text (rowFor text f).severity = filteredRank text f := by
  simp only [rowFor, rowOf, severityRank_upper hcase, filteredRank, field, h, Option.getD_some]

/-- A finding without one has the rank of MEDIUM in its row, and none for the filter. -/
theorem rank_of_absent (hcase : FilterCasing text) (h : Dict.get? f "severity" = none) :
    severityRank text (rowFor text f).severity = 2 ∧ filteredRank text f = -1 := by
  simp only [rowFor, rowOf, severityRank_upper hcase, filteredRank, field, h, Option.getD_none,
    PyText.format]
  refine ⟨?_, severityRank_empty hcase⟩
  rw [severityRank, hcase.medium]
  decide

theorem passesSeverity_iff (hcase : FilterCasing text) {level : String}
    (hlevel : 0 ≤ severityRank text level) :
    passesSeverity text (some level) f = true ↔
      severityRank text level ≤ filteredRank text f := by
  have hne : level ≠ "" := by
    rintro rfl
    rw [severityRank_empty hcase] at hlevel
    omega
  simp only [passesSeverity, decide_eq_true_eq, hne, false_or]
  omega

theorem status_of_absent (hcase : FilterCasing text) (h : Dict.get? f "status" = none) :
    (rowFor text f).status = "Open" ∧ filteredStatus text f = "" := by
  simp only [rowFor, rowOf, filteredStatus, field, h, Option.getD_none, PyText.format, true_and]
  exact (hcase.empty "").mpr rfl

end Defaults

section Laws

variable {text : PyText} {parseFloat : String → Option FloatValue}
  {helper : Option (String → Option ℚ)} {findings : List PyDict}

theorem findings_of_triage {minSeverity statusFilter : Option String}
    {result : TriageReport × Nat × Nat} (hcvss : ∀ f ∈ findings, FiniteCvss f)
    (h : triage text parseFloat helper findings minSeverity statusFilter false = .ok result) :
    result.1.findings =
      sortRows text ((kept text minSeverity statusFilter findings).map (rowFor text)) := by
  have hrows := (triage_returns_iff text parseFloat helper minSeverity statusFilter hcvss).mp
    ⟨result, h⟩
  rw [triage_eq hcvss hrows] at h
  obtain rfl := Except.ok.inj h
  rfl

variable (parseFloat helper) in
/-- A run selects among the rows of a run that keeps more, exactly when this one returns and no
other row has the property. -/
theorem selects_iff (hin : ∀ f ∈ findings, Triageable f) {min min' status status' : Option String}
    {p : TriageEntry → Bool}
    (h : ∀ f ∈ kept text min' status' findings,
      f ∈ kept text min status findings ∧ p (rowFor text f) = true) :
    (∃ all some', triage text parseFloat helper findings min status false = .ok all ∧
        triage text parseFloat helper findings min' status' false = .ok some' ∧
        some'.1.findings = all.1.findings.filter p) ↔
      (∀ f ∈ kept text min status findings, HasFloat f) ∧
      ∀ f ∈ kept text min status findings, p (rowFor text f) = true →
        f ∈ kept text min' status' findings := by
  have hcvss : ∀ f ∈ findings, FiniteCvss f := fun f hf => (hin f hf).cvss
  have hlocated : ∀ f ∈ findings, Located f := fun f hf => located_of_object (hin f hf).location
  have hfilter : sortRows text ((kept text min' status' findings).map (rowFor text)) =
      (sortRows text ((kept text min status findings).map (rowFor text))).filter p ↔
      ∀ f ∈ kept text min status findings, p (rowFor text f) = true →
        f ∈ kept text min' status' findings := by
    refine (rows_of_filter_iff _ _ p fun f hf hpass => ?_).trans
      ⟨fun hall f hf hp => ?_, fun hall f hf hpass hp => ?_⟩
    · obtain ⟨hmem, hp⟩ := h f (List.mem_filter.mpr ⟨hf, hpass⟩)
      exact ⟨(List.mem_filter.mp hmem).2, hp⟩
    · obtain ⟨hf, hpass⟩ := List.mem_filter.mp hf
      exact List.mem_filter.mpr ⟨hf, hall f hf hpass hp⟩
    · exact (List.mem_filter.mp (hall f (List.mem_filter.mpr ⟨hf, hpass⟩) hp)).2
  rw [← hfilter]
  constructor
  · rintro ⟨all, some', hall, hsome, heq⟩
    have hfloat := (triage_returns_iff text parseFloat helper min status hcvss).mp ⟨all, hall⟩
    refine ⟨fun f hf => (hfloat f hf).2, ?_⟩
    rw [← findings_of_triage hcvss hall, ← findings_of_triage hcvss hsome, heq]
  · rintro ⟨hfloat, heq⟩
    have hrows : ∀ f ∈ kept text min status findings, Located f ∧ HasFloat f :=
      fun f hf => ⟨hlocated f (mem_kept.mp hf).1, hfloat f hf⟩
    have hrows' : ∀ f ∈ kept text min' status' findings, Located f ∧ HasFloat f :=
      fun f hf => hrows f (h f hf).1
    exact ⟨_, _, triage_eq hcvss hrows, triage_eq hcvss hrows', heq⟩

theorem mem_kept_level (hcase : FilterCasing text) {level : String}
    (hlevel : 0 ≤ severityRank text level) {f : PyDict} :
    f ∈ kept text (some level) none findings ↔
      f ∈ findings ∧ severityRank text level ≤ filteredRank text f := by
  simp [mem_kept, passesSeverity_iff hcase hlevel, passesStatus]

/-- The filter of a level keeps only what a lower one keeps, with rows that rank at least it. -/
theorem kept_of_kept_level (hcase : FilterCasing text) {lower : Option String} {level : String}
    (hlevel : 0 ≤ severityRank text level)
    (hlower : ∀ s, lower = some s → 0 ≤ severityRank text s ∧
      severityRank text s < severityRank text level)
    {f : PyDict} (hf : f ∈ kept text (some level) none findings) :
    f ∈ kept text lower none findings ∧ atLeast text level (rowFor text f) = true := by
  obtain ⟨hf, hrank⟩ := (mem_kept_level hcase hlevel).mp hf
  refine ⟨mem_kept.mpr ⟨hf, ?_, rfl⟩, ?_⟩
  · cases lower with
    | none => rfl
    | some s =>
      obtain ⟨hs, hlt⟩ := hlower s rfl
      exact (passesSeverity_iff hcase hs).mpr (by omega)
  · cases hsev : Dict.get? f "severity" with
    | none =>
      have hnone := (rank_of_absent hcase hsev).2
      omega
    | some v => simpa [atLeast, rank_of_present hcase hsev] using hrank

/-- The filter of a level keeps every row that ranks at least it, but for a finding without a
severity where no filter drops it before and the level is at most MEDIUM. -/
theorem keeps_level_iff (hcase : FilterCasing text) {lower : Option String} {level : String}
    (hlevel : 0 ≤ severityRank text level)
    (hlower : ∀ s, lower = some s → 0 ≤ severityRank text s ∧
      severityRank text s < severityRank text level) :
    (∀ f ∈ kept text lower none findings, atLeast text level (rowFor text f) = true →
        f ∈ kept text (some level) none findings) ↔
      (lower = none → severityRank text level ≤ 2 →
        ∀ f ∈ findings, ∃ v, Dict.get? f "severity" = some v) := by
  constructor
  · rintro hall rfl hmedium f hf
    by_contra habsent
    simp only [not_exists, ← Option.eq_none_iff_forall_ne_some] at habsent
    obtain ⟨hreported, hfiltered⟩ := rank_of_absent hcase habsent
    have hmem := hall f (mem_kept.mpr ⟨hf, rfl, rfl⟩) (by simp [atLeast, hreported, hmedium])
    have hrank := ((mem_kept_level hcase hlevel).mp hmem).2
    omega
  · intro hpresent f hf hrank
    simp only [atLeast, decide_eq_true_eq] at hrank
    obtain ⟨hmem, hpass, -⟩ := mem_kept.mp hf
    refine (mem_kept_level hcase hlevel).mpr ⟨hmem, ?_⟩
    cases hsev : Dict.get? f "severity" with
    | some v => rwa [rank_of_present hcase hsev] at hrank
    | none =>
      obtain ⟨hreported, hfiltered⟩ := rank_of_absent hcase hsev
      cases lower with
      | none =>
        obtain ⟨v, hv⟩ := hpresent rfl (by omega) f hmem
        simp [hsev] at hv
      | some s =>
        have hs := (hlower s rfl).1
        have hle := (passesSeverity_iff hcase hs).mp hpass
        omega

/-- The filter of a level drops a finding without a severity, which a run without a filter reports
as MEDIUM. -/
theorem severity_law_iff (parseFloat : String → Option FloatValue)
    (helper : Option (String → Option ℚ)) (hcase : FilterCasing text)
    (hin : ∀ f ∈ findings, Triageable f) {lower : Option String} {level : String}
    (hlevel : 0 ≤ severityRank text level)
    (hlower : ∀ s, lower = some s → 0 ≤ severityRank text s ∧
      severityRank text s < severityRank text level) :
    SeverityLaw text parseFloat helper lower level findings ↔
      (∀ f ∈ kept text lower none findings, HasFloat f) ∧
      (lower = none → severityRank text level ≤ 2 →
        ∀ f ∈ findings, ∃ v, Dict.get? f "severity" = some v) := by
  have hselect := selects_iff parseFloat helper hin fun f hf =>
    kept_of_kept_level hcase hlevel hlower hf
  rw [← keeps_level_iff hcase hlevel hlower, ← hselect]
  constructor
  · rintro ⟨all, some', hall, hsome, heq, -⟩
    exact ⟨all, some', hall, hsome, heq⟩
  · rintro ⟨all, some', hall, hsome, heq⟩
    refine ⟨all, some', hall, hsome, heq, ?_⟩
    rw [heq, findings_of_triage (fun f hf => (hin f hf).cvss) hall]
    exact atLeast_front level _

/-- The filter of a status drops a finding without a status, which a run without a filter reports
as Open. -/
theorem status_law_iff (parseFloat : String → Option FloatValue)
    (helper : Option (String → Option ℚ)) (hcase : FilterCasing text)
    (hin : ∀ f ∈ findings, Triageable f) {status : String} (hstatus : status ≠ "") :
    StatusLaw text parseFloat helper status findings ↔
      (∀ f ∈ findings, HasFloat f) ∧
      (text.upper status = text.upper "Open" →
        ∀ f ∈ findings, ∃ v, Dict.get? f "status" = some v) := by
  have hall : ∀ f, f ∈ kept text none none findings ↔ f ∈ findings := by
    intro f
    simp [mem_kept, passesSeverity, passesStatus]
  have hpasses : ∀ f, f ∈ kept text none (some status) findings ↔
      f ∈ findings ∧ filteredStatus text f = text.upper status := by
    intro f
    simp [mem_kept, passesSeverity, passesStatus, hstatus]
  have hempty : text.upper status ≠ "" := fun h => hstatus ((hcase.empty status).mp h)
  have hstronger : ∀ f ∈ kept text none (some status) findings,
      f ∈ kept text none none findings ∧ hasStatus text status (rowFor text f) = true := by
    intro f hf
    obtain ⟨hf, hsame⟩ := (hpasses f).mp hf
    refine ⟨(hall f).mpr hf, ?_⟩
    cases hget : Dict.get? f "status" with
    | none =>
      rw [(status_of_absent hcase hget).2] at hsame
      exact absurd hsame.symm hempty
    | some v => simpa [hasStatus, status_of_present hget] using hsame
  have hselect := selects_iff parseFloat helper hin hstronger
  refine hselect.trans ?_
  simp only [hall]
  refine and_congr_right fun _ => ?_
  constructor
  · intro hrows hopen f hf
    by_contra habsent
    simp only [not_exists, ← Option.eq_none_iff_forall_ne_some] at habsent
    obtain ⟨hreported, hfiltered⟩ := status_of_absent hcase habsent
    have hmem := hrows f hf (by simp [hasStatus, hreported, hopen])
    rw [hpasses, hfiltered] at hmem
    exact hempty hmem.2.symm
  · intro hpresent f hf hsame
    simp only [hasStatus, decide_eq_true_eq] at hsame
    refine (hpasses f).mpr ⟨hf, ?_⟩
    cases hget : Dict.get? f "status" with
    | some v => rwa [status_of_present hget] at hsame
    | none =>
      rw [(status_of_absent hcase hget).1] at hsame
      obtain ⟨v, hv⟩ := hpresent hsame.symm f hf
      simp [hget] at hv

end Laws

/-- Filtering a level above another one, or none, and filtering a status select among the reported
rows exactly when each integer cvss has a float and the filters meet no missing field: no missing
severity, where a run without a level reports it as MEDIUM at the level or above, and no missing
status, where the filter is the status Open. -/
theorem filters_select_iff (text : PyText) (parseFloat : String → Option FloatValue)
    (helper : Option (String → Option ℚ)) (lower : Option String) (level status : String)
    (findings : List PyDict) (hcase : FilterCasing text) (hin : ∀ f ∈ findings, Triageable f)
    (hlevel : 0 ≤ severityRank text level)
    (hlower : ∀ s, lower = some s → 0 ≤ severityRank text s ∧
      severityRank text s < severityRank text level) (hstatus : status ≠ "") :
    SeverityLaw text parseFloat helper lower level findings ∧
        StatusLaw text parseFloat helper status findings ↔
      (∀ f ∈ findings, HasFloat f) ∧
      (lower = none → severityRank text level ≤ 2 →
        ∀ f ∈ findings, ∃ v, Dict.get? f "severity" = some v) ∧
      (text.upper status = text.upper "Open" →
        ∀ f ∈ findings, ∃ v, Dict.get? f "status" = some v) := by
  rw [severity_law_iff parseFloat helper hcase hin hlevel hlower,
    status_law_iff parseFloat helper hcase hin hstatus]
  constructor
  · rintro ⟨⟨-, hseverity⟩, hfloat, hstatus⟩
    exact ⟨hfloat, hseverity, hstatus⟩
  · rintro ⟨hfloat, hseverity, hstatus⟩
    exact ⟨⟨fun f hf => hfloat f (mem_kept.mp hf).1, hseverity⟩, hfloat, hstatus⟩

section Ascii

theorem toUpper_toUpper (c : Char) : c.toUpper.toUpper = c.toUpper := by
  by_cases h : c.val ≥ 'a'.val ∧ c.val ≤ 'z'.val
  · have hcases : ∀ n < 123, 97 ≤ n → (Char.ofNat n).toUpper.toUpper = (Char.ofNat n).toUpper := by
      decide
    have hlow : 97 ≤ c.toNat := UInt32.le_iff_toNat_le.mp h.1
    have hhigh : c.toNat ≤ 122 := UInt32.le_iff_toNat_le.mp h.2
    rw [← Char.ofNat_toNat c]
    exact hcases c.toNat (by omega) hlow
  · have hsame : c.toUpper = c := dif_neg h
    rw [hsame, hsame]

theorem filterCasing_ascii : FilterCasing PyText.ascii where
  again s := by
    simp only [PyText.ascii, String.toList_ofList, List.map_map]
    exact congrArg String.ofList (List.map_congr_left fun c _ => toUpper_toUpper c)
  empty s := by
    simp only [PyText.ascii, ← String.toList_inj, String.toList_ofList]
    exact List.map_eq_nil_iff
  medium := by decide

end Ascii

theorem filters_select_iff_high :
    SeverityLaw PyText.ascii (fun _ => none) none (some "low") "HIGH"
        [scoredFinding "VULN-01" "Low" (.int 3)] ∧
      StatusLaw PyText.ascii (fun _ => none) none "fixed"
        [scoredFinding "VULN-01" "Low" (.int 3)] := by
  have hall : ∀ f ∈ [scoredFinding "VULN-01" "Low" (.int 3)],
      f = scoredFinding "VULN-01" "Low" (.int 3) := by simp
  refine (filters_select_iff PyText.ascii (fun _ => none) none (some "low") "HIGH" "fixed"
    [scoredFinding "VULN-01" "Low" (.int 3)] filterCasing_ascii ?_ (by decide) ?_ (by decide)).mpr
    ⟨?_, ?_, ?_⟩
  · intro f hf
    obtain rfl := hall f hf
    exact triageable_scoredFinding "VULN-01" "Low" 3
  · rintro s hs
    obtain rfl := Option.some.inj hs
    decide
  · intro f hf n hn
    obtain rfl := hall f hf
    obtain rfl := Json.int.inj hn
    decide +kernel
  · intro hnone
    simp at hnone
  · intro hopen
    exact absurd hopen (by decide)

def bareFinding : PyDict := [("id", .str "VULN-01"), ("cvss", .int 8)]

/-- A finding without a severity is reported as MEDIUM, and dropped by the filter of MEDIUM; one
without a status is reported as Open, and dropped by the filter of Open. -/
theorem bare_finding_dropped :
    Triageable bareFinding ∧
      ¬ SeverityLaw PyText.ascii (fun _ => none) none none "MEDIUM" [bareFinding] ∧
      ¬ StatusLaw PyText.ascii (fun _ => none) none "Open" [bareFinding] := by
  have hin : Triageable bareFinding := ⟨.inr (.inl ⟨8, rfl⟩), .inl rfl⟩
  have hall : ∀ f ∈ [bareFinding], Triageable f := by simpa using hin
  refine ⟨hin, fun h => ?_, fun h => ?_⟩
  · have hlaw := (severity_law_iff (fun _ => none) none filterCasing_ascii hall (by decide)
      (by simp)).mp h
    obtain ⟨v, hv⟩ := hlaw.2 rfl (by decide) bareFinding List.mem_cons_self
    simp [bareFinding] at hv
  · have hlaw := (status_law_iff (fun _ => none) none filterCasing_ascii hall
      (by decide)).mp h
    obtain ⟨v, hv⟩ := hlaw.2 rfl bareFinding List.mem_cons_self
    simp [bareFinding] at hv

end SolanaAuditor.Reports.Triage
