/- SolanaAuditor/Reports/TriageRows
   digest: The findings that triage keeps, the row of each, and when triage returns. -/

import SolanaAuditor.Reports.Triage

set_option autoImplicit false
set_option relaxedAutoImplicit false

namespace SolanaAuditor.Reports.Triage

open SolanaAuditor.Lib

section Filters

variable (text : PyText)

/-- The rank that the filter sees: without a severity a finding has none. -/
def filteredRank (f : PyDict) : Int :=
  severityRank text (text.format (field f "severity" (.str "")))

def filteredStatus (f : PyDict) : String :=
  text.upper (text.format (field f "status" (.str "")))

def passesSeverity (minSeverity : Option String) (f : PyDict) : Bool :=
  match minSeverity with
  | none => true
  | some level =>
      decide (level = "" ∨ severityRank text level < 0 ∨
        severityRank text level ≤ filteredRank text f)

def passesStatus (statusFilter : Option String) (f : PyDict) : Bool :=
  match statusFilter with
  | none => true
  | some status => decide (status = "" ∨ filteredStatus text f = text.upper status)

/-- The findings that pass both filters. -/
def kept (minSeverity statusFilter : Option String) (findings : List PyDict) : List PyDict :=
  findings.filter fun f => passesSeverity text minSeverity f && passesStatus text statusFilter f

variable {text}

theorem filterSeverity_eq (minSeverity : Option String) (findings : List PyDict) :
    filterSeverity text minSeverity findings =
      findings.filter (passesSeverity text minSeverity) := by
  cases minSeverity with
  | none => exact (List.filter_eq_self.mpr fun _ _ => rfl).symm
  | some level =>
    unfold filterSeverity
    dsimp only
    split_ifs with h
    · refine List.filter_congr fun f _ => ?_
      simp [passesSeverity, filteredRank, h.1, not_lt.mpr h.2]
    · refine (List.filter_eq_self.mpr fun f _ => ?_).symm
      simp only [passesSeverity, decide_eq_true_eq]
      by_cases hempty : level = ""
      · exact .inl hempty
      · exact .inr (.inl (not_le.mp fun hrank => h ⟨hempty, hrank⟩))

theorem filterStatus_eq (statusFilter : Option String) (findings : List PyDict) :
    filterStatus text statusFilter findings =
      findings.filter (passesStatus text statusFilter) := by
  cases statusFilter with
  | none => exact (List.filter_eq_self.mpr fun _ _ => rfl).symm
  | some status =>
    unfold filterStatus
    dsimp only
    split_ifs with h
    · refine List.filter_congr fun f _ => ?_
      simp [passesStatus, filteredStatus, h]
    · refine (List.filter_eq_self.mpr fun f _ => ?_).symm
      simp [passesStatus, not_not.mp h]

theorem filters_eq_kept (minSeverity statusFilter : Option String) (findings : List PyDict) :
    filterStatus text statusFilter (filterSeverity text minSeverity findings) =
      kept text minSeverity statusFilter findings := by
  rw [filterSeverity_eq, filterStatus_eq, List.filter_filter, kept]
  exact List.filter_congr fun f _ => Bool.and_comm _ _

theorem mem_kept {minSeverity statusFilter : Option String} {findings : List PyDict}
    {f : PyDict} : f ∈ kept text minSeverity statusFilter findings ↔ f ∈ findings ∧
      passesSeverity text minSeverity f = true ∧ passesStatus text statusFilter f = true := by
  simp [kept]

theorem kept_perm {findings findings' : List PyDict} (h : findings.Perm findings')
    (minSeverity statusFilter : Option String) :
    (kept text minSeverity statusFilter findings).Perm
      (kept text minSeverity statusFilter findings') := h.filter _

end Filters

section Fields

/-- The location is an object, or a value that Python takes for false. -/
def Located (f : PyDict) : Prop := ∃ entries, pyOr (f.get "location") (.obj []) = .obj entries

def locationOf (f : PyDict) : PyDict :=
  match pyOr (f.get "location") (.obj []) with
  | .obj entries => entries
  | _ => []

/-- The cvss is missing or a finite number. -/
def FiniteCvss (f : PyDict) : Prop :=
  f.get "cvss" = .null ∨ (∃ n, f.get "cvss" = .int n) ∨ ∃ q, f.get "cvss" = .float (.finite q)

/-- An integer cvss is not too large for a float. -/
def HasFloat (f : PyDict) : Prop := ∀ n, f.get "cvss" = .int n → n.natAbs < floatLimit

/-- The score of a finding whose cvss is missing or finite; none is reported as 0. -/
def cvssValue (f : PyDict) : ℚ :=
  match f.get "cvss" with
  | .int n => if n = 0 then defaultCvss else n
  | .float (.finite q) => if q = 0 then defaultCvss else q
  | _ => defaultCvss

theorem located_iff {f : PyDict} :
    Located f ↔ pyOr (f.get "location") (.obj []) = .obj (locationOf f) := by
  constructor
  · rintro ⟨entries, h⟩
    simp only [locationOf, h]
  · intro h
    exact ⟨_, h⟩

/-- A location that is missing or an object will do. -/
theorem located_of_object {f : PyDict}
    (h : f.get "location" = .null ∨ ∃ entries, f.get "location" = .obj entries) : Located f := by
  rcases h with h | ⟨entries, h⟩
  · exact ⟨[], by rw [h]; rfl⟩
  · cases entries with
    | nil => exact ⟨[], by rw [h]; rfl⟩
    | cons e entries => exact ⟨e :: entries, by rw [h]; rfl⟩

theorem floatLimit_pos : 0 < floatLimit := by decide +kernel

variable {parseFloat : String → Option FloatValue}

variable (parseFloat) in
theorem cvssOf_eq {f : PyDict} (h : FiniteCvss f) (hfloat : HasFloat f) :
    cvssOf parseFloat f = .ok (.finite (cvssValue f)) := by
  unfold cvssOf cvssValue
  rcases h with h | ⟨n, h⟩ | ⟨q, h⟩
  · rw [h]
    rfl
  · rw [h]
    by_cases hn : n = 0
    · subst hn
      rfl
    · simp [pyOr, truthy, hn, pyFloat, toFloat, floatOfInt, hfloat n h]
  · rw [h]
    by_cases hq : q = 0
    · subst hq
      simp [pyOr, truthy, pyFloat, toFloat]
    · simp [pyOr, truthy, hq, pyFloat, toFloat]

variable (parseFloat) in
theorem cvssOf_returns_iff {f : PyDict} (h : FiniteCvss f) :
    (∃ x, cvssOf parseFloat f = .ok x) ↔ HasFloat f := by
  constructor
  · rintro ⟨x, hx⟩ n hn
    by_contra hover
    have hne : n ≠ 0 := by
      rintro rfl
      exact hover floatLimit_pos
    rw [cvssOf, hn] at hx
    simp [pyOr, truthy, hne, pyFloat, toFloat_overflow hover] at hx
  · intro hfloat
    exact ⟨_, cvssOf_eq parseFloat h hfloat⟩

end Fields

section Rows

variable (text : PyText)

def sevBonus (f : PyDict) : Int :=
  severityRank text (text.format (field f "severity" (.str "MEDIUM"))) * 2

/-- The score and the bonus of the severity, before the bonus of the status. -/
def baseScore (f : PyDict) (cvss : FloatValue) : FloatValue :=
  (cvss.times 10).add (.finite (sevBonus text f))

def openBonus (f : PyDict) : ℚ :=
  if text.upper (text.format (field f "status" (.str "Open"))) ∈ openStatuses then 5 else 0

/-- The row of a finding with the entries of its location and its score. -/
def rowOf (f location : PyDict) (cvss : FloatValue) : TriageEntry where
  id := text.format (field f "id" (.str ""))
  severity := text.upper (text.format (field f "severity" (.str "MEDIUM")))
  cvss := cvss
  cvssVector := text.format (pyOr (f.get "cvss_vector") (.str ""))
  rule := intOrNone (f.get "rule")
  ruleCaught := text.format (pyOr (f.get "rule_caught") (.str ""))
  cwe := text.format (pyOr (f.get "cwe") (.str ""))
  file := text.format (pyOr ((Dict.get? location "file").getD .null) (.str ""))
  line := intOrNone ((Dict.get? location "line").getD .null)
  status := text.format (field f "status" (.str "Open"))
  priorityScore :=
    ((baseScore text f cvss).add (.finite (openBonus text f))).rounded Decimal.roundHundredth
  title := text.format (pyOr (f.get "title") (.str ""))
  locationFunction := text.format (pyOr ((Dict.get? location "function").getD .null) (.str ""))

/-- The row of a finding whose cvss is missing or finite. -/
def rowFor (f : PyDict) : TriageEntry := rowOf text f (locationOf f) (.finite (cvssValue f))

variable {text} {parseFloat : String → Option FloatValue}

theorem priorityScore_eq {f : PyDict} {x : FloatValue} (h : cvssOf parseFloat f = .ok x) :
    priorityScore text parseFloat f = .ok
      (((baseScore text f x).add (.finite (openBonus text f))).rounded Decimal.roundHundredth) := by
  rw [priorityScore, h]
  rfl

theorem enrichFinding_ok_iff {f : PyDict} {r : TriageEntry} :
    enrichFinding text parseFloat f = .ok r ↔
      Located f ∧ ∃ x, cvssOf parseFloat f = .ok x ∧ r = rowOf text f (locationOf f) x := by
  constructor
  · intro h
    simp only [enrichFinding, Py.bind_eq_ok] at h
    obtain ⟨x, hx, file, hfile, line, hline, score, hscore, function, hfunction, hr⟩ := h
    obtain ⟨entries, hentries⟩ := (pyGet_returns "file" .null).mp ⟨file, hfile⟩
    have hlocation : locationOf f = entries := by simp only [locationOf, hentries]
    rw [hentries] at hfile hline hfunction
    obtain rfl := Except.ok.inj hfile
    obtain rfl := Except.ok.inj hline
    obtain rfl := Except.ok.inj hfunction
    obtain rfl := Except.ok.inj ((priorityScore_eq hx).symm.trans hscore)
    refine ⟨⟨entries, hentries⟩, x, hx, ?_⟩
    rw [hlocation]
    exact (Except.ok.inj hr).symm
  · rintro ⟨hlocated, x, hx, rfl⟩
    simp only [enrichFinding, located_iff.mp hlocated, hx, priorityScore_eq hx]
    rfl

theorem enrichFinding_returns_iff {f : PyDict} :
    (∃ r, enrichFinding text parseFloat f = .ok r) ↔
      Located f ∧ ∃ x, cvssOf parseFloat f = .ok x := by
  simp only [enrichFinding_ok_iff]
  constructor
  · rintro ⟨_, hlocated, x, hx, -⟩
    exact ⟨hlocated, x, hx⟩
  · rintro ⟨hlocated, x, hx⟩
    exact ⟨_, hlocated, x, hx, rfl⟩

theorem enrichAll_eq {findings : List PyDict} (hcvss : ∀ f ∈ findings, FiniteCvss f)
    (h : ∀ f ∈ findings, Located f ∧ HasFloat f) :
    enrichAll text parseFloat findings = .ok (findings.map (rowFor text)) := by
  rw [enrichAll_ok, List.forall₂_map_right_iff, List.forall₂_same]
  intro f hf
  rw [enrichFinding_ok_iff]
  exact ⟨(h f hf).1, _, cvssOf_eq parseFloat (hcvss f hf) (h f hf).2, rfl⟩

variable (text parseFloat) in
theorem enrichAll_returns_iff {findings : List PyDict} (hcvss : ∀ f ∈ findings, FiniteCvss f) :
    (∃ rows, enrichAll text parseFloat findings = .ok rows) ↔
      ∀ f ∈ findings, Located f ∧ HasFloat f := by
  refine enrichAll_returns.trans (forall₂_congr fun f hf => ?_)
  rw [enrichFinding_returns_iff, cvssOf_returns_iff parseFloat (hcvss f hf)]

end Rows

section Runs

variable {text : PyText} {parseFloat : String → Option FloatValue}
  {helper : Option (String → Option ℚ)}

theorem triage_ok_iff {findings : List PyDict} {minSeverity statusFilter : Option String}
    {recompute : Bool} {result : TriageReport × Nat × Nat} :
    triage text parseFloat helper findings minSeverity statusFilter recompute = .ok result ↔
      ∃ findings' mismatches count rows,
        recomputed helper recompute findings = .ok (findings', mismatches, count) ∧
        enrichAll text parseFloat (kept text minSeverity statusFilter findings') = .ok rows ∧
        result = (reportOf text (sortRows text rows) mismatches count, findings.length,
          (kept text minSeverity statusFilter findings').length) := by
  simp only [triage, Py.bind_eq_ok, filters_eq_kept, Prod.exists]
  constructor
  · rintro ⟨findings', mismatches, count, hrecomputed, rows, hrows, hresult⟩
    exact ⟨findings', mismatches, count, rows, hrecomputed, hrows, (Except.ok.inj hresult).symm⟩
  · rintro ⟨findings', mismatches, count, rows, hrecomputed, hrows, rfl⟩
    exact ⟨findings', mismatches, count, hrecomputed, rows, hrows, rfl⟩

/-- What triage returns without `recompute_cvss`. -/
theorem triage_eq {findings : List PyDict} {minSeverity statusFilter : Option String}
    (hcvss : ∀ f ∈ findings, FiniteCvss f)
    (h : ∀ f ∈ kept text minSeverity statusFilter findings, Located f ∧ HasFloat f) :
    triage text parseFloat helper findings minSeverity statusFilter false =
      .ok (reportOf text (sortRows text
          ((kept text minSeverity statusFilter findings).map (rowFor text))) 0 0,
        findings.length, (kept text minSeverity statusFilter findings).length) := by
  rw [triage_ok_iff]
  exact ⟨findings, 0, 0, _, rfl, enrichAll_eq (fun f hf => hcvss f (mem_kept.mp hf).1) h, rfl⟩

variable (text parseFloat helper) in
theorem triage_returns_iff {findings : List PyDict} (minSeverity statusFilter : Option String)
    (hcvss : ∀ f ∈ findings, FiniteCvss f) :
    (∃ result,
        triage text parseFloat helper findings minSeverity statusFilter false = .ok result) ↔
      ∀ f ∈ kept text minSeverity statusFilter findings, Located f ∧ HasFloat f := by
  constructor
  · rintro ⟨result, hresult⟩
    obtain ⟨findings', _, _, rows, hrecomputed, hrows, -⟩ := triage_ok_iff.mp hresult
    obtain rfl := congrArg Prod.fst (Except.ok.inj hrecomputed)
    exact (enrichAll_returns_iff text parseFloat
      fun f hf => hcvss f (mem_kept.mp hf).1).mp ⟨rows, hrows⟩
  · intro h
    exact ⟨_, triage_eq hcvss h⟩

end Runs

end SolanaAuditor.Reports.Triage
