/- SolanaAuditor/Reports/AuditRun
   digest: main of scripts/audit-report.py, when it writes a report, and in which order. -/

import SolanaAuditor.Lib.StableSort
import SolanaAuditor.Reports.AuditReport

set_option autoImplicit false
set_option relaxedAutoImplicit false

namespace SolanaAuditor.Reports.AuditReport

open SolanaAuditor.Lib SolanaAuditor.Lib.StableSort

section Run

variable (text : PyText)

/-- `load_findings`, from the value of the file; without the key `findings` the script exits. -/
def loadFindings (raw : Json) : Py (Option Json) := do
  if ← pyIn "findings" raw then return some raw else return none

/-- `sev_order.get(severity, 99)` -/
def sevOrder (severity : String) : Nat := (severityLevels.idxOf? severity).getD 99

/-- The findings with their sort keys. -/
def keyed : List PyDict → Py (List (Nat × PyDict))
  | [] => return []
  | f :: findings => do
      let sev ← text.uppered (field f "severity" (.str "INFO"))
      return (sevOrder sev, f) :: (← keyed findings)

/-- `findings.sort(key=...)`, which only a list has. -/
def sortFindings : Json → Py (List PyDict)
  | .arr items => do
      let rows ← keyed text (← pyDicts items)
      return (sort (lowerKey Prod.fst) rows).map Prod.snd
  | .null | .bool _ | .int _ | .float _ | .str _ | .obj _ => .error .attributeError

/-- `main`, at a given time: the text of the report that it writes. -/
def main (generated : String) (raw : Json) : Py (Option String) := do
  match ← loadFindings raw with
  | none => return none
  | some raw =>
      let findings ← sortFindings text (← pyGet raw "findings" (.arr []))
      match raw with
      | .obj raw => return some (← renderReport text generated raw findings)
      | _ => .error .attributeError

/-- The severity of a finding as the script compares it. -/
def upperSeverity (f : PyDict) : String := text.upper (severityText "INFO" f)

/-- The findings by level, then those of no level, each part in its own order. -/
def bySeverity (findings : List PyDict) : List PyDict :=
  (severityLevels.flatMap fun level => findings.filter fun f => upperSeverity text f == level) ++
    findings.filter fun f => upperSeverity text f ∉ severityLevels

/-- What the script must be able to read for a report. -/
structure Renderable (raw : PyDict) (findings : List PyDict) : Prop where
  severities : ∀ f ∈ findings, TextSeverity f
  locations : ∀ f ∈ findings, ∀ v, Dict.get? f "location" = some v → ∃ entries, v = .obj entries
  summary : ∀ v, Dict.get? raw "summary" = some v → truthy v = true → ∃ entries, v = .obj entries
  scope : ∀ v, Dict.get? raw "out_of_scope" = some v →
    (∃ listed, v = .arr listed) ∨ (∃ s, v = .str s) ∨ ∃ entries, v = .obj entries

end Run

section Order

variable {text : PyText} {findings : List PyDict}

variable (text) in
theorem collects_keyed : Collects (fun f => do
    let sev ← text.uppered (field f "severity" (.str "INFO"))
    return (sevOrder sev, f)) (keyed text) :=
  ⟨rfl, fun f findings => by rw [bind_assoc]; rfl⟩

theorem keyed_ok (h : ∀ f ∈ findings, TextSeverity f) :
    keyed text findings = .ok (findings.map fun f => (sevOrder (upperSeverity text f), f)) := by
  refine (collects_keyed text).map_ok fun f hf => ?_
  rw [(h f hf).field_eq "INFO"]
  rfl

theorem textSeverity_of_keyed {rows : List (Nat × PyDict)} (h : keyed text findings = .ok rows) :
    ∀ f ∈ findings, TextSeverity f := by
  intro f hf v hv
  obtain ⟨row, hrow⟩ := Lists.exists_forall₂_iff.mp ⟨rows, (collects_keyed text).ok_iff.mp h⟩ f hf
  obtain ⟨sev, hsev, -⟩ := Py.bind_eq_ok.mp hrow
  rw [field, hv] at hsev
  exact text.uppered_returns.mp ⟨sev, hsev⟩

theorem sevOrder_unknown {s : String} (h : s ∉ severityLevels) : sevOrder s = 99 := by
  rw [sevOrder, List.idxOf?_eq_none_iff.mpr h, Option.getD_none]

/-- The ranks of the levels, in their order, then the rank of every other text. -/
theorem sevOrder_beq (s : String) :
    [0, 1, 2, 3, 4, 99].map (fun k => sevOrder s == k) =
      severityLevels.map (fun level => s == level) ++ [decide (s ∉ severityLevels)] ∧
    sevOrder s ∈ [0, 1, 2, 3, 4, 99] := by
  by_cases hs : s ∈ severityLevels
  · revert s
    decide
  · have hne : ∀ level ∈ severityLevels, (s == level) = false := by
      intro level hlevel
      exact beq_eq_false_iff_ne.mpr fun h => hs (h ▸ hlevel)
    have hlevels : severityLevels.map (fun level => s == level) =
        severityLevels.map fun _ => false := List.map_congr_left hne
    rw [hlevels, sevOrder_unknown hs, decide_eq_true hs]
    decide

/-- The sort of the script, without the exceptions. -/
theorem sort_keyed (text : PyText) (findings : List PyDict) :
    (sort (lowerKey Prod.fst)
      (findings.map fun f => (sevOrder (upperSeverity text f), f))).map Prod.snd =
        bySeverity text findings := by
  have hkeys : [0, 1, 2, 3, 4, 99].Pairwise (· < ·) := by decide
  have hall : ∀ row ∈ findings.map fun f => (sevOrder (upperSeverity text f), f),
      row.1 ∈ [0, 1, 2, 3, 4, 99] := by
    intro row hrow
    obtain ⟨f, -, rfl⟩ := List.mem_map.mp hrow
    exact (sevOrder_beq (upperSeverity text f)).2
  have hparts : ∀ k, (((findings.map fun f => (sevOrder (upperSeverity text f), f)).filter
      fun row => row.1 == k).map Prod.snd) =
        findings.filter fun f => sevOrder (upperSeverity text f) == k := by
    intro k
    rw [List.filter_map, List.map_map]
    exact List.map_id _
  have hranks : ∀ f : PyDict, _ := fun f => (sevOrder_beq (upperSeverity text f)).1
  simp only [severityLevels, List.map_cons, List.map_nil, List.cons_append, List.nil_append,
    List.cons.injEq, and_true] at hranks
  rw [sort_lowerKey hkeys hall, List.map_flatMap]
  simp only [hparts, bySeverity, severityLevels, List.flatMap_cons, List.flatMap_nil,
    List.append_nil, List.append_assoc, hranks]

theorem bySeverity_perm (text : PyText) (findings : List PyDict) :
    (bySeverity text findings).Perm findings := by
  have hperm := (sort_perm (lowerKey Prod.fst)
    (findings.map fun f => (sevOrder (upperSeverity text f), f))).map Prod.snd
  rw [sort_keyed, List.map_map] at hperm
  exact hperm.trans (.of_eq (List.map_id _))

theorem mem_bySeverity {f : PyDict} : f ∈ bySeverity text findings ↔ f ∈ findings :=
  (bySeverity_perm text findings).mem_iff

theorem sortFindings_ok (h : ∀ f ∈ findings, TextSeverity f) :
    sortFindings text (.arr (findings.map Json.obj)) = .ok (bySeverity text findings) := by
  simp only [sortFindings, pyDicts_map_obj, bind, Except.bind, keyed_ok h, sort_keyed]
  rfl

theorem textSeverity_of_sortFindings {sorted : List PyDict}
    (h : sortFindings text (.arr (findings.map Json.obj)) = .ok sorted) :
    ∀ f ∈ findings, TextSeverity f := by
  simp only [sortFindings, pyDicts_map_obj, Py.bind_eq_ok] at h
  obtain ⟨dicts, hdicts, rows, hrows, -⟩ := h
  obtain rfl := Except.ok.inj hdicts
  exact textSeverity_of_keyed hrows

end Order

section Returns

variable {text : PyText} {generated : String} {raw : PyDict} {findings : List PyDict}

theorem findingLines_returns {i : Nat} {f : PyDict} :
    (∃ lines, findingLines text i f = .ok lines) ↔
      TextSeverity f ∧ ∀ v, Dict.get? f "location" = some v → ∃ entries, v = .obj entries := by
  have hlocation : (∀ v, Dict.get? f "location" = some v → ∃ entries, v = .obj entries) ↔
      ∃ entries, field f "location" (.obj []) = .obj entries := by
    cases hget : Dict.get? f "location" <;> simp [field, hget]
  have hseverity : TextSeverity f ↔ ∃ s, field f "severity" (.str "INFO") = .str s := by
    cases hget : Dict.get? f "severity" <;> simp [TextSeverity, field, hget]
  rw [hlocation, hseverity]
  unfold findingLines
  constructor
  · rintro ⟨lines, h⟩
    simp only [Py.bind_eq_ok] at h
    obtain ⟨file, hfile, _, -, _, -, hbadge⟩ := h
    refine ⟨?_, (pyGet_returns _ _).mp ⟨file, hfile⟩⟩
    cases hsev : field f "severity" (.str "INFO") with
    | str s => exact ⟨s, rfl⟩
    | null | bool | int | float | arr | obj =>
      rw [hsev] at hbadge
      simp [bind, Except.bind] at hbadge
  · rintro ⟨⟨s, hs⟩, entries, hentries⟩
    rw [hs, hentries]
    exact ⟨_, rfl⟩

theorem allFindingLines_returns {i : Nat} :
    (∃ lines, allFindingLines text i findings = .ok lines) ↔ ∀ f ∈ findings, TextSeverity f ∧
      ∀ v, Dict.get? f "location" = some v → ∃ entries, v = .obj entries := by
  induction findings generalizing i with
  | nil => exact iff_of_true ⟨_, rfl⟩ (by simp)
  | cons f findings ih =>
    have hfirst := @findingLines_returns text i f
    rw [List.forall_mem_cons, ← hfirst, ← @ih (i + 1)]
    simp only [allFindingLines, Py.bind_eq_ok]
    constructor
    · rintro ⟨_, lines, hlines, rest, hrest, -⟩
      exact ⟨⟨lines, hlines⟩, rest, hrest⟩
    · rintro ⟨⟨lines, hlines⟩, rest, hrest⟩
      exact ⟨_, lines, hlines, rest, hrest, rfl⟩

theorem summaryOf_returns :
    (∃ summary, summaryOf raw = .ok summary) ↔
      ∀ v, Dict.get? raw "summary" = some v → truthy v = true → ∃ entries, v = .obj entries := by
  unfold summaryOf field pyOr
  cases hget : Dict.get? raw "summary" with
  | none => exact iff_of_true ⟨_, rfl⟩ (by simp)
  | some v =>
    simp only [Option.getD_some, Option.some.injEq, forall_eq']
    cases htrue : truthy v with
    | false => exact iff_of_true ⟨_, rfl⟩ (by simp)
    | true => cases v <;> simp [pure, Except.pure]

theorem scopeLines_returns :
    (∃ lines, scopeLines text (field raw "out_of_scope" (.arr [])) = .ok lines) ↔
      ∀ v, Dict.get? raw "out_of_scope" = some v →
        (∃ listed, v = .arr listed) ∨ (∃ s, v = .str s) ∨ ∃ entries, v = .obj entries := by
  unfold field
  cases hget : Dict.get? raw "out_of_scope" with
  | none => exact iff_of_true ⟨_, rfl⟩ (by simp)
  | some v =>
    simp only [Option.getD_some, Option.some.injEq, forall_eq', scopeLines, Py.bind_eq_ok]
    cases v <;> simp [items, pure, Except.pure]

theorem renderReport_returns (hseverities : ∀ f ∈ findings, TextSeverity f) :
    (∃ report, renderReport text generated raw findings = .ok report) ↔
      Renderable raw findings := by
  obtain ⟨counts, hcounts, -⟩ := levelCounts_ok text hseverities
  have hlines : (∃ report, renderReport text generated raw findings = .ok report) ↔
      (∃ summary, summaryOf raw = .ok summary) ∧
      (∃ lines, allFindingLines text 1 findings = .ok lines) ∧
      ∃ lines, scopeLines text (field raw "out_of_scope" (.arr [])) = .ok lines := by
    simp only [renderReport, reportLines, AuditReport.counts, hcounts, Py.bind_eq_ok]
    constructor
    · rintro ⟨_, _, ⟨summary, hsummary, _, -, middle, hmiddle, scope, hscope, -⟩, -⟩
      exact ⟨⟨summary, hsummary⟩, ⟨middle, hmiddle⟩, scope, hscope⟩
    · rintro ⟨⟨summary, hsummary⟩, ⟨middle, hmiddle⟩, scope, hscope⟩
      exact ⟨_, _, ⟨summary, hsummary, counts, rfl, middle, hmiddle, scope, hscope, rfl⟩, rfl⟩
  rw [hlines, summaryOf_returns, allFindingLines_returns, scopeLines_returns]
  constructor
  · rintro ⟨hsummary, hfindings, hscope⟩
    exact ⟨hseverities, fun f hf => (hfindings f hf).2, hsummary, hscope⟩
  · intro h
    exact ⟨h.summary, fun f hf => ⟨h.severities f hf, h.locations f hf⟩, h.scope⟩

theorem main_eq (hraw : Dict.get? raw "findings" = some (.arr (findings.map Json.obj))) :
    main text generated (.obj raw) = do
      let sorted ← sortFindings text (.arr (findings.map Json.obj))
      return some (← renderReport text generated raw sorted) := by
  simp only [main, loadFindings, pyIn, hraw, Option.isSome_some, pure_bind, if_true, pyGet,
    Option.getD_some]

theorem Renderable.perm {findings' : List PyDict} (hperm : findings'.Perm findings) :
    Renderable raw findings' ↔ Renderable raw findings := by
  have hmem : ∀ {f}, f ∈ findings' ↔ f ∈ findings := hperm.mem_iff
  constructor
  · exact fun h => ⟨fun f hf => h.severities f (hmem.mpr hf),
      fun f hf => h.locations f (hmem.mpr hf), h.summary, h.scope⟩
  · exact fun h => ⟨fun f hf => h.severities f (hmem.mp hf),
      fun f hf => h.locations f (hmem.mp hf), h.summary, h.scope⟩

/-- A report is written exactly where everything can be read, and it is the one of the sorted
findings. -/
theorem main_ok_iff (hraw : Dict.get? raw "findings" = some (.arr (findings.map Json.obj)))
    {report : String} :
    main text generated (.obj raw) = .ok (some report) ↔
      Renderable raw findings ∧
        renderReport text generated raw (bySeverity text findings) = .ok report := by
  rw [main_eq hraw]
  constructor
  · intro h
    simp only [Py.bind_eq_ok] at h
    obtain ⟨sorted, hsorted, written, hwritten, h⟩ := h
    obtain rfl := Option.some.inj (Except.ok.inj h)
    have htexts := textSeverity_of_sortFindings hsorted
    obtain rfl := Except.ok.inj ((sortFindings_ok htexts).symm.trans hsorted)
    refine ⟨?_, hwritten⟩
    rw [← Renderable.perm (bySeverity_perm text findings),
      ← renderReport_returns fun f hf => htexts f (mem_bySeverity.mp hf)]
    exact ⟨written, hwritten⟩
  · rintro ⟨h, hreport⟩
    simp only [sortFindings_ok h.severities, hreport, bind, Except.bind]
    rfl

end Returns

end SolanaAuditor.Reports.AuditReport
