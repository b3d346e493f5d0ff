/- SolanaAuditor/Fixes/VerificationVerdict
   digest: When fix-verification.sh reports the outcome of its steps by its exit code. -/

import SolanaAuditor.Fixes.VerificationRuns

set_option autoImplicit false
set_option relaxedAutoImplicit false

namespace SolanaAuditor.Fixes

open SolanaAuditor.Lib SolanaAuditor.Lib.Shell

def StepFails (p : Project) (flags : List String) (id : String) : Prop :=
  requestsBuild flags ∧ BuildFails p ∨ requestsTest flags ∧ TestFails p id

instance (p : Project) (flags : List String) (id : String) : Decidable (StepFails p flags id) :=
  inferInstanceAs (Decidable (_ ∨ _))

/-- The run tells the outcome: exit code 2 for a finding that is not in `findings.json`,
else 0 or 1 by the requested build and test steps, with the summary at the end. -/
structure ReportsOutcome (p : Project) (flags : List String) (id : String)
    (r : Ending Nat × List String) : Prop where
  notFound : exitCode r.1 = 2 ↔ ¬ InFindings p id
  passed : InFindings p id → (exitCode r.1 = 0 ↔ ¬ StepFails p flags id)
  failed : InFindings p id → (exitCode r.1 = 1 ↔ StepFails p flags id)
  summary : InFindings p id → summaryLines p flags id <:+ r.2

/-- The lookup agrees with `findings.json`: jq reaches a finding that is there, and without
jq grep finds the line of those findings only. -/
def LookupAgrees (p : Project) (id : String) : Prop :=
  ∀ file, p.findingsJson = some file →
    (p.jqFound = true → InFindings p id → ∃ doc ∈ file.docs, Reaches id (listed doc)) ∧
    (p.jqFound = false → (file.grepHit id = true ↔ InFindings p id))

theorem lookupAgrees_iff (p : Project) (id : String) :
    LookupAgrees p id ↔ (findFinding p id = 0 ↔ InFindings p id) := by
  rw [findFinding_eq_zero]
  cases hfile : p.findingsJson with
  | none => simp [LookupAgrees, InFindings, hfile]
  | some file =>
    cases hjq : p.jqFound with
    | false => simp [LookupAgrees, hfile, hjq]
    | true =>
      have hin : (∃ doc ∈ file.docs, Reaches id (listed doc)) → InFindings p id := by
        rintro ⟨doc, hdoc, hr⟩
        exact ⟨file, hfile, doc, hdoc, hr.listed⟩
      simp only [LookupAgrees, hfile, hjq, Option.some.injEq, forall_eq', true_and, forall_true_left,
        Bool.true_eq_false, false_and, or_false, exists_eq_left', IsEmpty.forall_iff, and_true]
      exact ⟨fun h => ⟨hin, h⟩, fun h => h.2⟩

def QueriesSucceed (p : Project) : Prop :=
  ∀ file, p.findingsJson = some file → p.jqFound = true → QuerySucceeds file

section Verdict

variable {p : Project} {id : String} {flags : List String}

/-- A run that ends with code 2 tells the outcome of a missing finding only. -/
theorem reportsOutcome_two {lines : List String} :
    ReportsOutcome p flags id (.error 2, lines) ↔ ¬ InFindings p id := by
  constructor
  · exact fun h => h.notFound.mp rfl
  · intro hn
    exact ⟨by simp [exitCode, hn], fun h => absurd h hn, fun h => absurd h hn,
      fun h => absurd h hn⟩

theorem not_reportsOutcome_of_missing {r : Ending Nat × List String} (hin : ¬ InFindings p id)
    (hr : exitCode r.1 ≠ 2) : ¬ ReportsOutcome p flags id r :=
  fun h => hr (h.notFound.mpr hin)

theorem not_reportsOutcome_of_code {r : Ending Nat × List String} (hin : InFindings p id)
    (h0 : exitCode r.1 ≠ 0) (h1 : exitCode r.1 ≠ 1) : ¬ ReportsOutcome p flags id r := by
  intro h
  by_cases hf : StepFails p flags id
  · exact h1 ((h.failed hin).mpr hf)
  · exact h0 ((h.passed hin).mpr hf)

theorem requestsPoc_of_only (hb : ¬ requestsBuild flags) (ht : ¬ requestsTest flags) :
    requestsPoc flags := by
  have hsome : "--build" ∈ flags ∨ "--poc" ∈ flags := by
    by_contra h
    exact ht (Or.inr (Or.inr h))
  exact hsome.elim (fun h => absurd (Or.inl h) hb) Or.inl

/-- The summary of a finding that is there tells the outcome exactly when no row counts. -/
theorem summary_reportsOutcome_iff (hin : InFindings p id) (before : List String) {r : Ending Nat}
    {lines : List String}
    (hrun : Runs (summarize (chosen flags id)
      (if (chosen flags id).runBuild = true ∧ BuildFails p then 1 else 0)
      (if (chosen flags id).runTest = true ∧ TestFails p id then 1 else 0)
      (if (chosen flags id).runPoc = true ∧ pocFound p id = false then 1 else 0)) r lines) :
    ReportsOutcome p flags id (r, before ++ lines) ↔
      ¬ requestsBuild flags ∧ ¬ requestsTest flags ∧ pocFound p id = false := by
  by_cases hcount : requestsBuild flags ∨ requestsTest flags ∨
      requestsPoc flags ∧ pocFound p id = true
  · -- a row counts: the output stops at it
    obtain ⟨init, row, hstop⟩ := summarize_counted (o := chosen flags id)
      (if (chosen flags id).runBuild = true ∧ BuildFails p then 1 else 0)
      (if (chosen flags id).runTest = true ∧ TestFails p id then 1 else 0)
      (if (chosen flags id).runPoc = true ∧ pocFound p id = false then 1 else 0)
      (by
        rcases hcount with h | h | ⟨h, hp⟩
        · exact Or.inl (by simpa [chosen] using h)
        · exact Or.inr (Or.inl (by simpa [chosen] using h))
        · exact Or.inr (Or.inr ⟨by simpa [chosen] using h, by simp [hp]⟩))
    obtain ⟨rfl, rfl⟩ : r = .error 1 ∧ lines = init ++ ["[" ++ row] := by
      simpa using (hrun []).symm.trans (hstop [])
    constructor
    · intro h
      have hs := h.summary hin
      rw [← List.append_assoc] at hs
      exact absurd hs (summaryLines_not_suffix p flags id _ row)
    · rintro ⟨hb, ht, hp⟩
      rcases hcount with h | h | ⟨-, h⟩
      · exact absurd h hb
      · exact absurd h ht
      · rw [hp] at h
        exact absurd h (by simp)
  · simp only [not_or, not_and, Bool.not_eq_true] at hcount
    obtain ⟨hb, ht, hp⟩ := hcount
    have hpoc := requestsPoc_of_only hb ht
    have hnone := hp hpoc
    have hfails : ¬ StepFails p flags id := by simp [StepFails, hb, ht]
    have hend := summarize_uncounted (o := chosen flags id)
      (if (chosen flags id).runBuild = true ∧ BuildFails p then 1 else 0)
      (if (chosen flags id).runTest = true ∧ TestFails p id then 1 else 0)
      (if (chosen flags id).runPoc = true ∧ pocFound p id = false then 1 else 0)
      (by simpa [chosen] using hb) (by simpa [chosen] using ht) (fun h => by simp [h, hnone])
    have hsummary : summaryLines p flags id =
        [separatorLine, "", "Verification Summary for " ++ (chosen flags id).findingId, ""] ++
          (if (chosen flags id).runPoc then ["[WARN] PoC verification (skipped or no PoC)"]
            else []) ++ verdictLines (chosen flags id).findingId false := by
      simp [summaryLines, chosen, hb, ht, hpoc, hnone]
    rw [← hsummary] at hend
    obtain ⟨rfl, rfl⟩ : r = .error 0 ∧ lines = summaryLines p flags id := by
      simpa using (hrun []).symm.trans (hend [])
    simp only [hb, ht, hnone, not_false_eq_true, and_true, iff_true]
    exact ⟨by simp [exitCode, hin], fun _ => by simp [exitCode, hfails],
      fun _ => by simp [exitCode, hfails], fun _ => List.suffix_append _ _⟩

end Verdict

/-- fix-verification.sh tells the outcome exactly when its lookup agrees with the file and,
for a finding that is there, the CVSS queries succeed and the only step asked for is a
PoC that is not found. -/
theorem fix_verification_reports_outcome_iff (p : Project) (before after : List String)
    (id : String) (hid : id ≠ "") (hdash : id.toList.head? ≠ some '-')
    (hflags : ∀ a ∈ before ++ after, a ∈ stepFlags) :
    ReportsOutcome p (before ++ after) id
        ((main p (before ++ id :: after)).run output []) ↔
      LookupAgrees p id ∧
        (InFindings p id → QueriesSucceed p ∧ ¬ requestsBuild (before ++ after) ∧
          ¬ requestsTest (before ++ after) ∧ pocFound p id = false) := by
  have hlead := main_leads (p := p) hid hdash hflags
  rw [lookupAgrees_iff]
  by_cases hfind : findFinding p id = 0
  · rw [if_neg (by simpa using hfind)] at hlead
    by_cases hq : QueriesSucceed p
    · have hsum := hlead.trans (verifyFinding_leads _ (verifyCvssRecalculation_returns p id hq))
      obtain ⟨e, lines, hend⟩ := exists_runs (summarize (chosen (before ++ after) id)
        (if (chosen (before ++ after) id).runBuild = true ∧ BuildFails p then 1 else 0)
        (if (chosen (before ++ after) id).runTest = true ∧ TestFails p id then 1 else 0)
        (if (chosen (before ++ after) id).runPoc = true ∧ pocFound p id = false then 1 else 0))
      obtain ⟨start, hrun⟩ := hsum.runs hend
      rw [hrun [], List.nil_append]
      by_cases hin : InFindings p id
      · rw [summary_reportsOutcome_iff hin start hend]
        simp [hfind, hin, hq]
      · have hcode : exitCode e ≠ 2 := by
          rcases summarize_code hend with rfl | rfl <;> simp [exitCode]
        have hbad : ¬ ReportsOutcome p (before ++ after) id (e, start ++ lines) :=
          not_reportsOutcome_of_missing hin hcode
        simp [hfind, hin, hbad]
    · -- only a jq query can fail, and then jq found the finding
      simp only [QueriesSucceed, not_forall] at hq
      obtain ⟨file, hfile, hjq, hq⟩ := hq
      have hin : InFindings p id := by
        obtain ⟨file', hfile', ⟨-, doc, hdoc, hr⟩ | ⟨hno, -⟩⟩ := (findFinding_eq_zero p id).mp hfind
        · exact ⟨file', hfile', doc, hdoc, hr.listed⟩
        · simp [hjq] at hno
      obtain ⟨code, hcode, hfail⟩ := verifyCvssRecalculation_fails p id hfile hjq hq
      obtain ⟨lines, hend⟩ := verifyFinding_fails (chosen (before ++ after) id) hfail
      obtain ⟨start, hrun⟩ := hlead.runs hend
      rw [hrun [], List.nil_append]
      have hbad : ¬ ReportsOutcome p (before ++ after) id (.error code, start ++ lines) := by
        simp only [List.mem_cons, List.not_mem_nil, or_false] at hcode
        rcases hcode with rfl | rfl <;>
          exact not_reportsOutcome_of_code hin (by simp [exitCode]) (by simp [exitCode])
      have hno : ¬ QueriesSucceed p := fun h => hq (h file hfile hjq)
      simp [hbad, hin, hno]
  · rw [if_pos hfind] at hlead
    obtain ⟨start, hrun⟩ := hlead.runs ((Runs.print _).bind (Runs.exit 2))
    rw [hrun [], reportsOutcome_two]
    simp only [hfind, false_iff]
    exact ⟨fun h => ⟨h, fun h' => absurd h' h⟩, fun h => h.1⟩

/-- A machine on which the finding is there, `anchor test` passes and jq is found. -/
def sampleProject : Project where
  findingsJson := some
    { docs := [.obj [("findings", .arr [.obj [("id", .str "CRIT-01")]])]]
      wellFormed := true
      grepHit := fun id => id == "CRIT-01" }
  jqFound := true
  anchorFound := true
  solanaFound := true
  bcFound := true
  anchorToml := true
  anchorBuild := { lines := [], succeeded := true }
  anchorTestGrep := fun _ => { lines := [], succeeded := true }
  anchorTest := { lines := [], succeeded := true }
  lower := fun id => String.ofList (id.toList.map Char.toLower)
  pocFile := fun _ => false
  jqRaw := fun
    | .str s => s
    | _ => "0"
  bc := fun _ _ => "N/A"
  severityScript := none

theorem sampleProject_inFindings : InFindings sampleProject "CRIT-01" :=
  ⟨_, rfl, _, List.mem_singleton.mpr rfl, _, List.mem_singleton.mpr rfl, rfl⟩

/-- Asked only for a PoC that is not there, the run tells the outcome. -/
theorem fix_verification_reports_outcome_iff_sample :
    ReportsOutcome sampleProject ["--poc"] "CRIT-01"
      ((main sampleProject ["CRIT-01", "--poc"]).run output []) := by
  refine (fix_verification_reports_outcome_iff sampleProject [] ["--poc"] "CRIT-01"
    (by decide) (by decide) (by decide)).mpr ⟨?_, fun _ => ⟨?_, by decide, by decide, by decide⟩⟩
  · rintro file ⟨⟩
    exact ⟨fun _ _ => ⟨_, List.mem_singleton.mpr rfl, [], _, [], rfl, by simp, rfl⟩,
      fun h => absurd h (by decide)⟩
  · rintro file ⟨⟩ -
    refine ⟨rfl, ?_⟩
    rintro doc ⟨⟩
    refine ⟨⟨_, rfl, _, rfl⟩, ?_⟩
    intro x hx
    rw [List.mem_singleton.mp hx]
    trivial

/-- A fix whose test passes is reported with exit code 1. -/
theorem fix_verification_rejects_passing_test :
    ¬ ReportsOutcome sampleProject ["--test"] "CRIT-01"
        ((main sampleProject ["CRIT-01", "--test"]).run output []) ∧
      exitCode ((main sampleProject ["CRIT-01", "--test"]).run output []).1 = 1 := by
  have hcode : exitCode ((main sampleProject ["CRIT-01", "--test"]).run output []).1 = 1 := by
    decide
  refine ⟨fun h => ?_, hcode⟩
  have hfails := (h.failed (sampleProject_inFindings)).mp hcode
  exact absurd hfails (by decide)

end SolanaAuditor.Fixes
