/- SolanaAuditor/Runners/FormalVerdict
   digest: When the exit code of run-formal-verification.py tells what its commands returned. -/

import SolanaAuditor.Runners.FormalVerification

set_option autoImplicit false
set_option relaxedAutoImplicit false

namespace SolanaAuditor.Runners.FormalVerification

open SolanaAuditor.Lib

def Failed (r : VerificationResult) : Prop := r.exitCode ≠ 0 ∧ r.exitCode ≠ exitSkip

/-- The exit code tells what the commands returned: success is the 0 of the command reported, a
failure that no later command makes good is a failure, and the report decides the code. -/
structure Faithful (code : Int) (report : VerificationResult) (ran : List VerificationResult) :
    Prop where
  success : code = exitSuccess → report ∈ ran ∧ report.exitCode = 0
  failure : ∀ before r later, ran = before ++ r :: later → Failed r →
    (∀ s ∈ later, s.exitCode ≠ 0) → code = exitFailure
  decided : code = exitCodeOf report

section Codes

variable (args : Args) (env : Surroundings)

def returnCode (p : Subprocess) : Option Int := (runSubprocess args.timeout p).map Prod.fst

/-! What the command of each tool returns; `none` where the tool has nothing to run. -/

def scriptCode : Option Int :=
  if env.qedScriptExists then returnCode args env.scriptRun else none

def cliCode : Option Int := (detectQed env).bind fun _ => returnCode args env.cliRun

def anchorCode : Option Int :=
  if env.programsIsDir then (detectAnchor env).bind fun _ => returnCode args env.anchorRun
  else none

/-- The chain of tools ends at a 0, or at a skip with no failure before it. -/
def Conclusive : Prop :=
  scriptCode args env = some 0 ∨ scriptCode args env = some 2 ∨
  cliCode args env = some 0 ∨ (cliCode args env = some 2 ∧ scriptCode args env = none) ∨
  (cliCode args env ≠ some 2 ∧ anchorCode args env = some 0) ∨
  (scriptCode args env = none ∧ cliCode args env = none ∧ anchorCode args env = none)

end Codes

section Runs

variable {args : Args} {env : Surroundings}

theorem finalize_finished {result report : VerificationResult} {ran ran' : List VerificationResult}
    {code : Int} (h : finalize env result ran = .finished code report ran') :
    code = exitCodeOf result ∧ report = result ∧ ran' = ran := by
  unfold finalize at h
  split at h
  · obtain ⟨rfl, rfl, rfl⟩ := Outcome.finished.inj h
    exact ⟨rfl, rfl, rfl⟩
  · simp at h

theorem resultOf_eq_some {tool version : String} {statusOf : Int → Status}
    {command notes : List String} {p : Subprocess} {r : VerificationResult}
    (h : resultOf args env tool version statusOf command notes p = some r) :
    returnCode args p = some r.exitCode ∧ r.status = statusOf r.exitCode ∧
      r.command = command := by
  obtain ⟨out, hout, rfl⟩ := Option.map_eq_some_iff.mp h
  exact ⟨by simp [returnCode, hout], rfl, rfl⟩

theorem commandsOf_eq {r : VerificationResult} (h : r.command ≠ []) : commandsOf r = [r] := by
  simp [commandsOf, h]

/-- The last stage: the test command is run and reported as a success, or nothing is run. -/
theorem viaAnchor_finished {ran ran' : List VerificationResult} {code : Int}
    {report : VerificationResult}
    (h : viaAnchor args env ran = .finished code report ran') :
    code = exitCodeOf report ∧
    ((anchorCode args env = none ∧ code = exitSkip ∧ ran' = ran) ∨
      (anchorCode args env = some report.exitCode ∧ code = exitSuccess ∧
        ran' = ran ++ [report])) := by
  unfold viaAnchor at h
  split at h
  · next hnone =>
    obtain ⟨rfl, rfl, rfl⟩ := finalize_finished h
    exact ⟨rfl, Or.inl ⟨by simp [anchorCode, hnone], rfl, rfl⟩⟩
  · next anchorBin anchorVersion hanchor =>
    split at h
    · simp at h
    · next result hresult =>
      obtain ⟨rfl, rfl, rfl⟩ := finalize_finished h
      refine ⟨rfl, ?_⟩
      unfold runViaAnchorTests at hresult
      split at hresult
      · next hprograms =>
        obtain rfl := Option.some.inj hresult
        refine Or.inl ⟨?_, rfl, by simp [commandsOf, skipResult]⟩
        simp only [Bool.not_eq_true'] at hprograms
        simp [anchorCode, hprograms]
      · next hprograms =>
        obtain ⟨hcode, hstatus, hcommand⟩ := resultOf_eq_some hresult
        simp only [Bool.not_eq_true', Bool.not_eq_false] at hprograms
        refine Or.inr ⟨?_, ?_, ?_⟩
        · simpa [anchorCode, hprograms, hanchor] using hcode
        · by_cases hrc : report.exitCode = 0 <;> simp [exitCodeOf, hstatus, anchorStatus, hrc]
        · rw [commandsOf_eq (by simp [hcommand])]

/-- A stage of QED stops the chain with a 0 or a skip, and else passes its failure on. -/
theorem qedStage_finished {result report : VerificationResult} {next : Outcome}
    {ran ran' : List VerificationResult} {code : Int}
    (hstatus : result.status = qedStatus result.exitCode)
    (h : (if result.status ≠ .error then finalize env result ran else next) =
      .finished code report ran') :
    (report = result ∧ ran' = ran ∧ code = exitCodeOf report ∧
      ((result.exitCode = 0 ∧ code = exitSuccess) ∨ (result.exitCode = 2 ∧ code = exitSkip))) ∨
    (Failed result ∧ next = .finished code report ran') := by
  by_cases h0 : result.exitCode = 0
  · rw [if_pos (by simp [hstatus, qedStatus, h0])] at h
    obtain ⟨rfl, rfl, rfl⟩ := finalize_finished h
    exact Or.inl ⟨rfl, rfl, rfl, Or.inl ⟨h0, by simp [exitCodeOf, hstatus, qedStatus, h0]⟩⟩
  by_cases h2 : result.exitCode = 2
  · rw [if_pos (by simp [hstatus, qedStatus, h2])] at h
    obtain ⟨rfl, rfl, rfl⟩ := finalize_finished h
    refine Or.inl ⟨rfl, rfl, rfl, Or.inr ⟨h2, ?_⟩⟩
    simp [exitCodeOf, hstatus, qedStatus, h2, exitSkip]
  · rw [if_neg (by simp [hstatus, qedStatus, h0, h2])] at h
    exact Or.inr ⟨⟨h0, h2⟩, h⟩

theorem viaQedCli_finished {ran ran' : List VerificationResult} {code : Int}
    {report : VerificationResult}
    (h : viaQedCli args env ran = .finished code report ran') :
    (cliCode args env = none ∧ viaAnchor args env ran = .finished code report ran') ∨
    ∃ r, cliCode args env = some r.exitCode ∧
      ((report = r ∧ ran' = ran ++ [r] ∧ code = exitCodeOf report ∧
        ((r.exitCode = 0 ∧ code = exitSuccess) ∨ (r.exitCode = 2 ∧ code = exitSkip))) ∨
      (Failed r ∧ viaAnchor args env (ran ++ [r]) = .finished code report ran')) := by
  unfold viaQedCli at h
  split at h
  · next hnone => exact Or.inl ⟨by simp [cliCode, hnone], h⟩
  · next qedBin qedVersion hqed =>
    split at h
    · simp at h
    · next result hresult =>
      obtain ⟨hcode, hstatus, hcommand⟩ := resultOf_eq_some hresult
      rw [commandsOf_eq (by simp [hcommand])] at h
      exact Or.inr ⟨result, by simp [cliCode, hqed, hcode], qedStage_finished hstatus h⟩

theorem viaQedScript_finished {ran' : List VerificationResult} {code : Int}
    {report : VerificationResult}
    (h : viaQedScript args env = .finished code report ran') :
    (scriptCode args env = none ∧ viaQedCli args env [] = .finished code report ran') ∨
    ∃ r, scriptCode args env = some r.exitCode ∧
      ((report = r ∧ ran' = [r] ∧ code = exitCodeOf report ∧
        ((r.exitCode = 0 ∧ code = exitSuccess) ∨ (r.exitCode = 2 ∧ code = exitSkip))) ∨
      (Failed r ∧ viaQedCli args env [r] = .finished code report ran')) := by
  unfold viaQedScript at h
  split at h
  · next hscript => exact Or.inl ⟨by simp at hscript; simp [scriptCode, hscript], h⟩
  · next hscript =>
    split at h
    · simp at h
    · next result hresult =>
      obtain ⟨hcode, hstatus, hcommand⟩ := resultOf_eq_some hresult
      rw [commandsOf_eq (by simp [hcommand])] at h
      simp only [Bool.not_eq_true', Bool.not_eq_false] at hscript
      exact Or.inr ⟨result, by simp [scriptCode, hscript, hcode], qedStage_finished hstatus h⟩

theorem main_finished {ran : List VerificationResult} {code : Int} {report : VerificationResult}
    (h : main args env = .finished code report ran) :
    viaQedScript args env = .finished code report ran := by
  unfold main at h
  split at h
  · simp at h
  split at h
  · simp at h
  · exact h

end Runs

section Verdict

variable {code : Int} {report : VerificationResult} (prior : List VerificationResult)

/-- A report of a command that returned 0 is faithful whatever failed before. -/
theorem faithful_of_zero (hzero : report.exitCode = 0) (hcode : code = exitCodeOf report) :
    Faithful code report (prior ++ [report]) where
  success _ := ⟨by simp, hzero⟩
  failure before r later hran hfailed hlater := by
    rcases List.eq_nil_or_concat later with rfl | ⟨later, s, rfl⟩
    · have hlast : report = r := by simpa using congrArg List.getLast? hran
      exact absurd hzero (hlast ▸ hfailed.1)
    · have hconcat : prior ++ [report] = (before ++ r :: later) ++ [s] := by simpa using hran
      have hlast : report = s := by simpa using (List.append_inj' hconcat rfl).2
      exact absurd hzero (hlast ▸ hlater s (by simp))
  decided := hcode

/-- A skip is faithful when nothing failed before it. -/
theorem faithful_skip_iff (tail : List VerificationResult) (hprior : ∀ r ∈ prior, Failed r)
    (htail : ∀ r ∈ tail, r.exitCode = 2) (hskip : code = exitSkip)
    (hcode : code = exitCodeOf report) : Faithful code report (prior ++ tail) ↔ prior = [] := by
  constructor
  · intro h
    rcases List.eq_nil_or_concat prior with rfl | ⟨before, r, rfl⟩
    · rfl
    · have hfailed := hprior r (by simp)
      have hfail := h.failure before r tail (by simp) hfailed fun s hs => by simp [htail s hs]
      rw [hskip] at hfail
      exact absurd hfail (by decide)
  · rintro rfl
    refine ⟨fun hsuccess => ?_, fun before r later hran hfailed _ => ?_, hcode⟩
    · rw [hskip] at hsuccess
      exact absurd hsuccess (by decide)
    · have hr := htail r (by rw [List.nil_append] at hran; simp [hran])
      exact absurd hr hfailed.2

theorem viaAnchor_faithful_iff {args : Args} {env : Surroundings} {ran : List VerificationResult}
    (hprior : ∀ r ∈ prior, Failed r)
    (h : viaAnchor args env prior = .finished code report ran) :
    Faithful code report ran ↔
      anchorCode args env = some 0 ∨ (anchorCode args env = none ∧ prior = []) := by
  obtain ⟨hcode, ⟨hnone, hskip, rfl⟩ | ⟨hsome, hsuccess, rfl⟩⟩ := viaAnchor_finished h
  · have hverdict := faithful_skip_iff _ [] hprior (by simp) hskip hcode
    rw [List.append_nil] at hverdict
    simp [hverdict, hnone]
  · rw [hsome]
    constructor
    · intro hfaithful
      exact Or.inl (congrArg some (hfaithful.success hsuccess).2)
    · rintro (hzero | ⟨hnone, -⟩)
      · exact faithful_of_zero prior (Option.some.inj hzero) hcode
      · simp at hnone

theorem viaQedCli_faithful_iff {args : Args} {env : Surroundings}
    {ran : List VerificationResult} (hprior : ∀ r ∈ prior, Failed r)
    (h : viaQedCli args env prior = .finished code report ran) :
    Faithful code report ran ↔
      cliCode args env = some 0 ∨ (cliCode args env = some 2 ∧ prior = []) ∨
      (cliCode args env ≠ some 2 ∧ anchorCode args env = some 0) ∨
      (cliCode args env = none ∧ anchorCode args env = none ∧ prior = []) := by
  rcases viaQedCli_finished h with ⟨hnone, hnext⟩ | ⟨r, hsome, hstop | ⟨hfailed, hnext⟩⟩
  · rw [viaAnchor_faithful_iff _ hprior hnext, hnone]
    simp
  · obtain ⟨rfl, rfl, hcode, ⟨hzero, -⟩ | ⟨htwo, hskip⟩⟩ := hstop
    · exact iff_of_true (faithful_of_zero prior hzero hcode) (Or.inl (by rw [hsome, hzero]))
    · rw [faithful_skip_iff prior _ hprior (by simpa using htwo) hskip hcode, hsome, htwo]
      simp
  · have hprior' : ∀ s ∈ prior ++ [r], Failed s := by
      intro s hs
      rcases List.mem_append.mp hs with hs | hs
      · exact hprior s hs
      · rw [List.mem_singleton.mp hs]
        exact hfailed
    have h0 : r.exitCode ≠ 0 := hfailed.1
    have h2 : r.exitCode ≠ 2 := hfailed.2
    rw [viaAnchor_faithful_iff _ hprior' hnext, hsome]
    simp [h0, h2]

end Verdict

/-- The exit code and the report tell what the commands returned exactly when the chain of tools
is conclusive. -/
theorem main_faithful_iff (args : Args) (env : Surroundings) {code : Int}
    {report : VerificationResult} {ran : List VerificationResult}
    (h : main args env = .finished code report ran) :
    Faithful code report ran ↔ Conclusive args env := by
  unfold Conclusive
  rcases viaQedScript_finished (main_finished h) with
    ⟨hnone, hnext⟩ | ⟨r, hsome, hstop | ⟨hfailed, hnext⟩⟩
  · rw [viaQedCli_faithful_iff _ (by simp) hnext, hnone]
    simp
  · obtain ⟨rfl, rfl, hcode, ⟨hzero, -⟩ | ⟨htwo, hskip⟩⟩ := hstop
    · refine iff_of_true (faithful_of_zero [] hzero hcode) (Or.inl ?_)
      rw [hsome, hzero]
    · refine iff_of_true ?_ (Or.inr (Or.inl (by rw [hsome, htwo])))
      exact (faithful_skip_iff [] _ (by simp) (by simpa using htwo) hskip hcode).mpr rfl
  · have h0 : r.exitCode ≠ 0 := hfailed.1
    have h2 : r.exitCode ≠ 2 := hfailed.2
    rw [viaQedCli_faithful_iff _ (by simpa using hfailed) hnext, hsome]
    simp [h0, h2]

def sampleArgs : Args where
  noBuild := true
  timeout := 600
  force := false

/-- A repository with an integration script and the anchor CLI. -/
def sampleRepo (hasScript hasAnchor : Bool) (scriptEnds anchorEnds : Ending) : Surroundings where
  repoRoot := "/repo"
  repoIsDir := true
  outputExists := false
  outputWritable := true
  qedScriptExists := hasScript
  programsIsDir := true
  cargoTomls := 2
  which name := if hasAnchor && name == "anchor" then some "/usr/bin/anchor" else none
  versionLine _ := some "anchor-cli 0.30.1"
  scriptRun := ⟨scriptEnds, 12⟩
  cliRun := ⟨.timeoutExpired, 600⟩
  anchorRun := ⟨anchorEnds, 31⟩
  now := "2025-01-01T00:00:00+00:00"

theorem main_faithful_iff_recovered :
    ∃ code report ran,
      main sampleArgs (sampleRepo true true .timeoutExpired (.completed 0 "ok" "")) =
        .finished code report ran ∧ Faithful code report ran :=
  ⟨_, _, _, rfl, (main_faithful_iff sampleArgs
    (sampleRepo true true .timeoutExpired (.completed 0 "ok" "")) rfl).mpr (by
      refine Or.inr (Or.inr (Or.inr (Or.inr (Or.inl ⟨?_, ?_⟩)))) <;> decide)⟩

/-- A failing test command exits with 0, and a failing script with no tool after it with 2. -/
theorem main_masks_failures :
    (∃ report, main sampleArgs (sampleRepo false true .timeoutExpired (.completed 1 "" "")) =
      .finished exitSuccess report [report] ∧ report.exitCode = 1 ∧
      ¬ Faithful exitSuccess report [report]) ∧
    ∃ report failed, main sampleArgs (sampleRepo true false (.completed 1 "" "") .timeoutExpired) =
      .finished exitSkip report [failed] ∧ failed.exitCode = 1 ∧
      ¬ Faithful exitSkip report [failed] := by
  refine ⟨⟨_, rfl, rfl, ?_⟩, _, _, rfl, rfl, ?_⟩
  · intro h
    exact absurd (h.success rfl).2 (by decide)
  · intro h
    exact absurd (h.failure [] _ [] rfl ⟨by decide, by decide⟩ (by simp)) (by decide)

end SolanaAuditor.Runners.FormalVerification
