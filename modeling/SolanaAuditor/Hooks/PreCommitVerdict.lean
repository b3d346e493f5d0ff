/- SolanaAuditor/Hooks/PreCommitVerdict
   digest: When the pre-commit hook keeps to its exit codes and writes its report. -/

import SolanaAuditor.Hooks.PreCommit

set_option autoImplicit false
set_option relaxedAutoImplicit false

namespace SolanaAuditor.Hooks

open SolanaAuditor.Lib.Shell

/-! The lines of `scan_file` read back. -/

theorem cut_append {sep : Char} {w : List Char} (h : sep ∉ w) (rest : List Char) :
    cut sep (w ++ sep :: rest) = (w, rest) := by
  induction w with
  | nil => simp [cut]
  | cons c w ih =>
    rw [List.mem_cons, not_or] at h
    simp [cut, Ne.symm h.1, ih h.2]

theorem Severity.ofWord_word (s : Severity) : Severity.ofWord s.word = some s := by
  cases s <;> rfl

theorem Severity.tilde_not_mem_word (s : Severity) : '~' ∉ s.word.toList := by
  cases s <;> decide

/-- Whatever the description and the file are called, the severity is read back. -/
theorem readFields_text (f : Finding) : (readFields f.text).severity = f.severity.word := by
  have htext : f.text.toList = f.severity.word.toList ++ '~' ::
      (f.desc ++ "~" ++ f.file ++ "~" ++ f.firstLine ++ "~" ++ toString f.count).toList := by
    simp [Finding.text]
  simp [readFields, htext, cut_append f.severity.tilde_not_mem_word]

theorem Finding.text_ne_empty (f : Finding) : f.text ≠ "" := by
  intro h
  have := congrArg String.toList h
  simp [Finding.text] at this

/-- The run printed, and did nothing else. -/
def OnlyPrinted (s t : HookState) : Prop := t.temp = s.temp ∧ t.report = s.report

theorem OnlyPrinted.trans {s t u : HookState} (h : OnlyPrinted s t) (h' : OnlyPrinted t u) :
    OnlyPrinted s u := ⟨h'.1.trans h.1, h'.2.trans h.2⟩

section Scan

variable (h : Hook)

/-- Reading the findings of one file gives its lines, unless a count ends the shell. -/
theorem readFindings_run (lines : List String) (hne : ∀ l ∈ lines, l ≠ "") (s : HookState) :
    ∃ t, OnlyPrinted s t ∧
      ((h.readFindings lines).run HookState.answer s = (.ok lines, t) ∨
        lines ≠ [] ∧ ∃ code, (h.readFindings lines).run HookState.answer s = (.error code, t)) := by
  induction lines generalizing s with
  | nil => exact ⟨s, ⟨rfl, rfl⟩, Or.inl rfl⟩
  | cons l lines ih =>
    have hl : l ≠ "" := hne l (by simp)
    cases hc : h.countAboveOne (readFields l).count with
    | error code =>
      exact ⟨s, ⟨rfl, rfl⟩, Or.inr ⟨by simp, code, by simp [Hook.readFindings, hl, hc]⟩⟩
    | ok many =>
      obtain ⟨t, ht, hrun⟩ := ih (fun l' hl' => hne l' (List.mem_cons_of_mem l hl'))
        (s.answer (.print ("  " ++ (readFields l).severity ++ ": " ++ (readFields l).desc ++
          " in " ++ (readFields l).file ++ ":" ++ (readFields l).line ++ " (" ++
          (readFields l).count ++ " match" ++ (if many then "es" else "") ++ ")"))).2
      refine ⟨t, OnlyPrinted.trans ⟨rfl, rfl⟩ ht, ?_⟩
      rcases hrun with hrun | ⟨-, code, hrun⟩
      · left
        simp only [Hook.readFindings, hl, hc, if_false, bind_eq, print, bind_done, bind_act,
          run_act]
        rw [run_bind_ok _ hrun]
        rfl
      · right
        refine ⟨by simp, code, ?_⟩
        simp only [Hook.readFindings, hl, hc, if_false, bind_eq, print, bind_done, bind_act,
          run_act]
        rw [run_bind, hrun]

/-- So does the scan of all files. -/
theorem scanStaged_run (files : List String) (hne : ∀ f ∈ files, f ≠ "") (s : HookState) :
    ∃ t, OnlyPrinted s t ∧
      ((h.scanStaged files).run HookState.answer s =
          (.ok ((files.flatMap h.scanFile).map Finding.text), t) ∨
        files.flatMap h.scanFile ≠ [] ∧
          ∃ code, (h.scanStaged files).run HookState.answer s = (.error code, t)) := by
  induction files generalizing s with
  | nil => exact ⟨s, ⟨rfl, rfl⟩, Or.inl rfl⟩
  | cons f files ih =>
    have hf : f ≠ "" := hne f (by simp)
    obtain ⟨t, ht, hread⟩ := readFindings_run h ((h.scanFile f).map Finding.text)
      (by simp [Finding.text_ne_empty]) (s.answer (.print ("[AUDIT] " ++ ("Scanning: " ++ f)))).2
    have hst : OnlyPrinted s t := OnlyPrinted.trans ⟨rfl, rfl⟩ ht
    rcases hread with hread | ⟨hnil, code, hread⟩
    · obtain ⟨u, hu, hrest⟩ := ih (fun f' hf' => hne f' (List.mem_cons_of_mem f hf')) t
      refine ⟨u, hst.trans hu, ?_⟩
      rcases hrest with hrest | ⟨hnil, code, hrest⟩
      · left
        simp only [Hook.scanStaged, hf, if_false, logInfo, print, bind_eq, bind_act, bind_done,
          run_act]
        rw [run_bind_ok _ hread, run_bind_ok _ hrest]
        simp
      · right
        refine ⟨by simpa using fun _ => hnil, code, ?_⟩
        simp only [Hook.scanStaged, hf, if_false, logInfo, print, bind_eq, bind_act, bind_done,
          run_act]
        rw [run_bind_ok _ hread, run_bind, hrest]
    · refine ⟨t, hst, Or.inr ⟨?_, code, ?_⟩⟩
      · intro h0
        simp [List.flatMap_cons] at h0
        simp [h0.1] at hnil
      · simp only [Hook.scanStaged, hf, if_false, logInfo, print, bind_eq, bind_act, bind_done,
          run_act]
        rw [run_bind, hread]

end Scan

/-- The first increment of a counter has status 1 and ends the shell. -/
theorem aggregateFindings_cons (f : Finding) (rest : List String) :
    aggregateFindings (f.text :: rest) = .exit 1 := by
  simp [aggregateFindings, tallyFindings, f.text_ne_empty, readFields_text, Severity.ofWord_word,
    Tally.zero]

theorem detailCount_run (sev : Severity) (s : HookState) :
    (detailCount sev).run HookState.answer s = (.ok ((s.temp sev).getD []).length, s) := by
  cases hs : s.temp sev <;>
    simp [detailCount, tempTest, tempRead, HookState.answer, hs]

theorem severityJson_run (sev : Severity) (s : HookState) :
    ∃ found, (severityJson sev).run HookState.answer s = (.ok found, s) := by
  cases hs : s.temp sev with
  | none => exact ⟨[], by simp [severityJson, tempTest, HookState.answer, hs]⟩
  | some lines =>
    simp only [severityJson, tempTest, tempRead, HookState.answer, hs, bind_eq, bind_act,
      bind_done, run_act, Option.isSome_some, if_true]
    exact ⟨_, rfl⟩

theorem generateJson_run (h : Hook) (s : HookState) :
    ∃ t, (h.generateJson).run HookState.answer s = (.ok (), t) ∧ t.temp = s.temp := by
  obtain ⟨critical, hc⟩ := severityJson_run .critical s
  obtain ⟨high, hh⟩ := severityJson_run .high s
  obtain ⟨medium, hm⟩ := severityJson_run .medium s
  have hfind : generateFindingsJson.run HookState.answer s =
      (.ok (critical ++ high ++ medium), s) := by
    simp only [generateFindingsJson, bind_eq]
    rw [run_bind_ok _ hc, run_bind_ok _ hh, run_bind_ok _ hm]
    rfl
  simp only [Hook.generateJson, bind_eq]
  rw [run_bind_ok _ (detailCount_run _ s), run_bind_ok _ (detailCount_run _ s),
    run_bind_ok _ (detailCount_run _ s), run_bind_ok _ hfind]
  exact ⟨_, rfl, rfl⟩

def staleCount (temp : Severity → Option (List String)) (sev : Severity) : Nat :=
  ((temp sev).getD []).length

theorem finish_run (critical high medium : Nat) (s : HookState) :
    ((finish critical high medium).run HookState.answer s).1 =
      .error (if 0 < critical ∨ 0 < high then exitBlocked else exitPass) := by
  by_cases hb : 0 < critical ∨ 0 < high
  · simp [finish, hb, print, logBlock, cleanup]
  · by_cases hm : 0 < medium <;> simp [finish, hb, hm, print, logWarn, logPass, cleanup]

section Judge

variable (h : Hook) (s : HookState)

theorem judge_cons (f : Finding) (rest : List String) :
    ∃ t, OnlyPrinted s t ∧ (h.judge (f.text :: rest)).run HookState.answer s = (.error 1, t) := by
  refine ⟨(s.answer (.print "")).2, ⟨rfl, rfl⟩, ?_⟩
  simp [Hook.judge, print, aggregateFindings_cons]

theorem judge_nil :
    ((h.judge []).run HookState.answer s).1 = .error (
      if h.emptyArrayBound = false then 1
      else if 0 < staleCount s.temp .critical ∨ 0 < staleCount s.temp .high then exitBlocked
      else exitPass) := by
  cases hb : h.emptyArrayBound with
  | false => simp [Hook.judge, hb, print]
  | true =>
    have hagg : ∀ u : HookState, u.temp = s.temp → ∃ t,
        (aggregateFindings []).run HookState.answer u = (.ok (), t) ∧ t.temp = s.temp := by
      intro u hu
      exact ⟨_, rfl, hu⟩
    obtain ⟨t, hrun, ht⟩ := hagg (s.answer (.print "")).2 rfl
    obtain ⟨u, hjson, hu⟩ := generateJson_run h t
    simp only [Hook.judge, hb, print, bind_eq, bind_act, bind_done, run_act, List.isEmpty_nil,
      Bool.not_true, Bool.and_false, Bool.false_eq_true, if_false]
    rw [run_bind_ok _ hrun, run_bind_ok _ (detailCount_run _ t), run_bind_ok _ (detailCount_run _ t),
      run_bind_ok _ (detailCount_run _ t), run_bind_ok _ hjson, finish_run, ht]
    rfl

end Judge

/-- What the usage promises of a run over the given findings: its exit code, the warning
of a commit with MEDIUM findings only, and a report with the right counts. -/
structure KeepsExitCodes (findings : List Finding) (r : Ending Nat × HookState) : Prop where
  blocked : exitCode r.1 = 1 ↔ ∃ f ∈ findings, f.severity = .critical ∨ f.severity = .high
  passed : exitCode r.1 = 0 ↔ ¬ ∃ f ∈ findings, f.severity = .critical ∨ f.severity = .high
  warned : findings ≠ [] → (∀ f ∈ findings, f.severity = .medium) →
    "[WARN] COMMIT ALLOWED with " ++ toString findings.length ++ " MEDIUM warnings" ∈ r.2.printed
  reported : findings ≠ [] → ∃ rep, r.2.report = some rep ∧
    ∀ sev, rep.summary sev = findings.countP (fun f => decide (f.severity = sev))

theorem keepsExitCodes_nil (r : Ending Nat × HookState) :
    KeepsExitCodes [] r ↔ exitCode r.1 = 0 := by
  constructor
  · intro hk
    exact hk.passed.mpr (by simp)
  · intro h0
    exact ⟨by simp [h0], by simp [h0], by simp, by simp⟩

/-- A run that wrote no report breaks the promise as soon as there is a finding. -/
theorem not_keepsExitCodes {findings : List Finding} {r : Ending Nat × HookState}
    (hne : findings ≠ []) (hr : r.2.report = none) : ¬ KeepsExitCodes findings r := by
  intro hk
  obtain ⟨rep, hrep, -⟩ := hk.reported hne
  simp [hr] at hrep

section Outcome

variable (h : Hook) (stale : Severity → Option (List String))

theorem outcome_eq {r : Ending Nat × HookState}
    (hrun : h.runAudit.run HookState.answer
      { printed := [], temp := stale, report := none } = r) :
    h.outcome stale = (r.1, { r.2 with temp := fun _ => none }) := by
  simp [Hook.outcome, hrun, cleanup, HookState.answer]

theorem getStagedFiles_ne_empty : ∀ f ∈ h.getStagedFiles, f ≠ "" := by
  intro f hf h0
  subst h0
  rw [Hook.getStagedFiles, List.mem_filter] at hf
  exact absurd hf.2 (by decide)

private theorem print_exit_run (line : String) (code : Nat) (s : HookState) :
    ∃ t, OnlyPrinted s t ∧
      ((print line).bind fun _ => (.exit code : HookScript Nat)).run HookState.answer s =
        (.error code, t) :=
  ⟨(s.answer (.print line)).2, ⟨rfl, rfl⟩, rfl⟩

theorem runAudit_outsideGit (s : HookState) (hg : (h.gitFound && h.insideWorkTree) = false) :
    ∃ t, OnlyPrinted s t ∧ h.runAudit.run HookState.answer s = (.error exitError, t) := by
  cases hf : h.gitFound with
  | false => simpa [Hook.runAudit, Hook.checkGit, hf, logError, print] using
      print_exit_run ("[ERROR] " ++ "git not found") exitError s
  | true =>
    have hw : h.insideWorkTree = false := by simpa [hf] using hg
    simpa [Hook.runAudit, Hook.checkGit, hf, hw, logError, print] using
      print_exit_run ("[ERROR] " ++ "not inside a git repository") exitError s

theorem runAudit_early (s : HookState) (hg : (h.gitFound && h.insideWorkTree) = true)
    (hearly : "--no-verify" ∈ h.args ∨ h.getStagedFiles = []) :
    ∃ t, OnlyPrinted s t ∧ h.runAudit.run HookState.answer s = (.error exitPass, t) := by
  rw [Bool.and_eq_true] at hg
  by_cases ha : "--no-verify" ∈ h.args
  · simpa [Hook.runAudit, Hook.checkGit, hg.1, hg.2, ha, logInfo] using
      print_exit_run ("[AUDIT] " ++ "Skipping audit (--no-verify)") exitPass s
  · have hs : h.getStagedFiles = [] := hearly.resolve_left ha
    simpa [Hook.runAudit, Hook.checkGit, hg.1, hg.2, ha, hs, logPass] using
      print_exit_run ("[PASS] " ++ "No Rust files staged — passing") exitPass s

theorem runAudit_scan (s : HookState) (hg : (h.gitFound && h.insideWorkTree) = true)
    (ha : "--no-verify" ∉ h.args) (hs : h.getStagedFiles ≠ []) :
    ∃ t, OnlyPrinted s t ∧ h.runAudit.run HookState.answer s =
      ((h.scanStaged h.getStagedFiles).bind h.judge).run HookState.answer t := by
  rw [Bool.and_eq_true] at hg
  refine ⟨((s.answer (.print ("[AUDIT] " ++ "Scanning staged Rust files..."))).2.answer
    (.print "")).2, ⟨rfl, rfl⟩, ?_⟩
  simp [Hook.runAudit, Hook.checkGit, hg.1, hg.2, ha, hs, logInfo, print]

/-- A run with a finding writes no report, wherever it ends. -/
theorem outcome_report (hne : h.findings ≠ []) : (h.outcome stale).2.report = none := by
  have hstaged : h.getStagedFiles ≠ [] := by
    intro h0
    simp [Hook.findings, h0] at hne
  suffices hrun : ∃ e t, OnlyPrinted { printed := [], temp := stale, report := none } t ∧
      h.runAudit.run HookState.answer { printed := [], temp := stale, report := none } = (e, t) by
    obtain ⟨e, t, ht, hrun⟩ := hrun
    rw [outcome_eq h stale hrun]
    exact ht.2
  cases hg : h.gitFound && h.insideWorkTree with
  | false =>
    obtain ⟨t, ht, hrun⟩ := runAudit_outsideGit h { printed := [], temp := stale, report := none } hg
    exact ⟨_, t, ht, hrun⟩
  | true =>
    by_cases ha : "--no-verify" ∈ h.args
    · obtain ⟨t, ht, hrun⟩ := runAudit_early h { printed := [], temp := stale, report := none } hg
        (Or.inl ha)
      exact ⟨_, t, ht, hrun⟩
    · obtain ⟨t, ht, hrun⟩ := runAudit_scan h { printed := [], temp := stale, report := none } hg
        ha hstaged
      obtain ⟨u, hu, hscan⟩ := scanStaged_run h h.getStagedFiles (getStagedFiles_ne_empty h) t
      rcases hscan with hscan | ⟨-, code, hscan⟩
      · obtain ⟨f, rest, hf⟩ := List.exists_cons_of_ne_nil hne
        rw [Hook.findings] at hf
        rw [hf, List.map_cons] at hscan
        obtain ⟨v, hv, hjudge⟩ := judge_cons h u f (rest.map Finding.text)
        exact ⟨_, v, (ht.trans hu).trans hv, by rw [hrun, run_bind_ok _ hscan, hjudge]⟩
      · exact ⟨_, u, ht.trans hu, by rw [hrun, run_bind, hscan]⟩

theorem outcome_code (hnil : h.findings = []) : (h.outcome stale).1 = .error (
    if (h.gitFound && h.insideWorkTree) = false then exitError
    else if "--no-verify" ∈ h.args ∨ h.getStagedFiles = [] then exitPass
    else if h.emptyArrayBound = false then 1
    else if 0 < staleCount stale .critical ∨ 0 < staleCount stale .high then exitBlocked
    else exitPass) := by
  cases hg : h.gitFound && h.insideWorkTree with
  | false =>
    obtain ⟨t, -, hrun⟩ := runAudit_outsideGit h { printed := [], temp := stale, report := none } hg
    simp [outcome_eq h stale hrun]
  | true =>
    by_cases hearly : "--no-verify" ∈ h.args ∨ h.getStagedFiles = []
    · obtain ⟨t, -, hrun⟩ := runAudit_early h { printed := [], temp := stale, report := none } hg
        hearly
      simp [outcome_eq h stale hrun, hearly]
    · rw [not_or] at hearly
      obtain ⟨t, ht, hrun⟩ := runAudit_scan h { printed := [], temp := stale, report := none } hg
        hearly.1 hearly.2
      obtain ⟨u, hu, hscan⟩ := scanStaged_run h h.getStagedFiles (getStagedFiles_ne_empty h) t
      rw [Hook.findings] at hnil
      rw [hnil] at hscan
      have hscan : (h.scanStaged h.getStagedFiles).run HookState.answer t = (.ok [], u) := by
        simpa using hscan
      rw [outcome_eq h stale hrun, run_bind_ok _ hscan, judge_nil, hu.1, ht.1]
      simp [hearly]

end Outcome

/-- The hook keeps its exit codes exactly on runs without a finding: in a repository, and
either before the scan or with empty arrays bound and no details left by another run. -/
theorem pre_commit_keeps_exit_codes_iff (h : Hook) (stale : Severity → Option (List String)) :
    KeepsExitCodes h.findings (h.outcome stale) ↔
      h.findings = [] ∧ (h.gitFound && h.insideWorkTree) = true ∧
        ("--no-verify" ∈ h.args ∨ h.getStagedFiles = [] ∨
          h.emptyArrayBound = true ∧ staleCount stale .critical = 0 ∧
            staleCount stale .high = 0) := by
  by_cases hnil : h.findings = []
  · rw [hnil, keepsExitCodes_nil, outcome_code h stale hnil]
    cases hg : h.gitFound && h.insideWorkTree with
    | false => simp [exitCode, exitError]
    | true =>
      by_cases ha : "--no-verify" ∈ h.args
      · simp [exitCode, exitPass, ha]
      by_cases hs : h.getStagedFiles = []
      · simp [exitCode, exitPass, hs]
      cases hb : h.emptyArrayBound with
      | false => simp [exitCode, ha, hs]
      | true =>
        by_cases hstale : staleCount stale .critical = 0 ∧ staleCount stale .high = 0
        · simp [exitCode, exitPass, ha, hs, hstale]
        · have hpos : 0 < staleCount stale .critical ∨ 0 < staleCount stale .high := by omega
          simp [exitCode, exitBlocked, ha, hs, hstale, hpos]
  · simp only [hnil, false_and, iff_false]
    exact not_keepsExitCodes hnil (outcome_report h stale hnil)

def mediumCommit : Hook where
  args := []
  gitFound := true
  insideWorkTree := true
  stagedNames := ["src/lib.rs"]
  scanFile := fun file => [{ severity := .medium, desc := "panic in instruction", file := file
                             firstLine := "12", count := 1 }]
  timestamp := "2026-06-25T14:30:00Z"
  headCommit := "a1b2c3d"
  emptyArrayBound := true
  countAboveOne := fun count => .ok (count != "1")

/-- A commit with one MEDIUM match is blocked with exit code 1, and no report is written. -/
theorem pre_commit_blocks_medium :
    ¬ KeepsExitCodes mediumCommit.findings (mediumCommit.outcome fun _ => none) ∧
      exitCode (mediumCommit.outcome fun _ => none).1 = 1 ∧
      (mediumCommit.outcome fun _ => none).2.report = none := by
  have hreport : (mediumCommit.outcome fun _ => none).2.report = none := by decide
  exact ⟨not_keepsExitCodes (by decide) hreport, by decide, hreport⟩

end SolanaAuditor.Hooks
