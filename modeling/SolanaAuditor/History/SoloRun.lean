/- SolanaAuditor/History/SoloRun
   digest: One run of audit-history.sh add, with at most one failing file operation. -/

import SolanaAuditor.History.AuditHistory
import SolanaAuditor.History.Store

set_option autoImplicit false
set_option relaxedAutoImplicit false

namespace SolanaAuditor.History

open SolanaAuditor.Lib SolanaAuditor.Lib.Shell

/-- A version that `$(…)` does not strip to nothing. -/
def Visible (ver : String) : Prop := ver.toList.any (· != '\n') = true

def storeOf (s : FS) : String → List Json :=
  match s.file .history with
  | some [doc] => auditsOf doc
  | _ => fun _ => []

theorem storeOf_some {s : FS} {doc : Json} (h : s.file .history = some [doc]) :
    storeOf s = auditsOf doc := by simp [storeOf, h]

theorem storeOf_none {s : FS} (h : s.file .history = none) : storeOf s = fun _ => [] := by
  simp [storeOf, h]

theorem emptyHistory_wellFormed : WellFormedHistory emptyHistory :=
  ⟨_, [], rfl, rfl, by simp⟩

theorem auditsOf_emptyHistory : auditsOf emptyHistory = fun _ => [] := by
  funext pid
  simp [auditsOf, jqAudits, jqIndex, emptyHistory, jqIterate, bind, Except.bind]

/-! The record that the call builds. -/

theorem auditEntry_single (c : AddCall) (d : Json) :
    auditEntry c [d] = some (auditRecord c
      (jqAlternative (jqIndex "critical" d) (.int 0)) (jqAlternative (jqIndex "high" d) (.int 0))
      (jqAlternative (jqIndex "medium" d) (.int 0)) (jqAlternative (jqIndex "low" d) (.int 0))
      (jqAlternative (jqIndex "finding_ids" d) (.arr []))) := rfl

/-- Blank text and several documents pass the `jq .` check but give no record. -/
theorem auditEntry_eq_none {c : AddCall} {docs : List Json} (h : ∀ d, docs ≠ [d]) :
    auditEntry c docs = none := by
  match docs with
  | [] => rfl
  | [d] => exact absurd rfl (h d)
  | _ :: _ :: _ => rfl

theorem auditRecord_version (c : AddCall) (critical high medium low ids : Json) :
    WellFormedAudit (auditRecord c critical high medium low ids) ∧
      versionOf (auditRecord c critical high medium low ids) = some c.version := by
  constructor
  · exact ⟨_, c.version, rfl, by simp⟩
  · simp [versionOf, auditRecord]

theorem auditEntry_wellFormed {c : AddCall} {docs : List Json} {entry : Json}
    (h : auditEntry c docs = some entry) :
    WellFormedAudit entry ∧ versionOf entry = some c.version := by
  match docs with
  | [] => simp [auditEntry, jqDefault, argjson] at h
  | [d] =>
    rw [auditEntry_single, Option.some.injEq] at h
    exact h ▸ auditRecord_version c _ _ _ _ _
  | _ :: _ :: _ => simp [auditEntry, jqDefault, argjson] at h

section Commands

variable (fault : Fault)

theorem acquireLock_free {s : FS} (h : s.file .lock = none) (left : Nat) :
    (acquireLock left).run (answer fault) s = (.ok 0, s.put .lock []) := by
  cases left <;> simp [acquireLock, test, echo, answer, h]

/-- A lock that nobody removes is waited for until the timeout. -/
theorem acquireLock_held {s : FS} {l : Content} (h : s.file .lock = some l) (left : Nat) :
    (acquireLock left).run (answer fault) s = (.ok errLockTimeout, s) := by
  induction left with
  | zero => simp [acquireLock, test, answer, h]
  | succ left ih => simpa [acquireLock, test, answer, h] using ih

theorem releaseLock_held {s : FS} {l : Content} (h : s.file .lock = some l) :
    releaseLock.run (answer fault) s = (.ok 0, s.del .lock) := by
  simp [releaseLock, test, rm, answer, h]

/-- The replacement of the history: it happens, or one of its two commands failed. -/
theorem replaceHistory_run (s : FS) (tmp : Nat) (doc : Json) :
    ∃ status t, (replaceHistory tmp ([doc], true)).run (answer fault) s = (.ok status, t) ∧
      t.file .lock = s.file .lock ∧
      ((fault = .jqWrite ∧ status = errJsonOp ∧ t.file .history = s.file .history) ∨
        (fault = .mv ∧ status = 0 ∧ t.file .history = s.file .history) ∨
        (fault ≠ .jqWrite ∧ fault ≠ .mv ∧ status = 0 ∧ t.file .history = some [doc])) := by
  cases fault with
  | jqWrite =>
    exact ⟨errJsonOp, (s.put (.temp tmp) []).del (.temp tmp),
      by simp [replaceHistory, write, answer, dropTemp, rm], by simp, Or.inl ⟨rfl, rfl, by simp⟩⟩
  | mv =>
    exact ⟨0, s.put (.temp tmp) [doc], by simp [replaceHistory, write, mv, answer], by simp,
      Or.inr (Or.inl ⟨rfl, rfl, by simp⟩)⟩
  | none | mktemp =>
    exact ⟨0, (s.put (.temp tmp) [doc]).move (.temp tmp) .history [doc],
      by simp [replaceHistory, write, mv, answer], by simp [FS.move],
      Or.inr (Or.inr ⟨by simp, by simp, rfl, by simp [FS.move]⟩)⟩

end Commands

section Append

variable (fault : Fault) {s : FS} {doc audit : Json} (pid ver : String)

/-- What a run of `_jq_append_audit` does to the history. -/
inductive AppendOutcome (fault : Fault) (doc audit : Json) (pid ver : String) :
    Nat → Option Content → Prop
  | failed (status : Nat) : status ≠ 0 → fault ≠ .mv →
      AppendOutcome fault doc audit pid ver status (some [doc])
  | skipped : HasAudit doc pid ver → Visible ver →
      AppendOutcome fault doc audit pid ver 0 (some [doc])
  | lost : fault = .mv → ¬ (HasAudit doc pid ver ∧ Visible ver) →
      AppendOutcome fault doc audit pid ver 0 (some [doc])
  | stored (doc' : Json) : fault ≠ .mv → ¬ (HasAudit doc pid ver ∧ Visible ver) →
      Appended doc pid audit doc' → AppendOutcome fault doc audit pid ver 0 (some [doc'])

variable {pid ver} in
/-- Once the new document is computed, only the last two commands can go wrong. -/
private theorem replaceHistory_outcome (hdoc : s.file .history = some [doc])
    (hnew : ¬ (HasAudit doc pid ver ∧ Visible ver)) (tmp : Nat) {doc' : Json}
    (happ : Appended doc pid audit doc') :
    ∃ status t, (replaceHistory tmp ([doc'], true)).run (answer fault) s = (.ok status, t) ∧
      t.file .lock = s.file .lock ∧
      AppendOutcome fault doc audit pid ver status (t.file .history) := by
  obtain ⟨status, t, hrun, hlock, hcases⟩ := replaceHistory_run fault s tmp doc'
  refine ⟨status, t, hrun, hlock, ?_⟩
  rcases hcases with ⟨hf, rfl, hh⟩ | ⟨hf, rfl, hh⟩ | ⟨-, hf, rfl, hh⟩
  · rw [hh, hdoc]
    exact .failed _ (by decide) (by simp [hf])
  · rw [hh, hdoc]
    exact .lost hf hnew
  · rw [hh]
    exact .stored doc' hf hnew happ

theorem appendToHistory_run (hdoc : s.file .history = some [doc])
    (hwf : WellFormedHistory doc) (haudit : WellFormedAudit audit) (tmp : Nat) :
    ∃ status t, (appendToHistory pid ver audit tmp).run (answer fault) s = (.ok status, t) ∧
      t.file .lock = s.file .lock ∧
      AppendOutcome fault doc audit pid ver status (t.file .history) := by
  rcases jqProgramExists_eq hwf pid with he | ⟨he, hnil⟩
  · obtain ⟨hok, hiff⟩ := nonEmptyCapture_versionExists hwf he ver
    by_cases hv : nonEmptyCapture (jqVersionExists pid ver doc).1 = true
    · refine ⟨0, s.del (.temp tmp), ?_, by simp, ?_⟩
      · simp [appendToHistory, read, answer, hdoc, jqOr, jqRun, jqSingle, he, hv,
          dropTemp, rm]
      · have h := hiff.mp hv
        have hout : AppendOutcome fault doc audit pid ver 0 (some [doc]) := .skipped h.1 h.2
        simpa [hdoc] using hout
    · obtain ⟨doc', happ, hspec⟩ := jqAppendAudit_spec hwf he haudit
      obtain ⟨status, t, hrun, hrest⟩ :=
        replaceHistory_outcome fault hdoc (fun h => hv (hiff.mpr h)) tmp hspec
      refine ⟨status, t, ?_, hrest⟩
      simpa [appendToHistory, read, answer, hdoc, jqOr, jqRun, jqSingle, he, hok, hv, happ]
        using hrun
  · obtain ⟨doc', happ, hspec⟩ := jqAddProgram_spec hwf he haudit
    have hnew : ¬ (HasAudit doc pid ver ∧ Visible ver) := by
      rintro ⟨⟨a, ha, -⟩, -⟩
      simp [hnil] at ha
    obtain ⟨status, t, hrun, hrest⟩ := replaceHistory_outcome fault hdoc hnew tmp hspec
    refine ⟨status, t, ?_, hrest⟩
    simpa [appendToHistory, read, answer, hdoc, jqOr, jqRun, jqSingle, he, happ] using hrun

theorem jqAppendAuditFile_run (hdoc : s.file .history = some [doc])
    (hwf : WellFormedHistory doc) (haudit : WellFormedAudit audit) :
    ∃ status t, (jqAppendAuditFile pid ver audit).run (answer fault) s = (.ok status, t) ∧
      t.file .lock = s.file .lock ∧
      AppendOutcome fault doc audit pid ver status (t.file .history) := by
  by_cases hf : fault = .mktemp
  · refine ⟨1, s, by simp [jqAppendAuditFile, mktemp, answer, hf], rfl, ?_⟩
    rw [hdoc]
    exact .failed 1 (by decide) (by simp [hf])
  · obtain ⟨status, t, hrun, hlock, hout⟩ :=
      appendToHistory_run fault (s := s.fresh) pid ver (by simpa using hdoc) hwf haudit s.next
    refine ⟨status, t, ?_, by simpa using hlock, hout⟩
    simpa [jqAppendAuditFile, mktemp, test, answer, hf, hdoc] using hrun

end Append

section Add

variable {parse : String → Option (List Json)} {c : AddCall} {fault : Fault} {s : FS}
  {doc : Json}

theorem addLocked_rejected {l : Content} (hlock : s.file .lock = some l)
    (hp : parse (echoArg c.findingsJson) = none) :
    (addLocked parse c).run (answer fault) s = (.ok errJsonOp, s.del .lock) := by
  have hrel := releaseLock_held fault hlock
  simp only [addLocked, hp, bind_eq]
  rw [run_bind_ok _ hrel]
  rfl

theorem addLocked_aborted {docs : List Json}
    (hp : parse (echoArg c.findingsJson) = some docs) (he : auditEntry c docs = none) :
    (addLocked parse c).run (answer fault) s = (.error 2, s) := by
  simp [addLocked, hp, he]

theorem addLocked_appended (fault : Fault) {l : Content} {docs : List Json} {entry : Json}
    (hlock : s.file .lock = some l) (hdoc : s.file .history = some [doc])
    (hwf : WellFormedHistory doc) (hp : parse (echoArg c.findingsJson) = some docs)
    (he : auditEntry c docs = some entry) :
    ∃ status t, (addLocked parse c).run (answer fault) s =
        (.ok (if status = 0 then 0 else errJsonOp), t) ∧ t.file .lock = none ∧
      AppendOutcome fault doc entry c.programId c.version status (t.file .history) := by
  obtain ⟨status, t, hrun, hl, hout⟩ := jqAppendAuditFile_run fault c.programId
    c.version hdoc hwf (auditEntry_wellFormed he).1
  have hrel := releaseLock_held fault (hl.trans hlock)
  refine ⟨status, t.del .lock, ?_, by simp, by simpa using hout⟩
  simp only [addLocked, hp, he, bind_eq]
  rw [run_bind_ok _ hrun, run_bind_ok _ hrel]
  rfl

variable (hpid : c.programId ≠ "") (hver : c.version ≠ "") (hfind : c.findingsJson ≠ "")
include hpid hver hfind

theorem auditHistoryAdd_noJq (hjq : c.jqBin = false) :
    (auditHistoryAdd parse c).run (answer fault) s = (.ok errNoJq, s) := by
  simp [auditHistoryAdd, hpid, hver, hfind, hjq]

theorem auditHistoryAdd_locked (hjq : c.jqBin = true) (hdoc : s.file .history = some [doc])
    {l : Content} (hlock : s.file .lock = some l) :
    (auditHistoryAdd parse c).run (answer fault) s = (.ok errLockTimeout, s) := by
  have hacq := acquireLock_held fault hlock c.lockTimeout
  simp only [auditHistoryAdd, hpid, hver, hfind, hjq, if_false, Bool.not_true,
    Bool.false_eq_true, bind_eq, test, bind_act, bind_done, run_act, answer, hdoc,
    Option.isSome_some]
  rw [run_bind_ok _ hacq]
  rfl

theorem auditHistoryAdd_free (hjq : c.jqBin = true) (hdoc : s.file .history = some [doc])
    (hlock : s.file .lock = none) :
    (auditHistoryAdd parse c).run (answer fault) s =
      (addLocked parse c).run (answer fault) (s.put .lock []) := by
  have hacq := acquireLock_free fault hlock c.lockTimeout
  simp only [auditHistoryAdd, hpid, hver, hfind, hjq, if_false, Bool.not_true,
    Bool.false_eq_true, bind_eq, test, bind_act, bind_done, run_act, answer, hdoc,
    Option.isSome_some]
  rw [run_bind_ok _ hacq]
  rfl

end Add

/-- The run ends in one of its two ways: exit 0 with the pair in the history, or another
exit code with the history as it was; and a lock that was not there is not there. -/
def EndsCleanly (c : AddCall) (s : FS) (r : Ending Nat × FS) : Prop :=
  ((exitCode r.1 = 0 ∧
      ∃ doc, r.2.file .history = some [doc] ∧ HasAudit doc c.programId c.version) ∨
    (exitCode r.1 ≠ 0 ∧ r.2.file .history = s.file .history)) ∧
  (s.file .lock = none → r.2.file .lock = none)

theorem AppendOutcome.endsCleanly_iff {c : AddCall} {s : FS} {t : FS} {fault : Fault}
    {doc entry : Json} {status : Nat} (hdoc : s.file .history = some [doc])
    (hlock : t.file .lock = none) (hentry : versionOf entry = some c.version)
    (h : AppendOutcome fault doc entry c.programId c.version status (t.file .history)) :
    EndsCleanly c s (.ok (if status = 0 then 0 else errJsonOp), t) ↔
      fault ≠ .mv ∨ HasAudit doc c.programId c.version := by
  generalize hh : t.file .history = content at h
  cases h with
  | failed _ hs hf => simp [EndsCleanly, hs, hf, hh, hdoc, hlock, exitCode, errJsonOp]
  | skipped hhas _ => simp [EndsCleanly, hhas, hh, hlock, exitCode]
  | lost hf _ => simp [EndsCleanly, hf, hh, hlock, exitCode]
  | stored doc' hf _ happ =>
    have hhas : HasAudit doc' c.programId c.version := by
      refine ⟨entry, ?_, hentry⟩
      simp [happ.2]
    simp [EndsCleanly, hf, hhas, hh, hlock, exitCode]

/-- Over a well-formed history a run ends cleanly exactly when it never gets the lock or
jq, or jq rejects the findings, or they are one document and the `mv` does not lose it. -/
theorem audit_history_add_ends_cleanly_iff (parse : String → Option (List Json))
    (c : AddCall) (fault : Fault) (s : FS) (doc : Json)
    (hpid : c.programId ≠ "") (hver : c.version ≠ "") (hfind : c.findingsJson ≠ "")
    (hdoc : s.file .history = some [doc]) (hwf : WellFormedHistory doc) :
    EndsCleanly c s ((auditHistoryAdd parse c).run (answer fault) s) ↔
      c.jqBin = false ∨ s.file .lock ≠ none ∨ parse (echoArg c.findingsJson) = none ∨
        ((∃ d, parse (echoArg c.findingsJson) = some [d]) ∧
          (fault ≠ .mv ∨ HasAudit doc c.programId c.version)) := by
  cases hjq : c.jqBin with
  | false =>
    rw [auditHistoryAdd_noJq hpid hver hfind hjq]
    simp [EndsCleanly, exitCode, errNoJq]
  | true =>
    cases hlock : s.file .lock with
    | some l =>
      rw [auditHistoryAdd_locked hpid hver hfind hjq hdoc hlock]
      simp [EndsCleanly, exitCode, errLockTimeout, hlock]
    | none =>
      rw [auditHistoryAdd_free hpid hver hfind hjq hdoc hlock]
      have hlock' : (s.put .lock []).file .lock = some [] := by simp
      have hdoc' : (s.put .lock []).file .history = some [doc] := by simpa using hdoc
      cases hp : parse (echoArg c.findingsJson) with
      | none =>
        rw [addLocked_rejected hlock' hp]
        simp [EndsCleanly, exitCode, errJsonOp]
      | some docs =>
        cases he : auditEntry c docs with
        | none =>
          -- the lock stays behind
          rw [addLocked_aborted hp he]
          have hdocs : ∀ d, docs ≠ [d] := by
            rintro d rfl
            simp [auditEntry_single] at he
          simp [EndsCleanly, hlock, hdocs]
        | some entry =>
          have hone : ∃ d, docs = [d] := by
            by_contra hn
            rw [auditEntry_eq_none (fun d hd => hn ⟨d, hd⟩)] at he
            simp at he
          obtain ⟨status, t, hrun, hl, hout⟩ :=
            addLocked_appended fault hlock' hdoc' hwf hp he
          rw [hrun, hout.endsCleanly_iff hdoc hl (auditEntry_wellFormed he).2]
          simp [hone]

/-! Two runs over an empty history: one on blank findings, one on `{}` whose `mv` fails. -/

/-- jq on the two texts of these runs. -/
def sampleParse (text : String) : Option (List Json) :=
  if text = " \n" then some []
  else if text = "\x7b\x7d\n" then some [.obj []]
  else none

def sampleFiles : FS :=
  { file := fun f => if f = .history then some [emptyHistory] else none, next := 0 }

def sampleCall (findingsJson : String) : AddCall :=
  { programId := "Vault111", version := "1.0.0", findingsJson := findingsJson
    lockTimeout := 10, jqBin := true, auditor := "claude", commit := "a1b2c3d"
    timestamp := "2026-06-25T14:30:00Z" }

theorem audit_history_add_ends_cleanly_iff_sample :
    EndsCleanly (sampleCall "\x7b\x7d") sampleFiles
      ((auditHistoryAdd sampleParse (sampleCall "\x7b\x7d")).run (answer .none) sampleFiles) :=
  (audit_history_add_ends_cleanly_iff sampleParse (sampleCall "\x7b\x7d") .none sampleFiles
    emptyHistory (by decide) (by decide) (by decide) rfl emptyHistory_wellFormed).mpr
    (Or.inr (Or.inr (Or.inr ⟨⟨.obj [], rfl⟩, Or.inl (by decide)⟩)))

/-- Blank findings end the shell inside the critical section, and a failed `mv` is
reported as success. -/
theorem audit_history_add_blank_findings_and_failed_mv :
    ¬ EndsCleanly (sampleCall " ") sampleFiles
        ((auditHistoryAdd sampleParse (sampleCall " ")).run (answer .none) sampleFiles) ∧
      ¬ EndsCleanly (sampleCall "\x7b\x7d") sampleFiles
        ((auditHistoryAdd sampleParse (sampleCall "\x7b\x7d")).run (answer .mv) sampleFiles) := by
  constructor
  · -- exit code 2, the lock still there
    have hlock : ((auditHistoryAdd sampleParse (sampleCall " ")).run (answer .none)
        sampleFiles).2.file .lock = some [] := rfl
    rintro ⟨-, h⟩
    rw [hlock] at h
    exact absurd (h rfl) (by simp)
  · -- exit code 0, the history unchanged
    have hcode : exitCode ((auditHistoryAdd sampleParse (sampleCall "\x7b\x7d")).run
        (answer .mv) sampleFiles).1 = 0 := rfl
    have hhist : ((auditHistoryAdd sampleParse (sampleCall "\x7b\x7d")).run
        (answer .mv) sampleFiles).2.file .history = some [emptyHistory] := rfl
    rintro ⟨⟨-, doc, hdoc, a, ha, -⟩ | ⟨h, -⟩, -⟩
    · rw [hhist, Option.some.injEq, List.cons.injEq] at hdoc
      rw [← hdoc.1] at ha
      exact absurd ha (by simp [auditsOf, jqAudits, jqIndex, emptyHistory, jqIterate, bind,
        Except.bind])
    · exact h hcode

end SolanaAuditor.History
