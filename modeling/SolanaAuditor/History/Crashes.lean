/- SolanaAuditor/History/Crashes
   digest: audit-history.sh cut off at any file operation: every session is one of whole adds. -/

import SolanaAuditor.History.LockDiscipline
import SolanaAuditor.History.Sessions
import SolanaAuditor.Lib.Stopping

set_option autoImplicit false
set_option relaxedAutoImplicit false

/-!
A shell may be killed between two of its file operations. The lock then stays where it is
until somebody removes it.
-/

namespace SolanaAuditor.History

open SolanaAuditor.Lib SolanaAuditor.Lib.Shell SolanaAuditor.Lib.Stopping

section Defs

variable (parse : String → Option (List Json))

/-- What happens to the files: a call runs to its end, a call is killed after some operations,
or somebody removes the lock. -/
inductive Event
  | ended (x : ApiCall) (fault : Fault)
  | killed (x : ApiCall) (fault : Fault) (operations : Nat)
  | unlocked

def Event.call : Event → Option ApiCall
  | .ended x _ | .killed x _ _ => some x
  | .unlocked => none

def Event.fault : Event → Fault
  | .ended _ fault | .killed _ fault _ => fault
  | .unlocked => .none

/-- The files after the event. -/
def Event.files (s : FS) : Event → FS
  | .ended x fault => ((x.script parse).run (answer fault) s).2
  | .killed x fault operations => stopped (answer fault) operations (x.script parse) s
  | .unlocked => s.del .lock

/-- The add that ended with status 0, if the event is one. -/
def Event.acknowledged (s : FS) : Event → Option AddCall
  | .ended (.add c) fault =>
      match ((auditHistoryAdd parse c).run (answer fault) s).1 with
      | .ok 0 => some c
      | _ => none
  | _ => none

def filesAfter (s : FS) (events : List Event) : FS := events.foldl (Event.files parse) s

/-- The adds that ended with status 0, oldest first. -/
def acknowledged : FS → List Event → List AddCall
  | _, [] => []
  | s, e :: events => (e.acknowledged parse s).toList ++ acknowledged (e.files parse s) events

/-- The adds that were started, oldest first. -/
def attempts (events : List Event) : List AddCall := addsOf (events.filterMap Event.call)

/-- The log with the record of the call, or as it is when the call builds none. -/
def addCall (log : String → List Json) (c : AddCall) : String → List Json :=
  match recordOf parse c with
  | none => log
  | some a => KeyedLog.add versionOf log c.programId a

end Defs

/-! Only `echo` on an absent history and the `mv` touch the history. -/

section Frame

variable {s t : FS} {log : String → List Json} {fault : Fault}

/-- An operation that leaves the history alone. -/
def SparesHistory : FileOp → Prop
  | .test _ | .mktemp | .read _ => True
  | .echo f _ | .write f _ | .rm f => f ≠ .history
  | .mv src dst => src ≠ .history ∧ dst ≠ .history

theorem SparesHistory.kept {o : FileOp} (h : SparesHistory o) (fault : Fault) (s : FS) :
    (answer fault s o).2.file .history = s.file .history := by
  cases o with
  | test f => rfl
  | read f => rfl
  | mktemp =>
    simp only [answer]
    split <;> simp
  | echo f c => exact FS.put_of_ne s c (Ne.symm h)
  | write f c =>
    simp only [answer]
    split <;> exact FS.put_of_ne s _ (Ne.symm h)
  | rm f => exact FS.del_of_ne s (Ne.symm h)
  | mv src dst =>
    simp only [answer]
    split
    · rfl
    · split
      · rfl
      · rw [FS.move, FS.del_of_ne _ (Ne.symm h.1), FS.put_of_ne _ _ (Ne.symm h.2)]

theorem Holds.congr (h : Holds s log) (hsame : t.file .history = s.file .history) :
    Holds t log := by
  unfold Holds at h ⊢
  rwa [hsame]

theorem holds_of_doc {doc : Json} (hdoc : s.file .history = some [doc])
    (hwf : WellFormedHistory doc) : Holds s (auditsOf doc) := .inr ⟨doc, hdoc, hwf, rfl⟩

theorem acquireLock_spares (left : Nat) : Only SparesHistory (acquireLock left) := by
  induction left with
  | zero => exact ⟨trivial, fun held => by cases held <;> simp [echo, Only, SparesHistory]⟩
  | succ left ih =>
    refine ⟨trivial, fun held => ?_⟩
    cases held with
    | true => exact ih
    | false => simp [echo, Only, SparesHistory]

theorem releaseLock_spares : Only SparesHistory releaseLock :=
  ⟨trivial, fun held => by cases held <;> simp [rm, Only, SparesHistory]⟩

theorem dropTemp_spares (tmp status : Nat) : Only SparesHistory (dropTemp tmp status) :=
  ⟨by simp [SparesHistory], fun _ => trivial⟩

theorem errexit_spares {status : Nat} {n : Nat} :
    Only SparesHistory ((errexit status : FileScript Unit).bind fun _ => .done n) := by
  by_cases h : status = 0
  · simp [errexit, h, Only]
  · simp [errexit, h, Only]

end Frame

/-! At every moment of a call the history holds the log before it or the log after it. -/

section Moments

variable {s t : FS} {log : String → List Json} {fault : Fault} {doc audit : Json}
  {pid ver : String}

/-- The files hold the log as it was, or with the record. -/
def OldOrNew (log : String → List Json) (pid : String) (audit : Json) (t : FS) : Prop :=
  Holds t log ∨ Holds t (KeyedLog.add versionOf log pid audit)

theorem OldOrNew.congr (h : OldOrNew log pid audit s)
    (hsame : t.file .history = s.file .history) : OldOrNew log pid audit t :=
  h.imp (fun h => h.congr hsame) (fun h => h.congr hsame)

variable (fault) in
theorem OldOrNew.always {α : Type} {x : FileScript α} (h : OldOrNew log pid audit s)
    (hx : Only SparesHistory x) : Always (answer fault) (OldOrNew log pid audit) x s :=
  hx.always (fun _ t ho ht => ht.congr (ho.kept fault t)) h

theorem holds_appended {doc' : Json} (hnew : ¬ KeyedLog.Has versionOf (auditsOf doc) pid
      (versionOf audit)) (happ : Appended doc pid audit doc')
    (ht : t.file .history = some [doc']) :
    Holds t (KeyedLog.add versionOf (auditsOf doc) pid audit) := by
  rw [KeyedLog.add_of_not_has hnew, ← happ.2]
  exact holds_of_doc ht happ.1

variable (fault) in
theorem replaceHistory_always (hdoc : s.file .history = some [doc]) (hwf : WellFormedHistory doc)
    (hnew : ¬ KeyedLog.Has versionOf (auditsOf doc) pid (versionOf audit)) (tmp : Nat)
    {doc' : Json} (happ : Appended doc pid audit doc') :
    Always (answer fault) (OldOrNew (auditsOf doc) pid audit)
      (replaceHistory tmp ([doc'], true)) s := by
  have hold : OldOrNew (auditsOf doc) pid audit s := .inl (holds_of_doc hdoc hwf)
  by_cases hf : fault = .jqWrite
  · refine ⟨hold, ?_⟩
    simp only [answer, hf, if_true, bind_done]
    exact (hold.congr (t := s.put (.temp tmp) []) (by simp)).always .jqWrite
      (dropTemp_spares tmp errJsonOp)
  · refine ⟨hold, ?_⟩
    simp only [answer, hf, if_false, bind_done, if_true]
    refine ⟨hold.congr (by simp), ?_⟩
    by_cases hm : fault = .mv
    · simpa [answer, hm] using hold.congr (t := s.put (.temp tmp) [doc']) (by simp)
    · have hmoved : OldOrNew (auditsOf doc) pid audit
          ((s.put (.temp tmp) [doc']).move (.temp tmp) .history [doc']) :=
        .inr (holds_appended hnew happ (by simp [FS.move]))
      simpa [answer, hm] using hmoved

variable (fault pid) in
theorem appendToHistory_always (hdoc : s.file .history = some [doc])
    (hwf : WellFormedHistory doc) (haudit : WellFormedAudit audit)
    (hver : versionOf audit = some ver) (hvis : Visible ver) (tmp : Nat) :
    Always (answer fault) (OldOrNew (auditsOf doc) pid audit)
      (appendToHistory pid ver audit tmp) s := by
  have hold : OldOrNew (auditsOf doc) pid audit s := .inl (holds_of_doc hdoc hwf)
  rcases jqProgramExists_eq hwf pid with he | ⟨he, hnil⟩
  · obtain ⟨hok, hiff⟩ := nonEmptyCapture_versionExists hwf he ver
    by_cases hv : nonEmptyCapture (jqVersionExists pid ver doc).1 = true
    · have hdrop := hold.always fault (dropTemp_spares tmp 0)
      simpa [appendToHistory, read, answer, hdoc, jqOr, jqRun, jqSingle, he, hv, hold] using hdrop
    · obtain ⟨doc', happ, hspec⟩ := jqAppendAudit_spec hwf he haudit
      have hnew : ¬ KeyedLog.Has versionOf (auditsOf doc) pid (versionOf audit) := by
        rw [hver]
        exact fun h => hv (hiff.mpr ⟨h, hvis⟩)
      have hreplace := replaceHistory_always fault hdoc hwf hnew tmp hspec
      simpa [appendToHistory, read, answer, hdoc, jqOr, jqRun, jqSingle, he, hok, hv, happ, hold]
        using hreplace
  · obtain ⟨doc', happ, hspec⟩ := jqAddProgram_spec hwf he haudit
    have hnew : ¬ KeyedLog.Has versionOf (auditsOf doc) pid (versionOf audit) := by
      rintro ⟨a, ha, -⟩
      simp [hnil] at ha
    have hreplace := replaceHistory_always fault hdoc hwf hnew tmp hspec
    simpa [appendToHistory, read, answer, hdoc, jqOr, jqRun, jqSingle, he, happ, hold]
      using hreplace

variable (fault) in
theorem jqAppendAuditFile_always (hdoc : s.file .history = some [doc])
    (hwf : WellFormedHistory doc) (haudit : WellFormedAudit audit)
    (hver : versionOf audit = some ver) (hvis : Visible ver) :
    Always (answer fault) (OldOrNew (auditsOf doc) pid audit)
      (jqAppendAuditFile pid ver audit) s := by
  have hold : OldOrNew (auditsOf doc) pid audit s := .inl (holds_of_doc hdoc hwf)
  by_cases hf : fault = .mktemp
  · simpa [jqAppendAuditFile, mktemp, answer, hf] using hold
  · have hdoc' : s.fresh.file .history = some [doc] := by simpa using hdoc
    have happend := appendToHistory_always fault pid hdoc' hwf haudit hver
      hvis s.next
    have hfresh : OldOrNew (auditsOf doc) pid audit s.fresh := hold.congr (by simp)
    simpa [jqAppendAuditFile, mktemp, test, answer, hf, hdoc, hold, hfresh] using happend

end Moments

section Calls

variable {parse : String → Option (List Json)} {c : AddCall} {s t : FS} {fault : Fault}
  {log : String → List Json}

/-- The files hold the log before the call or the log after it. -/
def Between (parse : String → Option (List Json)) (log : String → List Json) (c : AddCall)
    (t : FS) : Prop := Holds t log ∨ Holds t (addCall parse log c)

theorem Between.congr (h : Between parse log c s) (hsame : t.file .history = s.file .history) :
    Between parse log c t := h.imp (fun h => h.congr hsame) (fun h => h.congr hsame)

variable (fault) in
theorem Between.always {α : Type} {x : FileScript α} (h : Between parse log c s)
    (hx : Only SparesHistory x) : Always (answer fault) (Between parse log c) x s :=
  hx.always (fun _ t ho ht => ht.congr (ho.kept fault t)) h

variable (parse fault) in
theorem addLocked_always {doc : Json} (hdoc : s.file .history = some [doc])
    (hwf : WellFormedHistory doc) (hvis : Visible c.version) :
    Always (answer fault) (Between parse (auditsOf doc) c) (addLocked parse c) s := by
  have hold : Between parse (auditsOf doc) c s := .inl (holds_of_doc hdoc hwf)
  cases hp : parse (echoArg c.findingsJson) with
  | none =>
    simp only [addLocked, hp, bind_eq]
    exact hold.always fault (releaseLock_spares.bind fun _ => errexit_spares)
  | some docs =>
    cases he : auditEntry c docs with
    | none => simpa [addLocked, hp, he] using hold
    | some entry =>
      have hrec : recordOf parse c = some entry := by simp [recordOf, hp, he]
      obtain ⟨haudit, hver⟩ := auditEntry_wellFormed he
      have hadd : addCall parse (auditsOf doc) c =
          KeyedLog.add versionOf (auditsOf doc) c.programId entry := by simp [addCall, hrec]
      have happend : Always (answer fault) (Between parse (auditsOf doc) c)
          (jqAppendAuditFile c.programId c.version entry) s := by
        refine (jqAppendAuditFile_always fault hdoc hwf haudit hver hvis).mono fun t ht => ?_
        unfold Between
        rwa [hadd]
      simp only [addLocked, hp, he, bind_eq]
      refine happend.bind fun status u hu => ?_
      have hlast := happend.last
      rw [hu] at hlast
      exact Between.always fault hlast (releaseLock_spares.bind fun _ => errexit_spares)

variable (parse fault) in
/-- From a history that is there: the lock, then the critical section. -/
theorem addWithLock_always {doc : Json} (hdoc : s.file .history = some [doc])
    (hwf : WellFormedHistory doc) (hvis : Visible c.version) :
    Always (answer fault) (Between parse (auditsOf doc) c)
      ((acquireLock c.lockTimeout).bind fun acquired =>
        if acquired = 0 then addLocked parse c else .done errLockTimeout) s := by
  have hsame : Always (answer fault) (fun t => t.file .history = s.file .history)
      (acquireLock c.lockTimeout) s :=
    (acquireLock_spares c.lockTimeout).always
      (fun _ t ho ht => (ho.kept fault t).trans ht) rfl
  refine Always.bind (hsame.mono fun t ht => .inl (holds_of_doc (ht.trans hdoc) hwf)) ?_
  intro acquired t hrun
  have hlast := hsame.last
  rw [hrun] at hlast
  by_cases h : acquired = 0
  · rw [if_pos h]
    exact addLocked_always parse fault (hlast.trans hdoc) hwf hvis
  · rw [if_neg h]
    exact .inl (holds_of_doc (hlast.trans hdoc) hwf)

variable (parse fault) in
theorem auditHistoryAdd_always (h : Holds s log) (hvis : Visible c.version) :
    Always (answer fault) (Between parse log c) (auditHistoryAdd parse c) s := by
  have hold : Between parse log c s := .inl h
  by_cases hpid : c.programId = ""
  · simpa [auditHistoryAdd, hpid] using hold
  by_cases hver : c.version = ""
  · simpa [auditHistoryAdd, hver] using hold
  by_cases hfind : c.findingsJson = ""
  · simpa [auditHistoryAdd, hfind] using hold
  cases hjq : c.jqBin with
  | false => simpa [auditHistoryAdd, hpid, hver, hfind, hjq] using hold
  | true =>
    rcases h with ⟨hnone, rfl⟩ | ⟨doc, hdoc, hwf, rfl⟩
    · -- an empty history comes first
      have hempty : (s.put .history [emptyHistory]).file .history = some [emptyHistory] := by simp
      have hlocked := addWithLock_always parse fault hempty
        emptyHistory_wellFormed hvis
      rw [auditsOf_emptyHistory] at hlocked
      simpa [auditHistoryAdd, hpid, hver, hfind, hjq, test, answer, hnone, auditHistoryInit, echo,
        errexit, hold] using hlocked
    · have hlocked := addWithLock_always parse fault hdoc hwf hvis
      simpa [auditHistoryAdd, hpid, hver, hfind, hjq, test, answer, hdoc, hold] using hlocked

variable (fault) in
theorem auditHistoryInit_always (h : Holds s log) :
    Always (answer fault) (fun t => Holds t log) auditHistoryInit s := by
  rcases h with ⟨hnone, rfl⟩ | ⟨doc, hdoc, hwf, rfl⟩
  · have hempty : Holds (s.put .history [emptyHistory]) fun _ => [] := by
      rw [← auditsOf_emptyHistory]
      exact holds_of_doc (by simp) emptyHistory_wellFormed
    have hold : Holds s fun _ => [] := .inl ⟨hnone, rfl⟩
    simpa [auditHistoryInit, test, echo, answer, hnone, hold] using hempty
  · have hold := holds_of_doc hdoc hwf
    simpa [auditHistoryInit, test, answer, hdoc] using hold

/-- An add that ended with status 0 has built a record, and the log has it. -/
theorem auditHistoryAdd_acknowledged (h : Holds s log) (hvis : Visible c.version)
    (hmv : fault ≠ .mv)
    (hrun : (auditHistoryAdd parse c).run (answer fault) s = (.ok 0, t)) :
    (recordOf parse c).isSome ∧ Holds t (addCall parse log c) := by
  obtain ⟨⟨hpid, hver⟩, hfind, hjq⟩ := add_returned hrun
  obtain ⟨u, doc, hdoc, hwf, rfl, hrun⟩ : ∃ u doc, FS.file u .history = some [doc] ∧
      WellFormedHistory doc ∧ auditsOf doc = log ∧
      (auditHistoryAdd parse c).run (answer fault) u = (.ok 0, t) := by
    rcases h with ⟨hnone, rfl⟩ | ⟨doc, hdoc, hwf, rfl⟩
    · rw [auditHistoryAdd_initializes fault hpid hver hfind hjq hnone] at hrun
      exact ⟨_, emptyHistory, by simp, emptyHistory_wellFormed, auditsOf_emptyHistory, hrun⟩
    · exact ⟨s, doc, hdoc, hwf, rfl, hrun⟩
  cases hlock : u.file .lock with
  | some l =>
    rw [auditHistoryAdd_locked hpid hver hfind hjq hdoc hlock] at hrun
    simp [errLockTimeout] at hrun
  | none =>
    rw [auditHistoryAdd_free hpid hver hfind hjq hdoc hlock] at hrun
    cases hp : parse (echoArg c.findingsJson) with
    | none =>
      rw [addLocked_rejected (l := []) (by simp) hp] at hrun
      simp [errJsonOp] at hrun
    | some docs =>
      cases he : auditEntry c docs with
      | none =>
        rw [addLocked_aborted hp he] at hrun
        simp at hrun
      | some entry =>
        have hrec : recordOf parse c = some entry := by simp [recordOf, hp, he]
        have hvers := (auditEntry_wellFormed he).2
        obtain ⟨status, v, hv, -, hout⟩ := addLocked_appended fault
          (s := u.put .lock []) (l := []) (by simp) (by simpa using hdoc) hwf hp he
        rw [hv, Prod.mk.injEq, Except.ok.injEq] at hrun
        obtain ⟨hstatus, rfl⟩ := hrun
        refine ⟨by simp [hrec], ?_⟩
        simp only [addCall, hrec]
        generalize hh : v.file .history = content at hout
        cases hout with
        | failed _ hs _ => simp [hs, errJsonOp] at hstatus
        | lost hf _ => exact absurd hf hmv
        | skipped hhas _ =>
          rw [KeyedLog.add_of_has (by rwa [hvers])]
          exact holds_of_doc hh hwf
        | stored doc' _ hnew happ =>
          refine holds_appended (fun hhas => hnew ⟨?_, hvis⟩) happ hh
          rwa [hvers] at hhas

theorem replaceHistory_succeeds (s : FS) (tmp : Nat) (doc : Json) :
    ∃ t, (replaceHistory tmp ([doc], true)).run (answer .none) s = (.ok 0, t) := by
  simp [replaceHistory, write, mv, answer]

/-- Without a failing operation the audit is appended, or it is there already. -/
theorem jqAppendAuditFile_succeeds {doc audit : Json} (hdoc : s.file .history = some [doc])
    (hwf : WellFormedHistory doc) (haudit : WellFormedAudit audit) (pid ver : String) :
    ∃ t, (jqAppendAuditFile pid ver audit).run (answer .none) s = (.ok 0, t) := by
  have hdoc' : s.fresh.file .history = some [doc] := by simpa using hdoc
  obtain ⟨t, ht⟩ : ∃ t, (appendToHistory pid ver audit s.next).run (answer .none) s.fresh =
      (.ok 0, t) := by
    rcases jqProgramExists_eq hwf pid with he | ⟨he, -⟩
    · by_cases hv : nonEmptyCapture (jqVersionExists pid ver doc).1 = true
      · simp [appendToHistory, read, answer, hdoc', jqOr, jqRun, jqSingle, he, hv, dropTemp, rm]
      · obtain ⟨hok, -⟩ := nonEmptyCapture_versionExists hwf he ver
        obtain ⟨doc', happ, -⟩ := jqAppendAudit_spec hwf he haudit
        simpa [appendToHistory, read, answer, hdoc', jqOr, jqRun, jqSingle, he, hok, hv, happ]
          using replaceHistory_succeeds s.fresh s.next doc'
    · obtain ⟨doc', happ, -⟩ := jqAddProgram_spec hwf he haudit
      simpa [appendToHistory, read, answer, hdoc', jqOr, jqRun, jqSingle, he, happ]
        using replaceHistory_succeeds s.fresh s.next doc'
  exact ⟨t, by simpa [jqAppendAuditFile, mktemp, test, answer, hdoc] using ht⟩

/-- With no lock in its way and no failing operation, an add with a record ends with 0. -/
theorem auditHistoryAdd_succeeds (h : Holds s log) (hlock : s.file .lock = none)
    (hpid : c.programId ≠ "") (hver : c.version ≠ "") (hfind : c.findingsJson ≠ "")
    (hjq : c.jqBin = true) (hrec : (recordOf parse c).isSome) :
    ∃ t, (auditHistoryAdd parse c).run (answer .none) s = (.ok 0, t) := by
  obtain ⟨entry, hentry⟩ := Option.isSome_iff_exists.mp hrec
  obtain ⟨docs, hp, he⟩ := Option.bind_eq_some_iff.mp hentry
  obtain ⟨u, doc, hdoc, hwf, hfree, hsame⟩ : ∃ u doc, FS.file u .history = some [doc] ∧
      WellFormedHistory doc ∧ u.file .lock = none ∧
      (auditHistoryAdd parse c).run (answer .none) s =
        (auditHistoryAdd parse c).run (answer .none) u := by
    rcases h with ⟨hnone, rfl⟩ | ⟨doc, hdoc, hwf, rfl⟩
    · exact ⟨_, emptyHistory, by simp, emptyHistory_wellFormed, by simpa using hlock,
        auditHistoryAdd_initializes .none hpid hver hfind hjq hnone⟩
    · exact ⟨s, doc, hdoc, hwf, hlock, rfl⟩
  have hdoc' : (u.put .lock []).file .history = some [doc] := by simpa using hdoc
  have haudit := (auditEntry_wellFormed he).1
  obtain ⟨status, t, hrun, hl, -⟩ :=
    jqAppendAuditFile_run .none c.programId c.version hdoc' hwf haudit
  obtain ⟨t', hrun'⟩ := jqAppendAuditFile_succeeds hdoc' hwf haudit c.programId c.version
  have hstatus : status = 0 := by
    rw [hrun] at hrun'
    simpa using congrArg Prod.fst hrun'
  have hrel := releaseLock_held .none (hl.trans (FS.put_self u .lock []))
  refine ⟨t.del .lock, ?_⟩
  rw [hsame, auditHistoryAdd_free hpid hver hfind hjq hdoc hfree]
  simp only [addLocked, hp, he, bind_eq]
  rw [run_bind_ok _ hrun, run_bind_ok _ hrel, hstatus]
  rfl

end Calls

/-! The steps of a session, and whole sessions. -/

section Steps

variable {parse : String → Option (List Json)} {log : String → List Json} {s : FS}

theorem addCall_has {d : AddCall} {pid ver : String}
    (h : KeyedLog.Has versionOf log pid (some ver)) :
    KeyedLog.Has versionOf (addCall parse log d) pid (some ver) := by
  unfold addCall
  split
  · exact h
  · exact h.add _ _

theorem addCall_has_self {c : AddCall} (h : (recordOf parse c).isSome) :
    KeyedLog.Has versionOf (addCall parse log c) c.programId (some c.version) := by
  obtain ⟨a, ha⟩ := Option.isSome_iff_exists.mp h
  obtain ⟨docs, -, he⟩ := Option.bind_eq_some_iff.mp ha
  simp only [addCall, ha]
  rw [← (auditEntry_wellFormed he).2]
  exact KeyedLog.has_add_self log c.programId a

variable (parse) in
/-- One event: the log grows by the add of the event, or it stays. -/
theorem Event.refines {e : Event} (h : Holds s log)
    (hvis : ∀ c ∈ attempts [e], Visible c.version) (hmv : e.fault ≠ .mv) :
    ∃ effective, effective.Sublist (attempts [e]) ∧
      (e.acknowledged parse s).toList.Sublist effective ∧
      (∀ c ∈ e.acknowledged parse s, (recordOf parse c).isSome) ∧
      Holds (e.files parse s) (effective.foldl (addCall parse) log) := by
  have hbetween : ∀ {c : AddCall} {t : FS}, Between parse log c t →
      ∃ effective, List.Sublist effective [c] ∧
        Holds t (effective.foldl (addCall parse) log) := by
    rintro c t (ht | ht)
    · exact ⟨[], List.nil_sublist _, ht⟩
    · exact ⟨[c], List.Sublist.refl _, ht⟩
  match e with
  | .unlocked =>
    exact ⟨[], List.nil_sublist _, List.nil_sublist _, by simp [Event.acknowledged],
      h.congr (by simp [Event.files])⟩
  | .ended .init fault =>
    exact ⟨[], List.nil_sublist _, List.nil_sublist _, by simp [Event.acknowledged],
      (auditHistoryInit_always fault h).last⟩
  | .killed .init fault n =>
    exact ⟨[], List.nil_sublist _, List.nil_sublist _, by simp [Event.acknowledged],
      (auditHistoryInit_always fault h).stopped n⟩
  | .killed (.add c) fault n =>
    have hc : Visible c.version := hvis c (by simp [attempts, Event.call, addsOf])
    obtain ⟨effective, hsub, ht⟩ := hbetween ((auditHistoryAdd_always parse fault h hc).stopped n)
    exact ⟨effective, hsub, List.nil_sublist _, by simp [Event.acknowledged], ht⟩
  | .ended (.add c) fault =>
    have hc : Visible c.version := hvis c (by simp [attempts, Event.call, addsOf])
    cases hrun : (auditHistoryAdd parse c).run (answer fault) s with
    | mk ending t =>
      have hfiles : (Event.ended (.add c) fault).files parse s = t := congrArg Prod.snd hrun
      by_cases hzero : ending = .ok 0
      · subst ending
        obtain ⟨hrec, ht⟩ := auditHistoryAdd_acknowledged h hc hmv hrun
        have hack : (Event.ended (.add c) fault).acknowledged parse s = some c := by
          simp [Event.acknowledged, hrun]
        refine ⟨[c], List.Sublist.refl _, ?_, ?_, ?_⟩
        · rw [hack]
          exact List.Sublist.refl _
        · rw [hack]
          simpa using hrec
        · rwa [hfiles]
      · have hack : (Event.ended (.add c) fault).acknowledged parse s = none := by
          simp only [Event.acknowledged, hrun]
        have hlast := (auditHistoryAdd_always parse fault h hc).last
        rw [hrun] at hlast
        obtain ⟨effective, hsub, ht⟩ := hbetween hlast
        refine ⟨effective, hsub, ?_, ?_, ?_⟩
        · rw [hack]
          exact List.nil_sublist _
        · simp [hack]
        · rwa [hfiles]

theorem attempts_cons (e : Event) (events : List Event) :
    attempts (e :: events) = attempts [e] ++ attempts events := by
  rw [← List.singleton_append, attempts, List.filterMap_append, addsOf, List.filterMap_append]
  rfl

theorem events_refine (events : List Event) (h : Holds s log)
    (hvis : ∀ c ∈ attempts events, Visible c.version) (hmv : ∀ e ∈ events, e.fault ≠ .mv) :
    ∃ effective, effective.Sublist (attempts events) ∧
      (acknowledged parse s events).Sublist effective ∧
      (∀ c ∈ acknowledged parse s events, (recordOf parse c).isSome) ∧
      Holds (filesAfter parse s events) (effective.foldl (addCall parse) log) := by
  induction events generalizing s log with
  | nil => exact ⟨[], List.nil_sublist _, List.nil_sublist _, by simp [acknowledged], h⟩
  | cons e events ih =>
    rw [attempts_cons] at hvis ⊢
    obtain ⟨first, hsub, hack, hrec, hs⟩ := Event.refines parse h
      (fun c hc => hvis c (List.mem_append_left _ hc)) (hmv e List.mem_cons_self)
    obtain ⟨rest, hsub', hack', hrec', hs'⟩ := ih hs
      (fun c hc => hvis c (List.mem_append_right _ hc))
      (fun d hd => hmv d (List.mem_cons_of_mem e hd))
    refine ⟨first ++ rest, hsub.append hsub', hack.append hack', fun c hc => ?_, ?_⟩
    · rcases List.mem_append.mp hc with hc | hc
      · exact hrec c (by simpa using hc)
      · exact hrec' c hc
    · rw [List.foldl_append]
      exact hs'

/-- A call whose arguments are there, whose findings give a record, and whose version `$(…)`
does not strip to nothing. -/
structure Addable (parse : String → Option (List Json)) (c : AddCall) : Prop where
  programId : c.programId ≠ ""
  version : c.version ≠ ""
  findings : c.findingsJson ≠ ""
  jqBin : c.jqBin = true
  record : (recordOf parse c).isSome
  visible : Visible c.version

theorem foldl_addCall_has {calls : List AddCall} {pid ver : String}
    (h : KeyedLog.Has versionOf log pid (some ver)) :
    KeyedLog.Has versionOf (calls.foldl (addCall parse) log) pid (some ver) := by
  induction calls generalizing log with
  | nil => exact h
  | cons c calls ih => exact ih (addCall_has h)

theorem foldl_addCall_has_of_mem {calls : List AddCall} {c : AddCall} (hc : c ∈ calls)
    (hrec : (recordOf parse c).isSome) :
    KeyedLog.Has versionOf (calls.foldl (addCall parse) log) c.programId (some c.version) := by
  induction calls generalizing log with
  | nil => simp at hc
  | cons d calls ih =>
    rcases List.mem_cons.mp hc with rfl | hc
    · rw [List.foldl_cons]
      exact foldl_addCall_has (addCall_has_self hrec)
    · exact ih hc

/-- An add is killed right after its `mv`, the next one waits for the lock in vain, and the
same add is made again once the lock is gone. -/
def killedSession : List Event :=
  [.killed (.add (sampleCall "\x7b\x7d")) .none 10, .ended (.add (sampleCall "\x7b\x7d")) .none,
    .unlocked, .ended (.add (sampleCall "\x7b\x7d")) .none]

end Steps

end SolanaAuditor.History
