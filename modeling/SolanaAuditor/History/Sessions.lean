/- SolanaAuditor/History/Sessions
   digest: Sequences of successful init and add calls: the first audit of a pair stays. -/

import Mathlib.Algebra.Group.Nat.Defs
import SolanaAuditor.History.SoloRun

set_option autoImplicit false
set_option relaxedAutoImplicit false

namespace SolanaAuditor.History

open SolanaAuditor.Lib SolanaAuditor.Lib.Shell

inductive ApiCall
  | init
  | add (c : AddCall)

def ApiCall.script (parse : String → Option (List Json)) : ApiCall → FileScript Nat
  | .init => auditHistoryInit
  | .add c => auditHistoryAdd parse c

/-- The files after a sequence of calls, each of which returned 0, from no history. -/
inductive Session (parse : String → Option (List Json)) : List ApiCall → FS → Prop
  | start (s : FS) : s.file .history = none → Session parse [] s
  | call {calls : List ApiCall} {s t : FS} (x : ApiCall) : Session parse calls s →
      (x.script parse).run (answer .none) s = (.ok 0, t) → Session parse (calls ++ [x]) t

/-- Counts are exact in jq's numbers, finding ids are strings. -/
structure ValidFindings (findings : List (String × Json)) : Prop where
  counts : ∀ k ∈ ["critical", "high", "medium", "low"], ∀ v,
    Dict.get? findings k = some v → ∃ n : Int, v = .int n ∧ n.natAbs < 2 ^ 53
  ids : ∀ v, Dict.get? findings "finding_ids" = some v →
    ∃ ids : List String, v = .arr (ids.map Json.str)

/-- The arguments that the documentation of `audit_history_add` asks for. -/
structure ValidAdd (parse : String → Option (List Json)) (c : AddCall) : Prop where
  programId : c.programId ≠ ""
  version : c.version ≠ ""
  oneLine : '\n' ∉ c.version.toList
  findings : ∃ findings, parse (echoArg c.findingsJson) = some [.obj findings] ∧
    ValidFindings findings

def findingsOf (parse : String → Option (List Json)) (c : AddCall) : List (String × Json) :=
  match parse (echoArg c.findingsJson) with
  | some [.obj findings] => findings
  | _ => []

/-- The record of a call: the counts and finding ids it was given, `0` and `[]` if none. -/
def givenRecord (parse : String → Option (List Json)) (c : AddCall) : Json :=
  let given (k : String) (absent : Json) := (Dict.get? (findingsOf parse c) k).getD absent
  auditRecord c (given "critical" (.int 0)) (given "high" (.int 0)) (given "medium" (.int 0))
    (given "low" (.int 0)) (given "finding_ids" (.arr []))

def addsOf (calls : List ApiCall) : List AddCall :=
  calls.filterMap (fun
    | .init => none
    | .add c => some c)

def firstAdd (calls : List ApiCall) (pid ver : String) : Option AddCall :=
  (addsOf calls).find? (fun c => decide (c.programId = pid ∧ c.version = ver))

variable {parse : String → Option (List Json)} {c : AddCall}

private theorem alternative_of_given {findings : List (String × Json)} {k : String}
    {absent : Json}
    (h : ∀ v, Dict.get? findings k = some v → (∃ n, v = .int n) ∨ ∃ items, v = .arr items) :
    jqAlternative (jqIndex k (.obj findings)) absent =
      (Dict.get? findings k).getD absent := by
  cases hv : Dict.get? findings k with
  | none => simp [jqIndex, hv, jqAlternative]
  | some v =>
    obtain ⟨n, rfl⟩ | ⟨items, rfl⟩ := h v hv <;> simp [jqIndex, hv, jqAlternative]

/-- On valid arguments the `// 0` and `// []` defaults lose nothing. -/
theorem auditEntry_valid (h : ValidAdd parse c) :
    ∃ docs, parse (echoArg c.findingsJson) = some docs ∧
      auditEntry c docs = some (givenRecord parse c) := by
  obtain ⟨findings, hp, hf⟩ := h.findings
  have hcount : ∀ k ∈ ["critical", "high", "medium", "low"],
      jqAlternative (jqIndex k (.obj findings)) (.int 0) =
        (Dict.get? findings k).getD (.int 0) := by
    intro k hk
    refine alternative_of_given fun v hv => ?_
    obtain ⟨n, hn, -⟩ := hf.counts k hk v hv
    exact Or.inl ⟨n, hn⟩
  have hids : jqAlternative (jqIndex "finding_ids" (.obj findings)) (.arr []) =
      (Dict.get? findings "finding_ids").getD (.arr []) := by
    refine alternative_of_given fun v hv => ?_
    obtain ⟨ids, hids⟩ := hf.ids v hv
    exact Or.inr ⟨_, hids⟩
  refine ⟨_, hp, ?_⟩
  rw [auditEntry_single, hcount "critical" (by simp), hcount "high" (by simp),
    hcount "medium" (by simp), hcount "low" (by simp), hids]
  simp [givenRecord, findingsOf, hp]

theorem givenRecord_version (parse : String → Option (List Json)) (c : AddCall) :
    WellFormedAudit (givenRecord parse c) ∧ versionOf (givenRecord parse c) = some c.version :=
  auditRecord_version c _ _ _ _ _

theorem ValidAdd.visible (h : ValidAdd parse c) : Visible c.version := by
  have hne : c.version.toList ≠ [] := fun hn => h.version (String.toList_eq_nil_iff.mp hn)
  obtain ⟨ch, rest, hcs⟩ := List.exists_cons_of_ne_nil hne
  rw [Visible, List.any_eq_true]
  refine ⟨ch, by simp [hcs], ?_⟩
  have hch : ch ≠ '\n' := by
    rintro rfl
    exact h.oneLine (by simp [hcs])
  simpa using hch

section Steps

variable {s t : FS} {doc : Json}

theorem auditHistoryAdd_initializes (fault : Fault) (hpid : c.programId ≠ "") (hver : c.version ≠ "")
    (hfind : c.findingsJson ≠ "") (hjq : c.jqBin = true) (hnone : s.file .history = none) :
    (auditHistoryAdd parse c).run (answer fault) s =
      (auditHistoryAdd parse c).run (answer fault) (s.put .history [emptyHistory]) := by
  simp [auditHistoryAdd, hpid, hver, hfind, hjq, test, answer, hnone, auditHistoryInit, echo,
    errexit]

theorem add_step (hv : ValidAdd parse c) (hfind : c.findingsJson ≠ "")
    (hjq : c.jqBin = true) (hdoc : s.file .history = some [doc]) (hwf : WellFormedHistory doc)
    (hrun : (auditHistoryAdd parse c).run (answer .none) s = (.ok 0, t)) :
    ∃ doc', t.file .history = some [doc'] ∧ WellFormedHistory doc' ∧
      auditsOf doc' =
        KeyedLog.add versionOf (auditsOf doc) c.programId (givenRecord parse c) ∧
      (HasAudit doc c.programId c.version → doc' = doc) := by
  have hvers := (givenRecord_version parse c).2
  cases hlock : s.file .lock with
  | some l =>
    rw [auditHistoryAdd_locked hv.programId hv.version hfind hjq hdoc hlock] at hrun
    simp [errLockTimeout] at hrun
  | none =>
    rw [auditHistoryAdd_free hv.programId hv.version hfind hjq hdoc hlock] at hrun
    obtain ⟨docs, hp, he⟩ := auditEntry_valid hv
    obtain ⟨status, u, hu, -, hout⟩ := addLocked_appended .none
      (s := s.put .lock []) (l := []) (by simp) (by simpa using hdoc) hwf hp he
    rw [hu, Prod.mk.injEq, Except.ok.injEq] at hrun
    obtain ⟨hstatus, rfl⟩ := hrun
    generalize hh : u.file .history = content at hout
    cases hout with
    | failed status hs _ => simp [hs, errJsonOp] at hstatus
    | skipped hhas _ =>
      refine ⟨doc, rfl, hwf, ?_, fun _ => rfl⟩
      rw [KeyedLog.add_of_has (by rwa [hvers])]
    | lost hf _ => simp at hf
    | stored doc' _ hnew happ =>
      have hnot : ¬ HasAudit doc c.programId c.version := fun h => hnew ⟨h, hv.visible⟩
      refine ⟨doc', rfl, happ.1, ?_, fun h => absurd h hnot⟩
      rw [KeyedLog.add_of_not_has (by rwa [hvers])]
      exact happ.2

theorem add_returned {fault : Fault}
    (hrun : (auditHistoryAdd parse c).run (answer fault) s = (.ok 0, t)) :
    (c.programId ≠ "" ∧ c.version ≠ "") ∧ c.findingsJson ≠ "" ∧ c.jqBin = true := by
  by_cases hpid : c.programId = ""
  · simp [auditHistoryAdd, hpid, errInvalidArgs] at hrun
  by_cases hver : c.version = ""
  · simp [auditHistoryAdd, hpid, hver, errInvalidArgs] at hrun
  by_cases hfind : c.findingsJson = ""
  · simp [auditHistoryAdd, hpid, hver, hfind, errInvalidArgs] at hrun
  cases hjq : c.jqBin with
  | false => simp [auditHistoryAdd, hpid, hver, hfind, hjq, errNoJq] at hrun
  | true => exact ⟨⟨hpid, hver⟩, hfind, rfl⟩

/-- The files hold the log: no history while it is empty, a well-formed one later. -/
def Holds (s : FS) (log : String → List Json) : Prop :=
  (s.file .history = none ∧ log = fun _ => []) ∨
    ∃ doc, s.file .history = some [doc] ∧ WellFormedHistory doc ∧ auditsOf doc = log

theorem Holds.storeOf {log : String → List Json} (h : Holds s log) : storeOf s = log := by
  rcases h with ⟨hn, rfl⟩ | ⟨doc, hdoc, -, rfl⟩
  · exact storeOf_none hn
  · exact storeOf_some hdoc

/-- What a successful `add` does to the files and to the log they hold. -/
theorem Holds.add {log : String → List Json} (h : Holds s log) (hv : ValidAdd parse c)
    (hrun : (auditHistoryAdd parse c).run (answer .none) s = (.ok 0, t)) :
    (∃ doc', t.file .history = some [doc'] ∧ WellFormedHistory doc' ∧
      auditsOf doc' = KeyedLog.add versionOf log c.programId (givenRecord parse c)) ∧
    (KeyedLog.Has versionOf log c.programId (some c.version) →
      t.file .history = s.file .history) := by
  obtain ⟨-, hfind, hjq⟩ := add_returned hrun
  rcases h with ⟨hn, rfl⟩ | ⟨doc, hdoc, hwf, rfl⟩
  · rw [auditHistoryAdd_initializes .none hv.programId hv.version hfind hjq hn] at hrun
    obtain ⟨doc', ht, hwf', ha, -⟩ :=
      add_step hv hfind hjq (by simp) emptyHistory_wellFormed hrun
    rw [auditsOf_emptyHistory] at ha
    refine ⟨⟨doc', ht, hwf', ha⟩, ?_⟩
    rintro ⟨a, ha, -⟩
    simp at ha
  · obtain ⟨doc', ht, hwf', ha, hsame⟩ := add_step hv hfind hjq hdoc hwf hrun
    exact ⟨⟨doc', ht, hwf', ha⟩, fun hhas => by rw [ht, hsame hhas, hdoc]⟩

theorem Holds.init {log : String → List Json} (h : Holds s log)
    (hrun : auditHistoryInit.run (answer .none) s = (.ok 0, t)) :
    ∃ doc', t.file .history = some [doc'] ∧ WellFormedHistory doc' ∧ auditsOf doc' = log := by
  rcases h with ⟨hn, rfl⟩ | ⟨doc, hdoc, hwf, rfl⟩
  · simp only [auditHistoryInit, test, echo, answer, hn, bind_eq, bind_act, bind_done, run_act,
      Option.isSome_none, Bool.false_eq_true, if_false, if_true, pure_eq, run_done,
      Prod.mk.injEq, true_and] at hrun
    subst hrun
    exact ⟨emptyHistory, by simp, emptyHistory_wellFormed, auditsOf_emptyHistory⟩
  · simp only [auditHistoryInit, test, answer, hdoc, bind_eq, bind_act, bind_done, run_act,
      Option.isSome_some, if_true, pure_eq, run_done, Prod.mk.injEq, true_and] at hrun
    subst hrun
    exact ⟨doc, hdoc, hwf, rfl⟩

end Steps

/-- The entries that a sequence of calls adds to the log, oldest first. -/
def entriesOf (parse : String → Option (List Json)) (calls : List ApiCall) :
    List (String × Json) :=
  (addsOf calls).map (fun c => (c.programId, givenRecord parse c))

/-- After any session the files hold the log of its additions. -/
theorem Session.holds {calls : List ApiCall} {s : FS} (h : Session parse calls s)
    (hv : ∀ c, .add c ∈ calls → ValidAdd parse c) :
    Holds s (KeyedLog.addAll versionOf (fun _ => []) (entriesOf parse calls)) ∧
      (calls = [] ↔ s.file .history = none) := by
  induction h with
  | start s hn => exact ⟨Or.inl ⟨hn, rfl⟩, by simp [hn]⟩
  | @call calls s t x _ hrun ih =>
    obtain ⟨hs, -⟩ := ih (fun c hc => hv c (List.mem_append_left _ hc))
    cases x with
    | init =>
      obtain ⟨doc', ht, hwf, ha⟩ := hs.init hrun
      refine ⟨Or.inr ⟨doc', ht, hwf, ?_⟩, by simp [ht]⟩
      simpa [entriesOf, addsOf] using ha
    | add c =>
      obtain ⟨⟨doc', ht, hwf, ha⟩, -⟩ := hs.add (hv c (by simp)) hrun
      refine ⟨Or.inr ⟨doc', ht, hwf, ?_⟩, by simp [ht]⟩
      simpa [entriesOf, addsOf, KeyedLog.addAll, List.foldl_append] using ha

theorem auditHistoryGet_run {s : FS} {pid ver : String} (hpid : pid ≠ "") (hver : ver ≠ "")
    {doc : Json} (hdoc : s.file .history = some [doc]) (hwf : WellFormedHistory doc)
    {found : List Json} (hfound : KeyedLog.lookup versionOf (auditsOf doc) pid (some ver) = found)
    (hone : found.length ≤ 1) :
    (auditHistoryGet pid ver true).run (answer .none) s =
      (.ok (if found = [] then errVersionNotFound else 0, found), s) := by
  rcases found with _ | ⟨a, _ | ⟨b, found⟩⟩
  · obtain ⟨hout, -⟩ := jqAuditsOfVersion_eq hwf pid ver
    rw [hfound] at hout
    cases hok : (jqAuditsOfVersion pid ver doc).2 <;>
      simp [auditHistoryGet, hpid, hver, test, read, answer, hdoc, jqOr, jqRun, hok, hout]
  · have hnull : a ≠ .null := by
      rintro rfl
      have hmem : Json.null ∈ KeyedLog.lookup versionOf (auditsOf doc) pid (some ver) := by
        simp [hfound]
      rw [KeyedLog.lookup, List.mem_filter] at hmem
      simp [versionOf, Json.get?] at hmem
    have hout := jqAuditsOfVersion_found hwf hfound
    cases a <;> simp_all [auditHistoryGet, test, read, answer, jqOr, jqRun]
  · simp at hone

/-- The log's lookup of a pair after a session is the record of its first add. -/
theorem lookup_session (parse : String → Option (List Json)) (calls : List ApiCall)
    (pid ver : String) :
    KeyedLog.lookup versionOf
        (KeyedLog.addAll versionOf (fun _ => []) (entriesOf parse calls)) pid (some ver) =
      ((firstAdd calls pid ver).map (givenRecord parse)).toList := by
  have hempty : ¬ KeyedLog.Has versionOf (fun _ : String => []) pid (some ver) := by
    rintro ⟨a, ha, -⟩
    simp at ha
  rw [KeyedLog.lookup_addAll hempty, entriesOf, List.find?_map, firstAdd]
  simp [Function.comp_def, (givenRecord_version parse _).2, Option.map_map]

/-- After any session of valid calls: no program holds a version twice; a further add
leaves the files alone or appends its record to its program; and a get returns the record
of the first add of its pair, or fails when there was none. -/
theorem sessions_keep_the_first_audit (parse : String → Option (List Json))
    (calls : List ApiCall) (s : FS) (h : Session parse calls s)
    (hv : ∀ c, .add c ∈ calls → ValidAdd parse c) :
    (∀ pid, ((storeOf s pid).map versionOf).Nodup) ∧
    (∀ c t, ValidAdd parse c → (auditHistoryAdd parse c).run (answer .none) s = (.ok 0, t) →
      (KeyedLog.Has versionOf (storeOf s) c.programId (some c.version) ∧
        t.file .history = s.file .history) ∨
      (¬ KeyedLog.Has versionOf (storeOf s) c.programId (some c.version) ∧
        storeOf t = Function.update (storeOf s) c.programId
          (storeOf s c.programId ++ [givenRecord parse c]))) ∧
    (∀ pid ver, pid ≠ "" → ver ≠ "" →
      (auditHistoryGet pid ver true).run (answer .none) s =
        (.ok (match firstAdd calls pid ver with
          | some c => (0, [givenRecord parse c])
          | none => (if calls.isEmpty then errNoHistory else errVersionNotFound, [])), s)) := by
  obtain ⟨hholds, hexists⟩ := h.holds hv
  rw [hholds.storeOf]
  refine ⟨?_, ?_, ?_⟩
  · exact KeyedLog.Distinct.addAll (fun _ => by simp) _
  · intro c t hc hrun
    obtain ⟨⟨doc', ht, hwf, ha⟩, hsame⟩ := hholds.add hc hrun
    have hvers := (givenRecord_version parse c).2
    by_cases hhas : KeyedLog.Has versionOf
        (KeyedLog.addAll versionOf (fun _ => []) (entriesOf parse calls)) c.programId
        (some c.version)
    · exact Or.inl ⟨hhas, hsame hhas⟩
    · refine Or.inr ⟨hhas, ?_⟩
      rw [KeyedLog.add_of_not_has (by rwa [hvers])] at ha
      rw [← ha, storeOf_some ht]
  · intro pid ver hpid hver
    rcases hholds with ⟨hn, -⟩ | ⟨doc, hdoc, hwf, ha⟩
    · have hnil : calls = [] := hexists.mpr hn
      subst hnil
      simp [auditHistoryGet, hpid, hver, test, answer, hn, firstAdd, addsOf]
    · have hfound := lookup_session parse calls pid ver
      rw [← ha] at hfound
      have hne : calls ≠ [] := fun hnil => by simp [hexists.mp hnil] at hdoc
      rw [auditHistoryGet_run hpid hver hdoc hwf hfound (by
        cases firstAdd calls pid ver <;> simp)]
      cases hf : firstAdd calls pid ver with
      | some c => simp
      | none => simp [hne]

def sampleSession : FS :=
  ((auditHistoryAdd sampleParse (sampleCall "\x7b\x7d")).run (answer .none)
    { file := fun _ => none, next := 0 }).2

theorem sessions_keep_the_first_audit_sample :
    (auditHistoryGet "Vault111" "1.0.0" true).run (answer .none) sampleSession =
      (.ok (0, [givenRecord sampleParse (sampleCall "\x7b\x7d")]), sampleSession) := by
  have hvalid : ValidAdd sampleParse (sampleCall "\x7b\x7d") :=
    ⟨by decide, by decide, by decide, [], rfl, ⟨by simp, by simp⟩⟩
  have hsession : Session sampleParse [.add (sampleCall "\x7b\x7d")] sampleSession :=
    .call (.add (sampleCall "\x7b\x7d")) (.start { file := fun _ => none, next := 0 } rfl) rfl
  exact (sessions_keep_the_first_audit sampleParse _ sampleSession hsession (by
    intro c hc
    rw [List.mem_singleton, ApiCall.add.injEq] at hc
    exact hc ▸ hvalid)).2.2 "Vault111" "1.0.0" (by decide) (by decide)

end SolanaAuditor.History
