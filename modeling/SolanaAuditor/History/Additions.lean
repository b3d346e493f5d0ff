/- SolanaAuditor/History/Additions
   digest: The histories that successful additions make, and the statistics of them. -/

import SolanaAuditor.History.Sessions
import SolanaAuditor.History.StatsRuns

set_option autoImplicit false
set_option relaxedAutoImplicit false

namespace SolanaAuditor.History

open SolanaAuditor.Lib SolanaAuditor.Lib.Shell

/-- The files after a sequence of additions, each of which returned 0, from no history or an
empty one. Any of them may meet a fault. -/
inductive Additions (parse : String → Option (List Json)) : List AddCall → FS → Prop
  | start (s : FS) : s.file .history = none ∨ s.file .history = some [emptyHistory] →
      Additions parse [] s
  | add {calls : List AddCall} {s t : FS} (c : AddCall) (fault : Fault) :
      Additions parse calls s →
      (auditHistoryAdd parse c).run (answer fault) s = (.ok 0, t) →
      Additions parse (calls ++ [c]) t

/-- The counts of the findings are missing or natural numbers. -/
def CountedAdd (parse : String → Option (List Json)) (c : AddCall) : Prop :=
  ∀ docs, parse (echoArg c.findingsJson) = some docs → ∀ d ∈ docs,
    ∀ k ∈ ["critical", "high", "medium", "low"],
      ∃ n : Nat, jqAlternative (jqIndex k d) (.int 0) = .int n

/-- The programs with one more audit of one of them. -/
def appendAudit (programs : StoredPrograms) (pid : String) (a : StoredAudit) : StoredPrograms :=
  Dict.set programs pid ((Dict.get? programs pid).getD [] ++ [a])

section Filters

variable {programs : StoredPrograms} {pid : String}

theorem jqIndex_programs (programs : StoredPrograms) :
    jqIndex "programs" (documentOf programs) =
      .ok (.obj (programs.map fun p => (p.1, programRecord p.2))) := by
  simp [documentOf, jqIndex]

theorem jqProgramExists_document (programs : StoredPrograms) (pid : String) :
    jqProgramExists pid (documentOf programs) =
      .ok (.bool (Dict.get? programs pid).isSome) := by
  have hhas : jqHas "programs" (documentOf programs) = .ok true := rfl
  have hprogram : jqHas pid (.obj (programs.map fun p => (p.1, programRecord p.2))) =
      .ok (Dict.get? programs pid).isSome := by
    rw [jqHas, Dict.get?_map, Option.isSome_map]
  simp only [jqProgramExists, hhas, jqIndex_programs, hprogram, bind, Except.bind, pure,
    Except.pure, if_true]

theorem jqAppendAudit_document {audits : List StoredAudit} (a : StoredAudit)
    (h : Dict.get? programs pid = some audits) :
    jqAppendAudit pid a.record (documentOf programs) =
      .ok (documentOf (appendAudit programs pid a)) := by
  have hprogram : jqIndex pid (.obj (programs.map fun p => (p.1, programRecord p.2))) =
      .ok (programRecord audits) := by
    rw [jqIndex, Dict.get?_map, h]
    rfl
  have haudits : jqIndex "audits" (programRecord audits) =
      .ok (.arr (audits.map StoredAudit.record)) := by
    simp [programRecord, jqIndex]
  have hset : jqSet "audits" (.arr (audits.map StoredAudit.record ++ [a.record]))
      (programRecord audits) = .ok (programRecord (audits ++ [a])) := by
    simp [programRecord, jqSet, Dict.set]
  have hadd : jqAdd (.arr (audits.map StoredAudit.record)) (.arr [a.record]) =
      .ok (.arr (audits.map StoredAudit.record ++ [a.record])) := rfl
  have hprograms : jqSet pid (programRecord (audits ++ [a]))
      (.obj (programs.map fun p => (p.1, programRecord p.2))) =
      .ok (.obj ((appendAudit programs pid a).map fun p => (p.1, programRecord p.2))) := by
    rw [jqSet, Dict.set_map, appendAudit, h, Option.getD_some]
  have htop : jqSet "programs"
      (.obj ((appendAudit programs pid a).map fun p => (p.1, programRecord p.2)))
      (documentOf programs) = .ok (documentOf (appendAudit programs pid a)) := by
    simp [documentOf, jqSet, Dict.set]
  simp only [jqAppendAudit, jqIndex_programs, hprogram, haudits, hadd, hset, hprograms, htop, bind,
    Except.bind]

theorem jqAddProgram_document (a : StoredAudit) (h : Dict.get? programs pid = none) :
    jqAddProgram pid a.record (documentOf programs) =
      .ok (documentOf (appendAudit programs pid a)) := by
  have hadd : jqAdd (.obj (programs.map fun p => (p.1, programRecord p.2)))
      (.obj [(pid, programEntry a.record)]) =
      .ok (.obj ((appendAudit programs pid a).map fun p => (p.1, programRecord p.2))) := by
    have hentry : programEntry a.record = programRecord ([] ++ [a]) := rfl
    rw [jqAdd, List.foldl_cons, List.foldl_nil, hentry, Dict.set_map, appendAudit, h,
      Option.getD_none]
  simp only [jqAddProgram, jqIndex_programs, hadd, bind, Except.bind, pure, Except.pure]
  rfl

end Filters

section Steps

variable {parse : String → Option (List Json)} {c : AddCall} {fault : Fault} {s t : FS}
  {programs : StoredPrograms}

/-- The history after a step: as it was, or with one more audit. -/
def Grown (programs : StoredPrograms) (pid : String) (a : StoredAudit) (t : FS) : Prop :=
  t.file .history = some [documentOf programs] ∨
    t.file .history = some [documentOf (appendAudit programs pid a)]

variable (fault) in
theorem replaceHistory_grown (hdoc : s.file .history = some [documentOf programs]) (tmp : Nat)
    (pid : String) (a : StoredAudit) :
    ∃ status t, (replaceHistory tmp ([documentOf (appendAudit programs pid a)], true)).run
        (answer fault) s = (.ok status, t) ∧ t.file .lock = s.file .lock ∧
      Grown programs pid a t := by
  obtain ⟨status, t, hrun, hlock, hcases⟩ :=
    replaceHistory_run fault s tmp (documentOf (appendAudit programs pid a))
  refine ⟨status, t, hrun, hlock, ?_⟩
  rcases hcases with ⟨-, -, hsame⟩ | ⟨-, -, hsame⟩ | ⟨-, -, -, hnew⟩
  · exact .inl (hsame.trans hdoc)
  · exact .inl (hsame.trans hdoc)
  · exact .inr hnew

variable (fault) in
theorem appendToHistory_grown (hdoc : s.file .history = some [documentOf programs])
    (pid ver : String) (a : StoredAudit) (tmp : Nat) :
    ∃ status t, (appendToHistory pid ver a.record tmp).run (answer fault) s = (.ok status, t) ∧
      t.file .lock = s.file .lock ∧ Grown programs pid a t := by
  cases hget : Dict.get? programs pid with
  | some audits =>
    have hexists : jqProgramExists pid (documentOf programs) = .ok (.bool true) := by
      rw [jqProgramExists_document, hget]
      rfl
    cases hversion : nonEmptyCapture (jqVersionExists pid ver (documentOf programs)).1 with
    | true =>
      refine ⟨0, s.del (.temp tmp), ?_, by simp, .inl (by simpa using hdoc)⟩
      simp [appendToHistory, read, answer, hdoc, jqOr, jqRun, jqSingle, hexists, hversion,
        dropTemp, rm]
    | false =>
      obtain ⟨status, t, hrun, hrest⟩ := replaceHistory_grown fault hdoc tmp pid a
      refine ⟨status, t, ?_, hrest⟩
      simpa [appendToHistory, read, answer, hdoc, jqOr, jqRun, jqSingle, hexists, hversion,
        jqAppendAudit_document a hget] using hrun
  | none =>
    have hexists : jqProgramExists pid (documentOf programs) = .ok (.bool false) := by
      rw [jqProgramExists_document, hget]
      rfl
    obtain ⟨status, t, hrun, hrest⟩ := replaceHistory_grown fault hdoc tmp pid a
    refine ⟨status, t, ?_, hrest⟩
    simpa [appendToHistory, read, answer, hdoc, jqOr, jqRun, jqSingle, hexists,
      jqAddProgram_document a hget] using hrun

variable (fault) in
theorem jqAppendAuditFile_grown (hdoc : s.file .history = some [documentOf programs])
    (pid ver : String) (a : StoredAudit) :
    ∃ status t, (jqAppendAuditFile pid ver a.record).run (answer fault) s = (.ok status, t) ∧
      t.file .lock = s.file .lock ∧ Grown programs pid a t := by
  by_cases hf : fault = .mktemp
  · exact ⟨1, s, by simp [jqAppendAuditFile, mktemp, answer, hf], rfl, .inl hdoc⟩
  · obtain ⟨status, t, hrun, hlock, hgrown⟩ := appendToHistory_grown fault
      (show s.fresh.file .history = some [documentOf programs] by simpa using hdoc) pid ver a s.next
    refine ⟨status, t, ?_, by simpa using hlock, hgrown⟩
    simpa [jqAppendAuditFile, mktemp, test, answer, hf, hdoc] using hrun

/-- The entry of counted findings is an audit with the time of the call. -/
theorem auditEntry_counted (h : CountedAdd parse c) {docs : List Json} {entry : Json}
    (hp : parse (echoArg c.findingsJson) = some docs) (he : auditEntry c docs = some entry) :
    ∃ a : StoredAudit, a.timestamp = c.timestamp ∧ entry = a.record := by
  obtain ⟨d, rfl⟩ : ∃ d, docs = [d] := by
    by_contra hn
    rw [auditEntry_eq_none fun d hd => hn ⟨d, hd⟩] at he
    simp at he
  have hcounts := h [d] hp d List.mem_cons_self
  obtain ⟨critical, hcritical⟩ := hcounts "critical" (by simp)
  obtain ⟨high, hhigh⟩ := hcounts "high" (by simp)
  obtain ⟨medium, hmedium⟩ := hcounts "medium" (by simp)
  obtain ⟨low, hlow⟩ := hcounts "low" (by simp)
  rw [auditEntry_single, hcritical, hhigh, hmedium, hlow] at he
  refine ⟨⟨c.version, c.timestamp, c.auditor, c.commit, critical, high, medium, low,
    jqAlternative (jqIndex "finding_ids" d) (.arr [])⟩, rfl, ?_⟩
  exact (Option.some.inj he).symm

/-- A successful addition leaves the history alone or appends an audit of its time. -/
theorem addition_grown (h : CountedAdd parse c)
    (hdoc : s.file .history = some [documentOf programs])
    (hrun : (auditHistoryAdd parse c).run (answer fault) s = (.ok 0, t)) :
    ∃ a : StoredAudit, a.timestamp = c.timestamp ∧ Grown programs c.programId a t := by
  obtain ⟨⟨hpid, hver⟩, hfind, hjq⟩ := add_returned hrun
  cases hlock : s.file .lock with
  | some l =>
    rw [auditHistoryAdd_locked hpid hver hfind hjq hdoc hlock] at hrun
    simp [errLockTimeout] at hrun
  | none =>
    rw [auditHistoryAdd_free hpid hver hfind hjq hdoc hlock] at hrun
    have hlock' : (s.put .lock []).file .lock = some [] := by simp
    have hdoc' : (s.put .lock []).file .history = some [documentOf programs] := by simpa using hdoc
    cases hp : parse (echoArg c.findingsJson) with
    | none =>
      rw [addLocked_rejected hlock' hp] at hrun
      simp [errJsonOp] at hrun
    | some docs =>
      cases he : auditEntry c docs with
      | none =>
        rw [addLocked_aborted hp he] at hrun
        simp at hrun
      | some entry =>
        obtain ⟨a, htime, rfl⟩ := auditEntry_counted h hp he
        obtain ⟨status, u, hu, hl, hgrown⟩ :=
          jqAppendAuditFile_grown fault hdoc' c.programId c.version a
        have hrel := releaseLock_held fault (hl.trans hlock')
        refine ⟨a, htime, ?_⟩
        simp only [addLocked, hp, he, bind_eq] at hrun
        rw [run_bind_ok _ hu, run_bind_ok _ hrel] at hrun
        have ht : u.del .lock = t := congrArg Prod.snd hrun
        unfold Grown at hgrown ⊢
        rw [← ht]
        simpa using hgrown

end Steps

section Order

variable {programs : StoredPrograms} {pid : String} {a : StoredAudit}

theorem mem_old_audits {b : StoredAudit} (h : b ∈ (Dict.get? programs pid).getD []) :
    ∃ p ∈ programs, p.2 = (Dict.get? programs pid).getD [] ∧ b ∈ p.2 := by
  cases hget : Dict.get? programs pid with
  | none => simp [hget] at h
  | some audits =>
    rw [hget, Option.getD_some] at h
    exact ⟨(pid, audits), Dict.mem_of_get? hget, rfl, h⟩

theorem mem_appendAudit {b : StoredAudit} (h : b ∈ allAudits (appendAudit programs pid a)) :
    b = a ∨ b ∈ allAudits programs := by
  obtain ⟨p, hp, hb⟩ := List.mem_flatMap.mp h
  rcases Dict.mem_of_mem_set hp with rfl | hp
  · rcases List.mem_append.mp hb with hb | hb
    · obtain ⟨q, hq, -, hbq⟩ := mem_old_audits hb
      exact .inr (List.mem_flatMap.mpr ⟨q, hq, hbq⟩)
    · exact .inl (List.mem_singleton.mp hb)
  · exact .inr (List.mem_flatMap.mpr ⟨p, hp, hb⟩)

/-- An audit that no stored one is later than keeps the order. -/
theorem OrderedPrograms.append (h : OrderedPrograms programs) (pid : String)
    (hnow : ∀ b ∈ allAudits programs, textLess a.timestamp b.timestamp = false) :
    OrderedPrograms (appendAudit programs pid a) where
  keys := Dict.nodup_keys_set h.keys
  nonempty := by
    intro p hp
    rcases Dict.mem_of_mem_set hp with rfl | hp
    · simp
    · exact h.nonempty p hp
  clock := by
    intro p hp
    rcases Dict.mem_of_mem_set hp with rfl | hp
    · refine List.pairwise_append.mpr ⟨?_, List.pairwise_singleton _ _, ?_⟩
      · cases hget : Dict.get? programs pid with
        | none => exact .nil
        | some audits => exact h.clock _ (Dict.mem_of_get? hget)
      · intro b hb c hc
        obtain rfl := List.mem_singleton.mp hc
        obtain ⟨q, hq, -, hbq⟩ := mem_old_audits hb
        exact hnow b (List.mem_flatMap.mpr ⟨q, hq, hbq⟩)
    · exact h.clock p hp

end Order

/-- After any additions the history lists its audits in the order of time, each with the time of
a call. -/
theorem Additions.ordered {parse : String → Option (List Json)} {calls : List AddCall} {s : FS}
    (h : Additions parse calls s) (hcounted : ∀ c ∈ calls, CountedAdd parse c)
    (hclock : calls.Pairwise fun c d => textLess d.timestamp c.timestamp = false) :
    s.file .history = none ∧ calls = [] ∨
      ∃ programs, s.file .history = some [documentOf programs] ∧ OrderedPrograms programs ∧
        ∀ a ∈ allAudits programs, ∃ c ∈ calls, a.timestamp = c.timestamp := by
  have hempty : OrderedPrograms [] := ⟨List.nodup_nil, by simp, by simp⟩
  induction h with
  | start s hstart =>
    rcases hstart with hnone | hdoc
    · exact .inl ⟨hnone, rfl⟩
    · exact .inr ⟨[], hdoc, hempty, by simp [allAudits]⟩
  | @add calls s t c fault _ hrun ih =>
    rw [List.pairwise_append] at hclock
    have hc : CountedAdd parse c := hcounted c (by simp)
    have hlater : ∀ d ∈ calls, textLess c.timestamp d.timestamp = false :=
      fun d hd => hclock.2.2 d hd c List.mem_cons_self
    obtain ⟨u, programs, hdoc, hordered, htimes, hrun⟩ : ∃ u programs,
        FS.file u .history = some [documentOf programs] ∧ OrderedPrograms programs ∧
        (∀ a ∈ allAudits programs, ∃ d ∈ calls, a.timestamp = d.timestamp) ∧
        (auditHistoryAdd parse c).run (answer fault) u = (.ok 0, t) := by
      rcases ih (fun d hd => hcounted d (List.mem_append_left _ hd)) hclock.1 with
        ⟨hnone, -⟩ | ⟨programs, hdoc, hordered, htimes⟩
      · obtain ⟨⟨hpid, hver⟩, hfind, hjq⟩ := add_returned hrun
        rw [auditHistoryAdd_initializes fault hpid hver hfind hjq hnone] at hrun
        exact ⟨_, [], by simp [documentOf, emptyHistory], hempty, by simp [allAudits], hrun⟩
      · exact ⟨s, programs, hdoc, hordered, htimes, hrun⟩
    obtain ⟨a, htime, hgrown⟩ := addition_grown hc hdoc hrun
    rcases hgrown with hsame | hnew
    · refine .inr ⟨programs, hsame, hordered, fun b hb => ?_⟩
      obtain ⟨d, hd, hbd⟩ := htimes b hb
      exact ⟨d, List.mem_append_left _ hd, hbd⟩
    · have hnow : ∀ b ∈ allAudits programs, textLess a.timestamp b.timestamp = false := by
        intro b hb
        obtain ⟨d, hd, hbd⟩ := htimes b hb
        rw [htime, hbd]
        exact hlater d hd
      refine .inr ⟨_, hnew, hordered.append c.programId hnow, fun b hb => ?_⟩
      rcases mem_appendAudit hb with rfl | hb
      · exact ⟨c, by simp, htime⟩
      · obtain ⟨d, hd, hbd⟩ := htimes b hb
        exact ⟨d, List.mem_append_left _ hd, hbd⟩

/-- The statistics of the history are those of its programs. -/
def ReportsHistory (s : FS) : Prop :=
  ∃ programs stats, s.file .history = some [documentOf programs] ∧
    (programs.map Prod.fst).Nodup ∧
    (auditHistoryStats true).run (answer .none) s = (.ok (0, some stats), s) ∧
    ReportsPrograms programs stats

/-- After any additions with counts and a clock that does not go back, the statistics report the
history where no sum of a severity is too large for jq. -/
theorem stats_report_history (parse : String → Option (List Json)) (calls : List AddCall) (s : FS)
    (h : Additions parse calls s) (hcounted : ∀ c ∈ calls, CountedAdd parse c)
    (hclock : calls.Pairwise fun c d => textLess d.timestamp c.timestamp = false)
    (hexists : s.file .history ≠ none)
    (hsums : ∀ programs, s.file .history = some [documentOf programs] → SumsExact programs) :
    ReportsHistory s := by
  rcases h.ordered hcounted hclock with ⟨hnone, -⟩ | ⟨programs, hdoc, hordered, -⟩
  · exact absurd hnone hexists
  · obtain ⟨stats, hrun, hreports⟩ := stats_report_programs hdoc hordered (hsums programs hdoc)
    exact ⟨programs, stats, hdoc, hordered.keys, hrun, hreports⟩

/-! Two audits of one program, the second with one critical finding. -/

def oneCritical : String := "\x7b\x22critical\x22:1\x7d"

def manyCritical : String := "\x7b\x22critical\x22:9007199254740992\x7d"

/-- jq on these texts. -/
def countParse (text : String) : Option (List Json) :=
  if text = echoArg oneCritical then some [.obj [("critical", .int 1)]]
  else if text = echoArg manyCritical then some [.obj [("critical", .int 9007199254740992)]]
  else none

def secondCall : AddCall :=
  { sampleCall oneCritical with version := "1.1.0", timestamp := "2026-06-26T09:00:00Z" }

/-- The files after an audit with the findings, and a second one. -/
def twoAudits (findingsJson : String) : FS :=
  ((auditHistoryAdd countParse secondCall).run (answer .none)
    ((auditHistoryAdd countParse (sampleCall findingsJson)).run (answer .none)
      { file := fun _ => none, next := 0 }).2).2

theorem countedAdd_countParse (c : AddCall) : CountedAdd countParse c := by
  intro docs hdocs d hd k hk
  obtain ⟨n, rfl⟩ : ∃ n : Nat, docs = [.obj [("critical", .int n)]] := by
    unfold countParse at hdocs
    split_ifs at hdocs
    · exact ⟨1, (Option.some.inj hdocs).symm⟩
    · exact ⟨9007199254740992, (Option.some.inj hdocs).symm⟩
  obtain rfl := List.mem_singleton.mp hd
  simp only [List.mem_cons, List.not_mem_nil, or_false] at hk
  rcases hk with rfl | rfl | rfl | rfl
  · exact ⟨n, rfl⟩
  · exact ⟨0, rfl⟩
  · exact ⟨0, rfl⟩
  · exact ⟨0, rfl⟩

theorem clock_twoAudits (findingsJson : String) :
    [sampleCall findingsJson, secondCall].Pairwise
      fun c d => textLess d.timestamp c.timestamp = false := by
  have hlater : textLess "2026-06-26T09:00:00Z" "2026-06-25T14:30:00Z" = false := by decide
  exact List.pairwise_pair.mpr hlater

theorem stats_report_history_two : ReportsHistory (twoAudits oneCritical) := by
  have hrun : Additions countParse ([] ++ [sampleCall oneCritical] ++ [secondCall])
      (twoAudits oneCritical) :=
    .add secondCall .none (.add (sampleCall oneCritical) .none
      (.start { file := fun _ => none, next := 0 } (.inl rfl)) rfl) rfl
  refine stats_report_history countParse _ _ hrun (fun c _ => countedAdd_countParse c)
    (clock_twoAudits oneCritical) (by simp [show (twoAudits oneCritical).file .history = some _
      from rfl]) ?_
  intro programs hdoc
  have hdocument := (List.cons.inj (Option.some.inj hdoc)).1
  obtain ⟨hcritical, hhigh, hmedium, hlow⟩ := counts_fields
  have hsum : ∀ k count, Counts k count → (∃ counts : List Nat,
      (jqAllCounts k (documentOf programs)).1 = counts.map ofCount ∧ counts.sum ≤ 2 ^ 53) →
      sumOf count programs ≤ 2 ^ 53 := by
    rintro k count h ⟨counts, hcounts, hle⟩
    rwa [sumOf_eq h hcounts]
  rw [← hdocument] at hsum
  exact ⟨hsum _ _ hcritical ⟨[1, 1], rfl, by decide⟩, hsum _ _ hhigh ⟨[0, 0], rfl, by decide⟩,
    hsum _ _ hmedium ⟨[0, 0], rfl, by decide⟩, hsum _ _ hlow ⟨[0, 0], rfl, by decide⟩⟩

/-- The critical findings that a run of the statistics reports. -/
def reportedCritical (result : Ending (Nat × Option HistoryStats) × FS) : Option Int :=
  match result.1 with
  | .ok (_, some stats) => some stats.totalCritical
  | _ => none

/-- jq loses one finding of a sum beyond its numbers. -/
theorem large_sum_not_reported :
    (∃ calls, Additions countParse calls (twoAudits manyCritical) ∧
      (∀ c ∈ calls, CountedAdd countParse c) ∧
      calls.Pairwise fun c d => textLess d.timestamp c.timestamp = false) ∧
    ¬ ReportsHistory (twoAudits manyCritical) := by
  have hrun : Additions countParse ([] ++ [sampleCall manyCritical] ++ [secondCall])
      (twoAudits manyCritical) :=
    .add secondCall .none (.add (sampleCall manyCritical) .none
      (.start { file := fun _ => none, next := 0 } (.inl rfl)) rfl) rfl
  refine ⟨⟨_, hrun, fun c _ => countedAdd_countParse c, clock_twoAudits manyCritical⟩, ?_⟩
  rintro ⟨programs, stats, hdoc, -, hstats, hreports⟩
  have hdocument := (List.cons.inj (Option.some.inj hdoc)).1
  have hcounts : (jqAllCounts "critical" (documentOf programs)).1 =
      [9007199254740992, 1].map ofCount := by
    rw [← hdocument]
    rfl
  have hreported : reportedCritical ((auditHistoryStats true).run (answer .none)
      (twoAudits manyCritical)) = some 9007199254740992 := by decide +kernel
  rw [hstats] at hreported
  have hcritical := hreports.critical
  rw [sumOf_eq counts_fields.1 hcounts, Option.some.inj hreported] at hcritical
  exact absurd hcritical (by decide)

end SolanaAuditor.History
