/- SolanaAuditor/History/StatsRuns
   digest: What audit_history_stats reports of the histories that additions make. -/

import SolanaAuditor.History.SoloRun
import SolanaAuditor.History.Stats

set_option autoImplicit false
set_option relaxedAutoImplicit false

namespace SolanaAuditor.History

open SolanaAuditor.Lib SolanaAuditor.Lib.Shell

/-- An audit whose counts are natural numbers. -/
structure StoredAudit where
  version : String
  timestamp : String
  auditor : String
  commit : String
  critical : Nat
  high : Nat
  medium : Nat
  low : Nat
  findingIds : Json

def StoredAudit.record (a : StoredAudit) : Json :=
  .obj [("version", .str a.version), ("timestamp", .str a.timestamp),
    ("auditor", .str a.auditor), ("commit", .str a.commit),
    ("findings", .obj [("critical", .int a.critical), ("high", .int a.high),
      ("medium", .int a.medium), ("low", .int a.low)]),
    ("finding_ids", a.findingIds)]

abbrev StoredPrograms := List (String × List StoredAudit)

def programRecord (audits : List StoredAudit) : Json :=
  .obj [("audits", .arr (audits.map StoredAudit.record))]

/-- The history of some programs. -/
def documentOf (programs : StoredPrograms) : Json :=
  .obj [("programs", .obj (programs.map fun p => (p.1, programRecord p.2)))]

def allAudits (programs : StoredPrograms) : List StoredAudit := programs.flatMap Prod.snd

/-- The sum of a count over all stored audits. -/
def sumOf (count : StoredAudit → Nat) (programs : StoredPrograms) : Nat :=
  ((allAudits programs).map count).sum

/-- The report counts the programs, the audits and each severity, and names an audit that no
other is later than. -/
structure ReportsPrograms (programs : StoredPrograms) (stats : HistoryStats) : Prop where
  programCount : stats.totalPrograms = programs.length
  auditCount : stats.totalAudits = (allAudits programs).length
  critical : stats.totalCritical = sumOf StoredAudit.critical programs
  high : stats.totalHigh = sumOf StoredAudit.high programs
  medium : stats.totalMedium = sumOf StoredAudit.medium programs
  low : stats.totalLow = sumOf StoredAudit.low programs
  total : stats.total =
    stats.totalCritical + stats.totalHigh + stats.totalMedium + stats.totalLow
  latest : allAudits programs ≠ [] → ∃ p ∈ programs, ∃ a ∈ p.2, stats.latestProgram = [.str p.1] ∧
    stats.latestVersion = [.str a.version] ∧ stats.latestDate = [.str a.timestamp] ∧
    ∀ b ∈ allAudits programs, textLess a.timestamp b.timestamp = false

section Documents

variable (programs : StoredPrograms)

theorem documentOf_wellFormed : WellFormedHistory (documentOf programs) := by
  refine ⟨_, programs.map fun p => (p.1, programRecord p.2), rfl, rfl, fun pid p hp => ?_⟩
  rw [Dict.get?_map] at hp
  obtain ⟨audits, -, rfl⟩ := Option.map_eq_some_iff.mp hp
  refine ⟨_, audits.map StoredAudit.record, rfl, rfl, fun a ha => ?_⟩
  obtain ⟨audit, -, rfl⟩ := List.mem_map.mp ha
  exact ⟨_, audit.version, rfl, rfl⟩

theorem auditsOf_documentOf (pid : String) :
    auditsOf (documentOf programs) pid =
      ((Dict.get? programs pid).getD []).map StoredAudit.record := by
  have hprograms : jqIndex "programs" (documentOf programs) =
      .ok (.obj (programs.map fun p => (p.1, programRecord p.2))) := rfl
  have hprogram : jqIndex pid (.obj (programs.map fun p => (p.1, programRecord p.2))) =
      .ok (((Dict.get? programs pid).map programRecord).getD .null) := by
    rw [jqIndex, Dict.get?_map]
  have haudits : jqAudits pid (documentOf programs) = (do
      jqIterate (← jqIndex "audits" (((Dict.get? programs pid).map programRecord).getD .null))) := by
    simp only [jqAudits, hprograms, hprogram, bind, Except.bind]
  rw [auditsOf, haudits]
  cases Dict.get? programs pid with
  | none => rfl
  | some audits => rfl

end Documents

section Filters

variable {programs : StoredPrograms}

theorem jqEach_map_ok {α : Type} {g : Json → JqResult (List Json)} {f : α → Json}
    {out : α → List Json} {items : List α} (h : ∀ a ∈ items, g (f a) = .ok (out a)) :
    jqEach g (items.map f) = (items.flatMap out, true) := by
  induction items with
  | nil => rfl
  | cons a items ih =>
    obtain ⟨hhead, htail⟩ := List.forall_mem_cons.mp h
    simp only [List.map_cons, jqEach, hhead, ih htail, List.flatMap_cons]

variable (programs) in
theorem jqAllAudits_document :
    jqAllAudits (documentOf programs) = ((allAudits programs).map StoredAudit.record, true) := by
  have hvalues : (do jqIterate (← jqIndex "programs" (documentOf programs)) : JqResult _) =
      .ok (programs.map fun p => programRecord p.2) := by
    simp [documentOf, jqIndex, jqIterate, bind, Except.bind, Function.comp_def]
  have hprogram : ∀ p ∈ programs,
      (do jqIterate (← jqIndex "audits" (programRecord p.2)) : JqResult _) =
        .ok (p.2.map StoredAudit.record) := fun p _ => rfl
  unfold jqAllAudits
  rw [hvalues]
  dsimp only
  rw [jqEach_map_ok hprogram, allAudits, List.map_flatMap]

def ofCount (n : Nat) : Json := .int n

/-- `.findings.k` of a stored audit. -/
def Counts (k : String) (count : StoredAudit → Nat) : Prop :=
  ∀ a : StoredAudit, (do jqIndex k (← jqIndex "findings" a.record) : JqResult Json) =
    .ok (ofCount (count a))

theorem counts_fields : Counts "critical" StoredAudit.critical ∧
    Counts "high" StoredAudit.high ∧ Counts "medium" StoredAudit.medium ∧
    Counts "low" StoredAudit.low :=
  ⟨fun _ => rfl, fun _ => rfl, fun _ => rfl, fun _ => rfl⟩

theorem jqAllCounts_document {k : String} {count : StoredAudit → Nat} (h : Counts k count) :
    jqAllCounts k (documentOf programs) =
      (((allAudits programs).map count).map ofCount, true) := by
  have haudit : ∀ a ∈ allAudits programs,
      (do return [← jqIndex k (← jqIndex "findings" a.record)] : JqResult (List Json)) =
        .ok [ofCount (count a)] := by
    intro a _
    have ha := h a
    simp only [bind, Except.bind, pure, Except.pure] at ha ⊢
    cases hfindings : jqIndex "findings" a.record with
    | error e => simp [hfindings] at ha
    | ok findings =>
      simp only [hfindings] at ha
      simp only [ha]
  have hcounts : jqEach (fun a => do return [← jqIndex k (← jqIndex "findings" a)])
      ((allAudits programs).map StoredAudit.record) =
      ((allAudits programs).flatMap fun a => [ofCount (count a)], true) := jqEach_map_ok haudit
  simp only [jqAllCounts, jqAllAudits_document, hcounts, Bool.and_true]
  rw [List.map_map, List.map_eq_flatMap]
  rfl

/-- The counts that jq reads are those of the audits. -/
theorem sumOf_eq {k : String} {count : StoredAudit → Nat} (h : Counts k count) {counts : List Nat}
    (hcounts : (jqAllCounts k (documentOf programs)).1 = counts.map ofCount) :
    sumOf count programs = counts.sum := by
  have hinj : Function.Injective ofCount := fun m n hmn => Int.ofNat_inj.mp (Json.int.inj hmn)
  rw [jqAllCounts_document h] at hcounts
  rw [sumOf, List.map_injective_iff.mpr hinj hcounts]

end Filters

section Sums

theorem jqRound_of_le {n : Nat} (h : n ≤ 2 ^ 53) : jqRound n = n := by
  have hneg : ¬ (n : Int) < 0 := by omega
  rw [jqRound, if_neg hneg, Int.natAbs_natCast, roundDouble, if_pos h]

theorem jqAddAll_ints {counts : List Nat} {total : Nat} (h : total + counts.sum ≤ 2 ^ 53) :
    jqAddAll (.int total) (counts.map ofCount) = .ok (.int (total + counts.sum : Nat)) := by
  induction counts generalizing total with
  | nil => rfl
  | cons n counts ih =>
    rw [List.sum_cons] at h
    have hstep : jqPlus (.int total) (ofCount n) = .ok (.int (total + n : Nat)) := by
      rw [ofCount, jqPlus, ← Nat.cast_add, jqRound_of_le (by omega)]
    rw [List.map_cons, jqAddAll, hstep, List.sum_cons, ← Nat.add_assoc]
    exact ih (by omega)

/-- `add` of natural numbers whose sum is a double. -/
theorem jqAddAll_counts {counts : List Nat} (h : counts.sum ≤ 2 ^ 53) :
    jqAlternative (jqAddAll .null (counts.map ofCount)) (.int 0) = .int counts.sum := by
  cases counts with
  | nil => rfl
  | cons n counts =>
    rw [List.sum_cons] at h
    have hsum : jqAddAll (.int n) (counts.map ofCount) = .ok (.int (n + counts.sum : Nat)) :=
      jqAddAll_ints h
    rw [List.map_cons, jqAddAll]
    change jqAlternative (jqAddAll (.int n) _) _ = _
    rw [hsum, List.sum_cons]
    rfl

theorem sum_filter_pos (counts : List Nat) : (counts.filter (0 < ·)).sum = counts.sum := by
  induction counts with
  | nil => rfl
  | cons n counts ih =>
    by_cases hn : 0 < n
    · rw [List.filter_cons_of_pos (by simpa using hn), List.sum_cons, ih, List.sum_cons]
    · rw [List.filter_cons_of_neg (by simpa using hn), ih, List.sum_cons]
      omega

/-- Neither `// 0` nor `select(. > 0)` changes the sum. -/
theorem positive_counts (counts : List Nat) :
    (jqAlternatives (counts.map ofCount, true) (.int 0)).filter jqPositive =
      (counts.filter (0 < ·)).map ofCount := by
  have hkeep : (counts.map ofCount).filter jqPresent = counts.map ofCount := by
    rw [List.filter_eq_self]
    intro v hv
    obtain ⟨n, -, rfl⟩ := List.mem_map.mp hv
    rfl
  unfold jqAlternatives
  dsimp only
  rw [hkeep]
  cases counts with
  | nil => rfl
  | cons n counts =>
    rw [List.map_cons]
    dsimp only
    rw [← List.map_cons, List.filter_map]
    congr 1
    exact List.filter_congr fun m _ => by simp [jqPositive, ofCount]

variable {programs : StoredPrograms}

theorem jqTotal_document {k : String} {count : StoredAudit → Nat} (h : Counts k count)
    (hsum : sumOf count programs ≤ 2 ^ 53) :
    jqTotal k (documentOf programs) = ([.int (sumOf count programs)], true) := by
  have hpositive := sum_filter_pos ((allAudits programs).map count)
  unfold jqTotal
  dsimp only
  rw [jqAllCounts_document h, positive_counts, jqAddAll_counts (by rwa [hpositive]), hpositive]
  rfl

end Sums

section Latest

variable {programs : StoredPrograms}

/-- The last audit of a program. -/
def lastTimestamp (audits : List StoredAudit) : String :=
  (audits.getLast?.map StoredAudit.timestamp).getD ""

theorem jqLastAudit_record {audits : List StoredAudit} {a : StoredAudit} (k : String)
    (h : audits.getLast? = some a) :
    jqLastAudit k (programRecord audits) = jqIndex k a.record := by
  simp [jqLastAudit, programRecord, jqIndex, jqLast, List.getLast?_map, h, bind, Except.bind]

theorem jqTimestamps_document (h : ∀ p ∈ programs, p.2 ≠ []) :
    jqTimestamps (programs.map fun p => (.str p.1, programRecord p.2)) =
      .ok (programs.map fun p =>
        (.str (lastTimestamp p.2), .str p.1, programRecord p.2)) := by
  induction programs with
  | nil => rfl
  | cons p programs ih =>
    obtain ⟨hp, hrest⟩ := List.forall_mem_cons.mp h
    obtain ⟨a, ha⟩ := Option.ne_none_iff_exists'.mp fun hnone =>
      hp (List.getLast?_eq_none_iff.mp hnone)
    have hlast : jqLastAudit "timestamp" (programRecord p.2) =
        .ok (.str (lastTimestamp p.2)) := by
      rw [jqLastAudit_record "timestamp" ha, lastTimestamp, ha]
      rfl
    rw [List.map_cons, jqTimestamps, hlast, ih hrest]
    rfl

/-- The order of the keys, where they are texts. -/
theorem strictWeak_timestamps :
    StableSort.StrictWeak (fun e : Json × Json × Json => ∃ t, e.1 = .str t)
      (fun a b => jqLess a.1 b.1) where
  asymm a b := by
    rintro ⟨s, hs⟩ ⟨t, ht⟩
    rw [hs, ht]
    exact strictWeak_textLess.asymm s t trivial trivial
  trans a b c := by
    rintro ⟨s, hs⟩ ⟨t, ht⟩ ⟨u, hu⟩
    rw [hs, ht, hu]
    exact strictWeak_textLess.trans s t u trivial trivial trivial

/-- The program whose last audit is the latest of the last ones. -/
theorem jqLatestEntry_document (h : ∀ p ∈ programs, p.2 ≠ []) (hne : programs ≠ []) :
    ∃ p ∈ programs, jqLatestEntry (documentOf programs) =
        .ok (some (.str p.1, programRecord p.2)) ∧
      ∀ q ∈ programs, textLess (lastTimestamp p.2) (lastTimestamp q.2) = false := by
  have hprograms : jqIndex "programs" (documentOf programs) =
      .ok (.obj (programs.map fun p => (p.1, programRecord p.2))) := by
    simp [documentOf, jqIndex]
  have hentries : jqToEntries (.obj (programs.map fun p => (p.1, programRecord p.2))) =
      .ok (programs.map fun p => (.str p.1, programRecord p.2)) := by
    simp [jqToEntries, Function.comp_def]
  have hstr : ∀ e ∈ programs.map fun p =>
      ((.str (lastTimestamp p.2), .str p.1, programRecord p.2) : Json × Json × Json),
      ∃ t, e.1 = .str t := by
    intro e he
    obtain ⟨p, -, rfl⟩ := List.mem_map.mp he
    exact ⟨_, rfl⟩
  obtain ⟨e, he⟩ : ∃ e, (StableSort.sort (fun a b => jqLess a.1 b.1) (programs.map fun p =>
      ((.str (lastTimestamp p.2), .str p.1, programRecord p.2) : Json × Json × Json))).getLast? =
        some e := by
    refine Option.ne_none_iff_exists'.mp fun hnone => hne ?_
    have hlength := (StableSort.sort_perm (fun a b : Json × Json × Json => jqLess a.1 b.1)
      (programs.map fun p => (.str (lastTimestamp p.2), .str p.1, programRecord p.2))).length_eq
    rw [List.getLast?_eq_none_iff.mp hnone, List.length_map] at hlength
    exact List.length_eq_zero_iff.mp hlength.symm
  obtain ⟨hmem, hmax⟩ := StableSort.sort_last strictWeak_timestamps hstr he
  obtain ⟨p, hp, rfl⟩ := List.mem_map.mp hmem
  refine ⟨p, hp, ?_, fun q hq => hmax _ (List.mem_map.mpr ⟨q, hq, rfl⟩)⟩
  simp only [jqLatestEntry, hprograms, hentries, jqTimestamps_document h, he, bind, Except.bind,
    pure, Except.pure, Option.map_some]

end Latest

/-! The invariant of the histories: each program once, with its audits in the order of time. -/

structure OrderedPrograms (programs : StoredPrograms) : Prop where
  keys : (programs.map Prod.fst).Nodup
  nonempty : ∀ p ∈ programs, p.2 ≠ []
  clock : ∀ p ∈ programs, p.2.Pairwise fun a b => textLess b.timestamp a.timestamp = false

section Report

variable {programs : StoredPrograms}

/-- The last audit of the program that comes last is later than no other one. -/
theorem latest_of_all (h : OrderedPrograms programs) {p : String × List StoredAudit}
    {a : StoredAudit} (ha : p.2.getLast? = some a)
    (hmax : ∀ q ∈ programs, textLess (lastTimestamp p.2) (lastTimestamp q.2) = false) :
    ∀ b ∈ allAudits programs, textLess a.timestamp b.timestamp = false := by
  intro b hb
  obtain ⟨q, hq, hbq⟩ := List.mem_flatMap.mp hb
  obtain ⟨c, hc⟩ := Option.ne_none_iff_exists'.mp fun hnone =>
    h.nonempty q hq (List.getLast?_eq_none_iff.mp hnone)
  have hac : textLess a.timestamp c.timestamp = false := by
    simpa [lastTimestamp, ha, hc] using hmax q hq
  rcases Lists.pairwise_last (h.clock q hq) hc b hbq with rfl | hlt
  · exact hac
  · exact strictWeak_textLess.trans _ _ _ trivial trivial trivial hlt hac

/-- No sum is too large for jq. -/
structure SumsExact (programs : StoredPrograms) : Prop where
  critical : sumOf StoredAudit.critical programs ≤ 2 ^ 53
  high : sumOf StoredAudit.high programs ≤ 2 ^ 53
  medium : sumOf StoredAudit.medium programs ≤ 2 ^ 53
  low : sumOf StoredAudit.low programs ≤ 2 ^ 53

theorem jqProgramCount_document (programs : StoredPrograms) :
    jqProgramCount (documentOf programs) = ([.int programs.length], true) := by
  simp [jqProgramCount, documentOf, jqIndex, jqLength, jqSingle, bind, Except.bind]

theorem jqAuditCount_document (programs : StoredPrograms) :
    jqAuditCount (documentOf programs) = ([.int (allAudits programs).length], true) := by
  simp [jqAuditCount, jqAllAudits_document]

theorem bashInt_of_small {a b c d : Nat} (ha : a ≤ 2 ^ 53) (hb : b ≤ 2 ^ 53) (hc : c ≤ 2 ^ 53)
    (hd : d ≤ 2 ^ 53) : bashInt (a + b + c + d) = a + b + c + d := by
  unfold bashInt
  rw [Int.bmod_eq_of_le] <;> omega

/-- What the run computes of a file with one document. -/
theorem auditHistoryStats_run {s : FS} (hdoc : s.file .history = some [documentOf programs])
    (hsums : SumsExact programs) {program version date : List Json}
    (hprogram : jqLatestProgram (documentOf programs) = (program, true))
    (hversion : jqLatestField "version" (documentOf programs) = (version, true))
    (hdate : jqLatestField "timestamp" (documentOf programs) = (date, true)) :
    ∃ breakdown, (auditHistoryStats true).run (answer .none) s = (.ok (0, some
      { totalPrograms := programs.length, totalAudits := (allAudits programs).length
        totalCritical := sumOf StoredAudit.critical programs
        totalHigh := sumOf StoredAudit.high programs
        totalMedium := sumOf StoredAudit.medium programs
        totalLow := sumOf StoredAudit.low programs
        total := sumOf StoredAudit.critical programs + sumOf StoredAudit.high programs +
          sumOf StoredAudit.medium programs + sumOf StoredAudit.low programs
        latestProgram := program, latestVersion := version, latestDate := date
        programs := breakdown }), s) := by
  obtain ⟨hcritical, hhigh, hmedium, hlow⟩ := counts_fields
  have htotal := bashInt_of_small hsums.critical hsums.high hsums.medium hsums.low
  refine ⟨if 0 < (programs.length : Int) then jqBreakdown (documentOf programs) else [], ?_⟩
  have hlines : (programLines programs.length).run (answer .none) s = (.ok
      (if 0 < (programs.length : Int) then jqBreakdown (documentOf programs) else []), s) := by
    unfold programLines
    split_ifs
    · simp [read, answer, hdoc]
    · rfl
  simp only [auditHistoryStats, Bool.not_true, Bool.false_eq_true, if_false, test, read, bind_eq,
    bind_act, bind_done, run_act, answer, hdoc, Option.isSome_some, if_true, jqOr, jqRun,
    jqProgramCount_document, jqAuditCount_document, jqTotal_document hcritical hsums.critical,
    jqTotal_document hhigh hsums.high, jqTotal_document hmedium hsums.medium,
    jqTotal_document hlow hsums.low, hprogram, hversion, hdate, printfInt, pure_eq, htotal]
  rw [run_bind_ok _ hlines]
  rfl

theorem jqLatestProgram_of_entry {doc : Json} {e : Json × Json}
    (h : jqLatestEntry doc = .ok (some e)) : jqLatestProgram doc = ([e.1], true) := by
  simp [jqLatestProgram, h, jqSingle, bind, Except.bind, pure, Except.pure]

theorem jqLatestField_of_entry {doc : Json} {e : Json × Json} {k : String} {v : Json}
    (h : jqLatestEntry doc = .ok (some e)) (hv : jqLastAudit k e.2 = .ok v) :
    jqLatestField k doc = ([v], true) := by
  simp [jqLatestField, h, hv, jqSingle, bind, Except.bind]

/-- The statistics of a history in order. -/
theorem stats_report_programs {s : FS} (hdoc : s.file .history = some [documentOf programs])
    (h : OrderedPrograms programs) (hsums : SumsExact programs) :
    ∃ stats, (auditHistoryStats true).run (answer .none) s = (.ok (0, some stats), s) ∧
      ReportsPrograms programs stats := by
  by_cases hne : programs = []
  · subst hne
    obtain ⟨breakdown, hrun⟩ := auditHistoryStats_run hdoc hsums rfl rfl rfl
    exact ⟨_, hrun, rfl, rfl, rfl, rfl, rfl, rfl, rfl, fun hall => absurd rfl hall⟩
  · obtain ⟨p, hp, hentry, hmax⟩ := jqLatestEntry_document h.nonempty hne
    obtain ⟨a, ha⟩ := Option.ne_none_iff_exists'.mp fun hnone =>
      h.nonempty p hp (List.getLast?_eq_none_iff.mp hnone)
    have hversion : jqLastAudit "version" (programRecord p.2) = .ok (.str a.version) :=
      jqLastAudit_record "version" ha
    have hdate : jqLastAudit "timestamp" (programRecord p.2) = .ok (.str a.timestamp) :=
      jqLastAudit_record "timestamp" ha
    obtain ⟨breakdown, hrun⟩ := auditHistoryStats_run hdoc hsums
      (jqLatestProgram_of_entry hentry) (jqLatestField_of_entry hentry hversion)
      (jqLatestField_of_entry hentry hdate)
    refine ⟨_, hrun, rfl, rfl, rfl, rfl, rfl, rfl, rfl, fun _ => ?_⟩
    exact ⟨p, hp, a, List.mem_of_getLast? ha, rfl, rfl, rfl, latest_of_all h ha hmax⟩

end Report

end SolanaAuditor.History
