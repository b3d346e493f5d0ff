/- SolanaAuditor/History/DiffVerdict
   digest: Which finding ids come out of audit_history_diff as they were stored. -/

import SolanaAuditor.History.Diff
import SolanaAuditor.History.Sessions
import SolanaAuditor.History.StatsRuns

set_option autoImplicit false
set_option relaxedAutoImplicit false

namespace SolanaAuditor.History

open SolanaAuditor.Lib SolanaAuditor.Lib.Shell

/-- The words that the shell makes of one id. -/
def pieces (glob : String → List String) (id : String) : List String :=
  shellWords glob (withoutNull id.toList)

/-- A stored audit with some finding ids. -/
def StoredAudit.HasIds (a : StoredAudit) (ids : List String) : Prop :=
  a.findingIds = .arr (ids.map Json.str)

/-- The reports of two audits, and of the same audits the other way round, are the two
differences of their ids. -/
structure ReportsDifference (ids1 ids2 : List String) (report swapped : DiffReport) : Prop where
  new : ∀ id, id ∈ report.newFindings ↔ id ∈ ids2 ∧ id ∉ ids1
  fixed : ∀ id, id ∈ report.fixedFindings ↔ id ∈ ids1 ∧ id ∉ ids2
  swappedNew : ∀ id, id ∈ swapped.newFindings ↔ id ∈ report.fixedFindings
  swappedFixed : ∀ id, id ∈ swapped.fixedFindings ↔ id ∈ report.newFindings
  common : ∀ id ∈ ids1, id ∈ ids2 → id ∉ report.newFindings ∧ id ∉ report.fixedFindings

/-- The ids of one list that the other one lacks. -/
def idsOnlyIn (ids others : List String) : List String := ids.filter fun id => decide (id ∉ others)

/-- The shell keeps the ids of a list that the other list lacks: each of them is a word of one of
them and no word of the other list, and they have no further words but words of the other list. -/
structure Kept (glob : String → List String) (ids others : List String) : Prop where
  word : ∀ id ∈ idsOnlyIn ids others, ∃ j ∈ idsOnlyIn ids others, id ∈ pieces glob j
  apart : ∀ id ∈ idsOnlyIn ids others, ∀ k ∈ others, id ∉ pieces glob k
  whole : ∀ j ∈ idsOnlyIn ids others, ∀ w ∈ pieces glob j,
    w ∈ idsOnlyIn ids others ∨ ∃ k ∈ others, w ∈ pieces glob k

section Words

variable (render : Json → String) (glob : String → List String)

/-- Each printed value has its own words. -/
theorem shellWords_captured (out : List Json) :
    shellWords glob (captured (rawText render out)) =
      out.flatMap fun v => shellWords glob (withoutNull (rawValue render v).toList) := by
  have hnewline : isIfs '\n' = true := rfl
  have hstrip : shellWords glob (captured (rawText render out)) =
      shellWords glob (withoutNull (rawText render out)) := by
    rw [shellWords, captured, Words.words_rdropWhile (by simp) hnewline, shellWords]
  have hlines : withoutNull (rawText render out) =
      (out.map fun v => withoutNull (rawValue render v).toList).flatMap
        fun line => line ++ ['\n'] := by
    rw [withoutNull, rawText, List.filter_flatMap, List.flatMap_map]
    refine List.flatMap_congr fun v _ => ?_
    rw [List.filter_append, withoutNull]
    rfl
  rw [hstrip, hlines, shellWords, Words.words_flatMap_lines hnewline, List.flatMap_map,
    List.flatMap_assoc]
  rfl

variable {render glob} {a : StoredAudit} {ids : List String}

theorem jqSortedIds_record (h : a.HasIds ids) :
    jqSortedIds a.record = (StableSort.sort jqLess (ids.map Json.str), true) := by
  have hindex : jqIndex "finding_ids" a.record = .ok (.arr (ids.map Json.str)) := by
    rw [← h]
    rfl
  rw [jqSortedIds, hindex]

/-- The keys of an audit's map are the words of its ids. -/
theorem mem_idMap (h : a.HasIds ids) (w : String) :
    w ∈ idMap render glob [a.record] ↔ ∃ id ∈ ids, w ∈ pieces glob id := by
  have hsorted : ∀ v, v ∈ StableSort.sort jqLess (ids.map Json.str) ↔ v ∈ ids.map Json.str :=
    fun v => (StableSort.sort_perm jqLess _).mem_iff
  rw [idMap, jqRun, jqSortedIds_record h, List.mem_dedup, shellWords_captured, List.mem_flatMap]
  constructor
  · rintro ⟨v, hv, hw⟩
    obtain ⟨id, hid, rfl⟩ := List.mem_map.mp ((hsorted v).mp hv)
    exact ⟨id, hid, hw⟩
  · rintro ⟨id, hid, hw⟩
    exact ⟨.str id, (hsorted _).mpr (List.mem_map_of_mem hid), hw⟩

end Words

section Sets

variable {glob : String → List String} {ids others : List String}

theorem mem_idsOnlyIn (id : String) : id ∈ idsOnlyIn ids others ↔ id ∈ ids ∧ id ∉ others := by
  rw [idsOnlyIn, List.mem_filter, decide_eq_true_iff]

/-- The words of one list that the other lacks are the ids that the other lacks. -/
theorem difference_iff_kept :
    (∀ w, ((∃ id ∈ ids, w ∈ pieces glob id) ∧ ¬∃ id ∈ others, w ∈ pieces glob id) ↔
        w ∈ ids ∧ w ∉ others) ↔ Kept glob ids others := by
  simp only [← mem_idsOnlyIn]
  constructor
  · intro h
    have hapart : ∀ id ∈ idsOnlyIn ids others, ∀ k ∈ others, id ∉ pieces glob k :=
      fun id hid k hk hword => ((h id).mpr hid).2 ⟨k, hk, hword⟩
    refine ⟨fun id hid => ?_, hapart, fun j hj w hw => ?_⟩
    · obtain ⟨⟨j, hj, hword⟩, hnone⟩ := (h id).mpr hid
      have hother : j ∉ others := fun hmem => hnone ⟨j, hmem, hword⟩
      exact ⟨j, (mem_idsOnlyIn j).mpr ⟨hj, hother⟩, hword⟩
    · by_cases hother : ∃ k ∈ others, w ∈ pieces glob k
      · exact .inr hother
      · exact .inl ((h w).mp ⟨⟨j, ((mem_idsOnlyIn j).mp hj).1, hw⟩, hother⟩)
  · intro h w
    constructor
    · rintro ⟨⟨j, hj, hword⟩, hnone⟩
      have hother : j ∉ others := fun hmem => hnone ⟨j, hmem, hword⟩
      exact (h.whole j ((mem_idsOnlyIn j).mpr ⟨hj, hother⟩) w hword).resolve_right hnone
    · intro hw
      obtain ⟨j, hj, hword⟩ := h.word w hw
      exact ⟨⟨j, ((mem_idsOnlyIn j).mp hj).1, hword⟩,
        fun ⟨k, hk, hother⟩ => h.apart w hw k hk hother⟩

end Sets

section PlainIds

/-- One word of the shell: not empty, and without blanks, newlines and null characters. -/
def IsWord (id : String) : Prop := id ≠ "" ∧ ∀ c ∈ id.toList, isIfs c = false ∧ c ≠ '\x00'

instance (id : String) : Decidable (IsWord id) :=
  have : Decidable (∀ c ∈ id.toList, isIfs c = false ∧ c ≠ '\x00') := List.decidableBAll _ _
  inferInstanceAs (Decidable (_ ∧ _))

variable {ids others : List String}

theorem isWord_of_mem_pieces {id w : String} (h : w ∈ pieces (fun w => [w]) id) : IsWord w := by
  rw [pieces, shellWords, List.mem_flatMap] at h
  obtain ⟨word, hword, hw⟩ := h
  obtain ⟨hne, hchars⟩ := Words.mem_words hword
  rw [List.mem_singleton] at hw
  subst hw
  refine ⟨fun hempty => hne (String.ofList_eq_empty_iff.mp hempty), fun c hc => ?_⟩
  rw [String.toList_ofList] at hc
  obtain ⟨hmem, hblank⟩ := hchars c hc
  exact ⟨hblank, by simpa using (List.mem_filter.mp hmem).2⟩

theorem pieces_of_isWord {id : String} (h : IsWord id) : pieces (fun w => [w]) id = [id] := by
  have hnull : withoutNull id.toList = id.toList :=
    withoutNull_of_notMem fun hmem => (h.2 _ hmem).2 rfl
  have hne : id.toList ≠ [] := fun hnil => h.1 (String.toList_eq_nil_iff.mp hnil)
  rw [pieces, hnull, shellWords, Words.words_single hne fun c hc => (h.2 c hc).1]
  simp

/-- Where no word of an id is a pattern that matches paths, the shell keeps the ids of a list that
the other list lacks if they are words and no words of the other list's ids. -/
theorem kept_plain_iff :
    Kept (fun w => [w]) ids others ↔ ∀ id ∈ ids, id ∉ others →
      IsWord id ∧ ∀ k ∈ others, id ∉ pieces (fun w => [w]) k := by
  constructor
  · intro h id hid hother
    have honly := (mem_idsOnlyIn id).mpr ⟨hid, hother⟩
    obtain ⟨j, -, hword⟩ := h.word id honly
    exact ⟨isWord_of_mem_pieces hword, h.apart id honly⟩
  · intro h
    have hword : ∀ id ∈ idsOnlyIn ids others, pieces (fun w => [w]) id = [id] := by
      intro id hid
      obtain ⟨hmem, hother⟩ := (mem_idsOnlyIn id).mp hid
      exact pieces_of_isWord (h id hmem hother).1
    refine ⟨fun id hid => ⟨id, hid, by simp [hword id hid]⟩, fun id hid => ?_, fun j hj w hw => ?_⟩
    · obtain ⟨hmem, hother⟩ := (mem_idsOnlyIn id).mp hid
      exact (h id hmem hother).2
    · rw [hword j hj, List.mem_singleton] at hw
      exact .inl (hw ▸ hj)

end PlainIds

section Runs

/-- The history holds two audits of a program, of the given versions and with the given ids. -/
structure StoredPair (s : FS) (programId v1 v2 : String) (ids1 ids2 : List String) : Prop where
  program : programId ≠ ""
  version1 : v1 ≠ ""
  version2 : v2 ≠ ""
  distinct : v1 ≠ v2
  stored : ∃ doc, s.file .history = some [doc] ∧ WellFormedHistory doc ∧
    ∃ a1 a2 : StoredAudit, a1.HasIds ids1 ∧ a2.HasIds ids2 ∧
      KeyedLog.lookup versionOf (auditsOf doc) programId (some v1) = [a1.record] ∧
      KeyedLog.lookup versionOf (auditsOf doc) programId (some v2) = [a2.record]

variable {s : FS} {programId v1 v2 : String} {ids1 ids2 : List String}

theorem StoredPair.swap (h : StoredPair s programId v1 v2 ids1 ids2) :
    StoredPair s programId v2 v1 ids2 ids1 := by
  obtain ⟨doc, hdoc, hwf, a1, a2, hids1, hids2, h1, h2⟩ := h.stored
  exact ⟨h.program, h.version2, h.version1, h.distinct.symm,
    doc, hdoc, hwf, a2, a1, hids2, hids1, h2, h1⟩

theorem auditByVersion_stored {doc a : Json} {version : String}
    (hdoc : s.file .history = some [doc]) (hwf : WellFormedHistory doc)
    (hfound : KeyedLog.lookup versionOf (auditsOf doc) programId (some version) = [a]) :
    (auditByVersion programId version).run (answer .none) s = (.ok [a], s) := by
  have hout := jqAuditsOfVersion_found hwf hfound
  simp [auditByVersion, read, answer, hdoc, jqOr, jqRun, hout]

theorem severityRow_stored (a : StoredAudit) :
    severityRow [a.record] = .done ⟨a.critical, a.high, a.medium⟩ := rfl

variable (render : Json → String) (glob : String → List String)

/-- The report on two stored audits. -/
def reportOf (a1 a2 : StoredAudit) : DiffReport where
  before := ⟨a1.critical, a1.high, a1.medium⟩
  after := ⟨a2.critical, a2.high, a2.medium⟩
  newFindings := (idMap render glob [a2.record]).filter fun id =>
    decide (id ∉ idMap render glob [a1.record])
  fixedFindings := (idMap render glob [a1.record]).filter fun id =>
    decide (id ∉ idMap render glob [a2.record])

/-- The report has the words of one audit's ids that are no words of the other's. -/
theorem auditHistoryDiff_stored (h : StoredPair s programId v1 v2 ids1 ids2) :
    ∃ report, (auditHistoryDiff render glob programId v1 v2 true).run (answer .none) s =
        (.ok (0, some report), s) ∧
      (∀ w, w ∈ report.newFindings ↔
        (∃ id ∈ ids2, w ∈ pieces glob id) ∧ ¬∃ id ∈ ids1, w ∈ pieces glob id) ∧
      (∀ w, w ∈ report.fixedFindings ↔
        (∃ id ∈ ids1, w ∈ pieces glob id) ∧ ¬∃ id ∈ ids2, w ∈ pieces glob id) := by
  obtain ⟨doc, hdoc, hwf, a1, a2, hids1, hids2, h1, h2⟩ := h.stored
  have hread1 := auditByVersion_stored hdoc hwf h1
  have hread2 := auditByVersion_stored hdoc hwf h2
  have hargs : ¬ (programId = "" ∨ v1 = "" ∨ v2 = "") := by
    simp [h.program, h.version1, h.version2]
  have hthere1 : isMissing [a1.record] = false := rfl
  have hthere2 : isMissing [a2.record] = false := rfl
  refine ⟨reportOf render glob a1 a2, ?_, fun w => ?_, fun w => ?_⟩
  · rw [auditHistoryDiff, if_neg hargs, if_neg h.distinct]
    simp only [Bool.not_true, Bool.false_eq_true, if_false, bind_eq, test, bind_act, bind_done,
      run_act, answer, hdoc, Option.isSome_some, if_true]
    rw [run_bind_ok _ hread1, run_bind_ok _ hread2, hthere1, hthere2]
    simp only [Bool.false_eq_true, if_false, severityRow_stored, bind_done, pure_eq, run_done,
      reportOf]
  · rw [reportOf, List.mem_filter, decide_eq_true_iff, mem_idMap hids2, mem_idMap hids1]
  · rw [reportOf, List.mem_filter, decide_eq_true_iff, mem_idMap hids1, mem_idMap hids2]

end Runs

def sampleAudit (version : String) (ids : List String) : StoredAudit :=
  ⟨version, "2026-01-01T00:00:00Z", "auditor", "unknown", 0, 1, 0, 0, .arr (ids.map Json.str)⟩

/-- A history of one program with two audits. -/
def samplePair (ids1 ids2 : List String) : FS where
  file
    | .history => some [documentOf [("Vault111", [sampleAudit "1.0.0" ids1,
        sampleAudit "1.1.0" ids2])]]
    | _ => none
  next := 0

theorem samplePair_stored (ids1 ids2 : List String) :
    StoredPair (samplePair ids1 ids2) "Vault111" "1.0.0" "1.1.0" ids1 ids2 := by
  refine ⟨by decide, by decide, by decide, by decide, _, rfl, documentOf_wellFormed _,
    sampleAudit "1.0.0" ids1, sampleAudit "1.1.0" ids2, rfl, rfl, ?_, ?_⟩ <;>
    rw [KeyedLog.lookup, auditsOf_documentOf] <;> rfl

end SolanaAuditor.History
