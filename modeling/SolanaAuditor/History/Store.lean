/- SolanaAuditor/History/Store
   digest: The history document as a keyed log of audits, and the jq filters over it. -/

import SolanaAuditor.History.Jq
import SolanaAuditor.Lib.KeyedLog

set_option autoImplicit false
set_option relaxedAutoImplicit false

namespace SolanaAuditor.History

open SolanaAuditor.Lib

/-- An audit record is an object with a string as `version`. -/
def WellFormedAudit (a : Json) : Prop :=
  ∃ fields v, a = .obj fields ∧ Dict.get? fields "version" = some (.str v)

/-- A program entry is an object with a list of audit records. -/
def WellFormedProgram (p : Json) : Prop :=
  ∃ fields audits, p = .obj fields ∧ Dict.get? fields "audits" = some (.arr audits) ∧
    ∀ a ∈ audits, WellFormedAudit a

/-- A history is an object whose `programs` maps program ids to program entries. -/
def WellFormedHistory (doc : Json) : Prop :=
  ∃ top programs, doc = .obj top ∧ Dict.get? top "programs" = some (.obj programs) ∧
    ∀ pid p, Dict.get? programs pid = some p → WellFormedProgram p

def versionOf (a : Json) : Option String :=
  match a.get? "version" with
  | some (.str v) => some v
  | _ => none

/-- The keyed log that a history stands for. -/
def auditsOf (doc : Json) (pid : String) : List Json :=
  match jqAudits pid doc with
  | .ok audits => audits
  | .error _ => []

/-- The history contains an audit of the pair. -/
abbrev HasAudit (doc : Json) (pid ver : String) : Prop :=
  KeyedLog.Has versionOf (auditsOf doc) pid (some ver)

theorem WellFormedAudit.index {a : Json} (h : WellFormedAudit a) :
    ∃ v, jqIndex "version" a = .ok (.str v) ∧ versionOf a = some v := by
  obtain ⟨fields, v, rfl, hv⟩ := h
  exact ⟨v, by simp [jqIndex, hv], by simp [versionOf, hv]⟩

section Filters

variable {doc : Json} {pid : String}

private theorem program_cases (h : WellFormedHistory doc) (pid : String) :
    ∃ top programs, doc = .obj top ∧ Dict.get? top "programs" = some (.obj programs) ∧
      ((Dict.get? programs pid = none ∧ jqProgramExists pid doc = .ok (.bool false) ∧
          jqAudits pid doc = .error ()) ∨
        ∃ fields audits, Dict.get? programs pid = some (.obj fields) ∧
          Dict.get? fields "audits" = some (.arr audits) ∧
          (∀ a ∈ audits, WellFormedAudit a) ∧
          jqProgramExists pid doc = .ok (.bool true) ∧ jqAudits pid doc = .ok audits) := by
  obtain ⟨top, programs, rfl, htop, hprog⟩ := h
  refine ⟨top, programs, rfl, htop, ?_⟩
  cases hp : Dict.get? programs pid with
  | none =>
    left
    refine ⟨rfl, ?_, ?_⟩
    · simp [jqProgramExists, jqHas, jqIndex, htop, hp, bind, Except.bind, pure, Except.pure]
    · simp [jqAudits, jqIndex, htop, hp, jqIterate, bind, Except.bind]
  | some p =>
    right
    obtain ⟨fields, audits, rfl, ha, hwf⟩ := hprog pid p hp
    refine ⟨fields, audits, rfl, ha, hwf, ?_, ?_⟩
    · simp [jqProgramExists, jqHas, jqIndex, htop, hp, bind, Except.bind, pure, Except.pure]
    · simp [jqAudits, jqIndex, htop, hp, ha, jqIterate, bind, Except.bind]

private theorem jqEach_version {audits : List Json} (h : ∀ a ∈ audits, WellFormedAudit a)
    (ver : String) (out : Json → Json → Json) {g : Json → JqResult (List Json)}
    (hg : ∀ a v, jqIndex "version" a = .ok v →
      g a = .ok (if jqEqStr ver v then [out a v] else [])) :
    jqEach g audits =
      ((audits.filter (fun a => decide (versionOf a = some ver))).map
        (fun a => out a (.str ver)), true) := by
  induction audits with
  | nil => rfl
  | cons a audits ih =>
    obtain ⟨v, hi, hv⟩ := (h a (by simp)).index
    have ih := ih (fun b hb => h b (List.mem_cons_of_mem a hb))
    by_cases hver : v = ver
    · subst v
      simp [jqEach, hg a _ hi, hv, ih, jqEqStr]
    · simp [jqEach, hg a _ hi, hv, hver, ih, jqEqStr]

/-- `_jq_get_audit_by_version` prints the audits of the version, and fails on a program
that is not there. -/
theorem jqAuditsOfVersion_eq (h : WellFormedHistory doc) (pid ver : String) :
    (jqAuditsOfVersion pid ver doc).1 =
      KeyedLog.lookup versionOf (auditsOf doc) pid (some ver) ∧
    ((jqAuditsOfVersion pid ver doc).2 = false → auditsOf doc pid = []) := by
  obtain ⟨top, programs, -, -, ⟨-, -, ha⟩ | ⟨fields, audits, -, -, hwf, -, ha⟩⟩ :=
    program_cases h pid
  · simp [jqAuditsOfVersion, KeyedLog.lookup, auditsOf, ha]
  · have he := jqEach_version hwf ver (fun a _ => a)
      (g := fun a => do
        let v ← jqIndex "version" a
        return if jqEqStr ver v then [a] else [])
      (fun a v hv => by simp only [hv, bind, Except.bind, pure, Except.pure])
    simp only [jqAuditsOfVersion, ha, he, KeyedLog.lookup, auditsOf]
    simp

/-- A version that is stored is printed without a failure. -/
theorem jqAuditsOfVersion_found (h : WellFormedHistory doc) {pid ver : String} {a : Json}
    {found : List Json}
    (hfound : KeyedLog.lookup versionOf (auditsOf doc) pid (some ver) = a :: found) :
    jqAuditsOfVersion pid ver doc = (a :: found, true) := by
  obtain ⟨hout, hfail⟩ := jqAuditsOfVersion_eq h pid ver
  have hok : (jqAuditsOfVersion pid ver doc).2 = true := by
    by_contra hn
    have hempty := hfail (by simpa using hn)
    simp [KeyedLog.lookup, hempty] at hfound
  exact Prod.ext (hout.trans hfound) hok

theorem jqProgramExists_eq (h : WellFormedHistory doc) (pid : String) :
    jqProgramExists pid doc = .ok (.bool true) ∨
      (jqProgramExists pid doc = .ok (.bool false) ∧ auditsOf doc pid = []) := by
  obtain ⟨top, programs, -, -, ⟨-, he, ha⟩ | ⟨fields, audits, -, -, -, he, -⟩⟩ :=
    program_cases h pid
  · exact Or.inr ⟨he, by simp [auditsOf, ha]⟩
  · exact Or.inl he

/-- The audits of a program are records, and a program that is not there has none. -/
theorem jqAudits_cases (h : WellFormedHistory doc) (pid : String) :
    (jqAudits pid doc = .error () ∧ auditsOf doc pid = []) ∨
      (jqAudits pid doc = .ok (auditsOf doc pid) ∧
        ∀ a ∈ auditsOf doc pid, WellFormedAudit a) := by
  obtain ⟨top, programs, -, -, ⟨-, -, ha⟩ | ⟨fields, audits, -, -, hwf, -, ha⟩⟩ :=
    program_cases h pid
  · exact Or.inl ⟨ha, by simp [auditsOf, ha]⟩
  · have haudits : auditsOf doc pid = audits := by simp [auditsOf, ha]
    rw [haudits]
    exact Or.inr ⟨ha, hwf⟩

/-- `version_exists` is empty unless the pair is stored, and not empty when it is and its
version has a character other than a newline. -/
theorem nonEmptyCapture_versionExists (h : WellFormedHistory doc)
    (he : jqProgramExists pid doc = .ok (.bool true)) (ver : String) :
    (jqVersionExists pid ver doc).2 = true ∧
      (nonEmptyCapture (jqVersionExists pid ver doc).1 = true ↔
        HasAudit doc pid ver ∧ ver.toList.any (· != '\n') = true) := by
  obtain ⟨top, programs, -, -, ⟨-, he', -⟩ | ⟨fields, audits, -, -, hwf, -, ha⟩⟩ :=
    program_cases h pid
  · rw [he] at he'
    simp at he'
  · have hv := jqEach_version hwf ver (fun _ v => v)
      (g := fun a => do
        let v ← jqIndex "version" a
        return if jqEqStr ver v then [v] else [])
      (fun a v hv => by simp only [hv, bind, Except.bind, pure, Except.pure])
    simp only [jqVersionExists, ha, hv, nonEmptyCapture, printsVisible, HasAudit, KeyedLog.Has,
      auditsOf, true_and, List.any_map, List.any_filter, List.any_eq_true, Function.comp_apply,
      Bool.and_eq_true, decide_eq_true_eq]
    constructor
    · rintro ⟨a, hm, hav, hc⟩
      exact ⟨⟨a, hm, hav⟩, hc⟩
    · rintro ⟨⟨a, hm, hav⟩, hc⟩
      exact ⟨a, hm, hav, hc⟩

end Filters

/-! Either way of adding an audit appends it to the log of its program. -/

section Append

variable {doc audit : Json} {pid : String}

/-- The document is a history whose log is the old one with the audit appended. -/
def Appended (doc : Json) (pid : String) (audit doc' : Json) : Prop :=
  WellFormedHistory doc' ∧
    auditsOf doc' = Function.update (auditsOf doc) pid (auditsOf doc pid ++ [audit])

private theorem auditsOf_obj {top programs : List (String × Json)} {q : String}
    (ht : Dict.get? top "programs" = some (.obj programs)) {fields : List (String × Json)}
    (hf : Dict.get? programs q = some (.obj fields)) {audits : List Json}
    (ha : Dict.get? fields "audits" = some (.arr audits)) :
    auditsOf (.obj top) q = audits := by
  simp [auditsOf, jqAudits, jqIndex, ht, hf, ha, jqIterate, bind, Except.bind]

private theorem auditsOf_congr {top top' programs programs' : List (String × Json)} {q : String}
    (ht : Dict.get? top "programs" = some (.obj programs))
    (ht' : Dict.get? top' "programs" = some (.obj programs'))
    (hq : Dict.get? programs' q = Dict.get? programs q) :
    auditsOf (.obj top') q = auditsOf (.obj top) q := by
  simp [auditsOf, jqAudits, jqIndex, ht, ht', hq, bind, Except.bind]

/-- A history whose programs are the old ones but for one rewritten program entry. -/
private theorem appended_of_set {top top' programs fields : List (String × Json)}
    {audits : List Json}
    (ht : Dict.get? top "programs" = some (.obj programs))
    (hprog : ∀ q p, Dict.get? programs q = some p → WellFormedProgram p)
    (hold : auditsOf (.obj top) pid = audits)
    (hwf : ∀ a ∈ audits, WellFormedAudit a) (haudit : WellFormedAudit audit)
    (hf : Dict.get? fields "audits" = some (.arr (audits ++ [audit])))
    (ht' : Dict.get? top' "programs" = some (.obj (Dict.set programs pid (.obj fields)))) :
    Appended (.obj top) pid audit (.obj top') := by
  have hwf' : ∀ a ∈ audits ++ [audit], WellFormedAudit a := by
    intro a ha
    rcases List.mem_append.mp ha with ha | ha
    · exact hwf a ha
    · rw [List.mem_singleton.mp ha]
      exact haudit
  refine ⟨⟨top', _, rfl, ht', fun q p hq => ?_⟩, ?_⟩
  · by_cases hqp : q = pid
    · subst q
      rw [Dict.get?_set_self, Option.some.injEq] at hq
      exact ⟨fields, _, hq.symm, hf, hwf'⟩
    · rw [Dict.get?_set_of_ne _ _ hqp] at hq
      exact hprog q p hq
  · funext q
    by_cases hqp : q = pid
    · subst q
      rw [Function.update_self, hold]
      exact auditsOf_obj ht' (Dict.get?_set_self _ _ _) hf
    · rw [Function.update_of_ne hqp]
      exact auditsOf_congr ht ht' (Dict.get?_set_of_ne _ _ hqp)

theorem jqAppendAudit_spec (h : WellFormedHistory doc)
    (he : jqProgramExists pid doc = .ok (.bool true)) (haudit : WellFormedAudit audit) :
    ∃ doc', jqAppendAudit pid audit doc = .ok doc' ∧ Appended doc pid audit doc' := by
  have hprog : ∀ top programs, doc = .obj top →
      Dict.get? top "programs" = some (.obj programs) →
      ∀ q p, Dict.get? programs q = some p → WellFormedProgram p := by
    obtain ⟨top, programs, rfl, htop, hp⟩ := h
    rintro top' programs' ⟨⟩ ht'
    rw [htop, Option.some.injEq, Json.obj.injEq] at ht'
    exact ht' ▸ hp
  obtain ⟨top, programs, rfl, htop, ⟨-, he', -⟩ | ⟨fields, audits, hf, ha, hwf, -, hget⟩⟩ :=
    program_cases h pid
  · rw [he] at he'
    simp at he'
  · have hold : auditsOf (.obj top) pid = audits := by simp [auditsOf, hget]
    have happ := appended_of_set htop (hprog top programs rfl htop) hold hwf haudit
      (Dict.get?_set_self fields "audits" _) (Dict.get?_set_self top "programs" _)
    exact ⟨_, by simp [jqAppendAudit, jqIndex, htop, hf, ha, jqAdd, jqSet, bind, Except.bind],
      happ⟩

theorem jqAddProgram_spec (h : WellFormedHistory doc)
    (he : jqProgramExists pid doc = .ok (.bool false)) (haudit : WellFormedAudit audit) :
    ∃ doc', jqAddProgram pid audit doc = .ok doc' ∧ Appended doc pid audit doc' := by
  obtain ⟨top, programs, rfl, htop, hprog⟩ := h
  have hold : auditsOf (.obj top) pid = [] := by
    rcases jqProgramExists_eq ⟨top, programs, rfl, htop, hprog⟩ pid with h' | h'
    · rw [he] at h'
      simp at h'
    · exact h'.2
  have hfields : Dict.get? [("audits", Json.arr [audit])] "audits" =
      some (.arr ([] ++ [audit])) := by simp
  have htop' : Dict.get? [("programs", Json.obj (Dict.set programs pid (programEntry audit)))]
      "programs" = some (.obj (Dict.set programs pid (programEntry audit))) := by simp
  have happ := appended_of_set htop hprog hold (by simp) haudit hfields htop'
  exact ⟨_, by simp [jqAddProgram, jqIndex, htop, jqAdd, bind, Except.bind, pure, Except.pure],
    happ⟩

/-! A filter may also meet a document that lost or gained the program since it was last
looked at. -/

/-- The document is a history whose log is the old one but for the audits of one program. -/
def Rewritten (doc : Json) (pid : String) (audits : List Json) (doc' : Json) : Prop :=
  WellFormedHistory doc' ∧ auditsOf doc' = Function.update (auditsOf doc) pid audits

private theorem rewritten_of_set {top top' programs fields : List (String × Json)}
    {audits : List Json}
    (ht : Dict.get? top "programs" = some (.obj programs))
    (hprog : ∀ q p, Dict.get? programs q = some p → WellFormedProgram p)
    (hwf : ∀ a ∈ audits, WellFormedAudit a)
    (hf : Dict.get? fields "audits" = some (.arr audits))
    (ht' : Dict.get? top' "programs" = some (.obj (Dict.set programs pid (.obj fields)))) :
    Rewritten (.obj top) pid audits (.obj top') := by
  refine ⟨⟨top', _, rfl, ht', fun q p hq => ?_⟩, ?_⟩
  · by_cases hqp : q = pid
    · subst q
      rw [Dict.get?_set_self, Option.some.injEq] at hq
      exact ⟨fields, _, hq.symm, hf, hwf⟩
    · rw [Dict.get?_set_of_ne _ _ hqp] at hq
      exact hprog q p hq
  · funext q
    by_cases hqp : q = pid
    · subst q
      rw [Function.update_self]
      exact auditsOf_obj ht' (Dict.get?_set_self _ _ _) hf
    · rw [Function.update_of_ne hqp]
      exact auditsOf_congr ht ht' (Dict.get?_set_of_ne _ _ hqp)

/-- `.programs[$pid].audits += [$audit]` creates a program that is not there. -/
theorem jqAppendAudit_any (h : WellFormedHistory doc) (haudit : WellFormedAudit audit)
    (pid : String) :
    ∃ doc', jqAppendAudit pid audit doc = .ok doc' ∧
      Rewritten doc pid (auditsOf doc pid ++ [audit]) doc' := by
  rcases jqProgramExists_eq h pid with he | ⟨-, hnil⟩
  · exact jqAppendAudit_spec h he haudit
  · obtain ⟨top, programs, rfl, htop, hprog⟩ := h
    cases hp : Dict.get? programs pid with
    | some p =>
      obtain ⟨fields, audits, rfl, ha, -⟩ := hprog pid p hp
      have hexists : jqProgramExists pid (.obj top) = .ok (.bool true) := by
        simp [jqProgramExists, jqHas, jqIndex, htop, hp, bind, Except.bind, pure, Except.pure]
      exact jqAppendAudit_spec ⟨top, programs, rfl, htop, hprog⟩ hexists haudit
    | none =>
      have hfields : Dict.get? [("audits", Json.arr [audit])] "audits" = some (.arr [audit]) := by
        simp
      have hset := rewritten_of_set htop hprog (by simpa using haudit) hfields
        (Dict.get?_set_self top "programs" (.obj (Dict.set programs pid (programEntry audit))))
      rw [hnil, List.nil_append]
      have hrun : jqAppendAudit pid audit (.obj top) = .ok (.obj (Dict.set top "programs"
          (.obj (Dict.set programs pid (programEntry audit))))) := by
        simp [jqAppendAudit, jqIndex, htop, hp, jqAdd, jqSet, programEntry, bind, Except.bind]
      exact ⟨_, hrun, hset⟩

/-- `$p + { ($pid): … }` puts the new entry in place of one that is there. -/
theorem jqAddProgram_any (h : WellFormedHistory doc) (haudit : WellFormedAudit audit)
    (pid : String) :
    ∃ doc', jqAddProgram pid audit doc = .ok doc' ∧ Rewritten doc pid [audit] doc' := by
  obtain ⟨top, programs, rfl, htop, hprog⟩ := h
  have htop' : Dict.get? [("programs", Json.obj (Dict.set programs pid (programEntry audit)))]
      "programs" = some (.obj (Dict.set programs pid (programEntry audit))) := by simp
  have hfields : Dict.get? [("audits", Json.arr [audit])] "audits" = some (.arr [audit]) := by
    simp
  have hset := rewritten_of_set htop hprog (by simpa using haudit) hfields htop'
  exact ⟨_, by simp [jqAddProgram, jqIndex, htop, jqAdd, bind, Except.bind, pure, Except.pure],
    hset⟩

end Append

end SolanaAuditor.History
