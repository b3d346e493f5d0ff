/- SolanaAuditor/History/Listing
   digest: scripts/audit-history.sh: audit_history_list, and what the readers show of a session. -/

import SolanaAuditor.History.Crashes
import SolanaAuditor.History.Diff

set_option autoImplicit false
set_option relaxedAutoImplicit false

namespace SolanaAuditor.History

open SolanaAuditor.Lib SolanaAuditor.Lib.Shell

def errProgramNotFound : Nat := 3

section Defs

variable (render : Json → String)

/-- `"\(.version) (\(.timestamp))"` -/
def jqVersionLine (audit : Json) : JqResult Json := do
  let version ← jqIndex "version" audit
  let timestamp ← jqIndex "timestamp" audit
  return .str (rawValue render version ++ " (" ++ rawValue render timestamp ++ ")")

/-- `.programs[$pid].audits[] | "…"` -/
def jqVersionLines (pid : String) (doc : Json) : JqOutput :=
  match jqAudits pid doc with
  | .error _ => ([], false)
  | .ok audits => jqEach (fun a => do return [← jqVersionLine render a]) audits

/-- `"\(.key): \(.value.audits | length) audit(s)"` -/
def jqProgramLine (e : Json × Json) : JqResult Json := do
  let audits ← jqLength (← jqIndex "audits" e.2)
  return .str (rawValue render e.1 ++ ": " ++ rawValue render audits ++ " audit(s)")

/-- The lines of the entries up to the first that fails. -/
def jqProgramTexts : List (Json × Json) → JqOutput
  | [] => ([], true)
  | e :: entries =>
      match jqProgramLine render e with
      | .error _ => ([], false)
      | .ok line => let rest := jqProgramTexts entries; (line :: rest.1, rest.2)

/-- `.programs | to_entries[] | "…"` -/
def jqListPrograms (doc : Json) : JqOutput :=
  match (do jqToEntries (← jqIndex "programs" doc)) with
  | .error _ => ([], false)
  | .ok entries => jqProgramTexts render entries

/-- `jq -r … || echo ''`, as `$(…)` captures it. -/
def capturedLines (f : Json → JqOutput) (file : Option Content) : List Char :=
  captured (match file with
    | none => ['\n']
    | some docs =>
        let out := jqRun f docs
        rawText render out.1 ++ if out.2 then [] else ['\n'])

/-- `audit_history_list`: the status and what it prints. -/
def auditHistoryList (programId : String) (jqBin : Bool) : FileScript (Nat × List Char) := do
  if !jqBin then
    return (errNoJq, [])
  else if ← test .history then
    if programId = "" then
      let out := match ← read .history with
        | none => ([], false)
        | some docs => jqRun (jqListPrograms render) docs
      return (if out.2 then 0 else errJsonOp, rawText render out.1)
    else
      let versions := capturedLines render (jqVersionLines render programId) (← read .history)
      if versions = [] then
        return (errProgramNotFound, [])
      else
        return (0, versions ++ ['\n'])
  else
    return (errNoHistory, [])

/-- The line of a stored audit. -/
def versionLine (audit : Json) : Json :=
  .str (rawValue render ((audit.get? "version").getD .null) ++ " (" ++
    rawValue render ((audit.get? "timestamp").getD .null) ++ ")")

end Defs

section Lines

variable {render : Json → String} {doc : Json} {pid : String}

theorem jqVersionLine_ok {audit : Json} (h : WellFormedAudit audit) :
    jqVersionLine render audit = .ok (versionLine render audit) := by
  obtain ⟨fields, v, rfl, hv⟩ := h
  simp [jqVersionLine, versionLine, jqIndex, Json.get?, hv, bind, Except.bind, pure, Except.pure]

theorem jqVersionLines_ok {audits : List Json} (h : ∀ a ∈ audits, WellFormedAudit a) :
    jqEach (fun a => do return [← jqVersionLine render a]) audits =
      (audits.map (versionLine render), true) := by
  induction audits with
  | nil => rfl
  | cons a audits ih =>
    obtain ⟨ha, haudits⟩ := List.forall_mem_cons.mp h
    have hline : (do return [← jqVersionLine render a] : JqResult (List Json)) =
        .ok [versionLine render a] := by
      rw [jqVersionLine_ok ha]
      rfl
    simp only [jqEach, hline, ih haudits, List.map_cons, List.singleton_append]

theorem withoutNull_append (s t : List Char) :
    withoutNull (s ++ t) = withoutNull s ++ withoutNull t := List.filter_append _ _

variable (render) in
/-- A text of lines that end with a parenthesis loses its last newline, and no other. -/
theorem captured_lines {audits : List Json} (h : audits ≠ []) :
    captured (rawText render (audits.map (versionLine render))) ≠ [] ∧
      captured (rawText render (audits.map (versionLine render))) ++ ['\n'] =
        withoutNull (rawText render (audits.map (versionLine render))) := by
  obtain ⟨init, last, rfl⟩ := (List.eq_nil_or_concat audits).resolve_left h
  have hline : ∃ front, (rawValue render (versionLine render last)).toList = front ++ [')'] :=
    ⟨_, String.toList_append⟩
  obtain ⟨front, hfront⟩ := hline
  have htext : rawText render ((init.concat last).map (versionLine render)) =
      (rawText render (init.map (versionLine render)) ++ front) ++ [')'] ++ ['\n'] := by
    simp [rawText, List.flatMap_append, hfront]
  have hparen : withoutNull [')'] = [')'] := rfl
  have hnewline : withoutNull ['\n'] = ['\n'] := rfl
  rw [htext, captured, withoutNull_append, withoutNull_append, hparen, hnewline,
    List.rdropWhile_concat_pos _ _ _ (by decide), List.rdropWhile_concat_neg _ _ _ (by decide)]
  exact ⟨by simp, rfl⟩

variable (render) in
theorem capturedLines_eq (h : WellFormedHistory doc) (pid : String) :
    capturedLines render (jqVersionLines render pid) (some [doc]) =
      captured (rawText render ((auditsOf doc pid).map (versionLine render))) := by
  rcases jqAudits_cases h pid with ⟨herror, hnil⟩ | ⟨hok, hwf⟩
  · simp [capturedLines, jqRun, jqVersionLines, herror, hnil, rawText, captured, withoutNull]
  · have hlines : jqVersionLines render pid doc =
        ((auditsOf doc pid).map (versionLine render), true) := by
      simp only [jqVersionLines, hok]
      exact jqVersionLines_ok hwf
    simp [capturedLines, jqRun, hlines]

/-- What the listing of a program prints, its status before it. -/
def listed (render : Json → String) (audits : List Json) : Nat × List Char :=
  if audits = [] then (errProgramNotFound, [])
  else (0, withoutNull (rawText render (audits.map (versionLine render))))

theorem auditHistoryList_run {s : FS} (hpid : pid ≠ "") (hdoc : s.file .history = some [doc])
    (hwf : WellFormedHistory doc) :
    (auditHistoryList render pid true).run (answer .none) s =
      (.ok (listed render (auditsOf doc pid)), s) := by
  have hcaptured := capturedLines_eq render hwf pid
  by_cases hnil : auditsOf doc pid = []
  · rw [hnil] at hcaptured
    have hempty : capturedLines render (jqVersionLines render pid) (some [doc]) = [] := by
      rw [hcaptured]
      rfl
    simp [auditHistoryList, test, read, answer, hdoc, hpid, hempty, hnil, listed]
  · obtain ⟨hsome, htext⟩ := captured_lines render hnil
    rw [← hcaptured] at hsome htext
    simp [auditHistoryList, test, read, answer, hdoc, hpid, hsome, hnil, listed, htext]

end Lines

section Sessions

variable {parse : String → Option (List Json)} {log : String → List Json} {s : FS}

/-- The audits of a pair, with the status of the get that prints them. -/
def gotten (found : List Json) : Nat × List Json :=
  (if found = [] then errVersionNotFound else 0, found)

/-- What the readers say of files that hold a log. -/
structure Shows (render : Json → String) (s : FS) (log : String → List Json) : Prop where
  list : ∀ pid, pid ≠ "" → (auditHistoryList render pid true).run (answer .none) s =
    (.ok (if s.file .history = none then (errNoHistory, []) else listed render (log pid)), s)
  get : ∀ pid ver, pid ≠ "" → ver ≠ "" → (auditHistoryGet pid ver true).run (answer .none) s =
    (.ok (if s.file .history = none then (errNoHistory, [])
      else gotten (KeyedLog.lookup versionOf log pid (some ver))), s)

theorem Holds.shows (render : Json → String) (h : Holds s log)
    (hdistinct : KeyedLog.Distinct versionOf log) : Shows render s log := by
  rcases h with ⟨hnone, rfl⟩ | ⟨doc, hdoc, hwf, rfl⟩
  · constructor
    · intro pid hpid
      simp [auditHistoryList, test, answer, hnone]
    · intro pid ver hpid hver
      simp [auditHistoryGet, hpid, hver, test, answer, hnone]
  · have hexists : s.file .history ≠ none := by simp [hdoc]
    constructor
    · intro pid hpid
      rw [auditHistoryList_run hpid hdoc hwf, if_neg hexists]
    · intro pid ver hpid hver
      rw [auditHistoryGet_run hpid hver hdoc hwf rfl (hdistinct.lookup_length pid (some ver)),
        if_neg hexists]
      rfl

theorem addCall_distinct (c : AddCall) (h : KeyedLog.Distinct versionOf log) :
    KeyedLog.Distinct versionOf (addCall parse log c) := by
  unfold addCall
  split
  · exact h
  · exact h.add _ _

theorem foldl_addCall_distinct (calls : List AddCall) (h : KeyedLog.Distinct versionOf log) :
    KeyedLog.Distinct versionOf (calls.foldl (addCall parse) log) := by
  induction calls generalizing log with
  | nil => exact h
  | cons c calls ih => exact ih (addCall_distinct c h)

end Sessions

end SolanaAuditor.History
