/- SolanaAuditor/Runners/QedVerdict
   digest: Which test records and which status scripts/qed-integration.sh reports. -/

import SolanaAuditor.Runners.QedIntegration

set_option autoImplicit false
set_option relaxedAutoImplicit false

namespace SolanaAuditor.Runners.QedIntegration

open SolanaAuditor.Lib
open SolanaAuditor.History (argjson jqLength jqOr)

/-- A record has the name of a program and the numbers of lines with PASS and FAIL that its tests
print. -/
structure RecordsTest (p : Program) (record : Json) : Prop where
  program : record.get? "program" = some (.str p.name)
  passed : record.get? "passed" = some (.int (linesWith "PASS" p.output).length)
  failed : record.get? "failed" = some (.int (linesWith "FAIL" p.output).length)

/-- The report has one record a program, their number, and is complete only without failures. -/
def ReportsTests (programs : List Program) (s : Files) : Prop :=
  ∃ doc records, s.report = some [doc] ∧ doc.get? "tests" = some (.arr records) ∧
    (∃ order : List Program, order.Perm programs ∧ List.Forall₂ RecordsTest order records) ∧
    doc.get? "total_tests_run" = some (.int programs.length) ∧
    (doc.get? "status" = some (.str "complete") →
      ∀ record ∈ records, ∀ n, record.get? "failed" = some (.int n) → n ≤ 0)

def passedLines (p : Program) : Nat := (linesWith "PASS" (echoed p.output)).length

def failedLines (p : Program) : Nat := (linesWith "FAIL" (echoed p.output)).length

/-- The programs whose record jq takes. -/
def Recorded (p : Program) : Prop := 0 < passedLines p ∧ 0 < failedLines p

instance (p : Program) : Decidable (Recorded p) := inferInstanceAs (Decidable (_ ∧ _))

def recordOf (p : Program) : Json :=
  testRecord p.name (.int (passedLines p)) (.int (failedLines p)) p.output

/-- The report is a running one with some tests and specs, and without errors. -/
def Running (tests specs : List Json) (s : Files) : Prop :=
  ∃ entries, s.report = some [.obj entries] ∧ Dict.get? entries "tests" = some (.arr tests) ∧
    Dict.get? entries "specs_validated" = some (.arr specs) ∧
    Dict.get? entries "errors" = some (.arr [])

section Steps

variable {env : Surroundings} {tests specs : List Json} {s : Files}

theorem rewrite_running {entries : List (String × Json)} {f : Json → JqResult Json} {doc : Json}
    (hjq : env.jqFound = true) (hreport : s.report = some [.obj entries])
    (hf : f (.obj entries) = .ok doc) :
    rewrite env (some f) s = { report := some [doc], tmp := none } := by
  simp [rewrite, hreport, jqRun, hf, jqSingle, hjq]

theorem rewrite_refused : (rewrite env none s).report = s.report := rfl

theorem appended_obj {entries : List (String × Json)} {k : String} {items : List Json} (v : Json)
    (h : Dict.get? entries k = some (.arr items)) :
    appended k v (.obj entries) = .ok (.obj (Dict.set entries k (.arr (items ++ [v])))) := by
  simp [appended, jqIndex, h, jqAdd, jqSet, bind, Except.bind]

theorem validateSpecs_running (hjq : env.jqFound = true) (h : Running tests specs s) :
    ∃ specs', Running tests specs' (validateSpecs env s) := by
  unfold validateSpecs
  induction env.specs generalizing s specs with
  | nil => exact ⟨specs, h⟩
  | cons spec rest ih =>
    obtain ⟨entries, hreport, htests, hspecs, herrors⟩ := h
    rw [List.foldl_cons, rewrite_running hjq hreport (appended_obj (specRecord spec) hspecs)]
    refine ih ⟨_, rfl, ?_, Dict.get?_set_self _ _ _, ?_⟩
    · rw [Dict.get?_set_of_ne _ _ (by decide), htests]
    · rw [Dict.get?_set_of_ne _ _ (by decide), herrors]

/-- A program adds its record if both of its counts are at least one, and nothing otherwise. -/
theorem testProgram_running (hjq : env.jqFound = true) (h : Running tests specs s) (p : Program) :
    Running (tests ++ ([p].filter fun p => decide (Recorded p)).map recordOf) specs
      (testProgram env s p) := by
  by_cases hp : Recorded p
  · obtain ⟨entries, hreport, htests, hspecs, herrors⟩ := h
    have hstep : testProgram env s p =
        rewrite env (some (appended "tests" (recordOf p))) s := by
      simp only [testProgram, grepCount_of_pos hp.1, grepCount_of_pos hp.2, argjson]
      rfl
    rw [hstep, rewrite_running hjq hreport (appended_obj (recordOf p) htests),
      List.filter_cons_of_pos (by simpa using hp)]
    refine ⟨_, rfl, Dict.get?_set_self _ _ _, ?_, ?_⟩
    · rw [Dict.get?_set_of_ne _ _ (by decide), hspecs]
    · rw [Dict.get?_set_of_ne _ _ (by decide), herrors]
  · have hstep : testProgram env s p = rewrite env none s := by
      rcases Nat.eq_zero_or_pos (passedLines p) with hpass | hpass
      · simp only [testProgram, grepCount_of_none hpass, argjson]
        rfl
      · have hfail : failedLines p = 0 := by
          by_contra hne
          exact hp ⟨hpass, Nat.pos_of_ne_zero hne⟩
        simp only [testProgram, grepCount_of_pos hpass, grepCount_of_none hfail, argjson]
        rfl
    rw [hstep, List.filter_cons_of_neg (by simpa using hp)]
    simpa [Running, rewrite_refused] using h

/-- After the tests the report has the records of the recorded programs, in order. -/
theorem runAnchorTests_running (hjq : env.jqFound = true) (hanchor : env.anchorFound = true)
    (h : Running tests specs s) :
    Running (tests ++ (env.programs.filter fun p => decide (Recorded p)).map recordOf) specs
      (runAnchorTests env s) := by
  rw [runAnchorTests, if_pos hanchor]
  induction env.programs generalizing s tests with
  | nil => simpa using h
  | cons p rest ih =>
    have hrest := ih (testProgram_running hjq h p)
    rw [List.append_assoc, ← List.map_append, ← List.filter_append, List.singleton_append] at hrest
    rw [List.foldl_cons]
    exact hrest

theorem countOf_running {entries : List (String × Json)} {k : String} {items : List Json}
    (hjq : env.jqFound = true) (hreport : s.report = some [.obj entries])
    (h : Dict.get? entries k = some (.arr items)) : countOf env k s = [.int items.length] := by
  simp [countOf, hjq, hreport, jqOr, jqRun, jqSingle, jqIndex, h, jqLength, bind, Except.bind]

/-- No test adds an error, so that the status is always `complete`. -/
theorem finalizeReport_running (hjq : env.jqFound = true) (h : Running tests specs s) :
    ∃ doc, (finalizeReport env s).report = some [doc] ∧ doc.get? "tests" = some (.arr tests) ∧
      doc.get? "total_tests_run" = some (.int tests.length) ∧
      doc.get? "status" = some (.str "complete") := by
  obtain ⟨entries, hreport, htests, hspecs, herrors⟩ := h
  have hstatus : finalStatus env s = "complete" := by
    rw [finalStatus, countOf_running hjq hreport herrors]
    rfl
  have hstep : finalizeReport env s = rewrite env (some (finalized (.int specs.length)
      (.int tests.length) "complete")) s := by
    simp only [finalizeReport, countOf_running hjq hreport hspecs,
      countOf_running hjq hreport htests, argjson, hstatus]
    rfl
  have hfinal : finalized (.int specs.length) (.int tests.length) "complete" (.obj entries) =
      .ok (.obj (Dict.set (Dict.set (Dict.set entries "total_specs_validated" (.int specs.length))
        "total_tests_run" (.int tests.length)) "status" (.str "complete"))) := rfl
  rw [hstep, rewrite_running hjq hreport hfinal]
  refine ⟨_, rfl, ?_, ?_, Dict.get?_set_self _ _ _⟩
  · rw [Json.get?_obj, Dict.get?_set_of_ne _ _ (by decide), Dict.get?_set_of_ne _ _ (by decide),
      Dict.get?_set_of_ne _ _ (by decide), htests]
  · rw [Json.get?_obj, Dict.get?_set_of_ne _ _ (by decide), Dict.get?_set_self]

end Steps

section Reports

variable (env : Surroundings) (s : Files)

theorem main_report (hjq : env.jqFound = true) (hanchor : env.anchorFound = true)
    (h : hasPrograms env = true ∨ hasSpecs env = true) :
    ∃ doc, (main env s).2.report = some [doc] ∧
      doc.get? "tests" =
        some (.arr ((env.programs.filter fun p => decide (Recorded p)).map recordOf)) ∧
      doc.get? "total_tests_run" =
        some (.int (env.programs.filter fun p => decide (Recorded p)).length) ∧
      doc.get? "status" = some (.str "complete") := by
  have hrun : (!hasPrograms env && !hasSpecs env) = false := by
    rcases h with h | h <;> simp [h]
  have hinit : ∀ n, Running [] [] { s with report := some [initReport env n] } :=
    fun n => ⟨_, rfl, rfl, rfl, rfl⟩
  have hstart : ∃ specs, Running [] specs
      (if hasSpecs env then validateSpecs env { s with
          report := some [initReport env (if hasPrograms env then env.cargoTomls else 0)] }
        else { s with
          report := some [initReport env (if hasPrograms env then env.cargoTomls else 0)] }) := by
    split
    · exact validateSpecs_running hjq (hinit _)
    · exact ⟨[], hinit _⟩
  obtain ⟨specs, hspecs⟩ := hstart
  obtain ⟨doc, hdoc, htests, hcount, hstatus⟩ :=
    finalizeReport_running hjq (runAnchorTests_running hjq hanchor hspecs)
  rw [List.nil_append] at htests hcount
  rw [List.length_map] at hcount
  refine ⟨doc, ?_, htests, hcount, hstatus⟩
  simp only [main, hrun, Bool.false_eq_true, if_false]
  exact hdoc

/-- The skipped report has no tests. -/
theorem main_skipped (h : hasPrograms env = false) (h' : hasSpecs env = false) :
    (main env s).2.report = some [skippedReport env "nothing_to_verify"] := by
  simp [main, h, h']

end Reports

/-- The report is as it should be exactly where there is no program to test, but something else to
verify: any program has no record, or one with failures in a complete report. -/
theorem reports_tests_iff (env : Surroundings) (s : Files) (hjq : env.jqFound = true)
    (hanchor : env.anchorFound = true) :
    ReportsTests env.programs (main env s).2 ↔
      env.programs = [] ∧ (hasPrograms env = true ∨ hasSpecs env = true) := by
  constructor
  · rintro ⟨doc, records, hreport, htests, ⟨order, hperm, hrecords⟩, -, hcomplete⟩
    have hsomething : hasPrograms env = true ∨ hasSpecs env = true := by
      by_contra hnone
      push Not at hnone
      rw [main_skipped env s (by simpa using hnone.1) (by simpa using hnone.2)] at hreport
      cases hreport
      simp [skippedReport] at htests
    obtain ⟨doc', hdoc', htests', -, hstatus⟩ := main_report env s hjq hanchor hsomething
    rw [hreport] at hdoc'
    cases hdoc'
    rw [htests'] at htests
    cases htests
    refine ⟨?_, hsomething⟩
    by_contra hne
    obtain ⟨p, rest, hprograms⟩ := List.exists_cons_of_ne_nil hne
    have hp : p ∈ env.programs := by simp [hprograms]
    -- as many records as programs: every program is recorded
    have hlength := hrecords.length_eq
    rw [hperm.length_eq, List.length_map, eq_comm, List.length_filter_eq_length_iff] at hlength
    have hrecorded : Recorded p := by simpa using hlength p hp
    have hrecord : recordOf p ∈
        (env.programs.filter fun p => decide (Recorded p)).map recordOf :=
      List.mem_map_of_mem (List.mem_filter.mpr ⟨hp, by simpa using hrecorded⟩)
    have hfailed := hcomplete hstatus _ hrecord (failedLines p) rfl
    have hpos := hrecorded.2
    omega
  · rintro ⟨hnone, hsomething⟩
    obtain ⟨doc, hdoc, htests, hcount, -⟩ := main_report env s hjq hanchor hsomething
    rw [hnone] at htests hcount ⊢
    exact ⟨doc, [], hdoc, htests, ⟨[], .rfl, .nil⟩, hcount, fun _ _ hrecord => by simp at hrecord⟩

/-- A repository with a spec, and with the given programs. -/
def sampleSurroundings (programs : List Program) : Surroundings where
  now := "2026-01-01T00:00:00Z"
  jqFound := true
  anchorFound := true
  specs := [⟨"vault.qedspec", false, true⟩]
  programsDir := true
  cargoTomls := programs.length
  programs := programs

def noFiles : Files := ⟨none, none⟩

theorem reports_tests_iff_specs :
    ReportsTests [] (main (sampleSurroundings []) noFiles).2 :=
  (reports_tests_iff (sampleSurroundings []) noFiles rfl rfl).mpr ⟨rfl, .inr rfl⟩

/-- `echo` prints a text that does not look like an option. -/
theorem echoed_of_plain {output rest : List Char} {c : Char} (h : captured output = c :: rest)
    (hc : c ≠ '-') : echoed output = c :: rest ++ ['\n'] := by
  rw [echoed, h, History.echoArg, String.toList_ofList]
  split
  next _ _ heq => exact absurd (List.cons.inj heq).1 hc
  next => simp

def passingProgram : Program := ⟨"vault", ['P', 'A', 'S', 'S', '\n']⟩

/-- The record of a program whose tests all pass is lost. -/
theorem passing_program_not_reported :
    ¬ ReportsTests [passingProgram] (main (sampleSurroundings [passingProgram]) noFiles).2 := by
  rintro ⟨doc, records, hreport, htests, ⟨order, hperm, hrecords⟩, -⟩
  obtain ⟨doc', hdoc', htests', -⟩ :=
    main_report (sampleSurroundings [passingProgram]) noFiles rfl rfl (.inr rfl)
  have hnone : [passingProgram].filter (fun p => decide (Recorded p)) = [] := by
    have hcaptured : captured passingProgram.output = 'P' :: ['A', 'S', 'S'] := by decide
    have hfailed : failedLines passingProgram = 0 := by
      rw [failedLines, echoed_of_plain hcaptured (by decide)]
      decide
    have hnot : ¬ Recorded passingProgram := fun h => by simp [Recorded, hfailed] at h
    rw [List.filter_cons_of_neg (by simpa using hnot), List.filter_nil]
  rw [hreport] at hdoc'
  cases hdoc'
  rw [htests', show (sampleSurroundings [passingProgram]).programs = [passingProgram] from rfl,
    hnone] at htests
  cases htests
  have hlength := hrecords.length_eq
  rw [hperm.length_eq] at hlength
  simp at hlength

end SolanaAuditor.Runners.QedIntegration
