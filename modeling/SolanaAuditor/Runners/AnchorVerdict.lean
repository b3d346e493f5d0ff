/- SolanaAuditor/Runners/AnchorVerdict
   digest: When the exit code 0 of run-anchor-tests.py means that every test command returned 0. -/

import SolanaAuditor.Lib.Lists
import SolanaAuditor.Runners.AnchorTests

set_option autoImplicit false
set_option relaxedAutoImplicit false

namespace SolanaAuditor.Runners.AnchorTests

open SolanaAuditor.Lib SolanaAuditor.Lib.Regex

section Output

variable (chars : PyChars)

/-- The matches have no number among them, or one that is positive. -/
def Positive (found : List (List Char)) : Prop :=
  (∀ m ∈ found, chars.allDigits m = false) ∨
    ∃ m ∈ found, chars.allDigits m = true ∧ ∃ n, chars.int m = .ok n ∧ 0 < n

/-- The first of the patterns that occurs in the output has positive matches. -/
def CountsSome (output : List Char) : List (Pattern Char) → Prop
  | [] => False
  | pattern :: patterns =>
      (Occurs pattern output ∧ Positive chars (findall pattern output)) ∨
        (¬ Occurs pattern output ∧ CountsSome output patterns)

/-- The text stands in the output, its letters in any case. -/
def Mentions (mark : String) (output : List Char) : Prop :=
  ∃ a w b, output = a ++ (w ++ b) ∧
    List.Forall₂ (fun c d => chars.sameLetter c d = true) mark.toList w

/-- What the verdict takes for a failure. -/
def ShowsFailure (output : List Char) : Prop :=
  CountsSome chars output (failedPatterns chars) ∨ ∃ mark ∈ errorMarks, Mentions chars mark output

variable {chars}

theorem sumOfNumbers_pos {found : List (List Char)} {n : Nat}
    (h : sumOfNumbers chars found = .ok n) :
    0 < n ↔ ∃ m ∈ found, chars.allDigits m = true ∧ ∃ k, chars.int m = .ok k ∧ 0 < k := by
  induction found generalizing n with
  | nil =>
    obtain rfl : 0 = n := Except.ok.inj h
    simp
  | cons m found ih =>
    unfold sumOfNumbers at h
    split_ifs at h with hm
    · obtain ⟨k, hk, rest, hrest, h⟩ := by simpa only [Py.bind_eq_ok] using h
      obtain rfl : k + rest = n := Except.ok.inj h
      have hpos : 0 < k + rest ↔ 0 < k ∨ 0 < rest := by omega
      rw [hpos, ih hrest, List.exists_mem_cons_iff]
      simp [hm, hk]
    · rw [ih h, List.exists_mem_cons_iff]
      simp [hm]

theorem parseCount_pos {output : List Char} {patterns : List (Pattern Char)} {n : Nat}
    (hpatterns : ∀ re ∈ patterns, ¬ Fits re.pieces [])
    (h : parseCount chars output patterns = .ok n) :
    0 < n ↔ CountsSome chars output patterns := by
  induction patterns generalizing n with
  | nil =>
    obtain rfl : 0 = n := Except.ok.inj h
    simp [CountsSome]
  | cons re patterns ih =>
    obtain ⟨hre, hpatterns⟩ := List.forall_mem_cons.mp hpatterns
    simp only [parseCount] at h
    unfold CountsSome
    by_cases hoccurs : Occurs re output
    · have hne : findall re output ≠ [] := fun hnil => (findall_eq_nil hre).mp hnil hoccurs
      rw [if_neg (by simpa using hne)] at h
      simp only [hoccurs, true_and, not_true_eq_false, false_and, or_false]
      split_ifs at h with hdigits
      · obtain ⟨m, hm, hall⟩ := List.any_eq_true.mp hdigits
        have hsome : ¬ ∀ m ∈ findall re output, chars.allDigits m = false := by
          intro hnone
          simp [hnone m hm] at hall
        rw [sumOfNumbers_pos h, Positive, or_iff_right hsome]
      · obtain rfl : (findall re output).length = n := Except.ok.inj h
        refine iff_of_true (List.length_pos_iff.mpr hne) (Or.inl ?_)
        simpa using hdigits
    · rw [if_pos (List.isEmpty_iff.mpr ((findall_eq_nil hre).mpr hoccurs))] at h
      simp only [hoccurs, false_and, not_false_eq_true, true_and, false_or]
      exact ih hpatterns h

theorem fits_failedPatterns : ∀ re ∈ failedPatterns chars, ¬ Fits re.pieces [] := by
  intro re hre
  simp only [failedPatterns, List.mem_cons, List.not_mem_nil, or_false] at hre
  rcases hre with rfl | rfl | rfl | rfl
  · exact not_fits_nil (p := chars.isSpace) (by simp [Pattern.pieces, numberAfter, spaces1])
  · exact not_fits_nil (p := chars.isSpace) (by simp [Pattern.pieces, wordAfter, spaces1])
  · exact not_fits_nil (p := chars.isSpace) (by simp [Pattern.pieces, markedLine, spaces1])
  · exact not_fits_nil (p := chars.isSpace) (by simp [Pattern.pieces, numberBefore, spaces1])

theorem occurs_ignoringCase {mark : String} {output : List Char} :
    Occurs (ignoringCase chars mark) output ↔ Mentions chars mark output := by
  simp [Occurs, Mentions, Pattern.pieces, ignoringCase, fits_classes]

theorem parseErrors_pos {output : List Char} :
    0 < parseErrors chars output ↔ ∃ mark ∈ errorMarks, Mentions chars mark output := by
  have hmark : ∀ mark ∈ errorMarks,
      (0 < (findall (ignoringCase chars mark) output).length ↔ Mentions chars mark output) := by
    intro mark hmark
    have hfits : ¬ Fits (ignoringCase chars mark).pieces [] := by
      have hne : mark ≠ "" := by
        rintro rfl
        exact absurd hmark (by decide)
      simpa [Pattern.pieces, ignoringCase, fits_classes] using hne
    rw [List.length_pos_iff, ne_eq, findall_eq_nil hfits, not_not, occurs_ignoringCase]
  have hsum : 0 < parseErrors chars output ↔
      ∃ mark ∈ errorMarks, 0 < (findall (ignoringCase chars mark) output).length := by
    rw [parseErrors, Nat.pos_iff_ne_zero, ne_eq, List.sum_eq_zero_iff]
    simp [Nat.pos_iff_ne_zero]
  rw [hsum]
  exact exists_congr fun mark => and_congr_right (hmark mark)

end Output

section Verdict

variable (chars : PyChars) (env : Surroundings)

/-- The test command of the class returned 0. -/
def Passes (vulnClass : String) : Prop :=
  env.programExists = true ∧ ∃ stdout stderr, env.testRun vulnClass = .completed 0 stdout stderr

/-- The run of the class is reported as a failure: there is no program, or the output of the
command shows a failure. -/
def Blamed (vulnClass : String) : Prop :=
  env.programExists = false ∨ ∃ returncode stdout stderr,
    env.testRun vulnClass = .completed returncode stdout stderr ∧
    ShowsFailure chars (outputOf stdout stderr).toList

/-- The classes that a run goes through. -/
def classesOf (args : Args) : List String :=
  match args.filter with
  | some vulnClass => [vulnClass]
  | none => vulnTestPatterns.map Prod.fst

variable {chars env}

theorem runForClass_verdict {vulnClass : String} {r : TestResult}
    (hclass : (Dict.get? vulnTestPatterns vulnClass).isSome = true)
    (h : runForClass chars env vulnClass = .ok r) :
    (r.returnCode = 0 ↔ Passes env vulnClass) ∧
      (0 < r.failed ∨ 0 < r.errors ↔ Blamed chars env vulnClass) := by
  obtain ⟨patterns, hpatterns⟩ := Option.isSome_iff_exists.mp hclass
  simp only [runForClass, hpatterns] at h
  unfold Passes Blamed
  split_ifs at h with hprogram
  · obtain rfl := Except.ok.inj h
    simp only [Bool.not_eq_true'] at hprogram
    simp [hprogram]
  · simp only [Bool.not_eq_true', Bool.not_eq_false] at hprogram
    split at h
    · simp at h
    · next returncode stdout stderr hrun =>
      simp only [Py.bind_eq_ok] at h
      obtain ⟨passed, -, failed, hfailed, h⟩ := h
      obtain rfl := Except.ok.inj h
      constructor
      · simp [hprogram, hrun]
      · rw [parseCount_pos fits_failedPatterns hfailed, parseErrors_pos]
        simp [hprogram, hrun, ShowsFailure]

theorem runClasses_ok {classes : List String} {results : List TestResult} :
    runClasses chars env classes = .ok results ↔
      List.Forall₂ (fun c r => runForClass chars env c = .ok r) classes results :=
  Collects.ok_iff ⟨rfl, fun _ _ => rfl⟩

theorem resultsOf_eq (args : Args) :
    resultsOf chars env args = runClasses chars env (classesOf args) := by
  unfold resultsOf classesOf
  cases args.filter with
  | some c =>
    cases h : runForClass chars env c <;>
      simp [runClasses, h, bind, Except.bind, pure, Except.pure]
  | none => rfl

theorem main_finished {args : Args} {code : Nat} {results : List TestResult} {total : Summary}
    (h : main chars env args = .finished code results total) :
    (∀ c ∈ classesOf args, (Dict.get? vulnTestPatterns c).isSome = true) ∧
      resultsOf chars env args = .ok results ∧
      (code = 0 ↔ ∀ r ∈ results, r.failed = 0 ∧ r.errors = 0) := by
  unfold main at h
  split at h
  · simp at h
  next hfilter =>
  split at h
  · simp at h
  split at h
  · simp at h
  split at h
  · simp at h
  next results' hresults =>
  split at h
  · simp at h
  obtain ⟨rfl, rfl, rfl⟩ := Outcome.finished.inj h
  refine ⟨?_, hresults, ?_⟩
  · unfold classesOf
    cases hf : args.filter with
    | none => decide
    | some c => simpa [hf, Option.isSome_iff_ne_none] using hfilter
  · simp only [summary, ite_eq_left_iff, one_ne_zero, imp_false, not_not, Nat.add_eq_zero_iff,
      List.sum_eq_zero_iff, List.mem_map, forall_exists_index, and_imp,
      forall_apply_eq_imp_iff₂, forall_and]

/-- Without a verdict on the return codes the exit code 0 is sound exactly when they are all 0,
or when some run is blamed by its output. -/
theorem main_exit_sound_iff (chars : PyChars) (env : Surroundings) (args : Args) {code : Nat}
    {results : List TestResult} {total : Summary}
    (h : main chars env args = .finished code results total) :
    (code = 0 → ∀ r ∈ results, r.returnCode = 0) ↔
      (∀ c ∈ classesOf args, Passes env c) ∨ ∃ c ∈ classesOf args, Blamed chars env c := by
  obtain ⟨hknown, hresults, hcode⟩ := main_finished h
  rw [resultsOf_eq] at hresults
  have hruns := runClasses_ok.mp hresults
  have hpasses : (∀ c ∈ classesOf args, Passes env c) ↔ ∀ r ∈ results, r.returnCode = 0 :=
    Lists.forall_mem_iff_of_forall₂ hruns fun c hc r hr =>
      (runForClass_verdict (hknown c hc) hr).1.symm
  have hblamed : (∀ c ∈ classesOf args, ¬ Blamed chars env c) ↔
      ∀ r ∈ results, r.failed = 0 ∧ r.errors = 0 := by
    refine Lists.forall_mem_iff_of_forall₂ hruns fun c hc r hr => ?_
    rw [← (runForClass_verdict (hknown c hc) hr).2]
    omega
  rw [hcode, ← hpasses, ← hblamed]
  constructor
  · intro hsound
    by_cases hnone : ∀ c ∈ classesOf args, ¬ Blamed chars env c
    · exact Or.inl (hsound hnone)
    · exact Or.inr (by simpa using hnone)
  · rintro (hall | ⟨c, hc, hblame⟩) hnone
    · exact hall
    · exact absurd hblame (hnone c hc)

end Verdict

def overflowOnly : Args where
  filter := some "overflow"
  fuzz := 100

/-- A program whose test command returns the code and prints the text. -/
def sampleProgram (returncode : Int) (stdout : String) : Surroundings where
  programPath := "/work/programs/vault"
  programExists := true
  versionRun := .completed 0 "anchor-cli 0.30.1" ""
  testRun _ := .completed returncode stdout ""
  duration _ := 12
  outputWritable := true

theorem main_exit_sound_iff_passing :
    ∃ code results total,
      main PyChars.ascii (sampleProgram 0 "  2 passing (3s)") overflowOnly =
        .finished code results total ∧ (code = 0 → ∀ r ∈ results, r.returnCode = 0) :=
  ⟨_, _, _, rfl, (main_exit_sound_iff PyChars.ascii (sampleProgram 0 "  2 passing (3s)") overflowOnly
    rfl).mpr (Or.inl fun _ _ => ⟨rfl, _, _, rfl⟩)⟩

/-- A failing command that says so in other words exits with 0. -/
theorem main_exit_zero_on_failure :
    ∃ results total,
      main PyChars.ascii (sampleProgram 1 "2 tests passed, 3 tests failed") overflowOnly =
        .finished 0 results total ∧ results.map TestResult.returnCode = [1] :=
  ⟨_, _, rfl, rfl⟩

end SolanaAuditor.Runners.AnchorTests
