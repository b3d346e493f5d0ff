/- SolanaAuditor/Fixes/VerificationRuns
   digest: What the steps of fix-verification.sh print and how they end. -/

import SolanaAuditor.Fixes.FindingsQuery

set_option autoImplicit false
set_option relaxedAutoImplicit false

namespace SolanaAuditor.Fixes

open SolanaAuditor.Lib SolanaAuditor.Lib.Shell

/-! What the arguments ask for. -/

/-- The four options that choose steps. -/
def stepFlags : List String := ["--build", "--test", "--poc", "--full"]

def requestsBuild (args : List String) : Prop := "--build" ∈ args ∨ "--full" ∈ args

/-- `--test` is the default. -/
def requestsTest (args : List String) : Prop :=
  "--test" ∈ args ∨ "--full" ∈ args ∨ ¬ ("--build" ∈ args ∨ "--poc" ∈ args)

def requestsPoc (args : List String) : Prop := "--poc" ∈ args ∨ "--full" ∈ args

instance (args : List String) : Decidable (requestsBuild args) := inferInstanceAs (Decidable (_ ∨ _))
instance (args : List String) : Decidable (requestsTest args) := inferInstanceAs (Decidable (_ ∨ _))
instance (args : List String) : Decidable (requestsPoc args) := inferInstanceAs (Decidable (_ ∨ _))

def BuildFails (p : Project) : Prop := p.anchorToml = true ∧ p.anchorBuild.succeeded = false

def TestFails (p : Project) (id : String) : Prop :=
  p.anchorToml = true ∧ (p.anchorTestGrep id).succeeded = false ∧ p.anchorTest.succeeded = false

/-- There is a PoC file, or a status other than `none` and `pending`. -/
def pocFound (p : Project) (id : String) : Bool :=
  p.pocFile (p.lower id ++ ".md") ||
    match p.findingsJson with
    | some file => p.jqFound && pocStatus p file id != "none" && pocStatus p file id != "pending"
    | none => false

instance (p : Project) : Decidable (BuildFails p) := inferInstanceAs (Decidable (_ ∧ _))

instance (p : Project) (id : String) : Decidable (TestFails p id) :=
  inferInstanceAs (Decidable (_ ∧ _))

/-! Every script here ends in one way and appends to the output. -/

section Runs

variable {α β : Type}

/-- The script ends so, whatever was printed before, and prints these lines. -/
def Runs (x : VerifyScript α) (e : Ending α) (lines : List String) : Prop :=
  ∀ printed, x.run output printed = (e, printed ++ lines)

theorem Runs.done (a : α) : Runs (.done a) (.ok a) [] := fun printed => by simp

theorem Runs.print (line : String) : Runs (print line) (.ok ()) [line] := fun _ => rfl

theorem Runs.bind {x : VerifyScript α} {f : α → VerifyScript β} {a : α} {e : Ending β}
    {l m : List String} (hx : Runs x (.ok a) l) (hf : Runs (f a) e m) :
    Runs (x.bind f) e (l ++ m) := by
  intro printed
  rw [run_bind_ok _ (hx printed), hf, List.append_assoc]

theorem Runs.bind_error {x : VerifyScript α} {f : α → VerifyScript β} {n : Nat}
    {l : List String} (hx : Runs x (.error n) l) : Runs (x.bind f) (.error n) l := by
  intro printed
  rw [run_bind, hx]

theorem Runs.printAll (lines : List String) : Runs (printAll lines) (.ok ()) lines := by
  induction lines with
  | nil => exact Runs.done ()
  | cons line lines ih => exact (Runs.print line).bind ih

theorem Runs.exit (code : Nat) : Runs (.exit code : VerifyScript α) (.error code) [] :=
  fun printed => by simp

theorem exists_runs (x : VerifyScript α) : ∃ e lines, Runs x e lines := by
  induction x with
  | done a => exact ⟨_, _, Runs.done a⟩
  | exit code => exact ⟨_, _, Runs.exit code⟩
  | act line k ih =>
    obtain ⟨e, lines, h⟩ := ih ()
    refine ⟨e, line :: lines, fun printed => ?_⟩
    rw [run_act]
    exact (h _).trans (by simp [output])

/-- A script that goes on to return a value. -/
def Returns (x : VerifyScript α) (a : α) : Prop := ∃ lines, Runs x (.ok a) lines

theorem Returns.done (a : α) : Returns (.done a) a := ⟨[], Runs.done a⟩

theorem Returns.print (line : String) : Returns (print line) () := ⟨[line], Runs.print line⟩

theorem Returns.printAll (lines : List String) : Returns (printAll lines) () :=
  ⟨lines, Runs.printAll lines⟩

theorem Returns.bind {x : VerifyScript α} {f : α → VerifyScript β} {a : α} {b : β}
    (hx : Returns x a) (hf : Returns (f a) b) : Returns (x.bind f) b :=
  ⟨_, hx.choose_spec.bind hf.choose_spec⟩

/-- A script that ends the shell with a code. -/
def Fails (x : VerifyScript α) (code : Nat) : Prop := ∃ lines, Runs x (.error code) lines

theorem Fails.bind {x : VerifyScript α} {f : α → VerifyScript β} {code : Nat}
    (hx : Fails x code) : Fails (x.bind f) code :=
  ⟨_, hx.choose_spec.bind_error⟩

theorem Returns.bind_fails {x : VerifyScript α} {f : α → VerifyScript β} {a : α} {code : Nat}
    (hx : Returns x a) (hf : Fails (f a) code) : Fails (x.bind f) code :=
  ⟨_, hx.choose_spec.bind hf.choose_spec⟩

/-- The script prints some lines and goes on as another one. -/
def Leads (x y : VerifyScript α) : Prop :=
  ∃ lines, ∀ printed, x.run output printed = y.run output (printed ++ lines)

theorem Leads.refl (x : VerifyScript α) : Leads x x := ⟨[], fun printed => by simp⟩

theorem Returns.leads {x : VerifyScript α} {f : α → VerifyScript β} {a : α} {y : VerifyScript β}
    (hx : Returns x a) (hf : Leads (f a) y) : Leads (x.bind f) y := by
  obtain ⟨l, hl⟩ := hx
  obtain ⟨m, hm⟩ := hf
  exact ⟨l ++ m, fun printed => by rw [run_bind_ok _ (hl printed), hm, List.append_assoc]⟩

theorem Leads.runs {x y : VerifyScript α} (h : Leads x y) {e : Ending α} {lines : List String}
    (hy : Runs y e lines) : ∃ before, Runs x e (before ++ lines) := by
  obtain ⟨l, hl⟩ := h
  exact ⟨l, fun printed => by rw [hl, hy, List.append_assoc]⟩

theorem Leads.trans {x y z : VerifyScript α} (hxy : Leads x y) (hyz : Leads y z) : Leads x z := by
  obtain ⟨l, hl⟩ := hxy
  obtain ⟨m, hm⟩ := hyz
  exact ⟨l ++ m, fun printed => by rw [hl, hm, List.append_assoc]⟩

theorem Returns.ite {c : Prop} [Decidable c] {x y : VerifyScript α} {a : α}
    (hx : c → Returns x a) (hy : ¬ c → Returns y a) : Returns (if c then x else y) a := by
  by_cases hc : c
  · rw [if_pos hc]
    exact hx hc
  · rw [if_neg hc]
    exact hy hc

end Runs

section Steps

variable (p : Project) (id : String)

theorem checkPrerequisites_returns : ∃ status, Returns (checkPrerequisites p) status := by
  cases ha : p.anchorFound with
  | false =>
    refine ⟨1, (Returns.print _).bind ?_⟩
    rw [ha]
    exact (Returns.print _).bind (Returns.done 1)
  | true =>
    cases hs : p.solanaFound with
    | false =>
      refine ⟨1, (Returns.print _).bind ?_⟩
      rw [ha, hs]
      exact (Returns.print _).bind (Returns.done 1)
    | true =>
      refine ⟨0, (Returns.print _).bind ?_⟩
      rw [ha, hs]
      cases p.bcFound with
      | false => exact (Returns.printAll _).bind ((Returns.print _).bind (Returns.done 0))
      | true => exact (Returns.print _).bind (Returns.done 0)

theorem verifyBuild_returns : Returns (verifyBuild p id) (if BuildFails p then 1 else 0) := by
  refine (Returns.print _).bind ((Returns.print _).bind ?_)
  cases ha : p.anchorToml with
  | false =>
    have h : ¬ BuildFails p := by simp [BuildFails, ha]
    rw [if_neg h]
    exact (Returns.print _).bind ((Returns.print _).bind (Returns.done 0))
  | true =>
    refine (Returns.printAll _).bind ?_
    cases hs : p.anchorBuild.succeeded with
    | false =>
      have h : BuildFails p := ⟨ha, hs⟩
      rw [if_pos h]
      exact (Returns.print _).bind (Returns.done 1)
    | true =>
      have h : ¬ BuildFails p := by simp [BuildFails, hs]
      rw [if_neg h]
      exact (Returns.print _).bind (Returns.done 0)

theorem verifyTest_returns : Returns (verifyTest p id) (if TestFails p id then 1 else 0) := by
  refine (Returns.print _).bind ((Returns.print _).bind ?_)
  cases ha : p.anchorToml with
  | false =>
    have h : ¬ TestFails p id := by simp [TestFails, ha]
    rw [if_neg h]
    exact (Returns.print _).bind ((Returns.print _).bind (Returns.done 0))
  | true =>
    refine (Returns.printAll _).bind ?_
    cases hg : (p.anchorTestGrep id).succeeded with
    | true =>
      have h : ¬ TestFails p id := by simp [TestFails, hg]
      rw [if_neg h]
      exact (Returns.print _).bind (Returns.done 0)
    | false =>
      refine (Returns.print _).bind ((Returns.printAll _).bind ?_)
      cases hs : p.anchorTest.succeeded with
      | false =>
        have h : TestFails p id := ⟨ha, hg, hs⟩
        rw [if_pos h]
        exact (Returns.print _).bind (Returns.done 1)
      | true =>
        have h : ¬ TestFails p id := by simp [TestFails, hs]
        rw [if_neg h]
        exact (Returns.print _).bind (Returns.done 0)

theorem verifyPoc_returns :
    Returns (verifyPoc p id) (if pocFound p id = false then 1 else 0) := by
  refine (Returns.print _).bind ((Returns.print _).bind ?_)
  cases hf : p.pocFile (p.lower id ++ ".md") with
  | true =>
    refine Returns.ite (fun _ => ?_) (fun h => absurd hf h)
    have h : pocFound p id = true := by simp [pocFound, hf]
    rw [if_neg (by simp [h])]
    exact (Returns.print _).bind ((Returns.print _).bind (Returns.done 0))
  | false =>
    refine Returns.ite (fun h => by simp [hf] at h) (fun _ => ?_)
    have hpoc : pocFound p id = true ↔
        (match p.findingsJson with
          | some file => if p.jqFound then pocStatus p file id else "none"
          | none => "none") ≠ "none" ∧
        (match p.findingsJson with
          | some file => if p.jqFound then pocStatus p file id else "none"
          | none => "none") ≠ "pending" := by
      cases hfile : p.findingsJson with
      | none => simp [pocFound, hf, hfile]
      | some file => cases hjq : p.jqFound <;> simp [pocFound, hf, hfile, hjq]
    refine Returns.ite (fun h => ?_) (fun h => ?_)
    · rw [if_neg (by simp [hpoc.mpr h])]
      exact (Returns.print _).bind (Returns.done 0)
    · rw [if_pos (Bool.eq_false_iff.mpr (mt hpoc.mp h))]
      exact (Returns.print _).bind ((Returns.print _).bind (Returns.done 1))

/-- A jq assignment goes on exactly when the query succeeds. -/
theorem jqCapture_runs (file : FindingsFile) {out : Json → JqResult Json}
    (hout : ∀ x, IsFinding id x → ∃ v, out x = .ok v) :
    (QuerySucceeds file → ∃ text, Returns (jqCapture p file id out) text) ∧
      (¬ QuerySucceeds file → ∃ code ∈ [2, 5], Fails (jqCapture p file id out) code) := by
  obtain ⟨hok, hfail⟩ := jqStatus_query file id hout
  constructor
  · intro hq
    refine ⟨capture ((jqRun (findingsQuery id out) file.docs).1.map p.jqRaw), ?_⟩
    simp only [jqCapture, hok hq, errexit, if_true, bind_eq, bind_done]
    exact Returns.done _
  · intro hq
    refine ⟨_, hfail hq, [], fun printed => ?_⟩
    have hne : file.jqStatus (jqRun (findingsQuery id out) file.docs).2 ≠ 0 := by
      intro h0
      have := hfail hq
      simp [h0] at this
    simp [jqCapture, errexit, hne]

theorem fieldOr_ok (k : String) (default x : Json) : ∃ v, fieldOr k default x = .ok v := ⟨_, rfl⟩

theorem cvssAfterOr_ok (k : String) (x : Json) : ∃ v, cvssAfterOr k x = .ok v := ⟨_, rfl⟩

/-- The CVSS step only prints, as long as its queries succeed. -/
theorem verifyCvssRecalculation_returns
    (hq : ∀ file, p.findingsJson = some file → p.jqFound = true → QuerySucceeds file) :
    Returns (verifyCvssRecalculation p id) () := by
  refine (Returns.print _).bind ((Returns.print _).bind ?_)
  cases hfile : (if p.jqFound then p.findingsJson else none) with
  | none => exact Returns.print _
  | some file =>
    have hq : QuerySucceeds file := by
      cases hjq : p.jqFound with
      | false => simp [hjq] at hfile
      | true =>
        rw [hjq, if_pos rfl] at hfile
        exact hq file hfile hjq
    have hcap : ∀ {out : Json → JqResult Json}, (∀ x, ∃ v, out x = .ok v) →
        ∃ text, Returns (jqCapture p file id out) text :=
      fun hout => (jqCapture_runs p id file fun x _ => hout x).1 hq
    obtain ⟨cvssBefore, h1⟩ := hcap (fieldOr_ok "cvss" (.int 0))
    obtain ⟨severity, h2⟩ := hcap (fieldOr_ok "severity" (.str "UNKNOWN"))
    obtain ⟨rule, h3⟩ := hcap (fieldOr_ok "rule_caught" (.str "UNKNOWN"))
    obtain ⟨cvssAfter, h4⟩ := hcap (cvssAfterOr_ok "score")
    obtain ⟨cvssAfterVector, h5⟩ := hcap (cvssAfterOr_ok "vector")
    have hremediation : Returns (showRemediation p file id cvssBefore) () := by
      refine Returns.ite (fun _ => ?_) (fun _ => Returns.printAll _)
      refine h4.bind (h5.bind ((Returns.printAll _).bind ?_))
      refine Returns.ite (fun _ => ?_) (fun _ => Returns.done ())
      exact Returns.ite (fun _ => Returns.print _) (fun _ => Returns.printAll _)
    have hmath : Returns (verifyCvssMath p) () := by
      unfold verifyCvssMath
      cases p.severityScript with
      | none => exact Returns.done ()
      | some script =>
        refine (Returns.print _).bind ((Returns.print _).bind ((Returns.printAll _).bind ?_))
        exact Returns.ite (fun _ => Returns.print _) (fun _ => Returns.print _)
    exact h1.bind (h2.bind (h3.bind ((Returns.printAll _).bind (hremediation.bind hmath))))

/-- A query that fails ends the shell with jq's own status. -/
theorem verifyCvssRecalculation_fails {file : FindingsFile} (hfile : p.findingsJson = some file)
    (hjq : p.jqFound = true) (hq : ¬ QuerySucceeds file) :
    ∃ code ∈ [2, 5], Fails (verifyCvssRecalculation p id) code := by
  obtain ⟨code, hcode, hrun⟩ :=
    (jqCapture_runs p id file fun x _ => fieldOr_ok "cvss" (.int 0) x).2 hq
  refine ⟨code, hcode, (Returns.print _).bind_fails ((Returns.print _).bind_fails ?_)⟩
  simp only [hjq, hfile, if_true]
  exact hrun.bind

end Steps

section Summary

def verdictLines (id : String) (failed : Bool) : List String :=
  ["", separatorLine, ""] ++
    if failed then
      ["Some verification checks FAILED", "", "Please review the failed checks above.",
        "Do NOT mark " ++ id ++ " as fixed until all checks pass."]
    else
      ["All verification checks PASSED", "", "The fix for " ++ id ++ " has been verified.",
        "Update findings.json status to 'Fixed' and record verification timestamp."]

/-- The whole summary: its title, one row for each requested step, and its verdict. -/
def summaryLines (p : Project) (args : List String) (id : String) : List String :=
  [separatorLine, "", "Verification Summary for " ++ id, ""] ++
    (if requestsBuild args then
      [(if BuildFails p then "[FAIL] " else "[PASS] ") ++ "anchor build"] else []) ++
    (if requestsTest args then
      [(if TestFails p id then "[FAIL] " else "[PASS] ") ++ "anchor test"] else []) ++
    (if requestsPoc args then
      [if pocFound p id then "[PASS] PoC verification"
        else "[WARN] PoC verification (skipped or no PoC)"] else []) ++
    verdictLines id (decide (requestsBuild args ∧ BuildFails p ∨ requestsTest args ∧ TestFails p id))

/-- A first counted row ends the shell. -/
theorem anchorRow_first (name : String) (result : Nat) :
    ∃ mark, Runs (anchorRow true name result (0, 0)) (.error 1) ["[" ++ mark ++ name] := by
  by_cases h : result = 0
  · exact ⟨"PASS] ", fun printed => by simp [anchorRow, h, countRow, logPass, print, output]⟩
  · exact ⟨"FAIL] ", fun printed => by simp [anchorRow, h, countRow, logFail, print, output]⟩

theorem summarize_uncounted {o : Options} (buildResult testResult pocResult : Nat)
    (hbuild : o.runBuild = false) (htest : o.runTest = false)
    (hpoc : o.runPoc = true → pocResult ≠ 0) :
    Runs (summarize o buildResult testResult pocResult) (.error 0)
      ([separatorLine, "", "Verification Summary for " ++ o.findingId, ""] ++
        (if o.runPoc then ["[WARN] PoC verification (skipped or no PoC)"] else []) ++
        verdictLines o.findingId false) := by
  intro printed
  cases hp : o.runPoc with
  | false =>
    simp [summarize, summaryRows, anchorRow, pocRow, hbuild, htest, hp, separator, print, output,
      verdictLines]
  | true =>
    simp [summarize, summaryRows, anchorRow, pocRow, hbuild, htest, hp, hpoc hp, separator, print,
      logWarn, output, verdictLines]

/-- In any other summary the first counted row is the last line. -/
theorem summarize_counted {o : Options} (buildResult testResult pocResult : Nat)
    (h : o.runBuild = true ∨ o.runTest = true ∨ o.runPoc = true ∧ pocResult = 0) :
    ∃ lines row, Runs (summarize o buildResult testResult pocResult) (.error 1)
      (lines ++ ["[" ++ row]) := by
  have hrows : ∃ row, Runs (summaryRows o buildResult testResult pocResult) (.error 1)
      ["[" ++ row] := by
    cases hb : o.runBuild with
    | true =>
      obtain ⟨mark, hrow⟩ := anchorRow_first "anchor build" buildResult
      exact ⟨mark ++ "anchor build", by
        simpa [summaryRows, hb, String.append_assoc] using hrow.bind_error⟩
    | false =>
      cases ht : o.runTest with
      | true =>
        obtain ⟨mark, hrow⟩ := anchorRow_first "anchor test" testResult
        exact ⟨mark ++ "anchor test", by
          simpa [summaryRows, anchorRow, hb, ht, String.append_assoc] using hrow.bind_error⟩
      | false =>
        obtain ⟨hp, h0⟩ : o.runPoc = true ∧ pocResult = 0 := by simpa [hb, ht] using h
        exact ⟨"PASS] PoC verification", fun printed => by
          simp [summaryRows, anchorRow, pocRow, hb, ht, hp, h0, countRow, logPass, print, output]⟩
  obtain ⟨row, hrow⟩ := hrows
  exact ⟨[separatorLine, "", "Verification Summary for " ++ o.findingId, ""], row,
    (Runs.print _).bind ((Runs.print _).bind ((Runs.print _).bind ((Runs.print _).bind
      hrow.bind_error)))⟩

theorem summarize_code {o : Options} {buildResult testResult pocResult : Nat} {e : Ending Nat}
    {lines : List String} (h : Runs (summarize o buildResult testResult pocResult) e lines) :
    e = .error 0 ∨ e = .error 1 := by
  by_cases hc : o.runBuild = true ∨ o.runTest = true ∨ o.runPoc = true ∧ pocResult = 0
  · obtain ⟨init, row, hr⟩ := summarize_counted buildResult testResult pocResult hc
    exact Or.inr (congrArg Prod.fst ((h []).symm.trans (hr [])))
  · simp only [not_or, not_and, Bool.not_eq_true] at hc
    have hr := summarize_uncounted buildResult testResult pocResult hc.1 hc.2.1 hc.2.2
    exact Or.inl (congrArg Prod.fst ((h []).symm.trans (hr [])))

theorem verdictLines_last (id : String) (failed : Bool) :
    ∃ line, (verdictLines id failed).getLast? = some line ∧ line.toList.head? ≠ some '[' := by
  cases failed with
  | true =>
    exact ⟨"Do NOT mark " ++ id ++ " as fixed until all checks pass.", rfl, by simp⟩
  | false =>
    exact ⟨"Update findings.json status to 'Fixed' and record verification timestamp.", rfl,
      by decide⟩

/-- An output that stops at a row does not end with the summary. -/
theorem summaryLines_not_suffix (p : Project) (flags : List String) (id : String)
    (lines : List String) (row : String) :
    ¬ summaryLines p flags id <:+ lines ++ ["[" ++ row] := by
  rintro ⟨before, h⟩
  obtain ⟨line, hlast, hne⟩ := verdictLines_last id
    (decide (requestsBuild flags ∧ BuildFails p ∨ requestsTest flags ∧ TestFails p id))
  have hl := congrArg List.getLast? h
  rw [summaryLines, ← List.append_assoc, List.getLast?_append, hlast] at hl
  obtain rfl : line = "[" ++ row := by simpa using hl
  exact hne (by simp)

end Summary

section Arguments

def Options.set (o : Options) (flags : List String) : Options :=
  { o with
    runBuild := o.runBuild || decide ("--build" ∈ flags)
    runTest := o.runTest || decide ("--test" ∈ flags)
    runPoc := o.runPoc || decide ("--poc" ∈ flags)
    runFull := o.runFull || decide ("--full" ∈ flags) }

theorem parseArgs_flags (o : Options) (flags rest : List String)
    (h : ∀ a ∈ flags, a ∈ stepFlags) :
    parseArgs o (flags ++ rest) = parseArgs (o.set flags) rest := by
  induction flags generalizing o with
  | nil => simp [Options.set]
  | cons a flags ih =>
    have ih := fun o => ih o fun b hb => h b (List.mem_cons_of_mem a hb)
    have ha := h a (by simp)
    simp only [stepFlags, List.mem_cons, List.not_mem_nil, or_false] at ha
    rcases ha with rfl | rfl | rfl | rfl <;>
      simp [parseArgs, ih, Options.set]

def chosen (flags : List String) (id : String) : Options :=
  { runBuild := decide (requestsBuild flags)
    runTest := decide (requestsTest flags)
    runPoc := decide (requestsPoc flags)
    runFull := decide ("--full" ∈ flags)
    findingId := id }

theorem parseArgs_chosen {before after : List String} {id : String}
    (hdash : id.toList.head? ≠ some '-') (hflags : ∀ a ∈ before ++ after, a ∈ stepFlags) :
    ∃ o, parseArgs noOptions (before ++ id :: after) = .done o ∧
      o.findingId = id ∧ o.resolve = chosen (before ++ after) id := by
  have hne : ∀ a : String, a.toList.head? = some '-' → id ≠ a := by
    rintro a ha rfl
    exact hdash ha
  have hid' : parseArgs (noOptions.set before) (id :: after) =
      parseArgs { noOptions.set before with findingId := id } after := by
    rw [parseArgs, if_neg (hne "--build" rfl), if_neg (hne "--test" rfl), if_neg (hne "--poc" rfl),
      if_neg (hne "--full" rfl), if_neg (by simp [hne "--help" rfl, hne "-h" rfl]), if_neg hdash]
    rfl
  have hafter := parseArgs_flags { noOptions.set before with findingId := id } after []
    fun a ha => hflags a (List.mem_append_right _ ha)
  refine ⟨Options.set { noOptions.set before with findingId := id } after, ?_, rfl, ?_⟩
  · rw [parseArgs_flags _ _ _ fun a ha => hflags a (List.mem_append_left _ ha), hid']
    rw [List.append_nil] at hafter
    exact hafter
  · by_cases hb : "--build" ∈ before ++ after <;> by_cases ht : "--test" ∈ before ++ after <;>
      by_cases hp : "--poc" ∈ before ++ after <;> by_cases hf : "--full" ∈ before ++ after <;>
      simp [Options.resolve, Options.set, noOptions, chosen, requestsBuild, requestsTest,
        requestsPoc, ← Bool.decide_or, ← List.mem_append, hb, ht, hp, hf]

end Arguments

section Main

variable {p : Project} {before after : List String} {id : String}

/-- A step that is asked for returns 1 when its check fails, and 0 otherwise. -/
theorem step_returns (requested : Bool) {verify : VerifyScript Nat} {failed : Prop}
    [Decidable failed] (h : Returns verify (if failed then 1 else 0)) :
    Returns (step requested verify) (if requested = true ∧ failed then 1 else 0) := by
  cases requested with
  | false =>
    rw [if_neg (by simp)]
    exact Returns.done 0
  | true =>
    have hone : (if true = true ∧ failed then 1 else 0) = if failed then 1 else 0 := by simp
    rw [hone]
    refine h.bind ?_
    by_cases hf : failed
    · rw [if_pos hf]
      exact Returns.done 1
    · rw [if_neg hf]
      exact Returns.done 0

/-- `main` up to the lookup of the finding. -/
theorem main_leads (hid : id ≠ "") (hdash : id.toList.head? ≠ some '-')
    (hflags : ∀ a ∈ before ++ after, a ∈ stepFlags) :
    Leads (main p (before ++ id :: after))
      (if findFinding p id ≠ 0 then (logFail "Finding not found").bind fun _ => .exit 2
        else verifyFinding p (chosen (before ++ after) id)) := by
  obtain ⟨o, hparse, rfl, hres⟩ := parseArgs_chosen hdash hflags
  obtain ⟨status, hpre⟩ := checkPrerequisites_returns p
  have hfid : o.resolve.findingId = o.findingId := by rw [hres]; rfl
  simp only [main, hparse, bind_eq, bind_done, hid, if_false, hfid, ← hres]
  exact (Returns.printAll _).leads (hpre.leads ((Returns.print _).leads ((Returns.print _).leads
    (Leads.refl _))))

/-- The steps of a finding that was found lead to its summary, if the CVSS step returns. -/
theorem verifyFinding_leads (o : Options)
    (hq : Returns (verifyCvssRecalculation p o.findingId) ()) :
    Leads (verifyFinding p o)
      (summarize o (if o.runBuild = true ∧ BuildFails p then 1 else 0)
        (if o.runTest = true ∧ TestFails p o.findingId then 1 else 0)
        (if o.runPoc = true ∧ pocFound p o.findingId = false then 1 else 0)) := by
  have hbuild := step_returns o.runBuild (verifyBuild_returns p o.findingId)
  have htest := step_returns o.runTest (verifyTest_returns p o.findingId)
  have hpoc := step_returns o.runPoc (verifyPoc_returns p o.findingId)
  exact (Returns.print _).leads (hbuild.leads (htest.leads (hpoc.leads (hq.leads (Leads.refl _)))))

theorem verifyFinding_fails (o : Options) {code : Nat}
    (hq : Fails (verifyCvssRecalculation p o.findingId) code) :
    Fails (verifyFinding p o) code :=
  (Returns.print _).bind_fails ((step_returns _ (verifyBuild_returns p _)).bind_fails
    ((step_returns _ (verifyTest_returns p _)).bind_fails
      ((step_returns _ (verifyPoc_returns p _)).bind_fails hq.bind)))

end Main

end SolanaAuditor.Fixes
