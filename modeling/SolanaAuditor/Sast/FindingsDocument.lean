/- SolanaAuditor/Sast/FindingsDocument
   digest: Whether audit-fix-suggestions.py accepts the document of run-sast.py. -/

import SolanaAuditor.Sast.RunSast

set_option autoImplicit false
set_option relaxedAutoImplicit false

namespace SolanaAuditor.Sast

open SolanaAuditor.Lib SolanaAuditor.Suggestions

/-- The rule has a match in the file: it can be read, the glob selects it, and the pattern
compiles and is found. -/
def Fires (engine : Engine) (rule : Rule) (file : SourceFile) : Prop :=
  ∃ content glob pattern found m, file.content = some content ∧ rule.fileGlob = .str glob ∧
    engine.pathMatch file glob = .ok true ∧ rule.pattern = .str pattern ∧
    engine.finditer pattern content = .ok (some found) ∧ m ∈ found

/-- No rule of the rules file has a match in a file that is not left out. -/
def Silent (engine : Engine) (env : Surroundings) : Prop :=
  ∀ rules, loadRules env.rulesFile = .ok (some rules) →
    ∀ file ∈ env.files, excluded file = false → ∀ rule ∈ rules, ¬ Fires engine rule file

section Scan

variable {text : PyText} {engine : Engine}

/-- A rule that is run over a file without an exception finds nothing unless it fires. -/
theorem matchesOf_eq_nil {rule : Rule} {file : SourceFile} {content : String} {found : List Match}
    (hcontent : file.content = some content)
    (h : matchesOf engine rule file content = .ok found) : found = [] ↔ ¬ Fires engine rule file := by
  unfold matchesOf at h
  split at h
  · next glob hglob =>
    obtain ⟨selected, hselected, h⟩ := Py.bind_eq_ok.mp h
    cases selected with
    | false =>
      obtain rfl : [] = found := by simpa [pure, Except.pure] using h
      refine iff_of_true rfl ?_
      rintro ⟨_, glob', _, _, _, -, hglob', hmatch, -⟩
      rw [hglob, Json.str.injEq] at hglob'
      subst hglob'
      simp [hselected] at hmatch
    | true =>
      simp only [if_true] at h
      split at h
      · next pattern hpattern =>
        obtain ⟨matched, hmatched, h⟩ := Py.bind_eq_ok.mp h
        obtain rfl : matched.getD [] = found := by simpa [pure, Except.pure] using h
        have hfires : Fires engine rule file ↔ ∃ m, m ∈ matched.getD [] := by
          constructor
          · rintro ⟨content', _, pattern', found', m, hcontent', -, -, hpattern', hfound', hm⟩
            rw [hcontent, Option.some.injEq] at hcontent'
            rw [hpattern, Json.str.injEq] at hpattern'
            subst hcontent' hpattern'
            rw [hmatched, Except.ok.injEq] at hfound'
            exact ⟨m, by simpa [hfound'] using hm⟩
          · rintro ⟨m, hm⟩
            cases matched with
            | none => simp at hm
            | some found =>
              exact ⟨content, glob, pattern, found, m, hcontent, hglob, hselected, hpattern,
                hmatched, hm⟩
        rw [hfires, List.eq_nil_iff_forall_not_mem, not_exists]
      · simp at h
  · simp at h

theorem detectInContent_eq_nil {file : SourceFile} {content : String} {rules : List Rule}
    {found : List (Rule × Match × String)} (hcontent : file.content = some content)
    (h : detectInContent engine file content rules = .ok found) :
    found = [] ↔ ∀ rule ∈ rules, ¬ Fires engine rule file := by
  induction rules generalizing found with
  | nil =>
    obtain rfl : [] = found := by simpa [detectInContent, pure, Except.pure] using h
    simp
  | cons rule rules ih =>
    simp only [detectInContent, Py.bind_eq_ok] at h
    obtain ⟨matched, hmatched, rest, hrest, h⟩ := h
    obtain rfl := Except.ok.inj h
    rw [List.append_eq_nil_iff, List.map_eq_nil_iff, matchesOf_eq_nil hcontent hmatched, ih hrest,
      List.forall_mem_cons]

theorem detectInFile_eq_nil {file : SourceFile} {rules : List Rule}
    {found : List (Rule × Match × String)} (h : detectInFile engine file rules = .ok found) :
    found = [] ↔ ∀ rule ∈ rules, ¬ Fires engine rule file := by
  unfold detectInFile at h
  split at h
  · next content hcontent => exact detectInContent_eq_nil hcontent h
  · next hcontent =>
    refine iff_of_true (Except.ok.inj h).symm fun rule _ => ?_
    rintro ⟨content, _, _, _, _, hsome, -⟩
    simp [hcontent] at hsome

theorem makeFindings_eq_nil {file : SourceFile} {found : List (Rule × Match × String)}
    {findings : List Finding} (h : makeFindings text file found = .ok findings) :
    findings = [] ↔ found = [] := by
  cases found with
  | nil =>
    obtain rfl : [] = findings := by simpa [makeFindings, pure, Except.pure] using h
    simp
  | cons p found =>
    simp only [makeFindings, Py.bind_eq_ok] at h
    obtain ⟨finding, -, rest, -, h⟩ := h
    obtain rfl := Except.ok.inj h
    simp

/-- A scan that ends without an exception has no finding exactly when no rule fires. -/
theorem runAudit_eq_nil {rules : List Rule} {files : List SourceFile} {findings : List Finding}
    (h : runAudit text engine rules files = .ok findings) :
    findings = [] ↔ ∀ file ∈ files, excluded file = false → ∀ rule ∈ rules,
      ¬ Fires engine rule file := by
  induction files generalizing findings with
  | nil =>
    obtain rfl : [] = findings := by simpa [runAudit, pure, Except.pure] using h
    simp
  | cons file files ih =>
    rw [List.forall_mem_cons]
    unfold runAudit at h
    cases hexcluded : excluded file with
    | true =>
      rw [hexcluded, if_pos rfl] at h
      simpa using ih h
    | false =>
      simp only [hexcluded, Bool.false_eq_true, if_false, Py.bind_eq_ok] at h
      obtain ⟨found, hfound, made, hmade, rest, hrest, h⟩ := h
      obtain rfl := Except.ok.inj h
      rw [List.append_eq_nil_iff, makeFindings_eq_nil hmade, detectInFile_eq_nil hfound, ih hrest]
      simp

theorem main_written {env : Surroundings} {doc : Json} (h : main text engine env = .written doc) :
    ∃ rules findings, loadRules env.rulesFile = .ok (some rules) ∧
      runAudit text engine rules env.files = .ok findings ∧ doc = document text env rules findings := by
  unfold main at h
  split at h
  · simp at h
  · simp at h
  · next rules hrules =>
    split at h
    · simp at h
    split at h
    · simp at h
    split at h
    · simp at h
    · next findings hfindings =>
      split at h
      · exact ⟨rules, findings, hrules, hfindings, (Outcome.written.inj h).symm⟩
      · simp at h

end Scan

/-- A finding of the document lacks the rule that caught it, whatever the finding. -/
theorem validateFinding_asdict (f : Finding) :
    validateFinding (asdict f) =
      .error (.validation "Finding missing required fields: ['rule_caught']") := rfl

/-- The document of a scan is accepted only without findings, and rejected at its first one. -/
theorem validateFindingsJson_document (text : PyText) (env : Surroundings) (rules : List Rule)
    (findings : List Finding) :
    validateFindingsJson (document text env rules findings) =
      if findings = [] then .ok ()
      else .error (.validation
        "Finding at index 0: Finding missing required fields: ['rule_caught']") := by
  cases findings with
  | nil => rfl
  | cons f findings =>
    have hloop : validateFindingsJson (document text env rules (f :: findings)) =
        validateFindings 0 ((f :: findings).map asdict) := rfl
    rw [hloop, List.map_cons, validateFindings, validateFinding_asdict]
    rfl

/-- The written document is accepted exactly when no rule fires. -/
theorem document_accepted_iff (text : PyText) (engine : Engine) (env : Surroundings) {doc : Json}
    (h : main text engine env = .written doc) :
    validateFindingsJson doc = .ok () ↔ Silent engine env := by
  obtain ⟨rules, findings, hrules, hfindings, rfl⟩ := main_written h
  have hsilent : Silent engine env ↔ findings = [] := by
    rw [runAudit_eq_nil hfindings]
    constructor
    · exact fun hs => hs rules hrules
    · intro hs rules' hrules'
      rw [hrules, Except.ok.injEq, Option.some.injEq] at hrules'
      subst hrules'
      exact hs
  rw [hsilent, validateFindingsJson_document]
  by_cases hnil : findings = [] <;> simp [hnil]

/-- The matches of a pattern without special characters, from a position on. -/
def literalSearch (pattern : String) : Nat → List Char → List Match
  | _, [] => []
  | i, c :: s =>
      if pattern.toList.isPrefixOf (c :: s) then ⟨i, pattern⟩ :: literalSearch pattern (i + 1) s
      else literalSearch pattern (i + 1) s

def literalEngine : Engine where
  pathMatch _ _ := .ok true
  finditer pattern content := .ok (some (literalSearch pattern 0 content.toList))

def sampleRun (content : String) : Surroundings where
  rulesFile := .value (.obj [("rules", .arr [.obj [
    ("rule_id", .str "RULE-04"), ("severity", .str "HIGH"), ("cwe", .str "CWE-862"),
    ("pattern", .str "invoke_signed"), ("pattern_type", .str "regex"),
    ("file_glob", .str "**/*.rs"), ("description", .str "Unchecked CPI"),
    ("impact", .str "Privilege escalation"), ("recommendation", .str "Check the program id")]])])
  auditRulesCount := 50
  programPath := "programs"
  programExists := true
  files := [{
    path := "programs/vault/src/lib.rs"
    parts := ["programs", "vault", "src", "lib.rs"]
    content := some content }]
  timestamp := "2025-01-01T00:00:00+00:00"
  writable := true

theorem silent_sampleRun : Silent literalEngine (sampleRun "Ok(())\n") := by
  intro rules hrules
  obtain rfl := Option.some.inj (Except.ok.inj hrules)
  refine (runAudit_eq_nil (?_ : runAudit PyText.ascii literalEngine _ _ = .ok [])).mp rfl
  rfl

theorem document_accepted_iff_sample :
    ∃ doc, main PyText.ascii literalEngine (sampleRun "Ok(())\n") = .written doc ∧
      validateFindingsJson doc = .ok () :=
  ⟨_, rfl, (document_accepted_iff PyText.ascii literalEngine _ rfl).mpr silent_sampleRun⟩

theorem document_with_match_rejected :
    ∃ doc, main PyText.ascii literalEngine (sampleRun "invoke_signed(&ix)?;\n") = .written doc ∧
      validateFindingsJson doc = .error (.validation
        "Finding at index 0: Finding missing required fields: ['rule_caught']") :=
  ⟨_, rfl, rfl⟩

end SolanaAuditor.Sast
