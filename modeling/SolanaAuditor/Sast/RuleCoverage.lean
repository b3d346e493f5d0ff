/- SolanaAuditor/Sast/RuleCoverage
   digest: When every loaded rule is evaluated on the files it selects and counted for it. -/

import SolanaAuditor.Sast.RootSpellings

set_option autoImplicit false
set_option relaxedAutoImplicit false

namespace SolanaAuditor.Sast

open SolanaAuditor.Lib SolanaAuditor.Suggestions

section Evaluation

variable (engine : Engine) (rule : Rule) (file : SourceFile)

def Selects : Prop := ∃ glob, rule.fileGlob = .str glob ∧ engine.pathMatch file glob = .ok true

/-- The content of the file can be read, and is searched for a pattern that compiles. -/
def Evaluated : Prop :=
  ∃ content pattern found, file.content = some content ∧ rule.pattern = .str pattern ∧
    engine.finditer pattern content = .ok (some found)

/-- A match of the rule becomes a finding. -/
def Describes (rule : Rule) : Prop :=
  (∃ s, rule.severity = .str s) ∧ ∃ v, pySlice rule.description 80 = .ok v

/-- The rule goes through a content without an exception. -/
def Ends (content : String) : Prop :=
  ∃ glob selected, rule.fileGlob = .str glob ∧ engine.pathMatch file glob = .ok selected ∧
    (selected = true → ∃ pattern result, rule.pattern = .str pattern ∧
      engine.finditer pattern content = .ok result ∧ (result.getD [] ≠ [] → Describes rule))

variable {engine rule file}

theorem ends_iff {content : String} : Ends engine rule file content ↔
    ∃ found, matchesOf engine rule file content = .ok found ∧ (found ≠ [] → Describes rule) := by
  constructor
  · rintro ⟨glob, selected, hglob, hselected, hpattern⟩
    cases selected with
    | false =>
      exact ⟨[], by simp [matchesOf, hglob, hselected, bind, Except.bind, pure, Except.pure],
        fun hne => absurd rfl hne⟩
    | true =>
      obtain ⟨pattern, result, hpattern, hresult, hdescribes⟩ := hpattern rfl
      exact ⟨result.getD [], by
        simp [matchesOf, hglob, hselected, hpattern, hresult, bind, Except.bind, pure,
          Except.pure], hdescribes⟩
  · rintro ⟨found, hfound, hdescribes⟩
    unfold matchesOf at hfound
    split at hfound
    · next glob hglob =>
      obtain ⟨selected, hselected, hfound⟩ := Py.bind_eq_ok.mp hfound
      refine ⟨glob, selected, hglob, hselected, ?_⟩
      rintro rfl
      rw [if_pos rfl] at hfound
      split at hfound
      · next pattern hpattern =>
        obtain ⟨result, hresult, hfound⟩ := Py.bind_eq_ok.mp hfound
        obtain rfl := Except.ok.inj hfound
        exact ⟨pattern, result, hpattern, hresult, hdescribes⟩
      · simp at hfound
    · simp at hfound

end Evaluation

section Runs

variable {text : PyText} {engine : Engine}

variable (text) in
theorem makeFinding_returns {rule : Rule} (file : SourceFile) {m : Match} {content : String} :
    (∃ f, makeFinding text rule file m content = .ok f) ↔ Describes rule := by
  rw [Describes, ← text.uppered_returns]
  simp only [makeFinding, Py.bind_eq_ok]
  constructor
  · rintro ⟨f, severity, hseverity, shortened, hshortened, -⟩
    exact ⟨⟨severity, hseverity⟩, shortened, hshortened⟩
  · rintro ⟨⟨severity, hseverity⟩, shortened, hshortened⟩
    exact ⟨_, severity, hseverity, shortened, hshortened, rfl⟩

variable (text) in
theorem makeFindings_returns (file : SourceFile) {found : List (Rule × Match × String)} :
    (∃ fs, makeFindings text file found = .ok fs) ↔ ∀ p ∈ found, Describes p.1 := by
  induction found with
  | nil => simp [makeFindings, pure, Except.pure]
  | cons p found ih =>
    obtain ⟨rule, m, content⟩ := p
    rw [List.forall_mem_cons, ← ih, ← makeFinding_returns text file]
    simp only [makeFindings, Py.bind_eq_ok]
    constructor
    · rintro ⟨fs, f, hf, rest, hrest, -⟩
      exact ⟨⟨f, hf⟩, rest, hrest⟩
    · rintro ⟨⟨f, hf⟩, rest, hrest⟩
      exact ⟨_, f, hf, rest, hrest, rfl⟩

/-- The rules go through a content, and their matches become findings. -/
theorem detectInContent_returns {file : SourceFile} {content : String} {rules : List Rule} :
    (∃ found, detectInContent engine file content rules = .ok found ∧
      ∀ p ∈ found, Describes p.1) ↔ ∀ rule ∈ rules, Ends engine rule file content := by
  induction rules with
  | nil => simp [detectInContent, pure, Except.pure]
  | cons rule rules ih =>
    rw [List.forall_mem_cons, ← ih, ends_iff]
    simp only [detectInContent, Py.bind_eq_ok]
    constructor
    · rintro ⟨found, ⟨matched, hmatched, rest, hrest, hfound⟩, hdescribes⟩
      obtain rfl := Except.ok.inj hfound
      obtain ⟨hhead, htail⟩ := List.forall_mem_append.mp hdescribes
      refine ⟨⟨matched, hmatched, fun hne => ?_⟩, rest, hrest, htail⟩
      obtain ⟨m, hm⟩ := List.exists_mem_of_ne_nil matched hne
      exact hhead _ (List.mem_map_of_mem hm)
    · rintro ⟨⟨matched, hmatched, hrule⟩, rest, hrest, htail⟩
      refine ⟨_, ⟨matched, hmatched, rest, hrest, rfl⟩, List.forall_mem_append.mpr ⟨?_, htail⟩⟩
      intro p hp
      obtain ⟨m, hm, rfl⟩ := List.mem_map.mp hp
      exact hrule (List.ne_nil_of_mem hm)

/-- A scan ends without an exception exactly when every rule goes through every file that is read. -/
theorem runAudit_returns {rules : List Rule} {files : List SourceFile} :
    (∃ findings, runAudit text engine rules files = .ok findings) ↔
      ∀ file ∈ files, excluded file = false → ∀ content, file.content = some content →
        ∀ rule ∈ rules, Ends engine rule file content := by
  induction files with
  | nil => simp [runAudit, pure, Except.pure]
  | cons file files ih =>
    rw [List.forall_mem_cons, ← ih]
    cases hexcluded : excluded file with
    | true => simp [runAudit, hexcluded]
    | false =>
      have hfile : (∃ found, detectInFile engine file rules = .ok found ∧
          ∀ p ∈ found, Describes p.1) ↔ ∀ content, file.content = some content →
            ∀ rule ∈ rules, Ends engine rule file content := by
        cases hcontent : file.content with
        | none => simp [detectInFile, hcontent, pure, Except.pure]
        | some content => simp [detectInFile, hcontent, ← detectInContent_returns]
      simp only [true_imp_iff]
      rw [← hfile, runAudit_cons _ _ _ _ hexcluded]
      simp only [Py.bind_eq_ok, ← makeFindings_returns text file]
      constructor
      · rintro ⟨findings, made, ⟨found, hfound, hmade⟩, rest, hrest, -⟩
        exact ⟨⟨found, hfound, made, hmade⟩, rest, hrest⟩
      · rintro ⟨⟨found, hfound, made, hmade⟩, rest, hrest⟩
        exact ⟨_, made, ⟨found, hfound, hmade⟩, rest, hrest, rfl⟩

end Runs

section Verdict

variable (text : PyText) (engine : Engine) (env : Surroundings) (rules : List Rule)

/-- The run does not end with an exception, which no rule is named for; each rule is evaluated on
the files that it selects; and the numbers of the document count evaluated rules only. -/
structure Covers : Prop where
  finishes : main text engine env ≠ .raised
  evaluated : ∀ file ∈ env.files, excluded file = false → ∀ rule ∈ rules,
    Selects engine rule file → Evaluated engine rule file
  counted : ∀ doc, main text engine env = .written doc → ∃ ran : List Rule, ran.Sublist rules ∧
    (∀ rule ∈ ran, ∃ file ∈ env.files, excluded file = false ∧ Selects engine rule file ∧
      Evaluated engine rule file) ∧
    doc.get? "rules_run" = some (.int ran.length) ∧
    doc.get? "rules_requiring_manual_review" = some (.int (env.auditRulesCount - ran.length : Nat))

/-- The file can be read if the glob selects it; the glob is a pattern; the pattern compiles, and a
rule with a match can be described. -/
structure RunsOn (rule : Rule) (file : SourceFile) : Prop where
  readable : Selects engine rule file → file.content.isSome = true
  glob : file.content.isSome = true → ∃ glob selected, rule.fileGlob = .str glob ∧
    engine.pathMatch file glob = .ok selected
  pattern : Selects engine rule file → ∀ content, file.content = some content →
    ∃ pattern found, rule.pattern = .str pattern ∧
      engine.finditer pattern content = .ok (some found) ∧ (found ≠ [] → Describes rule)

/-- Every rule runs on every scanned file; where a document is written, every rule selects one. -/
structure Runnable : Prop where
  runs : ∀ file ∈ env.files, excluded file = false → ∀ rule ∈ rules, RunsOn engine rule file
  selects : env.writable = true → ∀ rule ∈ rules, ∃ file ∈ env.files, excluded file = false ∧
    Selects engine rule file

variable {text engine env rules}

theorem runsOn_iff {rule : Rule} {file : SourceFile} : RunsOn engine rule file ↔
    (∀ content, file.content = some content → Ends engine rule file content) ∧
      (Selects engine rule file → Evaluated engine rule file) := by
  constructor
  · rintro ⟨hreadable, hglob, hpattern⟩
    constructor
    · intro content hcontent
      obtain ⟨glob, selected, hglob, hselected⟩ := hglob (by rw [hcontent]; rfl)
      refine ⟨glob, selected, hglob, hselected, fun htrue => ?_⟩
      obtain ⟨pattern, found, hpattern, hfound, hdescribes⟩ :=
        hpattern ⟨glob, hglob, htrue ▸ hselected⟩ content hcontent
      exact ⟨pattern, some found, hpattern, hfound, hdescribes⟩
    · intro hselects
      obtain ⟨content, hcontent⟩ := Option.isSome_iff_exists.mp (hreadable hselects)
      obtain ⟨pattern, found, hpattern, hfound, -⟩ := hpattern hselects content hcontent
      exact ⟨content, pattern, found, hcontent, hpattern, hfound⟩
  · rintro ⟨hends, hevaluated⟩
    refine ⟨fun hselects => ?_, fun hread => ?_, fun hselects content hcontent => ?_⟩
    · obtain ⟨content, -, -, hcontent, -⟩ := hevaluated hselects
      rw [hcontent]
      rfl
    · obtain ⟨content, hcontent⟩ := Option.isSome_iff_exists.mp hread
      obtain ⟨glob, selected, hglob, hselected, -⟩ := hends content hcontent
      exact ⟨glob, selected, hglob, hselected⟩
    · obtain ⟨content', pattern, found, hcontent', hpattern, hfound⟩ := hevaluated hselects
      obtain rfl : content' = content := Option.some.inj (hcontent'.symm.trans hcontent)
      refine ⟨pattern, found, hpattern, hfound, ?_⟩
      obtain ⟨glob, hglob, hselected⟩ := hselects
      obtain ⟨glob', selected, hglob', hselected', hends⟩ := hends content' hcontent
      obtain rfl := Json.str.inj (hglob.symm.trans hglob')
      obtain rfl := Except.ok.inj (hselected.symm.trans hselected')
      obtain ⟨pattern', result, hpattern', hresult, hdescribes⟩ := hends rfl
      obtain rfl := Json.str.inj (hpattern.symm.trans hpattern')
      obtain rfl := Except.ok.inj (hfound.symm.trans hresult)
      exact hdescribes

/-- How a run ends that has rules and files. -/
def outcomeOf (text : PyText) (env : Surroundings) (rules : List Rule) :
    Py (List Finding) → Outcome
  | .error _ => .raised
  | .ok findings =>
      if env.writable then .written (document text env rules findings) else .exit 2

theorem main_scanned (text : PyText) (engine : Engine)
    (hrules : loadRules env.rulesFile = .ok (some rules)) (hexists : env.programExists = true)
    (hscanned : ∃ file ∈ env.files, excluded file = false) :
    main text engine env = outcomeOf text env rules (runAudit text engine rules env.files) := by
  obtain ⟨file, hfile, hkept⟩ := hscanned
  have hnonempty : (env.files.filter fun f => !excluded f).isEmpty = false := by
    rw [List.isEmpty_eq_false_iff]
    exact List.ne_nil_of_mem (List.mem_filter.mpr ⟨hfile, by simp [hkept]⟩)
  simp only [main, hrules, hexists, hnonempty, Bool.not_true, Bool.false_eq_true, if_false]
  rfl

theorem outcomeOf_ne_raised {scan : Py (List Finding)} :
    outcomeOf text env rules scan ≠ .raised ↔ ∃ findings, scan = .ok findings := by
  cases scan with
  | error e => simp [outcomeOf]
  | ok findings => cases hwritable : env.writable <;> simp [outcomeOf, hwritable]

theorem writable_of_written {scan : Py (List Finding)} {doc : Json}
    (h : outcomeOf text env rules scan = .written doc) : env.writable = true := by
  cases scan with
  | error e => simp [outcomeOf] at h
  | ok findings =>
    by_contra hnot
    simp [outcomeOf, hnot] at h

/-- The rules of a scan are covered exactly when they can be run. -/
theorem covers_iff_runnable (hrules : loadRules env.rulesFile = .ok (some rules))
    (hexists : env.programExists = true) (hscanned : ∃ file ∈ env.files, excluded file = false) :
    Covers text engine env rules ↔ Runnable engine env rules := by
  have hmain := main_scanned text engine hrules hexists hscanned
  have hfinishes : main text engine env ≠ .raised ↔
      ∃ findings, runAudit text engine rules env.files = .ok findings :=
    hmain ▸ outcomeOf_ne_raised
  constructor
  · rintro ⟨hfinish, hevaluated, hcounted⟩
    have hends := runAudit_returns.mp (hfinishes.mp hfinish)
    refine ⟨fun file hfile hkept rule hrule => runsOn_iff.mpr ⟨?_, ?_⟩, fun hwritable => ?_⟩
    · exact fun content hcontent => hends file hfile hkept content hcontent rule hrule
    · exact hevaluated file hfile hkept rule hrule
    · obtain ⟨findings, hfindings⟩ := hfinishes.mp hfinish
      have hwritten : main text engine env = .written (document text env rules findings) := by
        rw [hmain, hfindings]
        exact if_pos hwritable
      obtain ⟨ran, hsublist, hran, hcount, -⟩ := hcounted _ hwritten
      have hlength : ran.length = rules.length := by
        have hint : (Json.int rules.length) = .int ran.length := Option.some.inj hcount
        exact_mod_cast (Json.int.inj hint).symm
      obtain rfl := hsublist.eq_of_length hlength
      intro rule hrule
      obtain ⟨file, hfile, hkept, hselects, -⟩ := hran rule hrule
      exact ⟨file, hfile, hkept, hselects⟩
  · rintro ⟨hruns, hselects⟩
    have hevaluated : ∀ file ∈ env.files, excluded file = false → ∀ rule ∈ rules,
        Selects engine rule file → Evaluated engine rule file :=
      fun file hfile hkept rule hrule => (runsOn_iff.mp (hruns file hfile hkept rule hrule)).2
    refine ⟨hfinishes.mpr (runAudit_returns.mpr ?_), hevaluated, fun doc hdoc => ?_⟩
    · exact fun file hfile hkept content hcontent rule hrule =>
        (runsOn_iff.mp (hruns file hfile hkept rule hrule)).1 content hcontent
    · have hwritable : env.writable = true := writable_of_written (hmain ▸ hdoc)
      obtain ⟨rules', findings, hrules', -, rfl⟩ := main_written hdoc
      obtain rfl : rules = rules' := by simpa [hrules] using hrules'
      refine ⟨rules, List.Sublist.refl rules, fun rule hrule => ?_, rfl, rfl⟩
      obtain ⟨file, hfile, hkept, hselected⟩ := hselects hwritable rule hrule
      exact ⟨file, hfile, hkept, hselected, hevaluated file hfile hkept rule hrule hselected⟩

theorem covers_sampleRun : Covers PyText.ascii (scanner literalEngine.finditer)
    (sampleRun "invoke_signed(&ix)?;\n") [sampleRule] := by
  have hselects : Selects (scanner literalEngine.finditer) sampleRule
      ⟨"programs/vault/src/lib.rs", ["programs", "vault", "src", "lib.rs"],
        some "invoke_signed(&ix)?;\n"⟩ := ⟨"**/*.rs", rfl, rfl⟩
  refine (covers_iff_runnable rfl rfl ⟨_, List.mem_cons_self, rfl⟩).mpr ⟨?_, ?_⟩
  · intro file hfile _ rule hrule
    obtain rfl := List.mem_singleton.mp hfile
    obtain rfl := List.mem_singleton.mp hrule
    refine ⟨fun _ => rfl, fun _ => ⟨"**/*.rs", true, rfl, rfl⟩, fun _ content _ => ?_⟩
    exact ⟨"invoke_signed", _, rfl, rfl, fun _ => ⟨⟨"HIGH", rfl⟩, _, rfl⟩⟩
  · intro _ rule hrule
    obtain rfl := List.mem_singleton.mp hrule
    exact ⟨_, List.mem_cons_self, rfl, hselects⟩

/-- The pattern of `RULE-02` in `sast-patterns.json`; the bracket after its lookahead is not
closed. -/
def unclosedPattern : String :=
  "#\\[account\\(init\\)\\][^\x7d]*Account[^\x7d]*\\\x7b[^\x7d]*(?!#[account\\()owner\\()\\])"

def unclosedRule : Rule where
  ruleId := .str "RULE-02"
  severity := .str "HIGH"
  cwe := .str "CWE-345"
  pattern := .str unclosedPattern
  patternType := .str "regex"
  fileGlob := .str "**/*.rs"
  description := .str "Account initialized without owner constraint"
  impact := .str "Account can be initialized by anyone who knows the PDA seed"
  recommendation := .str "Add #[account(owner = program_id)] constraint"

/-- `re.finditer` raises `re.error` for this pattern. -/
def unclosedEngine : Engine :=
  scanner fun pattern content =>
    if pattern = unclosedPattern then .ok none else literalEngine.finditer pattern content

def unclosedRun : Surroundings :=
  { sampleRun "Ok(())\n" with
    rulesFile := .value (.obj [("rules", .arr [.obj [
      ("rule_id", unclosedRule.ruleId), ("severity", unclosedRule.severity),
      ("cwe", unclosedRule.cwe), ("pattern", unclosedRule.pattern),
      ("pattern_type", unclosedRule.patternType), ("file_glob", unclosedRule.fileGlob),
      ("description", unclosedRule.description), ("impact", unclosedRule.impact),
      ("recommendation", unclosedRule.recommendation)]])]) }

/-- A rule whose pattern does not compile is counted as run. -/
theorem unclosed_rule_not_covered :
    loadRules unclosedRun.rulesFile = .ok (some [unclosedRule]) ∧
      ¬ Covers PyText.ascii unclosedEngine unclosedRun [unclosedRule] ∧
      ∃ doc, main PyText.ascii unclosedEngine unclosedRun = .written doc ∧
        doc.get? "rules_run" = some (.int 1) := by
  refine ⟨rfl, fun hcovers => ?_, _, rfl, rfl⟩
  have hselects : Selects unclosedEngine unclosedRule ⟨"programs/vault/src/lib.rs",
      ["programs", "vault", "src", "lib.rs"], some "Ok(())\n"⟩ := ⟨"**/*.rs", rfl, rfl⟩
  obtain ⟨content, pattern, found, -, hpattern, hfound⟩ :=
    hcovers.evaluated _ List.mem_cons_self rfl _ List.mem_cons_self hselects
  obtain rfl : unclosedPattern = pattern := Json.str.inj hpattern
  simp [unclosedEngine, scanner] at hfound

end Verdict

end SolanaAuditor.Sast
