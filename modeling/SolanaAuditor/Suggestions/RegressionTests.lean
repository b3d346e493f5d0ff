/- SolanaAuditor/Suggestions/RegressionTests
   digest: The tests that fix_regression.py generates, and the runner that lists them. -/

import SolanaAuditor.Suggestions.OutputFiles

set_option autoImplicit false
set_option relaxedAutoImplicit false

namespace SolanaAuditor.Suggestions

open SolanaAuditor.Lib

section Generators

/-! A generator has a header line, fixed comment lines, and functions whose names end in a fixed
suffix. `statements` stands for the statements of the function with a suffix: nothing is spliced
into them. -/

structure TestTemplate where
  comments : List String
  suffixes : List String

/-- `generators` of `generate_regression_test`. -/
def generators : List (String × TestTemplate) := [
  ("VULN-01", {
    comments := [
      "Tests that admin_withdraw REJECTS calls where admin field is not a signer.",
      "Vulnerable code: admin is AccountInfo — no is_signer check.",
      "Fixed code: admin is Signer<'info> — Anchor enforces at deserialization."]
    suffixes := ["_rejects_non_signer"] }),
  ("VULN-04", {
    comments := [
      "Tests that drain_vault REJECTS calls where destination is attacker-controlled.",
      "Vulnerable code: no authority signer, no has_one constraint.",
      "Fixed code: authority: Signer<'info> + #[account(has_one = authority)]."]
    suffixes := ["_rejects_attacker_destination"] }),
  ("VULN-05", {
    comments := [
      "Tests that deposit REJECTS overflow amounts.",
      "Vulnerable code: unchecked `+` wraps silently in release mode.",
      "Fixed code: checked_add returns error on overflow."]
    suffixes := ["_overflow_rejected", "_u64_max_edge_case"] }),
  ("VULN-03", {
    comments := [
      "Tests that exec_callback REJECTS calls to arbitrary programs.",
      "Vulnerable code: no program allowlist, user passes target_program directly.",
      "Fixed code: validates against allowlist or uses Program<'info, KnownProgram>."]
    suffixes := ["_rejects_arbitrary_program"] }),
  ("VULN-06", {
    comments := [
      "Tests that initialize() REJECTS reinit on an already-initialized account.",
      "Vulnerable code: no #[account] on VaultState — no discriminator written/checked.",
      "Fixed code: #[account] + Account<'info, VaultState> enforces 8-byte discriminator."]
    suffixes := ["_reinit_blocked"] }),
  ("VULN-07", {
    comments := [
      "Tests that calc_shares REJECTS zero-share results from truncation.",
      "Vulnerable code: `/` truncates, small deposits get 0 shares silently.",
      "Fixed code: checked_div + minimum share threshold enforcement."]
    suffixes := ["_minimum_share_enforced"] }),
  ("VULN-09", {
    comments := [
      "Tests that failed CPI calls PROPAGATE error, not succeed silently.",
      "Vulnerable code: `let _ = invoke(...)` discards result.",
      "Fixed code: `invoke(...)` uses `?` to propagate errors."]
    suffixes := ["_cpi_error_propagates"] }),
  ("VULN-02", {
    comments := [
      "Tests that initialize uses canonical bump from ctx.bumps, not hardcoded literal.",
      "Vulnerable code: `let bump = 254;` — non-canonical bump enables PDA collision.",
      "Fixed code: `let bump = ctx.bumps.vault;` — Anchor returns canonical bump."]
    suffixes := ["_canonical_bump_used"] })]

def genericTemplate : TestTemplate where
  comments := ["Generic test stub. Implement finding-specific assertions."]
  suffixes := ["_fix_verified"]

def templateOf (findingId : String) : TestTemplate :=
  (Dict.get? generators findingId).getD genericTemplate

variable (text : PyText) (statements : String → String)

def functionName (findingId suffix : String) : String := "test_" ++ text.lower findingId ++ suffix

/-- The functions that the test of a finding declares. -/
def functionNames (findingId : String) : List String :=
  (templateOf findingId).suffixes.map (functionName text findingId)

def functionText (findingId suffix : String) : String :=
  "#[tokio::test]\nasync fn " ++ functionName text findingId suffix ++ "() \x7b\n" ++
    statements suffix ++ "\x7d\n"

def regressionTestText (findingId ruleId severity : String) : String :=
  let template := templateOf findingId
  let title := findingId ++ " (" ++ severity ++ ")" ++
    if (Dict.get? generators findingId).isSome then "" else " — Rule " ++ ruleId
  "// REGRESSION TEST: " ++ title ++ "\n" ++
    String.join (template.comments.map fun c => "// " ++ c ++ "\n") ++ "\n" ++
    "\n".intercalate (template.suffixes.map (functionText text statements findingId))

end Generators

section Runner

/-- `path.name` -/
def PosixPath.name (path : PosixPath) : String :=
  match path.segments.getLast? with
  | some (.down name) => name
  | some .up => ".."
  | none => ""

/-- `path.stem`, from the name: what stands before its last dot, unless that is at an end. -/
def stem (name : String) : String :=
  let after := (name.toList.reverse.takeWhile (· != '.')).length
  if after + 1 < name.toList.length ∧ 0 < after then
    String.ofList (name.toList.take (name.toList.length - after - 1))
  else name

def individualTests (testFiles : List PosixPath) : List PosixPath :=
  testFiles.filter fun f => f.name != combinedFilename

/-- The names in the `mod` lines of the runner. -/
def combinedModules (testFiles : List PosixPath) : List String :=
  (individualTests testFiles).map fun f => "test_" ++ stem f.name

def unlines (lines : List String) : String := String.join (lines.map (· ++ "\n"))

def runnerTitle : List String := [
  "// COMBINED REGRESSION TEST RUNNER",
  "// Auto-generated by audit-fix-suggestions.py --regression",
  "//",
  "// Runs all finding-specific regression tests.",
  "// Each test fails on vulnerable code and passes on fixed code.",
  "//",
  "// Individual tests:"]

def runnerUsage : List String := [
  "//",
  "// Usage:",
  "//   anchor test tests/regression/test_all_regressions.rs",
  "//   cargo test --manifest-path tests/regression/Cargo.toml"]

def runnerSuite : List String := [
  "",
  "// Run all regression tests:",
  "// cargo test --manifest-path tests/regression/Cargo.toml",
  "",
  "#[cfg(test)]",
  "mod regression_suite \x7b",
  "    // This module aggregates all finding-specific regression tests above.",
  "    // Run `anchor test` or `cargo test` to execute all.",
  "\x7d"]

def genCombinedRegressionTest (testFiles : List PosixPath) : String :=
  let testModules := "\n".intercalate
    ((combinedModules testFiles).map fun m => "    mod " ++ m ++ ";")
  let testDoc := "\n".intercalate
    ((individualTests testFiles).map fun f => "//   - " ++ f.name)
  unlines runnerTitle ++ testDoc ++ "\n" ++ unlines runnerUsage ++ "\n" ++ testModules ++ "\n" ++
    unlines runnerSuite

theorem takeWhile_reverse_dot (base : List Char) :
    ((base ++ ".rs".toList).reverse.takeWhile (· != '.')) = "sr".toList := by
  simp

/-- The stem of a Rust file. -/
theorem stem_rs {base : String} (hne : base ≠ "") : stem (base ++ ".rs") = base := by
  have hlength : 0 < base.toList.length :=
    List.length_pos_of_ne_nil fun h => hne (String.toList_injective (by rw [h]; rfl))
  unfold stem
  simp only [String.toList_append]
  rw [takeWhile_reverse_dot]
  have hafter : "sr".toList.length = 2 := by decide
  have hrs : ".rs".toList.length = 3 := by decide
  rw [if_pos (by simp only [List.length_append, hafter, hrs]; omega)]
  refine String.toList_injective ?_
  rw [String.toList_ofList, List.length_append, hafter, hrs,
    show base.toList.length + 3 - 2 - 1 = base.toList.length from by omega, List.take_left]

end Runner

section Identifiers

/-- An ASCII identifier of Rust. No keyword starts with `test_`, as all generated names do. -/
def rustIdent (name : String) : Bool :=
  match name.toList with
  | [] => false
  | c :: rest => (c.isAlpha || c == '_') && rest.all (fun d => d.isAlphanum || d == '_') &&
      !(c == '_' && rest.isEmpty)

end Identifiers

section Ids

/-- On ASCII texts `lower()` is that of ASCII. -/
def AsciiLower (text : PyText) : Prop :=
  ∀ s : String, (∀ c ∈ s.toList, c.toNat < 128) → text.lower s = PyText.ascii.lower s

theorem isAlphanum_lt {c : Char} (h : c.isAlphanum = true) : c.toNat < 128 := by
  have hle : ∀ d : Char, d.toNat < 128 → c.val ≤ d.val → c.toNat < 128 := fun d hd h =>
    lt_of_le_of_lt (UInt32.le_iff_toNat_le.mp h) hd
  rcases (Bool.or_eq_true _ _).mp h with hletter | hdigit
  · rcases (Bool.or_eq_true _ _).mp hletter with hupper | hlower
    · exact hle 'Z' (by decide) (of_decide_eq_true hupper).2
    · exact hle 'z' (by decide) (of_decide_eq_true ((Bool.and_eq_true _ _).mp hlower).2)
  · exact hle '9' (by decide) (of_decide_eq_true ((Bool.and_eq_true _ _).mp hdigit).2)

theorem isIdOrBreak_lt {c : Char} (h : isIdOrBreak c = true) : c.toNat < 128 := by
  simp only [isIdOrBreak, isIdChar, Bool.or_eq_true, beq_iff_eq] at h
  rcases h with ((halphanum | rfl) | rfl) | rfl
  · exact isAlphanum_lt halphanum
  · decide
  · decide
  · decide

/-- What holds of the first 128 characters that an id can have holds of all that it can have. -/
theorem of_isIdOrBreak {P : Char → Prop}
    (h : ∀ n < 128, isIdOrBreak (Char.ofNat n) = true → P (Char.ofNat n)) {c : Char}
    (hc : isIdOrBreak c = true) : P c := by
  have hP := h c.toNat (isIdOrBreak_lt hc)
  rw [Char.ofNat_toNat] at hP
  exact hP hc

end Ids

end SolanaAuditor.Suggestions
