/- SolanaAuditor/Runners/AnchorTests
   digest: run-anchor-tests.py: one test command per vulnerability class, judged by its output. -/

import SolanaAuditor.Lib.Decimal
import SolanaAuditor.Lib.Regex
import SolanaAuditor.Python

set_option autoImplicit false
set_option relaxedAutoImplicit false

namespace SolanaAuditor.Runners.AnchorTests

open SolanaAuditor.Lib SolanaAuditor.Lib.Regex

def vulnTestPatterns : List (String × List String) := [
  ("reentrancy", ["tests/reentrancy*.test.ts", "tests/callback_reentrancy*.test.ts",
    "tests/nested_cpi*.test.ts"]),
  ("overflow", ["tests/overflow*.test.ts", "tests/checked_arith*.test.ts",
    "tests/amount_bounds*.test.ts"]),
  ("access_control", ["tests/auth*.test.ts", "tests/signer*.test.ts",
    "tests/privilege*.test.ts"]),
  ("oracle_manipulation", ["tests/oracle*.test.ts", "tests/price*.test.ts",
    "tests/flash_loan*.test.ts"]),
  ("state_corruption", ["tests/discriminator*.test.ts", "tests/reinit*.test.ts",
    "tests/close*.test.ts"]),
  ("cpi_escalation", ["tests/cpi*.test.ts", "tests/invoke*.test.ts",
    "tests/remaining_accounts*.test.ts"])]

structure TestResult where
  vulnerabilityClass : String
  testFiles : List String
  passed : Nat
  failed : Nat
  errors : Nat
  durationSeconds : ℚ
  commandOutput : String
  returnCode : Int

/-! The patterns of the counters. -/

section Patterns

variable (chars : PyChars)

def word (s : String) : List (Piece Char) := s.toList.map fun c => .one (· == c)

def oneOf (marks : List Char) : Piece Char := .one (marks.contains ·)

def spaces : List (Piece Char) := [.many chars.isSpace]

def spaces1 : List (Piece Char) := [.one chars.isSpace, .many chars.isSpace]

def digits1 : List (Piece Char) :=
  [.one fun c => (chars.decimal c).isSome, .many fun c => (chars.decimal c).isSome]

def word1 : List (Piece Char) := [.one chars.isWord, .many chars.isWord]

/-- `\n\s*[marks]\s+(\w+)` -/
def markedLine (marks : List Char) : Pattern Char :=
  ⟨word "\n" ++ spaces chars ++ [oneOf marks] ++ spaces1 chars, word1 chars, []⟩

/-- `name\s+(\d+)` -/
def numberAfter (name : String) : Pattern Char := ⟨word name ++ spaces1 chars, digits1 chars, []⟩

/-- `name\s+(\w+)` -/
def wordAfter (name : String) : Pattern Char := ⟨word name ++ spaces1 chars, word1 chars, []⟩

/-- `(\d+)\s+name` -/
def numberBefore (name : String) : Pattern Char :=
  ⟨[], digits1 chars, spaces1 chars ++ word name⟩

def passedPatterns : List (Pattern Char) :=
  [markedLine chars ['✔', '✓'], numberAfter chars "passed", wordAfter chars "PASS",
    numberBefore chars "passing"]

def failedPatterns : List (Pattern Char) :=
  [numberAfter chars "failed", wordAfter chars "FAIL", markedLine chars ['✗', '✘'],
    numberBefore chars "failing"]

/-- `name` under `re.IGNORECASE` -/
def ignoringCase (name : String) : Pattern Char :=
  ⟨[], name.toList.map fun c => .one (chars.sameLetter c), []⟩

def errorMarks : List String := ["error:", "Error:", "PANIC", "AssertionError"]

end Patterns

section Counters

variable (chars : PyChars)

/-- `sum(int(m) for m in matches if m.isdigit())` -/
def sumOfNumbers : List (List Char) → Py Nat
  | [] => return 0
  | m :: found =>
      if chars.allDigits m then do
        let n ← chars.int m
        return n + (← sumOfNumbers found)
      else sumOfNumbers found

/-- The loop of `_parse_passed` and `_parse_failed`: the first pattern with a match decides. -/
def parseCount (output : List Char) : List (Pattern Char) → Py Nat
  | [] => return 0
  | pattern :: patterns =>
      let found := findall pattern output
      if found.isEmpty then parseCount output patterns
      else if found.any chars.allDigits then sumOfNumbers chars found
      else return found.length

def parsePassed (output : List Char) : Py Nat := parseCount chars output (passedPatterns chars)

def parseFailed (output : List Char) : Py Nat := parseCount chars output (failedPatterns chars)

def parseErrors (output : List Char) : Nat :=
  (errorMarks.map fun mark => (findall (ignoringCase chars mark) output).length).sum

end Counters

/-! The runs. -/

/-- How a command ends; `raised` stands for a timeout and for every other exception, none of
which is caught. -/
inductive Ending
  | completed (returncode : Int) (stdout stderr : String)
  | raised

/-- What a run of `main` finds around it. -/
structure Surroundings where
  programPath : String
  programExists : Bool
  versionRun : Ending
  testRun : String → Ending
  duration : String → ℚ
  outputWritable : Bool

structure Args where
  filter : Option String
  fuzz : Int

/-- Python's `stdout + "\n" + stderr`. -/
def outputOf (stdout stderr : String) : String := stdout ++ "\n" ++ stderr

section Run

variable (chars : PyChars) (env : Surroundings)

/-- `run_for_class`. The command is the same for every class. -/
def runForClass (vulnClass : String) : Py TestResult :=
  match Dict.get? vulnTestPatterns vulnClass with
  | none => return {
      vulnerabilityClass := vulnClass
      testFiles := []
      passed := 0
      failed := 0
      errors := 0
      durationSeconds := 0
      commandOutput := "No test patterns defined for " ++ vulnClass
      returnCode := 0 }
  | some patterns =>
      if !env.programExists then return {
        vulnerabilityClass := vulnClass
        testFiles := patterns
        passed := 0
        failed := 0
        errors := 1
        durationSeconds := 0
        commandOutput := "ERROR: Program path does not exist: " ++ env.programPath
        returnCode := 1 }
      else
        match env.testRun vulnClass with
        | .raised => .error .valueError
        | .completed returncode stdout stderr => do
            let output := outputOf stdout stderr
            let passed ← parsePassed chars output.toList
            let failed ← parseFailed chars output.toList
            return {
              vulnerabilityClass := vulnClass
              testFiles := patterns
              passed
              failed
              errors := parseErrors chars output.toList
              durationSeconds := Decimal.roundHundredth (env.duration vulnClass)
              commandOutput := String.ofList (output.toList.take 5000)
              returnCode := returncode }

def runClasses : List String → Py (List TestResult)
  | [] => return []
  | vulnClass :: classes => do
      let result ← runForClass chars env vulnClass
      return result :: (← runClasses classes)

/-- `run_all` -/
def runAll : Py (List TestResult) := runClasses chars env (vulnTestPatterns.map Prod.fst)

structure ClassFinding where
  vulnClass : String
  failed : Nat
  errors : Nat

structure Summary where
  totalTests : Nat
  totalPassed : Nat
  totalFailed : Nat
  totalErrors : Nat
  findings : List ClassFinding

def summary (results : List TestResult) : Summary where
  totalTests := results.length
  totalPassed := (results.map TestResult.passed).sum
  totalFailed := (results.map TestResult.failed).sum
  totalErrors := (results.map TestResult.errors).sum
  findings := (results.filter fun r => 0 < r.failed || 0 < r.errors).map fun r =>
    ⟨r.vulnerabilityClass, r.failed, r.errors⟩

/-- How `main` ends: with a usage error, without the anchor CLI (both before any test), by an
exception, or with an exit code and the results that it writes. -/
inductive Outcome
  | usage
  | noAnchor
  | raised
  | finished (code : Nat) (results : List TestResult) (summary : Summary)

/-- The results of the class of the filter, or of all classes. -/
def resultsOf (args : Args) : Py (List TestResult) :=
  match args.filter with
  | some vulnClass => do return [← runForClass chars env vulnClass]
  | none => runAll chars env

def main (args : Args) : Outcome :=
  if (args.filter.map fun c => (Dict.get? vulnTestPatterns c).isNone).getD false then .usage
  else
    match env.versionRun with
    | .raised => .raised
    | .completed returncode _ _ =>
        if returncode ≠ 0 then .noAnchor
        else
          match resultsOf chars env args with
          | .error _ => .raised
          | .ok results =>
              if !env.outputWritable then .raised
              else
                let totalIssues := (summary results).totalFailed + (summary results).totalErrors
                .finished (if totalIssues = 0 then 0 else 1) results (summary results)

end Run

end SolanaAuditor.Runners.AnchorTests
