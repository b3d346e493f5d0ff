/- SolanaAuditor/Suggestions/Confidence
   digest: The tables of fix_constants.py and the scoring of fix_confidence.py. -/

import SolanaAuditor.Lib.Decimal
import SolanaAuditor.Python

set_option autoImplicit false
set_option relaxedAutoImplicit false

namespace SolanaAuditor

open SolanaAuditor.Lib SolanaAuditor.Lib.Decimal

namespace FloatValue

def scale (x : FloatValue) (q : ℚ) : FloatValue :=
  match x with
  | .finite r => .finite (r * q)
  | x => x

def sub : FloatValue → FloatValue → FloatValue
  | .finite r, .finite s => .finite (r - s)
  | .nan, _ | _, .nan => .nan
  | .posInf, .posInf | .negInf, .negInf => .nan
  | .posInf, _ | _, .negInf => .posInf
  | .negInf, _ | _, .posInf => .negInf

def roundTenth : FloatValue → FloatValue
  | .finite r => .finite (Decimal.roundTenth r)
  | x => x

/-- `max(1.0, x)`, which is 1.0 unless `x` compares greater. -/
def maxOne : FloatValue → FloatValue
  | .finite r => .finite (if 1 < r then r else 1)
  | .posInf => .posInf
  | .negInf | .nan => .finite 1

end FloatValue

namespace Suggestions

/-! The tables of `fix_constants.py`. -/

def scriptVersion : String := "2.0.0"

def tierAThreshold : ℚ := 90 / 100
def tierBThreshold : ℚ := 60 / 100

def ruleBaseRates : List (String × ℚ) := [
  ("Rule 1", 85 / 100), ("Rule 2", 95 / 100), ("Rule 3", 95 / 100), ("Rule 4", 90 / 100),
  ("Rule 5", 85 / 100), ("Rule 6", 98 / 100), ("Rule 7", 95 / 100), ("Rule 8", 98 / 100),
  ("Rule 9", 80 / 100), ("Rule 10", 95 / 100), ("Rule 11", 95 / 100), ("Rule 12", 90 / 100),
  ("Rule 13", 75 / 100), ("Rule 14", 90 / 100), ("Rule 15", 95 / 100), ("Rule 16", 85 / 100),
  ("Rule 17", 95 / 100), ("Rule 18", 98 / 100), ("Rule 19", 90 / 100), ("Rule 20", 80 / 100),
  ("Rule 21", 85 / 100), ("Rule 22", 85 / 100), ("Rule 23", 95 / 100), ("Rule 24", 95 / 100),
  ("Rule 25", 80 / 100), ("Rule 26", 60 / 100)]

def fixTypes : List (String × String) := [
  ("Rule 2", "constraint_addition"), ("Rule 3", "pda_canonicalization"),
  ("Rule 6", "arithmetic_safety"), ("Rule 7", "architectural_refactor"),
  ("Rule 8", "validation_check"), ("Rule 10", "arithmetic_safety"), ("Rule 11", "state_guard"),
  ("Rule 14", "state_guard"), ("Rule 15", "validation_check"),
  ("Rule 16", "architectural_refactor"), ("Rule 17", "constraint_addition"),
  ("Rule 18", "arithmetic_safety"), ("Rule 19", "constraint_addition"),
  ("Rule 21", "state_guard"), ("Rule 22", "state_guard"), ("Rule 23", "validation_check"),
  ("Rule 24", "validation_check"), ("Rule 25", "validation_check"),
  ("Rule 26", "architectural_refactor")]

def rulePokerRisk : List (String × String) := [
  ("Rule 2", "LOW"), ("Rule 3", "LOW"), ("Rule 4", "MEDIUM"), ("Rule 5", "MEDIUM"),
  ("Rule 6", "LOW"), ("Rule 7", "MEDIUM"), ("Rule 8", "LOW"), ("Rule 9", "HIGH"),
  ("Rule 10", "LOW"), ("Rule 11", "LOW"), ("Rule 12", "LOW"), ("Rule 13", "HIGH"),
  ("Rule 14", "MEDIUM"), ("Rule 15", "LOW"), ("Rule 16", "HIGH"), ("Rule 17", "LOW"),
  ("Rule 18", "LOW"), ("Rule 19", "LOW"), ("Rule 20", "MEDIUM"), ("Rule 21", "MEDIUM"),
  ("Rule 22", "MEDIUM"), ("Rule 23", "LOW"), ("Rule 24", "LOW"), ("Rule 25", "MEDIUM"),
  ("Rule 26", "HIGH")]

def ruleEffortMinutes : List (String × Nat) := [
  ("Rule 2", 5), ("Rule 3", 3), ("Rule 4", 10), ("Rule 5", 15), ("Rule 6", 2), ("Rule 7", 10),
  ("Rule 8", 5), ("Rule 9", 30), ("Rule 10", 2), ("Rule 11", 3), ("Rule 12", 5), ("Rule 13", 30),
  ("Rule 14", 15), ("Rule 15", 5), ("Rule 16", 60), ("Rule 17", 3), ("Rule 18", 2),
  ("Rule 19", 5), ("Rule 20", 10), ("Rule 21", 15), ("Rule 22", 15), ("Rule 23", 3),
  ("Rule 24", 5), ("Rule 25", 20), ("Rule 26", 60)]

def ruleNames : List (String × String) := [
  ("Rule 1", "Anchor Program Entry Point"), ("Rule 2", "Account Validation Constraints"),
  ("Rule 3", "PDA Canonical Bump"), ("Rule 4", "CPI Safety"),
  ("Rule 5", "Token Program Distinction"), ("Rule 6", "Arithmetic Overflow"),
  ("Rule 7", "Account Closing"), ("Rule 8", "Signer Verification"),
  ("Rule 9", "Upgrade Authority"), ("Rule 10", "Error Handling"),
  ("Rule 11", "Reinitialization Attacks"), ("Rule 12", "Rent and Lamport Safety"),
  ("Rule 13", "Flash Loan Attack Surface"), ("Rule 14", "Reentrancy Guard"),
  ("Rule 15", "remaining_accounts Validation"), ("Rule 16", "Discriminator Collision"),
  ("Rule 17", "AccountLoader vs Account"), ("Rule 18", "Borsh Deserialization Panic"),
  ("Rule 19", "Anchor verify/address Constraint"), ("Rule 20", "Token-2022 Extension Ordering"),
  ("Rule 21", "CPI Callback Reentrancy"), ("Rule 22", "init_if_needed + close Race"),
  ("Rule 23", "Memo Program CPI Injection"), ("Rule 24", "remaining_accounts Count Mismatch"),
  ("Rule 25", "Versioned Transaction LUT"), ("Rule 26", "Cross-Program Flash Loan")]

def ruleCweRefs : List (String × List String) := [
  ("Rule 2", ["https://www.cwe.mitre.org/data/definitions/285.html"]),
  ("Rule 3", ["https://cwe.mitre.org/data/definitions/340.html"]),
  ("Rule 4", [
    "https://www.cwe.mitre.org/data/definitions/862.html",
    "https://www.cwe.mitre.org/data/definitions/829.html"]),
  ("Rule 6", [
    "https://www.cwe.mitre.org/data/definitions/190.html",
    "https://www.cwe.mitre.org/data/definitions/191.html"]),
  ("Rule 7", [
    "https://www.cwe.mitre.org/data/definitions/252.html",
    "https://www.cwe.mitre.org/data/definitions/665.html"]),
  ("Rule 8", [
    "https://www.cwe.mitre.org/data/definitions/306.html",
    "https://www.cwe.mitre.org/data/definitions/285.html"]),
  ("Rule 11", [
    "https://www.cwe.mitre.org/data/definitions/665.html",
    "https://www.cwe.mitre.org/data/definitions/1188.html"]),
  ("Rule 14", [
    "https://www.cwe.mitre.org/data/definitions/841.html",
    "https://www.cwe.mitre.org/data/definitions/362.html"]),
  ("Rule 15", [
    "https://www.cwe.mitre.org/data/definitions/20.html",
    "https://www.cwe.mitre.org/data/definitions/862.html"]),
  ("Rule 16", [
    "https://www.cwe.mitre.org/data/definitions/843.html",
    "https://www.cwe.mitre.org/data/definitions/20.html"]),
  ("Rule 17", [
    "https://www.cwe.mitre.org/data/definitions/829.html",
    "https://www.cwe.mitre.org/data/definitions/345.html"]),
  ("Rule 18", [
    "https://www.cwe.mitre.org/data/definitions/755.html",
    "https://www.cwe.mitre.org/data/definitions/248.html"])]

def ruleDocRefs : List (String × List String) := [
  ("Rule 1", [
    "https://www.anchor-lang.com/docs/the-program",
    "https://github.com/trailofbits/solana-common-pitfalls"]),
  ("Rule 2", [
    "https://www.anchor-lang.com/docs/account-constraints",
    "https://github.com/coral-xyz/anchor/blob/master/lang/src/account.rs"]),
  ("Rule 3", [
    "https://docs.solana.com/developing/programming-model/" ++
      "calling-between-programs#program-derived-addresses"]),
  ("Rule 4", [
    "https://wormholecrypto.medium.com/wormhole-incident-report-02-02-22-ad9d9e1a0484",
    "https://github.com/neodyme-labs/solana-security-txt"]),
  ("Rule 5", [
    "https://spl.solana.com/token-2022",
    "https://www.anchor-lang.com/docs/tokens/extensions"]),
  ("Rule 6", [
    "https://docs.rs/anchor-lang/latest/anchor_lang/prelude/struct.Accounts.html",
    "https://github.com/anza-xyz/solana-program-library/tree/master/libraries/math"]),
  ("Rule 7", [
    "https://twitter.com/CremaProtocol/status/1545852085030305792",
    "https://www.anchor-lang.com/docs/account-constraints#close"]),
  ("Rule 8", ["https://docs.rs/anchor-lang/latest/anchor_lang/accounts/struct.Signer.html"]),
  ("Rule 11", ["https://github.com/coral-xyz/anchor/blob/master/lang/src/account.rs"]),
  ("Rule 14", ["https://github.com/trailofbits/solana-common-pitfalls#reentrancy"]),
  ("Rule 15", ["https://www.raydium.io/blog/"]),
  ("Rule 16", ["https://github.com/coral-xyz/anchor/blob/master/lang/src/account.rs"]),
  ("Rule 17", ["https://mango.markets/"]),
  ("Rule 18", [
    "https://borsh.io/",
    "https://github.com/coral-xyz/anchor/blob/master/lang/src/account.rs"])]

/-! The functions of `fix_confidence.py`. -/

def computeConfidence (ruleId : String) (patternMatch : Bool) : ℚ :=
  let baseRate := (Dict.get? ruleBaseRates ruleId).getD (70 / 100)
  let patternBonus := if patternMatch then 1 else 85 / 100
  roundHundredth (baseRate * patternBonus)

def determineTier (confidence : ℚ) (pokerRisk : String) : String :=
  if pokerRisk ∈ ["HIGH", "CRITICAL"] then "C"
  else if tierAThreshold ≤ confidence then "A"
  else if tierBThreshold ≤ confidence then "B"
  else "C"

def fullFixRules : List String := ["Rule 8", "Rule 18", "Rule 6"]
def partialFixRules : List String := ["Rule 3", "Rule 7", "Rule 14", "Rule 15"]
def architecturalRules : List String := ["Rule 26", "Rule 13", "Rule 9"]

/-- The share of the score that a fix of the rule takes off. -/
def reductionShare (ruleId : String) : ℚ :=
  if ruleId ∈ fullFixRules then 25 / 100
  else if ruleId ∈ partialFixRules then 15 / 100
  else if ruleId ∈ architecturalRules then 10 / 100
  else 20 / 100

def estimateCvssAfter (cvssBefore : Json) (ruleId : String) : Py (FloatValue × String) := do
  let before ← toFloat cvssBefore
  let reduction := before.scale (reductionShare ruleId)
  let cvssAfter := (before.sub reduction).roundTenth.maxOne
  let vector :=
    if ruleId = "Rule 8" then "CVSS:3.1/AV:N/AC:L/PR:L/UI:N/S:U/C:H/I:H/A:H"
    else "CVSS:3.1/AV:N/AC:L/PR:N/UI:N/S:U/C:H/I:H/A:H"
  return (cvssAfter, vector)

theorem estimateCvssAfter_returns (ruleId : String) {v : Json} :
    (∃ r, estimateCvssAfter v ruleId = .ok r) ↔ ∃ x, toFloat v = .ok x := by
  cases hx : toFloat v <;> simp [estimateCvssAfter, hx, bind, Except.bind, pure, Except.pure]

def getFixType (ruleId : String) : String :=
  (Dict.get? fixTypes ruleId).getD "validation_check"

def getPokerRisk (ruleId : String) : String :=
  (Dict.get? rulePokerRisk ruleId).getD "MEDIUM"

def getEffortMinutes (ruleId : String) : Nat :=
  (Dict.get? ruleEffortMinutes ruleId).getD 10

def testText (name suffix : String) (comments : List String) : String :=
  "#[test]\nfn test_" ++ name ++ suffix ++ "() \x7b\n" ++
    String.join (comments.map fun c => "    // " ++ c ++ "\n") ++ "\x7d"

/-- `templates` of `generate_test_template`, for the lowered id of the finding. -/
def testTemplates (name : String) : List (String × String) := [
  ("Rule 8", testText name "_requires_signer" [
    "Attempt privileged action without admin signer should fail",
    "Attempt with admin signer should succeed"]),
  ("Rule 6", testText name "_overflow_protection" [
    "Overflow amounts should return ArithmeticOverflow error"]),
  ("Rule 14", testText name "_reentrancy_guard" [
    "Reentrant callback should fail with ReentrancyDetected"]),
  ("Rule 15", testText name "_remaining_accounts_validation" [
    "Invalid remaining accounts should fail validation"])]

def generateTestTemplate (text : PyText) (ruleId : String) (findingId : Json) : Py String := do
  let name ← text.lowered findingId
  return (Dict.get? (testTemplates name) ruleId).getD
    (testText name "_fix_verification" [
      "Verify the fix for Rule " ++ ruleId,
      "Add specific assertions based on the vulnerability"])

theorem generateTestTemplate_returns (text : PyText) (ruleId : String) {v : Json} :
    (∃ t, generateTestTemplate text ruleId v = .ok t) ↔ ∃ s, v = .str s := by
  cases v <;>
    simp [generateTestTemplate, PyText.lowered, bind, Except.bind, pure, Except.pure]

end Suggestions

end SolanaAuditor
