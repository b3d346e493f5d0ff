/- SolanaAuditor/Suggestions/ExploitMetadata
   digest: generate_exploit_metadata of fix_exploit.py. -/

import SolanaAuditor.Numbers
import SolanaAuditor.Suggestions.FixSuggestions
import Mathlib.Data.List.DropRight

set_option autoImplicit false
set_option relaxedAutoImplicit false

namespace SolanaAuditor.Suggestions

open SolanaAuditor.Lib

def ruleExploitClass : List (String × String) := [
  ("Rule 1", "config"), ("Rule 2", "state-manipulation"), ("Rule 3", "state-manipulation"),
  ("Rule 4", "privilege-escalation"), ("Rule 5", "config"), ("Rule 6", "arith"),
  ("Rule 7", "privilege-escalation"), ("Rule 8", "privilege-escalation"), ("Rule 9", "config"),
  ("Rule 10", "arith"), ("Rule 11", "state-manipulation"), ("Rule 12", "state-manipulation"),
  ("Rule 13", "oracle-manipulation"), ("Rule 14", "reentrancy"),
  ("Rule 15", "privilege-escalation"), ("Rule 16", "state-manipulation"),
  ("Rule 17", "privilege-escalation"), ("Rule 18", "arith"), ("Rule 19", "privilege-escalation"),
  ("Rule 20", "config"), ("Rule 21", "reentrancy"), ("Rule 22", "state-manipulation"),
  ("Rule 23", "privilege-escalation"), ("Rule 24", "privilege-escalation"),
  ("Rule 25", "privilege-escalation"), ("Rule 26", "oracle-manipulation")]

structure AttackerModel where
  position : String
  capital : String
  privilege : String

structure Impact where
  fundsAtRiskSol : String
  usersAffected : String
  protocolInsolvency : Bool
  recoveryPath : String

structure ExploitStep where
  step : Nat
  action : String
  txRequired : Bool

structure PostConditions where
  fundsTransferred : String
  stateCorrupted : Bool
  authorityModified : String

structure AttackSurface where
  entryPoint : Json
  instructionIndex : Json
  accountsRequired : List String
  cpiCalls : Nat

structure Remediation where
  fixTier : String
  confidence : ℚ
  cvssAfter : FloatValue
  cvssReduction : FloatValue
  filesToModify : List Json
  verificationTest : String
  fixType : String

structure ExploitMetadata where
  schema : String
  pocId : Json
  title : Json
  severity : String
  cvss : FloatValue
  cvssVector : Json
  cwe : List Json
  ruleIds : List String
  exploitClass : String
  attackSurface : AttackSurface
  attackerModel : AttackerModel
  preconditions : List String
  steps : List ExploitStep
  postConditions : PostConditions
  impact : Impact
  remediation : Remediation
  pocStatus : String
  pocAuthor : String
  generatedAt : String

/-- The tests of `derive_exploit_class` on the lowered description, in their order. -/
def classOfText (descLower : String) : String :=
  let mentions := fun word => isSubstring word descLower
  if mentions "flash loan" || mentions "oracle" || mentions "price" then "oracle-manipulation"
  else if mentions "reinit" || mentions "discriminator" then "state-manipulation"
  else if mentions "signer" || mentions "auth" then "privilege-escalation"
  else if mentions "reentrancy" || mentions "callback" then "reentrancy"
  else if mentions "overflow" || mentions "arith" then "arith"
  else "privilege-escalation"

/-- A rule of the table settles the class without a look at the description. -/
def deriveExploitClass (text : PyText) (ruleId : String) (description : Json) : Py String :=
  match Dict.get? ruleExploitClass ruleId with
  | some exploitClass => return exploitClass
  | none => do return classOfText (← text.lowered description)

def deriveAttackerModel (text : PyText) (ruleId : String) (description : Json) :
    Py AttackerModel := do
  let descLower ← text.lowered description
  if ruleId ∈ ["Rule 13", "Rule 26"] then
    return ⟨"borrowed capital (flash-loaned)", "flash_loan_fee (repaid atomically)", "none"⟩
  else if ruleId ∈ ["Rule 4", "Rule 7", "Rule 8", "Rule 19"] then
    return ⟨"none (public instruction)", "none", "none"⟩
  else if ruleId ∈ ["Rule 14", "Rule 21"] then
    return ⟨"must hold a token/account the protocol callbacks into", "none", "none"⟩
  else if ruleId ∈ ["Rule 11", "Rule 22"] then
    return ⟨"must control a vault/pool account key", "rent_exempt_minimum lamports",
      "must initially call init or deposit"⟩
  else if isSubstring "reinit" descLower then
    return ⟨"must hold the vault account's private key", "rent_exempt_minimum",
      "must have called initialize previously"⟩
  else return ⟨"none", "none", "none"⟩

/-- The digits of the matches of `CWE-?(\d+)`. -/
def cweNumbers (text : PyText) : List Char → List String
  | 'C' :: 'W' :: 'E' :: s =>
      let digits := (if s.head? = some '-' then s.tail else s).takeWhile text.isDecimal
      if digits.isEmpty then cweNumbers text s else String.ofList digits :: cweNumbers text s
  | _ :: s => cweNumbers text s
  | [] => []

def cweList (text : PyText) (cweRaw : Json) : List Json :=
  let single := if truthy cweRaw then [cweRaw] else []
  match cweRaw with
  | .str s =>
      let numbers := cweNumbers text s.toList
      if numbers.isEmpty then single else numbers.map fun m => .str ("CWE-" ++ m)
  | _ => single

/-- `re.match` takes texts only, an empty one included. -/
def ruleIdsOf (text : PyText) (ruleId : String) : Json → Py (List String)
  | .str ruleCaught =>
      match matchRule text ruleCaught with
      | some rule => return [rule]
      | none => return if ruleId ≠ "" ∧ ruleId ≠ "Rule 0" then [ruleId] else []
  | _ => .error .typeError

def impactMap : List (String × Impact) := [
  ("CRITICAL", ⟨"unbounded", "all depositors", true, "none"⟩),
  ("HIGH", ⟨"significant (10k-1m SOL equivalent)", "attacker + affected depositors", false,
    "protocol upgrade + social consensus"⟩),
  ("MEDIUM", ⟨"limited (individual accounts)", "attacker only", false, "standard upgrade path"⟩),
  ("LOW", ⟨"minimal (dust amounts)", "attacker only", false, "none required"⟩)]

def impactForSeverity (severity : String) : Impact :=
  (Dict.get? impactMap severity).getD
    ⟨"limited (individual accounts)", "attacker only", false, "standard upgrade path"⟩

def knownAccounts : List String := ["vault", "admin", "user", "destination", "source", "token",
  "mint", "program", "system_program", "token_program", "price_feed", "collateral"]

/-- `word.strip(".,;:()[]{}'\"").replace("-", "_")` -/
def cleanedWord (word : List Char) : String :=
  let marks := ".,;:()[]\x7b\x7d'\"".toList
  let stripped := (word.dropWhile (· ∈ marks)).rdropWhile (· ∈ marks)
  String.ofList (stripped.map fun c => if c = '-' then '_' else c)

/-- One round of the loop of `_extract_accounts`. -/
def noteAccount (accounts : List String) (word : List Char) : List String :=
  let cleaned := cleanedWord word
  if cleaned ∈ knownAccounts ∧ cleaned ∉ accounts then accounts ++ [cleaned] else accounts

def extractAccounts (text : PyText) (chars : PyChars) (description : Json) :
    Py (List String) := do
  let words := ((← text.lowered description).toList.splitOnP chars.isSpace).filter (! ·.isEmpty)
  let accounts := words.foldl noteAccount []
  return if accounts.isEmpty then ["account"] else accounts

def extractPreconditions (text : PyText) (description : Json) : Py (List String) := do
  let descLower ← text.lowered description
  let mentions := fun word => isSubstring word descLower
  let preconditions :=
    (if mentions "no signer" || mentions "without" then
      ["Attacker can submit transactions to the program (no signer required)"] else []) ++
    (if mentions "vault" && (mentions "lamport" || mentions "balance") then
      ["Vault account exists with lamports > rent_exempt_minimum"] else []) ++
    (if mentions "oracle" || mentions "price" then
      ["Protocol reads from a price oracle without staleness validation"] else []) ++
    (if mentions "flash loan" then
      ["Flash loan facility available on the same network"] else []) ++
    (if mentions "discriminator" || mentions "reinit" then
      ["Account is not protected by Anchor's discriminator enforcement"] else [])
  return if preconditions.isEmpty then ["Attacker can submit transactions to the program"]
    else preconditions

section Generate

/-! `generatedAt` is the time of the run, `parseFloat` the `float()` of a text. -/

variable (text : PyText) (chars : PyChars) (parseFloat : String → Option FloatValue)
  (generatedAt : String)

/-- `generate_exploit_metadata` of a dictionary. -/
def metadataOf (finding : PyDict) (suggestion : FixSuggestion) : Py ExploitMetadata := do
  let desc := field finding "description" (.str "")
  let ruleIds ← ruleIdsOf text suggestion.ruleId (field finding "rule_caught" (.str ""))
  let exploitClass ← deriveExploitClass text suggestion.ruleId desc
  let attackerModel ← deriveAttackerModel text suggestion.ruleId desc
  let location := field finding "location" (.obj [])
  let function ← pyGet location "function" (.str "unknown")
  let severity ← text.uppered (field finding "severity" (.str "MEDIUM"))
  let cvss ← pyFloat parseFloat (field finding "cvss" (.float (.finite 5)))
  let instructionIndex ← pyGet location "line" (.int 0)
  let accountsRequired ← extractAccounts text chars desc
  let preconditions ← extractPreconditions text desc
  return {
    schema := "https://solana-auditor-skill/schemas/exploit-metadata-v1.json"
    pocId := field finding "id" (.str "UNKNOWN")
    title := field finding "title" (.str "Untitled Finding")
    severity
    cvss
    cvssVector := field finding "cvss_vector" (.str "")
    cwe := cweList text (field finding "cwe" (.str ""))
    ruleIds
    exploitClass
    attackSurface := {
      entryPoint := function
      instructionIndex
      accountsRequired
      cpiCalls := 0 }
    attackerModel
    preconditions
    steps := [
      ⟨1, "Invoke " ++ text.format function ++ "() instruction", true⟩,
      ⟨2, "Supply malicious/missing account parameters as defined by the vulnerability", true⟩,
      ⟨3, "Transaction confirms — vulnerability exploited", true⟩]
    postConditions := {
      fundsTransferred := "attacker-controlled account"
      stateCorrupted := true
      authorityModified := "may be overwritten depending on vulnerability" }
    impact := impactForSeverity severity
    remediation := {
      fixTier := suggestion.fixTier
      confidence := suggestion.confidenceScore
      cvssAfter := suggestion.cvssAfter
      cvssReduction := suggestion.cvssReduction
      filesToModify := [suggestion.file]
      verificationTest :=
        "tests/poc-" ++ text.format (field finding "id" (.str "unknown")) ++ "-fixed.rs"
      fixType := suggestion.fixType }
    pocStatus := "pending"
    pocAuthor := "solana-auditor-skill"
    generatedAt }

def generateExploitMetadata (finding : Json) (suggestion : FixSuggestion) : Py ExploitMetadata :=
  match finding with
  | .obj entries => metadataOf text chars parseFloat generatedAt entries suggestion
  | _ => .error .attributeError

end Generate

section Returns

variable (text : PyText) (chars : PyChars) (parseFloat : String → Option FloatValue)
  (generatedAt : String)

theorem ruleIdsOf_returns (ruleId : String) {v : Json} :
    (∃ ids, ruleIdsOf text ruleId v = .ok ids) ↔ ∃ s, v = .str s := by
  cases v with
  | str s => cases hm : matchRule text s <;> simp [ruleIdsOf, hm, pure, Except.pure]
  | null | bool | int | float | arr | obj => simp [ruleIdsOf]

/-- What a finding needs for its metadata. -/
structure Describable (finding : PyDict) : Prop where
  description : ∃ s, field finding "description" (.str "") = .str s
  ruleCaught : ∃ s, field finding "rule_caught" (.str "") = .str s
  location : ∃ entries, field finding "location" (.obj []) = .obj entries
  severity : ∃ s, field finding "severity" (.str "MEDIUM") = .str s
  cvss : ∃ x, pyFloat parseFloat (field finding "cvss" (.float (.finite 5))) = .ok x

theorem metadataOf_returns (finding : PyDict) (suggestion : FixSuggestion) :
    (∃ m, metadataOf text chars parseFloat generatedAt finding suggestion = .ok m) ↔
      Describable parseFloat finding := by
  simp only [metadataOf, Py.bind_eq_ok]
  constructor
  · rintro ⟨m, ids, hids, cls, hcls, model, hmodel, fn, hfn, sev, hsev, x, hx, rest⟩
    have hdesc : ∃ s, text.lowered (field finding "description" (.str "")) = .ok s := by
      simp only [deriveAttackerModel, Py.bind_eq_ok] at hmodel
      exact ⟨_, hmodel.choose_spec.1⟩
    exact ⟨text.lowered_returns.mp hdesc, (ruleIdsOf_returns text _).mp ⟨_, hids⟩,
      (pyGet_returns _ _).mp ⟨_, hfn⟩, text.uppered_returns.mp ⟨_, hsev⟩, ⟨_, hx⟩⟩
  · rintro ⟨⟨desc, hdesc⟩, hrule, hlocation, hsev, x, hx⟩
    obtain ⟨ids, hids⟩ := (ruleIdsOf_returns text suggestion.ruleId).mpr hrule
    obtain ⟨fn, hfn⟩ := (pyGet_returns "function" (.str "unknown")).mpr hlocation
    obtain ⟨line, hline⟩ := (pyGet_returns "line" (.int 0)).mpr hlocation
    obtain ⟨sev, hsev⟩ := text.uppered_returns.mpr hsev
    have hclass : ∃ cls, deriveExploitClass text suggestion.ruleId (.str desc) = .ok cls := by
      unfold deriveExploitClass
      cases Dict.get? ruleExploitClass suggestion.ruleId with
      | some cls => exact ⟨_, rfl⟩
      | none => exact ⟨_, rfl⟩
    have hmodel : ∃ model, deriveAttackerModel text suggestion.ruleId (.str desc) = .ok model := by
      simp only [deriveAttackerModel, PyText.lowered, bind, Except.bind, pure, Except.pure]
      split_ifs <;> exact ⟨_, rfl⟩
    have haccounts : ∃ accounts, extractAccounts text chars (.str desc) = .ok accounts := ⟨_, rfl⟩
    have hconditions : ∃ l, extractPreconditions text (.str desc) = .ok l := ⟨_, rfl⟩
    rw [← hdesc] at hclass hmodel haccounts hconditions
    obtain ⟨cls, hclass⟩ := hclass
    obtain ⟨model, hmodel⟩ := hmodel
    obtain ⟨accounts, haccounts⟩ := haccounts
    obtain ⟨conditions, hconditions⟩ := hconditions
    exact ⟨_, ids, hids, cls, hclass, model, hmodel, fn, hfn, sev, hsev, x, hx, line, hline,
      accounts, haccounts, conditions, hconditions, rfl⟩

end Returns

end SolanaAuditor.Suggestions
