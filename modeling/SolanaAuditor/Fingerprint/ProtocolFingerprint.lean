/- SolanaAuditor/Fingerprint/ProtocolFingerprint
   digest: scripts/protocol-fingerprint.sh: the analysis of one program and the directory scan. -/

import SolanaAuditor.Bash
import SolanaAuditor.History.AuditHistory
import SolanaAuditor.Lib.StableSort
import SolanaAuditor.Python

set_option autoImplicit false
set_option relaxedAutoImplicit false

namespace SolanaAuditor.Fingerprint

open SolanaAuditor.Lib SolanaAuditor.Lib.Shell
open SolanaAuditor.History (echoArg)

def highConfidenceThreshold : Nat := 80
def mediumConfidenceThreshold : Nat := 50

/-- The databases, and the commands that the analysis runs over the text of an IDL. -/
structure Tools where
  vulnDb : Json
  sigDb : Json
  /-- jq's text of a value that is no string -/
  render : Json → String
  /-- `echo "$text" | grep -qiE "$pattern"`, the pattern first -/
  grep : String → String → Bool
  /-- What `get_protocol_vulns`, `check_vulnerability_patterns` and
  `extract_matched_instructions` print. -/
  protocolVulns : String → String
  vulnerabilityPatterns : String → String → String
  matchedInstructions : String → String
  timestamp : String

/-- `$(echo "$text")` -/
def captureEcho (text : String) : String := String.ofList (captured (echoArg text).toList)

/-- The lines that `while IFS= read -r` gets from `<<< "$text"`. -/
def readLines (text : String) : List String :=
  (text.toList.splitOnP (· == '\n')).map String.ofList

/-- `.a["b"].c // empty` -/
def jqPath (path : List String) (doc : Json) : JqOutput :=
  match path.foldlM (fun v k => jqIndex k v) doc with
  | .ok .null => ([], true)
  | .ok (.bool false) => ([], true)
  | .ok v => ([v], true)
  | .error _ => ([], true)

/-- `.protocols | keys | .[] // empty` -/
def jqProtocols (doc : Json) : JqOutput :=
  match jqIndex "protocols" doc with
  | .ok (.obj entries) =>
      ((StableSort.sort textLess (entries.map Prod.fst)).map Json.str, true)
  | .ok (.arr items) => ((List.range items.length).map fun i => .int i, true)
  | .ok _ => ([], false)
  | .error _ => ([], false)

section Analysis

variable (tools : Tools)

/-- `$(jq_get query default db)` -/
def jqGet (query : Json → JqOutput) (default : String) (db : Json) : String :=
  let result := String.ofList (captured (rawText tools.render (query db).1))
  captureEcho (if result = "" then default else result)

def protocols : List String := readLines (jqGet tools jqProtocols "" tools.sigDb)

/-- The loop of `detect_by_program_id`: an exact match ends it. -/
def idMatch (programId : String) : List String → String × Nat → String × Nat
  | [], best => best
  | protocol :: rest, best =>
      let knownId := jqGet tools (jqPath ["protocols", protocol, "program_id"]) "" tools.sigDb
      if protocol = "" ∨ knownId = "" then idMatch programId rest best
      else if knownId = programId then (protocol, 100)
      else if programId.toList.take 20 = knownId.toList.take 20 then
        idMatch programId rest (protocol, 75)
      else idMatch programId rest best

/-- `detect_by_program_id`: a protocol and its confidence. -/
def detectByProgramId (programId : String) : String × Nat :=
  idMatch tools programId (protocols tools) ("", 0)

def instructionPattern (instruction : String) : String :=
  "(^|\x22|\\s)" ++ instruction ++ "(\x22|\\s|,)"

/-- The lines of the printed instructions that grep finds in the IDL. -/
def instructionCount (idlContent protocol : String) : Nat :=
  let instructions := jqGet tools (jqPath ["protocols", protocol, "instructions"]) "[]" tools.sigDb
  ((readLines instructions).filter fun instruction =>
    instruction ≠ "" && tools.grep (instructionPattern instruction) idlContent).length

def instructionMatch (idlContent : String) : List String → String × Nat → String × Nat
  | [], best => best
  | protocol :: rest, best =>
      if protocol = "" then instructionMatch idlContent rest best
      else
        let count := instructionCount tools idlContent protocol
        instructionMatch idlContent rest (if best.2 < count then (protocol, count) else best)

/-- `detect_by_instructions` -/
def detectByInstructions (idlContent : String) : String × Nat :=
  let best := instructionMatch tools idlContent (protocols tools) ("", 0)
  (best.1, if 5 ≤ best.2 then 90 else if 3 ≤ best.2 then 70 else if 1 ≤ best.2 then 50 else 0)

def categories : List (String × String) := [
  ("(perp|perpetual|futures|margin_trading)", "perpetuals"),
  ("(lend|borrow|reserve|collateral|interest_rate)", "lending"),
  ("(stake|unstake|validator|liquid_stake)", "liquid_staking"),
  ("(pool|liquidity|swap|amm)", "amm_dex"),
  ("(orderbook|trade|match)", "orderbook_dex"),
  ("(vault|strategy|structured)", "structured_products"),
  ("(portfolio|rebalance|aggregat)", "portfolio_manager")]

/-- `detect_category` -/
def detectCategory (idlContent : String) : String :=
  ((categories.find? fun c => tools.grep c.1 idlContent).map Prod.snd).getD "unknown"

/-- Step 3 of `analyze_protocol`: the better match, and the confidence of both. -/
def bestMatch (byId byInstr : String × Nat) : String × Nat :=
  let best := if byId.1 ≠ "" ∧ 0 < byId.2 then byId else ("", 0)
  let best := if byInstr.1 ≠ "" ∧ 0 < byInstr.2 ∧ best.2 < byInstr.2 then byInstr else best
  if byId.1 ≠ "" ∧ byInstr.1 ≠ "" then
    if byId.1 = byInstr.1 then (best.1, (byId.2 + byInstr.2) / 2 * 100 / 100)
    else (best.1, (byId.2 + byInstr.2) / 2 * 70 / 100)
  else best

def confidenceLevel (confidence : Nat) : String :=
  if highConfidenceThreshold ≤ confidence then "high"
  else if mediumConfidenceThreshold ≤ confidence then "medium"
  else "low"

def orEmptyArray (text : String) : String := if text = "" ∨ text = "null" then "[]" else text

def quoted (text : String) : String := "\x22" ++ text ++ "\x22"

def fieldLine (name value : String) : String := "  " ++ quoted name ++ ": " ++ value

/-- `result=$(analyze_protocol "$program_id" "$idl_content")`: the lines of the here-document,
whose values are not escaped. The subshell has no `set -e`. -/
def analyzeProtocol (programId idlContent : String) : String :=
  let best := bestMatch (detectByProgramId tools programId) (detectByInstructions tools idlContent)
  let text := "\x7b\n" ++ String.intercalate ",\n" [
    fieldLine "program_id" (quoted programId),
    fieldLine "protocol" (quoted best.1),
    fieldLine "confidence" (quoted (confidenceLevel best.2)),
    fieldLine "category" (quoted (detectCategory tools idlContent)),
    fieldLine "known_vulnerabilities" (orEmptyArray (tools.protocolVulns best.1)),
    fieldLine "audit_flags" (orEmptyArray (tools.vulnerabilityPatterns best.1 idlContent)),
    fieldLine "matched_instructions" (orEmptyArray (tools.matchedInstructions idlContent)),
    fieldLine "scan_timestamp" (quoted tools.timestamp),
    fieldLine "database_version"
      (quoted (jqGet tools (jqPath ["version"]) "unknown" tools.vulnDb))] ++ "\n\x7d\n"
  String.ofList (captured text.toList)

end Analysis

/-! The directory scan. Its output file is there before `find` runs, so that `find` lists it too
when the working directory lies under the directory. -/

inductive Op
  | create (text : String)
  | append (text : String)
  | readOutput

abbrev Reply : Op → Type
  | .create _ => Unit
  | .append _ => Unit
  | .readOutput => String

abbrev ScanScript := Script Op Reply

/-- The output file is the state. -/
def answer (output : Option String) : (o : Op) → Reply o × Option String
  | .create text => ((), some text)
  | .append text => ((), some (output.getD "" ++ text))
  | .readOutput => (output.getD "", output)

/-- What a listed path leads to: a file, which `cat` may be unable to read, or the output file. -/
inductive Source
  | file (content : Option String)
  | output

structure Listed where
  path : String
  source : Source

structure Surroundings where
  jqFound : Bool
  dirExists : Bool
  vulnDbValid : Bool
  sigDbValid : Bool
  /-- The lines of `find "$dir" -name "*.json" -type f` -/
  listing : List Listed

/-- `$(basename "$path" .json)` -/
def programIdOf (path : String) : String :=
  let name := baseName path.toList
  let suffix := ".json".toList
  String.ofList (captured
    (if suffix <:+ name ∧ name ≠ suffix then name.take (name.length - suffix.length) else name))

def cat : Source → ScanScript String
  | .file (some content) => return String.ofList (captured content.toList)
  | .file none => .exit 1
  | .output => .act .readOutput fun content => .done (String.ofList (captured content.toList))

def create (text : String) : ScanScript Unit := .act (.create text) .done

def append (text : String) : ScanScript Unit := .act (.append text) .done

/-- The loop of `cmd_scan_directory`, with the flag `first` and the counter. -/
def scanFiles (tools : Tools) : List Listed → Bool → Nat → ScanScript Nat
  | [], _, count => return count
  | listed :: rest, first, count => do
      let idlContent ← cat listed.source
      let result := analyzeProtocol tools (programIdOf listed.path) idlContent
      if !first then
        append ",\n"
      append (echoArg result)
      let count ← postIncrement count
      scanFiles tools rest false count

/-- `cmd_scan_directory` -/
def cmdScanDirectory (tools : Tools) (env : Surroundings) : ScanScript Nat := do
  if !env.dirExists then
    .exit 2
  else if !env.vulnDbValid || !env.sigDbValid then
    .exit 3
  else
    create "[\n"
    let count ← scanFiles tools (env.listing.take 100) true 0
    append "]\n"
    return count

/-- `protocol-fingerprint.sh --scan-dir dir`: the exit status. -/
def scanDir (tools : Tools) (env : Surroundings) : ScanScript Nat := do
  if !env.jqFound then
    .exit 3
  else
    let _ ← cmdScanDirectory tools env
    return 0

end SolanaAuditor.Fingerprint
