/- SolanaAuditor/Fingerprint/VulnerabilityPatterns
   digest: check_vulnerability_patterns of scripts/protocol-fingerprint.sh. -/

import SolanaAuditor.Fingerprint.ProtocolFingerprint

set_option autoImplicit false
set_option relaxedAutoImplicit false

namespace SolanaAuditor.Fingerprint

open SolanaAuditor.Lib
open SolanaAuditor.History (echoArg)

section Fields

variable (tools : Tools)

/-- `$(jq -r ".[$i].k // empty")` -/
def vulnField (k : String) (vuln : Json) : String :=
  String.ofList (captured (rawText tools.render (jqPath [k] vuln).1))

/-- What `join` makes of a member; it fails on lists and objects. -/
def joinText : Json → JqResult String
  | .str s => .ok s
  | .null => .ok ""
  | .arr _ | .obj _ => .error ()
  | v => .ok (tools.render v)

/-- The texts that `.detection_rules | join("|")` joins, none where it fails. -/
def detectionRules (vuln : Json) : List String :=
  match jqIndex "detection_rules" vuln >>= jqIterate >>= List.mapM (joinText tools) with
  | .ok rules => rules
  | .error _ => []

def joinedRules (vuln : Json) : String :=
  String.ofList (captured ("|".intercalate (detectionRules tools vuln) ++ "\n").toList)

/-- The object that `jq -n` prints. -/
def patternFinding (vuln : Json) (matchedRule : String) : Json :=
  .obj [("id", .str (vulnField tools "id" vuln)),
    ("vulnerability", .str (vulnField tools "vulnerability" vuln)),
    ("cwe", .str (vulnField tools "cwe" vuln)),
    ("severity", .str (vulnField tools "severity" vuln)),
    ("description", .str (vulnField tools "description" vuln)),
    ("matched_rule", .str matchedRule)]

end Fields

section Rules

/-- `${text#lead}` -/
def dropLead (lead text : String) : String :=
  if lead.toList.isPrefixOf text.toList then
    String.ofList (text.toList.drop lead.toList.length)
  else text

/-- A rule without its prefix. -/
def rulePattern (rule : String) : String :=
  dropLead "array access: " (dropLead "instruction: "
    (dropLead "pattern: " (dropLead "missing: " rule)))

def ruleMatches (tools : Tools) (idlContent rule : String) : Bool :=
  tools.grep (rulePattern rule) idlContent

/-- `for rule in $(echo "$detection_rules" | tr '|' '\n')` -/
def ruleWords (glob : String → List String) (detectionRules : String) : List String :=
  shellWords glob (captured ((echoArg detectionRules).toList.map fun c =>
    if c = '|' then '\n' else c))

end Rules

section Check

variable (parse : List Char → Option Json) (glob : String → List String) (tools : Tools)

/-- One round of the loop over the vulnerabilities. -/
def vulnFinding (idlContent : String) (vuln : Json) : Option Json :=
  if vulnField tools "id" vuln = "" ∨ vulnField tools "vulnerability" vuln = "" then none
  else if joinedRules tools vuln = "" then none
  else
    let rules := ruleWords glob (joinedRules tools vuln)
    let matchedRule := (rules.find? (ruleMatches tools idlContent)).getD ""
    if matchedRule = "" then none else some (patternFinding tools vuln matchedRule)

/-- The loop, with the flag `first` and the text of the findings. -/
def vulnLoop (idlContent : String) : List Json → Bool → String → String
  | [], first, findingsJson => if first then "[]" else findingsJson ++ "]"
  | vuln :: vulns, first, findingsJson =>
      match vulnFinding glob tools idlContent vuln with
      | none => vulnLoop idlContent vulns first findingsJson
      | some finding =>
          let text := String.ofList (captured (tools.render finding ++ "\n").toList)
          vulnLoop idlContent vulns false
            (if first then "[" ++ text else findingsJson ++ "," ++ text)

/-- The members that `.[$i]` gives; it fails on a value that is no list, and then the id is empty
and the round is passed over. -/
def vulnItems : Option Json → List Json
  | some (.arr items) => items
  | _ => []

/-- `check_vulnerability_patterns`: the line that it prints. -/
def checkVulnerabilityPatterns (protocol idlContent : String) : String :=
  let vulnsJson :=
    jqGet tools (jqPath ["protocols", protocol, "vulnerabilities"]) "[]" tools.vulnDb
  if vulnsJson = "" ∨ vulnsJson = "[]" ∨ vulnsJson = "null" then "[]"
  else vulnLoop glob tools idlContent (vulnItems (parse vulnsJson.toList)) true "[]"

end Check

end SolanaAuditor.Fingerprint
