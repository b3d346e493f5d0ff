/- SolanaAuditor/History/Jq
   digest: The jq filters of the history script. -/

import SolanaAuditor.Jq

set_option autoImplicit false
set_option relaxedAutoImplicit false

namespace SolanaAuditor.History

open SolanaAuditor.Lib

/-- `jq filter file 2>/dev/null || fallback`, as the text that `$(…)` captures. -/
def jqOr (f : Json → JqOutput) (file : Option (List Json)) (fallback : List Json) : List Json :=
  match file with
  | none => fallback
  | some docs => let out := jqRun f docs; if out.2 then out.1 else out.1 ++ fallback

/-- `.programs[$pid].audits[]` -/
def jqAudits (pid : String) (doc : Json) : JqResult (List Json) := do
  let programs ← jqIndex "programs" doc
  let program ← jqIndex pid programs
  let audits ← jqIndex "audits" program
  jqIterate audits

/-- `.programs[$pid].audits[] | select(.version == $ver)` -/
def jqAuditsOfVersion (pid ver : String) (doc : Json) : JqOutput :=
  match jqAudits pid doc with
  | .error _ => ([], false)
  | .ok audits => jqEach (fun a => do
      let v ← jqIndex "version" a
      return if jqEqStr ver v then [a] else []) audits

/-- `.programs[$pid].audits[] | select(.version == $audit.version) | .version` -/
def jqVersionExists (pid ver : String) (doc : Json) : JqOutput :=
  match jqAudits pid doc with
  | .error _ => ([], false)
  | .ok audits => jqEach (fun a => do
      let v ← jqIndex "version" a
      return if jqEqStr ver v then [v] else []) audits

/-- `has("programs") and (.programs | has($pid))` -/
def jqProgramExists (pid : String) (doc : Json) : JqResult Json := do
  if ← jqHas "programs" doc then
    return .bool (← jqHas pid (← jqIndex "programs" doc))
  else
    return .bool false

/-- `.programs[$pid].audits += [$audit]` -/
def jqAppendAudit (pid : String) (audit doc : Json) : JqResult Json := do
  let programs ← jqIndex "programs" doc
  let program ← jqIndex pid programs
  let audits ← jqIndex "audits" program
  let audits' ← jqAdd audits (.arr [audit])
  jqSet "programs" (← jqSet pid (← jqSet "audits" audits' program) programs) doc

/-- `{ audits: [$audit] }` -/
def programEntry (audit : Json) : Json := .obj [("audits", .arr [audit])]

/-- `(if .programs == null then {} else .programs end) as $p |`
`{ programs: ($p + { ($pid): { audits: [$audit] } }) }` -/
def jqAddProgram (pid : String) (audit doc : Json) : JqResult Json := do
  let programs ← jqIndex "programs" doc
  let p := match programs with
    | .null => Json.obj []
    | q => q
  return .obj [("programs", ← jqAdd p (.obj [(pid, programEntry audit)]))]

/-- `{ programs: { ($pid): { audits: [$audit] } } }` -/
def newHistory (pid : String) (audit : Json) : Json :=
  .obj [("programs", .obj [(pid, programEntry audit)])]

/-- The documents that `echo "$findings_json" | jq '.k // default'` prints. -/
def jqDefault (k : String) (default : Json) (docs : List Json) : List Json :=
  docs.map (fun doc => jqAlternative (jqIndex k doc) default)

/-- `--argjson name "$text"`: the text must be exactly one document. -/
def argjson : List Json → Option Json
  | [v] => some v
  | _ => none

/-- A printed value has a character that `$(…)` does not strip. -/
def printsVisible : Json → Bool
  | .str s => s.toList.any (· != '\n')
  | _ => true

/-- `[[ -n "$(jq -r …)" ]]` -/
def nonEmptyCapture (out : List Json) : Bool := out.any printsVisible

end SolanaAuditor.History
