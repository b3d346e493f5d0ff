/- SolanaAuditor/Cpi/CpiGraph
   digest: scripts/generate-cpi-graph.sh: the calls of a source tree, and the graph made of them. -/

import SolanaAuditor.Bash
import SolanaAuditor.Lib.Regex

set_option autoImplicit false
set_option relaxedAutoImplicit false

namespace SolanaAuditor.Cpi

open SolanaAuditor.Lib SolanaAuditor.Lib.Regex

/-- The case table of `get_spl_program_type`. -/
def splPrograms : List (String × String) := [
  ("TokenkegQfeZyiNwAJbNbGKPFXCWuBvf9Ss623VQ5DA", "spl_token"),
  ("TokenzQdBkbNNPeDs6DcXXRkQPphdB99YhEELFMZzUPRxM", "spl_token_2022"),
  ("ATokenGPvbdGVxr2bvgtdq2gYhS4WSGLHeVV8nkdst5e", "associated_token"),
  ("11111111111111111111111111111111", "system_program"),
  ("Stake11111111111111111111111111111111111111", "stake_program"),
  ("Vote111111111111111111111111111111111111111", "vote_program"),
  ("Sysvar1111111111111111111111111111111111111", "sysvar"),
  ("Config111111111111111111111111111111111111", "config_program"),
  ("Memo1UhkJRfHyvLMcRuc7u5MC7iBwlZ6EEgMw424FWP", "memo_program"),
  ("ComputeBudget111111111111111111111111111111", "compute_budget")]

/-- `get_spl_program_type` -/
def getSplProgramType (pubkey : String) : String := (Dict.get? splPrograms pubkey).getD ""

/-- `get_program_name` -/
def getProgramName (pubkey : String) : String :=
  let splType := getSplProgramType pubkey
  if splType ≠ "" then splType
  else "custom_" ++ String.ofList (pubkey.toList.take 8) ++ "..."

/-- A file that `find` prints, with its lines. -/
structure SourceFile where
  path : String
  lines : List (List Char)

structure SourceTree where
  /-- `[ -d "$PROJECT_ROOT/programs" ]` -/
  programsDir : Bool
  /-- The `*.rs` files under `programs`, or else under the root. -/
  rustFiles : List SourceFile
  targetProgramId : String
  timestamp : String
  jqFound : Bool

/-! The scan. -/

inductive CallKind
  | invoke | invokeSigned | cpiContext

namespace CallKind

/-- What grep looks for. -/
def call : CallKind → String
  | .invoke => "invoke("
  | .invokeSigned => "invoke_signed("
  | .cpiContext => "CpiContext"

/-- What makes a comment of a line when it comes after `//`. -/
def name : CallKind → String
  | .invoke => "invoke"
  | .invokeSigned => "invoke_signed"
  | .cpiContext => "CpiContext"

def tag : CallKind → String
  | .invoke => "INVOKE"
  | .invokeSigned => "INVOKE_SIGNED"
  | .cpiContext => "CPI_CONTEXT"

end CallKind

/-- The paths in `RUST_FILES`: outside `programs` those with `target`, and with any character
before `git`, are left out. -/
def selectedFiles (tree : SourceTree) : List SourceFile :=
  if tree.programsDir then tree.rustFiles
  else tree.rustFiles.filter fun f =>
    !containsWord "target" f.path.toList && !containsWord "git" f.path.toList.tail

/-- The files that the loop does not skip. -/
def scannedFiles (tree : SourceTree) : List SourceFile :=
  (selectedFiles tree).filter fun f => !f.path.toList.isEmpty &&
    !(containsWord "/tests/" f.path.toList || containsWord "/target/" f.path.toList)

/-- `//.*name` -/
def commented (kind : CallKind) (line : List Char) : Bool :=
  line.tails.any fun t => decide ("//".toList <+: t) && containsWord kind.name (t.drop 2)

/-- `grep -n call "$file"` -/
def callLines (kind : CallKind) (f : SourceFile) : List (Nat × List Char) :=
  ((f.lines.zipIdx 1).map fun e => (e.2, e.1)).filter fun c => containsWord kind.call c.2

/-- `| grep -v "//.*name"` -/
def liveCalls (kind : CallKind) (f : SourceFile) : List (Nat × List Char) :=
  (callLines kind f).filter fun c => !commented kind c.2

def identStart (c : Char) : Bool := c.isAlpha || c == '_'

def identChar (c : Char) : Bool := c.isAlphanum || c == '_'

/-- `[a-zA-Z_][a-zA-Z0-9_]*\.key()`: in an extended pattern the `()` is an empty group. -/
def keyPattern : Pattern Char where
  before := []
  group := [.one identStart, .many identChar] ++ ".key".toList.map fun c => .one (· == c)
  after := []

/-- The program id of a call; `none` when grep finds no key, which ends the script. The key keeps
its `.key`, since `sed` looks for `.key()`. -/
def programIdAt (f : SourceFile) (linenum : Nat) (line : List Char) : Option String :=
  if containsWord "program_id.key()" line then
    (((f.lines.take linenum).drop (linenum - 20)).flatMap (findall keyPattern)).getLast?.map
      String.ofList
  else some ""

/-- The name after the last `fn ` of a line, `sed 's/.*fn \([^(]*\).*/\1/'` -/
def functionName (line : List Char) : List Char :=
  (((line.tails.filter fun t => decide ("fn ".toList <+: t)).getLast?.getD []).drop 3).takeWhile
    (· != '(')

/-- The name in the last line with `fn ` of the whole file. -/
def functionOf (f : SourceFile) : String :=
  match (f.lines.filter (containsWord "fn ")).getLast? with
  | none => "unknown"
  | some line => String.ofList (functionName line)

def recordText (kind : CallKind) (f : SourceFile) (linenum : Nat) (programId : String) : String :=
  kind.tag ++ "|" ++ f.path ++ "|" ++ toString linenum ++ "|" ++ programId ++ "|" ++ functionOf f

/-- The line that the loop over the calls prints. -/
def callRecord (kind : CallKind) (f : SourceFile) (c : Nat × List Char) : Option String :=
  (programIdAt f c.1 c.2).map (recordText kind f c.1)

def callRecords (kind : CallKind) (f : SourceFile) : List (Nat × List Char) → Option (List String)
  | [] => some []
  | c :: calls => do return (← callRecord kind f c) :: (← callRecords kind f calls)

/-- The pipeline of one kind of call. Under `pipefail` a file whose calls are all in comments ends
the script. -/
def scanCalls (kind : CallKind) (f : SourceFile) : Option (List String) :=
  if (callLines kind f).isEmpty then some []
  else if (liveCalls kind f).isEmpty then none
  else callRecords kind f (liveCalls kind f)

/-- The contexts go to a file of their own, which nothing reads. -/
def scanContexts (f : SourceFile) : Option Unit :=
  if (callLines .cpiContext f).isEmpty then some ()
  else if (liveCalls .cpiContext f).isEmpty then none
  else some ()

/-- What a scan leaves in `INVOKE_TMP` and in `INVOKE_SIGNED_TMP`. -/
structure Scan where
  invokes : List String
  signedInvokes : List String

def scanFiles : List SourceFile → Option Scan
  | [] => some ⟨[], []⟩
  | f :: files => do
      let invokes ← scanCalls .invoke f
      let signedInvokes ← scanCalls .invokeSigned f
      scanContexts f
      let rest ← scanFiles files
      return ⟨invokes ++ rest.invokes, signedInvokes ++ rest.signedInvokes⟩

/-- `grep -v` fails when it leaves no file. -/
def scanTree (tree : SourceTree) : Option Scan :=
  if !tree.programsDir && (selectedFiles tree).isEmpty then none
  else scanFiles (scannedFiles tree)

/-! The edges and the nodes. -/

structure CallFields where
  callType : String
  file : String
  line : String
  programId : String
  function : String

/-- The last variable of `read` takes what is left, without a single delimiter at its end. -/
def lastField : List String → String
  | [field, ""] => field
  | fields => String.intercalate "|" fields

/-- `IFS='|' read -r call_type file line program_id function` -/
def readFields (record : String) : CallFields :=
  let parts := (record.toList.splitOnP (· == '|')).map String.ofList
  { callType := parts.getD 0 ""
    file := parts.getD 1 ""
    line := parts.getD 2 ""
    programId := parts.getD 3 ""
    function := lastField (parts.drop 4) }

/-- `EDGES` and the lines of `DISCOVERED_PROGRAMS`. -/
structure Graph where
  edges : List Json
  discovered : List String

def edgeRecord (call : CallFields) (line : Json) (signer : Bool) : Json :=
  .obj [("source", .str "program"),
    ("target", .str (if call.programId = "" then "unknown" else call.programId)),
    ("call_type", .str call.callType),
    ("file", .str (String.ofList (captured (baseName call.file.toList)))),
    ("line", line), ("function", .str call.function), ("signer", .bool signer)]

/-- `add_program` -/
def addProgram (discovered : List String) (pubkey : String) : List String :=
  if pubkey ∈ discovered then discovered else discovered ++ [pubkey]

section Build

variable (tonumber : String → Option Json) (tree : SourceTree)

/-- The edge of a call, if jq makes one: `tonumber` may fail on the line. -/
def edgeOf (call : CallFields) (signer : Bool) : Option Json :=
  if tree.jqFound then (tonumber call.line).map fun line => edgeRecord call line signer else none

/-- One turn of the loops over the records. -/
def addRecord (signer : CallFields → Bool) (g : Graph) (record : String) : Graph :=
  let call := readFields record
  if call.file = "" then g
  else
    { edges := g.edges ++ (edgeOf tonumber tree call (signer call)).toList
      discovered :=
        if call.programId ≠ "" ∧ call.programId ≠ "unknown" then
          addProgram g.discovered call.programId
        else g.discovered }

def graphOf (scan : Scan) : Graph :=
  scan.signedInvokes.foldl (addRecord tonumber tree fun _ => true)
    (scan.invokes.foldl (addRecord tonumber tree fun call => call.callType == "INVOKE_SIGNED")
      ⟨[], []⟩)

def programNode (pubkey : String) : Json :=
  let type := getSplProgramType pubkey
  .obj [("id", .str (getProgramName pubkey)), ("label", .str pubkey),
    ("type", .str (if type = "" then "custom" else type))]

def mainNode : Json :=
  .obj [("id", .str "program"), ("label", .str "target_program"), ("type", .str "target")]

def addNode (nodes : List Json) (node : Json) : List Json :=
  if tree.jqFound then nodes ++ [node] else nodes

/-- The loop at the end of a pipe runs in a subshell: what it assigns is lost. -/
def inSubshell {σ : Type} (s : σ) (_loop : σ → σ) : σ := s

def nodesOf (discovered : List String) : List Json :=
  let nodes := inSubshell [] fun nodes =>
    discovered.foldl (fun nodes pubkey => addNode tree nodes (programNode pubkey)) nodes
  addNode tree nodes mainNode

/-- `echo "$items" | jq 'length' || echo 0` -/
def total (items : List Json) : Nat := if tree.jqFound then items.length else 0

def cpiSurface (g : Graph) : Json :=
  let nodes := nodesOf tree g.discovered
  .obj [("metadata", .obj [("generated_at", .str tree.timestamp),
      ("program_id", .str (if tree.targetProgramId = "" then "unknown" else tree.targetProgramId)),
      ("total_programs", .int (total tree nodes)), ("total_cpi_calls", .int (total tree g.edges)),
      ("analysis_version", .str "1.0")]),
    ("nodes", .arr nodes), ("edges", .arr g.edges)]

/-- The discovered programs and the file that the script writes; `none` when it ends before. -/
def generateCpiGraph : Option (List String × Json) := do
  let g := graphOf tonumber tree (← scanTree tree)
  return (g.discovered, cpiSurface tree g)

end Build

end SolanaAuditor.Cpi
