/- SolanaAuditor/Suggestions/OutputFiles
   digest: The files that --metadata and --regression of audit-fix-suggestions.py open. -/

import SolanaAuditor.Lib.LexicalPath
import SolanaAuditor.Suggestions.ExploitMetadata

set_option autoImplicit false
set_option relaxedAutoImplicit false

namespace SolanaAuditor.Suggestions

open SolanaAuditor.Lib SolanaAuditor.Lib.LexicalPath

/-! The checks of the command line. -/

/-- The message of a `SecurityError`: a text, and the value whose `repr` follows it. -/
structure SecurityError where
  message : String
  value : Option String
  deriving DecidableEq

def maxFindingIdLength : Nat := 64

def maxFilePathLength : Nat := 512

def isIdChar (c : Char) : Bool := c.isAlphanum || c == '_' || c == '-'

/-- `re.match(FINDING_ID_PATTERN, s)`: its `$` lets one line break at the end pass. -/
def matchesIdPattern (s : List Char) : Bool :=
  let body := if s.getLast? = some '\n' then s.dropLast else s
  !body.isEmpty && body.all isIdChar

def validateFindingId (findingId : String) : Except SecurityError Unit :=
  if findingId.isEmpty then .error ⟨"Finding ID must not be empty", none⟩
  else if maxFindingIdLength < findingId.length then
    .error ⟨"Finding ID exceeds max length of 64", none⟩
  else if !matchesIdPattern findingId.toList then
    .error ⟨"Finding ID contains invalid characters: ", some findingId⟩
  else .ok ()

theorem matchesIdPattern_iff {s : List Char} : matchesIdPattern s = true ↔
    (s ≠ [] ∧ ∀ c ∈ s, isIdChar c = true) ∨
      ∃ body, s = body ++ ['\n'] ∧ body ≠ [] ∧ ∀ c ∈ body, isIdChar c = true := by
  have hbreak : isIdChar '\n' = false := by decide
  unfold matchesIdPattern
  rw [Bool.and_eq_true, Bool.not_eq_true', List.isEmpty_eq_false_iff, List.all_eq_true]
  split_ifs with hlast
  · have hsplit : s.dropLast ++ ['\n'] = s := List.dropLast_append_getLast? _ hlast
    constructor
    · exact fun h => .inr ⟨s.dropLast, hsplit.symm, h⟩
    · rintro (⟨-, hchars⟩ | ⟨body, rfl, hbody⟩)
      · have hmem := hchars '\n' (List.mem_of_getLast? hlast)
        rw [hbreak] at hmem
        contradiction
      · rwa [List.dropLast_concat]
  · constructor
    · exact .inl
    · rintro (h | ⟨body, rfl, -⟩)
      · exact h
      · exact absurd List.getLast?_concat hlast

/-- The characters that an id can have: `validate_finding_id` lets a line break pass. -/
def isIdOrBreak (c : Char) : Bool := isIdChar c || c == '\n'

theorem chars_of_validId {id : String} (h : validateFindingId id = .ok ()) :
    ∀ c ∈ id.toList, isIdOrBreak c = true := by
  have hpattern : matchesIdPattern id.toList = true := by
    unfold validateFindingId at h
    split_ifs at h with _ _ hpattern
    rwa [Bool.not_eq_true', Bool.not_eq_false] at hpattern
  intro c hc
  rw [isIdOrBreak, Bool.or_eq_true, beq_iff_eq]
  rcases matchesIdPattern_iff.mp hpattern with ⟨-, hchars⟩ | ⟨body, hbody, -, hchars⟩
  · exact .inl (hchars c hc)
  · rw [hbody, List.mem_append, List.mem_singleton] at hc
    exact hc.imp_left (hchars c)

/-- `sanitize_path`; its parameter `allow_absolute` decides nothing. -/
def sanitizePath (path : String) : Except SecurityError String :=
  if maxFilePathLength < path.length then .error ⟨"Path exceeds max length of 512", none⟩
  else if isSubstring ".." path then .error ⟨"Path traversal detected: ", some path⟩
  else if "~".toList.isPrefixOf path.toList then
    .error ⟨"Home directory expansion detected: ", some path⟩
  else if path.toList.any (·.toNat == 0) then .error ⟨"Null byte detected in path", none⟩
  else if path.toList.any fun c => c.toNat < 32 || c.toNat == 127 then
    .error ⟨"Control character detected in path", none⟩
  else .ok path

/-! `pathlib` on POSIX. A path that starts with `//` counts as one that starts with `/`. -/

structure PosixPath where
  absolute : Bool
  segments : List (Segment String)
  deriving DecidableEq

def segmentOf : List Char → Option (Segment String)
  | [] | ['.'] => none
  | ['.', '.'] => some .up
  | name => some (.down (String.ofList name))

/-- `Path(s)` drops empty names and `.`, and keeps `..`. -/
def pathOf (s : String) : PosixPath where
  absolute := s.toList.head? == some '/'
  segments := (s.toList.splitOn '/').filterMap segmentOf

namespace PosixPath

/-- `self / other`: an absolute path replaces the one before it. -/
def join (self other : PosixPath) : PosixPath :=
  if other.absolute then other else { self with segments := self.segments ++ other.segments }

/-- The names from the root on, for a process whose working directory is `cwd`. -/
def resolved (cwd : List String) (path : PosixPath) : List String :=
  resolve (if path.absolute then [] else cwd) path.segments

def embedsNull (path : PosixPath) : Bool :=
  path.segments.any fun
    | .up => false
    | .down name => name.toList.any (·.toNat == 0)

end PosixPath

/-! Writing. -/

/-- What the disk answers in each round of a loop: whether it makes a directory and whether it
opens a file. -/
structure Disk where
  makes : Nat → PosixPath → Bool
  opens : Nat → PosixPath → Bool

inductive WriteError
  | os
  | raised (e : PyError)
  deriving DecidableEq

def orRaise {α : Type} : Py α → Except WriteError α
  | .ok a => .ok a
  | .error e => .error (.raised e)

def Disk.mkdir (disk : Disk) (round : Nat) (dir : PosixPath) : Except WriteError Unit :=
  if dir.embedsNull then .error (.raised .valueError)
  else if disk.makes round dir then .ok () else .error .os

/-- `path.open("w")` -/
def Disk.open (disk : Disk) (round : Nat) (path : PosixPath) : Except WriteError Unit :=
  if path.embedsNull then .error (.raised .valueError)
  else if disk.opens round path then .ok () else .error .os

/-- What a loop leaves: the files opened for writing with what is written, and how it ends. -/
structure Run (β : Type) where
  opened : List (PosixPath × β)
  ended : Except WriteError Unit

/-- A loop whose rounds open at most one file each; an exception ends it. -/
def roundsFrom {α β : Type} (body : Nat → α → Except WriteError (Option (PosixPath × β))) :
    Nat → List α → Run β
  | _, [] => ⟨[], .ok ()⟩
  | round, a :: items =>
      match body round a with
      | .error e => ⟨[], .error e⟩
      | .ok file =>
          let rest := roundsFrom body (round + 1) items
          ⟨file.toList ++ rest.opened, rest.ended⟩

section Metadata

variable (text : PyText) (chars : PyChars) (parseFloat : String → Option FloatValue)
  (generatedAt : String) (disk : Disk)

def metadataFilename (findingId : String) : String := findingId ++ "-metadata.json"

def writeMetadataFile (round : Nat) (outputDir : PosixPath) (findingId : String) :
    Except WriteError PosixPath := do
  disk.mkdir round outputDir
  let outPath := outputDir.join (pathOf (metadataFilename findingId))
  disk.open round outPath
  return outPath

def metadataRound (metadataDir : PosixPath) (round : Nat) (pair : Json × FixSuggestion) :
    Except WriteError (Option (PosixPath × ExploitMetadata)) := do
  let metadata ← orRaise (generateExploitMetadata text chars parseFloat generatedAt pair.1 pair.2)
  let findingId ← orRaise (pyGet pair.1 "id" (.str "unknown"))
  let path ← writeMetadataFile disk round metadataDir (text.format findingId)
  return some (path, metadata)

end Metadata

section Regression

/-! `testText` stands for the test templates of `fix_regression.py`, by finding id, rule id and
severity, `combinedText` for the text of the test that includes the others. -/

variable (text : PyText) (testText : String → String → String → String)
  (combinedText : List PosixPath → String) (disk : Disk)

def generateRegressionTest (finding : Json) (suggestion : FixSuggestion) : Py String := do
  let findingId ← pyGet finding "id" (.str "UNKNOWN")
  let severity ← text.uppered (← pyGet finding "severity" (.str "UNKNOWN"))
  let _ ← text.lowered findingId
  return testText (text.format findingId) suggestion.ruleId severity

/-- `s.replace("SUGGEST-", "")` -/
def withoutSuggest : List Char → List Char
  | 'S' :: 'U' :: 'G' :: 'G' :: 'E' :: 'S' :: 'T' :: '-' :: s => withoutSuggest s
  | c :: s => c :: withoutSuggest s
  | [] => []

/-- `next((f for f in findings if f.get("id", "") == finding_id), None)` -/
def nextWithId (findingId : String) : List Json → Py (Option Json)
  | [] => return none
  | f :: findings => do
      let id ← pyGet f "id" (.str "")
      if isText findingId id then return some f
      else nextWithId findingId findings

def suggestedId (suggestion : FixSuggestion) : String :=
  String.ofList (withoutSuggest suggestion.findingId.toList)

def testFilename (findingId : String) : String :=
  "test_" ++ text.lower findingId ++ "_regression.rs"

def regressionRound (findings : List Json) (outputDir : PosixPath) (round : Nat)
    (suggestion : FixSuggestion) : Except WriteError (Option (PosixPath × String)) := do
  let findingId := suggestedId suggestion
  match ← orRaise (nextWithId findingId findings) with
  | none => return none
  | some finding =>
      if !truthy finding then return none
      else
        let testCode ← orRaise (generateRegressionTest text testText finding suggestion)
        let outPath := outputDir.join (pathOf (testFilename text findingId))
        disk.open round outPath
        return some (outPath, testCode)

def combinedFilename : String := "test_all_regressions.rs"

def writeRegressionTests (findings : List Json) (suggestions : List FixSuggestion)
    (outputDir : PosixPath) : Run String :=
  match disk.mkdir 0 outputDir with
  | .error e => ⟨[], .error e⟩
  | .ok () =>
      let written := roundsFrom (regressionRound text testText disk findings outputDir) 0 suggestions
      match written.ended with
      | .error _ => written
      | .ok () =>
          let combinedPath := outputDir.join (pathOf combinedFilename)
          match disk.open suggestions.length combinedPath with
          | .error e => ⟨written.opened, .error e⟩
          | .ok () =>
              ⟨written.opened ++ [(combinedPath, combinedText (written.opened.map Prod.fst))],
                .ok ()⟩

end Regression

section Modes

variable (text : PyText) (chars : PyChars) (parseFloat : String → Option FloatValue)
  (generatedAt : String) (getFixTemplate : String → Json → FixTemplate)
  (testText : String → String → String → String) (combinedText : List PosixPath → String)
  (disk : Disk)

/-- `--metadata` of an accepted document; without findings `main` returns before it. -/
def metadataMode (data : Json) (metadataDir : String) : Run ExploitMetadata :=
  let findings := findingsOf data
  if findings.isEmpty then ⟨[], .ok ()⟩
  else roundsFrom (metadataRound text chars parseFloat generatedAt disk (pathOf metadataDir)) 0
    (zipped .metadata findings (generateAllSuggestions text getFixTemplate findings))

/-- `--regression` of an accepted document. -/
def regressionMode (data : Json) (regressionDir : String) : Run String :=
  let findings := findingsOf data
  if findings.isEmpty then ⟨[], .ok ()⟩
  else writeRegressionTests text testText combinedText disk findings
    (generateAllSuggestions text getFixTemplate findings) (pathOf regressionDir)

end Modes

end SolanaAuditor.Suggestions
