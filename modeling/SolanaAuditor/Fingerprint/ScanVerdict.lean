/- SolanaAuditor/Fingerprint/ScanVerdict
   digest: How a directory scan of scripts/protocol-fingerprint.sh ends, and with which output. -/

import SolanaAuditor.Fingerprint.ProtocolFingerprint

set_option autoImplicit false
set_option relaxedAutoImplicit false

namespace SolanaAuditor.Fingerprint

open SolanaAuditor.Lib SolanaAuditor.Lib.Shell

def isBlank (c : Char) : Bool := c == ' ' || c == '\t' || c == '\n' || c == '\r'

/-- The texts between the brackets of an array: white space, or the texts of the entries with
commas between them. -/
inductive Entries (parse : List Char → Option Json) : List Char → List Json → Prop
  | none {text : List Char} : (∀ c ∈ text, isBlank c = true) → Entries parse text []
  | one {text : List Char} {entry : Json} : parse text = some entry → Entries parse text [entry]
  | more {text rest : List Char} {entry : Json} {entries : List Json} :
      parse text = some entry → entries ≠ [] → Entries parse rest entries →
      Entries parse (text ++ ',' :: rest) (entry :: entries)

/-- A text is one JSON array. -/
def ArrayText (parse : List Char → Option Json) (text : List Char) (entries : List Json) : Prop :=
  ∃ before inside after, text = before ++ '[' :: inside ++ ']' :: after ∧
    (∀ c ∈ before ++ after, isBlank c = true) ∧ Entries parse inside entries

/-- The scan succeeds, and its output is one array with an entry for each of the first 100 listed
files, in order. -/
def ScansAll (parse : List Char → Option Json) (listing : List Listed)
    (result : Ending Nat × Option String) : Prop :=
  exitCode result.1 = 0 ∧ ∃ text entries, result.2 = some text ∧
    ArrayText parse text.toList entries ∧
    List.Forall₂ (fun listed entry =>
      Json.get? entry "program_id" = some (.str (programIdOf listed.path)))
      (listing.take 100) entries

section Runs

variable {tools : Tools} {env : Surroundings}

theorem cat_run (source : Source) (output : Option String) :
    (cat source).run answer output = (.error 1, output) ∨
      ∃ content, (cat source).run answer output = (.ok content, output) := by
  cases source with
  | file content =>
    cases content with
    | none => exact .inl rfl
    | some content => exact .inr ⟨_, rfl⟩
  | output => exact .inr ⟨_, rfl⟩

variable (tools) in
/-- The first file ends the scan: it cannot be read, or the counter is still 0 when it is done. -/
theorem scanFiles_first (listed : Listed) (rest : List Listed) (output : Option String) :
    ((scanFiles tools (listed :: rest) true 0).run answer output).1 = .error 1 := by
  rw [scanFiles, bind_eq, run_bind]
  rcases cat_run listed.source output with hcat | ⟨content, hcat⟩
  · rw [hcat]
  · rw [hcat]
    simp [append]

theorem scanDir_empty (hjq : env.jqFound = true) (hdir : env.dirExists = true)
    (hvuln : env.vulnDbValid = true) (hsig : env.sigDbValid = true) (h : env.listing = [])
    (output : Option String) :
    (scanDir tools env).run answer output = (.ok 0, some ("[\n" ++ "]\n")) := by
  simp [scanDir, hjq, cmdScanDirectory, hdir, hvuln, hsig, h, scanFiles, create, append, answer]

theorem scanDir_files (hjq : env.jqFound = true) (hdir : env.dirExists = true)
    (hvuln : env.vulnDbValid = true) (hsig : env.sigDbValid = true) (h : env.listing ≠ [])
    (output : Option String) : ((scanDir tools env).run answer output).1 = .error 1 := by
  obtain ⟨listed, rest, hlisting⟩ := List.exists_cons_of_ne_nil h
  have hscan := scanFiles_first tools listed (rest.take 99) (some "[\n")
  have hcmd : (cmdScanDirectory tools env).run answer output =
      ((scanFiles tools (listed :: rest.take 99) true 0).bind fun count =>
        (append "]\n").bind fun _ => .done count).run answer (some "[\n") := by
    simp [cmdScanDirectory, hdir, hvuln, hsig, hlisting, create, answer]
  have hdirect : scanDir tools env = (cmdScanDirectory tools env).bind fun _ => .done 0 := by
    simp [scanDir, hjq]
  rw [hdirect, run_bind, hcmd, run_bind]
  cases hend : (scanFiles tools (listed :: rest.take 99) true 0).run answer (some "[\n") with
  | mk ending output' =>
    rw [hend] at hscan
    dsimp only at hscan
    rw [hscan]

end Runs

/-- With valid databases the scan does its work exactly on a directory in which `find` lists no
file. -/
theorem scans_all_iff (parse : List Char → Option Json) (tools : Tools) (env : Surroundings)
    (output : Option String) (hjq : env.jqFound = true) (hdir : env.dirExists = true)
    (hvuln : env.vulnDbValid = true) (hsig : env.sigDbValid = true) :
    ScansAll parse env.listing ((scanDir tools env).run answer output) ↔ env.listing = [] := by
  constructor
  · rintro ⟨hexit, -⟩
    by_contra hne
    rw [scanDir_files hjq hdir hvuln hsig hne] at hexit
    simp [exitCode] at hexit
  · intro h
    rw [scanDir_empty hjq hdir hvuln hsig h]
    refine ⟨rfl, _, [], rfl, ?_, by simp [h]⟩
    exact ⟨[], ['\n'], ['\n'], rfl, by simp [isBlank], .none (by simp [isBlank])⟩

/-- Databases without protocols, and commands that find and print nothing. -/
def emptyTools : Tools where
  vulnDb := .obj []
  sigDb := .obj []
  render := fun _ => ""
  grep := fun _ _ => false
  protocolVulns := fun _ => "[]"
  vulnerabilityPatterns := fun _ _ => "[]"
  matchedInstructions := fun _ => "[]"
  timestamp := "2026-01-01T00:00:00Z"

def sampleDirectory (listing : List Listed) : Surroundings where
  jqFound := true
  dirExists := true
  vulnDbValid := true
  sigDbValid := true
  listing := listing

theorem scans_all_iff_empty :
    ScansAll (fun _ => none) [] ((scanDir emptyTools (sampleDirectory [])).run answer none) :=
  (scans_all_iff (fun _ => none) emptyTools (sampleDirectory []) none rfl rfl rfl rfl).mpr rfl

def vaultIdl : Listed := ⟨"target/idl/vault.json", .file (some "\x7b\x7d\n")⟩

/-- One file is enough to end the scan with status 1. -/
theorem one_file_not_scanned : ¬ ∃ parse, ScansAll parse [vaultIdl]
    ((scanDir emptyTools (sampleDirectory [vaultIdl])).run answer none) := by
  rintro ⟨parse, hexit, -⟩
  have hne : (sampleDirectory [vaultIdl]).listing ≠ [] := by simp [sampleDirectory]
  rw [scanDir_files rfl rfl rfl rfl hne] at hexit
  simp [exitCode] at hexit

end SolanaAuditor.Fingerprint
