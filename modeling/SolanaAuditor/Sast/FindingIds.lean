/- SolanaAuditor/Sast/FindingIds
   digest: When the ids of the findings of a scan are pairwise different. -/

import SolanaAuditor.Lib.Lists
import SolanaAuditor.Sast.Occurrences

set_option autoImplicit false
set_option relaxedAutoImplicit false

namespace SolanaAuditor.Sast

open SolanaAuditor.Lib SolanaAuditor.Suggestions

section Text

theorem dash_notMem_toString (n : Nat) : '-' ∉ (toString n).toList := by
  intro h
  have hdigit : '-' ∈ Nat.toDigits 10 n := by
    simpa [Nat.toString_eq_ofList_toDigits] using h
  exact absurd (Nat.isDigit_of_mem_toDigits (by decide) (by decide) hdigit) (by decide)

theorem toString_inj {m n : Nat} (h : toString m = toString n) : m = n := by
  have hdigits : Nat.toDigits 10 m = Nat.toDigits 10 n := by
    have hlists := congrArg String.toList h
    simpa only [Nat.toString_eq_ofList_toDigits, String.toList_ofList] using hlists
  calc
    m = Nat.ofDigitChars 10 (Nat.toDigits 10 m) 0 := Nat.ofDigitChars_ten_toDigits.symm
    _ = Nat.ofDigitChars 10 (Nat.toDigits 10 n) 0 := by rw [hdigits]
    _ = n := Nat.ofDigitChars_ten_toDigits

def findingId (p : String × Nat) : String := "SAST-" ++ p.1 ++ "-" ++ toString p.2

/-- The last dash of an id parts the rule from the line. -/
theorem findingId_injective : Function.Injective findingId := by
  rintro ⟨w, m⟩ ⟨w', n⟩ h
  have hrev := congrArg (fun s : String => s.toList.reverse) h
  simp only [findingId, String.toList_append, List.reverse_append, List.append_assoc] at hrev
  have hdash : ("-" : String).toList.reverse = ['-'] := by decide
  rw [hdash] at hrev
  have hm := dash_notMem_toString m
  have hn := dash_notMem_toString n
  obtain ⟨hline, hrule⟩ := Lists.append_cons_inj (by simpa using hm) (by simpa using hn) hrev
  obtain rfl : w = w' :=
    String.toList_injective (List.reverse_injective (List.append_cancel_right hrule))
  obtain rfl : m = n := toString_inj (String.toList_injective (List.reverse_injective hline))
  rfl

end Text

/-- The line numbers, over all files of the scan, of the matches under one written rule id. -/
def linesUnder (text : PyText) (engine : Engine) (rules : List Rule) (files : List SourceFile)
    (ruleId : String) : List Nat :=
  ((occurrences engine rules files).filter fun o =>
    decide (text.format o.rule.ruleId = ruleId)).map Occurrence.line

/-- The ids are pairwise different exactly when no two matches under one rule id start on the
same line number, be it in one file or in two. -/
theorem findingIds_nodup_iff (text : PyText) (engine : Engine) (rules : List Rule)
    (files : List SourceFile) {findings : List Finding}
    (h : runAudit text engine rules files = .ok findings) :
    (findings.map Finding.id).Nodup ↔
      ∀ ruleId, (linesUnder text engine rules files ruleId).Nodup := by
  have hids : ∀ {os : List Occurrence} {findings : List Finding},
      List.Forall₂ (Yields text) os findings →
        findings.map Finding.id =
          (os.map fun o => (text.format o.rule.ruleId, o.line)).map findingId := by
    intro os findings hyields
    induction hyields with
    | nil => rfl
    | cons hf _ ih =>
      simp only [List.map_cons, ih, hf.id]
      rfl
  unfold linesUnder
  rw [hids (runAudit_ok h), List.nodup_map_iff findingId_injective, Lists.nodup_map_pair]

def sampleRule : Rule where
  ruleId := .str "RULE-04"
  severity := .str "HIGH"
  cwe := .str "CWE-862"
  pattern := .str "invoke_signed"
  patternType := .str "regex"
  fileGlob := .str "**/*.rs"
  description := .str "Unchecked CPI"
  impact := .str "Privilege escalation"
  recommendation := .str "Check the program id"

def programFile (name content : String) : SourceFile where
  path := "programs/" ++ name
  parts := ["programs", name]
  content := some content

theorem findingIds_nodup_iff_sample : (linesUnder PyText.ascii literalEngine [sampleRule]
    [programFile "vault.rs" "invoke_signed(&ix)?;\n",
      programFile "pool.rs" "use anchor;\ninvoke_signed(&ix)?;\n"] "RULE-04").Nodup :=
  (findingIds_nodup_iff PyText.ascii literalEngine [sampleRule] _ rfl).mp (by decide) "RULE-04"

/-- One rule with a match on the first line of two files gives both findings one id. -/
theorem findingIds_collide_across_files :
    ([sampleRule].map Rule.ruleId).Pairwise (· ≠ ·) ∧
      ∃ findings, runAudit PyText.ascii literalEngine [sampleRule]
        [programFile "vault.rs" "invoke_signed(&ix)?;\n",
          programFile "pool.rs" "invoke_signed(&ix)?;\n"] = .ok findings ∧
        ¬ (findings.map Finding.id).Nodup := by
  refine ⟨List.pairwise_singleton _ _, _, rfl, ?_⟩
  decide

end SolanaAuditor.Sast
