/- SolanaAuditor/Sast/Occurrences
   digest: A scan makes one finding for each match, in the order of files, rules and matches. -/

import SolanaAuditor.Lib.Lists
import SolanaAuditor.Sast.FindingsDocument

set_option autoImplicit false
set_option relaxedAutoImplicit false

namespace SolanaAuditor.Sast

open SolanaAuditor.Lib SolanaAuditor.Suggestions

/-- A match of a rule in a file. -/
structure Occurrence where
  file : SourceFile
  content : String
  rule : Rule
  hit : Match

def hitsIn (engine : Engine) (rule : Rule) (file : SourceFile) (content : String) : List Match :=
  match matchesOf engine rule file content with
  | .ok found => found
  | .error _ => []

def occurrencesIn (engine : Engine) (rules : List Rule) (file : SourceFile) : List Occurrence :=
  match file.content with
  | some content => rules.flatMap fun rule =>
      (hitsIn engine rule file content).map fun m => ⟨file, content, rule, m⟩
  | none => []

/-- The matches of the rules in the files that are not left out. -/
def occurrences (engine : Engine) (rules : List Rule) (files : List SourceFile) :
    List Occurrence :=
  (files.filter fun file => !excluded file).flatMap (occurrencesIn engine rules)

def Occurrence.line (o : Occurrence) : Nat := (o.content.toList.take o.hit.start).count '\n' + 1

section Scan

variable {text : PyText} {engine : Engine}

def Yields (text : PyText) (o : Occurrence) (f : Finding) : Prop :=
  makeFinding text o.rule o.file o.hit o.content = .ok f

/-- The scores of the table, and its fallback for other severities. -/
def scoreOf (severity : String) : ℚ × String :=
  (Dict.get? severityScore severity).getD (65 / 10, "CVSS:3.1/AV:N/AC:L/PR:N/UI:N/S:U/C:N/I:N/A:N")

theorem Yields.severity {o : Occurrence} {f : Finding} (h : Yields text o f) :
    ∃ s, o.rule.severity = .str s ∧ (f.cvss, f.cvssVector) = scoreOf (text.upper s) := by
  simp only [Yields, makeFinding, Py.bind_eq_ok] at h
  obtain ⟨severity, hseverity, shortened, -, h⟩ := h
  obtain rfl := Except.ok.inj h
  unfold PyText.uppered at hseverity
  split at hseverity
  · next s hs =>
    obtain rfl : text.upper s = severity := Except.ok.inj hseverity
    exact ⟨s, hs, rfl⟩
  · simp at hseverity

theorem Yields.id {o : Occurrence} {f : Finding} (h : Yields text o f) :
    f.id = "SAST-" ++ text.format o.rule.ruleId ++ "-" ++ toString o.line := by
  simp only [Yields, makeFinding, Py.bind_eq_ok] at h
  obtain ⟨severity, -, shortened, -, h⟩ := h
  obtain rfl := Except.ok.inj h
  rfl

theorem detectInFile_ok {file : SourceFile} {rules : List Rule}
    {found : List (Rule × Match × String)} (h : detectInFile engine file rules = .ok found) :
    (occurrencesIn engine rules file).map (fun o => (o.rule, o.hit, o.content)) = found ∧
      ∀ o ∈ occurrencesIn engine rules file, o.file = file := by
  unfold detectInFile at h
  unfold occurrencesIn
  cases hcontent : file.content with
  | some content =>
    rw [hcontent] at h
    refine ⟨?_, by simp; grind⟩
    dsimp only at h ⊢
    induction rules generalizing found with
    | nil =>
      obtain rfl : [] = found := by simpa [detectInContent, pure, Except.pure] using h
      rfl
    | cons rule rules ih =>
      simp only [detectInContent, Py.bind_eq_ok] at h
      obtain ⟨matched, hmatched, rest, hrest, h⟩ := h
      obtain rfl := Except.ok.inj h
      have hhits : hitsIn engine rule file content = matched := by simp [hitsIn, hmatched]
      simp only [List.flatMap_cons, List.map_append, ih hrest, hhits, List.map_map]
      rfl
  | none =>
    rw [hcontent] at h
    obtain rfl : [] = found := Except.ok.inj h
    simp

theorem makeFindings_ok {file : SourceFile} {os : List Occurrence} {findings : List Finding}
    (hfile : ∀ o ∈ os, o.file = file)
    (h : makeFindings text file (os.map fun o => (o.rule, o.hit, o.content)) = .ok findings) :
    List.Forall₂ (Yields text) os findings := by
  have hcollects : Collects (fun p => makeFinding text p.1 file p.2.1 p.2.2)
      (makeFindings text file) := ⟨rfl, fun _ _ => rfl⟩
  rw [hcollects.ok_iff, List.forall₂_map_left_iff] at h
  refine List.Forall₂.imp ?_ ((List.forall₂_and_left os findings).mpr ⟨hfile, h⟩)
  rintro o f ⟨ho, hf⟩
  rw [Yields, ho]
  exact hf

/-- A scan that ends without an exception yields one finding for each match, in order. -/
theorem runAudit_ok {rules : List Rule} {files : List SourceFile} {findings : List Finding}
    (h : runAudit text engine rules files = .ok findings) :
    List.Forall₂ (Yields text) (occurrences engine rules files) findings := by
  unfold occurrences
  induction files generalizing findings with
  | nil =>
    obtain rfl : [] = findings := by simpa [runAudit, pure, Except.pure] using h
    exact .nil
  | cons file files ih =>
    unfold runAudit at h
    cases hexcluded : excluded file with
    | true =>
      rw [hexcluded, if_pos rfl] at h
      simpa [hexcluded] using ih h
    | false =>
      simp only [hexcluded, Bool.false_eq_true, if_false, Py.bind_eq_ok] at h
      obtain ⟨found, hfound, made, hmade, rest, hrest, h⟩ := h
      obtain rfl := Except.ok.inj h
      obtain ⟨hmap, hfile⟩ := detectInFile_ok hfound
      subst hmap
      have hmade := makeFindings_ok hfile hmade
      simpa [hexcluded] using List.rel_append hmade (ih hrest)

theorem hitsIn_eq_nil {rule : Rule} {file : SourceFile} {content : String}
    (hcontent : file.content = some content) :
    hitsIn engine rule file content = [] ↔ ¬ Fires engine rule file := by
  cases h : matchesOf engine rule file content with
  | ok found => simpa [hitsIn, h] using matchesOf_eq_nil hcontent h
  | error e =>
    refine iff_of_true (by simp [hitsIn, h]) ?_
    rintro ⟨content', glob, pattern, found, m, hcontent', hglob, hselected, hpattern, hfound, -⟩
    obtain rfl : content = content' := Option.some.inj (hcontent.symm.trans hcontent')
    simp [matchesOf, hglob, hselected, hpattern, hfound, bind, Except.bind, pure,
      Except.pure] at h

/-- A rule fires in a file exactly when it has an occurrence there. -/
theorem fires_iff {rules : List Rule} {file : SourceFile} {rule : Rule} (hrule : rule ∈ rules) :
    Fires engine rule file ↔ ∃ o ∈ occurrencesIn engine rules file, o.rule = rule := by
  cases hcontent : file.content with
  | none =>
    refine iff_of_false ?_ (by simp [occurrencesIn, hcontent])
    rintro ⟨content, _, _, _, _, hsome, -⟩
    simp [hcontent] at hsome
  | some content =>
    rw [← not_iff_not, ← hitsIn_eq_nil hcontent]
    constructor
    · rintro hnil ⟨o, ho, rfl⟩
      simp only [occurrencesIn, hcontent, List.mem_flatMap, List.mem_map] at ho
      obtain ⟨rule, -, m, hm, rfl⟩ := ho
      simp [hnil] at hm
    · intro hnone
      by_contra hne
      obtain ⟨m, hm⟩ := List.exists_mem_of_ne_nil _ hne
      refine hnone ⟨⟨file, content, rule, m⟩, ?_, rfl⟩
      simp only [occurrencesIn, hcontent, List.mem_flatMap, List.mem_map]
      exact ⟨rule, hrule, m, hm, rfl⟩

theorem rule_mem_of_occurrence {rules : List Rule} {file : SourceFile} {o : Occurrence}
    (ho : o ∈ occurrencesIn engine rules file) : o.rule ∈ rules := by
  unfold occurrencesIn at ho
  split at ho
  · simp only [List.mem_flatMap, List.mem_map] at ho
    obtain ⟨rule, hrule, m, -, rfl⟩ := ho
    exact hrule
  · simp at ho

/-- A property of rules holds of every occurrence exactly when it holds of every rule that
fires. -/
theorem forall_occurrence_rule {rules : List Rule} {files : List SourceFile} {p : Rule → Prop} :
    (∀ o ∈ occurrences engine rules files, p o.rule) ↔
      ∀ file ∈ files, excluded file = false → ∀ rule ∈ rules, Fires engine rule file →
        p rule := by
  simp only [occurrences, List.mem_flatMap, List.mem_filter, Bool.not_eq_true']
  constructor
  · intro h file hfile hexcluded rule hrule hfires
    obtain ⟨o, ho, rfl⟩ := (fires_iff hrule).mp hfires
    exact h o ⟨file, ⟨hfile, hexcluded⟩, ho⟩
  · rintro h o ⟨file, ⟨hfile, hexcluded⟩, ho⟩
    have hrule := rule_mem_of_occurrence ho
    exact h file hfile hexcluded o.rule hrule ((fires_iff hrule).mpr ⟨o, ho, rfl⟩)

end Scan

end SolanaAuditor.Sast
