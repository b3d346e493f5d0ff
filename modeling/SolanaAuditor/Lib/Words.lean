/- SolanaAuditor/Lib/Words
   digest: The words of a text between separators, and the texts that have the same words. -/

import Mathlib.Data.List.Basic
import Mathlib.Data.List.DropRight

set_option autoImplicit false
set_option relaxedAutoImplicit false

namespace SolanaAuditor.Lib.Words

variable {α : Type}

/-- The runs of members that are no separators. -/
def words (blank : α → Bool) (s : List α) : List (List α) :=
  (s.splitOnP blank).filter fun w => !w.isEmpty

section Separators

variable {blank : α → Bool} {sep : α}

theorem words_nil : words blank ([] : List α) = [] := by
  simp [words]

theorem words_append (hsep : blank sep = true) (s t : List α) :
    words blank (s ++ sep :: t) = words blank s ++ words blank t := by
  rw [words, List.splitOnP_append_cons s t hsep, List.filter_append, words, words]

/-- A text without separators is its only word. -/
theorem words_single {s : List α} (hne : s ≠ []) (h : ∀ c ∈ s, blank c = false) :
    words blank s = [s] := by
  rw [words, List.splitOnP_eq_singleton h, List.filter_cons_of_pos (by simpa using hne),
    List.filter_nil]

/-- Words are not empty, and made of members of the text that are no separators. -/
theorem mem_words {s w : List α} (h : w ∈ words blank s) :
    w ≠ [] ∧ ∀ c ∈ w, c ∈ s ∧ blank c = false := by
  induction hn : s.length using Nat.strong_induction_on generalizing s with
  | h n ih =>
    by_cases hall : ∀ c ∈ s, blank c = false
    · by_cases hne : s = []
      · rw [hne, words_nil] at h
        exact absurd h List.not_mem_nil
      · rw [words_single hne hall, List.mem_singleton] at h
        subst h
        exact ⟨hne, fun c hc => ⟨hc, hall c hc⟩⟩
    · push Not at hall
      obtain ⟨c, hc, hsep⟩ := hall
      obtain ⟨before, after, rfl⟩ := List.append_of_mem hc
      rw [words_append (by simpa using hsep), List.mem_append] at h
      rw [List.length_append, List.length_cons] at hn
      rcases h with h | h
      · obtain ⟨hne, hw⟩ := ih before.length (by omega) h rfl
        exact ⟨hne, fun c hc => ⟨List.mem_append_left _ (hw c hc).1, (hw c hc).2⟩⟩
      · obtain ⟨hne, hw⟩ := ih after.length (by omega) h rfl
        exact ⟨hne, fun c hc => ⟨by simp [(hw c hc).1], (hw c hc).2⟩⟩

theorem words_flatMap_lines (hsep : blank sep = true) (lines : List (List α)) :
    words blank (lines.flatMap fun line => line ++ [sep]) = lines.flatMap (words blank) := by
  induction lines with
  | nil => exact words_nil
  | cons line lines ih =>
    have hsplit : (line :: lines).flatMap (fun line => line ++ [sep]) =
        line ++ sep :: lines.flatMap (fun line => line ++ [sep]) := by simp
    rw [hsplit, words_append hsep, ih, List.flatMap_cons]

/-- Separators at the end of a text are between no words. -/
theorem words_rdropWhile {p : α → Bool} (hp : ∀ c, p c = true → c = sep)
    (hsep : blank sep = true) (s : List α) : words blank (s.rdropWhile p) = words blank s := by
  induction s using List.reverseRecOn with
  | nil => rw [List.rdropWhile_nil]
  | append_singleton s c ih =>
    by_cases hc : p c = true
    · rw [List.rdropWhile_concat_pos p s c hc, ih, hp c hc, words_append hsep, words_nil,
        List.append_nil]
    · rw [List.rdropWhile_concat_neg p s c hc]

end Separators

end SolanaAuditor.Lib.Words
