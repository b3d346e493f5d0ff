/- SolanaAuditor/Suggestions/Estimates
   digest: The scores that estimate_cvss_after of fix_confidence.py gives, and the reductions. -/

import SolanaAuditor.Suggestions.FixSuggestions

set_option autoImplicit false
set_option relaxedAutoImplicit false

namespace SolanaAuditor.Suggestions

open SolanaAuditor.Lib SolanaAuditor.Lib.Decimal

section Estimate

/-- The share of the score that is left by a fix of the rule. -/
def remaining (ruleId : String) (before : ℚ) : ℚ := before - before * reductionShare ruleId

def afterScore (ruleId : String) (before : ℚ) : ℚ := max 1 (roundTenth (remaining ruleId before))

theorem reductionShare_bounds (ruleId : String) :
    10 / 100 ≤ reductionShare ruleId ∧ reductionShare ruleId ≤ 25 / 100 := by
  unfold reductionShare
  split_ifs <;> norm_num

theorem maxOne_finite (q : ℚ) : FloatValue.maxOne (.finite q) = .finite (max 1 q) := by
  rw [FloatValue.maxOne, max_def]
  by_cases h : 1 < q
  · rw [if_pos h, if_pos h.le]
  · by_cases heq : q = 1
    · subst heq
      simp
    · have hlt : ¬ 1 ≤ q := fun hle => h (lt_of_le_of_ne hle (Ne.symm heq))
      rw [if_neg h, if_neg hlt]

theorem estimateCvssAfter_finite {v : Json} {q : ℚ} (hv : toFloat v = .ok (.finite q))
    (ruleId : String) :
    ∃ vector, estimateCvssAfter v ruleId = .ok (.finite (afterScore ruleId q), vector) := by
  simp only [estimateCvssAfter, hv, bind, Except.bind, pure, Except.pure, FloatValue.scale,
    FloatValue.sub, FloatValue.roundTenth, maxOne_finite]
  exact ⟨_, rfl⟩

theorem remaining_mono (ruleId : String) {p q : ℚ} (h : p ≤ q) :
    remaining ruleId p ≤ remaining ruleId q := by
  obtain ⟨-, hshare⟩ := reductionShare_bounds ruleId
  have hpos : 0 ≤ (q - p) * (1 - reductionShare ruleId) :=
    mul_nonneg (by linarith) (by linarith)
  unfold remaining
  linarith

theorem afterScore_mono (ruleId : String) {p q : ℚ} (h : p ≤ q) :
    afterScore ruleId p ≤ afterScore ruleId q :=
  max_le_max le_rfl (roundTenth_mono (remaining_mono ruleId h))

theorem one_le_afterScore (ruleId : String) (q : ℚ) : 1 ≤ afterScore ruleId q := le_max_left _ _

/-- Above the floor a fix takes off more than the rounding can give back. -/
theorem round_remaining_le (ruleId : String) {q : ℚ} (h : 1 ≤ q) :
    roundTenth (remaining ruleId q) ≤ q := by
  obtain ⟨hshare, -⟩ := reductionShare_bounds ruleId
  have hround := roundTenth_le (remaining ruleId q)
  have hoff : 10 / 100 ≤ q * reductionShare ruleId := by
    calc (10 / 100 : ℚ) ≤ reductionShare ruleId := hshare
      _ ≤ q * reductionShare ruleId := le_mul_of_one_le_left (by linarith) h
  unfold remaining at hround ⊢
  linarith

/-- The estimate is not above the score itself exactly when that is not below the floor. -/
theorem afterScore_le_iff (ruleId : String) (q : ℚ) : afterScore ruleId q ≤ q ↔ 1 ≤ q := by
  constructor
  · exact (one_le_afterScore ruleId q).trans
  · intro h
    exact max_le h (round_remaining_le ruleId h)

theorem afterScore_le_max (ruleId : String) (q : ℚ) : afterScore ruleId q ≤ max 1 q := by
  rcases le_total 1 q with h | h
  · rw [max_eq_right h]
    exact (afterScore_le_iff ruleId q).mpr h
  · rw [max_eq_left h]
    exact (afterScore_mono ruleId h).trans ((afterScore_le_iff ruleId 1).mpr le_rfl)

/-- The floor makes the estimate higher than a score below it; a reduction of less than half a
tenth is rounded away. -/
theorem reduction_nonneg_iff (ruleId : String) (q : ℚ) :
    0 ≤ roundTenth (q - afterScore ruleId q) ↔ 95 / 100 ≤ q := by
  rw [roundTenth_nonneg_iff]
  rcases le_total 1 q with h | h
  · have hle := (afterScore_le_iff ruleId q).mpr h
    exact iff_of_true (by linarith) (by linarith)
  · have hone : afterScore ruleId q = 1 :=
      le_antisymm ((afterScore_le_max ruleId q).trans (max_le le_rfl h)) (one_le_afterScore _ _)
    rw [hone]
    constructor <;> intro hq <;> linarith

end Estimate

section Verdict

/-- What the estimates of a rule keep, for scores of any JSON number. -/
structure EstimateBounds (ruleId : String) : Prop where
  /-- The estimate is at least 1.0 and at most the score, or 1.0 where that is more. -/
  floor : ∀ v q, toFloat v = .ok (.finite q) → ∃ after vector,
    estimateCvssAfter v ruleId = .ok (.finite after, vector) ∧ 1 ≤ after ∧ after ≤ max 1 q ∧
      (after ≤ q ↔ 1 ≤ q)
  monotone : ∀ v w p q, toFloat v = .ok (.finite p) → toFloat w = .ok (.finite q) → p ≤ q →
    ∃ a b vector vector', estimateCvssAfter v ruleId = .ok (.finite a, vector) ∧
      estimateCvssAfter w ruleId = .ok (.finite b, vector') ∧ a ≤ b
  reduction : ∀ text getFixTemplate finding index s q,
    suggestionOf text getFixTemplate finding index = .ok s → s.ruleId = ruleId →
      toFloat s.cvssBefore = .ok (.finite q) →
        ∃ r, s.cvssReduction = .finite r ∧ (0 ≤ r ↔ 95 / 100 ≤ q)

theorem suggestionOf_reduction {text : PyText} {getFixTemplate : String → Json → FixTemplate}
    {finding : PyDict} {index : Nat} {s : FixSuggestion} {q : ℚ}
    (h : suggestionOf text getFixTemplate finding index = .ok s)
    (hq : toFloat s.cvssBefore = .ok (.finite q)) :
    s.cvssAfter = .finite (afterScore s.ruleId q) ∧
      s.cvssReduction = .finite (roundTenth (q - afterScore s.ruleId q)) := by
  simp only [suggestionOf, Py.bind_eq_ok] at h
  obtain ⟨ruleId, -, file, -, line, -, refs, -, after, hafter, x, hx, test, -, h⟩ := h
  obtain rfl := Except.ok.inj h
  obtain rfl := Except.ok.inj (hx.symm.trans hq)
  obtain ⟨vector, hestimate⟩ := estimateCvssAfter_finite hq ruleId
  obtain rfl := Except.ok.inj (hafter.symm.trans hestimate)
  exact ⟨rfl, rfl⟩

theorem estimates_bounded (ruleId : String) : EstimateBounds ruleId where
  floor v q hv := by
    obtain ⟨vector, hestimate⟩ := estimateCvssAfter_finite hv ruleId
    exact ⟨_, vector, hestimate, one_le_afterScore _ _, afterScore_le_max _ _,
      afterScore_le_iff _ _⟩
  monotone v w p q hv hw hle := by
    obtain ⟨vector, hestimate⟩ := estimateCvssAfter_finite hv ruleId
    obtain ⟨vector', hestimate'⟩ := estimateCvssAfter_finite hw ruleId
    exact ⟨_, _, vector, vector', hestimate, hestimate', afterScore_mono ruleId hle⟩
  reduction text getFixTemplate finding index s q h hrule hq := by
    obtain ⟨-, hreduction⟩ := suggestionOf_reduction h hq
    exact ⟨_, hreduction, reduction_nonneg_iff _ _⟩

/-- An informational finding of score 0 is given the estimate 1.0 and a reduction of -1.0. -/
theorem zero_score_raised :
    (∃ vector, estimateCvssAfter (.float (.finite 0)) "Rule 10" = .ok (.finite 1, vector)) ∧
      ∃ s, suggestionOf PyText.ascii (fun _ _ => ⟨"", "", ""⟩)
          [("id", .str "SAST-01"), ("rule_caught", .str "Rule 10"), ("cvss", .float (.finite 0))] 0 = .ok s ∧
        s.cvssReduction = .finite (-1) := by
  have hzero : toFloat (.float (.finite 0)) = .ok (.finite 0) := rfl
  have hafter : ∀ ruleId, afterScore ruleId 0 = 1 := by
    intro ruleId
    rw [afterScore, remaining, zero_mul, sub_zero, roundTenth_zero]
    norm_num
  constructor
  · obtain ⟨vector, hestimate⟩ := estimateCvssAfter_finite hzero "Rule 10"
    rw [hafter] at hestimate
    exact ⟨vector, hestimate⟩
  · obtain ⟨s, hs⟩ := (suggestionOf_returns PyText.ascii (fun _ _ => ⟨"", "", ""⟩)
      [("id", .str "SAST-01"), ("rule_caught", .str "Rule 10"), ("cvss", .float (.finite 0))] 0).mpr
      ⟨fun _ => ⟨_, rfl⟩, ⟨[], rfl⟩, fun h => absurd h (by decide), ⟨_, hzero⟩, ⟨_, rfl⟩⟩
    have hscore : toFloat s.cvssBefore = .ok (.finite 0) := by
      have hbefore : s.cvssBefore = .float (.finite 0) := by
        simp only [suggestionOf, Py.bind_eq_ok] at hs
        obtain ⟨_, _, _, _, _, _, _, _, _, _, _, _, _, _, h⟩ := hs
        obtain rfl := Except.ok.inj h
        rfl
      rw [hbefore, hzero]
    refine ⟨s, hs, ?_⟩
    rw [(suggestionOf_reduction hs hscore).2, hafter]
    exact congrArg FloatValue.finite (by decide +kernel)

end Verdict

end SolanaAuditor.Suggestions
