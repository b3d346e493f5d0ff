/- SolanaAuditor/Cvss/FirstScore
   digest: compute_cvss_score of severity_counts.py gives the FIRST base score for these vectors. -/

import SolanaAuditor.Cvss.BaseMetrics
import SolanaAuditor.Cvss.Grammar

set_option autoImplicit false
set_option relaxedAutoImplicit false

namespace SolanaAuditor.Cvss

open SolanaAuditor.Lib SolanaAuditor.Lib.Decimal

section Vector

/-- The vector gives each base metric once, in any order, the value that it has. -/
def Spells (v : String) (b : BaseVector) : Prop := ∃ cs, cs.Perm b.components ∧ v = written cs

/-- The weight that the code's table has for the privileges. -/
def PrivilegesRequired.tableWeight : PrivilegesRequired → Scope → ℚ
  | .none, _ => 85 / 100
  | .low, .unchanged => 62 / 100
  | .low, .changed => 68 / 100
  | .high, _ => 5 / 10

def Exploitability.tableScore (e : Exploitability) (s : Scope) : ℚ :=
  SeverityCounts.cvssExploitabilityCoefficient * e.av.weight * e.ac.weight * e.pr.tableWeight s *
    e.ui.weight

/-- What the code's formula gives for the values of the metrics. -/
def BaseVector.tableScore (b : BaseVector) : ℚ :=
  SeverityCounts.baseScore b.scope.letter b.exploit.av.weight b.exploit.ac.weight
    (b.exploit.pr.tableWeight b.scope) b.exploit.ui.weight b.c.weight b.i.weight b.a.weight

instance (s : String) : Decidable (Plain s) := inferInstanceAs (Decidable (_ ∧ _))

theorem components_wellFormed (b : BaseVector) : WellFormed b.components := by
  obtain ⟨⟨av, ac, pr, ui⟩, s, c, i, a⟩ := b
  constructor
  · intro e he
    simp only [BaseVector.components, List.mem_cons, List.not_mem_nil, or_false] at he
    rcases he with rfl | rfl | rfl | rfl | rfl | rfl | rfl | rfl
    · cases av <;> decide
    · cases ac <;> decide
    · cases pr <;> decide
    · cases ui <;> decide
    · cases s <;> decide
    · cases c <;> decide
    · cases i <;> decide
    · cases a <;> decide
  · intro m hm
    simp only [baseMetrics, metrics, List.cons_append, List.nil_append, List.mem_cons,
      List.not_mem_nil, or_false] at hm
    rcases hm with rfl | rfl | rfl | rfl | rfl | rfl | rfl | rfl
    · exact ⟨av.letter, by cases av <;> decide, rfl⟩
    · exact ⟨ac.letter, by cases ac <;> decide, rfl⟩
    · exact ⟨ui.letter, by cases ui <;> decide, rfl⟩
    · exact ⟨pr.letter, by cases pr <;> decide, rfl⟩
    · exact ⟨c.letter, by cases c <;> decide, rfl⟩
    · exact ⟨i.letter, by cases i <;> decide, rfl⟩
    · exact ⟨a.letter, by cases a <;> decide, rfl⟩
    · exact ⟨s.letter, by cases s <;> decide, rfl⟩

theorem Spells.wellFormed {v : String} {b : BaseVector} (h : Spells v b) :
    ∃ cs, WellFormed cs ∧ cs.Perm b.components ∧ v = written cs := by
  obtain ⟨cs, hperm, rfl⟩ := h
  exact ⟨cs, (components_wellFormed b).perm hperm, hperm, rfl⟩

theorem Spells.lastValue {v : String} {b : BaseVector} (h : Spells v b) {e : String × String}
    (he : e ∈ b.components) : Cvss.lastValue v e.1 = some e.2 := by
  obtain ⟨cs, hcs, hperm, rfl⟩ := h.wellFormed
  have hkeys : e.1 ∈ baseMetrics.map Prod.fst := by
    simp only [BaseVector.components, List.mem_cons, List.not_mem_nil, or_false] at he
    rcases he with rfl | rfl | rfl | rfl | rfl | rfl | rfl | rfl <;> simp [baseMetrics, metrics]
  obtain ⟨m, hm, hkey⟩ := List.mem_map.mp hkeys
  obtain ⟨x, -, hfilter, hlast⟩ := hcs.lastValue hm
  have hmem : e ∈ cs.filter fun c => decide (c.1 = m.1) :=
    List.mem_filter.mpr ⟨hperm.mem_iff.mpr he, decide_eq_true hkey.symm⟩
  rw [hfilter, List.mem_singleton] at hmem
  rw [hmem, hlast]

/-- The code scores the vector of some values with its own table and formula. -/
theorem Spells.computeCvssScore {v : String} {b : BaseVector} (h : Spells v b) :
    SeverityCounts.computeCvssScore v = some b.tableScore := by
  obtain ⟨cs, hcs, hperm, hv⟩ := h.wellFormed
  have hparts := components_written hcs.ne_nil hcs.plain
  obtain ⟨m, hm⟩ := SeverityCounts.exists_parseCvssVector (hasPrefix_written cs) hparts.1
  rw [← hv] at hm
  obtain ⟨-, -, hlast⟩ := SeverityCounts.parseCvssVector_eq_some hm
  have hget : ∀ e ∈ b.components, Dict.get? m e.1 = some e.2 := fun e he => by
    rw [hlast, h.lastValue he]
  have hlookup : ∀ (table : Table) (e : String × String) (q : ℚ), e ∈ b.components →
      Dict.get? table e.2 = some q → SeverityCounts.lookup table m e.1 = some q := by
    intro table e q he hq
    rw [SeverityCounts.lookup, hget e he]
    exact hq
  obtain ⟨⟨av, ac, pr, ui⟩, s, c, i, a⟩ := b
  have hscope : (Dict.get? m "S").getD "U" = s.letter := by
    rw [hget ("S", s.letter) (by simp [BaseVector.components])]
    rfl
  have himpact : ∀ k : Impact, Dict.get? impactTable k.letter = some k.weight := by
    intro k
    cases k <;> rfl
  refine SeverityCounts.computeCvssScore_eq_some.mpr ⟨m, av.weight, ac.weight, ui.weight,
    pr.tableWeight s, c.weight, i.weight, a.weight, hm, ?_, ?_, ?_, ?_, ?_, ?_, ?_, ?_⟩
  · exact hlookup avTable ("AV", av.letter) _ (by simp [BaseVector.components])
      (by cases av <;> rfl)
  · exact hlookup acTable ("AC", ac.letter) _ (by simp [BaseVector.components])
      (by cases ac <;> rfl)
  · exact hlookup uiTable ("UI", ui.letter) _ (by simp [BaseVector.components])
      (by cases ui <;> rfl)
  · rw [hscope]
    exact hlookup _ ("PR", pr.letter) _ (by simp [BaseVector.components])
      (by cases pr <;> cases s <;> rfl)
  · exact hlookup impactTable ("C", c.letter) _ (by simp [BaseVector.components]) (himpact c)
  · exact hlookup impactTable ("I", i.letter) _ (by simp [BaseVector.components]) (himpact i)
  · exact hlookup impactTable ("A", a.letter) _ (by simp [BaseVector.components]) (himpact a)
  · rw [hscope]
    rfl

end Vector

section Formula

/-- The code's formula from `ISS` and the exploitability sub-score. -/
def tableBaseFor (s : Scope) (iss exploitability : ℚ) : ℚ :=
  if SeverityCounts.impact s.letter iss ≤ 0 then 0
  else match s with
    | .unchanged => ceilTenth (min (SeverityCounts.impact "U" iss + exploitability) 10)
    | .changed =>
        ceilTenth (min (108 / 100 * (SeverityCounts.impact "C" iss + exploitability)) 10)

theorem tableScore_eq (b : BaseVector) :
    b.tableScore = tableBaseFor b.scope b.iss (b.exploit.tableScore b.scope) := by
  obtain ⟨e, s, c, i, a⟩ := b
  cases s <;> rfl

/-- `ISS` from the number of high and of low impacts. -/
def issOf (highs lows : Nat) : ℚ := 1 - (44 / 100) ^ highs * (78 / 100) ^ lows

theorem iss_eq (b : BaseVector) : b.iss = issOf (b.impacts .high) (b.impacts .low) := by
  obtain ⟨e, s, c, i, a⟩ := b
  cases c <;> cases i <;> cases a <;>
    simp [BaseVector.iss, BaseVector.impacts, issOf, Impact.weight] <;> norm_num

end Formula

section Unchanged

/-! For an unchanged scope only the weight of high privileges differs, and the rounding never
hides the difference. -/

theorem weight_bounds (k : Impact) : 0 ≤ k.weight ∧ k.weight ≤ 56 / 100 := by
  cases k <;> norm_num [Impact.weight]

theorem iss_pos {b : BaseVector} (h : b.impacts .none ≠ 3) : 0 < b.iss ∧ b.iss ≤ 1 := by
  obtain ⟨e, s, c, i, a⟩ := b
  obtain ⟨hc, hi, ha, hone⟩ := SeverityCounts.impactSubScore_bounds (weight_bounds c)
    (weight_bounds i) (weight_bounds a)
  refine ⟨?_, hone⟩
  have hpos : ∀ k : Impact, k ≠ .none → 0 < k.weight := by
    intro k hk
    cases k <;> simp_all [Impact.weight]
  by_cases hcn : c = .none
  · by_cases hin : i = .none
    · have han : a ≠ .none := by
        rintro rfl
        exact h (by rw [hcn, hin]; rfl)
      exact (hpos a han).trans_le ha
    · exact (hpos i hin).trans_le hi
  · exact (hpos c hcn).trans_le hc

/-- The part of the exploitability that does not depend on the privileges. -/
theorem reach_bounds (e : Exploitability) :
    54 / 1000 ≤ e.av.weight * e.ac.weight * e.ui.weight ∧
      e.av.weight * e.ac.weight * e.ui.weight ≤ 56 / 100 := by
  obtain ⟨av, ac, pr, ui⟩ := e
  cases av <;> cases ac <;> cases ui <;>
    norm_num [AttackVector.weight, AttackComplexity.weight, UserInteraction.weight]

theorem impact_unchanged (iss : ℚ) : SeverityCounts.impact "U" iss = impactFor .unchanged iss := rfl

/-- The code scores high privileges by at least a tenth too high. -/
theorem score_lt_tableScore {b : BaseVector} (hs : b.scope = .unchanged)
    (hpr : b.exploit.pr = .high) (himpact : b.impacts .none ≠ 3) : b.score < b.tableScore := by
  obtain ⟨hpos, hone⟩ := iss_pos himpact
  obtain ⟨hlow, hhigh⟩ := reach_bounds b.exploit
  have hscore : b.exploit.score .unchanged = 822 / 100 * (27 / 100) *
      (b.exploit.av.weight * b.exploit.ac.weight * b.exploit.ui.weight) := by
    rw [Exploitability.score, hpr, PrivilegesRequired.weight]
    ring
  have htable : b.exploit.tableScore .unchanged = 822 / 100 * (5 / 10) *
      (b.exploit.av.weight * b.exploit.ac.weight * b.exploit.ui.weight) := by
    rw [Exploitability.tableScore, hpr, PrivilegesRequired.tableWeight,
      SeverityCounts.cvssExploitabilityCoefficient]
    ring
  have himp : impactFor .unchanged b.iss = 642 / 100 * b.iss := rfl
  have hnot : ¬ impactFor .unchanged b.iss ≤ 0 := by
    rw [himp]
    linarith
  rw [tableScore_eq, BaseVector.score, hs, baseFor, tableBaseFor, Scope.letter, impact_unchanged,
    if_neg hnot, if_neg hnot]
  refine ceilTenth_lt ?_
  -- neither base reaches the cap of 10
  rw [min_eq_left (by linarith), min_eq_left (by linarith)]
  linarith

theorem unchanged_iff {b : BaseVector} (hs : b.scope = .unchanged) :
    b.tableScore = b.score ↔ b.exploit.pr ≠ .high ∨ b.impacts .none = 3 := by
  constructor
  · intro heq
    by_contra hnot
    obtain ⟨hpr, himpact⟩ := not_or.mp hnot
    exact absurd heq (score_lt_tableScore hs (not_not.mp hpr) himpact).ne'
  · intro h
    rw [tableScore_eq, BaseVector.score, hs, baseFor, tableBaseFor, Scope.letter, impact_unchanged]
    rcases h with hpr | himpact
    · have hweight : b.exploit.pr.tableWeight .unchanged = b.exploit.pr.weight .unchanged := by
        cases hp : b.exploit.pr with
        | none => rfl
        | low => rfl
        | high => exact absurd hp hpr
      rw [Exploitability.tableScore, hweight]
      rfl
    · have hzero : b.iss = 0 := by
        obtain ⟨e, s, c, i, a⟩ := b
        revert himpact
        cases c <;> cases i <;> cases a <;>
          simp [BaseVector.impacts, BaseVector.iss, Impact.weight]
      simp [hzero, impactFor]

end Unchanged

section Changed

/-! For a changed scope the code's coefficient of the fifteenth power is too small. The number
of high and low impacts and the exploitability metrics say when the rounding hides it. -/

/-- With at most one high impact: where the rounded scores still differ. -/
def apart : Nat → Nat → List Exploitability
  | 1, 0 => [⟨.physical, .low, .none, .none⟩]
  | 1, 2 => [⟨.network, .low, .none, .none⟩, ⟨.physical, .low, .low, .none⟩,
      ⟨.network, .high, .none, .none⟩, ⟨.network, .low, .high, .required⟩,
      ⟨.network, .high, .low, .required⟩, ⟨.adjacent, .low, .high, .none⟩,
      ⟨.adjacent, .high, .low, .none⟩, ⟨.nearby, .low, .high, .none⟩,
      ⟨.nearby, .high, .low, .required⟩]
  | _, _ => []

/-- With several high impacts: where the rounded scores coincide. -/
def together : Nat → Nat → List Exploitability
  | 2, 0 => [⟨.network, .low, .none, .none⟩, ⟨.adjacent, .low, .low, .required⟩,
      ⟨.nearby, .low, .low, .required⟩]
  | _, _ => [⟨.network, .low, .none, .none⟩]

def RoundsAlike (highs lows : Nat) (e : Exploitability) : Prop :=
  if highs ≤ 1 then e ∉ apart highs lows else e ∈ together highs lows

instance (highs lows : Nat) (e : Exploitability) : Decidable (RoundsAlike highs lows e) := by
  unfold RoundsAlike
  infer_instance

def shapes : List (Nat × Nat) :=
  [(0, 0), (0, 1), (0, 2), (0, 3), (1, 0), (1, 1), (1, 2), (2, 0), (2, 1), (3, 0)]

/-- Each number of impacts with each of the 48 exploitabilities. -/
theorem roundsAlike_iff : ∀ n ∈ shapes, ∀ av ac pr ui,
    tableBaseFor .changed (issOf n.1 n.2) (Exploitability.tableScore ⟨av, ac, pr, ui⟩ .changed) =
      baseFor .changed (issOf n.1 n.2) (Exploitability.score ⟨av, ac, pr, ui⟩ .changed) ↔
        RoundsAlike n.1 n.2 ⟨av, ac, pr, ui⟩ := by
  decide +kernel

theorem impacts_mem_shapes (b : BaseVector) : (b.impacts .high, b.impacts .low) ∈ shapes := by
  obtain ⟨e, s, c, i, a⟩ := b
  cases c <;> cases i <;> cases a <;> simp [BaseVector.impacts, shapes]

theorem changed_iff {b : BaseVector} (hs : b.scope = .changed) :
    b.tableScore = b.score ↔ RoundsAlike (b.impacts .high) (b.impacts .low) b.exploit := by
  rw [tableScore_eq, BaseVector.score, hs, iss_eq]
  exact roundsAlike_iff _ (impacts_mem_shapes b) _ _ _ _

end Changed

section Verdict

/-- Where the slips of the code do not show: for an unchanged scope privileges other than high
or no impact at all, for a changed scope the listed cases. -/
def BaseVector.Spared (b : BaseVector) : Prop :=
  match b.scope with
  | .unchanged => b.exploit.pr ≠ .high ∨ b.impacts .none = 3
  | .changed => RoundsAlike (b.impacts .high) (b.impacts .low) b.exploit

/-- The vectors whose score is the one that FIRST defines. -/
theorem first_score_iff {v : String} {b : BaseVector} (h : Spells v b) :
    SeverityCounts.computeCvssScore v = some b.score ↔ b.Spared := by
  rw [h.computeCvssScore, Option.some.injEq, BaseVector.Spared]
  cases hs : b.scope with
  | unchanged => exact unchanged_iff hs
  | changed => exact changed_iff hs

/-- The vector `AV:N/AC:L/PR:L/UI:N/S:U/C:H/I:L/A:N` has the score of FIRST. -/
theorem first_score_low_privileges :
    SeverityCounts.computeCvssScore "CVSS:3.1/AV:N/AC:L/PR:L/UI:N/S:U/C:H/I:L/A:N" =
      some (BaseVector.score
        ⟨⟨.network, .low, .low, .none⟩, .unchanged, .high, .low, .none⟩) :=
  (first_score_iff ⟨_, List.Perm.refl _, by decide⟩).mpr (Or.inl (by decide))

/-- High privileges with an unchanged scope: 8.2 where FIRST has 7.2. -/
theorem high_privileges_overscored :
    Spells "CVSS:3.1/AV:N/AC:L/PR:H/UI:N/S:U/C:H/I:H/A:H"
        ⟨⟨.network, .low, .high, .none⟩, .unchanged, .high, .high, .high⟩ ∧
      SeverityCounts.computeCvssScore "CVSS:3.1/AV:N/AC:L/PR:H/UI:N/S:U/C:H/I:H/A:H" =
        some (82 / 10) ∧
      BaseVector.score ⟨⟨.network, .low, .high, .none⟩, .unchanged, .high, .high, .high⟩ =
        72 / 10 :=
  ⟨⟨_, List.Perm.refl _, by decide⟩, by decide +kernel, by decide +kernel⟩

end Verdict

end SolanaAuditor.Cvss
