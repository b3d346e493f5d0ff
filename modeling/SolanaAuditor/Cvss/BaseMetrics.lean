/- SolanaAuditor/Cvss/BaseMetrics
   digest: The base metrics of CVSS 3.1 as types, their weights, and the base score of FIRST. -/

import SolanaAuditor.Lib.Decimal
import Mathlib.Data.Fintype.Basic

set_option autoImplicit false
set_option relaxedAutoImplicit false

namespace SolanaAuditor.Cvss

open SolanaAuditor.Lib.Decimal

inductive AttackVector
  | network | adjacent | nearby | physical
  deriving DecidableEq

inductive AttackComplexity
  | low | high
  deriving DecidableEq

inductive PrivilegesRequired
  | none | low | high
  deriving DecidableEq

inductive UserInteraction
  | none | required
  deriving DecidableEq

inductive Scope
  | unchanged | changed
  deriving DecidableEq

inductive Impact
  | high | low | none
  deriving DecidableEq

/-! Statements over the values of the metrics can be evaluated. -/

instance : Fintype AttackVector := ⟨{.network, .adjacent, .nearby, .physical}, by
  intro x
  cases x <;> simp⟩

instance : Fintype AttackComplexity := ⟨{.low, .high}, by
  intro x
  cases x <;> simp⟩

instance : Fintype PrivilegesRequired := ⟨{.none, .low, .high}, by
  intro x
  cases x <;> simp⟩

instance : Fintype UserInteraction := ⟨{.none, .required}, by
  intro x
  cases x <;> simp⟩

/-! The letters of the vector string. -/

def AttackVector.letter : AttackVector → String
  | .network => "N"
  | .adjacent => "A"
  | .nearby => "L"
  | .physical => "P"

def AttackComplexity.letter : AttackComplexity → String
  | .low => "L"
  | .high => "H"

def PrivilegesRequired.letter : PrivilegesRequired → String
  | .none => "N"
  | .low => "L"
  | .high => "H"

def UserInteraction.letter : UserInteraction → String
  | .none => "N"
  | .required => "R"

def Scope.letter : Scope → String
  | .unchanged => "U"
  | .changed => "C"

def Impact.letter : Impact → String
  | .high => "H"
  | .low => "L"
  | .none => "N"

/-! The weights of the specification. Only the privileges depend on the scope. -/

def AttackVector.weight : AttackVector → ℚ
  | .network => 85 / 100
  | .adjacent => 62 / 100
  | .nearby => 55 / 100
  | .physical => 2 / 10

def AttackComplexity.weight : AttackComplexity → ℚ
  | .low => 77 / 100
  | .high => 44 / 100

def PrivilegesRequired.weight : PrivilegesRequired → Scope → ℚ
  | .none, _ => 85 / 100
  | .low, .unchanged => 62 / 100
  | .low, .changed => 68 / 100
  | .high, .unchanged => 27 / 100
  | .high, .changed => 5 / 10

def UserInteraction.weight : UserInteraction → ℚ
  | .none => 85 / 100
  | .required => 62 / 100

def Impact.weight : Impact → ℚ
  | .high => 56 / 100
  | .low => 22 / 100
  | .none => 0

structure Exploitability where
  av : AttackVector
  ac : AttackComplexity
  pr : PrivilegesRequired
  ui : UserInteraction
  deriving DecidableEq

/-- A legal value for each of the eight base metrics. -/
structure BaseVector where
  exploit : Exploitability
  scope : Scope
  c : Impact
  i : Impact
  a : Impact
  deriving DecidableEq

namespace Exploitability

def score (e : Exploitability) (s : Scope) : ℚ :=
  822 / 100 * e.av.weight * e.ac.weight * e.pr.weight s * e.ui.weight

end Exploitability

/-- The impact sub-score for a scope, from `ISS`. -/
def impactFor : Scope → ℚ → ℚ
  | .unchanged, iss => 642 / 100 * iss
  | .changed, iss => 752 / 100 * (iss - 29 / 1000) - 325 / 100 * (iss - 2 / 100) ^ 15

/-- The base score for a scope, from `ISS` and the exploitability sub-score. -/
def baseFor (s : Scope) (iss exploitability : ℚ) : ℚ :=
  if impactFor s iss ≤ 0 then 0
  else match s with
    | .unchanged => ceilTenth (min (impactFor s iss + exploitability) 10)
    | .changed => ceilTenth (min (108 / 100 * (impactFor s iss + exploitability)) 10)

namespace BaseVector

def iss (b : BaseVector) : ℚ := 1 - (1 - b.c.weight) * (1 - b.i.weight) * (1 - b.a.weight)

/-- The base score of CVSS 3.1 as FIRST defines it, in exact arithmetic. -/
def score (b : BaseVector) : ℚ := baseFor b.scope b.iss (b.exploit.score b.scope)

def components (b : BaseVector) : List (String × String) :=
  [("AV", b.exploit.av.letter), ("AC", b.exploit.ac.letter), ("PR", b.exploit.pr.letter),
    ("UI", b.exploit.ui.letter), ("S", b.scope.letter), ("C", b.c.letter), ("I", b.i.letter),
    ("A", b.a.letter)]

/-- How many of confidentiality, integrity and availability have the impact. -/
def impacts (b : BaseVector) (k : Impact) : Nat := [b.c, b.i, b.a].count k

end BaseVector

section Rounding

/-- Rounding up gives the least multiple of a tenth that is not below. -/
theorem ceilTenth_isLeast (q : ℚ) :
    IsLeast {t : ℚ | (∃ n : ℤ, t = n / 10) ∧ q ≤ t} (ceilTenth q) := by
  constructor
  · refine ⟨⟨⌈q * 10⌉, rfl⟩, ?_⟩
    have hle := Int.le_ceil (q * 10)
    unfold ceilTenth
    linarith
  · intro t ht
    obtain ⟨⟨n, rfl⟩, hle⟩ := ht
    have hceil : ⌈q * 10⌉ ≤ n := Int.ceil_le.mpr (by linarith)
    have hcast : (⌈q * 10⌉ : ℚ) ≤ n := Int.cast_le.mpr hceil
    unfold ceilTenth
    linarith

/-- Numbers a tenth apart are rounded up to different tenths. -/
theorem ceilTenth_lt {p q : ℚ} (h : p + 1 / 10 ≤ q) : ceilTenth p < ceilTenth q := by
  obtain ⟨⟨⟨n, hn⟩, hq⟩, -⟩ := ceilTenth_isLeast q
  have hle : ceilTenth p ≤ ceilTenth q - 1 / 10 := by
    refine (ceilTenth_isLeast p).2 ⟨⟨n - 1, ?_⟩, by linarith⟩
    rw [hn]
    push_cast
    ring
  linarith

end Rounding

end SolanaAuditor.Cvss
