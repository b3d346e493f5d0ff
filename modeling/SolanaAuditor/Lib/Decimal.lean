/- SolanaAuditor/Lib/Decimal
   digest: Rounding of exact numbers to one or two decimals. -/

import Mathlib.Data.Rat.Floor
import Mathlib.Algebra.Order.Ring.Abs
import Mathlib.Tactic.Linarith
import Mathlib.Tactic.NormNum
import Mathlib.Tactic.Positivity
import Mathlib.Tactic.Ring

set_option autoImplicit false
set_option relaxedAutoImplicit false

namespace SolanaAuditor.Lib.Decimal

/-- The nearest integer; a tie goes to the even one. -/
def roundHalfEven (q : ℚ) : ℤ :=
  if q - ⌊q⌋ < 1 / 2 then ⌊q⌋
  else if 1 / 2 < q - ⌊q⌋ then ⌊q⌋ + 1
  else if ⌊q⌋ % 2 = 0 then ⌊q⌋
  else ⌊q⌋ + 1

/-- `round(q, 1)` -/
def roundTenth (q : ℚ) : ℚ := roundHalfEven (q * 10) / 10

/-- `round(q, 2)` -/
def roundHundredth (q : ℚ) : ℚ := roundHalfEven (q * 100) / 100

/-- `math.ceil(q * 10) / 10` -/
def ceilTenth (q : ℚ) : ℚ := ⌈q * 10⌉ / 10

theorem roundHalfEven_intCast (n : ℤ) : roundHalfEven n = n := by
  simp [roundHalfEven]

theorem roundHalfEven_add_even (q : ℚ) (k : ℤ) :
    roundHalfEven (q + (2 * k : ℤ)) = roundHalfEven q + 2 * k := by
  have hfract : q + (2 * k : ℤ) - ⌊q + (2 * k : ℤ)⌋ = q - ⌊q⌋ := by
    rw [Int.floor_add_intCast]
    push_cast
    ring
  have heven : ⌊q + (2 * k : ℤ)⌋ % 2 = ⌊q⌋ % 2 := by
    rw [Int.floor_add_intCast]
    omega
  unfold roundHalfEven
  rw [hfract, heven, Int.floor_add_intCast]
  split_ifs <;> omega

/-- A whole number added before rounding is added after it. -/
theorem roundHundredth_add_int (q : ℚ) (k : ℤ) :
    roundHundredth (q + k) = roundHundredth q + k := by
  have hshift : (q + k) * 100 = q * 100 + (2 * (50 * k) : ℤ) := by
    push_cast
    ring
  unfold roundHundredth
  rw [hshift, roundHalfEven_add_even]
  push_cast
  ring

theorem roundTenth_zero : roundTenth 0 = 0 := by
  have h := roundHalfEven_intCast 0
  rw [Int.cast_zero] at h
  simp [roundTenth, h]

theorem roundHalfEven_bounds (q : ℚ) :
    ⌊q⌋ ≤ roundHalfEven q ∧ roundHalfEven q ≤ ⌊q⌋ + 1 := by
  unfold roundHalfEven
  split_ifs <;> omega

/-- Rounding moves a number by at most a half. -/
theorem roundHalfEven_error (q : ℚ) :
    (roundHalfEven q : ℚ) ≤ q + 1 / 2 ∧ q - 1 / 2 ≤ roundHalfEven q := by
  have hfloor := Int.floor_le q
  have hceil := Int.lt_floor_add_one q
  unfold roundHalfEven
  split_ifs <;> push_cast <;> constructor <;> linarith

theorem roundHalfEven_mono {p q : ℚ} (h : p ≤ q) : roundHalfEven p ≤ roundHalfEven q := by
  rcases (Int.floor_mono h).lt_or_eq with hlt | heq
  · have hp := (roundHalfEven_bounds p).2
    have hq := (roundHalfEven_bounds q).1
    omega
  · -- below the same whole number only the fractions are compared
    unfold roundHalfEven
    rw [heq]
    split_ifs <;> first | omega | linarith

theorem roundTenth_mono {p q : ℚ} (h : p ≤ q) : roundTenth p ≤ roundTenth q := by
  have hround : roundHalfEven (p * 10) ≤ roundHalfEven (q * 10) :=
    roundHalfEven_mono (by linarith)
  have hcast : (roundHalfEven (p * 10) : ℚ) ≤ roundHalfEven (q * 10) := Int.cast_le.mpr hround
  unfold roundTenth
  linarith

theorem roundTenth_le (q : ℚ) : roundTenth q ≤ q + 1 / 20 := by
  have herror := (roundHalfEven_error (q * 10)).1
  unfold roundTenth
  linarith

/-- Only numbers below -0.05 are rounded below 0. -/
theorem roundTenth_nonneg_iff (q : ℚ) : 0 ≤ roundTenth q ↔ -(1 / 20) ≤ q := by
  constructor
  · intro h
    by_contra hlt
    rw [not_le] at hlt
    have hround : (roundHalfEven (q * 10) : ℚ) < 0 := by
      have herror := (roundHalfEven_error (q * 10)).1
      linarith
    unfold roundTenth at h
    linarith
  · intro h
    have hround : roundTenth (-(1 / 20)) ≤ roundTenth q := roundTenth_mono h
    have htie : roundTenth (-(1 / 20)) = 0 := by decide +kernel
    rwa [htie] at hround

theorem ceilTenth_pos {q : ℚ} (h : 0 < q) : 0 < ceilTenth q := by
  have hceil : 0 < ⌈q * 10⌉ := Int.ceil_pos.mpr (by linarith)
  have hcast : (0 : ℚ) < ⌈q * 10⌉ := Int.cast_pos.mpr hceil
  unfold ceilTenth
  positivity

end SolanaAuditor.Lib.Decimal
