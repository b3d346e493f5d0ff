/- SolanaAuditor/Klend/Redemption
   digest: The collateral that a reserve says it can redeem is the most that it can. -/

import SolanaAuditor.Klend.ShareValue
import Mathlib.Order.Bounds.Basic

set_option autoImplicit false
set_option relaxedAutoImplicit false

namespace SolanaAuditor.Klend

open SolanaAuditor.Lib SolanaAuditor.Lib.CheckedWords SolanaAuditor.Lib.SharePool Fraction

section Rounding

variable {available price total c : Nat}

/-- Collateral that is not worth more than what is available is at most the ceiling of what
is available in collateral, as long as a unit of collateral is worth a unit. -/
theorem le_ceil_of_worth (htotal : 0 < total) (hprice : 0 < price) (hle : price ≤ total)
    (h : c * total / price ≤ available) : c ≤ (available * price) ⌈/⌉ total := by
  by_contra hlt
  have hnext : (available * price) ⌈/⌉ total + 1 ≤ c := Nat.lt_of_not_le hlt
  have hworth : c * total < (available + 1) * price :=
    (Nat.div_lt_iff_lt_mul hprice).mp (Nat.lt_succ_of_le h)
  have hmore : (available + 1) * price ≤ c * total := by
    calc (available + 1) * price = available * price + price := Nat.succ_mul _ _
      _ ≤ (available * price) ⌈/⌉ total * total + total :=
        Nat.add_le_add (le_ceilDiv_mul _ htotal) hle
      _ = ((available * price) ⌈/⌉ total + 1) * total := (Nat.succ_mul _ _).symm
      _ ≤ c * total := Nat.mul_le_mul_right _ hnext
  omega

/-- Where the ceiling is worth more, the floor is the next one. -/
theorem le_floor_of_worth (htotal : 0 < total)
    (hover : available < (available * price) ⌈/⌉ total * total / price)
    (h : c * total / price ≤ available) : c ≤ available * price / total := by
  have hlt : c < (available * price) ⌈/⌉ total := by
    by_contra hge
    have hmono : (available * price) ⌈/⌉ total * total / price ≤ c * total / price :=
      Nat.div_le_div_right (Nat.mul_le_mul_right _ (Nat.le_of_not_lt hge))
    omega
  have hceil : (available * price) ⌈/⌉ total ≤ available * price / total + 1 := by
    rw [ceilDiv_le_iff_le_mul htotal, Nat.mul_comm]
    exact (Nat.lt_mul_div_succ _ htotal).le
  omega

end Rounding

section Conversions

variable {rate : CollateralExchangeRate} {c x : U64}

theorem liquidityToCollateral_ok (h : rate.liquidityToCollateral x = .ok c) :
    0 < rate.liquidity.sf ∧
      c.val = x.val * (rate.collateralSupply.val * ONE_SCALED) / rate.liquidity.sf := by
  simp only [CollateralExchangeRate.liquidityToCollateral,
    CollateralExchangeRate.liquidityToCollateralFraction, BigFraction.fromNum,
    BigFraction.divFraction, BigFraction.toFraction, bind_eq_ok, fit_eq_ok, BigFraction.ofSf_eq_ok,
    Fraction.ofSf_eq_ok, divide_eq_ok, toFloor_eq_ok] at h
  obtain ⟨f, ⟨product, hproduct, num, hnum, q, ⟨scaled, hscaled, _, ⟨hpos, rfl⟩, hq⟩, hf⟩, hc⟩ := h
  refine ⟨hpos, ?_⟩
  rw [hc, hf, hq, hscaled, hnum, hproduct, Nat.div_div_eq_div_mul,
    Nat.mul_div_mul_right _ _ one_scaled_pos]
  congr 1
  ring

theorem liquidityToCollateralCeil_ok (h : rate.liquidityToCollateralCeil x = .ok c) :
    0 < rate.liquidity.sf ∧
      c.val = (x.val * (rate.collateralSupply.val * ONE_SCALED)) ⌈/⌉ rate.liquidity.sf := by
  simp only [CollateralExchangeRate.liquidityToCollateralCeil,
    CollateralExchangeRate.fractionLiquidityToCollateralCeil, BigFraction.mulInt,
    BigFraction.divCeil, BigFraction.toFraction, bind_eq_ok, minus_eq_ok, BigFraction.ofSf_eq_ok,
    Fraction.ofSf_eq_ok, divide_eq_ok, BigFraction.sf_ofFraction, sf_ofU64] at h
  obtain ⟨f, ⟨num, hnum, q, ⟨scaled, hscaled, sum, hsum, d, hd, _, ⟨hpos, rfl⟩, hq⟩, hf⟩, hc⟩ := h
  refine ⟨hpos, ?_⟩
  have hceil : f.sf = (x.val * (rate.collateralSupply.val * ONE_SCALED) * ONE_SCALED) ⌈/⌉
      rate.liquidity.sf := by
    rw [hf, hq, Nat.ceilDiv_eq_add_pred_div]
    congr 1
    have hprod : scaled.sf = x.val * (rate.collateralSupply.val * ONE_SCALED) * ONE_SCALED := by
      rw [hscaled, hnum]
      ring
    omega
  rw [toCeil_eq_ok hc, hceil, ceilDiv_ceilDiv _ hpos one_scaled_pos,
    mul_ceilDiv_mul _ hpos one_scaled_pos]

/-- What is redeemed, in one division. -/
theorem collateralToLiquidity_eq (h : rate.collateralToLiquidity c = .ok x) :
    x.val = c.val * rate.liquidity.sf / (rate.collateralSupply.val * ONE_SCALED) := by
  rw [(collateralToLiquidity_ok h).2, Nat.div_div_eq_div_mul]

/-- Collateral that is worth a word of liquidity can be redeemed. -/
theorem collateralToLiquidity_isOk (hpos : 0 < rate.collateralSupply.val)
    (h : c.val * rate.liquidity.sf ≤ x.val * (rate.collateralSupply.val * ONE_SCALED)) :
    ∃ y, rate.collateralToLiquidity c = .ok y ∧ y ≤ x := by
  have hc := c.isLt
  have hx := x.isLt
  have hT := rate.liquidity.sf_lt
  have hworth : c.val * rate.liquidity.sf / rate.collateralSupply.val ≤ x.val * ONE_SCALED := by
    refine Nat.div_le_of_le_mul ?_
    rw [Nat.mul_left_comm]
    exact h
  have hproduct : c.val * rate.liquidity.sf ≤ 2 ^ 64 * 2 ^ 128 := Nat.mul_le_mul hc.le hT.le
  have hfits : c.val * ONE_SCALED * rate.liquidity.sf < 2 ^ 256 := by
    rw [Nat.mul_right_comm]
    simp only [ONE_SCALED, FRAC_NBITS]
    omega
  obtain ⟨scaled, hscaled, hscaledSf⟩ := BigFraction.ofSf_isOk hfits
  have hscaledSf : scaled.sf / ONE_SCALED = c.val * rate.liquidity.sf := by
    rw [hscaledSf, Nat.mul_right_comm, Nat.mul_div_cancel _ one_scaled_pos]
  obtain ⟨product, hproductOk, hproductSf⟩ := BigFraction.ofSf_isOk (n := c.val * rate.liquidity.sf)
    (by omega)
  obtain ⟨q, hq, hqSf⟩ := BigFraction.ofSf_isOk
    (n := c.val * rate.liquidity.sf / rate.collateralSupply.val)
    ((Nat.div_le_self _ _).trans_lt (by omega))
  have hqlt : q.sf < 2 ^ 128 := by
    rw [hqSf]
    simp only [ONE_SCALED, FRAC_NBITS] at hworth
    omega
  obtain ⟨f, hf, hfSf⟩ := Fraction.ofSf_isOk hqlt
  have hle : f.sf / ONE_SCALED ≤ x.val := by
    rw [hfSf, hqSf]
    exact Nat.div_le_of_le_mul (hworth.trans_eq (Nat.mul_comm _ _))
  refine ⟨⟨f.sf / ONE_SCALED, hle.trans_lt hx⟩, ?_, hle⟩
  simp only [CollateralExchangeRate.collateralToLiquidity,
    CollateralExchangeRate.fractionCollateralToLiquidity, BigFraction.mul, BigFraction.divInt,
    BigFraction.toFraction, bind_eq_ok, divide_eq_ok, toFloor_eq_ok, BigFraction.sf_ofFraction,
    sf_ofU64]
  rw [← hscaledSf] at hproductOk
  rw [← hproductSf] at hq
  exact ⟨f, ⟨product, ⟨scaled, hscaled, hproductOk⟩, q, ⟨_, ⟨hpos, rfl⟩, hq⟩, hf⟩, rfl⟩

end Conversions

section Redeemable

variable {Pubkey : Type} {r : Reserve} {rate : CollateralExchangeRate} {m : U64}

/-- The exchange rate of a covered reserve is at least one for one. -/
theorem rate_of_covered (h : r.collateralExchangeRate = .ok rate) (hp : r.ledger.Covered) :
    0 < rate.collateralSupply.val ∧ rate.collateralSupply.val * ONE_SCALED ≤ rate.liquidity.sf := by
  rcases Nat.eq_zero_or_pos r.ledger.shares with hzero | hpos
  · rcases collateralExchangeRate_ok h with ⟨rfl, -⟩ | ⟨hpos, -⟩
    · exact ⟨by decide, by decide⟩
    · omega
  · obtain ⟨hsupply, hliquidity⟩ := rate_of_healthy h hp.healthy hpos
    have hle : (r.ledger.shares : Int) * ONE_SCALED ≤ r.ledger.supplySf := hp
    rw [← hliquidity, ← hsupply] at hle
    exact ⟨hsupply ▸ hpos, by exact_mod_cast hle⟩

theorem totalRedeemable_ok (h : r.totalRedeemableCollateralAmount = .ok m)
    (hrate : r.collateralExchangeRate = .ok rate) (hp : r.ledger.Covered) :
    IsGreatest {c | ∃ x, rate.collateralToLiquidity c = .ok x ∧
      x ≤ r.liquidity.totalAvailableAmount} m := by
  obtain ⟨hsupply, hle⟩ := rate_of_covered hrate hp
  have hprice := Nat.mul_pos hsupply one_scaled_pos
  simp only [Reserve.totalRedeemableCollateralAmount, hrate, bind_eq_ok, Except.ok.injEq] at h
  obtain ⟨_, rfl, ceiled, hceiled, worth, hworth, h⟩ := h
  obtain ⟨htotal, hceil⟩ := liquidityToCollateralCeil_ok hceiled
  split at h
  · next hfits =>
    cases h
    refine ⟨⟨worth, hworth, hfits⟩, ?_⟩
    rintro c ⟨x, hx, hxle⟩
    have hxle : x.val ≤ r.liquidity.totalAvailableAmount.val := hxle
    rw [collateralToLiquidity_eq hx] at hxle
    have hc := le_ceil_of_worth htotal hprice hle hxle
    rw [← hceil] at hc
    exact hc
  · next hover =>
    obtain ⟨-, hfloor⟩ := liquidityToCollateral_ok h
    refine ⟨?_, ?_⟩
    · refine collateralToLiquidity_isOk hsupply ?_
      rw [hfloor]
      exact Nat.div_mul_le_self _ _
    · rintro c ⟨x, hx, hxle⟩
      have hxle : x.val ≤ r.liquidity.totalAvailableAmount.val := hxle
      have hover : r.liquidity.totalAvailableAmount.val < worth.val := not_le.mp hover
      rw [collateralToLiquidity_eq hworth, hceil] at hover
      rw [collateralToLiquidity_eq hx] at hxle
      have hc := le_floor_of_worth htotal hover hxle
      rw [← hfloor] at hc
      exact hc

/-- From the creation of a reserve on, and until a loss is socialized, the collateral that the
reserve reports as redeemable is the most whose liquidity is there: so much can be redeemed, and
for any more of it the reserve would have to pay more than it has. -/
theorem total_redeemable_is_greatest (market : LendingMarket) (clock : Clock) (decimals : U64)
    (frozen : Bool) (s : ReserveAccounts) (calls : List (Call Pubkey)) (m : U64)
    (hinit : processInitReserve market clock decimals frozen = .ok s)
    (htake : ∀ call ∈ calls, call.TakesAtMostAll)
    (hloss : ∀ call ∈ calls, call.socializesLoss = false)
    (hm : (run s calls).reserve.totalRedeemableCollateralAmount = .ok m) :
    IsGreatest {c | ∃ x, redeemable (run s calls) c = .ok x ∧
      x ≤ (run s calls).reserve.liquidity.totalAvailableAmount} m := by
  obtain ⟨hsound, hcovered, -⟩ := processInitReserve_ok hinit
  have hrun := covered_run hsound hcovered htake hloss
  obtain ⟨rate, hrate, -⟩ := bind_eq_ok.mp hm
  have hredeemable (c x : U64) :
      redeemable (run s calls) c = .ok x ↔ rate.collateralToLiquidity c = .ok x := by
    simp only [redeemable, hrate, bind_eq_ok, Except.ok.injEq, exists_eq_left']
  simp only [hredeemable]
  exact totalRedeemable_ok hm hrate hrun

set_option maxRecDepth 10000 in
theorem total_redeemable_is_greatest_sample :
    IsGreatest {c | ∃ x, redeemable (run sampleReserve (sampleLoan ++ sampleInterest)) c = .ok x ∧
      x ≤ (run sampleReserve (sampleLoan ++ sampleInterest)).reserve.liquidity.totalAvailableAmount}
      49965 :=
  total_redeemable_is_greatest sampleMarket ⟨0, I64.clamp 0⟩ 6 false sampleReserve
    (sampleLoan ++ sampleInterest) 49965 rfl
    (by simp [sampleLoan, sampleInterest, sampleCall, Call.TakesAtMostAll]) (by decide) rfl

end Redeemable

end SolanaAuditor.Klend
