/- SolanaAuditor/Klend/ExchangeRate
   digest: What each operation of a reserve does to its supply and to its collateral. -/

import SolanaAuditor.Klend.Operations
import SolanaAuditor.Lib.SharePool

set_option autoImplicit false
set_option relaxedAutoImplicit false

namespace SolanaAuditor.Klend

open SolanaAuditor.Lib SolanaAuditor.Lib.CheckedWords SolanaAuditor.Lib.SharePool Fraction

section Ledgers

/-- The numbers of a reserve that its accounting is about. -/
@[ext]
structure Ledger where
  available : Nat
  rewards : Nat
  borrowedSf : Nat
  protocolFeesSf : Nat
  referrerFeesSf : Nat
  pendingFeesSf : Nat
  shares : Nat
  borrowIndexSf : Nat
  takeRate : Nat
  version : Nat
  queue : WithdrawQueue

def Reserve.ledger (r : Reserve) : Ledger where
  available := r.liquidity.totalAvailableAmount.val
  rewards := r.liquidity.rewardsAmountAvailable.val
  borrowedSf := r.liquidity.borrowedAmountSf.val
  protocolFeesSf := r.liquidity.accumulatedProtocolFeesSf.val
  referrerFeesSf := r.liquidity.accumulatedReferrerFeesSf.val
  pendingFeesSf := r.liquidity.pendingReferrerFeesSf.val
  shares := r.collateral.mintTotalSupply.val
  borrowIndexSf := r.liquidity.cumulativeBorrowRateBsf.sf
  takeRate := r.config.protocolTakeRatePct.val
  version := r.version.val
  queue := r.withdrawQueue

namespace Ledger

variable (p : Ledger)

/-- The fees that are not the depositors'. -/
def feesSf : Nat := p.protocolFeesSf + p.referrerFeesSf + p.pendingFeesSf

/-- The scaled total supply, also where the code would not have one. -/
def supplySf : Int := (p.available * ONE_SCALED + p.borrowedSf : Nat) - (p.feesSf : Nat)

/-- What the supply counts besides the liquidity that is there. -/
def owedSf : Int := (p.borrowedSf : Int) - p.feesSf

theorem supplySf_eq : p.supplySf = p.available * (ONE_SCALED : Int) + p.owedSf := by
  simp only [supplySf, owedSf]
  push_cast
  ring

/-- Everything the reserve accounts for in its liquidity vault. -/
def cash : Nat := p.available + p.rewards

/-- The supply divided into the collateral. -/
def pool : Pool Int := ⟨p.supplySf, p.shares⟩

@[simp] theorem pool_assets : p.pool.assets = p.supplySf := rfl

@[simp] theorem pool_shares : p.pool.shares = p.shares := rfl

end Ledger

theorem totalSupply_ok {r : Reserve} {T : Fraction} (h : r.liquidity.totalSupply = .ok T) :
    (T.sf : Int) = r.ledger.supplySf := by
  simp only [ReserveLiquidity.totalSupply, bind_eq_ok, add_eq_ok, sub_eq_ok, sf_ofU64] at h
  obtain ⟨gross, hgross, net, hnet, net', hnet', hT⟩ := h
  simp only [Fraction.sf] at *
  simp only [Ledger.supplySf, Ledger.feesSf, Reserve.ledger]
  omega

end Ledgers

section Conversions

variable {rate : CollateralExchangeRate} {c x : U64}

/-- Redeemed collateral is paid at most what it is worth. -/
theorem collateralToLiquidity_ok (h : rate.collateralToLiquidity c = .ok x) :
    0 < rate.collateralSupply.val ∧
      x.val = c.val * rate.liquidity.sf / rate.collateralSupply.val / ONE_SCALED := by
  simp only [CollateralExchangeRate.collateralToLiquidity, toFloor_eq_ok, bind_eq_ok,
    CollateralExchangeRate.fractionCollateralToLiquidity, BigFraction.mul, BigFraction.divInt,
    BigFraction.toFraction, BigFraction.ofSf_eq_ok, Fraction.ofSf_eq_ok, divide_eq_ok,
    BigFraction.sf_ofFraction, sf_ofU64] at h
  obtain ⟨f, ⟨product, ⟨scaled, hscaled, hproduct⟩, q, ⟨_, ⟨hpos, rfl⟩, hq⟩, hf⟩, hx⟩ := h
  refine ⟨hpos, ?_⟩
  rw [hx, hf, hq, hproduct, hscaled, Nat.mul_right_comm, Nat.mul_div_cancel _ one_scaled_pos]

/-- Minted collateral is paid at least what it is worth. -/
theorem collateralToLiquidityCeil_ok (h : rate.collateralToLiquidityCeil c = .ok x) :
    0 < rate.collateralSupply.val ∧
      x.val = (c.val * rate.liquidity.sf) ⌈/⌉ (rate.collateralSupply.val * ONE_SCALED) := by
  simp only [CollateralExchangeRate.collateralToLiquidityCeil, bind_eq_ok, fit_eq_ok, minus_eq_ok,
    divide_eq_ok, Fraction.ofSf_eq_ok] at h
  obtain ⟨product, hproduct, d, hd, sum, hsum, _, ⟨hpos, rfl⟩, f, hf, hx⟩ := h
  refine ⟨hpos, ?_⟩
  have hceil : f.sf = (c.val * rate.liquidity.sf) ⌈/⌉ rate.collateralSupply.val := by
    rw [hf, hsum, hproduct, Nat.ceilDiv_eq_add_pred_div]
    congr 1
    omega
  rw [toCeil_eq_ok hx, hceil, ceilDiv_ceilDiv _ hpos one_scaled_pos]

theorem collateralToLiquidity_le (h : rate.collateralToLiquidity c = .ok x) :
    x.val * ONE_SCALED * rate.collateralSupply.val ≤ c.val * rate.liquidity.sf := by
  obtain ⟨hpos, hx⟩ := collateralToLiquidity_ok h
  calc x.val * ONE_SCALED * rate.collateralSupply.val
      ≤ c.val * rate.liquidity.sf / rate.collateralSupply.val * rate.collateralSupply.val := by
        rw [hx]
        exact Nat.mul_le_mul_right _ (Nat.div_mul_le_self _ _)
    _ ≤ c.val * rate.liquidity.sf := Nat.div_mul_le_self _ _

theorem le_collateralToLiquidityCeil (h : rate.collateralToLiquidityCeil c = .ok x) :
    c.val * rate.liquidity.sf ≤ x.val * ONE_SCALED * rate.collateralSupply.val := by
  obtain ⟨hpos, hx⟩ := collateralToLiquidityCeil_ok h
  have hceil := le_ceilDiv_mul (c.val * rate.liquidity.sf) (Nat.mul_pos hpos one_scaled_pos)
  rw [← hx] at hceil
  calc c.val * rate.liquidity.sf ≤ x.val * (rate.collateralSupply.val * ONE_SCALED) := hceil
    _ = x.val * ONE_SCALED * rate.collateralSupply.val := by ring

/-- At the rate of a new reserve, collateral and liquidity are exchanged one for one. -/
theorem collateralToLiquidity_one (h : CollateralExchangeRate.ONE.collateralToLiquidity c = .ok x) :
    x = c := by
  apply Fin.ext
  rw [(collateralToLiquidity_ok h).2]
  change c.val * ONE_SCALED / 1 / ONE_SCALED = c.val
  rw [Nat.div_one, Nat.mul_div_cancel _ one_scaled_pos]

theorem collateralToLiquidityCeil_one
    (h : CollateralExchangeRate.ONE.collateralToLiquidityCeil c = .ok x) : x = c := by
  apply Fin.ext
  rw [(collateralToLiquidityCeil_ok h).2]
  change (c.val * ONE_SCALED) ⌈/⌉ (1 * ONE_SCALED) = c.val
  rw [mul_ceilDiv_mul _ Nat.one_pos one_scaled_pos, ceilDiv_one]

end Conversions

section Rates

variable {r : Reserve} {rate : CollateralExchangeRate}

/-- Either the rate is one for one, and no share or no supply is outstanding, or it is the supply
over the shares. -/
theorem collateralExchangeRate_ok (h : r.collateralExchangeRate = .ok rate) :
    (rate = .ONE ∧ (r.ledger.shares = 0 ∨ r.ledger.supplySf = 0)) ∨
      (0 < r.ledger.shares ∧ 0 < r.ledger.supplySf ∧
        rate.collateralSupply.val = r.ledger.shares ∧
        (rate.liquidity.sf : Int) = r.ledger.supplySf) := by
  simp only [Reserve.collateralExchangeRate, bind_eq_ok, pure, Except.pure, Except.ok.injEq] at h
  obtain ⟨T, hT, rfl⟩ := h
  have hsupply := totalSupply_ok hT
  unfold ReserveCollateral.exchangeRate
  split
  · next hzero =>
    refine .inl ⟨rfl, hzero.imp id ?_⟩
    rintro rfl
    simpa using hsupply.symm
  · next hpos =>
    obtain ⟨hshares, hassets⟩ := not_or.mp hpos
    refine .inr ⟨Nat.pos_of_ne_zero hshares, ?_, rfl, hsupply⟩
    have hne : T.sf ≠ 0 := fun h => hassets (sf_injective h)
    rw [← hsupply]
    exact_mod_cast Nat.pos_of_ne_zero hne

end Rates

end SolanaAuditor.Klend
