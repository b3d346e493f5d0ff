/- SolanaAuditor/Klend/Accounting
   digest: Each operation of klend as payments of the vault that take nothing from a share. -/

import SolanaAuditor.Klend.Ledger

set_option autoImplicit false
set_option relaxedAutoImplicit false

namespace SolanaAuditor.Klend

open SolanaAuditor.Lib SolanaAuditor.Lib.CheckedWords SolanaAuditor.Lib.SharePool Fraction

section Shares

variable {r r' : Reserve} {rate : CollateralExchangeRate} {c x : U64} {q : Ledger}

/-- Where shares are outstanding, the one for one rate of an empty reserve is not used. -/
theorem rate_of_healthy (h : r.collateralExchangeRate = .ok rate) (hp : r.ledger.pool.Healthy)
    (hshares : 0 < r.ledger.shares) :
    rate.collateralSupply.val = r.ledger.shares ∧ (rate.liquidity.sf : Int) = r.ledger.supplySf := by
  rcases collateralExchangeRate_ok h with ⟨-, hzero⟩ | ⟨-, -, hsupply, hliquidity⟩
  · have hbacked := hp.backed (by simpa using hshares)
    rw [Ledger.pool_assets] at hbacked
    omega
  · exact ⟨hsupply, hliquidity⟩

theorem burn_move (h : r.collateralExchangeRate = .ok rate)
    (hx : rate.collateralToLiquidity c = .ok x) (hc : c.val ≠ 0)
    (hsupply : q.supplySf + (x.val * ONE_SCALED : Nat) = r.ledger.supplySf)
    (hshares : q.shares + c.val = r.ledger.shares) (hp : r.ledger.pool.Healthy) :
    Move (ONE_SCALED : Int) r.ledger.pool q.pool := by
  have hpos : 0 < r.ledger.shares := by omega
  obtain ⟨hrateShares, hrateSupply⟩ := rate_of_healthy h hp hpos
  have hle := collateralToLiquidity_le hx
  refine .burn (x.val * ONE_SCALED : Nat) c.val ?_ ?_ ?_ ?_ ?_
  · simp only [Ledger.pool_assets]
    omega
  · simp only [Ledger.pool_shares]
    omega
  · simp only [Ledger.pool_shares]
    omega
  · simpa using hpos
  · simp only [Ledger.pool_assets, Ledger.pool_shares, ← hrateShares, ← hrateSupply]
    exact_mod_cast hle

theorem mint_move (h : r.collateralExchangeRate = .ok rate)
    (hx : rate.collateralToLiquidityCeil c = .ok x)
    (hsupply : q.supplySf = r.ledger.supplySf + (x.val * ONE_SCALED : Nat))
    (hshares : q.shares = r.ledger.shares + c.val) (hp : r.ledger.pool.Healthy) :
    Move (ONE_SCALED : Int) r.ledger.pool q.pool := by
  rcases Nat.eq_zero_or_pos r.ledger.shares with hzero | hpos
  · -- Nothing is outstanding: the rate is one for one.
    have hone : rate = .ONE := by
      rcases collateralExchangeRate_ok h with ⟨rfl, -⟩ | ⟨hpos, -⟩
      · rfl
      · omega
    subst hone
    obtain rfl := collateralToLiquidityCeil_one hx
    refine .first x.val (by omega) ?_ ?_ ?_
    · simpa using hzero
    · simp only [Ledger.pool_assets, hsupply]
      push_cast
      exact le_rfl
    · simp only [Ledger.pool_shares, hshares, hzero, Nat.zero_add]
  · obtain ⟨hrateShares, hrateSupply⟩ := rate_of_healthy h hp hpos
    have hle := le_collateralToLiquidityCeil hx
    refine .mint (x.val * ONE_SCALED : Nat) c.val (by omega) (by omega) ?_ ?_ ?_ ?_
    · simp only [Ledger.pool_assets, hsupply]
      exact le_rfl
    · simp only [Ledger.pool_shares, hshares]
      push_cast
      rfl
    · simpa using hpos
    · simp only [Ledger.pool_assets, Ledger.pool_shares, ← hrateShares, ← hrateSupply]
      exact_mod_cast hle

theorem redeemCollateral_ok {useWithdrawQueue : Bool}
    (h : r.redeemCollateral c useWithdrawQueue = .ok (x, r')) (hc : c.val ≠ 0) :
    r.ledger.Moves r'.ledger 0 x.val ∧ r'.ledger.shares + c.val = r.ledger.shares ∧
      r'.ledger.owedSf = r.ledger.owedSf := by
  simp only [Reserve.redeemCollateral, ReserveCollateral.burn, bind_eq_ok, minus_eq_ok, fit_eq_ok,
    pure, Except.pure, Except.ok.injEq, Prod.mk.injEq] at h
  obtain ⟨rate, hrate, amount, hamount, mid, hmid, collateral, ⟨rest, hrest, shares, hshares, rfl⟩,
    rfl, rfl⟩ := h
  obtain ⟨available, havailable, hledger⟩ := withdraw_ok hmid
  have hmidShares : mid.collateral.mintTotalSupply.val = r.ledger.shares :=
    congrArg Ledger.shares hledger
  have hfinal : ({ mid with collateral := { mintTotalSupply := shares } } : Reserve).ledger =
      { r.ledger with available, shares := shares.val } :=
    congrArg (fun p : Ledger => { p with shares := shares.val }) hledger
  have hburned : shares.val + c.val = r.ledger.shares := by omega
  rw [hfinal]
  refine ⟨⟨havailable, rfl, fun hp => burn_move hrate hamount hc ?_ hburned hp, rfl, rfl, rfl, rfl⟩,
    hburned, rfl⟩
  simp only [Ledger.supplySf, Ledger.feesSf, ONE_SCALED, FRAC_NBITS]
  omega

theorem redeemReserveCollateral_ok {clock : Clock} {options : RedeemCollateralOptions}
    (h : redeemReserveCollateral r c clock options = .ok (x, r')) :
    r.ledger.Moves r'.ledger 0 x.val ∧ r'.ledger.shares + c.val = r.ledger.shares ∧
      r'.ledger.owedSf = r.ledger.owedSf := by
  simp only [redeemReserveCollateral, bind_eq_ok, require_eq_ok, pure, Except.pure,
    Except.ok.injEq, Prod.mk.injEq] at h
  obtain ⟨-, hc, -, -, ⟨amount, mid⟩, hmid, timestamp, -, limited, hlimited, counted, hcounted,
    rfl, rfl⟩ := h
  rw [countWithdrawal_ok hcounted, ledger_markStale, refreshReserveLimitTimestamps_ok hlimited]
  exact redeemCollateral_ok hmid hc

/-- The deposit takes at most what was offered. -/
theorem depositReserveLiquidity_ok {clock : Clock} {amount d : U64}
    (h : depositReserveLiquidity r clock amount = .ok ((d, c), r')) :
    r.ledger.Moves r'.ledger d.val 0 ∧ r'.ledger.shares = r.ledger.shares + c.val ∧ d ≤ amount ∧
      r'.lastUpdate.slot = clock.slot ∧ r'.ledger.owedSf = r.ledger.owedSf := by
  simp only [depositReserveLiquidity, Reserve.computeDepositableAmountAndMintedCollateral,
    Reserve.depositLiquidity, ReserveLiquidity.deposit, ReserveCollateral.mint, bind_eq_ok,
    require_eq_ok, fit_eq_ok, pure, Except.pure, Except.ok.injEq, Prod.mk.injEq] at h
  obtain ⟨-, -, _, hfresh, ⟨d', c'⟩, ⟨rate, hrate, minted, -, rate', hrate', deposited, hdeposited,
    -, hle, rfl, rfl⟩, _, -, _, -, -, -, _, -, cap, -, mid, ⟨l, ⟨available, havailable, rfl⟩,
    collateral, ⟨shares, hshares, rfl⟩, rfl⟩, ⟨rfl, rfl⟩, rfl⟩ := h
  have hledger : (Reserve.markStale { withDepositCap r cap with
      liquidity := { (withDepositCap r cap).liquidity with totalAvailableAmount := available }
      collateral := { mintTotalSupply := shares } }).ledger =
      { r.ledger with
        available := r.ledger.available + d.val
        shares := r.ledger.shares + c.val } := by
    change { r.ledger with available := available.val, shares := shares.val } = _
    rw [havailable, hshares]
    rfl
  rw [hledger]
  refine ⟨⟨rfl, rfl, fun hp => mint_move hrate' hdeposited ?_ rfl hp, rfl, rfl, rfl, rfl⟩, rfl, hle,
    (requireFresh_ok hfresh : r.lastUpdate.slot = clock.slot), rfl⟩
  simp only [Ledger.supplySf, Ledger.feesSf, ONE_SCALED, FRAC_NBITS]
  omega

end Shares

section Borrowing

variable {market : LendingMarket} {clock : Clock} {r r' : Reserve} {hasReferrer : Bool}
  {fee referrerFee : U64} {bps : U16} {amount : Fraction} {result : CalculateBorrowResult}

/-- The part of a fee that is the referrer's is owed only when there is one to pay. -/
theorem calculateFees_ok {feeSf : U64} {calculation : FeeCalculation}
    (h : calculateFees amount feeSf calculation bps hasReferrer = .ok (fee, referrerFee))
    (hnone : ¬(hasReferrer = true ∧ 0 < bps.val)) : referrerFee.val = 0 := by
  unfold calculateFees at h
  obtain ⟨rate, hrate, h⟩ := bind_eq_ok.mp h
  split at h
  · obtain ⟨feeAmount, -, h⟩ := bind_eq_ok.mp h
    obtain ⟨_, -, h⟩ := bind_eq_ok.mp h
    obtain ⟨origination, -, h⟩ := bind_eq_ok.mp h
    split at h
    · next hpays =>
      have hpos : 0 < rate.sf := lt_iff.mp hpays.1
      rw [fromBps_eq_ok hrate] at hpos
      refine absurd ⟨hpays.2, Nat.pos_of_ne_zero fun hzero => ?_⟩ hnone
      simp [hzero] at hpos
    · cases h
      rfl
  · cases h
    rfl

theorem payReferrer_ok (h : payReferrer market r referrerFee hasReferrer = .ok r')
    (hnone : ¬(hasReferrer = true ∧ 0 < market.referralFeeBps.val) → referrerFee.val = 0) :
    r'.ledger = { r.ledger with
      available := r.ledger.available + referrerFee.val
      referrerFeesSf := r.ledger.referrerFeesSf + referrerFee.val * ONE_SCALED } := by
  unfold payReferrer at h
  split at h
  · simp only [addReferrerFee, bind_eq_ok, add_eq_ok, fit_eq_ok, sf_ofU64, pure, Except.pure,
      Except.ok.injEq] at h
    obtain ⟨_, ⟨fees, hfees, rfl⟩, available, havailable, rfl⟩ := h
    have hsf : fees.bits.val = r.liquidity.accumulatedReferrerFeesSf.val +
        referrerFee.val * ONE_SCALED := hfees
    simp only [Reserve.ledger, havailable, hsf]
  · next hno =>
    cases h
    rw [hnone hno]
    rfl

/-- What a borrow pays out, with what it leaves for the referrer, is the whole part of it. -/
structure BorrowAddsUp (market : LendingMarket) (hasReferrer : Bool)
    (result : CalculateBorrowResult) : Prop where
  whole : result.borrowAmountF.sf / ONE_SCALED =
    result.originationFee.val + result.receiveAmount.val + result.referrerFee.val
  referrer : ¬(hasReferrer = true ∧ 0 < market.referralFeeBps.val) → result.referrerFee.val = 0

theorem calculateBorrowAllAvailable_ok {maxDebtValue factor : Fraction}
    (h : calculateBorrowAllAvailable r maxDebtValue market.referralFeeBps hasReferrer factor =
      .ok result) : BorrowAddsUp market hasReferrer result := by
  simp only [calculateBorrowAllAvailable, bind_eq_ok, toFloor_eq_ok, minus_eq_ok, fit_eq_ok, pure,
    Except.pure, Except.ok.injEq] at h
  obtain ⟨_, -, _, -, _, -, ⟨fee, referrerFee⟩, hfees, floor, hfloor, afterFee, hafterFee, rest,
    hrest, receive, hreceive, rfl⟩ := h
  refine ⟨?_, calculateFees_ok hfees⟩
  change _ = fee.val + receive.val + referrerFee.val
  dsimp only at hafterFee hrest ⊢
  omega

theorem calculateBorrowExact_ok {receive : U64} {maxDebtValue factor : Fraction}
    (h : calculateBorrowExact r receive maxDebtValue market.referralFeeBps hasReferrer factor =
      .ok result) : BorrowAddsUp market hasReferrer result := by
  simp only [calculateBorrowExact, bind_eq_ok, add_eq_ok, fit_eq_ok, sf_ofU64, pure, Except.pure,
    Except.ok.injEq] at h
  obtain ⟨⟨fee, referrerFee⟩, hfees, fees, hsum, amount, hamount, _, -, _, -, _, -, _, -, _, -, _,
    -, rfl⟩ := h
  refine ⟨?_, calculateFees_ok hfees⟩
  change amount.sf / ONE_SCALED = fee.val + receive.val + referrerFee.val
  dsimp only at hsum
  rw [hamount, ← Nat.add_mul, Nat.mul_div_cancel _ one_scaled_pos]
  omega

theorem fallBack_ok {exact allAvailable : Outcome CalculateBorrowResult}
    (h : fallBack exact allAvailable = .ok result) :
    exact = .ok result ∨ allAvailable = .ok result := by
  unfold fallBack at h
  split at h
  · exact .inl h
  · split at h
    · exact .inr h
    · cases h

theorem calculateBorrow_ok {size : BorrowSize} {maxDebtValue : Fraction} {inGroup : Bool}
    (h : calculateBorrow r size maxDebtValue market.referralFeeBps inGroup hasReferrer =
      .ok result) : BorrowAddsUp market hasReferrer result := by
  obtain ⟨factor, -, h⟩ := bind_eq_ok.mp h
  cases size with
  | allAvailable => exact calculateBorrowAllAvailable_ok h
  | exact amount => exact calculateBorrowExact_ok h
  | atMost amount =>
    rcases fallBack_ok h with hexact | hall
    · exact calculateBorrowExact_ok hexact
    · exact calculateBorrowAllAvailable_ok hall

/-- A borrow moves value from the vault to the borrowers; what it rounds off stays with the
reserve. -/
theorem borrowObligationLiquidity_ok {size : BorrowSize} {remaining : Fraction} {inGroup : Bool}
    (h : borrowObligationLiquidity market r clock size remaining inGroup hasReferrer =
      .ok (result, r')) :
    r.ledger.Pays r'.ledger 0 (result.originationFee.val + result.receiveAmount.val) := by
  simp only [borrowObligationLiquidity, bind_eq_ok, pure, Except.pure, Except.ok.injEq,
    Prod.mk.injEq] at h
  obtain ⟨_, -, _, -, _, -, _, -, result, hresult, _, -, _, -, cap, -, _, -, _, -, mid, hmid, _,
    hpaid, rfl, rfl⟩ := h
  have hsum := calculateBorrow_ok hresult
  obtain ⟨available, havailable, hledger⟩ := borrow_ok hmid
  rw [ledger_withDebtCap] at havailable hledger
  rw [payReferrer_ok hpaid hsum.referrer, ledger_markStale, hledger]
  rw [hsum.whole] at havailable
  refine ⟨?_, rfl, ?_, rfl, rfl, rfl, rfl, rfl⟩
  · simp only
    omega
  · have hwhole := Nat.div_mul_le_self result.borrowAmountF.sf ONE_SCALED
    rw [hsum.whole] at hwhole
    simp only [Ledger.supplySf, Ledger.feesSf, ONE_SCALED, FRAC_NBITS] at hwhole ⊢
    omega

variable {settled : Fraction} {tokens paid : U64}

/-- A repayment of at least what is settled. -/
theorem repay_pays (r : Reserve) {l l' : ReserveLiquidity} {amount : U64}
    (h : l.repay amount settled = .ok l') (hle : settled.sf ≤ amount.val * ONE_SCALED) :
    { r with liquidity := l }.ledger.Pays { r with liquidity := l' }.ledger amount.val 0 := by
  obtain ⟨borrowedSf, hborrowed, hledger⟩ := repay_ok r h
  rw [hledger]
  refine ⟨rfl, rfl, ?_, rfl, rfl, rfl, rfl, rfl⟩
  have hmin := Nat.min_le_left settled.sf l.borrowedAmountSf.val
  simp only [Ledger.supplySf, Ledger.feesSf, Reserve.ledger, ONE_SCALED, FRAC_NBITS] at *
  omega

theorem addEarlyRepayPenalty_pays (r : Reserve) {l l' : ReserveLiquidity} {penalty : U64}
    (h : addEarlyRepayPenalty l penalty = .ok l') :
    { r with liquidity := l }.ledger.Pays { r with liquidity := l' }.ledger penalty.val 0 := by
  rw [addEarlyRepayPenalty_ok r h]
  refine ⟨rfl, rfl, ?_, rfl, rfl, rfl, rfl, rfl⟩
  simp only [Ledger.supplySf, Ledger.feesSf, Reserve.ledger, ONE_SCALED, FRAC_NBITS]
  omega

theorem toCeil_covers {x : U64} (h : amount.toCeil 64 = .ok x) : amount.sf ≤ x.val * ONE_SCALED := by
  rw [toCeil_eq_ok h]
  exact le_ceilDiv_mul _ one_scaled_pos

theorem repayObligationLiquidity_ok {borrowed : Fraction} {liquidityAmount penalty : U64}
    (h : repayObligationLiquidity r clock liquidityAmount borrowed penalty = .ok (paid, r')) :
    r.ledger.Pays r'.ledger paid.val 0 := by
  simp only [repayObligationLiquidity, calculateRepay, bind_eq_ok, fit_eq_ok, pure, Except.pure,
    Except.ok.injEq, Prod.mk.injEq] at h
  obtain ⟨_, -, _, -, ⟨settled, repaid⟩, ⟨_, hceil, rfl, rfl⟩, _, -, sum, hsum, _, -, cap, -, l₁,
    hl₁, l₂, hl₂, rfl, rfl⟩ := h
  rw [ledger_markStale, hsum]
  exact (repay_pays (withDebtCap r cap) hl₁ (toCeil_covers hceil)).trans
    (addEarlyRepayPenalty_pays (withDebtCap r cap) hl₂)

theorem repayPostLiquidation_ok (h : repayPostLiquidation r clock settled = .ok (paid, r')) :
    r.ledger.Pays r'.ledger paid.val 0 ∧ r'.lastUpdate.slot = clock.slot := by
  simp only [repayPostLiquidation, bind_eq_ok, pure, Except.pure, Except.ok.injEq,
    Prod.mk.injEq] at h
  obtain ⟨_, hfresh, repaid, hceil, _, -, l, hl, rfl, rfl⟩ := h
  rw [ledger_markStale]
  exact ⟨repay_pays r hl (toCeil_covers hceil),
    (requireFresh_ok hfresh : r.lastUpdate.slot = clock.slot)⟩

theorem rolloverRepay_ok {full : Fraction} (h : rolloverRepay r clock tokens full = .ok r') :
    r.ledger.Pays r'.ledger tokens.val 0 ∧
      r'.ledger.borrowedSf + min (min (ofU64 tokens) full).sf r.ledger.borrowedSf =
        r.ledger.borrowedSf := by
  simp only [rolloverRepay, bind_eq_ok, pure, Except.pure, Except.ok.injEq] at h
  obtain ⟨_, -, _, -, cap, -, l, hl, rfl⟩ := h
  rw [ledger_markStale]
  obtain ⟨borrowedSf, hborrowed, hledger⟩ := repay_ok (withDebtCap r cap) hl
  refine ⟨repay_pays (withDebtCap r cap) hl ?_, ?_⟩
  · rw [min_sf]
    exact Nat.min_le_left _ _
  · rw [hledger]
    exact hborrowed

/-- Whole tokens that are lent. -/
theorem borrow_pays {useWithdrawQueue : Bool}
    (h : r.borrow (ofU64 tokens) useWithdrawQueue = .ok r') :
    r.ledger.Pays r'.ledger 0 tokens.val ∧
      r'.ledger.borrowedSf = r.ledger.borrowedSf + tokens.val * ONE_SCALED := by
  obtain ⟨available, havailable, hledger⟩ := borrow_ok h
  rw [sf_ofU64, Nat.mul_div_cancel _ one_scaled_pos] at havailable
  rw [hledger]
  refine ⟨⟨havailable, rfl, ?_, rfl, rfl, rfl, rfl, rfl⟩, rfl⟩
  simp only [Ledger.supplySf, Ledger.feesSf, sf_ofU64, ONE_SCALED, FRAC_NBITS] at *
  omega

theorem rolloverBorrow_ok (h : rolloverBorrow r clock tokens = .ok r') :
    r.ledger.Pays r'.ledger 0 tokens.val ∧
      r'.ledger.borrowedSf = r.ledger.borrowedSf + tokens.val * ONE_SCALED := by
  simp only [rolloverBorrow, bind_eq_ok, pure, Except.pure, Except.ok.injEq] at h
  obtain ⟨_, -, _, -, cap, -, mid, hmid, rfl⟩ := h
  have hpays := borrow_pays hmid
  rwa [ledger_withDebtCap] at hpays

theorem flashBorrowReserveLiquidity_ok
    (h : flashBorrowReserveLiquidity r tokens = .ok r') : r.ledger.Pays r'.ledger 0 tokens.val := by
  simp only [flashBorrowReserveLiquidity, bind_eq_ok, pure, Except.pure, Except.ok.injEq] at h
  obtain ⟨_, -, mid, hmid, rfl⟩ := h
  exact (borrow_pays hmid).1

theorem payReferrer_pays (h : payReferrer market r referrerFee hasReferrer = .ok r')
    (hnone : ¬(hasReferrer = true ∧ 0 < market.referralFeeBps.val) → referrerFee.val = 0) :
    r.ledger.Pays r'.ledger referrerFee.val 0 := by
  rw [payReferrer_ok h hnone]
  refine ⟨rfl, rfl, ?_, rfl, rfl, rfl, rfl, rfl⟩
  simp only [Ledger.supplySf, Ledger.feesSf, ONE_SCALED, FRAC_NBITS]
  omega

theorem flashRepayReserveLiquidity_ok {timestamp protocolFee : U64}
    (h : flashRepayReserveLiquidity market r tokens timestamp hasReferrer =
      .ok ((paid, protocolFee), r')) : r.ledger.Pays r'.ledger paid.val 0 := by
  simp only [flashRepayReserveLiquidity, bind_eq_ok, fit_eq_ok, pure, Except.pure,
    Except.ok.injEq, Prod.mk.injEq] at h
  obtain ⟨⟨protocol, referrer⟩, hfees, l, hl, limited, hlimited, final, hfinal, sum, hsum,
    ⟨rfl, rfl⟩, rfl⟩ := h
  rw [hsum]
  have hrepaid := repay_pays r hl (le_of_eq (sf_ofU64 tokens))
  rw [← refreshReserveLimitTimestamps_ok hlimited] at hrepaid
  have hreferrer := payReferrer_pays hfinal (calculateFees_ok hfees)
  rw [ledger_markStale] at hreferrer
  exact hrepaid.trans hreferrer

theorem versionAfterLoss_ok {supply forgiven : Fraction}
    (h : (versionAfterLoss r supply forgiven).val = PROGRAM_VERSION) :
    r.ledger.version = PROGRAM_VERSION ∧ forgiven < supply := by
  unfold versionAfterLoss at h
  split at h
  · simp only [PROGRAM_VERSION] at h
    omega
  · next hless => exact ⟨h, not_le.mp hless⟩

theorem supply_after_loss {p : Ledger} {supply forgiven borrowedSf : Nat}
    (hsupply : (supply : Int) = p.supplySf) (hrest : borrowedSf + forgiven = p.borrowedSf)
    (hlt : forgiven < supply) (version : Nat) :
    0 < { p with version, borrowedSf }.supplySf := by
  simp only [Ledger.supplySf, Ledger.feesSf] at *
  omega

theorem ledger_forgiven (version : U64) (borrowed : U128) :
    { r with version, liquidity := { r.liquidity with borrowedAmountSf := borrowed } }.ledger =
      { r.ledger with version := version.val, borrowedSf := borrowed.val } := rfl

/-- A loss is taken from the supply. One that takes all of it deprecates the reserve. -/
theorem socializeLoss_ok {slot : U64} {borrowed : Fraction}
    (h : socializeLoss r slot tokens borrowed = .ok r') :
    ∃ borrowedSf version, r'.ledger = { r.ledger with version, borrowedSf } ∧
      (version = PROGRAM_VERSION →
        r.ledger.version = PROGRAM_VERSION ∧ 0 < r'.ledger.supplySf) := by
  simp only [socializeLoss, ReserveLiquidity.forgiveDebt, bind_eq_ok, pure, Except.pure,
    Except.ok.injEq] at h
  obtain ⟨_, -, supply, hsupply, l, ⟨rest, hrest, rfl⟩, rfl⟩ := h
  generalize min (ofU64 tokens) borrowed = forgiven at hrest ⊢
  rw [ledger_markStale, ledger_forgiven]
  refine ⟨_, _, rfl, fun hversion => ?_⟩
  obtain ⟨hbefore, hlt⟩ := versionAfterLoss_ok hversion
  exact ⟨hbefore, supply_after_loss (totalSupply_ok hsupply) (sub_eq_ok.mp hrest) (lt_iff.mp hlt) _⟩

end Borrowing

section Fees

variable {market : LendingMarket} {r r' : Reserve} {slot amount : U64}

theorem ledger_protocolFees (fees : U128) :
    { r with liquidity :=
      { r.liquidity with accumulatedProtocolFeesSf := fees } }.ledger =
      { r.ledger with protocolFeesSf := fees.val } := rfl

theorem ledger_referrerFees (fees : U128) :
    { r with liquidity :=
      { r.liquidity with accumulatedReferrerFeesSf := fees } }.ledger =
      { r.ledger with referrerFeesSf := fees.val } := rfl

theorem redeemFees_ok (h : redeemFees r slot = .ok (amount, r')) :
    r.ledger.Pays r'.ledger 0 amount.val := by
  simp only [redeemFees, Reserve.redeemFees, bind_eq_ok, checkedSub_eq_ok, sf_ofU64, pure,
    Except.pure, Except.ok.injEq, Prod.mk.injEq] at h
  obtain ⟨_, -, _, -, _, -, _, ⟨mid, hmid, fees, hfees, rfl⟩, rfl, rfl⟩ := h
  obtain ⟨available, havailable, hledger⟩ := withdrawFreelyAvailable_ok hmid
  have hprotocol : mid.liquidity.accumulatedProtocolFeesSf.val = r.ledger.protocolFeesSf :=
    congrArg Ledger.protocolFeesSf hledger
  rw [ledger_markStale, ledger_protocolFees (r := mid), hledger]
  refine ⟨havailable, rfl, ?_, rfl, rfl, rfl, rfl, rfl⟩
  simp only [Ledger.supplySf, Ledger.feesSf, Fraction.sf, ONE_SCALED, FRAC_NBITS] at *
  omega

/-- The referrer may be owed more than the reserve has set aside; what it is paid comes from
there. -/
theorem withdrawReferrerFees_ok {unclaimed : U128}
    (h : withdrawReferrerFees r slot unclaimed = .ok (amount, r')) :
    r.ledger.Pays r'.ledger 0 amount.val := by
  simp only [withdrawReferrerFees, Reserve.withdrawReferrerFees, bind_eq_ok, checkedSub_eq_ok,
    sf_ofU64, pure, Except.pure, Except.ok.injEq, Prod.mk.injEq] at h
  obtain ⟨_, -, _, -, _, -, ⟨final, _⟩, ⟨mid, hmid, fees, hfees, _, -, rfl, -⟩, rfl, rfl⟩ := h
  obtain ⟨available, havailable, hledger⟩ := withdrawFreelyAvailable_ok hmid
  have hreferrer : mid.liquidity.accumulatedReferrerFeesSf.val = r.ledger.referrerFeesSf :=
    congrArg Ledger.referrerFeesSf hledger
  rw [ledger_markStale, ledger_referrerFees (r := mid), hledger]
  refine ⟨havailable, rfl, ?_, rfl, rfl, rfl, rfl, rfl⟩
  simp only [Ledger.supplySf, Ledger.feesSf, Fraction.sf, ONE_SCALED, FRAC_NBITS] at *
  omega

/-- Pending fees become a referrer's or the protocol's; the supply stays. -/
theorem accumulateReferrerFees_ok {elapsed : Nat} {borrowed previous : Fraction}
    {hasReferrer : Bool}
    (h : accumulateReferrerFees market r elapsed borrowed previous hasReferrer = .ok r') :
    r.ledger.Pays r'.ledger 0 0 := by
  unfold accumulateReferrerFees at h
  dsimp only at h
  split at h
  · cases h
    exact .refl _
  · simp only [bind_eq_ok] at h
    obtain ⟨_, -, _, -, _, -, _, -, _, -, _, -, _, -, fee, -, rest, hrest, h⟩ := h
    have hpending := sub_eq_ok.mp hrest
    split at h
    · simp only [addReferrerFee, bind_eq_ok, add_eq_ok, pure, Except.pure, Except.ok.injEq] at h
      obtain ⟨_, ⟨fees, hfees, rfl⟩, rfl⟩ := h
      refine ⟨rfl, rfl, ?_, rfl, rfl, rfl, rfl, rfl⟩
      simp only [Ledger.supplySf, Ledger.feesSf, Reserve.ledger, Fraction.sf] at *
      omega
    · simp only [add_eq_ok, pure, Except.pure, bind_eq_ok, Except.ok.injEq] at h
      obtain ⟨fees, hfees, rfl⟩ := h
      refine ⟨rfl, rfl, ?_, rfl, rfl, rfl, rfl, rfl⟩
      simp only [Ledger.supplySf, Ledger.feesSf, Reserve.ledger, Fraction.sf] at *
      omega

end Fees

section Liquidations

variable {market : LendingMarket} {clock : Clock} {r r' : Reserve} {paid : Option U64}

/-- In the slot of the last refresh the reserve that a liquidation takes the collateral from is
not changed before it pays. -/
theorem redeemPostLiquidation_ok {amount : U64} {reason : LiquidationReason}
    (h : redeemPostLiquidation market r clock amount reason = .ok (paid, r'))
    (hslot : r.lastUpdate.slot = clock.slot) :
    r.ledger.Moves r'.ledger 0 (paid.elim 0 Fin.val) := by
  unfold redeemPostLiquidation at h
  obtain ⟨mid, hmid, h⟩ := bind_eq_ok.mp h
  obtain ⟨max, -, h⟩ := bind_eq_ok.mp h
  rw [← (refreshReserve_ok hmid).2.2 hslot]
  dsimp only at h
  split at h
  · obtain ⟨⟨x, final⟩, hfinal, h⟩ := bind_eq_ok.mp h
    cases h
    exact (redeemReserveCollateral_ok hfinal).1
  · cases h
    exact (Ledger.Pays.refl _).moves

end Liquidations

section Queue

variable {market : LendingMarket} {clock : Clock} {r r' : Reserve} {q q' : WithdrawQueue}
  {c n : U64} {Pubkey : Type} {ticket ticket' : WithdrawTicket Pubkey}

/-- A new ticket is the next one. -/
theorem enqueue_ok (h : q.enqueue c = .ok (n, q')) :
    n = q.nextIssuedTicketSequenceNumber ∧
      q'.queuedCollateralAmount.val = q.queuedCollateralAmount.val + c.val ∧
      q'.nextIssuedTicketSequenceNumber.val = q.nextIssuedTicketSequenceNumber.val + 1 ∧
      q'.nextWithdrawableTicketSequenceNumber = q.nextWithdrawableTicketSequenceNumber := by
  simp only [WithdrawQueue.enqueue, bind_eq_ok, fit_eq_ok, pure, Except.pure, Except.ok.injEq,
    Prod.mk.injEq] at h
  obtain ⟨queued, hqueued, next, hnext, rfl, rfl⟩ := h
  exact ⟨rfl, hqueued, hnext, rfl⟩

theorem dequeue_ok {closed : Bool} (h : q.dequeue c closed = .ok q') :
    q'.queuedCollateralAmount.val + c.val = q.queuedCollateralAmount.val ∧
      q'.nextIssuedTicketSequenceNumber = q.nextIssuedTicketSequenceNumber ∧
      q'.nextWithdrawableTicketSequenceNumber.val =
        q.nextWithdrawableTicketSequenceNumber.val + if closed then 1 else 0 := by
  simp only [WithdrawQueue.dequeue, bind_eq_ok, minus_eq_ok, fit_eq_ok, pure, Except.pure,
    Except.ok.injEq] at h
  obtain ⟨rest, hrest, queued, hqueued, next, hnext, rfl⟩ := h
  exact ⟨by rw [hqueued]; exact hrest, rfl, hnext⟩

theorem enqueueToWithdraw_ok (h : enqueueToWithdraw market r c = .ok (n, r')) :
    ∃ queue, r.withdrawQueue.enqueue c = .ok (n, queue) ∧
      r'.ledger = { r.ledger with queue } ∧ c.val ≠ 0 := by
  simp only [enqueueToWithdraw, bind_eq_ok, require_eq_ok, pure, Except.pure, Except.ok.injEq,
    Prod.mk.injEq] at h
  obtain ⟨_, hc, _, -, ⟨n', queue⟩, hqueue, rfl, rfl⟩ := h
  exact ⟨queue, hqueue, rfl, hc⟩

/-- A ticket is paid for the collateral that it gives up. -/
theorem withdrawQueuedLiquidity_ok {result : TicketedWithdrawResult}
    (h : withdrawQueuedLiquidity market r ticket clock = .ok (result, ticket', r')) :
    ∃ paid queue,
      r.ledger.Moves paid 0 result.liquidityAmountToWithdraw.val ∧
      paid.shares + result.collateralAmountToBurn.val = r.ledger.shares ∧
      paid.owedSf = r.ledger.owedSf ∧
      r.withdrawQueue.dequeue result.collateralAmountToBurn
        (decide (ticket'.queuedCollateralAmount.val = 0)) = .ok queue ∧
      r'.ledger = { paid with queue } ∧
      ticket'.queuedCollateralAmount.val + result.collateralAmountToBurn.val =
        ticket.queuedCollateralAmount.val ∧
      ticket' = { ticket with queuedCollateralAmount := ticket'.queuedCollateralAmount } := by
  simp only [withdrawQueuedLiquidity, bind_eq_ok, require_eq_ok, minus_eq_ok, fit_eq_ok, pure,
    Except.pure, Except.ok.injEq, Prod.mk.injEq] at h
  obtain ⟨max, -, _, -, rest, hrest, remaining, hremaining, _, -, ⟨liquidity, mid⟩, hmid, _, -,
    queue, hqueue, rfl, rfl, rfl⟩ := h
  obtain ⟨hmoves, hshares, howed⟩ := redeemReserveCollateral_ok hmid
  have hsameQueue : mid.withdrawQueue = r.withdrawQueue := hmoves.queue
  refine ⟨mid.ledger, queue, hmoves, hshares, howed, ?_, rfl, ?_, rfl⟩
  · rw [← hsameQueue]
    exact hqueue
  · rw [hremaining]
    exact hrest

theorem cancelWithdrawTicket_ok {amount cancelled : U64}
    (h : cancelWithdrawTicket market r ticket amount = .ok (cancelled, ticket', r')) :
    ∃ queue, r.withdrawQueue.dequeue cancelled false = .ok queue ∧
      r'.ledger = { r.ledger with queue } ∧
      ticket'.queuedCollateralAmount.val + cancelled.val = ticket.queuedCollateralAmount.val ∧
      ticket' = { ticket with queuedCollateralAmount := ticket'.queuedCollateralAmount } := by
  simp only [cancelWithdrawTicket, bind_eq_ok, minus_eq_ok, fit_eq_ok, pure, Except.pure,
    Except.ok.injEq, Prod.mk.injEq] at h
  obtain ⟨_, -, rest, hrest, remaining, hremaining, _, -, queue, hqueue, rfl, rfl, rfl⟩ := h
  exact ⟨queue, hqueue, rfl, by rw [hremaining]; exact hrest, rfl⟩

end Queue

end SolanaAuditor.Klend
