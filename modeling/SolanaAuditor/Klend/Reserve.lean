/- SolanaAuditor/Klend/Reserve
   digest: A klend reserve: its liquidity, its collateral, and the operations on them. -/

import SolanaAuditor.Klend.BorrowRateCurve
import SolanaAuditor.Klend.WithdrawalCaps

set_option autoImplicit false
set_option relaxedAutoImplicit false

namespace SolanaAuditor.Klend

open SolanaAuditor.Lib.CheckedWords

section State

def SLOTS_PER_YEAR : Nat := 63072000

def FULL_BPS : Nat := 10000

def PROGRAM_VERSION : Nat := 1

structure Clock where
  slot : U64
  unixTimestamp : I64

/-- `u64::try_from(clock.unix_timestamp).unwrap()` -/
def Clock.timestamp (clock : Clock) : Outcome U64 :=
  if 0 ≤ clock.unixTimestamp.val then fit .panic 64 clock.unixTimestamp.val.toNat
  else .error .panic

/-- The flags of `PriceStatusFlags`, one bit each. -/
def NO_CHECKS : Nat := 0

def ALL_CHECKS : Nat := 63

/-- Loaded, not too old, and allowed to be used. -/
def LIQUIDATION_CHECKS : Nat := 1 + 2 + 32

structure LastUpdate where
  slot : U64
  stale : Bool
  priceStatus : U8

def LastUpdate.slotsElapsed (u : LastUpdate) (slot : U64) : Outcome Nat :=
  minus (.error .mathOverflow) slot.val u.slot.val

def LastUpdate.updateSlot (u : LastUpdate) (slot : U64) (priceStatus : Option U8) : LastUpdate :=
  { slot, stale := false, priceStatus := priceStatus.getD u.priceStatus }

def LastUpdate.markStale (u : LastUpdate) : LastUpdate := { u with stale := true }

def LastUpdate.isStale (u : LastUpdate) (slot : U64) (minPriceStatus : Nat) : Outcome Bool := do
  let isPriceStatusOk := (u.priceStatus.val &&& ALL_CHECKS) &&& minPriceStatus = minPriceStatus
  return u.stale || decide (1 ≤ (← u.slotsElapsed slot)) || !decide isPriceStatusOk

structure ReserveLiquidity where
  totalAvailableAmount : U64
  borrowedAmountSf : U128
  marketPriceSf : U128
  marketPriceLastUpdatedTs : U64
  mintDecimals : U64
  depositLimitCrossedTimestamp : U64
  borrowLimitCrossedTimestamp : U64
  cumulativeBorrowRateBsf : BigFraction
  accumulatedProtocolFeesSf : U128
  accumulatedReferrerFeesSf : U128
  pendingReferrerFeesSf : U128
  absoluteReferralRateSf : U128
  rewardsAmountAvailable : U64

structure ReserveCollateral where
  mintTotalSupply : U64

structure WithdrawQueue where
  queuedCollateralAmount : U64
  nextIssuedTicketSequenceNumber : U64
  nextWithdrawableTicketSequenceNumber : U64

structure ReserveFees where
  originationFeeSf : U64
  flashLoanFeeSf : U64

inductive ReserveStatus
  | active
  | obsolete
  | hidden
  deriving DecidableEq

structure ReserveConfig where
  status : ReserveStatus
  blockCtokenUsage : Bool
  borrowRateCurve : BorrowRateCurve
  protocolTakeRatePct : U8
  hostFixedInterestRateBps : U16
  rewardsAmountPerSlot : U64
  depositLimit : U64
  borrowLimit : U64
  borrowFactorPct : U64
  utilizationLimitBlockBorrowingAbovePct : U8
  depositWithdrawalCap : WithdrawalCaps
  debtWithdrawalCap : WithdrawalCaps
  fees : ReserveFees
  emergencyMode : Bool
  maxAgePriceSeconds : U64

structure Reserve where
  version : U64
  lastUpdate : LastUpdate
  liquidity : ReserveLiquidity
  collateral : ReserveCollateral
  config : ReserveConfig
  withdrawQueue : WithdrawQueue

def LastUpdate.new (slot : U64) : LastUpdate := { slot, stale := true, priceStatus := 0 }

def ReserveLiquidity.new (mintDecimals initialAmountDepositedInReserve : U64) :
    ReserveLiquidity where
  totalAvailableAmount := initialAmountDepositedInReserve
  borrowedAmountSf := 0
  marketPriceSf := 0
  marketPriceLastUpdatedTs := 0
  mintDecimals := mintDecimals
  depositLimitCrossedTimestamp := 0
  borrowLimitCrossedTimestamp := 0
  cumulativeBorrowRateBsf := BigFraction.ofFraction Fraction.ONE
  accumulatedProtocolFeesSf := 0
  accumulatedReferrerFeesSf := 0
  pendingReferrerFeesSf := 0
  absoluteReferralRateSf := 0
  rewardsAmountAvailable := 0

def WithdrawalCaps.default : WithdrawalCaps := ⟨I64.clamp 0, I64.clamp 0, 0, 0⟩

/-- Nothing is allowed yet, and nothing is charged. -/
def ReserveConfig.default (status : ReserveStatus) (borrowRateCurve : BorrowRateCurve) :
    ReserveConfig where
  status := status
  blockCtokenUsage := false
  borrowRateCurve := borrowRateCurve
  protocolTakeRatePct := 0
  hostFixedInterestRateBps := 0
  rewardsAmountPerSlot := 0
  depositLimit := 0
  borrowLimit := 0
  borrowFactorPct := 0
  utilizationLimitBlockBorrowingAbovePct := 0
  depositWithdrawalCap := .default
  debtWithdrawalCap := .default
  fees := ⟨0, 0⟩
  emergencyMode := false
  maxAgePriceSeconds := 0

structure LendingMarket where
  referralFeeBps : U16
  reserveRewardsMaxAprBps : U16
  minInitialDepositAmount : U64
  minWithdrawQueuedLiquidityValue : U64
  withdrawTicketIssuanceEnabled : Bool
  withdrawTicketRedemptionEnabled : Bool
  withdrawTicketCancellationEnabled : Bool

end State

section Interest

open Fraction

/-- The first terms of the binomial series, exact up to four slots. -/
def approximateCompoundedInterest (rate : Fraction) (elapsedSlots : Nat) : Outcome Fraction := do
  let base ← rate.divInt SLOTS_PER_YEAR
  match elapsedSlots with
  | 0 => return ONE
  | 1 => ONE.add base
  | 2 => do
    let onePlus ← ONE.add base
    onePlus.mul onePlus
  | 3 => do
    let onePlus ← ONE.add base
    (← onePlus.mul onePlus).mul onePlus
  | 4 => do
    let onePlus ← ONE.add base
    let powTwo ← onePlus.mul onePlus
    powTwo.mul powTwo
  | exp => do
    let firstTerm ← base.mulInt exp
    let secondTerm ← (← (← firstTerm.mul base).mulInt (exp - 1)).divInt 2
    let thirdTerm ← (← (← secondTerm.mul base).mulInt (exp - 2)).divInt 3
    (← (← ONE.add firstTerm).add secondTerm).add thirdTerm

end Interest

section Liquidity

open Fraction

namespace ReserveLiquidity

variable (l : ReserveLiquidity)

def totalSupply : Outcome Fraction := do
  let gross ← (ofU64 l.totalAvailableAmount).add ⟨l.borrowedAmountSf⟩
  let net ← gross.sub ⟨l.accumulatedProtocolFeesSf⟩
  let net ← net.sub ⟨l.accumulatedReferrerFeesSf⟩
  net.sub ⟨l.pendingReferrerFeesSf⟩

def totalBorrow : Fraction := ⟨l.borrowedAmountSf⟩

def deposit (liquidityAmount : U64) : Outcome ReserveLiquidity := do
  let totalAvailableAmount ← fit (.error .mathOverflow) 64
    (l.totalAvailableAmount.val + liquidityAmount.val)
  return { l with totalAvailableAmount }

def repay (repayAmount : U64) (settleAmount : Fraction) : Outcome ReserveLiquidity := do
  let totalAvailableAmount ← fit (.error .mathOverflow) 64
    (l.totalAvailableAmount.val + repayAmount.val)
  let safeSettleAmount := min settleAmount l.totalBorrow
  let borrowed ← checkedSub (.error .mathOverflow) l.totalBorrow safeSettleAmount
  return { l with totalAvailableAmount, borrowedAmountSf := borrowed.bits }

def accumulateEarlyRepayPenalty (penaltyLamports : U64) : Outcome ReserveLiquidity := do
  let fees ← Fraction.add ⟨l.accumulatedProtocolFeesSf⟩ (ofU64 penaltyLamports)
  let totalAvailableAmount ← fit .panic 64 (l.totalAvailableAmount.val + penaltyLamports.val)
  return { l with accumulatedProtocolFeesSf := fees.bits, totalAvailableAmount }

def utilizationRate : Outcome Fraction := do
  let totalSupply ← l.totalSupply
  if totalSupply = ZERO then return ZERO else l.totalBorrow.div totalSupply

def mintFactor : Outcome Nat := do
  require .panic (l.mintDecimals.val ≤ 19)
  return 10 ^ l.mintDecimals.val

def liquidityAmountToMarketValue (liquidityAmount : Fraction) : Outcome Fraction := do
  let mintFactorSf := (← l.mintFactor) * ONE_SCALED
  liquidityAmount.fullMulIntRatio l.marketPriceSf.val mintFactorSf

def marketValueToLiquidityAmount (marketValue : Fraction) : Outcome Fraction := do
  let mintFactorSf := (← l.mintFactor) * ONE_SCALED
  marketValue.fullMulIntRatio mintFactorSf l.marketPriceSf.val

def compoundInterest (currentBorrowRate hostFixedInterestRate : Fraction) (slotsElapsed : Nat)
    (protocolTakeRate referralRate : Fraction) : Outcome ReserveLiquidity := do
  let previousDebt := l.totalBorrow
  let compoundedInterestRate ← approximateCompoundedInterest
    (← currentBorrowRate.add hostFixedInterestRate) slotsElapsed
  let compoundedFixedRate ← approximateCompoundedInterest hostFixedInterestRate slotsElapsed
  let newCumulativeBorrowRate ←
    l.cumulativeBorrowRateBsf.mul (BigFraction.ofFraction compoundedInterestRate)
  let newDebt ← previousDebt.mul compoundedInterestRate
  let fixedHostFee ← (← previousDebt.mul compoundedFixedRate).sub previousDebt
  let netNewVariableDebt ← (← newDebt.sub previousDebt).sub fixedHostFee
  let variableProtocolFee ← netNewVariableDebt.mul protocolTakeRate
  let absoluteReferralRate ← protocolTakeRate.mul referralRate
  let maxReferrersFees ← netNewVariableDebt.mul absoluteReferralRate
  let accProtocolFees : Fraction := ⟨l.accumulatedProtocolFeesSf⟩
  let newAccProtocolFees ←
    (← (← accProtocolFees.add fixedHostFee).add variableProtocolFee).sub maxReferrersFees
  let pending ← Fraction.add ⟨l.pendingReferrerFeesSf⟩ maxReferrersFees
  return { l with
    cumulativeBorrowRateBsf := newCumulativeBorrowRate
    pendingReferrerFeesSf := pending.bits
    accumulatedProtocolFeesSf := newAccProtocolFees.bits
    borrowedAmountSf := newDebt.bits
    absoluteReferralRateSf := absoluteReferralRate.bits }

def forgiveDebt (liquidityAmount : Fraction) : Outcome ReserveLiquidity := do
  let newAmount ← l.totalBorrow.sub liquidityAmount
  return { l with borrowedAmountSf := newAmount.bits }

end ReserveLiquidity

end Liquidity

section Collateral

open Fraction

def ReserveCollateral.mint (c : ReserveCollateral) (collateralAmount : U64) :
    Outcome ReserveCollateral := do
  let mintTotalSupply ← fit (.error .mathOverflow) 64
    (c.mintTotalSupply.val + collateralAmount.val)
  return { mintTotalSupply }

def ReserveCollateral.burn (c : ReserveCollateral) (collateralAmount : U64) :
    Outcome ReserveCollateral := do
  let rest ← minus (.error .mathOverflow) c.mintTotalSupply.val collateralAmount.val
  let mintTotalSupply ← fit .panic 64 rest
  return { mintTotalSupply }

structure CollateralExchangeRate where
  collateralSupply : U128
  liquidity : Fraction

namespace CollateralExchangeRate

def ONE : CollateralExchangeRate := ⟨1, Fraction.ONE⟩

def fromSupplyAndLiquidity (collateralSupply : U64) (liquidity : Fraction) :
    CollateralExchangeRate :=
  ⟨collateralSupply.castLE u64_le_u128, liquidity⟩

variable (rate : CollateralExchangeRate)

def fractionCollateralToLiquidity (collateralAmount : Fraction) : Outcome Fraction := do
  let product ← (BigFraction.ofFraction collateralAmount).mul
    (BigFraction.ofFraction rate.liquidity)
  (← product.divInt rate.collateralSupply.val).toFraction

def collateralToLiquidity (collateralAmount : U64) : Outcome U64 := do
  (← rate.fractionCollateralToLiquidity (ofU64 collateralAmount)).toFloor 64

def collateralToLiquidityCeil (collateralAmount : U64) : Outcome U64 := do
  let product ← fit .panic 256 (collateralAmount.val * rate.liquidity.sf)
  let supplyMinusOne ← minus .panic rate.collateralSupply.val 1
  let sum ← fit .panic 256 (product.val + supplyMinusOne)
  let liquidityCeil ← Fraction.ofSf (← divide .panic sum.val rate.collateralSupply.val)
  liquidityCeil.toCeil 64

def liquidityToCollateralFraction (liquidityAmount : U64) : Outcome Fraction := do
  let product ← fit .panic 128 (rate.collateralSupply.val * liquidityAmount.val)
  let scaled ← BigFraction.fromNum product.val
  (← scaled.divFraction rate.liquidity).toFraction

def liquidityToCollateral (liquidityAmount : U64) : Outcome U64 := do
  (← rate.liquidityToCollateralFraction liquidityAmount).toFloor 64

def fractionLiquidityToCollateralCeil (liquidityAmount : Fraction) : Outcome Fraction := do
  let scaled ← (BigFraction.ofFraction liquidityAmount).mulInt rate.collateralSupply.val
  (← scaled.divCeil rate.liquidity).toFraction

def liquidityToCollateralCeil (liquidityAmount : U64) : Outcome U64 := do
  (← rate.fractionLiquidityToCollateralCeil (ofU64 liquidityAmount)).toCeil 64

end CollateralExchangeRate

def ReserveCollateral.exchangeRate (c : ReserveCollateral) (totalLiquidity : Fraction) :
    CollateralExchangeRate :=
  if c.mintTotalSupply.val = 0 ∨ totalLiquidity = ZERO then .ONE
  else .fromSupplyAndLiquidity c.mintTotalSupply totalLiquidity

end Collateral

section Queue

def WithdrawQueue.enqueue (q : WithdrawQueue) (collateralAmount : U64) :
    Outcome (U64 × WithdrawQueue) := do
  let queuedCollateralAmount ← fit .panic 64 (q.queuedCollateralAmount.val + collateralAmount.val)
  let nextIssuedTicketSequenceNumber ← fit .panic 64 (q.nextIssuedTicketSequenceNumber.val + 1)
  return (q.nextIssuedTicketSequenceNumber,
    { q with queuedCollateralAmount, nextIssuedTicketSequenceNumber })

def WithdrawQueue.dequeue (q : WithdrawQueue) (collateralAmount : U64) (ticketClosed : Bool) :
    Outcome WithdrawQueue := do
  let rest ← minus .panic q.queuedCollateralAmount.val collateralAmount.val
  let next := q.nextWithdrawableTicketSequenceNumber.val + if ticketClosed then 1 else 0
  let queuedCollateralAmount ← fit .panic 64 rest
  let nextWithdrawableTicketSequenceNumber ← fit .panic 64 next
  return { q with queuedCollateralAmount, nextWithdrawableTicketSequenceNumber }

end Queue

section Reserves

open Fraction

namespace Reserve

variable (r : Reserve)

def collateralExchangeRate : Outcome CollateralExchangeRate := do
  return r.collateral.exchangeRate (← r.liquidity.totalSupply)

def currentBorrowRate : Outcome Fraction := do
  r.config.borrowRateCurve.getBorrowRate (← r.liquidity.utilizationRate)

def queuedLiquidityAmount : Outcome U64 := do
  (← r.collateralExchangeRate).collateralToLiquidity r.withdrawQueue.queuedCollateralAmount

def freelyAvailableLiquidityAmount : Outcome U64 := do
  let queued ← r.queuedLiquidityAmount
  fit .panic 64 (r.liquidity.totalAvailableAmount.val - queued.val)

def totalRedeemableCollateralAmount : Outcome U64 := do
  let availableLiquidity := r.liquidity.totalAvailableAmount
  let exchangeRate ← r.collateralExchangeRate
  let ceiledCollateral ← exchangeRate.liquidityToCollateralCeil availableLiquidity
  if (← exchangeRate.collateralToLiquidity ceiledCollateral) ≤ availableLiquidity then
    return ceiledCollateral
  else
    exchangeRate.liquidityToCollateral availableLiquidity

def freelyRedeemableCollateralAmount : Outcome U64 := do
  let total ← r.totalRedeemableCollateralAmount
  fit .panic 64 (total.val - r.withdrawQueue.queuedCollateralAmount.val)

def remainingBorrowCapacity : Fraction :=
  (ofU64 r.config.borrowLimit).saturatingSub r.liquidity.totalBorrow

/-- The liquidity to deposit and the collateral minted for it. -/
def computeDepositableAmountAndMintedCollateral (liquidityAmount : U64) : Outcome (U64 × U64) := do
  let collateralAmount ← (← r.collateralExchangeRate).liquidityToCollateral liquidityAmount
  let liquidityAmountToDeposit ←
    (← r.collateralExchangeRate).collateralToLiquidityCeil collateralAmount
  require (.error .mathOverflow) (liquidityAmountToDeposit ≤ liquidityAmount)
  return (liquidityAmountToDeposit, collateralAmount)

def depositLiquidity (liquidityAmount collateralAmount : U64) : Outcome Reserve := do
  let liquidity ← r.liquidity.deposit liquidityAmount
  let collateral ← r.collateral.mint collateralAmount
  return { r with liquidity, collateral }

def withdrawIncludingQueued (liquidityAmount : U64) : Outcome Reserve := do
  let rest ← minus (.error .insufficientLiquidity) r.liquidity.totalAvailableAmount.val
    liquidityAmount.val
  let totalAvailableAmount ← fit .panic 64 rest
  return { r with liquidity := { r.liquidity with totalAvailableAmount } }

def withdrawFreelyAvailable (liquidityAmount : U64) : Outcome Reserve := do
  let freelyAvailableAmount ← r.freelyAvailableLiquidityAmount
  require (.error .insufficientLiquidity) (liquidityAmount ≤ freelyAvailableAmount)
  let rest ← minus .panic r.liquidity.totalAvailableAmount.val liquidityAmount.val
  let totalAvailableAmount ← fit .panic 64 rest
  return { r with liquidity := { r.liquidity with totalAvailableAmount } }

/-- The two ways to take liquidity out. -/
def withdraw (liquidityAmount : U64) (useWithdrawQueue : Bool) : Outcome Reserve :=
  if useWithdrawQueue then r.withdrawIncludingQueued liquidityAmount
  else r.withdrawFreelyAvailable liquidityAmount

def redeemCollateral (collateralAmount : U64) (useWithdrawQueue : Bool) :
    Outcome (U64 × Reserve) := do
  let liquidityAmount ← (← r.collateralExchangeRate).collateralToLiquidity collateralAmount
  let r ← r.withdraw liquidityAmount useWithdrawQueue
  let collateral ← r.collateral.burn collateralAmount
  return (liquidityAmount, { r with collateral })

def borrow (borrowF : Fraction) (useWithdrawQueue : Bool) : Outcome Reserve := do
  let r ← r.withdraw (← borrowF.toFloor 64) useWithdrawQueue
  let borrowed ← r.liquidity.totalBorrow.add borrowF
  return { r with liquidity := { r.liquidity with borrowedAmountSf := borrowed.bits } }

def redeemFees (withdrawAmount : U64) : Outcome Reserve := do
  let r ← r.withdrawFreelyAvailable withdrawAmount
  let fees ← checkedSub (.error .mathOverflow) ⟨r.liquidity.accumulatedProtocolFeesSf⟩
    (ofU64 withdrawAmount)
  return { r with liquidity := { r.liquidity with accumulatedProtocolFeesSf := fees.bits } }

/-- The reserve, and what remains unclaimed by the referrer. -/
def withdrawReferrerFees (withdrawAmount : U64) (amountUnclaimedSf : U128) :
    Outcome (Reserve × U128) := do
  let r ← r.withdrawFreelyAvailable withdrawAmount
  let fees ← checkedSub (.error .mathOverflow) ⟨r.liquidity.accumulatedReferrerFeesSf⟩
    (ofU64 withdrawAmount)
  let unclaimed ← checkedSub (.error .mathOverflow) ⟨amountUnclaimedSf⟩ (ofU64 withdrawAmount)
  return ({ r with liquidity := { r.liquidity with accumulatedReferrerFeesSf := fees.bits } },
    unclaimed.bits)

def accrueInterest (currentSlot : U64) (referralFeeBps : U16) : Outcome Reserve := do
  let slotsElapsed ← r.lastUpdate.slotsElapsed currentSlot
  if 0 < slotsElapsed then
    let currentBorrowRate ← r.currentBorrowRate
    let protocolTakeRate ← fromPercent r.config.protocolTakeRatePct
    let referralRate ← fromBps referralFeeBps
    let hostFixedInterestRate ← fromBps r.config.hostFixedInterestRateBps
    let liquidity ← r.liquidity.compoundInterest currentBorrowRate hostFixedInterestRate
      slotsElapsed protocolTakeRate referralRate
    return { r with liquidity }
  else
    return r

/-- Multiplication of `u128` that stops at the largest one. -/
def saturatingMul (a b : Nat) : Nat := min (a * b) (2 ^ 128 - 1)

/-- The amount moved from the rewards to the available liquidity. -/
def rewardsToDistribute (slotsElapsed : Nat) (maxAprBps : U16) : Outcome Nat := do
  let rawDistribution := saturatingMul r.config.rewardsAmountPerSlot.val slotsElapsed
  let totalSupply ← (← r.liquidity.totalSupply).toFloor 128
  let aprCapNumerator :=
    saturatingMul (saturatingMul totalSupply.val maxAprBps.val) slotsElapsed
  let aprCap := aprCapNumerator / (FULL_BPS * SLOTS_PER_YEAR)
  return min (min rawDistribution aprCap) r.liquidity.rewardsAmountAvailable.val

def distributeRewards (currentSlot : U64) (maxAprBps : U16) : Outcome Reserve := do
  let slotsElapsed ← r.lastUpdate.slotsElapsed currentSlot
  if slotsElapsed = 0 ∨ maxAprBps.val = 0 ∨ r.config.rewardsAmountPerSlot.val = 0 ∨
      r.liquidity.rewardsAmountAvailable.val = 0 ∨ r.collateral.mintTotalSupply.val = 0 then
    return r
  else
    let amount ← r.rewardsToDistribute slotsElapsed maxAprBps
    let toDistribute ← fit (.error .mathOverflow) 64 amount
    let rest ← minus (.error .mathOverflow) r.liquidity.rewardsAmountAvailable.val toDistribute.val
    let rewardsAmountAvailable ← fit .panic 64 rest
    let totalAvailableAmount ← fit (.error .mathOverflow) 64
      (r.liquidity.totalAvailableAmount.val + toDistribute.val)
    return { r with liquidity :=
      { r.liquidity with rewardsAmountAvailable, totalAvailableAmount } }

/-- When a limit was crossed; a crossing that lasts keeps its time. -/
def crossedTimestamp (crossed : Prop) [Decidable crossed] (before timestamp : U64) : U64 :=
  if crossed then
    if before.val = 0 then timestamp else before
  else 0

def updateDepositLimitCrossedTimestamp (timestamp : U64) : Outcome Reserve := do
  let supply ← r.liquidity.totalSupply
  return { r with liquidity := { r.liquidity with
    depositLimitCrossedTimestamp := crossedTimestamp (ofU64 r.config.depositLimit < supply)
      r.liquidity.depositLimitCrossedTimestamp timestamp } }

def updateBorrowLimitCrossedTimestamp (timestamp : U64) : Reserve :=
  { r with liquidity := { r.liquidity with
    borrowLimitCrossedTimestamp :=
      crossedTimestamp (ofU64 r.config.borrowLimit < r.liquidity.totalBorrow)
        r.liquidity.borrowLimitCrossedTimestamp timestamp } }

def calculateRedeemFees : Outcome U64 := do
  return min (← r.freelyAvailableLiquidityAmount)
    (← Fraction.toFloor 64 ⟨r.liquidity.accumulatedProtocolFeesSf⟩)

def getWithdrawReferrerFees (amountUnclaimedSf : U128) : Outcome U64 := do
  let availableUnclaimed ←
    Fraction.toFloor 64 ⟨min amountUnclaimedSf r.liquidity.accumulatedReferrerFeesSf⟩
  return min availableUnclaimed (← r.freelyAvailableLiquidityAmount)

def isUsed (minInitialDepositAmount : U64) : Bool :=
  decide (minInitialDepositAmount < r.liquidity.totalAvailableAmount) ||
    decide (ZERO < r.liquidity.totalBorrow) ||
    decide (minInitialDepositAmount < r.collateral.mintTotalSupply)

def isUsageBlocked : Bool :=
  decide (r.config.depositLimit.val = 0) && decide (r.config.borrowLimit.val = 0)

def isPredeposit (minInitialDepositAmount : U64) : Bool :=
  !r.isUsed minInitialDepositAmount && r.isUsageBlocked

def hasInitialDeposit : Bool :=
  decide (0 < r.liquidity.totalAvailableAmount.val) || decide (0 < r.collateral.mintTotalSupply.val)

def markStale : Reserve := { r with lastUpdate := r.lastUpdate.markStale }

end Reserve

end Reserves

end SolanaAuditor.Klend
