/- SolanaAuditor/Klend/Operations
   digest: What the lending operations of klend do to one reserve. -/

import SolanaAuditor.Klend.Reserve

set_option autoImplicit false
set_option relaxedAutoImplicit false

/-!
Of an operation on a reserve and an obligation only the reserve is modelled. What it reads of
the obligation is an argument, and the checks of the obligation that may stop it are left out.
-/

namespace SolanaAuditor.Klend

open SolanaAuditor.Lib.CheckedWords Fraction

section Refresh

structure GetPriceResult where
  price : Fraction
  status : U8
  timestamp : U64

def isSavedPriceAgeValid (r : Reserve) (currentTs : U64) : Bool :=
  decide (currentTs.val - r.liquidity.marketPriceLastUpdatedTs.val <
    r.config.maxAgePriceSeconds.val)

/-- The price of the reserve, and the status it is saved with. -/
def savePrice (r : Reserve) (clock : Clock) (price : Option GetPriceResult) :
    Outcome (Option U8 × ReserveLiquidity) :=
  if r.config.emergencyMode then
    return (some 0, { r.liquidity with marketPriceLastUpdatedTs := 0 })
  else
    match price with
    | some p => return (some p.status, { r.liquidity with
        marketPriceSf := p.price.bits, marketPriceLastUpdatedTs := p.timestamp })
    | none => do
      let currentTs ← clock.timestamp
      return (if isSavedPriceAgeValid r currentTs then none else some 0, r.liquidity)

def refreshReserve (market : LendingMarket) (r : Reserve) (clock : Clock)
    (price : Option GetPriceResult) : Outcome Reserve := do
  let r ← r.accrueInterest clock.slot market.referralFeeBps
  let r ← r.distributeRewards clock.slot market.reserveRewardsMaxAprBps
  let (priceStatus, liquidity) ← savePrice r clock price
  return { r with
    liquidity
    lastUpdate := r.lastUpdate.updateSlot clock.slot priceStatus }

def requireFresh (r : Reserve) (slot : U64) (minPriceStatus : Nat) : Outcome Unit := do
  let stale ← r.lastUpdate.isStale slot minPriceStatus
  require (.error .reserveStale) (stale = false)

def refreshReserveLimitTimestamps (r : Reserve) (timestamp : U64) : Outcome Reserve := do
  let r ← r.updateDepositLimitCrossedTimestamp timestamp
  return r.updateBorrowLimitCrossedTimestamp timestamp

end Refresh

section Shares

def withDepositCap (r : Reserve) (cap : WithdrawalCaps) : Reserve :=
  { r with config := { r.config with depositWithdrawalCap := cap } }

def withDebtCap (r : Reserve) (cap : WithdrawalCaps) : Reserve :=
  { r with config := { r.config with debtWithdrawalCap := cap } }

/-- The liquidity taken and the collateral minted, and the reserve after it. -/
def depositReserveLiquidity (r : Reserve) (clock : Clock) (liquidityAmount : U64) :
    Outcome ((U64 × U64) × Reserve) := do
  require (.error .invalidAmount) (liquidityAmount.val ≠ 0)
  requireFresh r clock.slot NO_CHECKS
  let result ← r.computeDepositableAmountAndMintedCollateral liquidityAmount
  let newSupply ← (ofU64 result.1).add (← r.liquidity.totalSupply)
  require (.error .depositLimitExceeded) (newSupply ≤ ofU64 r.config.depositLimit)
  let cap ← subFromWithdrawalAccum r.config.depositWithdrawalCap result.1 (← clock.timestamp)
  let r ← (withDepositCap r cap).depositLiquidity result.1 result.2
  return (result, r.markStale)

structure RedeemCollateralOptions where
  addAmountToWithdrawalCaps : Bool
  useWithdrawQueue : Bool

def RedeemCollateralOptions.REGULAR : RedeemCollateralOptions := ⟨true, false⟩

def RedeemCollateralOptions.FOR_WITHDRAW_QUEUED_LIQUIDITY : RedeemCollateralOptions := ⟨true, true⟩

def RedeemCollateralOptions.FOR_PROTOCOL_ENFORCED_LIQUIDATION : RedeemCollateralOptions :=
  ⟨false, true⟩

def RedeemCollateralOptions.FOR_USER_REQUESTED_LIQUIDATION : RedeemCollateralOptions :=
  ⟨true, false⟩

inductive LiquidationReason
  | ltvExceeded
  | individualDeleveraging
  | marketWideDeleveraging
  | reserveDebtMaturityReached
  | obligationBorrowDebtTermReached
  | obligationOrder

def RedeemCollateralOptions.resolve : LiquidationReason → RedeemCollateralOptions
  | .ltvExceeded | .individualDeleveraging | .marketWideDeleveraging
  | .reserveDebtMaturityReached | .obligationBorrowDebtTermReached =>
    FOR_PROTOCOL_ENFORCED_LIQUIDATION
  | .obligationOrder => FOR_USER_REQUESTED_LIQUIDATION

/-- The cap on withdrawn deposits, when the redemption counts against it. -/
def countWithdrawal (r : Reserve) (liquidityAmount timestamp : U64) :
    Bool → Outcome Reserve
  | true => do
    let cap ← addToWithdrawalAccum r.config.depositWithdrawalCap liquidityAmount timestamp
    return withDepositCap r cap
  | false => return r

/-- The liquidity paid out, and the reserve after it. -/
def redeemReserveCollateral (r : Reserve) (collateralAmount : U64) (clock : Clock)
    (options : RedeemCollateralOptions) : Outcome (U64 × Reserve) := do
  require (.error .invalidAmount) (collateralAmount.val ≠ 0)
  requireFresh r clock.slot NO_CHECKS
  let (liquidityAmount, r) ← r.redeemCollateral collateralAmount options.useWithdrawQueue
  let timestamp ← clock.timestamp
  let r ← refreshReserveLimitTimestamps r timestamp
  let r ← countWithdrawal r.markStale liquidityAmount timestamp options.addAmountToWithdrawalCaps
  return (liquidityAmount, r)

end Shares

section Fees

inductive FeeCalculation
  | exclusive
  | inclusive

def originationFeeAmount (amount originationFeeRate : Fraction) :
    FeeCalculation → Outcome Fraction
  | .exclusive => amount.mul originationFeeRate
  | .inclusive => do
    let onePlus ← originationFeeRate.add ONE
    amount.mul (← originationFeeRate.div onePlus)

def referralPart (originationFeeF : Fraction) (originationFee : U64) (referralFeeBps : U16) :
    Outcome U64 :=
  if referralFeeBps.val = 10000 then return originationFee
  else do
    let referralFee ← originationFeeF.mul (← fromBps referralFeeBps)
    referralFee.toFloor 64

/-- The protocol's part of a fee, and the referrer's. -/
def calculateFees (amount : Fraction) (feeSf : U64) (feeCalculation : FeeCalculation)
    (referralFeeBps : U16) (hasReferrer : Bool) : Outcome (U64 × U64) := do
  let originationFeeRate : Fraction := ⟨feeSf.castLE u64_le_u128⟩
  let referralFeeRate ← fromBps referralFeeBps
  if ZERO < originationFeeRate ∧ ZERO < amount then
    let feeAmount ← originationFeeAmount amount originationFeeRate feeCalculation
    let originationFeeF := max feeAmount ONE
    require (.error .borrowTooSmall) (originationFeeF < amount)
    let originationFee ← originationFeeF.toRound 64
    if ZERO < referralFeeRate ∧ hasReferrer then
      let referralFee ← referralPart originationFeeF originationFee referralFeeBps
      let rest ← minus .panic originationFee.val referralFee.val
      return (← fit .panic 64 rest, referralFee)
    else
      return (originationFee, 0)
  else
    return (0, 0)

/-- What a referrer earns stays in the vault and is owed by the reserve. -/
def addReferrerFee (l : ReserveLiquidity) (referrerFee : Fraction) : Outcome ReserveLiquidity := do
  let fees ← Fraction.add ⟨l.accumulatedReferrerFeesSf⟩ referrerFee
  return { l with accumulatedReferrerFeesSf := fees.bits }

def payReferrer (market : LendingMarket) (r : Reserve) (referrerFee : U64) (hasReferrer : Bool) :
    Outcome Reserve :=
  if hasReferrer ∧ 0 < market.referralFeeBps.val then do
    let liquidity ← addReferrerFee r.liquidity (ofU64 referrerFee)
    let totalAvailableAmount ← fit .panic 64
      (liquidity.totalAvailableAmount.val + referrerFee.val)
    return { r with liquidity := { liquidity with totalAvailableAmount } }
  else
    return r

def redeemFees (r : Reserve) (slot : U64) : Outcome (U64 × Reserve) := do
  requireFresh r slot NO_CHECKS
  let withdrawAmount ← r.calculateRedeemFees
  require (.error .insufficientProtocolFeesToRedeem) (withdrawAmount.val ≠ 0)
  let r ← r.redeemFees withdrawAmount
  return (withdrawAmount, r.markStale)

def withdrawReferrerFees (r : Reserve) (slot : U64) (amountUnclaimedSf : U128) :
    Outcome (U64 × Reserve) := do
  requireFresh r slot ALL_CHECKS
  let withdrawAmount ← r.getWithdrawReferrerFees amountUnclaimedSf
  require (.error .insufficientReferralFeesToRedeem) (withdrawAmount.val ≠ 0)
  let (r, _) ← r.withdrawReferrerFees withdrawAmount amountUnclaimedSf
  return (withdrawAmount, r.markStale)

/-- The part of the pending fees that the interest of one obligation stands for: to its
referrer, or to the protocol when it has none. -/
def accumulateReferrerFees (market : LendingMarket) (r : Reserve) (slotsElapsed : Nat)
    (borrowedAmount previousBorrowedAmount : Fraction) (hasReferrer : Bool) : Outcome Reserve := do
  let absoluteReferralRate : Fraction := ⟨r.liquidity.absoluteReferralRateSf⟩
  if absoluteReferralRate = ZERO then
    return r
  else do
    let fixedRate ← approximateCompoundedInterest
      (← fromBps r.config.hostFixedInterestRateBps) slotsElapsed
    let netNewDebt ← borrowedAmount.sub previousBorrowedAmount
    let netNewFixedDebt ←
      (← previousBorrowedAmount.mul fixedRate).sub previousBorrowedAmount
    require (.error .cannotCalculateReferralAmountDueToSlotsMismatch) (netNewFixedDebt ≤ netNewDebt)
    let netNewVariableDebt ← netNewDebt.sub netNewFixedDebt
    let referrerFee ← netNewVariableDebt.mul absoluteReferralRate
    let pending : Fraction := ⟨r.liquidity.pendingReferrerFeesSf⟩
    let capped := min referrerFee pending
    let rest ← pending.sub capped
    let l := { r.liquidity with pendingReferrerFeesSf := rest.bits }
    if hasReferrer ∧ 0 < market.referralFeeBps.val then do
      return { r with liquidity := ← addReferrerFee l capped }
    else do
      let fees ← Fraction.add ⟨l.accumulatedProtocolFeesSf⟩ capped
      return { r with liquidity := { l with accumulatedProtocolFeesSf := fees.bits } }

end Fees

section Borrowing

inductive BorrowSize
  | allAvailable
  | exact (amount : U64)
  | atMost (amount : U64)

def BorrowSize.isZero : BorrowSize → Bool
  | .allAvailable => false
  | .exact amount | .atMost amount => amount.val = 0

structure CalculateBorrowResult where
  borrowAmountF : Fraction
  receiveAmount : U64
  originationFee : U64
  referrerFee : U64

def borrowFactorF (config : ReserveConfig) (isInElevationGroup : Bool) : Outcome Fraction :=
  if isInElevationGroup then return ONE
  else return max ONE (← fromPercent config.borrowFactorPct)

def calculateBorrowAllAvailable (r : Reserve) (maxDebtValue : Fraction) (referralFeeBps : U16)
    (hasReferrer : Bool) (borrowFactorF : Fraction) : Outcome CalculateBorrowResult := do
  let maxObligation ← (← r.liquidity.marketValueToLiquidityAmount maxDebtValue).div borrowFactorF
  let freelyAvailable ← r.freelyAvailableLiquidityAmount
  let maxReserve := min r.remainingBorrowCapacity (ofU64 freelyAvailable)
  let borrowAmountF := min maxObligation maxReserve
  let (originationFee, referrerFee) ← calculateFees borrowAmountF r.config.fees.originationFeeSf
    .inclusive referralFeeBps hasReferrer
  let borrowAmount ← borrowAmountF.toFloor 64
  let afterFee ← minus .panic borrowAmount.val originationFee.val
  let rest ← minus .panic afterFee referrerFee.val
  let receiveAmount ← fit .panic 64 rest
  return { borrowAmountF, receiveAmount, originationFee, referrerFee }

def calculateBorrowExact (r : Reserve) (receiveAmount : U64) (maxDebtValue : Fraction)
    (referralFeeBps : U16) (hasReferrer : Bool) (borrowFactorF : Fraction) :
    Outcome CalculateBorrowResult := do
  let (originationFee, referrerFee) ← calculateFees (ofU64 receiveAmount)
    r.config.fees.originationFeeSf .exclusive referralFeeBps hasReferrer
  let fees ← fit .panic 64 (originationFee.val + referrerFee.val)
  let borrowAmountF ← (ofU64 receiveAmount).add (ofU64 fees)
  let debtValue ← r.liquidity.liquidityAmountToMarketValue borrowAmountF
  let adjustedDebtValue ← debtValue.mul borrowFactorF
  require (.error .borrowTooLarge) (adjustedDebtValue ≤ maxDebtValue)
  require (.error .borrowLimitExceeded) (borrowAmountF ≤ r.remainingBorrowCapacity)
  let freelyAvailable ← r.freelyAvailableLiquidityAmount
  require (.error .insufficientLiquidity) (borrowAmountF ≤ ofU64 freelyAvailable)
  return { borrowAmountF, receiveAmount, originationFee, referrerFee }

/-- An exact borrow that is too large for one of the limits falls back to all available. -/
def fallBack (exact allAvailable : Outcome CalculateBorrowResult) :
    Outcome CalculateBorrowResult :=
  match exact with
  | .ok result => .ok result
  | .error fault =>
    if fault = .error .borrowTooLarge ∨ fault = .error .borrowLimitExceeded ∨
        fault = .error .insufficientLiquidity then
      allAvailable
    else .error fault

def calculateBorrow (r : Reserve) (borrowSize : BorrowSize) (maxDebtValue : Fraction)
    (referralFeeBps : U16) (isInElevationGroup hasReferrer : Bool) :
    Outcome CalculateBorrowResult := do
  let factor ← borrowFactorF r.config isInElevationGroup
  match borrowSize with
  | .allAvailable => calculateBorrowAllAvailable r maxDebtValue referralFeeBps hasReferrer factor
  | .exact amount => calculateBorrowExact r amount maxDebtValue referralFeeBps hasReferrer factor
  | .atMost amount =>
    fallBack (calculateBorrowExact r amount maxDebtValue referralFeeBps hasReferrer factor)
      (calculateBorrowAllAvailable r maxDebtValue referralFeeBps hasReferrer factor)

def checkBelowReserveUtilizationLimit (r : Reserve) (borrowAmount : Fraction) : Outcome Unit := do
  let newBorrow ← r.liquidity.totalBorrow.add borrowAmount
  let newUtilizationRate ← newBorrow.div (← r.liquidity.totalSupply)
  let limit ← fromPercent r.config.utilizationLimitBlockBorrowingAbovePct
  require (.error .borrowingAboveUtilizationRateDisabled)
    (newUtilizationRate < limit ∨ r.config.utilizationLimitBlockBorrowingAbovePct.val = 0)

/-- The reserve's part of a borrow; `remainingBorrowValue` is that of the obligation. -/
def borrowObligationLiquidity (market : LendingMarket) (r : Reserve) (clock : Clock)
    (borrowSize : BorrowSize) (remainingBorrowValue : Fraction)
    (isInElevationGroup hasReferrer : Bool) : Outcome (CalculateBorrowResult × Reserve) := do
  require (.error .invalidAmount) (borrowSize.isZero = false)
  requireFresh r clock.slot ALL_CHECKS
  require (.error .borrowTooLarge) (remainingBorrowValue ≠ ZERO)
  require (.error .borrowLimitExceeded) (r.remainingBorrowCapacity ≠ ZERO)
  let result ← calculateBorrow r borrowSize remainingBorrowValue market.referralFeeBps
    isInElevationGroup hasReferrer
  let borrowAmount ← result.borrowAmountF.toCeil 64
  let cap ← addToWithdrawalAccum r.config.debtWithdrawalCap borrowAmount (← clock.timestamp)
  require (.error .borrowTooSmall) (result.receiveAmount.val ≠ 0)
  let r := withDebtCap r cap
  checkBelowReserveUtilizationLimit r result.borrowAmountF
  let r ← r.borrow result.borrowAmountF false
  let r ← payReferrer market r.markStale result.referrerFee hasReferrer
  return (result, r)

/-- What is settled of the debt, and what is paid for it. -/
def calculateRepay (amountToRepay : U64) (borrowedAmount : Fraction) : Outcome (Fraction × U64) := do
  let settleAmount := if amountToRepay.val = 2 ^ 64 - 1 then borrowedAmount
    else min (ofU64 amountToRepay) borrowedAmount
  let repayAmount ← settleAmount.toCeil 64
  return (settleAmount, repayAmount)

/-- The penalty is added to the protocol fees when there is one. -/
def addEarlyRepayPenalty (l : ReserveLiquidity) (penalty : U64) : Outcome ReserveLiquidity :=
  if 0 < penalty.val then l.accumulateEarlyRepayPenalty penalty else return l

/-- The amount paid, and the reserve after it. -/
def repayObligationLiquidity (r : Reserve) (clock : Clock) (liquidityAmount : U64)
    (borrowedAmount : Fraction) (earlyRepayPenalty : U64) : Outcome (U64 × Reserve) := do
  require (.error .invalidAmount) (liquidityAmount.val ≠ 0)
  requireFresh r clock.slot NO_CHECKS
  let (settleAmount, repayAmount) ← calculateRepay liquidityAmount borrowedAmount
  require (.error .repayTooSmall) (repayAmount.val ≠ 0)
  let paid ← fit .panic 64 (repayAmount.val + earlyRepayPenalty.val)
  let cap ← subFromWithdrawalAccum r.config.debtWithdrawalCap repayAmount (← clock.timestamp)
  let liquidity ← r.liquidity.repay repayAmount settleAmount
  let liquidity ← addEarlyRepayPenalty liquidity earlyRepayPenalty
  return (paid, { withDebtCap r cap with liquidity }.markStale)

/-- The debt that a liquidation settles. -/
def repayPostLiquidation (r : Reserve) (clock : Clock) (settleAmount : Fraction) :
    Outcome (U64 × Reserve) := do
  requireFresh r clock.slot LIQUIDATION_CHECKS
  let repayAmount ← settleAmount.toCeil 64
  require (.error .liquidationTooSmall) (repayAmount.val ≠ 0)
  let liquidity ← r.liquidity.repay repayAmount settleAmount
  return (repayAmount, { r with liquidity }.markStale)

def liquidationMaxRedeemable (r : Reserve) (options : RedeemCollateralOptions) : Outcome U64 :=
  if options.useWithdrawQueue then r.totalRedeemableCollateralAmount
  else r.freelyRedeemableCollateralAmount

/-- The collateral that a liquidation redeems as far as the reserve can pay for it; the rest of
it is handed over as it is. -/
def redeemPostLiquidation (market : LendingMarket) (r : Reserve) (clock : Clock)
    (withdrawAmount : U64) (reason : LiquidationReason) : Outcome (Option U64 × Reserve) := do
  let r ← refreshReserve market r clock none
  let options := RedeemCollateralOptions.resolve reason
  let withdrawCollateralAmount := min withdrawAmount (← liquidationMaxRedeemable r options)
  if withdrawCollateralAmount.val ≠ 0 then
    let (liquidityAmount, r) ← redeemReserveCollateral r withdrawCollateralAmount clock options
    return (some liquidityAmount, r)
  else
    return (none, r)

/-- The debt that leaves this reserve in a rollover to another one. -/
def rolloverRepay (r : Reserve) (clock : Clock) (tokensToTransferOver : U64)
    (fullBorrowAmount : Fraction) : Outcome Reserve := do
  requireFresh r clock.slot NO_CHECKS
  let cap ← subFromWithdrawalAccum r.config.debtWithdrawalCap tokensToTransferOver
    (← clock.timestamp)
  let liquidity ← r.liquidity.repay tokensToTransferOver
    (min (ofU64 tokensToTransferOver) fullBorrowAmount)
  return { withDebtCap r cap with liquidity }.markStale

/-- The debt that comes to this reserve in a rollover from another one. -/
def rolloverBorrow (r : Reserve) (clock : Clock) (tokensToTransferOver : U64) :
    Outcome Reserve := do
  requireFresh r clock.slot ALL_CHECKS
  let cap ← addToWithdrawalAccum r.config.debtWithdrawalCap tokensToTransferOver
    (← clock.timestamp)
  let r ← (withDebtCap r cap).borrow (ofU64 tokensToTransferOver) false
  return r.markStale

def flashBorrowReserveLiquidity (r : Reserve) (liquidityAmount : U64) : Outcome Reserve := do
  require (.error .flashLoansDisabled) (r.config.fees.flashLoanFeeSf.val ≠ 2 ^ 64 - 1)
  let r ← r.borrow (ofU64 liquidityAmount) true
  return r.markStale

/-- The amount repaid with the referrer's fee, the protocol's fee, and the reserve. -/
def flashRepayReserveLiquidity (market : LendingMarket) (r : Reserve) (liquidityAmount : U64)
    (timestamp : U64) (hasReferrer : Bool) : Outcome ((U64 × U64) × Reserve) := do
  let (protocolFee, referrerFee) ← calculateFees (ofU64 liquidityAmount)
    r.config.fees.flashLoanFeeSf .exclusive market.referralFeeBps hasReferrer
  let liquidity ← r.liquidity.repay liquidityAmount (ofU64 liquidityAmount)
  let r ← refreshReserveLimitTimestamps { r with liquidity } timestamp
  let r ← payReferrer market r.markStale referrerFee hasReferrer
  let paid ← fit .panic 64 (liquidityAmount.val + referrerFee.val)
  return ((paid, protocolFee), r)

/-- A reserve that has lost its supply is deprecated. -/
def versionAfterLoss (r : Reserve) (supply forgiveAmount : Fraction) : U64 :=
  if supply ≤ forgiveAmount then ⟨2 ^ 64 - 1, u64_max_lt⟩ else r.version

/-- The debt forgiven at the cost of the depositors. -/
def socializeLoss (r : Reserve) (slot : U64) (liquidityAmount : U64) (borrowedAmount : Fraction) :
    Outcome Reserve := do
  requireFresh r slot ALL_CHECKS
  let forgiveAmount := min (ofU64 liquidityAmount) borrowedAmount
  let supply ← r.liquidity.totalSupply
  let version := versionAfterLoss r supply forgiveAmount
  let liquidity ← r.liquidity.forgiveDebt forgiveAmount
  return { r with version, liquidity }.markStale

end Borrowing

section Administration

/-- What the validation of a configuration asks of the modelled fields. -/
def validateReserveConfigIntegrity (config : ReserveConfig) : Outcome Unit := do
  require (.error .invalidConfig) (config.fees.originationFeeSf.val < ONE_SCALED)
  require (.error .invalidConfig) (config.protocolTakeRatePct.val ≤ 100)
  require (.error .invalidConfig) (100 ≤ config.borrowFactorPct.val)
  require (.error .invalidConfig) (config.utilizationLimitBlockBorrowingAbovePct.val ≤ 100)
  config.borrowRateCurve.validate

def withConfig (r : Reserve) (config : ReserveConfig) : Reserve := { r with config }

/-- The configuration in place of the old one. Its validation can only be skipped as long as
nobody uses the reserve. -/
def updateReserveConfig (market : LendingMarket) (r : Reserve) (config : ReserveConfig)
    (skipConfigIntegrityValidation : Bool) : Outcome Reserve := do
  if skipConfigIntegrityValidation then
    require (.error .invalidConfig)
      ((withConfig r config).isPredeposit market.minInitialDepositAmount = true)
  else
    validateReserveConfigIntegrity config
  return withConfig r config

end Administration

end SolanaAuditor.Klend
