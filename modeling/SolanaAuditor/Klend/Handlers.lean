/- SolanaAuditor/Klend/Handlers
   digest: The instructions of klend on one reserve and the token account of its liquidity. -/

import SolanaAuditor.Klend.WithdrawTickets

set_option autoImplicit false
set_option relaxedAutoImplicit false

/-!
Of the accounts of an instruction the reserve and its liquidity vault are modelled. The tokens
move after the reserve has changed, and the handlers then compare the vault with the reserve.
-/

namespace SolanaAuditor.Klend

open SolanaAuditor.Lib.CheckedWords Fraction

section Checks

def checkReserveEmergencyMode (r : Reserve) : Outcome Unit :=
  require (.error .reserveEmergencyMode) (r.config.emergencyMode = false)

def checkReserveVersion (r : Reserve) : Outcome Unit :=
  require (.error .reserveDeprecated) (r.version.val = PROGRAM_VERSION)

def checkReserveStatusAndVersion (r : Reserve) : Outcome Unit := do
  require (.error .reserveObsolete) (r.config.status ≠ .obsolete)
  checkReserveVersion r

inductive LendingAction
  | additive (amount : U64)
  | subtractive (amount : U64)

/-- The 64 bits of an unsigned word, read as a signed one. -/
def asI64 (n : U64) : Int := if n.val < 2 ^ 63 then n.val else (n.val : Int) - 2 ^ 64

def LendingAction.subtractiveSigned (netSubtracted : Int) : Outcome LendingAction :=
  if 0 ≤ netSubtracted then subtractive <$> fit .panic 64 netSubtracted.natAbs
  else additive <$> fit .panic 64 netSubtracted.natAbs

/-- The amount after the action, by arithmetic that aborts when it does not fit. -/
def LendingAction.expected (initial : U64) : LendingAction → Outcome U64
  | additive amount => fit .panic 64 (initial.val + amount.val)
  | subtractive amount => do
    let rest ← minus .panic initial.val amount.val
    fit .panic 64 rest

def postTransferVaultBalanceLiquidityReserveChecks (finalReserveVaultBalance
    finalReserveAvailableLiquidity initialReserveVaultBalance initialReserveAvailableLiquidity : U64)
    (actionType : LendingAction) : Outcome Unit := do
  let preTransferReserveDiff ←
    minus .panic initialReserveVaultBalance.val initialReserveAvailableLiquidity.val
  let postTransferReserveDiff ←
    minus .panic finalReserveVaultBalance.val finalReserveAvailableLiquidity.val
  require (.error .reserveTokenBalanceMismatch) (preTransferReserveDiff = postTransferReserveDiff)
  let expectedReserveVaultBalance ← actionType.expected initialReserveVaultBalance
  require (.error .reserveVaultBalanceMismatch)
    (expectedReserveVaultBalance = finalReserveVaultBalance)
  let expectedReserveAvailableLiquidity ← actionType.expected initialReserveAvailableLiquidity
  require (.error .reserveAccountingMismatch)
    (expectedReserveAvailableLiquidity = finalReserveAvailableLiquidity)

def postTransferVaultBalanceRewardsDepositChecks (initial final : ReserveLiquidity)
    (amountTransferred initialReserveVaultBalance finalReserveVaultBalance : U64) :
    Outcome Unit := do
  let expectedReserveVaultBalance ←
    fit .panic 64 (initialReserveVaultBalance.val + amountTransferred.val)
  require (.error .reserveVaultBalanceMismatch)
    (expectedReserveVaultBalance = finalReserveVaultBalance)
  let expectedRewards ← fit .panic 64 (initial.rewardsAmountAvailable.val + amountTransferred.val)
  require (.error .reserveAccountingMismatch) (expectedRewards = final.rewardsAmountAvailable)
  require (.error .reserveAccountingMismatch)
    (initial.totalAvailableAmount = final.totalAvailableAmount)

end Checks

section Settlements

/-- The reserve after an instruction, the transfers it then makes, and what it asks of the balance
of the vault before and after them. -/
structure Settlement where
  reserve : Reserve
  transfers : List LendingAction
  check : U64 → U64 → Outcome Unit

/-- An instruction that moves no liquidity. -/
def Settlement.still (reserve : Reserve) : Settlement :=
  { reserve, transfers := [], check := fun _ _ => .ok () }

/-- Transfers that are compared with the liquidity of the reserve before the operation. -/
def Settlement.compared (initial reserve : Reserve) (transfers : List LendingAction)
    (action : LendingAction) : Settlement where
  reserve := reserve
  transfers := transfers
  check := fun initialVault finalVault =>
    postTransferVaultBalanceLiquidityReserveChecks finalVault
      reserve.liquidity.totalAvailableAmount initialVault initial.liquidity.totalAvailableAmount
      action

/-- The token program moves tokens in or out of the vault, or fails. -/
def transfer (vault : U64) : LendingAction → Outcome U64
  | .additive amount => fit .external 64 (vault.val + amount.val)
  | .subtractive amount => do
    let rest ← minus .external vault.val amount.val
    fit .external 64 rest

structure ReserveAccounts where
  reserve : Reserve
  supplyVault : U64

def settle (supplyVault : U64) (t : Settlement) : Outcome ReserveAccounts := do
  let finalVault ← t.transfers.foldlM transfer supplyVault
  t.check supplyVault finalVault
  return { reserve := t.reserve, supplyVault := finalVault }

end Settlements

section Handlers

variable (market : LendingMarket) (clock : Clock) (r : Reserve)

/-- A new reserve with the deposit that its creator makes, unless the mint would freeze the
account. -/
def processInitReserve (mintDecimals : U64) (isFrozenDefaultAccountState : Bool) :
    Outcome ReserveAccounts := do
  let amount : U64 := if isFrozenDefaultAccountState then 0 else market.minInitialDepositAmount
  let borrowRateCurve ← BorrowRateCurve.newFlat 0
  let config := ReserveConfig.default .hidden borrowRateCurve
  let supplyVault ← transfer 0 (.additive amount)
  return {
    reserve :=
      { version := ⟨PROGRAM_VERSION, by decide⟩
        lastUpdate := .new clock.slot
        liquidity := .new mintDecimals amount
        collateral := { mintTotalSupply := amount }
        config
        withdrawQueue := ⟨0, 0, 0⟩ }
    supplyVault }

def processRefreshReserve (price : Option GetPriceResult) : Outcome Settlement := do
  checkReserveVersion r
  let r ← refreshReserve market r clock (if r.config.emergencyMode then none else price)
  let r ← refreshReserveLimitTimestamps r (← clock.timestamp)
  return .still r

def processDepositReserveLiquidity (liquidityAmount : U64) : Outcome Settlement := do
  checkReserveStatusAndVersion r
  checkReserveEmergencyMode r
  require (.error .cTokenUsageBlocked) (r.config.blockCtokenUsage = false)
  let initial ← refreshReserve market r clock none
  let (amounts, final) ← depositReserveLiquidity initial clock liquidityAmount
  return .compared initial final [.additive amounts.1] (.additive amounts.1)

/-- The collateral goes to an obligation, for which the reserve is refreshed once more. -/
def processDepositReserveLiquidityAndObligationCollateral (liquidityAmount : U64) :
    Outcome Settlement := do
  checkReserveStatusAndVersion r
  checkReserveEmergencyMode r
  let initial ← refreshReserve market r clock none
  let (amounts, deposited) ← depositReserveLiquidity initial clock liquidityAmount
  let final ← refreshReserve market deposited clock none
  return .compared initial final [.additive amounts.1] (.additive amounts.1)

def processRedeemReserveCollateral (collateralAmount : U64) : Outcome Settlement := do
  checkReserveEmergencyMode r
  checkReserveVersion r
  let initial ← refreshReserve market r clock none
  let (liquidityAmount, final) ← redeemReserveCollateral initial collateralAmount clock .REGULAR
  return .compared initial final [.subtractive liquidityAmount] (.subtractive liquidityAmount)

/-- The collateral comes from an obligation. -/
def processWithdrawObligationCollateralAndRedeemReserveCollateral (collateralAmount : U64) :
    Outcome Settlement := do
  checkReserveEmergencyMode r
  checkReserveVersion r
  let (liquidityAmount, final) ← redeemReserveCollateral r collateralAmount clock .REGULAR
  return .compared r final [.subtractive liquidityAmount] (.subtractive liquidityAmount)

def feeTransfer (originationFee : U64) : List LendingAction :=
  if 0 < originationFee.val then [.subtractive originationFee] else []

def processBorrowObligationLiquidity (borrowSize : BorrowSize) (remainingBorrowValue : Fraction)
    (isInElevationGroup hasReferrer : Bool) : Outcome Settlement := do
  checkReserveStatusAndVersion r
  checkReserveEmergencyMode r
  let (result, final) ← borrowObligationLiquidity market r clock borrowSize remainingBorrowValue
    isInElevationGroup hasReferrer
  let paid ← fit .panic 64 (result.originationFee.val + result.receiveAmount.val)
  return .compared r final (feeTransfer result.originationFee ++ [.subtractive result.receiveAmount])
    (.subtractive paid)

def processRepayObligationLiquidity (liquidityAmount : U64) (borrowedAmount : Fraction)
    (earlyRepayPenalty : U64) : Outcome Settlement := do
  checkReserveEmergencyMode r
  checkReserveVersion r
  let (paid, final) ← repayObligationLiquidity r clock liquidityAmount borrowedAmount
    earlyRepayPenalty
  return .compared r final [.additive paid] (.additive paid)

/-- A liquidation that is repaid to this reserve and pays collateral of another one. -/
def processLiquidateRepay (settleAmount : Fraction) : Outcome Settlement := do
  checkReserveEmergencyMode r
  checkReserveVersion r
  let (repayAmount, final) ← repayPostLiquidation r clock settleAmount
  return .compared r final [.additive repayAmount] (.additive repayAmount)

/-- A liquidation that is repaid to another reserve and pays collateral of this one. -/
def processLiquidateWithdraw (withdrawAmount : U64) (reason : LiquidationReason) :
    Outcome Settlement := do
  checkReserveEmergencyMode r
  checkReserveVersion r
  requireFresh r clock.slot LIQUIDATION_CHECKS
  match ← redeemPostLiquidation market r clock withdrawAmount reason with
  | (none, final) => return .still final
  | (some liquidityAmount, final) => do
    let action ← LendingAction.subtractiveSigned (asI64 liquidityAmount)
    return .compared r final [.subtractive liquidityAmount] action

/-- The subtraction of two `i64`. -/
def netWithdrawalAmount (liquidityAmount repayAmount : U64) : Outcome Int := do
  let net := asI64 liquidityAmount - asI64 repayAmount
  require .panic (-2 ^ 63 ≤ net ∧ net < 2 ^ 63)
  return net

/-- A liquidation with this reserve on both sides. -/
def processLiquidateSameReserve (settleAmount : Fraction) (withdrawAmount : U64)
    (reason : LiquidationReason) : Outcome Settlement := do
  checkReserveEmergencyMode r
  checkReserveVersion r
  let (repayAmount, repaid) ← repayPostLiquidation r clock settleAmount
  match ← redeemPostLiquidation market repaid clock withdrawAmount reason with
  | (none, final) => return .compared r final [.additive repayAmount] (.additive repayAmount)
  | (some liquidityAmount, final) => do
    let net ← netWithdrawalAmount liquidityAmount repayAmount
    let action ← LendingAction.subtractiveSigned net
    return .compared r final [.additive repayAmount, .subtractive liquidityAmount] action

/-- What the handler of a rollover asks of one of its two reserves. -/
def rolloverCheck (initial final : Reserve) (expectedBorrowed : Outcome Fraction)
    (tokens : LendingAction) (initialVault finalVault : U64) : Outcome Unit := do
  require (.error .reserveAccountingMismatch)
    ((← expectedBorrowed) = final.liquidity.totalBorrow)
  let expectedAvailable ← tokens.expected initial.liquidity.totalAvailableAmount
  require (.error .reserveAccountingMismatch)
    (expectedAvailable = final.liquidity.totalAvailableAmount)
  let expectedVault ← tokens.expected initialVault
  require (.error .reserveVaultBalanceMismatch) (expectedVault = finalVault)

def processRolloverSource (tokensToTransferOver : U64) (fullBorrowAmount : Fraction) :
    Outcome Settlement := do
  checkReserveStatusAndVersion r
  checkReserveEmergencyMode r
  let final ← rolloverRepay r clock tokensToTransferOver fullBorrowAmount
  let repaidAmount := min (ofU64 tokensToTransferOver) fullBorrowAmount
  return {
    reserve := final
    transfers := [.additive tokensToTransferOver]
    check := rolloverCheck r final (r.liquidity.totalBorrow.sub repaidAmount)
      (.additive tokensToTransferOver) }

def processRolloverTarget (tokensToTransferOver : U64) : Outcome Settlement := do
  checkReserveStatusAndVersion r
  checkReserveEmergencyMode r
  let final ← rolloverBorrow r clock tokensToTransferOver
  return {
    reserve := final
    transfers := [.subtractive tokensToTransferOver]
    check := rolloverCheck r final (r.liquidity.totalBorrow.add (ofU64 tokensToTransferOver))
      (.subtractive tokensToTransferOver) }

def processFlashBorrowReserveLiquidity (liquidityAmount : U64) : Outcome Settlement := do
  checkReserveEmergencyMode r
  checkReserveVersion r
  require (.error .reserveObsolete) (r.config.status ≠ .obsolete)
  require (.error .flashLoansDisabled) (r.config.fees.flashLoanFeeSf.val ≠ 2 ^ 64 - 1)
  let initial ← refreshReserve market r clock none
  let final ← flashBorrowReserveLiquidity initial liquidityAmount
  return .compared initial final [.subtractive liquidityAmount] (.subtractive liquidityAmount)

/-- The protocol's fee goes straight to its receiver. -/
def processFlashRepayReserveLiquidity (liquidityAmount : U64) (hasReferrer : Bool) :
    Outcome Settlement := do
  checkReserveEmergencyMode r
  let (paid, final) ← flashRepayReserveLiquidity market r liquidityAmount (← clock.timestamp)
    hasReferrer
  return .compared r final [.additive paid.1] (.additive paid.1)

def processRedeemFees : Outcome Settlement := do
  checkReserveEmergencyMode r
  let (withdrawAmount, reserve) ← redeemFees r clock.slot
  return { reserve, transfers := [.subtractive withdrawAmount], check := fun _ _ => .ok () }

def processWithdrawReferrerFees (amountUnclaimedSf : U128) : Outcome Settlement := do
  checkReserveEmergencyMode r
  let (withdrawAmount, reserve) ← withdrawReferrerFees r clock.slot amountUnclaimedSf
  return { reserve, transfers := [.subtractive withdrawAmount], check := fun _ _ => .ok () }

/-- A refresh of an obligation that borrows from the reserve. -/
def processRefreshObligation (slotsElapsed : Nat) (borrowedAmount previousBorrowedAmount : Fraction)
    (hasReferrer : Bool) : Outcome Settlement := do
  checkReserveVersion r
  let r ← accumulateReferrerFees market r slotsElapsed borrowedAmount previousBorrowedAmount
    hasReferrer
  return .still r

def processSocializeLoss (liquidityAmount : U64) (borrowedAmount : Fraction) :
    Outcome Settlement := do
  let r ← socializeLoss r clock.slot liquidityAmount borrowedAmount
  return .still r

def processUpdateReserveConfig (config : ReserveConfig) (skipConfigIntegrityValidation : Bool) :
    Outcome Settlement := do
  require (.error .reserveHasNotReceivedInitialDeposit) (r.hasInitialDeposit = true)
  let r ← refreshReserve market r clock none
  let r ← updateReserveConfig market r config skipConfigIntegrityValidation
  return .still r

def processTopupReserveRewards (amount : U64) : Outcome Settlement := do
  require (.error .invalidAmount) (0 < amount.val)
  checkReserveStatusAndVersion r
  checkReserveEmergencyMode r
  require (.error .reserveRewardsDisabled) (0 < market.reserveRewardsMaxAprBps.val)
  let r ← refreshReserve market r clock none
  let rewardsAmountAvailable ← fit .panic 64 (r.liquidity.rewardsAmountAvailable.val + amount.val)
  let liquidity := { r.liquidity with rewardsAmountAvailable }
  return {
    reserve := { r with liquidity }
    transfers := [.additive amount]
    check := postTransferVaultBalanceRewardsDepositChecks r.liquidity liquidity amount }

/-- The first deposit, of which nobody can redeem the collateral. -/
def processSeedDepositOnInitReserve : Outcome Settlement := do
  require (.error .initialAdminDepositExecuted) (r.hasInitialDeposit = false)
  let amount := market.minInitialDepositAmount
  let liquidity := { r.liquidity with totalAvailableAmount := amount }
  let collateral : ReserveCollateral := { mintTotalSupply := amount }
  return {
    reserve := { r with liquidity, collateral }
    transfers := [.additive amount]
    check := fun initialVault finalVault =>
      postTransferVaultBalanceLiquidityReserveChecks finalVault amount initialVault 0
        (.additive amount) }

/-- The number of the new ticket. -/
def processEnqueueToWithdraw (collateralAmount : U64) : Outcome (U64 × Settlement) := do
  checkReserveStatusAndVersion r
  checkReserveEmergencyMode r
  require (.error .withdrawTicketIssuanceDisabled) (market.withdrawTicketIssuanceEnabled = true)
  let r ← refreshReserve market r clock none
  let (sequenceNumber, r) ← enqueueToWithdraw market r collateralAmount
  return (sequenceNumber, .still r)

variable {Pubkey : Type} (ticket : WithdrawTicket Pubkey)

/-- A ticket that pays its liquidity out. -/
def processWithdrawQueuedLiquidity :
    Outcome (TicketedWithdrawResult × WithdrawTicket Pubkey × Settlement) := do
  checkReserveEmergencyMode r
  checkReserveVersion r
  require (.error .withdrawTicketRedemptionDisabled) (market.withdrawTicketRedemptionEnabled = true)
  let initial ← refreshReserve market r clock none
  let (result, ticket, final) ← withdrawQueuedLiquidity market initial ticket clock
  let paid := LendingAction.subtractive result.liquidityAmountToWithdraw
  return (result, ticket, .compared initial final [paid] paid)

/-- A ticket that is taken from the queue without a payout: it was cancelled, or its owner can no
longer be paid. -/
def processSkipTicket : Outcome Settlement := do
  checkReserveEmergencyMode r
  checkReserveVersion r
  require (.error .withdrawTicketRedemptionDisabled) (market.withdrawTicketRedemptionEnabled = true)
  let withdrawQueue ← r.withdrawQueue.dequeue ticket.queuedCollateralAmount true
  return .still { r with withdrawQueue }

def processCancelWithdrawTicket (collateralAmountToCancel : U64) :
    Outcome (U64 × WithdrawTicket Pubkey × Settlement) := do
  checkReserveVersion r
  checkReserveEmergencyMode r
  require (.error .withdrawTicketCancellationDisabled)
    (market.withdrawTicketCancellationEnabled = true)
  let r ← refreshReserve market r clock none
  let (amountToCancel, ticket, r) ← cancelWithdrawTicket market r ticket collateralAmountToCancel
  return (amountToCancel, ticket, .still r)

end Handlers

section Runs

variable {Pubkey : Type}

inductive Instruction (Pubkey : Type)
  | refreshReserve (price : Option GetPriceResult)
  | depositReserveLiquidity (liquidityAmount : U64)
  | depositReserveLiquidityAndObligationCollateral (liquidityAmount : U64)
  | redeemReserveCollateral (collateralAmount : U64)
  | withdrawObligationCollateralAndRedeemReserveCollateral (collateralAmount : U64)
  | borrowObligationLiquidity (borrowSize : BorrowSize) (remainingBorrowValue : Fraction)
      (isInElevationGroup hasReferrer : Bool)
  | repayObligationLiquidity (liquidityAmount : U64) (borrowedAmount : Fraction)
      (earlyRepayPenalty : U64)
  | liquidateRepay (settleAmount : Fraction)
  | liquidateWithdraw (withdrawAmount : U64) (reason : LiquidationReason)
  | liquidateSameReserve (settleAmount : Fraction) (withdrawAmount : U64)
      (reason : LiquidationReason)
  | rolloverSource (tokensToTransferOver : U64) (fullBorrowAmount : Fraction)
  | rolloverTarget (tokensToTransferOver : U64)
  | flashBorrowReserveLiquidity (liquidityAmount : U64)
  | flashRepayReserveLiquidity (liquidityAmount : U64) (hasReferrer : Bool)
  | redeemFees
  | withdrawReferrerFees (amountUnclaimedSf : U128)
  | refreshObligation (slotsElapsed : Nat) (borrowedAmount previousBorrowedAmount : Fraction)
      (hasReferrer : Bool)
  | socializeLoss (liquidityAmount : U64) (borrowedAmount : Fraction)
  | updateReserveConfig (config : ReserveConfig) (skipConfigIntegrityValidation : Bool)
  | topupReserveRewards (amount : U64)
  | seedDepositOnInitReserve
  | enqueueToWithdraw (collateralAmount : U64)
  | withdrawQueuedLiquidity (ticket : WithdrawTicket Pubkey)
  | skipTicket (ticket : WithdrawTicket Pubkey)
  | cancelWithdrawTicket (ticket : WithdrawTicket Pubkey) (collateralAmountToCancel : U64)

/-- An instruction with what it reads of the chain. -/
structure Call (Pubkey : Type) where
  market : LendingMarket
  clock : Clock
  instruction : Instruction Pubkey

def handle (call : Call Pubkey) (r : Reserve) : Outcome Settlement :=
  match call.instruction with
  | .refreshReserve price => processRefreshReserve call.market call.clock r price
  | .depositReserveLiquidity liquidityAmount =>
    processDepositReserveLiquidity call.market call.clock r liquidityAmount
  | .depositReserveLiquidityAndObligationCollateral liquidityAmount =>
    processDepositReserveLiquidityAndObligationCollateral call.market call.clock r liquidityAmount
  | .redeemReserveCollateral collateralAmount =>
    processRedeemReserveCollateral call.market call.clock r collateralAmount
  | .withdrawObligationCollateralAndRedeemReserveCollateral collateralAmount =>
    processWithdrawObligationCollateralAndRedeemReserveCollateral call.clock r collateralAmount
  | .borrowObligationLiquidity borrowSize remainingBorrowValue isInElevationGroup hasReferrer =>
    processBorrowObligationLiquidity call.market call.clock r borrowSize remainingBorrowValue
      isInElevationGroup hasReferrer
  | .repayObligationLiquidity liquidityAmount borrowedAmount earlyRepayPenalty =>
    processRepayObligationLiquidity call.clock r liquidityAmount borrowedAmount earlyRepayPenalty
  | .liquidateRepay settleAmount => processLiquidateRepay call.clock r settleAmount
  | .liquidateWithdraw withdrawAmount reason =>
    processLiquidateWithdraw call.market call.clock r withdrawAmount reason
  | .liquidateSameReserve settleAmount withdrawAmount reason =>
    processLiquidateSameReserve call.market call.clock r settleAmount withdrawAmount reason
  | .rolloverSource tokens fullBorrowAmount =>
    processRolloverSource call.clock r tokens fullBorrowAmount
  | .rolloverTarget tokens => processRolloverTarget call.clock r tokens
  | .flashBorrowReserveLiquidity liquidityAmount =>
    processFlashBorrowReserveLiquidity call.market call.clock r liquidityAmount
  | .flashRepayReserveLiquidity liquidityAmount hasReferrer =>
    processFlashRepayReserveLiquidity call.market call.clock r liquidityAmount hasReferrer
  | .redeemFees => processRedeemFees call.clock r
  | .withdrawReferrerFees amountUnclaimedSf =>
    processWithdrawReferrerFees call.clock r amountUnclaimedSf
  | .refreshObligation slotsElapsed borrowedAmount previousBorrowedAmount hasReferrer =>
    processRefreshObligation call.market r slotsElapsed borrowedAmount previousBorrowedAmount
      hasReferrer
  | .socializeLoss liquidityAmount borrowedAmount =>
    processSocializeLoss call.clock r liquidityAmount borrowedAmount
  | .updateReserveConfig config skip =>
    processUpdateReserveConfig call.market call.clock r config skip
  | .topupReserveRewards amount => processTopupReserveRewards call.market call.clock r amount
  | .seedDepositOnInitReserve => processSeedDepositOnInitReserve call.market r
  | .enqueueToWithdraw collateralAmount => do
    return (← processEnqueueToWithdraw call.market call.clock r collateralAmount).2
  | .withdrawQueuedLiquidity ticket => do
    return (← processWithdrawQueuedLiquidity call.market call.clock r ticket).2.2
  | .skipTicket ticket => processSkipTicket call.market r ticket
  | .cancelWithdrawTicket ticket collateralAmountToCancel => do
    return (← processCancelWithdrawTicket call.market call.clock r ticket
      collateralAmountToCancel).2.2

def execute (s : ReserveAccounts) (call : Call Pubkey) : Outcome ReserveAccounts := do
  settle s.supplyVault (← handle call s.reserve)

/-- An instruction that fails leaves the accounts as they were. -/
def step (s : ReserveAccounts) (call : Call Pubkey) : ReserveAccounts :=
  (execute s call).toOption.getD s

def run (s : ReserveAccounts) (calls : List (Call Pubkey)) : ReserveAccounts := calls.foldl step s

end Runs

end SolanaAuditor.Klend
