/- SolanaAuditor/Klend/WithdrawTickets
   digest: The tickets of the withdraw queue, and what they do to the reserve. -/

import SolanaAuditor.Klend.Operations

set_option autoImplicit false
set_option relaxedAutoImplicit false

namespace SolanaAuditor.Klend

open SolanaAuditor.Lib.CheckedWords Fraction

section Tickets

variable {Pubkey : Type}

/-- A place in the queue of a reserve, with the collateral that waits there. -/
structure WithdrawTicket (Pubkey : Type) where
  sequenceNumber : U64
  owner : Pubkey
  userDestinationLiquidityTa : Pubkey
  queuedCollateralAmount : U64
  createdAtTimestamp : U64
  invalid : Bool

def WithdrawTicket.isValid (t : WithdrawTicket Pubkey) : Bool := !t.invalid

def WithdrawTicket.isFullyCancelled (t : WithdrawTicket Pubkey) : Bool :=
  decide (t.queuedCollateralAmount.val = 0)

end Tickets

section Values

/-- A liquidity amount must be worth the minimum of the market. -/
def checkMinLiquidityValue (market : LendingMarket) (r : Reserve) (liquidityAmount : U64)
    (tooSmall : LendingError) : Outcome Unit := do
  let value ← r.liquidity.liquidityAmountToMarketValue (ofU64 liquidityAmount)
  require (.error tooSmall) (ofU64 market.minWithdrawQueuedLiquidityValue ≤ value)

def checkMinWithdrawTicketValue (market : LendingMarket) (r : Reserve) (collateralAmount : U64) :
    Outcome Unit := do
  let liquidityAmount ← (← r.collateralExchangeRate).collateralToLiquidity collateralAmount
  checkMinLiquidityValue market r liquidityAmount .withdrawTicketValueTooSmall

def checkMinWithdrawnQueuedLiquidityValue (market : LendingMarket) (r : Reserve)
    (liquidityAmountToWithdraw : U64) (ticketEmptied : Bool) : Outcome Unit :=
  if ticketEmptied then return ()
  else
    checkMinLiquidityValue market r liquidityAmountToWithdraw
      .withdrawQueuedLiquidityValueTooSmall

end Values

section Operations

variable {Pubkey : Type} (market : LendingMarket) (r : Reserve)

/-- The number of the ticket. -/
def enqueueToWithdraw (collateralAmount : U64) : Outcome (U64 × Reserve) := do
  require (.error .invalidAmount) (collateralAmount.val ≠ 0)
  checkMinWithdrawTicketValue market r collateralAmount
  let (sequenceNumber, withdrawQueue) ← r.withdrawQueue.enqueue collateralAmount
  return (sequenceNumber, { r with withdrawQueue })

structure TicketedWithdrawResult where
  collateralAmountToBurn : U64
  liquidityAmountToWithdraw : U64

/-- What remains in a ticket must be worth a ticket of its own. -/
def checkRemainingTicketValue (remainingCollateral : U64) : Outcome Unit :=
  if remainingCollateral.val ≠ 0 then checkMinWithdrawTicketValue market r remainingCollateral
  else return ()

def withdrawQueuedLiquidity (ticket : WithdrawTicket Pubkey) (clock : Clock) :
    Outcome (TicketedWithdrawResult × WithdrawTicket Pubkey × Reserve) := do
  let maxRedeemable ← r.totalRedeemableCollateralAmount
  require (.error .insufficientLiquidity) (maxRedeemable.val ≠ 0)
  let collateralAmountToBurn := min ticket.queuedCollateralAmount maxRedeemable
  let rest ← minus .panic ticket.queuedCollateralAmount.val collateralAmountToBurn.val
  let remainingCollateral ← fit .panic 64 rest
  let ticketEmptied := decide (remainingCollateral.val = 0)
  checkRemainingTicketValue market r remainingCollateral
  let (liquidityAmountToWithdraw, r) ← redeemReserveCollateral r collateralAmountToBurn clock
    .FOR_WITHDRAW_QUEUED_LIQUIDITY
  checkMinWithdrawnQueuedLiquidityValue market r liquidityAmountToWithdraw ticketEmptied
  let withdrawQueue ← r.withdrawQueue.dequeue collateralAmountToBurn ticketEmptied
  return (⟨collateralAmountToBurn, liquidityAmountToWithdraw⟩,
    { ticket with queuedCollateralAmount := remainingCollateral }, { r with withdrawQueue })

/-- The collateral to return to the owner. -/
def cancelWithdrawTicket (ticket : WithdrawTicket Pubkey) (collateralAmountToCancel : U64) :
    Outcome (U64 × WithdrawTicket Pubkey × Reserve) := do
  require (.error .invalidAmount) (collateralAmountToCancel.val ≠ 0)
  let amountToCancel := min collateralAmountToCancel ticket.queuedCollateralAmount
  let rest ← minus .panic ticket.queuedCollateralAmount.val amountToCancel.val
  let remainingCollateral ← fit .panic 64 rest
  checkRemainingTicketValue market r remainingCollateral
  let withdrawQueue ← r.withdrawQueue.dequeue amountToCancel false
  return (amountToCancel, { ticket with queuedCollateralAmount := remainingCollateral },
    { r with withdrawQueue })

end Operations

end SolanaAuditor.Klend
