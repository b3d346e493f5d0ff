/- SolanaAuditor/Klend/TicketQueue
   digest: The withdraw queue with its ticket accounts, and the instructions on them. -/

import SolanaAuditor.Klend.Handlers

set_option autoImplicit false
set_option relaxedAutoImplicit false

namespace SolanaAuditor.Klend

open SolanaAuditor.Lib.CheckedWords

section Accounts

/-- Whether a ticket can be paid to the token account that it names. -/
inductive DestinationTokenAccountValidity
  | valid
  | invalid
  | ataToBeCreated

/-- A reserve with the accounts of its queue: the tickets, by the numbers in their addresses, and
the vaults in which the queued collateral of each owner waits. -/
structure QueueAccounts (Pubkey : Type) extends ReserveAccounts where
  withdrawTicket : U64 → Option (WithdrawTicket Pubkey)
  ownerQueuedCollateralVault : Pubkey → U64

def postTransferOwnerQueuedCollateralVaultBalanceChecks (finalOwnerQueuedCollateralVaultBalance
    finalQueuedCollateral initialOwnerQueuedCollateralVaultBalance initialQueuedCollateral : U64)
    (actionType : LendingAction) : Outcome Unit := do
  let preTransferCollateralDiff : Int :=
    initialOwnerQueuedCollateralVaultBalance.val - initialQueuedCollateral.val
  let postTransferCollateralDiff : Int :=
    finalOwnerQueuedCollateralVaultBalance.val - finalQueuedCollateral.val
  require (.error .reserveTokenBalanceMismatch)
    (preTransferCollateralDiff = postTransferCollateralDiff)
  let expectedVaultBalance ← actionType.expected initialOwnerQueuedCollateralVaultBalance
  require (.error .reserveVaultBalanceMismatch)
    (expectedVaultBalance = finalOwnerQueuedCollateralVaultBalance)
  let expectedQueuedCollateral ← actionType.expected initialQueuedCollateral
  require (.error .reserveAccountingMismatch) (expectedQueuedCollateral = finalQueuedCollateral)

/-- The balances of the user are left to the token program. -/
def postCancelWithdrawTicketBalanceChecks (finalOwnerQueuedCollateralVaultBalance
    finalQueuedCollateral initialOwnerQueuedCollateralVaultBalance initialQueuedCollateral
    amountTransferred : U64) : Outcome Unit := do
  let returned := LendingAction.subtractive amountTransferred
  let expectedVaultBalance ← returned.expected initialOwnerQueuedCollateralVaultBalance
  require (.error .reserveVaultBalanceMismatch)
    (expectedVaultBalance = finalOwnerQueuedCollateralVaultBalance)
  let expectedQueuedCollateral ← returned.expected initialQueuedCollateral
  require (.error .reserveAccountingMismatch) (expectedQueuedCollateral = finalQueuedCollateral)

def postTicketCollateralRecoveryOwnerQueuedCollateralVaultBalanceChecks
    (finalOwnerQueuedCollateralVaultBalance initialOwnerQueuedCollateralVaultBalance
      amountTransferredFromVaultToUser : U64) : Outcome Unit := do
  let recovered := LendingAction.subtractive amountTransferredFromVaultToUser
  let expectedVaultBalance ← recovered.expected initialOwnerQueuedCollateralVaultBalance
  require (.error .reserveVaultBalanceMismatch)
    (expectedVaultBalance = finalOwnerQueuedCollateralVaultBalance)

end Accounts

section Handlers

variable {Pubkey : Type} [DecidableEq Pubkey] (market : LendingMarket) (clock : Clock)
  (s : QueueAccounts Pubkey)

/-- The accounts after an instruction, with one ticket account and one vault changed. -/
def QueueAccounts.withTicket (accounts : ReserveAccounts) (sequenceNumber : U64)
    (ticket : Option (WithdrawTicket Pubkey)) (owner : Pubkey) (vault : U64) :
    QueueAccounts Pubkey where
  toReserveAccounts := accounts
  withdrawTicket := Function.update s.withdrawTicket sequenceNumber ticket
  ownerQueuedCollateralVault := Function.update s.ownerQueuedCollateralVault owner vault

/-- The ticket account is created, so it must not be there before. -/
def issueTicket (owner userDestinationLiquidityTa : Pubkey) (collateralAmount : U64) :
    Outcome (QueueAccounts Pubkey) := do
  -- the refresh inside leaves the queue as it is, so its numbers are read before
  let initialQueue := s.reserve.withdrawQueue
  let initialVault := s.ownerQueuedCollateralVault owner
  require .external
    ((s.withdrawTicket initialQueue.nextIssuedTicketSequenceNumber).isNone = true)
  let (sequenceNumber, t) ← processEnqueueToWithdraw market clock s.reserve collateralAmount
  let accounts ← settle s.supplyVault t
  let createdAtTimestamp ← clock.timestamp
  let finalVault ← transfer initialVault (.additive collateralAmount)
  postTransferOwnerQueuedCollateralVaultBalanceChecks finalVault
    t.reserve.withdrawQueue.queuedCollateralAmount initialVault initialQueue.queuedCollateralAmount
    (.additive collateralAmount)
  let ticket :=
    { sequenceNumber
      owner
      userDestinationLiquidityTa
      queuedCollateralAmount := collateralAmount
      createdAtTimestamp
      invalid := false }
  return s.withTicket accounts initialQueue.nextIssuedTicketSequenceNumber (some ticket) owner
    finalVault

/-- The account of a ticket that was paid in full is closed. -/
def payTicket (sequenceNumber : U64) (ticket : WithdrawTicket Pubkey)
    (requireClosingTicket : Bool) : Outcome (QueueAccounts Pubkey) := do
  let initialVault := s.ownerQueuedCollateralVault ticket.owner
  let (result, remaining, t) ← processWithdrawQueuedLiquidity market clock s.reserve ticket
  let accounts ← settle s.supplyVault t
  let finalVault ← transfer initialVault (.subtractive result.collateralAmountToBurn)
  postTransferOwnerQueuedCollateralVaultBalanceChecks finalVault
    t.reserve.withdrawQueue.queuedCollateralAmount initialVault
    s.reserve.withdrawQueue.queuedCollateralAmount (.subtractive result.collateralAmountToBurn)
  if remaining.queuedCollateralAmount.val = 0 then
    return s.withTicket accounts sequenceNumber none ticket.owner finalVault
  else
    require (.error .withdrawTicketRequiresFullRedemption) (requireClosingTicket = false)
    return s.withTicket accounts sequenceNumber (some remaining) ticket.owner finalVault

/-- A ticket that is passed over, and what becomes of its account. -/
def passTicket (sequenceNumber : U64) (ticket : WithdrawTicket Pubkey)
    (account : Option (WithdrawTicket Pubkey)) : Outcome (QueueAccounts Pubkey) := do
  let accounts ← settle s.supplyVault (← processSkipTicket market s.reserve ticket)
  return s.withTicket accounts sequenceNumber account ticket.owner
    (s.ownerQueuedCollateralVault ticket.owner)

/-- Anyone may have the next ticket paid, and no other one. -/
def processNextTicket (destination : DestinationTokenAccountValidity) :
    Outcome (QueueAccounts Pubkey) := do
  let next := s.reserve.withdrawQueue.nextWithdrawableTicketSequenceNumber
  match s.withdrawTicket next with
  | none => .error .external
  | some ticket => do
    require (.error .withdrawTicketInvalid) (ticket.isValid = true)
    if ticket.queuedCollateralAmount.val = 0 then
      passTicket market s next ticket none
    else
      match destination with
      | .valid => payTicket market clock s next ticket false
      | .invalid => passTicket market s next ticket (some { ticket with invalid := true })
      | .ataToBeCreated => payTicket market clock s next ticket true

/-- The account of a ticket stays, also when nothing waits there any more. -/
def cancelTicket (owner : Pubkey) (ticketSequenceNumber collateralAmountToCancel : U64) :
    Outcome (QueueAccounts Pubkey) := do
  match s.withdrawTicket ticketSequenceNumber with
  | none => .error .external
  | some ticket => do
    require (.error .invalidSigner) (ticket.owner = owner)
    require (.error .withdrawTicketInvalid) (ticket.isValid = true)
    require (.error .withdrawTicketFullyCancelled) (ticket.isFullyCancelled = false)
    let initialVault := s.ownerQueuedCollateralVault ticket.owner
    let (amountToCancel, remaining, t) ← processCancelWithdrawTicket market clock s.reserve ticket
      collateralAmountToCancel
    let accounts ← settle s.supplyVault t
    let finalVault ← transfer initialVault (.subtractive amountToCancel)
    postCancelWithdrawTicketBalanceChecks finalVault
      t.reserve.withdrawQueue.queuedCollateralAmount initialVault
      s.reserve.withdrawQueue.queuedCollateralAmount amountToCancel
    return s.withTicket accounts ticketSequenceNumber (some remaining) ticket.owner finalVault

/-- The collateral of a ticket that was passed over as invalid goes back to its owner. -/
def processRecoverInvalidTicketCollateral (ticketSequenceNumber : U64) :
    Outcome (QueueAccounts Pubkey) := do
  match s.withdrawTicket ticketSequenceNumber with
  | none => .error .external
  | some ticket => do
    require (.error .withdrawTicketStillValid) (ticket.isValid = false)
    checkReserveVersion s.reserve
    checkReserveEmergencyMode s.reserve
    let initialVault := s.ownerQueuedCollateralVault ticket.owner
    let finalVault ← transfer initialVault (.subtractive ticket.queuedCollateralAmount)
    postTicketCollateralRecoveryOwnerQueuedCollateralVaultBalanceChecks finalVault initialVault
      ticket.queuedCollateralAmount
    return s.withTicket s.toReserveAccounts ticketSequenceNumber none ticket.owner finalVault

end Handlers

section Runs

variable {Pubkey : Type}

def Instruction.hasTicket : Instruction Pubkey → Bool
  | .enqueueToWithdraw .. | .withdrawQueuedLiquidity .. | .skipTicket ..
  | .cancelWithdrawTicket .. => true
  | _ => false

inductive QueueInstruction (Pubkey : Type)
  | enqueueToWithdraw (owner userDestinationLiquidityTa : Pubkey) (collateralAmount : U64)
  | withdrawQueuedLiquidity (destination : DestinationTokenAccountValidity)
  | cancelWithdrawTicket (owner : Pubkey) (ticketSequenceNumber collateralAmountToCancel : U64)
  | recoverInvalidTicketCollateral (ticketSequenceNumber : U64)
  | ofReserve (instruction : Instruction Pubkey) (hticket : instruction.hasTicket = false)

structure QueueCall (Pubkey : Type) where
  market : LendingMarket
  clock : Clock
  instruction : QueueInstruction Pubkey

variable [DecidableEq Pubkey]

def queueExecute (s : QueueAccounts Pubkey) (call : QueueCall Pubkey) :
    Outcome (QueueAccounts Pubkey) :=
  match call.instruction with
  | .enqueueToWithdraw owner destination collateralAmount =>
    issueTicket call.market call.clock s owner destination collateralAmount
  | .withdrawQueuedLiquidity destination =>
    processNextTicket call.market call.clock s destination
  | .cancelWithdrawTicket owner sequenceNumber amount =>
    cancelTicket call.market call.clock s owner sequenceNumber amount
  | .recoverInvalidTicketCollateral sequenceNumber =>
    processRecoverInvalidTicketCollateral s sequenceNumber
  | .ofReserve instruction _ => do
    let accounts ← execute s.toReserveAccounts ⟨call.market, call.clock, instruction⟩
    return { s with toReserveAccounts := accounts }

def queueStep (s : QueueAccounts Pubkey) (call : QueueCall Pubkey) : QueueAccounts Pubkey :=
  (queueExecute s call).toOption.getD s

def queueRun (s : QueueAccounts Pubkey) (calls : List (QueueCall Pubkey)) :
    QueueAccounts Pubkey := calls.foldl queueStep s

end Runs

end SolanaAuditor.Klend
