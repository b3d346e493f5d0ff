/- SolanaAuditor/Klend/QueueRuns
   digest: Over any run the queue accounts for its tickets, and each can be reached in its turn. -/

import Mathlib.Algebra.Order.BigOperators.Group.Finset
import SolanaAuditor.Klend.ShareValue
import SolanaAuditor.Klend.TicketQueue

set_option autoImplicit false
set_option relaxedAutoImplicit false

namespace SolanaAuditor.Klend

open SolanaAuditor.Lib SolanaAuditor.Lib.CheckedWords SolanaAuditor.Lib.SharePool Fraction

section Frame

variable {Pubkey : Type} {call : Call Pubkey} {market : LendingMarket} {clock : Clock}
  {r r' : Reserve} {t : Settlement} {x : U64}

theorem refreshReserve_queue {price : Option GetPriceResult}
    (h : refreshReserve market r clock price = .ok r') : r'.withdrawQueue = r.withdrawQueue :=
  (refreshReserve_ok h).1.queue

theorem updateReserveConfig_queue {config : ReserveConfig} {skip : Bool}
    (h : updateReserveConfig market r config skip = .ok r') :
    r'.withdrawQueue = r.withdrawQueue := by
  unfold updateReserveConfig at h
  split at h
  · obtain ⟨_, -, h⟩ := bind_eq_ok.mp h
    cases h
    rfl
  · obtain ⟨_, -, h⟩ := bind_eq_ok.mp h
    cases h
    rfl

theorem processLiquidateWithdraw_queue {amount : U64} {reason : LiquidationReason}
    (h : processLiquidateWithdraw market clock r amount reason = .ok t) :
    t.reserve.withdrawQueue = r.withdrawQueue := by
  unfold processLiquidateWithdraw at h
  obtain ⟨_, -, h⟩ := bind_eq_ok.mp h
  obtain ⟨_, -, h⟩ := bind_eq_ok.mp h
  obtain ⟨_, hfresh, h⟩ := bind_eq_ok.mp h
  obtain ⟨⟨paid, final⟩, hfinal, h⟩ := bind_eq_ok.mp h
  have hmoves := redeemPostLiquidation_ok hfinal (requireFresh_ok hfresh)
  cases paid with
  | none =>
    cases h
    exact hmoves.queue
  | some x =>
    obtain ⟨a, -, h⟩ := bind_eq_ok.mp h
    cases h
    exact hmoves.queue

theorem processLiquidateSameReserve_queue {settled : Fraction} {amount : U64}
    {reason : LiquidationReason}
    (h : processLiquidateSameReserve market clock r settled amount reason = .ok t) :
    t.reserve.withdrawQueue = r.withdrawQueue := by
  unfold processLiquidateSameReserve at h
  obtain ⟨_, -, h⟩ := bind_eq_ok.mp h
  obtain ⟨_, -, h⟩ := bind_eq_ok.mp h
  obtain ⟨⟨repaid, mid⟩, hmid, h⟩ := bind_eq_ok.mp h
  obtain ⟨⟨paid, final⟩, hfinal, h⟩ := bind_eq_ok.mp h
  obtain ⟨hpays, hslot⟩ := repayPostLiquidation_ok hmid
  have hqueue := (hpays.then_moves (redeemPostLiquidation_ok hfinal hslot)).queue
  cases paid with
  | none =>
    cases h
    exact hqueue
  | some x =>
    obtain ⟨net, -, h⟩ := bind_eq_ok.mp h
    obtain ⟨a, -, h⟩ := bind_eq_ok.mp h
    cases h
    exact hqueue

/-- Only the instructions of tickets change the queue. -/
theorem handle_queue (h : handle call r = .ok t) (hticket : call.instruction.hasTicket = false) :
    t.reserve.withdrawQueue = r.withdrawQueue := by
  obtain ⟨market, clock, instruction⟩ := call
  cases instruction with
  | refreshReserve price =>
    simp only [handle, processRefreshReserve, bind_eq_ok, pure, Except.pure, Except.ok.injEq] at h
    obtain ⟨_, -, mid, hmid, _, -, final, hfinal, rfl⟩ := h
    have hledger := refreshReserveLimitTimestamps_ok hfinal
    exact (congrArg Ledger.queue hledger).trans (refreshReserve_queue hmid)
  | depositReserveLiquidity amount =>
    simp only [handle, processDepositReserveLiquidity, bind_eq_ok, pure, Except.pure,
      Except.ok.injEq] at h
    obtain ⟨_, -, _, -, _, -, initial, hinitial, ⟨⟨d, c⟩, final⟩, hfinal, rfl⟩ := h
    exact (depositReserveLiquidity_ok hfinal).1.queue.trans (refreshReserve_queue hinitial)
  | depositReserveLiquidityAndObligationCollateral amount =>
    simp only [handle, processDepositReserveLiquidityAndObligationCollateral, bind_eq_ok, pure,
      Except.pure, Except.ok.injEq] at h
    obtain ⟨_, -, _, -, initial, hinitial, ⟨⟨d, c⟩, mid⟩, hmid, final, hfinal, rfl⟩ := h
    exact ((refreshReserve_queue hfinal).trans (depositReserveLiquidity_ok hmid).1.queue).trans
      (refreshReserve_queue hinitial)
  | redeemReserveCollateral amount =>
    simp only [handle, processRedeemReserveCollateral, bind_eq_ok, pure, Except.pure,
      Except.ok.injEq] at h
    obtain ⟨_, -, _, -, initial, hinitial, ⟨x, final⟩, hfinal, rfl⟩ := h
    exact (redeemReserveCollateral_ok hfinal).1.queue.trans (refreshReserve_queue hinitial)
  | withdrawObligationCollateralAndRedeemReserveCollateral amount =>
    simp only [handle, processWithdrawObligationCollateralAndRedeemReserveCollateral, bind_eq_ok,
      pure, Except.pure, Except.ok.injEq] at h
    obtain ⟨_, -, _, -, ⟨x, final⟩, hfinal, rfl⟩ := h
    exact (redeemReserveCollateral_ok hfinal).1.queue
  | borrowObligationLiquidity size remaining inGroup hasReferrer =>
    simp only [handle, processBorrowObligationLiquidity, bind_eq_ok, pure, Except.pure,
      Except.ok.injEq] at h
    obtain ⟨_, -, _, -, ⟨result, final⟩, hfinal, _, -, rfl⟩ := h
    exact (borrowObligationLiquidity_ok hfinal).queue
  | repayObligationLiquidity amount borrowed penalty =>
    simp only [handle, processRepayObligationLiquidity, bind_eq_ok, pure, Except.pure,
      Except.ok.injEq] at h
    obtain ⟨_, -, _, -, ⟨paid, final⟩, hfinal, rfl⟩ := h
    exact (repayObligationLiquidity_ok hfinal).queue
  | liquidateRepay settled =>
    simp only [handle, processLiquidateRepay, bind_eq_ok, pure, Except.pure, Except.ok.injEq] at h
    obtain ⟨_, -, _, -, ⟨paid, final⟩, hfinal, rfl⟩ := h
    exact (repayPostLiquidation_ok hfinal).1.queue
  | liquidateWithdraw amount reason => exact processLiquidateWithdraw_queue h
  | liquidateSameReserve settled amount reason => exact processLiquidateSameReserve_queue h
  | rolloverSource tokens full =>
    simp only [handle, processRolloverSource, bind_eq_ok, pure, Except.pure, Except.ok.injEq] at h
    obtain ⟨_, -, _, -, final, hfinal, rfl⟩ := h
    exact (rolloverRepay_ok hfinal).1.queue
  | rolloverTarget tokens =>
    simp only [handle, processRolloverTarget, bind_eq_ok, pure, Except.pure, Except.ok.injEq] at h
    obtain ⟨_, -, _, -, final, hfinal, rfl⟩ := h
    exact (rolloverBorrow_ok hfinal).1.queue
  | flashBorrowReserveLiquidity amount =>
    simp only [handle, processFlashBorrowReserveLiquidity, bind_eq_ok, pure, Except.pure,
      Except.ok.injEq] at h
    obtain ⟨_, -, _, -, _, -, _, -, initial, hinitial, final, hfinal, rfl⟩ := h
    exact (flashBorrowReserveLiquidity_ok hfinal).queue.trans (refreshReserve_queue hinitial)
  | flashRepayReserveLiquidity amount hasReferrer =>
    simp only [handle, processFlashRepayReserveLiquidity, bind_eq_ok, pure, Except.pure,
      Except.ok.injEq] at h
    obtain ⟨_, -, _, -, ⟨⟨paid, fee⟩, final⟩, hfinal, rfl⟩ := h
    exact (flashRepayReserveLiquidity_ok hfinal).queue
  | redeemFees =>
    simp only [handle, processRedeemFees, bind_eq_ok, pure, Except.pure, Except.ok.injEq] at h
    obtain ⟨_, -, ⟨x, final⟩, hfinal, rfl⟩ := h
    exact (redeemFees_ok hfinal).queue
  | withdrawReferrerFees unclaimed =>
    simp only [handle, processWithdrawReferrerFees, bind_eq_ok, pure, Except.pure,
      Except.ok.injEq] at h
    obtain ⟨_, -, ⟨x, final⟩, hfinal, rfl⟩ := h
    exact (withdrawReferrerFees_ok hfinal).queue
  | refreshObligation elapsed borrowed previous hasReferrer =>
    simp only [handle, processRefreshObligation, bind_eq_ok, pure, Except.pure,
      Except.ok.injEq] at h
    obtain ⟨_, -, final, hfinal, rfl⟩ := h
    exact (accumulateReferrerFees_ok hfinal).queue
  | socializeLoss amount borrowed =>
    obtain ⟨-, _, _, hledger, -⟩ := processSocializeLoss_ok h
    exact congrArg Ledger.queue hledger
  | updateReserveConfig config skip =>
    simp only [handle, processUpdateReserveConfig, bind_eq_ok, pure, Except.pure,
      Except.ok.injEq] at h
    obtain ⟨_, -, mid, hmid, final, hfinal, rfl⟩ := h
    exact (updateReserveConfig_queue hfinal).trans (refreshReserve_queue hmid)
  | topupReserveRewards amount =>
    simp only [handle, processTopupReserveRewards, bind_eq_ok, pure, Except.pure,
      Except.ok.injEq] at h
    obtain ⟨_, -, _, -, _, -, _, -, mid, hmid, rewards, -, rfl⟩ := h
    have hqueue := refreshReserve_queue hmid
    exact hqueue
  | seedDepositOnInitReserve =>
    simp only [handle, processSeedDepositOnInitReserve, bind_eq_ok, pure, Except.pure,
      Except.ok.injEq] at h
    obtain ⟨_, -, rfl⟩ := h
    rfl
  | enqueueToWithdraw | withdrawQueuedLiquidity | skipTicket | cancelWithdrawTicket =>
    cases hticket

end Frame

section Sums

variable {ι τ : Type} [Fintype ι]

/-- A sum after one of its terms is replaced. -/
theorem sum_update [DecidableEq ι] (weight : τ → Nat) (f : ι → τ) (i : ι) (x : τ) :
    ∑ n, weight (Function.update f i x n) + weight (f i) = ∑ n, weight (f n) + weight x := by
  have hrest : ∑ n ∈ Finset.univ.erase i, weight (Function.update f i x n) =
      ∑ n ∈ Finset.univ.erase i, weight (f n) :=
    Finset.sum_congr rfl fun n hn => by rw [Function.update_of_ne (Finset.ne_of_mem_erase hn)]
  rw [← Finset.add_sum_erase _ _ (Finset.mem_univ i), hrest, Function.update_self,
    ← Finset.add_sum_erase _ (fun n => weight (f n)) (Finset.mem_univ i)]
  omega

theorem weight_le_sum (weight : τ → Nat) (f : ι → τ) (i : ι) :
    weight (f i) ≤ ∑ n, weight (f n) :=
  Finset.single_le_sum (fun n _ => Nat.zero_le (weight (f n))) (Finset.mem_univ i)

end Sums

section Orders

variable {Pubkey : Type}

/-- The collateral of a ticket that the queue still counts. -/
def countedCollateral : Option (WithdrawTicket Pubkey) → Nat
  | none => 0
  | some ticket => if ticket.isValid then ticket.queuedCollateralAmount.val else 0

/-- The collateral that waits in a ticket for its owner, also in one that was passed over. -/
def waitingCollateral [DecidableEq Pubkey] (owner : Pubkey) : Option (WithdrawTicket Pubkey) → Nat
  | none => 0
  | some ticket => if ticket.owner = owner then ticket.queuedCollateralAmount.val else 0

/-- The tickets of a queue: those between its two numbers are there and valid, those before were
passed over, and there are no others. The queue counts what waits in the valid ones, and the
vaults hold what waits in all of them. -/
structure WithdrawQueue.Orderly [DecidableEq Pubkey] (q : WithdrawQueue)
    (tickets : U64 → Option (WithdrawTicket Pubkey)) (vaults : Pubkey → U64) : Prop where
  ordered : q.nextWithdrawableTicketSequenceNumber.val ≤ q.nextIssuedTicketSequenceNumber.val
  issued : ∀ n ticket, tickets n = some ticket →
    ticket.sequenceNumber = n ∧ n.val < q.nextIssuedTicketSequenceNumber.val
  waiting : ∀ n : U64, q.nextWithdrawableTicketSequenceNumber.val ≤ n.val →
    n.val < q.nextIssuedTicketSequenceNumber.val →
      ∃ ticket, tickets n = some ticket ∧ ticket.isValid = true
  passed : ∀ n ticket, tickets n = some ticket →
    n.val < q.nextWithdrawableTicketSequenceNumber.val → ticket.isValid = false
  counted : q.queuedCollateralAmount.val = ∑ n, countedCollateral (tickets n)
  covered : ∀ owner, ∑ n, waitingCollateral owner (tickets n) ≤ (vaults owner).val

variable {q q' : WithdrawQueue} {tickets : U64 → Option (WithdrawTicket Pubkey)}
  {vaults : Pubkey → U64} {n v : U64} {ticket ticket' : WithdrawTicket Pubkey}
  {account : Option (WithdrawTicket Pubkey)} {owner : Pubkey}

theorem counted_update
    (h : q.queuedCollateralAmount.val = ∑ n, countedCollateral (tickets n))
    (hq : q'.queuedCollateralAmount.val + countedCollateral (tickets n) =
      q.queuedCollateralAmount.val + countedCollateral account) :
    q'.queuedCollateralAmount.val =
      ∑ m, countedCollateral (Function.update tickets n account m) := by
  have hsum := sum_update countedCollateral tickets n account
  omega

theorem countedCollateral_valid (h : ticket.isValid = true) :
    countedCollateral (some ticket) = ticket.queuedCollateralAmount.val := if_pos h

theorem countedCollateral_invalid (h : ticket.isValid = false) :
    countedCollateral (some ticket) = 0 := by
  rw [countedCollateral, h]
  rfl

/-- What holds of the tickets after one account is written. -/
theorem of_update {P : U64 → WithdrawTicket Pubkey → Prop} (hn : ∀ kept ∈ account, P n kept)
    (h : ∀ m other, m ≠ n → tickets m = some other → P m other) :
    ∀ m other, Function.update tickets n account m = some other → P m other := by
  intro m other hm
  rcases eq_or_ne m n with rfl | hne
  · rw [Function.update_self] at hm
    exact hn other hm
  · rw [Function.update_of_ne hne] at hm
    exact h m other hne hm

variable [DecidableEq Pubkey]

theorem covered_update
    (h : ∀ owner, ∑ n, waitingCollateral owner (tickets n) ≤ (vaults owner).val)
    (hbefore : ∀ other, other ≠ owner → waitingCollateral other (tickets n) = 0)
    (hafter : ∀ other, other ≠ owner → waitingCollateral other account = 0)
    (hv : v.val + waitingCollateral owner (tickets n) =
      (vaults owner).val + waitingCollateral owner account) (other : Pubkey) :
    ∑ m, waitingCollateral other (Function.update tickets n account m) ≤
      (Function.update vaults owner v other).val := by
  have hsum := sum_update (waitingCollateral other) tickets n account
  have hother := h other
  rcases eq_or_ne other owner with rfl | hne
  · rw [Function.update_self]
    omega
  · rw [Function.update_of_ne hne]
    have := hbefore other hne
    have := hafter other hne
    omega

theorem waitingCollateral_other (h : ticket.owner ≠ owner) :
    waitingCollateral owner (some ticket) = 0 := if_neg h

theorem waitingCollateral_owner :
    waitingCollateral ticket.owner (some ticket) = ticket.queuedCollateralAmount.val := if_pos rfl

/-- The account of the next ticket is not in use. -/
theorem WithdrawQueue.Orderly.unused (h : q.Orderly tickets vaults) :
    tickets q.nextIssuedTicketSequenceNumber = none := by
  cases hticket : tickets q.nextIssuedTicketSequenceNumber with
  | none => rfl
  | some ticket => exact absurd (h.issued _ _ hticket).2 (lt_irrefl _)

/-- A ticket is put at the end of the queue. -/
theorem WithdrawQueue.Orderly.issue (h : q.Orderly tickets vaults)
    (hnumber : ticket.sequenceNumber = q.nextIssuedTicketSequenceNumber)
    (hvalid : ticket.isValid = true)
    (hqueued : q'.queuedCollateralAmount.val =
      q.queuedCollateralAmount.val + ticket.queuedCollateralAmount.val)
    (hissued : q'.nextIssuedTicketSequenceNumber.val = q.nextIssuedTicketSequenceNumber.val + 1)
    (hnext : q'.nextWithdrawableTicketSequenceNumber = q.nextWithdrawableTicketSequenceNumber)
    (hv : v.val = (vaults ticket.owner).val + ticket.queuedCollateralAmount.val) :
    q'.Orderly (Function.update tickets q.nextIssuedTicketSequenceNumber (some ticket))
      (Function.update vaults ticket.owner v) where
  ordered := by
    rw [hnext]
    have := h.ordered
    omega
  issued := by
    refine of_update (fun kept hkept => ?_) (fun m other _ hother => ?_)
    · cases hkept
      exact ⟨hnumber, by omega⟩
    · obtain ⟨hm, hlt⟩ := h.issued m other hother
      exact ⟨hm, by omega⟩
  waiting m hlow hhigh := by
    rcases eq_or_ne m q.nextIssuedTicketSequenceNumber with rfl | hne
    · exact ⟨ticket, Function.update_self .., hvalid⟩
    · rw [Function.update_of_ne hne]
      refine h.waiting m (hnext ▸ hlow) ?_
      have : m.val ≠ q.nextIssuedTicketSequenceNumber.val := fun heq => hne (Fin.ext heq)
      omega
  passed := by
    rw [hnext]
    refine of_update (fun kept hkept hlt => ?_) (fun m other _ hother => ?_)
    · exact absurd hlt (not_lt.mpr h.ordered)
    · exact h.passed m other hother
  counted := by
    refine counted_update h.counted ?_
    rw [h.unused, countedCollateral_valid hvalid, hqueued]
    rfl
  covered := by
    refine covered_update h.covered (fun other _ => ?_) (fun other hne => ?_) ?_
    · rw [h.unused]
      rfl
    · exact waitingCollateral_other hne.symm
    · rw [h.unused, waitingCollateral_owner, hv]
      rfl

/-- What waits in a valid ticket changes, in its account, in the queue and in the vault. -/
theorem WithdrawQueue.Orderly.replace (h : q.Orderly tickets vaults)
    (hticket : tickets n = some ticket) (hvalid : ticket.isValid = true) {x : Nat}
    (hnumber : ticket'.sequenceNumber = ticket.sequenceNumber)
    (howner : ticket'.owner = ticket.owner) (hvalid' : ticket'.isValid = true)
    (hamount : ticket'.queuedCollateralAmount.val + x = ticket.queuedCollateralAmount.val)
    (hqueued : q'.queuedCollateralAmount.val + x = q.queuedCollateralAmount.val)
    (hissued : q'.nextIssuedTicketSequenceNumber = q.nextIssuedTicketSequenceNumber)
    (hnext : q'.nextWithdrawableTicketSequenceNumber = q.nextWithdrawableTicketSequenceNumber)
    (hv : v.val + x = (vaults ticket.owner).val) :
    q'.Orderly (Function.update tickets n (some ticket'))
      (Function.update vaults ticket.owner v) where
  ordered := by
    rw [hissued, hnext]
    exact h.ordered
  issued := by
    rw [hissued]
    refine of_update (fun kept hkept => ?_) (fun m other _ hother => ?_)
    · cases hkept
      exact ⟨hnumber.trans (h.issued n ticket hticket).1, (h.issued n ticket hticket).2⟩
    · exact h.issued m other hother
  waiting m hlow hhigh := by
    rw [hnext] at hlow
    rw [hissued] at hhigh
    rcases eq_or_ne m n with rfl | hne
    · exact ⟨ticket', Function.update_self .., hvalid'⟩
    · rw [Function.update_of_ne hne]
      exact h.waiting m hlow hhigh
  passed := by
    rw [hnext]
    refine of_update (fun kept hkept hlt => ?_) (fun m other _ hother => ?_)
    · have hinvalid := h.passed n ticket hticket hlt
      rw [hvalid] at hinvalid
      cases hinvalid
    · exact h.passed m other hother
  counted := by
    refine counted_update h.counted ?_
    rw [hticket, countedCollateral_valid hvalid, countedCollateral_valid hvalid']
    omega
  covered := by
    refine covered_update h.covered (fun other hne => ?_) (fun other hne => ?_) ?_
    · rw [hticket]
      exact waitingCollateral_other hne.symm
    · exact waitingCollateral_other (howner ▸ hne.symm)
    · have hwaiting : waitingCollateral ticket.owner (some ticket') =
          ticket'.queuedCollateralAmount.val := if_pos howner
      rw [hticket, waitingCollateral_owner, hwaiting]
      omega

/-- The next ticket is passed: its account is closed, or kept as an invalid one. -/
theorem WithdrawQueue.Orderly.pass (h : q.Orderly tickets vaults)
    (hticket : tickets q.nextWithdrawableTicketSequenceNumber = some ticket)
    (hvalid : ticket.isValid = true) {x : Nat}
    (haccount : ∀ kept ∈ account, kept.sequenceNumber = ticket.sequenceNumber ∧
      kept.owner = ticket.owner ∧ kept.isValid = false)
    (hqueued : q'.queuedCollateralAmount.val + ticket.queuedCollateralAmount.val =
      q.queuedCollateralAmount.val)
    (hissued : q'.nextIssuedTicketSequenceNumber = q.nextIssuedTicketSequenceNumber)
    (hnext : q'.nextWithdrawableTicketSequenceNumber.val =
      q.nextWithdrawableTicketSequenceNumber.val + 1)
    (hwaiting : waitingCollateral ticket.owner account + x = ticket.queuedCollateralAmount.val)
    (hv : v.val + x = (vaults ticket.owner).val) :
    q'.Orderly (Function.update tickets q.nextWithdrawableTicketSequenceNumber account)
      (Function.update vaults ticket.owner v) where
  ordered := by
    rw [hissued]
    have := (h.issued _ _ hticket).2
    omega
  issued := by
    rw [hissued]
    refine of_update (fun kept hkept => ?_) (fun m other _ hother => ?_)
    · obtain ⟨hnumber, -⟩ := haccount kept hkept
      exact ⟨hnumber.trans (h.issued _ _ hticket).1, (h.issued _ _ hticket).2⟩
    · exact h.issued m other hother
  waiting m hlow hhigh := by
    rw [hissued] at hhigh
    have hne : m ≠ q.nextWithdrawableTicketSequenceNumber := by
      rintro rfl
      omega
    rw [Function.update_of_ne hne]
    exact h.waiting m (by omega) hhigh
  passed := by
    refine of_update (fun kept hkept _ => ?_) (fun m other hne hother hlt => ?_)
    · exact (haccount kept hkept).2.2
    · have : m.val ≠ q.nextWithdrawableTicketSequenceNumber.val := fun heq => hne (Fin.ext heq)
      exact h.passed m other hother (by omega)
  counted := by
    refine counted_update h.counted ?_
    have hnone : countedCollateral account = 0 := by
      cases account with
      | none => rfl
      | some kept => exact countedCollateral_invalid (haccount kept rfl).2.2
    rw [hticket, countedCollateral_valid hvalid, hnone]
    omega
  covered := by
    refine covered_update h.covered (fun other hne => ?_) (fun other hne => ?_) ?_
    · rw [hticket]
      exact waitingCollateral_other hne.symm
    · cases account with
      | none => rfl
      | some kept => exact waitingCollateral_other ((haccount kept rfl).2.1 ▸ hne.symm)
    · rw [hticket, waitingCollateral_owner]
      omega

/-- The account of a ticket that was passed over is closed. -/
theorem WithdrawQueue.Orderly.recover (h : q.Orderly tickets vaults)
    (hticket : tickets n = some ticket) (hinvalid : ticket.isValid = false)
    (hv : v.val + ticket.queuedCollateralAmount.val = (vaults ticket.owner).val) :
    q.Orderly (Function.update tickets n none) (Function.update vaults ticket.owner v) where
  ordered := h.ordered
  issued := by
    refine of_update (fun kept hkept => ?_) (fun m other _ hother => ?_)
    · cases hkept
    · exact h.issued m other hother
  waiting m hlow hhigh := by
    have hne : m ≠ n := by
      rintro rfl
      obtain ⟨t, ht, hvalid⟩ := h.waiting m hlow hhigh
      rw [hticket] at ht
      cases ht
      rw [hinvalid] at hvalid
      cases hvalid
    rw [Function.update_of_ne hne]
    exact h.waiting m hlow hhigh
  passed := by
    refine of_update (fun kept hkept => ?_) (fun m other _ hother => ?_)
    · cases hkept
    · exact h.passed m other hother
  counted := by
    refine counted_update h.counted ?_
    rw [hticket, countedCollateral_invalid hinvalid]
    rfl
  covered := by
    refine covered_update h.covered (fun other hne => ?_) (fun other _ => rfl) ?_
    · rw [hticket]
      exact waitingCollateral_other hne.symm
    · rw [hticket, waitingCollateral_owner]
      exact hv

end Orders

section Tickets

variable {Pubkey : Type} {market : LendingMarket} {clock : Clock} {r : Reserve} {t : Settlement}
  {c n : U64} {ticket ticket' : WithdrawTicket Pubkey}

theorem processEnqueueToWithdraw_queue
    (h : processEnqueueToWithdraw market clock r c = .ok (n, t)) :
    r.withdrawQueue.enqueue c = .ok (n, t.reserve.withdrawQueue) := by
  simp only [processEnqueueToWithdraw, bind_eq_ok, pure, Except.pure, Except.ok.injEq,
    Prod.mk.injEq] at h
  obtain ⟨_, -, _, -, _, -, mid, hmid, ⟨n', final⟩, hfinal, rfl, rfl⟩ := h
  obtain ⟨queue, hqueue, hledger, -⟩ := enqueueToWithdraw_ok hfinal
  have hfinal : final.withdrawQueue = queue := congrArg Ledger.queue hledger
  rw [refreshReserve_queue hmid] at hqueue
  rw [hqueue, ← hfinal]
  rfl

theorem processWithdrawQueuedLiquidity_queue {result : TicketedWithdrawResult}
    (h : processWithdrawQueuedLiquidity market clock r ticket = .ok (result, ticket', t)) :
    r.withdrawQueue.dequeue result.collateralAmountToBurn
        (decide (ticket'.queuedCollateralAmount.val = 0)) = .ok t.reserve.withdrawQueue ∧
      ticket'.queuedCollateralAmount.val + result.collateralAmountToBurn.val =
        ticket.queuedCollateralAmount.val ∧
      ticket' = { ticket with queuedCollateralAmount := ticket'.queuedCollateralAmount } := by
  simp only [processWithdrawQueuedLiquidity, bind_eq_ok, pure, Except.pure, Except.ok.injEq,
    Prod.mk.injEq] at h
  obtain ⟨_, -, _, -, _, -, initial, hinitial, ⟨result', ticket'', final⟩, hfinal, rfl, rfl,
    rfl⟩ := h
  obtain ⟨paid, queue, -, -, -, hqueue, hledger, hamount, hticket⟩ :=
    withdrawQueuedLiquidity_ok hfinal
  have hfinal : final.withdrawQueue = queue := congrArg Ledger.queue hledger
  rw [refreshReserve_queue hinitial] at hqueue
  refine ⟨?_, hamount, hticket⟩
  rw [hqueue, ← hfinal]
  rfl

theorem processSkipTicket_queue (h : processSkipTicket market r ticket = .ok t) :
    r.withdrawQueue.dequeue ticket.queuedCollateralAmount true =
      .ok t.reserve.withdrawQueue := by
  simp only [processSkipTicket, bind_eq_ok, pure, Except.pure, Except.ok.injEq] at h
  obtain ⟨_, -, _, -, _, -, queue, hqueue, rfl⟩ := h
  exact hqueue

theorem processCancelWithdrawTicket_queue {amount cancelled : U64}
    (h : processCancelWithdrawTicket market clock r ticket amount = .ok (cancelled, ticket', t)) :
    r.withdrawQueue.dequeue cancelled false = .ok t.reserve.withdrawQueue ∧
      ticket'.queuedCollateralAmount.val + cancelled.val = ticket.queuedCollateralAmount.val ∧
      ticket' = { ticket with queuedCollateralAmount := ticket'.queuedCollateralAmount } := by
  simp only [processCancelWithdrawTicket, bind_eq_ok, pure, Except.pure, Except.ok.injEq,
    Prod.mk.injEq] at h
  obtain ⟨_, -, _, -, _, -, mid, hmid, ⟨cancelled', ticket'', final⟩, hfinal, rfl, rfl, rfl⟩ := h
  obtain ⟨queue, hqueue, hledger, hamount, hticket⟩ := cancelWithdrawTicket_ok hfinal
  have hfinal : final.withdrawQueue = queue := congrArg Ledger.queue hledger
  rw [refreshReserve_queue hmid] at hqueue
  refine ⟨?_, hamount, hticket⟩
  rw [hqueue, ← hfinal]
  rfl

theorem settle_reserve {v : U64} {accounts : ReserveAccounts} (h : settle v t = .ok accounts) :
    accounts.reserve = t.reserve := by
  simp only [settle, bind_eq_ok, pure, Except.pure, Except.ok.injEq] at h
  obtain ⟨_, -, _, -, rfl⟩ := h
  rfl

end Tickets

section Steps

variable {Pubkey : Type} [DecidableEq Pubkey] {market : LendingMarket} {clock : Clock}
  {s s' : QueueAccounts Pubkey} {ticket : WithdrawTicket Pubkey}
  {account : Option (WithdrawTicket Pubkey)} {owner : Pubkey} {n amount : U64}

def QueueAccounts.Orderly (s : QueueAccounts Pubkey) : Prop :=
  s.reserve.withdrawQueue.Orderly s.withdrawTicket s.ownerQueuedCollateralVault

theorem issueTicket_orderly {destination : Pubkey} (hs : s.Orderly)
    (h : issueTicket market clock s owner destination amount = .ok s') : s'.Orderly := by
  simp only [issueTicket, bind_eq_ok, pure, Except.pure, Except.ok.injEq] at h
  obtain ⟨_, -, ⟨n, t⟩, ht, accounts, haccounts, _, -, v, hv, _, -, rfl⟩ := h
  obtain ⟨rfl, hqueued, hissued, hnext⟩ := enqueue_ok (processEnqueueToWithdraw_queue ht)
  have hv := transfer_ok hv
  rw [← settle_reserve haccounts] at hqueued hissued hnext
  exact WithdrawQueue.Orderly.issue hs rfl rfl hqueued hissued hnext hv

/-- A ticket is paid in full and closed, or keeps what is left. -/
theorem payTicket_orderly {requireClosing : Bool} (hs : s.Orderly)
    (hticket : s.withdrawTicket s.reserve.withdrawQueue.nextWithdrawableTicketSequenceNumber =
      some ticket) (hvalid : ticket.isValid = true)
    (h : payTicket market clock s s.reserve.withdrawQueue.nextWithdrawableTicketSequenceNumber
      ticket requireClosing = .ok s') : s'.Orderly := by
  unfold payTicket at h
  obtain ⟨⟨result, remaining, t⟩, ht, h⟩ := bind_eq_ok.mp h
  obtain ⟨accounts, haccounts, h⟩ := bind_eq_ok.mp h
  obtain ⟨v, hv, h⟩ := bind_eq_ok.mp h
  obtain ⟨_, -, h⟩ := bind_eq_ok.mp h
  obtain ⟨hqueue, hamount, hremaining⟩ := processWithdrawQueuedLiquidity_queue ht
  obtain ⟨hqueued, hissued, hnext⟩ := dequeue_ok hqueue
  have hv := transfer_ok hv
  rw [← settle_reserve haccounts] at hqueued hissued hnext
  split at h
  · next hempty =>
    cases h
    rw [hempty] at hamount
    rw [decide_eq_true hempty, if_pos rfl] at hnext
    refine WithdrawQueue.Orderly.pass hs hticket hvalid (by simp) ?_ hissued hnext
      (Nat.zero_add _) ?_
    · rw [← hamount, Nat.zero_add]
      exact hqueued
    · rw [← hamount, Nat.zero_add]
      exact hv
  · next hleft =>
    obtain ⟨_, -, h⟩ := bind_eq_ok.mp h
    cases h
    rw [decide_eq_false hleft] at hnext
    have hnumber : remaining.sequenceNumber = ticket.sequenceNumber := by rw [hremaining]
    have howner : remaining.owner = ticket.owner := by rw [hremaining]
    have hstill : remaining.isValid = ticket.isValid := by
      rw [hremaining]
      rfl
    exact WithdrawQueue.Orderly.replace hs hticket hvalid hnumber howner (hstill.trans hvalid)
      hamount hqueued hissued (Fin.ext hnext) hv

theorem passTicket_orderly (hs : s.Orderly)
    (hticket : s.withdrawTicket s.reserve.withdrawQueue.nextWithdrawableTicketSequenceNumber =
      some ticket) (hvalid : ticket.isValid = true)
    (haccount : ∀ kept ∈ account, kept.sequenceNumber = ticket.sequenceNumber ∧
      kept.owner = ticket.owner ∧ kept.isValid = false)
    (hwaiting : waitingCollateral ticket.owner account = ticket.queuedCollateralAmount.val)
    (h : passTicket market s s.reserve.withdrawQueue.nextWithdrawableTicketSequenceNumber ticket
      account = .ok s') : s'.Orderly := by
  simp only [passTicket, bind_eq_ok, pure, Except.pure, Except.ok.injEq] at h
  obtain ⟨t, ht, accounts, haccounts, rfl⟩ := h
  obtain ⟨hqueued, hissued, hnext⟩ := dequeue_ok (processSkipTicket_queue ht)
  rw [← settle_reserve haccounts] at hqueued hissued hnext
  exact WithdrawQueue.Orderly.pass (x := 0) hs hticket hvalid haccount hqueued hissued hnext
    hwaiting rfl

theorem processNextTicket_orderly {destination : DestinationTokenAccountValidity}
    (hs : s.Orderly) (h : processNextTicket market clock s destination = .ok s') :
    s'.Orderly := by
  unfold processNextTicket at h
  dsimp only at h
  cases hticket : s.withdrawTicket
    s.reserve.withdrawQueue.nextWithdrawableTicketSequenceNumber with
  | none =>
    rw [hticket] at h
    cases h
  | some ticket =>
    rw [hticket] at h
    obtain ⟨_, hvalid, h⟩ := bind_eq_ok.mp h
    rw [require_eq_ok] at hvalid
    split at h
    · next hempty =>
      have hwaiting : waitingCollateral ticket.owner none = ticket.queuedCollateralAmount.val :=
        hempty.symm
      exact passTicket_orderly hs hticket hvalid (by simp) hwaiting h
    · cases destination with
      | valid => exact payTicket_orderly hs hticket hvalid h
      | ataToBeCreated => exact payTicket_orderly hs hticket hvalid h
      | invalid =>
        have hwaiting : waitingCollateral ticket.owner (some { ticket with invalid := true }) =
            ticket.queuedCollateralAmount.val := if_pos rfl
        refine passTicket_orderly hs hticket hvalid (fun kept hkept => ?_) hwaiting h
        cases hkept
        exact ⟨rfl, rfl, rfl⟩

theorem cancelTicket_orderly (hs : s.Orderly)
    (h : cancelTicket market clock s owner n amount = .ok s') : s'.Orderly := by
  unfold cancelTicket at h
  split at h
  · cases h
  · next ticket hticket =>
    simp only [bind_eq_ok, require_eq_ok, pure, Except.pure, Except.ok.injEq] at h
    obtain ⟨_, -, _, hvalid, _, -, ⟨cancelled, remaining, t⟩, ht, accounts, haccounts, v, hv, _, -,
      rfl⟩ := h
    obtain ⟨hqueue, hamount, hremaining⟩ := processCancelWithdrawTicket_queue ht
    obtain ⟨hqueued, hissued, hnext⟩ := dequeue_ok hqueue
    have hv := transfer_ok hv
    rw [← settle_reserve haccounts] at hqueued hissued hnext
    have hnumber : remaining.sequenceNumber = ticket.sequenceNumber := by rw [hremaining]
    have howner : remaining.owner = ticket.owner := by rw [hremaining]
    have hstill : remaining.isValid = ticket.isValid := by
      rw [hremaining]
      rfl
    exact WithdrawQueue.Orderly.replace hs hticket hvalid hnumber howner (hstill.trans hvalid)
      hamount hqueued hissued (Fin.ext hnext) hv

theorem processRecoverInvalidTicketCollateral_orderly (hs : s.Orderly)
    (h : processRecoverInvalidTicketCollateral s n = .ok s') : s'.Orderly := by
  unfold processRecoverInvalidTicketCollateral at h
  split at h
  · cases h
  · next ticket hticket =>
    simp only [bind_eq_ok, require_eq_ok, pure, Except.pure, Except.ok.injEq] at h
    obtain ⟨_, hinvalid, _, -, _, -, v, hv, _, -, rfl⟩ := h
    exact WithdrawQueue.Orderly.recover hs hticket hinvalid (transfer_ok hv)

/-- Every instruction that is accepted keeps the queue in order. -/
theorem queueExecute_orderly {call : QueueCall Pubkey} (hs : s.Orderly)
    (h : queueExecute s call = .ok s') : s'.Orderly := by
  obtain ⟨market, clock, instruction⟩ := call
  cases instruction with
  | enqueueToWithdraw owner destination amount => exact issueTicket_orderly hs h
  | withdrawQueuedLiquidity destination => exact processNextTicket_orderly hs h
  | cancelWithdrawTicket owner n amount => exact cancelTicket_orderly hs h
  | recoverInvalidTicketCollateral n => exact processRecoverInvalidTicketCollateral_orderly hs h
  | ofReserve instruction hticket =>
    obtain ⟨accounts, haccounts, h⟩ := bind_eq_ok.mp h
    cases h
    obtain ⟨t, ht, hreserve, -⟩ := execute_ok haccounts
    have hqueue : accounts.reserve.withdrawQueue = s.reserve.withdrawQueue := by
      rw [hreserve]
      exact handle_queue ht hticket
    unfold QueueAccounts.Orderly
    dsimp only
    rw [hqueue]
    exact hs

theorem queueRun_orderly {calls : List (QueueCall Pubkey)} (hs : s.Orderly) :
    (queueRun s calls).Orderly := by
  induction calls generalizing s with
  | nil => exact hs
  | cons call rest ih =>
    refine ih (s := queueStep s call) ?_
    unfold queueStep
    cases h : queueExecute s call with
    | error f => exact hs
    | ok s' => exact queueExecute_orderly hs h

end Steps

section Creation

variable {Pubkey : Type} [DecidableEq Pubkey]

/-- A queue without tickets. -/
theorem orderly_empty (vaults : Pubkey → U64) :
    WithdrawQueue.Orderly ⟨0, 0, 0⟩ (fun _ => none) vaults where
  ordered := le_rfl
  issued n ticket h := by cases h
  waiting n _ hlt := absurd hlt (Nat.not_lt_zero _)
  passed n ticket h := by cases h
  counted := (Finset.sum_const_zero).symm
  covered owner := (Finset.sum_const_zero).trans_le (Nat.zero_le _)

theorem processInitReserve_queue {market : LendingMarket} {clock : Clock} {decimals : U64}
    {frozen : Bool} {accounts : ReserveAccounts}
    (h : processInitReserve market clock decimals frozen = .ok accounts) :
    accounts.reserve.withdrawQueue = ⟨0, 0, 0⟩ := by
  simp only [processInitReserve, bind_eq_ok, pure, Except.pure, Except.ok.injEq] at h
  obtain ⟨_, -, _, -, rfl⟩ := h
  rfl

/-- After any run from the creation of a reserve the tickets between the two numbers of the queue
are there and valid, the queue counts what waits in them, and the vaults hold it: so a new ticket
finds its account unused, the next ticket is there to be paid, and nothing that is taken from a
ticket is missing in the queue or in a vault. -/
theorem queue_accounts_for_tickets (market : LendingMarket) (clock : Clock) (decimals : U64)
    (frozen : Bool) (accounts : ReserveAccounts) (vaults : Pubkey → U64)
    (calls : List (QueueCall Pubkey)) (s : QueueAccounts Pubkey)
    (hinit : processInitReserve market clock decimals frozen = .ok accounts)
    (hs : s = queueRun ⟨accounts, fun _ => none, vaults⟩ calls) :
    s.Orderly ∧ s.withdrawTicket s.reserve.withdrawQueue.nextIssuedTicketSequenceNumber = none ∧
      ∀ n ticket, s.withdrawTicket n = some ticket →
        ticket.queuedCollateralAmount ≤ s.ownerQueuedCollateralVault ticket.owner ∧
        (ticket.isValid = true →
          ticket.queuedCollateralAmount ≤ s.reserve.withdrawQueue.queuedCollateralAmount) := by
  have hempty : QueueAccounts.Orderly ⟨accounts, fun _ => none, vaults⟩ := by
    unfold QueueAccounts.Orderly
    dsimp only
    rw [processInitReserve_queue hinit]
    exact orderly_empty vaults
  have hrun : s.Orderly := hs ▸ queueRun_orderly hempty
  refine ⟨hrun, hrun.unused, fun n ticket hticket => ⟨?_, fun hvalid => ?_⟩⟩
  · have hle := weight_le_sum (waitingCollateral ticket.owner) s.withdrawTicket n
    rw [hticket, waitingCollateral_owner] at hle
    exact hle.trans (hrun.covered ticket.owner)
  · have hle := weight_le_sum countedCollateral s.withdrawTicket n
    rw [hticket, countedCollateral_valid hvalid, ← hrun.counted] at hle
    exact hle

/-- Of two tickets the first cannot be paid and is recovered; a part of the second is cancelled
before the rest is paid. -/
def sampleQueue : List (QueueCall Bool) :=
  List.map (fun instruction => ⟨sampleMarket, ⟨0, I64.clamp 0⟩, instruction⟩) [
    .enqueueToWithdraw false false 1000,
    .enqueueToWithdraw true true 2000,
    .withdrawQueuedLiquidity .invalid,
    .recoverInvalidTicketCollateral 0,
    .cancelWithdrawTicket true 1 500,
    .withdrawQueuedLiquidity .valid]

set_option maxRecDepth 10000 in
theorem queue_accounts_for_tickets_sample :
    (queueRun ⟨sampleReserve, fun _ => none, fun _ => 0⟩ sampleQueue).Orderly ∧
      (queueRun ⟨sampleReserve, fun _ => none, fun _ => 0⟩ sampleQueue).reserve.withdrawQueue =
        ⟨0, 2, 2⟩ :=
  ⟨(queue_accounts_for_tickets sampleMarket ⟨0, I64.clamp 0⟩ 6 false sampleReserve (fun _ => 0)
    sampleQueue _ rfl rfl).1, rfl⟩

end Creation

end SolanaAuditor.Klend
