/- SolanaAuditor/Klend/Ledger
   digest: What each operation of klend does to the accounting of a reserve. -/

import SolanaAuditor.Klend.ExchangeRate
import SolanaAuditor.Klend.WithdrawTickets

set_option autoImplicit false
set_option relaxedAutoImplicit false

namespace SolanaAuditor.Klend

open SolanaAuditor.Lib SolanaAuditor.Lib.CheckedWords SolanaAuditor.Lib.SharePool Fraction

section Pieces

variable {r r' : Reserve}

@[simp] theorem ledger_markStale : r.markStale.ledger = r.ledger := rfl

@[simp] theorem ledger_withDepositCap (cap : WithdrawalCaps) :
    (withDepositCap r cap).ledger = r.ledger := rfl

@[simp] theorem ledger_withDebtCap (cap : WithdrawalCaps) :
    (withDebtCap r cap).ledger = r.ledger := rfl

theorem ledger_depositLimitCrossed (timestamp : U64) :
    { r with liquidity :=
      { r.liquidity with depositLimitCrossedTimestamp := timestamp } }.ledger = r.ledger := rfl

theorem ledger_borrowLimitCrossed (timestamp : U64) :
    { r with liquidity :=
      { r.liquidity with borrowLimitCrossedTimestamp := timestamp } }.ledger = r.ledger := rfl

theorem refreshReserveLimitTimestamps_ok {timestamp : U64}
    (h : refreshReserveLimitTimestamps r timestamp = .ok r') : r'.ledger = r.ledger := by
  unfold refreshReserveLimitTimestamps Reserve.updateDepositLimitCrossedTimestamp at h
  obtain ⟨mid, hmid, hr⟩ := bind_eq_ok.mp h
  obtain ⟨supply, -, hmid⟩ := bind_eq_ok.mp hmid
  cases hmid
  cases hr
  exact (ledger_borrowLimitCrossed _).trans (ledger_depositLimitCrossed _)

theorem requireFresh_ok {slot : U64} {flags : Nat} {u : Unit}
    (h : requireFresh r slot flags = .ok u) : r.lastUpdate.slot = slot := by
  simp only [requireFresh, LastUpdate.isStale, LastUpdate.slotsElapsed, bind_eq_ok, minus_eq_ok,
    require_eq_ok, pure, Except.pure, Except.ok.injEq] at h
  obtain ⟨stale, ⟨elapsed, helapsed, rfl⟩, hstale⟩ := h
  simp only [Bool.or_eq_false_iff, decide_eq_false_iff_not] at hstale
  exact Fin.ext (by omega)

theorem countWithdrawal_ok {amount timestamp : U64} {counts : Bool}
    (h : countWithdrawal r amount timestamp counts = .ok r') : r'.ledger = r.ledger := by
  cases counts with
  | false =>
    cases h
    rfl
  | true =>
    simp only [countWithdrawal, bind_eq_ok, pure, Except.pure, Except.ok.injEq] at h
    obtain ⟨cap, -, rfl⟩ := h
    rfl

theorem ledger_available (available : U64) :
    { r with liquidity := { r.liquidity with totalAvailableAmount := available } }.ledger =
      { r.ledger with available := available.val } := rfl

theorem withdrawFreelyAvailable_ok {amount : U64} (h : r.withdrawFreelyAvailable amount = .ok r') :
    ∃ available, available + amount.val = r.ledger.available ∧
      r'.ledger = { r.ledger with available } := by
  simp only [Reserve.withdrawFreelyAvailable, bind_eq_ok, minus_eq_ok, fit_eq_ok, pure,
    Except.pure, Except.ok.injEq] at h
  obtain ⟨-, -, -, -, rest, hrest, available, havailable, rfl⟩ := h
  exact ⟨available.val, by rw [havailable]; exact hrest, ledger_available _⟩

/-- Either way of taking liquidity out needs it to be there. -/
theorem withdraw_ok {amount : U64} {useWithdrawQueue : Bool}
    (h : r.withdraw amount useWithdrawQueue = .ok r') :
    ∃ available, available + amount.val = r.ledger.available ∧
      r'.ledger = { r.ledger with available } := by
  cases useWithdrawQueue with
  | false => exact withdrawFreelyAvailable_ok h
  | true =>
    simp only [Reserve.withdraw, Reserve.withdrawIncludingQueued, bind_eq_ok, minus_eq_ok,
      fit_eq_ok, pure, Except.pure, Except.ok.injEq, if_true] at h
    obtain ⟨rest, hrest, available, havailable, rfl⟩ := h
    exact ⟨available.val, by rw [havailable]; exact hrest, ledger_available _⟩

theorem borrow_ok {amount : Fraction} {useWithdrawQueue : Bool}
    (h : r.borrow amount useWithdrawQueue = .ok r') :
    ∃ available, available + amount.sf / ONE_SCALED = r.ledger.available ∧
      r'.ledger = { r.ledger with available, borrowedSf := r.ledger.borrowedSf + amount.sf } := by
  simp only [Reserve.borrow, bind_eq_ok, toFloor_eq_ok, add_eq_ok, pure, Except.pure,
    Except.ok.injEq] at h
  obtain ⟨floor, hfloor, mid, hmid, borrowed, hborrowed, rfl⟩ := h
  obtain ⟨available, havailable, hledger⟩ := withdraw_ok hmid
  rw [hfloor] at havailable
  refine ⟨available, havailable, ?_⟩
  have hsf : borrowed.sf = r.ledger.borrowedSf + amount.sf := by
    rw [hborrowed]
    congr 1
    exact congrArg Ledger.borrowedSf hledger
  rw [← hsf]
  exact congrArg (fun p : Ledger => { p with borrowedSf := borrowed.sf }) hledger

theorem repay_ok (r : Reserve) {l l' : ReserveLiquidity} {amount : U64} {settled : Fraction}
    (h : l.repay amount settled = .ok l') :
    ∃ borrowedSf, borrowedSf + min settled.sf l.borrowedAmountSf.val = l.borrowedAmountSf.val ∧
      { r with liquidity := l' }.ledger =
        { { r with liquidity := l }.ledger with
          available := l.totalAvailableAmount.val + amount.val, borrowedSf } := by
  simp only [ReserveLiquidity.repay, bind_eq_ok, fit_eq_ok, checkedSub_eq_ok, min_sf, pure,
    Except.pure, Except.ok.injEq] at h
  obtain ⟨available, havailable, borrowed, hborrowed, rfl⟩ := h
  refine ⟨borrowed.sf, hborrowed, ?_⟩
  rw [← havailable]
  rfl

theorem addEarlyRepayPenalty_ok (r : Reserve) {l l' : ReserveLiquidity} {penalty : U64}
    (h : addEarlyRepayPenalty l penalty = .ok l') :
    { r with liquidity := l' }.ledger =
      { { r with liquidity := l }.ledger with
        available := l.totalAvailableAmount.val + penalty.val
        protocolFeesSf := l.accumulatedProtocolFeesSf.val + penalty.val * ONE_SCALED } := by
  unfold addEarlyRepayPenalty at h
  split at h
  · simp only [ReserveLiquidity.accumulateEarlyRepayPenalty, bind_eq_ok, fit_eq_ok, add_eq_ok,
      sf_ofU64, pure, Except.pure, Except.ok.injEq] at h
    obtain ⟨fees, hfees, available, havailable, rfl⟩ := h
    have hsf : fees.bits.val = l.accumulatedProtocolFeesSf.val + penalty.val * ONE_SCALED := hfees
    simp only [Reserve.ledger, havailable, hsf]
  · next hzero =>
    have hpenalty : penalty.val = 0 := by omega
    cases h
    rw [hpenalty]
    rfl

end Pieces

section Interest

variable {a b c rate : Fraction} {n : Nat}

theorem one_le_mul (ha : ONE_SCALED ≤ a.sf) (hb : ONE_SCALED ≤ b.sf) (h : a.mul b = .ok c) :
    ONE_SCALED ≤ c.sf := by
  rw [mul_eq_ok.mp h]
  exact (Nat.le_div_iff_mul_le one_scaled_pos).mpr (Nat.mul_le_mul ha hb)

/-- Compounded interest never shrinks a debt. -/
theorem approximateCompoundedInterest_ok (h : approximateCompoundedInterest rate n = .ok c) :
    ONE_SCALED ≤ c.sf := by
  have hadd {x y : Fraction} (h : ONE.add x = .ok y) : ONE_SCALED ≤ y.sf := by
    rw [add_eq_ok.mp h, sf_one]
    exact Nat.le_add_right _ _
  unfold approximateCompoundedInterest at h
  obtain ⟨base, -, h⟩ := bind_eq_ok.mp h
  split at h
  · cases h
    exact le_rfl
  · exact hadd h
  · obtain ⟨onePlus, hone, h⟩ := bind_eq_ok.mp h
    exact one_le_mul (hadd hone) (hadd hone) h
  · obtain ⟨onePlus, hone, h⟩ := bind_eq_ok.mp h
    obtain ⟨square, hsquare, h⟩ := bind_eq_ok.mp h
    exact one_le_mul (one_le_mul (hadd hone) (hadd hone) hsquare) (hadd hone) h
  · obtain ⟨onePlus, hone, h⟩ := bind_eq_ok.mp h
    obtain ⟨square, hsquare, h⟩ := bind_eq_ok.mp h
    have hle := one_le_mul (hadd hone) (hadd hone) hsquare
    exact one_le_mul hle hle h
  · simp only [bind_eq_ok, add_eq_ok, sf_one] at h
    obtain ⟨_, -, _, -, _, -, _, -, _, -, _, -, _, -, sum, hsum, sum', hsum', hc⟩ := h
    omega

variable {r r' : Reserve}

/-- Interest goes to the depositors, but for the share of it that the fees take. -/
theorem compoundInterest_ok {l l' : ReserveLiquidity} {takeRate : Fraction}
    (h : l.compoundInterest a b n takeRate c = .ok l') :
    l'.totalAvailableAmount = l.totalAvailableAmount ∧
      l'.rewardsAmountAvailable = l.rewardsAmountAvailable ∧
      l.cumulativeBorrowRateBsf.sf ≤ l'.cumulativeBorrowRateBsf.sf ∧
      (takeRate.sf ≤ ONE_SCALED →
        l.borrowedAmountSf.val + (l'.accumulatedProtocolFeesSf.val +
          l'.accumulatedReferrerFeesSf.val + l'.pendingReferrerFeesSf.val) ≤
        l'.borrowedAmountSf.val + (l.accumulatedProtocolFeesSf.val +
          l.accumulatedReferrerFeesSf.val + l.pendingReferrerFeesSf.val)) := by
  simp only [ReserveLiquidity.compoundInterest, bind_eq_ok, mul_eq_ok, add_eq_ok, sub_eq_ok, pure,
    Except.pure, Except.ok.injEq] at h
  obtain ⟨_, -, compounded, hcompounded, fixed, -, index, hindex, newDebt, hnewDebt, fixedDebt,
    -, fixedFee, hfixedFee, d, hd, net, hnet, variableFee, hvariableFee, _, -, maxReferrers, -,
    f₁, hf₁, f₂, hf₂, fees, hfees, pending, hpending, rfl⟩ := h
  refine ⟨rfl, rfl, ?_, ?_⟩
  · simp only [BigFraction.mul, bind_eq_ok, BigFraction.ofSf_eq_ok, BigFraction.sf_ofFraction]
      at hindex
    obtain ⟨scaled, hscaled, hindex⟩ := hindex
    rw [hindex, hscaled, Nat.le_div_iff_mul_le one_scaled_pos]
    exact Nat.mul_le_mul_left _ (approximateCompoundedInterest_ok hcompounded)
  · intro htake
    have hvariable : variableFee.sf ≤ net.sf := by
      rw [hvariableFee]
      exact Nat.div_le_of_le_mul (by rw [Nat.mul_comm]; exact Nat.mul_le_mul_right _ htake)
    simp only [ReserveLiquidity.totalBorrow, Fraction.sf] at *
    omega

theorem fromPercent_le {percent : U8} (h : fromPercent percent = .ok c) (hle : percent.val ≤ 100) :
    c.sf ≤ ONE_SCALED := by
  rw [fromPercent_eq_ok h]
  exact Nat.div_le_of_le_mul (Nat.mul_le_mul_right _ hle)

/-- What an accrual of interest or of rewards does: whatever enters the supply was in the vault,
or is owed by the borrowers. -/
structure Ledger.Accrues (p q : Ledger) : Prop where
  cash : q.cash = p.cash
  supply : p.takeRate ≤ 100 → p.supplySf ≤ q.supplySf
  shares : q.shares = p.shares
  borrowIndex : p.borrowIndexSf ≤ q.borrowIndexSf
  takeRate : q.takeRate = p.takeRate
  version : q.version = p.version
  queue : q.queue = p.queue

theorem Ledger.Accrues.refl (p : Ledger) : p.Accrues p :=
  ⟨rfl, fun _ => le_rfl, rfl, le_rfl, rfl, rfl, rfl⟩

theorem Ledger.Accrues.trans {p q s : Ledger} (h : p.Accrues q) (h' : q.Accrues s) :
    p.Accrues s :=
  ⟨h'.cash.trans h.cash, fun htake => (h.supply htake).trans (h'.supply (h.takeRate ▸ htake)),
    h'.shares.trans h.shares,
    h.borrowIndex.trans h'.borrowIndex, h'.takeRate.trans h.takeRate, h'.version.trans h.version,
    h'.queue.trans h.queue⟩

theorem accrueInterest_ok {slot : U64} {bps : U16} (h : r.accrueInterest slot bps = .ok r') :
    r.ledger.Accrues r'.ledger := by
  unfold Reserve.accrueInterest at h
  obtain ⟨elapsed, -, h⟩ := bind_eq_ok.mp h
  split at h
  · simp only [bind_eq_ok, pure, Except.pure, Except.ok.injEq] at h
    obtain ⟨_, -, takeRate, htakeRate, _, -, _, -, l, hl, rfl⟩ := h
    obtain ⟨havailable, hrewards, hindex, hsupply⟩ := compoundInterest_ok hl
    refine ⟨?_, fun htake => ?_, rfl, hindex, rfl, rfl, rfl⟩
    · simp only [Ledger.cash, Reserve.ledger, havailable, hrewards]
    · have := hsupply (fromPercent_le htakeRate htake)
      simp only [Ledger.supplySf, Ledger.feesSf, Reserve.ledger, havailable]
      omega
  · cases h
    exact .refl _

theorem distributeRewards_ok {slot : U64} {bps : U16} (h : r.distributeRewards slot bps = .ok r') :
    r.ledger.Accrues r'.ledger := by
  unfold Reserve.distributeRewards at h
  obtain ⟨elapsed, -, h⟩ := bind_eq_ok.mp h
  split at h
  · cases h
    exact .refl _
  · simp only [bind_eq_ok, fit_eq_ok, minus_eq_ok, pure, Except.pure, Except.ok.injEq] at h
    obtain ⟨amount, -, toDistribute, -, rest, hrest, rewards, hrewards, available, havailable,
      rfl⟩ := h
    refine ⟨?_, fun _ => ?_, rfl, le_rfl, rfl, rfl, rfl⟩
    · simp only [Ledger.cash, Reserve.ledger]
      omega
    · simp only [Ledger.supplySf, Ledger.feesSf, Reserve.ledger, ONE_SCALED, FRAC_NBITS]
      omega

theorem savePrice_ok {clock : Clock} {price : Option GetPriceResult} {status : Option U8}
    {l : ReserveLiquidity} (h : savePrice r clock price = .ok (status, l)) (u : LastUpdate) :
    { r with liquidity := l, lastUpdate := u }.ledger = r.ledger := by
  unfold savePrice at h
  split at h
  · cases h
    rfl
  · split at h
    · cases h
      rfl
    · obtain ⟨ts, -, h⟩ := bind_eq_ok.mp h
      cases h
      rfl

theorem slotsElapsed_eq {u : LastUpdate} {slot : U64} {n : Nat} (h : u.slotsElapsed slot = .ok n)
    (hslot : u.slot = slot) : n = 0 := by
  have hsum : n + u.slot.val = slot.val := minus_eq_ok.mp h
  rw [hslot] at hsum
  omega

/-- In the slot of the last refresh a refresh does not touch the accounting. -/
theorem refreshReserve_ok {market : LendingMarket} {clock : Clock}
    {price : Option GetPriceResult} (h : refreshReserve market r clock price = .ok r') :
    r.ledger.Accrues r'.ledger ∧ r'.lastUpdate.slot = clock.slot ∧
      (r.lastUpdate.slot = clock.slot → r'.ledger = r.ledger) := by
  unfold refreshReserve at h
  obtain ⟨r₁, h₁, h⟩ := bind_eq_ok.mp h
  obtain ⟨r₂, h₂, h⟩ := bind_eq_ok.mp h
  obtain ⟨⟨status, l⟩, hl, h⟩ := bind_eq_ok.mp h
  cases h
  have hsame (hslot : r.lastUpdate.slot = clock.slot) : r₂ = r := by
    have hr₁ : r₁ = r := by
      unfold Reserve.accrueInterest at h₁
      obtain ⟨elapsed, helapsed, h₁⟩ := bind_eq_ok.mp h₁
      have hzero := slotsElapsed_eq helapsed hslot
      rw [if_neg (by omega)] at h₁
      cases h₁
      rfl
    subst hr₁
    unfold Reserve.distributeRewards at h₂
    obtain ⟨elapsed, helapsed, h₂⟩ := bind_eq_ok.mp h₂
    rw [if_pos (.inl (slotsElapsed_eq helapsed hslot))] at h₂
    cases h₂
    rfl
  have hledger := savePrice_ok hl (r₂.lastUpdate.updateSlot clock.slot status)
  refine ⟨?_, rfl, fun hslot => ?_⟩
  · rw [hledger]
    exact (accrueInterest_ok h₁).trans (distributeRewards_ok h₂)
  · rw [hledger, hsame hslot]

end Interest

section Moves

/-- What an operation does: it pays in and out of the liquidity vault, and takes nothing from
the shares that are outstanding. -/
structure Ledger.Moves (p q : Ledger) (paidIn paidOut : Nat) : Prop where
  available : q.available + paidOut = p.available + paidIn
  rewards : q.rewards = p.rewards
  move : p.pool.Healthy → Move (ONE_SCALED : Int) p.pool q.pool
  borrowIndex : q.borrowIndexSf = p.borrowIndexSf
  takeRate : q.takeRate = p.takeRate
  version : q.version = p.version
  queue : q.queue = p.queue

/-- An operation that leaves the shares alone. -/
structure Ledger.Pays (p q : Ledger) (paidIn paidOut : Nat) : Prop where
  available : q.available + paidOut = p.available + paidIn
  rewards : q.rewards = p.rewards
  supply : p.supplySf ≤ q.supplySf
  shares : q.shares = p.shares
  borrowIndex : q.borrowIndexSf = p.borrowIndexSf
  takeRate : q.takeRate = p.takeRate
  version : q.version = p.version
  queue : q.queue = p.queue

variable {p q s : Ledger} {paidIn paidOut paidIn' paidOut' : Nat}

theorem Ledger.Pays.refl (p : Ledger) : p.Pays p 0 0 :=
  ⟨rfl, rfl, le_rfl, rfl, rfl, rfl, rfl, rfl⟩

theorem Ledger.Pays.moves (h : p.Pays q paidIn paidOut) : p.Moves q paidIn paidOut :=
  ⟨h.available, h.rewards, fun _ => .gain h.supply (congrArg Nat.cast h.shares), h.borrowIndex,
    h.takeRate, h.version, h.queue⟩

theorem Ledger.Pays.then_moves (h : p.Pays q paidIn paidOut) (h' : q.Moves s paidIn' paidOut') :
    p.Moves s (paidIn + paidIn') (paidOut + paidOut') where
  available := by
    have := h.available
    have := h'.available
    omega
  rewards := h'.rewards.trans h.rewards
  move := fun hp => by
    have hgain : Move (ONE_SCALED : Int) p.pool q.pool :=
      .gain h.supply (congrArg Nat.cast h.shares)
    exact (h'.move (hgain.healthy (by exact_mod_cast one_scaled_pos) hp)).after_gain h.supply
      (congrArg Nat.cast h.shares)
  borrowIndex := h'.borrowIndex.trans h.borrowIndex
  takeRate := h'.takeRate.trans h.takeRate
  version := h'.version.trans h.version
  queue := h'.queue.trans h.queue

theorem Ledger.Pays.trans (h : p.Pays q paidIn paidOut) (h' : q.Pays s paidIn' paidOut') :
    p.Pays s (paidIn + paidIn') (paidOut + paidOut') where
  available := by
    have := h.available
    have := h'.available
    omega
  rewards := h'.rewards.trans h.rewards
  supply := h.supply.trans h'.supply
  shares := h'.shares.trans h.shares
  borrowIndex := h'.borrowIndex.trans h.borrowIndex
  takeRate := h'.takeRate.trans h.takeRate
  version := h'.version.trans h.version
  queue := h'.queue.trans h.queue

end Moves

end SolanaAuditor.Klend
