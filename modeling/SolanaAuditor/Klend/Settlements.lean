/- SolanaAuditor/Klend/Settlements
   digest: Each instruction of klend balances the vault, and trades shares fairly. -/

import SolanaAuditor.Klend.Accounting
import SolanaAuditor.Klend.Handlers

set_option autoImplicit false
set_option relaxedAutoImplicit false

namespace SolanaAuditor.Klend

open SolanaAuditor.Lib SolanaAuditor.Lib.CheckedWords SolanaAuditor.Lib.SharePool Fraction

section Actions

variable {a : LendingAction} {v v' x : U64} {t : Settlement}

def LendingAction.paidIn : LendingAction → Nat
  | additive amount => amount.val
  | subtractive _ => 0

def LendingAction.paidOut : LendingAction → Nat
  | additive _ => 0
  | subtractive amount => amount.val

def paidIn (transfers : List LendingAction) : Nat := (transfers.map LendingAction.paidIn).sum

def paidOut (transfers : List LendingAction) : Nat := (transfers.map LendingAction.paidOut).sum

@[simp] theorem paidIn_nil : paidIn [] = 0 := rfl

@[simp] theorem paidIn_cons (a : LendingAction) (rest : List LendingAction) :
    paidIn (a :: rest) = a.paidIn + paidIn rest := List.sum_cons

@[simp] theorem paidOut_nil : paidOut [] = 0 := rfl

@[simp] theorem paidOut_cons (a : LendingAction) (rest : List LendingAction) :
    paidOut (a :: rest) = a.paidOut + paidOut rest := List.sum_cons

theorem paidIn_single (a : LendingAction) : paidIn [a] = a.paidIn := Nat.add_zero _

theorem paidOut_single (a : LendingAction) : paidOut [a] = a.paidOut := Nat.add_zero _

theorem transfer_ok (h : transfer v a = .ok v') : v'.val + a.paidOut = v.val + a.paidIn := by
  cases a with
  | additive amount => exact fit_eq_ok.mp h
  | subtractive amount =>
    obtain ⟨rest, hrest, h⟩ := bind_eq_ok.mp h
    have hsum := minus_eq_ok.mp hrest
    rw [← fit_eq_ok.mp h] at hsum
    exact hsum

theorem transfers_ok {transfers : List LendingAction} (h : transfers.foldlM transfer v = .ok v') :
    v'.val + paidOut transfers = v.val + paidIn transfers := by
  induction transfers generalizing v with
  | nil =>
    cases h
    rfl
  | cons a rest ih =>
    obtain ⟨mid, hmid, h⟩ := bind_eq_ok.mp h
    have hstep := transfer_ok hmid
    have hrest := ih h
    simp only [paidIn_cons, paidOut_cons]
    omega

/-- What is paid out was there before, or was paid in before. -/
def Funded : Nat → List LendingAction → Prop
  | _, [] => True
  | v, .additive amount :: rest => Funded (v + amount.val) rest
  | v, .subtractive amount :: rest => amount.val ≤ v ∧ Funded (v - amount.val) rest

theorem transfers_isOk {transfers : List LendingAction} (hfits : v.val + paidIn transfers < 2 ^ 64)
    (h : Funded v.val transfers) : ∃ v', transfers.foldlM transfer v = .ok v' := by
  induction transfers generalizing v with
  | nil => exact ⟨v, rfl⟩
  | cons a rest ih =>
    cases a with
    | additive amount =>
      simp only [paidIn_cons, LendingAction.paidIn] at hfits
      have hmid : transfer v (.additive amount) = .ok ⟨v.val + amount.val, by omega⟩ :=
        fit_isOk (by omega)
      obtain ⟨v', hv'⟩ := ih (v := ⟨v.val + amount.val, by omega⟩) (by simp only; omega) h
      refine ⟨v', bind_eq_ok.mpr ⟨_, hmid, hv'⟩⟩
    | subtractive amount =>
      obtain ⟨hle, hrest⟩ := h
      have hlt := v.isLt
      simp only [paidIn_cons, LendingAction.paidIn, Nat.zero_add] at hfits
      have hmid : transfer v (.subtractive amount) = .ok ⟨v.val - amount.val, by omega⟩ :=
        bind_eq_ok.mpr ⟨_, minus_eq_ok.mpr (Nat.sub_add_cancel hle), fit_isOk (by omega)⟩
      obtain ⟨v', hv'⟩ := ih (v := ⟨v.val - amount.val, by omega⟩) (by simp only; omega) hrest
      exact ⟨v', bind_eq_ok.mpr ⟨_, hmid, hv'⟩⟩

theorem expected_isOk (h : v'.val + a.paidOut = v.val + a.paidIn) : a.expected v = .ok v' := by
  cases a with
  | additive amount => exact fit_eq_ok.mpr h
  | subtractive amount => exact bind_eq_ok.mpr ⟨v'.val, minus_eq_ok.mpr h, fit_eq_ok.mpr rfl⟩

end Actions

section Balances

variable {p q s : Ledger} {r initial final : Reserve} {t : Settlement} {a : LendingAction}
  {transfers : List LendingAction} {paid received : Nat} {v v' : U64}

/-- The vault stays in step with the reserve: the transfers are what the accounting says, they
can be made, and the comparison after them holds. -/
structure Settlement.Balances (p : Ledger) (agrees : Prop) (t : Settlement) : Prop where
  cash : t.reserve.ledger.cash + paidOut t.transfers = p.cash + paidIn t.transfers
  funded : ∀ v, p.cash ≤ v → Funded v t.transfers
  check : agrees → ∀ v v' : U64, p.cash ≤ v.val → v.val + paidIn t.transfers < 2 ^ 63 →
    v'.val + paidOut t.transfers = v.val + paidIn t.transfers → t.check v v' = .ok ()

/-- What an instruction does to the shares. -/
structure Ledger.Trades (p q : Ledger) : Prop where
  move : p.takeRate ≤ 100 → (p.version = PROGRAM_VERSION → p.pool.Healthy) →
    Move (ONE_SCALED : Int) p.pool q.pool
  borrowIndex : p.borrowIndexSf ≤ q.borrowIndexSf
  version : q.version = p.version
  takeRate : p.takeRate ≤ 100 → q.takeRate ≤ 100

theorem Ledger.Pays.trades (h : p.Pays q received paid) : p.Trades q where
  move _ _ := .gain h.supply (congrArg Nat.cast h.shares)
  borrowIndex := h.borrowIndex.ge
  version := h.version
  takeRate htake := h.takeRate.trans_le htake

theorem Ledger.Accrues.trades (h : p.Accrues q) : p.Trades q where
  move htake _ := .gain (h.supply htake) (congrArg Nat.cast h.shares)
  borrowIndex := h.borrowIndex
  version := h.version
  takeRate htake := h.takeRate.trans_le htake

/-- An operation after an accrual, on a reserve that is not deprecated. -/
theorem Ledger.Accrues.trades_moves (h : p.Accrues q) (h' : q.Moves s received paid)
    (hversion : p.version = PROGRAM_VERSION) : p.Trades s where
  move htake hhealthy := by
    have hgain : Move (ONE_SCALED : Int) p.pool q.pool :=
      .gain (h.supply htake) (congrArg Nat.cast h.shares)
    have hq := hgain.healthy (by exact_mod_cast one_scaled_pos) (hhealthy hversion)
    exact (h'.move hq).after_gain (h.supply htake) (congrArg Nat.cast h.shares)
  borrowIndex := h.borrowIndex.trans h'.borrowIndex.ge
  version := h'.version.trans h.version
  takeRate htake := (h'.takeRate.trans h.takeRate).trans_le htake

theorem Ledger.Trades.then_accrues (h : p.Trades q) (h' : q.Accrues s) : p.Trades s where
  move htake hhealthy := (h.move htake hhealthy).then_gain (h'.supply (h.takeRate htake))
    (congrArg Nat.cast h'.shares)
  borrowIndex := h.borrowIndex.trans h'.borrowIndex
  version := h'.version.trans h.version
  takeRate htake := h'.takeRate.trans_le (h.takeRate htake)

theorem Ledger.Moves.cash (h : p.Moves q received paid) : q.cash + paid = p.cash + received := by
  have := h.available
  have := h.rewards
  simp only [Ledger.cash]
  omega

/-- The pool does not depend on the queue, on the rewards, or on the rest of the configuration. -/
theorem Ledger.Trades.congr (h : p.Trades q) (hpool : s.pool = q.pool)
    (hborrowIndex : s.borrowIndexSf = q.borrowIndexSf) (hversion : s.version = q.version)
    (htakeRate : p.takeRate ≤ 100 → s.takeRate ≤ 100) : p.Trades s where
  move htake hhealthy := by
    rw [hpool]
    exact h.move htake hhealthy
  borrowIndex := h.borrowIndex.trans_eq hborrowIndex.symm
  version := hversion.trans h.version
  takeRate := htakeRate

theorem Ledger.Trades.with_queue (h : p.Trades q) (queue : WithdrawQueue) :
    p.Trades { q with queue } :=
  h.congr rfl rfl rfl h.takeRate

theorem balances_still (h : r.ledger.cash = p.cash) : (Settlement.still r).Balances p True where
  cash := h
  funded _ _ := trivial
  check _ _ _ _ _ _ := rfl

theorem postTransfer_isOk {final initial : U64}
    (havailable : final.val + a.paidOut = initial.val + a.paidIn) (hle : initial ≤ v)
    (hvault : v'.val + a.paidOut = v.val + a.paidIn) :
    postTransferVaultBalanceLiquidityReserveChecks v' final v initial a = .ok () := by
  have hle' : initial.val ≤ v.val := hle
  have hpre : minus Fault.panic v.val initial.val = .ok (v.val - initial.val) :=
    minus_eq_ok.mpr (Nat.sub_add_cancel hle')
  have hpost : minus Fault.panic v'.val final.val = .ok (v.val - initial.val) :=
    minus_eq_ok.mpr (by omega)
  simp only [postTransferVaultBalanceLiquidityReserveChecks, hpre, hpost, expected_isOk hvault,
    expected_isOk havailable, bind, Except.bind, require, if_true]

/-- Transfers that are compared with the available liquidity. What they are compared with may be
their sum, as long as nothing overflows. -/
theorem balances_compared (hcash : initial.ledger.cash = p.cash)
    (havailable : final.ledger.available + paidOut transfers =
      initial.ledger.available + paidIn transfers)
    (hrewards : final.ledger.rewards = initial.ledger.rewards)
    (hfunded : ∀ v, initial.ledger.available ≤ v → Funded v transfers)
    (haction : initial.ledger.available + paidIn transfers < 2 ^ 63 →
      a.paidOut + paidIn transfers = a.paidIn + paidOut transfers) :
    (Settlement.compared initial final transfers a).Balances p True := by
  have hle {v : Nat} (hv : p.cash ≤ v) : initial.ledger.available ≤ v :=
    le_trans (by rw [← hcash]; exact Nat.le_add_right _ _) hv
  refine ⟨?_, fun v hv => hfunded v (hle hv), fun _ v v' hv hsmall hvault => ?_⟩
  · change final.ledger.cash + paidOut transfers = p.cash + paidIn transfers
    rw [← hcash]
    simp only [Ledger.cash]
    omega
  · change v'.val + paidOut transfers = v.val + paidIn transfers at hvault
    change v.val + paidIn transfers < 2 ^ 63 at hsmall
    have hinitial := hle hv
    have hsum := haction (by omega)
    refine postTransfer_isOk ?_ hinitial (by omega)
    change final.ledger.available + a.paidOut = initial.ledger.available + a.paidIn
    omega

theorem balances_paidIn {x : U64} (hcash : initial.ledger.cash = p.cash)
    (hmoves : initial.ledger.Moves final.ledger x.val 0) :
    (Settlement.compared initial final [.additive x] (.additive x)).Balances p True :=
  balances_compared hcash hmoves.available hmoves.rewards (fun _ _ => trivial) fun _ => by
    simp [LendingAction.paidIn, LendingAction.paidOut]

theorem balances_paidOut {x : U64} (hcash : initial.ledger.cash = p.cash)
    (havailable : final.ledger.available + x.val = initial.ledger.available)
    (hrewards : final.ledger.rewards = initial.ledger.rewards) :
    (Settlement.compared initial final [.subtractive x] (.subtractive x)).Balances p True :=
  balances_compared hcash havailable hrewards (fun v hv => ⟨by omega, trivial⟩) fun _ => by
    simp [LendingAction.paidIn, LendingAction.paidOut]

end Balances

section Handlers

variable {market : LendingMarket} {clock : Clock} {r : Reserve} {t : Settlement}

theorem checkReserveVersion_ok {u : Unit} (h : checkReserveVersion r = .ok u) :
    r.ledger.version = PROGRAM_VERSION := require_eq_ok.mp h

theorem checkReserveStatusAndVersion_ok {u : Unit} (h : checkReserveStatusAndVersion r = .ok u) :
    r.ledger.version = PROGRAM_VERSION := by
  obtain ⟨_, -, h⟩ := bind_eq_ok.mp h
  exact checkReserveVersion_ok h

theorem processRefreshReserve_ok {price : Option GetPriceResult}
    (h : processRefreshReserve market clock r price = .ok t) :
    t.Balances r.ledger True ∧ r.ledger.Trades t.reserve.ledger := by
  simp only [processRefreshReserve, bind_eq_ok, pure, Except.pure, Except.ok.injEq] at h
  obtain ⟨_, -, mid, hmid, _, -, final, hfinal, rfl⟩ := h
  have haccrues := (refreshReserve_ok hmid).1
  rw [← refreshReserveLimitTimestamps_ok hfinal] at haccrues
  exact ⟨balances_still haccrues.cash, haccrues.trades⟩

theorem processDepositReserveLiquidity_ok {amount : U64}
    (h : processDepositReserveLiquidity market clock r amount = .ok t) :
    t.Balances r.ledger True ∧ r.ledger.Trades t.reserve.ledger := by
  simp only [processDepositReserveLiquidity, bind_eq_ok, pure, Except.pure, Except.ok.injEq] at h
  obtain ⟨_, hversion, _, -, _, -, initial, hinitial, ⟨⟨d, c⟩, final⟩, hfinal, rfl⟩ := h
  have haccrues := (refreshReserve_ok hinitial).1
  have hmoves := (depositReserveLiquidity_ok hfinal).1
  exact ⟨balances_paidIn haccrues.cash hmoves,
    haccrues.trades_moves hmoves (checkReserveStatusAndVersion_ok hversion)⟩

theorem processDepositReserveLiquidityAndObligationCollateral_ok {amount : U64}
    (h : processDepositReserveLiquidityAndObligationCollateral market clock r amount = .ok t) :
    t.Balances r.ledger True ∧ r.ledger.Trades t.reserve.ledger := by
  simp only [processDepositReserveLiquidityAndObligationCollateral, bind_eq_ok, pure, Except.pure,
    Except.ok.injEq] at h
  obtain ⟨_, hversion, _, -, initial, hinitial, ⟨⟨d, c⟩, deposited⟩, hdeposited, final, hfinal,
    rfl⟩ := h
  have haccrues := (refreshReserve_ok hinitial).1
  obtain ⟨hmoves, -, -, hslot, -⟩ := depositReserveLiquidity_ok hdeposited
  rw [← (refreshReserve_ok hfinal).2.2 hslot] at hmoves
  exact ⟨balances_paidIn haccrues.cash hmoves,
    haccrues.trades_moves hmoves (checkReserveStatusAndVersion_ok hversion)⟩

theorem processRedeemReserveCollateral_ok {amount : U64}
    (h : processRedeemReserveCollateral market clock r amount = .ok t) :
    t.Balances r.ledger True ∧ r.ledger.Trades t.reserve.ledger := by
  simp only [processRedeemReserveCollateral, bind_eq_ok, pure, Except.pure, Except.ok.injEq] at h
  obtain ⟨_, -, _, hversion, initial, hinitial, ⟨x, final⟩, hfinal, rfl⟩ := h
  have haccrues := (refreshReserve_ok hinitial).1
  have hmoves := (redeemReserveCollateral_ok hfinal).1
  exact ⟨balances_paidOut haccrues.cash hmoves.available hmoves.rewards,
    haccrues.trades_moves hmoves (checkReserveVersion_ok hversion)⟩

theorem processWithdrawObligationCollateralAndRedeemReserveCollateral_ok {amount : U64}
    (h : processWithdrawObligationCollateralAndRedeemReserveCollateral clock r amount = .ok t) :
    t.Balances r.ledger True ∧ r.ledger.Trades t.reserve.ledger := by
  simp only [processWithdrawObligationCollateralAndRedeemReserveCollateral, bind_eq_ok, pure,
    Except.pure, Except.ok.injEq] at h
  obtain ⟨_, -, _, hversion, ⟨x, final⟩, hfinal, rfl⟩ := h
  have hmoves := (redeemReserveCollateral_ok hfinal).1
  exact ⟨balances_paidOut rfl hmoves.available hmoves.rewards,
    (Ledger.Accrues.refl _).trades_moves hmoves (checkReserveVersion_ok hversion)⟩

theorem processBorrowObligationLiquidity_ok {size : BorrowSize} {remaining : Fraction}
    {inGroup hasReferrer : Bool}
    (h : processBorrowObligationLiquidity market clock r size remaining inGroup hasReferrer =
      .ok t) : t.Balances r.ledger True ∧ r.ledger.Trades t.reserve.ledger := by
  simp only [processBorrowObligationLiquidity, bind_eq_ok, fit_eq_ok, pure, Except.pure,
    Except.ok.injEq] at h
  obtain ⟨_, -, _, -, ⟨result, final⟩, hfinal, paid, hpaid, rfl⟩ := h
  have hpays := borrowObligationLiquidity_ok hfinal
  dsimp only at hpaid ⊢
  refine ⟨?_, hpays.trades⟩
  have hsum :
      paidIn (feeTransfer result.originationFee ++ [.subtractive result.receiveAmount]) = 0 ∧
      paidOut (feeTransfer result.originationFee ++ [.subtractive result.receiveAmount]) =
        result.originationFee.val + result.receiveAmount.val := by
    unfold feeTransfer
    split
    · simp [LendingAction.paidIn, LendingAction.paidOut]
    · simp [LendingAction.paidIn, LendingAction.paidOut]
      omega
  have havailable := hpays.available
  refine balances_compared rfl ?_ hpays.rewards (fun v hv => ?_) fun _ => ?_
  · rw [hsum.1, hsum.2]
    exact havailable
  · unfold feeTransfer
    split
    · refine ⟨by omega, ?_, trivial⟩
      omega
    · exact ⟨by omega, trivial⟩
  · rw [hsum.1, hsum.2]
    simp only [LendingAction.paidIn, LendingAction.paidOut]
    omega

theorem processRepayObligationLiquidity_ok {amount penalty : U64} {borrowed : Fraction}
    (h : processRepayObligationLiquidity clock r amount borrowed penalty = .ok t) :
    t.Balances r.ledger True ∧ r.ledger.Trades t.reserve.ledger := by
  simp only [processRepayObligationLiquidity, bind_eq_ok, pure, Except.pure, Except.ok.injEq] at h
  obtain ⟨_, -, _, -, ⟨paid, final⟩, hfinal, rfl⟩ := h
  have hpays := repayObligationLiquidity_ok hfinal
  exact ⟨balances_paidIn rfl hpays.moves, hpays.trades⟩

theorem processLiquidateRepay_ok {settled : Fraction}
    (h : processLiquidateRepay clock r settled = .ok t) :
    t.Balances r.ledger True ∧ r.ledger.Trades t.reserve.ledger := by
  simp only [processLiquidateRepay, bind_eq_ok, pure, Except.pure, Except.ok.injEq] at h
  obtain ⟨_, -, _, -, ⟨paid, final⟩, hfinal, rfl⟩ := h
  have hpays := (repayPostLiquidation_ok hfinal).1
  exact ⟨balances_paidIn rfl hpays.moves, hpays.trades⟩

/-- The action that a signed amount stands for. -/
theorem subtractiveSigned_ok {net : Int} {a : LendingAction}
    (h : LendingAction.subtractiveSigned net = .ok a) :
    (a.paidOut : Int) - a.paidIn = net := by
  unfold LendingAction.subtractiveSigned at h
  split at h
  · cases hfit : fit Fault.panic 64 net.natAbs with
    | error f => simp [hfit] at h
    | ok x =>
      have hval := fit_eq_ok.mp hfit
      rw [hfit] at h
      cases h
      simp only [LendingAction.paidIn, LendingAction.paidOut]
      omega
  · cases hfit : fit Fault.panic 64 net.natAbs with
    | error f => simp [hfit] at h
    | ok x =>
      have hval := fit_eq_ok.mp hfit
      rw [hfit] at h
      cases h
      simp only [LendingAction.paidIn, LendingAction.paidOut]
      omega

theorem asI64_small {n : U64} (h : n.val < 2 ^ 63) : asI64 n = n.val := if_pos h

/-- The withdrawn amount is read as a signed number, which only matters from `2 ^ 63` on. -/
theorem processLiquidateWithdraw_ok {amount : U64} {reason : LiquidationReason}
    (h : processLiquidateWithdraw market clock r amount reason = .ok t) :
    t.Balances r.ledger True ∧ r.ledger.Trades t.reserve.ledger := by
  unfold processLiquidateWithdraw at h
  obtain ⟨_, -, h⟩ := bind_eq_ok.mp h
  obtain ⟨_, hversion, h⟩ := bind_eq_ok.mp h
  obtain ⟨_, hfresh, h⟩ := bind_eq_ok.mp h
  obtain ⟨⟨paid, final⟩, hfinal, h⟩ := bind_eq_ok.mp h
  have hmoves := redeemPostLiquidation_ok hfinal (requireFresh_ok hfresh)
  refine ⟨?_, ?_⟩
  · cases paid with
    | none =>
      cases h
      exact balances_still hmoves.cash
    | some x =>
      obtain ⟨a, ha, h⟩ := bind_eq_ok.mp h
      cases h
      have havailable := hmoves.available
      simp only [Option.elim_some] at havailable
      refine balances_compared rfl hmoves.available hmoves.rewards
        (fun v hv => ⟨by omega, trivial⟩) fun hsmall => ?_
      have hnet := subtractiveSigned_ok ha
      rw [paidIn_single, LendingAction.paidIn] at hsmall
      rw [asI64_small (by omega)] at hnet
      rw [paidIn_single, paidOut_single, LendingAction.paidIn, LendingAction.paidOut]
      omega
  · have hreserve : t.reserve = final := by
      cases paid with
      | none =>
        cases h
        rfl
      | some x =>
        obtain ⟨a, ha, h⟩ := bind_eq_ok.mp h
        cases h
        rfl
    rw [hreserve]
    exact (Ledger.Accrues.refl _).trades_moves hmoves (checkReserveVersion_ok hversion)

theorem netWithdrawalAmount_ok {x y : U64} {net : Int} (h : netWithdrawalAmount x y = .ok net) :
    net = asI64 x - asI64 y := by
  obtain ⟨_, -, h⟩ := bind_eq_ok.mp h
  cases h
  rfl

theorem processLiquidateSameReserve_ok {settled : Fraction} {amount : U64}
    {reason : LiquidationReason}
    (h : processLiquidateSameReserve market clock r settled amount reason = .ok t) :
    t.Balances r.ledger True ∧ r.ledger.Trades t.reserve.ledger := by
  unfold processLiquidateSameReserve at h
  obtain ⟨_, -, h⟩ := bind_eq_ok.mp h
  obtain ⟨_, hversion, h⟩ := bind_eq_ok.mp h
  obtain ⟨⟨repaid, mid⟩, hmid, h⟩ := bind_eq_ok.mp h
  obtain ⟨⟨paid, final⟩, hfinal, h⟩ := bind_eq_ok.mp h
  obtain ⟨hpays, hslot⟩ := repayPostLiquidation_ok hmid
  have hmoves := redeemPostLiquidation_ok hfinal hslot
  have hboth := hpays.then_moves hmoves
  have hversion := checkReserveVersion_ok hversion
  cases paid with
  | none =>
    cases h
    exact ⟨balances_paidIn rfl hboth, (Ledger.Accrues.refl _).trades_moves hboth hversion⟩
  | some x =>
    obtain ⟨net, hnet, h⟩ := bind_eq_ok.mp h
    obtain ⟨a, ha, h⟩ := bind_eq_ok.mp h
    cases h
    refine ⟨?_, (Ledger.Accrues.refl _).trades_moves hboth hversion⟩
    have havailable := hboth.available
    simp only [Option.elim_some] at havailable
    have hin : paidIn [.additive repaid, .subtractive x] = repaid.val := by
      simp [LendingAction.paidIn]
    have hout : paidOut [.additive repaid, .subtractive x] = x.val := by
      simp [LendingAction.paidOut]
    refine balances_compared rfl ?_ hboth.rewards (fun v hv => ⟨by omega, trivial⟩) fun hsmall => ?_
    · rw [hin, hout]
      omega
    · have hsigned := subtractiveSigned_ok ha
      rw [hin] at hsmall
      rw [netWithdrawalAmount_ok hnet, asI64_small (by omega), asI64_small (by omega)] at hsigned
      rw [hin, hout]
      omega

theorem rolloverCheck_isOk {initial final : Reserve} {expected : Outcome Fraction}
    {a : LendingAction} {v v' : U64} (hborrowed : expected = .ok final.liquidity.totalBorrow)
    (havailable : final.ledger.available + a.paidOut = initial.ledger.available + a.paidIn)
    (hvault : v'.val + a.paidOut = v.val + a.paidIn) :
    rolloverCheck initial final expected a v v' = .ok () := by
  have hexpected : a.expected initial.liquidity.totalAvailableAmount =
      .ok final.liquidity.totalAvailableAmount := expected_isOk havailable
  simp only [rolloverCheck, hborrowed, hexpected, expected_isOk hvault, bind, Except.bind, require,
    if_true]

/-- The check of the debt holds when the reserve counts at least the debt that is repaid. -/
theorem processRolloverSource_ok {tokens : U64} {full : Fraction}
    (h : processRolloverSource clock r tokens full = .ok t) :
    t.Balances r.ledger (min (ofU64 tokens) full ≤ r.liquidity.totalBorrow) ∧
      r.ledger.Trades t.reserve.ledger := by
  simp only [processRolloverSource, bind_eq_ok, pure, Except.pure, Except.ok.injEq] at h
  obtain ⟨_, -, _, -, final, hfinal, rfl⟩ := h
  obtain ⟨hpays, hborrowed⟩ := rolloverRepay_ok hfinal
  refine ⟨⟨hpays.moves.cash, fun _ _ => trivial, fun hagrees v v' _ _ hvault => ?_⟩, hpays.trades⟩
  have hagrees : (min (ofU64 tokens) full).sf ≤ r.ledger.borrowedSf := hagrees
  rw [Nat.min_eq_left hagrees] at hborrowed
  exact rolloverCheck_isOk (sub_eq_ok.mpr hborrowed) hpays.available hvault

theorem processRolloverTarget_ok {tokens : U64} (h : processRolloverTarget clock r tokens = .ok t) :
    t.Balances r.ledger True ∧ r.ledger.Trades t.reserve.ledger := by
  simp only [processRolloverTarget, bind_eq_ok, pure, Except.pure, Except.ok.injEq] at h
  obtain ⟨_, -, _, -, final, hfinal, rfl⟩ := h
  obtain ⟨hpays, hborrowed⟩ := rolloverBorrow_ok hfinal
  have havailable := hpays.available
  refine ⟨⟨hpays.moves.cash, fun v hv => ⟨?_, trivial⟩, fun _ v v' _ _ hvault => ?_⟩, hpays.trades⟩
  · have hcash : r.ledger.available ≤ r.ledger.cash := Nat.le_add_right _ _
    omega
  · exact rolloverCheck_isOk (add_eq_ok.mpr hborrowed) hpays.available hvault

theorem processFlashBorrowReserveLiquidity_ok {amount : U64}
    (h : processFlashBorrowReserveLiquidity market clock r amount = .ok t) :
    t.Balances r.ledger True ∧ r.ledger.Trades t.reserve.ledger := by
  simp only [processFlashBorrowReserveLiquidity, bind_eq_ok, pure, Except.pure,
    Except.ok.injEq] at h
  obtain ⟨_, -, _, hversion, _, -, _, -, initial, hinitial, final, hfinal, rfl⟩ := h
  have haccrues := (refreshReserve_ok hinitial).1
  have hmoves := (flashBorrowReserveLiquidity_ok hfinal).moves
  exact ⟨balances_paidOut haccrues.cash hmoves.available hmoves.rewards,
    haccrues.trades_moves hmoves (checkReserveVersion_ok hversion)⟩

theorem processFlashRepayReserveLiquidity_ok {amount : U64} {hasReferrer : Bool}
    (h : processFlashRepayReserveLiquidity market clock r amount hasReferrer = .ok t) :
    t.Balances r.ledger True ∧ r.ledger.Trades t.reserve.ledger := by
  simp only [processFlashRepayReserveLiquidity, bind_eq_ok, pure, Except.pure,
    Except.ok.injEq] at h
  obtain ⟨_, -, _, -, ⟨⟨paid, fee⟩, final⟩, hfinal, rfl⟩ := h
  have hpays := flashRepayReserveLiquidity_ok hfinal
  exact ⟨balances_paidIn rfl hpays.moves, hpays.trades⟩

/-- A payout that is not compared with the reserve. -/
theorem balances_unchecked {r' : Reserve} {x : U64} (h : r.ledger.Pays r'.ledger 0 x.val) :
    Settlement.Balances r.ledger True
      { reserve := r', transfers := [.subtractive x], check := fun _ _ => .ok () } where
  cash := h.moves.cash
  funded v hv := by
    have havailable := h.available
    have hcash : r.ledger.available ≤ r.ledger.cash := Nat.le_add_right _ _
    exact ⟨by omega, trivial⟩
  check _ _ _ _ _ _ := rfl

theorem processRedeemFees_ok (h : processRedeemFees clock r = .ok t) :
    t.Balances r.ledger True ∧ r.ledger.Trades t.reserve.ledger := by
  simp only [processRedeemFees, bind_eq_ok, pure, Except.pure, Except.ok.injEq] at h
  obtain ⟨_, -, ⟨x, final⟩, hfinal, rfl⟩ := h
  have hpays := redeemFees_ok hfinal
  exact ⟨balances_unchecked hpays, hpays.trades⟩

theorem processWithdrawReferrerFees_ok {unclaimed : U128}
    (h : processWithdrawReferrerFees clock r unclaimed = .ok t) :
    t.Balances r.ledger True ∧ r.ledger.Trades t.reserve.ledger := by
  simp only [processWithdrawReferrerFees, bind_eq_ok, pure, Except.pure, Except.ok.injEq] at h
  obtain ⟨_, -, ⟨x, final⟩, hfinal, rfl⟩ := h
  have hpays := withdrawReferrerFees_ok hfinal
  exact ⟨balances_unchecked hpays, hpays.trades⟩

theorem processRefreshObligation_ok {elapsed : Nat} {borrowed previous : Fraction}
    {hasReferrer : Bool}
    (h : processRefreshObligation market r elapsed borrowed previous hasReferrer = .ok t) :
    t.Balances r.ledger True ∧ r.ledger.Trades t.reserve.ledger := by
  simp only [processRefreshObligation, bind_eq_ok, pure, Except.pure, Except.ok.injEq] at h
  obtain ⟨_, -, final, hfinal, rfl⟩ := h
  have hpays := accumulateReferrerFees_ok hfinal
  exact ⟨balances_still hpays.moves.cash, hpays.trades⟩

theorem processSocializeLoss_ok {amount : U64} {borrowed : Fraction}
    (h : processSocializeLoss clock r amount borrowed = .ok t) :
    t.Balances r.ledger True ∧ ∃ borrowedSf version,
      t.reserve.ledger = { r.ledger with version, borrowedSf } ∧
      (version = PROGRAM_VERSION →
        r.ledger.version = PROGRAM_VERSION ∧ 0 < t.reserve.ledger.supplySf) := by
  simp only [processSocializeLoss, bind_eq_ok, pure, Except.pure, Except.ok.injEq] at h
  obtain ⟨final, hfinal, rfl⟩ := h
  obtain ⟨borrowedSf, version, hledger, hversion⟩ := socializeLoss_ok hfinal
  refine ⟨balances_still ?_, borrowedSf, version, hledger, hversion⟩
  rw [hledger]
  rfl

theorem validateReserveConfigIntegrity_ok {config : ReserveConfig} {u : Unit}
    (h : validateReserveConfigIntegrity config = .ok u) : config.protocolTakeRatePct.val ≤ 100 := by
  simp only [validateReserveConfigIntegrity, bind_eq_ok, require_eq_ok] at h
  obtain ⟨_, -, _, htake, -⟩ := h
  exact htake

theorem processUpdateReserveConfig_ok {config : ReserveConfig} {skip : Bool}
    (h : processUpdateReserveConfig market clock r config skip = .ok t) :
    t.Balances r.ledger True ∧ ((skip = true → config.protocolTakeRatePct.val ≤ 100) →
      r.ledger.Trades t.reserve.ledger) := by
  simp only [processUpdateReserveConfig, bind_eq_ok, pure, Except.pure, Except.ok.injEq] at h
  obtain ⟨_, -, mid, hmid, final, hfinal, rfl⟩ := h
  have haccrues := (refreshReserve_ok hmid).1
  cases skip with
  | true =>
    simp only [updateReserveConfig, if_true, bind_eq_ok, pure, Except.pure,
      Except.ok.injEq] at hfinal
    obtain ⟨_, -, rfl⟩ := hfinal
    exact ⟨balances_still haccrues.cash, fun htake =>
      haccrues.trades.congr rfl rfl rfl fun _ => htake rfl⟩
  | false =>
    simp only [updateReserveConfig, Bool.false_eq_true, if_false, bind_eq_ok, pure, Except.pure,
      Except.ok.injEq] at hfinal
    obtain ⟨_, hvalid, rfl⟩ := hfinal
    exact ⟨balances_still haccrues.cash, fun _ =>
      haccrues.trades.congr rfl rfl rfl fun _ => validateReserveConfigIntegrity_ok hvalid⟩

theorem processTopupReserveRewards_ok {amount : U64}
    (h : processTopupReserveRewards market clock r amount = .ok t) :
    t.Balances r.ledger True ∧ r.ledger.Trades t.reserve.ledger := by
  simp only [processTopupReserveRewards, bind_eq_ok, fit_eq_ok, pure, Except.pure,
    Except.ok.injEq] at h
  obtain ⟨_, -, _, -, _, -, _, -, mid, hmid, rewards, hrewards, rfl⟩ := h
  have haccrues := (refreshReserve_ok hmid).1
  refine ⟨⟨?_, fun _ _ => trivial, fun _ v v' _ _ hvault => ?_⟩,
    haccrues.trades.congr rfl rfl rfl haccrues.trades.takeRate⟩
  · have hcash := haccrues.cash
    rw [paidOut_single, paidIn_single]
    simp only [Ledger.cash, Reserve.ledger, LendingAction.paidIn, LendingAction.paidOut] at *
    omega
  · have hv : fit Fault.panic 64 (v.val + amount.val) = .ok v' := fit_eq_ok.mpr hvault
    have hr : fit Fault.panic 64 (mid.liquidity.rewardsAmountAvailable.val + amount.val) =
        .ok rewards := fit_eq_ok.mpr hrewards
    simp only [postTransferVaultBalanceRewardsDepositChecks, hv, hr, bind, Except.bind, require,
      if_true]

theorem processSeedDepositOnInitReserve_ok
    (h : processSeedDepositOnInitReserve market r = .ok t) :
    t.Balances r.ledger True ∧ r.ledger.Trades t.reserve.ledger := by
  simp only [processSeedDepositOnInitReserve, bind_eq_ok, require_eq_ok, pure, Except.pure,
    Except.ok.injEq] at h
  obtain ⟨_, hnone, rfl⟩ := h
  simp only [Reserve.hasInitialDeposit, Bool.or_eq_false_iff, decide_eq_false_iff_not,
    Nat.not_lt, Nat.le_zero] at hnone
  obtain ⟨havailable, hshares⟩ := hnone
  refine ⟨⟨?_, fun _ _ => trivial, fun _ v v' hv hsmall hvault => ?_⟩,
    ⟨fun _ _ => ?_, le_rfl, rfl, id⟩⟩
  · rw [paidOut_single, paidIn_single]
    simp only [Ledger.cash, Reserve.ledger, LendingAction.paidIn, LendingAction.paidOut]
    omega
  · exact postTransfer_isOk (Nat.zero_add _).symm (Fin.zero_le _) hvault
  · refine .first market.minInitialDepositAmount.val (by omega) ?_ ?_ rfl
    · exact congrArg Nat.cast hshares
    · simp only [Ledger.pool_assets, Ledger.supplySf, Ledger.feesSf, Reserve.ledger, ONE_SCALED,
        FRAC_NBITS]
      omega

theorem processEnqueueToWithdraw_ok {c n : U64}
    (h : processEnqueueToWithdraw market clock r c = .ok (n, t)) :
    t.Balances r.ledger True ∧ r.ledger.Trades t.reserve.ledger := by
  simp only [processEnqueueToWithdraw, bind_eq_ok, pure, Except.pure, Except.ok.injEq,
    Prod.mk.injEq] at h
  obtain ⟨_, -, _, -, _, -, mid, hmid, ⟨n', final⟩, hfinal, rfl, rfl⟩ := h
  have haccrues := (refreshReserve_ok hmid).1
  obtain ⟨queue, -, hledger, -⟩ := enqueueToWithdraw_ok hfinal
  have htrades : r.ledger.Trades final.ledger := hledger ▸ haccrues.trades.with_queue queue
  refine ⟨balances_still ?_, htrades⟩
  rw [hledger]
  exact haccrues.cash

variable {Pubkey : Type} {ticket ticket' : WithdrawTicket Pubkey}

theorem processWithdrawQueuedLiquidity_ok {result : TicketedWithdrawResult}
    (h : processWithdrawQueuedLiquidity market clock r ticket = .ok (result, ticket', t)) :
    t.Balances r.ledger True ∧ r.ledger.Trades t.reserve.ledger := by
  simp only [processWithdrawQueuedLiquidity, bind_eq_ok, pure, Except.pure, Except.ok.injEq,
    Prod.mk.injEq] at h
  obtain ⟨_, -, _, hversion, _, -, initial, hinitial, ⟨result', ticket'', final⟩, hfinal, rfl, rfl,
    rfl⟩ := h
  have haccrues := (refreshReserve_ok hinitial).1
  obtain ⟨paid, queue, hmoves, -, -, -, hledger, -, -⟩ := withdrawQueuedLiquidity_ok hfinal
  have hversion := checkReserveVersion_ok hversion
  refine ⟨balances_paidOut haccrues.cash ?_ ?_, ?_⟩
  · rw [hledger]
    exact hmoves.available
  · rw [hledger]
    exact hmoves.rewards
  · exact hledger ▸ (haccrues.trades_moves hmoves hversion).with_queue queue

theorem processSkipTicket_ok (h : processSkipTicket market r ticket = .ok t) :
    t.Balances r.ledger True ∧ r.ledger.Trades t.reserve.ledger := by
  simp only [processSkipTicket, bind_eq_ok, pure, Except.pure, Except.ok.injEq] at h
  obtain ⟨_, -, _, -, _, -, queue, -, rfl⟩ := h
  exact ⟨balances_still rfl, (Ledger.Accrues.refl _).trades.with_queue queue⟩

theorem processCancelWithdrawTicket_ok {amount cancelled : U64}
    (h : processCancelWithdrawTicket market clock r ticket amount =
      .ok (cancelled, ticket', t)) :
    t.Balances r.ledger True ∧ r.ledger.Trades t.reserve.ledger := by
  simp only [processCancelWithdrawTicket, bind_eq_ok, pure, Except.pure, Except.ok.injEq,
    Prod.mk.injEq] at h
  obtain ⟨_, -, _, -, _, -, mid, hmid, ⟨cancelled', ticket'', final⟩, hfinal, rfl, rfl, rfl⟩ := h
  have haccrues := (refreshReserve_ok hmid).1
  obtain ⟨queue, -, hledger, -, -⟩ := cancelWithdrawTicket_ok hfinal
  have htrades : r.ledger.Trades final.ledger := hledger ▸ haccrues.trades.with_queue queue
  refine ⟨balances_still ?_, htrades⟩
  rw [hledger]
  exact haccrues.cash

end Handlers

end SolanaAuditor.Klend
