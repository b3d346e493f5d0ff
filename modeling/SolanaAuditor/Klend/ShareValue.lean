/- SolanaAuditor/Klend/ShareValue
   digest: What the collateral of a reserve is worth, from its creation on. -/

import SolanaAuditor.Klend.ReserveRuns

set_option autoImplicit false
set_option relaxedAutoImplicit false

namespace SolanaAuditor.Klend

open SolanaAuditor.Lib SolanaAuditor.Lib.CheckedWords SolanaAuditor.Lib.SharePool Fraction

variable {Pubkey : Type} {market : LendingMarket} {clock : Clock} {decimals : U64} {frozen : Bool}
  {s : ReserveAccounts} {calls : List (Call Pubkey)} {c x : U64}

section Samples

/-- 10% at any utilization. -/
def sampleConfig : ReserveConfig :=
  { ReserveConfig.default .active ⟨⟨0, 1000⟩ :: List.replicate 10 ⟨10000, 1000⟩, rfl⟩ with
    protocolTakeRatePct := 10
    depositLimit := 1000000
    borrowLimit := 1000000
    borrowFactorPct := 100
    depositWithdrawalCap := ⟨I64.clamp 1000000, I64.clamp 0, 0, 86400⟩
    debtWithdrawalCap := ⟨I64.clamp 1000000, I64.clamp 0, 0, 86400⟩
    maxAgePriceSeconds := 1000000 }

def sampleMarket : LendingMarket where
  referralFeeBps := 0
  reserveRewardsMaxAprBps := 0
  minInitialDepositAmount := 100000
  minWithdrawQueuedLiquidityValue := 0
  withdrawTicketIssuanceEnabled := true
  withdrawTicketRedemptionEnabled := true
  withdrawTicketCancellationEnabled := true

def sampleReserve : ReserveAccounts where
  reserve :=
    { version := 1
      lastUpdate := .new 0
      liquidity := .new 6 100000
      collateral := { mintTotalSupply := 100000 }
      config := .default .hidden ⟨⟨0, 0⟩ :: List.replicate 10 ⟨10000, 0⟩, rfl⟩
      withdrawQueue := ⟨0, 0, 0⟩ }
  supplyVault := 100000

def sampleCall (slot : U64) (instruction : Instruction Unit) : Call Unit :=
  ⟨sampleMarket, ⟨slot, I64.clamp 0⟩, instruction⟩

def sampleLoan : List (Call Unit) := [
  sampleCall 0 (.updateReserveConfig sampleConfig false),
  sampleCall 0 (.refreshReserve (some ⟨ONE, 63, 0⟩)),
  sampleCall 0 (.borrowObligationLiquidity (.exact 50000) (ofU64 1000000) false false)]

def sampleInterest : List (Call Unit) := [sampleCall 1000000 (.refreshReserve none)]

def sampleTrades : List (Call Unit) := [
  sampleCall 1000000 (.depositReserveLiquidity 1000),
  sampleCall 1000000 (.redeemReserveCollateral 999)]

theorem forall_of_inits {α : Type} {l : List α} {P : List α → Prop}
    (h : ∀ first ∈ l.inits, P first) : ∀ first, first <+: l → P first :=
  fun first hfirst => h first ((List.mem_inits _ _).mpr hfirst)

end Samples

section Solvency

/-- After any run from the creation of a reserve the vault holds what the reserve accounts for, and
the transfers of an instruction that the reserve accepts are made: none is short of tokens, and no
comparison of the balances after it fails. -/
theorem transfers_are_covered (market : LendingMarket) (clock : Clock) (decimals : U64)
    (frozen : Bool) (s : ReserveAccounts) (calls : List (Call Pubkey)) (call : Call Pubkey)
    (t : Settlement) (hinit : processInitReserve market clock decimals frozen = .ok s)
    (hcall : handle call (run s calls).reserve = .ok t)
    (hroom : (run s calls).supplyVault.val + paidIn t.transfers < 2 ^ 63)
    (hagrees : call.Agrees (run s calls).reserve) :
    (run s calls).VaultCovers ∧ ∃ s', execute (run s calls) call = .ok s' ∧
      s'.reserve = t.reserve ∧ s'.VaultCovers ∧
      s'.supplyVault.val + paidOut t.transfers =
        (run s calls).supplyVault.val + paidIn t.transfers := by
  have hrun : (run s calls).VaultCovers := vaultCovers_run (processInitReserve_ok hinit).2.2
  have hbalances := (handle_ok hcall).1
  obtain ⟨v', hv'⟩ := transfers_isOk (by omega) (hbalances.funded _ hrun)
  have hsum := transfers_ok hv'
  have hcheck := hbalances.check hagrees _ v' hrun hroom hsum
  refine ⟨hrun, ⟨t.reserve, v'⟩, ?_, rfl, ?_, hsum⟩
  · simp only [execute, settle, hcall, hv', hcheck, bind, Except.bind, pure, Except.pure]
  · have hcash := hbalances.cash
    unfold ReserveAccounts.VaultCovers at *
    dsimp only
    omega

set_option maxRecDepth 10000 in
theorem transfers_are_covered_sample :
    ∃ s', execute (run sampleReserve sampleLoan)
      (sampleCall 1000000 (.depositReserveLiquidity 1000)) = .ok s' ∧ s'.VaultCovers := by
  have hdeposited : ∃ t, handle (sampleCall 1000000 (.depositReserveLiquidity 1000))
      (run sampleReserve sampleLoan).reserve = .ok t ∧
      (run sampleReserve sampleLoan).supplyVault.val + paidIn t.transfers < 2 ^ 63 :=
    ⟨_, rfl, by decide⟩
  obtain ⟨t, ht, hroom⟩ := hdeposited
  obtain ⟨-, s', hs', -, hcovers, -⟩ := transfers_are_covered sampleMarket ⟨0, I64.clamp 0⟩ 6 false
    sampleReserve sampleLoan _ t rfl ht hroom trivial
  exact ⟨s', hs', hcovers⟩

/-- What the collateral would be paid now. -/
def redeemable (s : ReserveAccounts) (collateralAmount : U64) : Outcome U64 := do
  (← s.reserve.collateralExchangeRate).collateralToLiquidity collateralAmount

theorem redeemable_ok (h : redeemable s c = .ok x) (hp : s.reserve.ledger.pool.Healthy)
    (hshares : 0 < s.reserve.ledger.shares) :
    (x.val : Int) = c.val * s.reserve.ledger.supplySf / s.reserve.ledger.shares / ONE_SCALED := by
  obtain ⟨rate, hrate, hx⟩ := bind_eq_ok.mp h
  obtain ⟨hsupply, hliquidity⟩ := rate_of_healthy hrate hp hshares
  rw [(collateralToLiquidity_ok hx).2, ← hsupply, ← hliquidity]
  norm_cast

/-- Where each share is covered, it is redeemed for no less than one. -/
theorem le_redeemable (h : redeemable s c = .ok x) (hp : s.reserve.ledger.Covered) : c ≤ x := by
  rcases Nat.eq_zero_or_pos s.reserve.ledger.shares with hzero | hpos
  · obtain ⟨rate, hrate, hx⟩ := bind_eq_ok.mp h
    have hone : rate = .ONE := by
      rcases collateralExchangeRate_ok hrate with ⟨rfl, -⟩ | ⟨hpos, -⟩
      · rfl
      · omega
    subst hone
    exact (collateralToLiquidity_one hx).ge
  · have hle : (s.reserve.ledger.shares : Int) * ONE_SCALED ≤ s.reserve.ledger.supplySf := hp
    have hc : (c.val : Int) ≤ x.val := by
      rw [redeemable_ok h hp.healthy hpos, Int.le_ediv_iff_mul_le (by decide),
        Int.le_ediv_iff_mul_le (by exact_mod_cast hpos)]
      calc (c.val : Int) * ONE_SCALED * s.reserve.ledger.shares
          = c.val * (s.reserve.ledger.shares * ONE_SCALED) := by ring
        _ ≤ c.val * s.reserve.ledger.supplySf :=
          mul_le_mul_of_nonneg_left hle (Int.natCast_nonneg _)
    exact_mod_cast hc

theorem totalSupply_isOk {r : Reserve} (hfees : 0 ≤ r.ledger.supplySf)
    (hfits : r.ledger.available * ONE_SCALED + r.ledger.borrowedSf < 2 ^ 128) :
    ∃ T, r.liquidity.totalSupply = .ok T := by
  have hle : r.ledger.feesSf ≤ r.ledger.available * ONE_SCALED + r.ledger.borrowedSf := by
    unfold Ledger.supplySf at hfees
    omega
  simp only [Ledger.feesSf, Reserve.ledger] at hle hfits
  obtain ⟨gross, hgross, hgrossSf⟩ := ofSf_isOk hfits
  obtain ⟨n₁, h₁, hn₁⟩ := sub_isOk (a := gross) (b := ⟨r.liquidity.accumulatedProtocolFeesSf⟩)
    (by simp only [Fraction.sf] at *; omega)
  obtain ⟨n₂, h₂, hn₂⟩ := sub_isOk (a := n₁) (b := ⟨r.liquidity.accumulatedReferrerFeesSf⟩)
    (by simp only [Fraction.sf] at *; omega)
  obtain ⟨n₃, h₃, -⟩ := sub_isOk (a := n₂) (b := ⟨r.liquidity.pendingReferrerFeesSf⟩)
    (by simp only [Fraction.sf] at *; omega)
  refine ⟨n₃, ?_⟩
  simp only [ReserveLiquidity.totalSupply, bind_eq_ok]
  exact ⟨gross, hgross, n₁, h₁, n₂, h₂, h₃⟩

/-- From its creation on, and until a loss is socialized, a reserve owes its depositors no more
than it has: the fees never exceed what is there, so that the supply is only missing when it
does not fit, and all collateral is redeemed for no less than itself. -/
theorem deposits_stay_covered (market : LendingMarket) (clock : Clock) (decimals : U64)
    (frozen : Bool) (s : ReserveAccounts) (calls : List (Call Pubkey))
    (hinit : processInitReserve market clock decimals frozen = .ok s)
    (htake : ∀ call ∈ calls, call.TakesAtMostAll)
    (hloss : ∀ call ∈ calls, call.socializesLoss = false) :
    (∀ T, (run s calls).reserve.liquidity.totalSupply = .ok T →
        (run s calls).reserve.collateral.mintTotalSupply.val * ONE_SCALED ≤ T.sf) ∧
      ((run s calls).reserve.ledger.available * ONE_SCALED +
          (run s calls).reserve.ledger.borrowedSf < 2 ^ 128 →
        ∃ T, (run s calls).reserve.liquidity.totalSupply = .ok T) ∧
      ∀ c x, redeemable (run s calls) c = .ok x → c ≤ x := by
  obtain ⟨hsound, hcovered, -⟩ := processInitReserve_ok hinit
  have hrun := covered_run hsound hcovered htake hloss
  refine ⟨fun T hT => ?_, totalSupply_isOk hrun.healthy.assets, fun c x h => le_redeemable h hrun⟩
  have hle : ((run s calls).reserve.ledger.shares : Int) * ONE_SCALED ≤ _ := hrun
  rw [Ledger.pool_assets, ← totalSupply_ok hT] at hle
  exact_mod_cast hle

set_option maxRecDepth 10000 in
theorem deposits_stay_covered_sample :
    ∃ x, redeemable (run sampleReserve (sampleLoan ++ sampleInterest)) 50000 = .ok x ∧
      50000 ≤ x :=
  ⟨50035, rfl, (deposits_stay_covered sampleMarket ⟨0, I64.clamp 0⟩ 6 false sampleReserve
    (sampleLoan ++ sampleInterest) rfl
    (by simp [sampleLoan, sampleInterest, sampleCall, Call.TakesAtMostAll])
    (by decide)).2.2 _ _ rfl⟩

end Solvency

section Value

/-- The same number of shares is worth no less in a pool above, also rounded down. -/
theorem worth_le {p q : Pool Int} (h : p.Below q) (hp : 0 < p.shares) (hq : 0 < q.shares) {n : Int}
    (hn : 0 ≤ n) : n * p.assets / p.shares ≤ n * q.assets / q.shares := by
  rw [Int.le_ediv_iff_mul_le hq]
  refine le_of_mul_le_mul_right ?_ hp
  calc n * p.assets / p.shares * q.shares * p.shares
      = n * p.assets / p.shares * p.shares * q.shares := by ring
    _ ≤ n * p.assets * q.shares :=
      mul_le_mul_of_nonneg_right (Int.ediv_mul_le _ hp.ne') hq.le
    _ = n * (p.assets * q.shares) := by ring
    _ ≤ n * (q.assets * p.shares) := mul_le_mul_of_nonneg_left h hn
    _ = n * q.assets * p.shares := by ring

/-- From the creation of a reserve on, collateral is redeemed for no less later than earlier, as
long as some is outstanding and no loss is socialized in between. -/
theorem shares_never_lose_value (market : LendingMarket) (clock : Clock) (decimals : U64)
    (frozen : Bool) (s : ReserveAccounts) (earlier later : List (Call Pubkey)) (c x y : U64)
    (hinit : processInitReserve market clock decimals frozen = .ok s)
    (htake : ∀ call ∈ earlier ++ later, call.TakesAtMostAll)
    (hloss : ∀ call ∈ later, call.socializesLoss = false)
    (hversion : (run s earlier).reserve.version.val = PROGRAM_VERSION)
    (hshares : ∀ first, first <+: later →
      0 < (run s (earlier ++ first)).reserve.collateral.mintTotalSupply.val)
    (hx : redeemable (run s earlier) c = .ok x)
    (hy : redeemable (run s (earlier ++ later)) c = .ok y) : x ≤ y := by
  have hrun (first : List (Call Pubkey)) : run s (earlier ++ first) = run (run s earlier) first :=
    List.foldl_append
  have hearlier := sound_run (processInitReserve_ok hinit).1 fun call h =>
    htake call (List.mem_append_left _ h)
  have hlater : ∀ call ∈ later, call.TakesAtMostAll := fun call h =>
    htake call (List.mem_append_right _ h)
  have hrises := below_run hearlier hlater hloss fun first h => by
    rw [← hrun first]
    exact hshares first h
  have hstart : 0 < (run s earlier).reserve.ledger.shares := by
    have h := hshares [] List.nil_prefix
    rwa [List.append_nil] at h
  have hpos : 0 < (run s earlier).reserve.ledger.pool.shares := Int.natCast_pos.mpr hstart
  obtain ⟨hbelow, hend⟩ := below_of_rises hrises hpos
  have hhealthy := hearlier.healthy hversion
  have hhealthy' := healthy_of_rises hrises hhealthy
  rw [hrun] at hy
  have hxy : (x.val : Int) ≤ y.val := by
    rw [redeemable_ok hx hhealthy hstart, redeemable_ok hy hhealthy' (Int.natCast_pos.mp hend)]
    exact Int.ediv_le_ediv (by decide) (worth_le hbelow hpos hend (Int.natCast_nonneg _))
  exact_mod_cast hxy

set_option maxRecDepth 10000 in
theorem shares_never_lose_value_sample :
    ∃ x y, redeemable (run sampleReserve sampleLoan) 50000 = .ok x ∧
      redeemable (run sampleReserve (sampleLoan ++ sampleInterest)) 50000 = .ok y ∧ x ≤ y :=
  ⟨50000, 50035, rfl, rfl,
    shares_never_lose_value sampleMarket ⟨0, I64.clamp 0⟩ 6 false sampleReserve sampleLoan
      sampleInterest 50000 50000 50035 rfl
      (by simp [sampleLoan, sampleInterest, sampleCall, Call.TakesAtMostAll]) (by decide) rfl
      (forall_of_inits (by decide)) rfl rfl⟩

end Value

section Trading

variable {r r' : Reserve} {t : Settlement} {slot : U64}

/-- What a trade of shares leaves alone within a slot. -/
structure Steady (r r' : Reserve) : Prop where
  slot : r'.lastUpdate.slot = r.lastUpdate.slot
  owed : r'.ledger.owedSf = r.ledger.owedSf
  rewards : r'.ledger.rewards = r.ledger.rewards

theorem Steady.trans {r'' : Reserve} (h : Steady r r') (h' : Steady r' r'') : Steady r r'' :=
  ⟨h'.slot.trans h.slot, h'.owed.trans h.owed, h'.rewards.trans h.rewards⟩

theorem steady_of_ledger (hslot : r'.lastUpdate.slot = r.lastUpdate.slot)
    (h : r'.ledger = r.ledger) : Steady r r' :=
  ⟨hslot, congrArg Ledger.owedSf h, congrArg Ledger.rewards h⟩

theorem refreshReserve_steady {price : Option GetPriceResult}
    (h : refreshReserve market r clock price = .ok r') (hslot : clock.slot = r.lastUpdate.slot) :
    Steady r r' := by
  obtain ⟨-, hslot', hsame⟩ := refreshReserve_ok h
  exact steady_of_ledger (hslot'.trans hslot) (hsame hslot.symm)

theorem refreshReserveLimitTimestamps_lastUpdate {timestamp : U64}
    (h : refreshReserveLimitTimestamps r timestamp = .ok r') : r'.lastUpdate = r.lastUpdate := by
  have hliquidity : ∃ l, r' = { r with liquidity := l } := by
    unfold refreshReserveLimitTimestamps Reserve.updateDepositLimitCrossedTimestamp at h
    obtain ⟨mid, hmid, hr⟩ := bind_eq_ok.mp h
    obtain ⟨supply, -, hmid⟩ := bind_eq_ok.mp hmid
    cases hmid
    cases hr
    exact ⟨_, rfl⟩
  obtain ⟨l, rfl⟩ := hliquidity
  rfl

theorem withdraw_lastUpdate {useWithdrawQueue : Bool}
    (h : r.withdraw x useWithdrawQueue = .ok r') : r'.lastUpdate = r.lastUpdate := by
  cases useWithdrawQueue with
  | false =>
    simp only [Reserve.withdraw, Reserve.withdrawFreelyAvailable, bind_eq_ok, pure, Except.pure,
      Except.ok.injEq, Bool.false_eq_true, if_false] at h
    obtain ⟨_, -, _, -, _, -, _, -, rfl⟩ := h
    rfl
  | true =>
    simp only [Reserve.withdraw, Reserve.withdrawIncludingQueued, bind_eq_ok, pure, Except.pure,
      Except.ok.injEq, if_true] at h
    obtain ⟨_, -, _, -, rfl⟩ := h
    rfl

theorem redeemReserveCollateral_steady {options : RedeemCollateralOptions}
    (h : redeemReserveCollateral r c clock options = .ok (x, r')) : Steady r r' := by
  obtain ⟨hmoves, -, howed⟩ := redeemReserveCollateral_ok h
  refine ⟨?_, howed, hmoves.rewards⟩
  simp only [redeemReserveCollateral, Reserve.redeemCollateral, bind_eq_ok, pure, Except.pure,
    Except.ok.injEq, Prod.mk.injEq] at h
  obtain ⟨_, -, _, -, ⟨paid, mid⟩, ⟨_, -, _, -, taken, htaken, collateral, -, hmid⟩, timestamp, -,
    limited, hlimited, counted, hcounted, -, rfl⟩ := h
  have hcount : counted.lastUpdate.slot = limited.lastUpdate.slot := by
    cases hcaps : options.addAmountToWithdrawalCaps with
    | false =>
      rw [hcaps] at hcounted
      cases hcounted
      rfl
    | true =>
      rw [hcaps] at hcounted
      obtain ⟨cap, -, hcounted⟩ := bind_eq_ok.mp hcounted
      cases hcounted
      rfl
  rw [hcount, refreshReserveLimitTimestamps_lastUpdate hlimited]
  obtain ⟨-, rfl⟩ := Prod.mk.inj hmid
  have hsame := withdraw_lastUpdate htaken
  exact congrArg LastUpdate.slot hsame

theorem depositReserveLiquidity_steady {amount d : U64}
    (h : depositReserveLiquidity r clock amount = .ok ((d, c), r'))
    (hslot : clock.slot = r.lastUpdate.slot) : Steady r r' := by
  obtain ⟨hmoves, -, -, hslot', howed⟩ := depositReserveLiquidity_ok h
  exact ⟨hslot'.trans hslot, howed, hmoves.rewards⟩

theorem steady_queue (r : Reserve) (withdrawQueue : WithdrawQueue) :
    Steady r { r with withdrawQueue } := ⟨rfl, rfl, rfl⟩

/-- An instruction of the slot that exchanges liquidity and shares, or waits to. -/
def Call.TradesIn (slot : U64) (call : Call Pubkey) : Prop :=
  call.clock.slot = slot ∧
    match call.instruction with
    | .refreshReserve _ | .depositReserveLiquidity _
    | .depositReserveLiquidityAndObligationCollateral _ | .redeemReserveCollateral _
    | .withdrawObligationCollateralAndRedeemReserveCollateral _ | .enqueueToWithdraw _
    | .withdrawQueuedLiquidity _ | .skipTicket _ | .cancelWithdrawTicket _ _ => True
    | _ => False

theorem handle_steady {call : Call Pubkey} (hcall : call.TradesIn r.lastUpdate.slot)
    (h : handle call r = .ok t) : Steady r t.reserve := by
  obtain ⟨market, clock, instruction⟩ := call
  obtain ⟨hslot, hkind⟩ := hcall
  dsimp only at hslot hkind
  cases instruction with
  | refreshReserve price =>
    simp only [handle, processRefreshReserve, bind_eq_ok, pure, Except.pure, Except.ok.injEq] at h
    obtain ⟨_, -, mid, hmid, _, -, final, hfinal, rfl⟩ := h
    exact (refreshReserve_steady hmid hslot).trans (steady_of_ledger
      (congrArg LastUpdate.slot (refreshReserveLimitTimestamps_lastUpdate hfinal))
      (refreshReserveLimitTimestamps_ok hfinal))
  | depositReserveLiquidity amount =>
    simp only [handle, processDepositReserveLiquidity, bind_eq_ok, pure, Except.pure,
      Except.ok.injEq] at h
    obtain ⟨_, -, _, -, _, -, mid, hmid, ⟨⟨d, c⟩, final⟩, hfinal, rfl⟩ := h
    have hrefreshed := refreshReserve_steady hmid hslot
    exact hrefreshed.trans
      (depositReserveLiquidity_steady hfinal (hslot.trans hrefreshed.slot.symm))
  | depositReserveLiquidityAndObligationCollateral amount =>
    simp only [handle, processDepositReserveLiquidityAndObligationCollateral, bind_eq_ok, pure,
      Except.pure, Except.ok.injEq] at h
    obtain ⟨_, -, _, -, mid, hmid, ⟨⟨d, c⟩, deposited⟩, hdeposited, final, hfinal, rfl⟩ := h
    have hrefreshed := refreshReserve_steady hmid hslot
    have hboth := hrefreshed.trans
      (depositReserveLiquidity_steady hdeposited (hslot.trans hrefreshed.slot.symm))
    exact hboth.trans (refreshReserve_steady hfinal (hslot.trans hboth.slot.symm))
  | redeemReserveCollateral amount =>
    simp only [handle, processRedeemReserveCollateral, bind_eq_ok, pure, Except.pure,
      Except.ok.injEq] at h
    obtain ⟨_, -, _, -, mid, hmid, ⟨x, final⟩, hfinal, rfl⟩ := h
    exact (refreshReserve_steady hmid hslot).trans (redeemReserveCollateral_steady hfinal)
  | withdrawObligationCollateralAndRedeemReserveCollateral amount =>
    simp only [handle, processWithdrawObligationCollateralAndRedeemReserveCollateral, bind_eq_ok,
      pure, Except.pure, Except.ok.injEq] at h
    obtain ⟨_, -, _, -, ⟨x, final⟩, hfinal, rfl⟩ := h
    exact redeemReserveCollateral_steady hfinal
  | enqueueToWithdraw amount =>
    simp only [handle, processEnqueueToWithdraw, enqueueToWithdraw, bind_eq_ok, pure, Except.pure,
      Except.ok.injEq] at h
    obtain ⟨_, ⟨_, -, _, -, _, -, mid, hmid, _, ⟨_, -, _, -, ⟨n, queue⟩, -, rfl⟩, rfl⟩, rfl⟩ := h
    exact (refreshReserve_steady hmid hslot).trans (steady_queue mid queue)
  | withdrawQueuedLiquidity ticket =>
    simp only [handle, processWithdrawQueuedLiquidity, withdrawQueuedLiquidity, bind_eq_ok, pure,
      Except.pure, Except.ok.injEq] at h
    obtain ⟨_, ⟨_, -, _, -, _, -, mid, hmid, _, ⟨_, -, _, -, _, -, _, -, _, -, ⟨x, redeemed⟩,
      hredeemed, _, -, queue, -, rfl⟩, rfl⟩, rfl⟩ := h
    exact ((refreshReserve_steady hmid hslot).trans
      (redeemReserveCollateral_steady hredeemed)).trans (steady_queue redeemed queue)
  | skipTicket ticket =>
    simp only [handle, processSkipTicket, bind_eq_ok, pure, Except.pure, Except.ok.injEq] at h
    obtain ⟨_, -, _, -, _, -, queue, -, rfl⟩ := h
    exact steady_queue r queue
  | cancelWithdrawTicket ticket amount =>
    simp only [handle, processCancelWithdrawTicket, cancelWithdrawTicket, bind_eq_ok, pure,
      Except.pure, Except.ok.injEq] at h
    obtain ⟨_, ⟨_, -, _, -, _, -, mid, hmid, _, ⟨_, -, _, -, _, -, _, -, queue, -, rfl⟩, rfl⟩,
      rfl⟩ := h
    exact (refreshReserve_steady hmid hslot).trans (steady_queue mid queue)
  | borrowObligationLiquidity => exact hkind.elim
  | repayObligationLiquidity => exact hkind.elim
  | liquidateRepay => exact hkind.elim
  | liquidateWithdraw => exact hkind.elim
  | liquidateSameReserve => exact hkind.elim
  | rolloverSource => exact hkind.elim
  | rolloverTarget => exact hkind.elim
  | flashBorrowReserveLiquidity => exact hkind.elim
  | flashRepayReserveLiquidity => exact hkind.elim
  | redeemFees => exact hkind.elim
  | withdrawReferrerFees => exact hkind.elim
  | refreshObligation => exact hkind.elim
  | socializeLoss => exact hkind.elim
  | updateReserveConfig => exact hkind.elim
  | topupReserveRewards => exact hkind.elim
  | seedDepositOnInitReserve => exact hkind.elim

theorem steady_run (hcalls : ∀ call ∈ calls, call.TradesIn s.reserve.lastUpdate.slot) :
    Steady s.reserve (run s calls).reserve := by
  refine run_induction (P := fun s' => Steady s.reserve s'.reserve) ⟨rfl, rfl, rfl⟩
    fun s₁ s₂ call hcall h hexecute => ?_
  obtain ⟨t, ht, hreserve, -⟩ := execute_ok hexecute
  rw [hreserve]
  exact h.trans (handle_steady (h.slot ▸ hcalls call hcall) ht)

theorem tradesIn_harmless {call : Call Pubkey} (h : call.TradesIn slot) :
    call.TakesAtMostAll ∧ call.socializesLoss = false := by
  obtain ⟨market, clock, instruction⟩ := call
  cases instruction <;> first | exact h.2.elim | exact ⟨trivial, rfl⟩

/-- Whoever trades liquidity and shares within a slot, in whatever order and through whatever
instruction, takes nothing out: once the shares outstanding are as many as before, the vault holds
no less than before. -/
theorem trading_takes_nothing_out (market : LendingMarket) (clock : Clock) (decimals : U64)
    (frozen : Bool) (s : ReserveAccounts) (earlier trades : List (Call Pubkey))
    (hinit : processInitReserve market clock decimals frozen = .ok s)
    (htake : ∀ call ∈ earlier, call.TakesAtMostAll)
    (htrades : ∀ call ∈ trades, call.TradesIn (run s earlier).reserve.lastUpdate.slot)
    (hshares : ∀ first, first <+: trades →
      0 < (run s (earlier ++ first)).reserve.collateral.mintTotalSupply.val)
    (hsame : (run s (earlier ++ trades)).reserve.collateral.mintTotalSupply =
      (run s earlier).reserve.collateral.mintTotalSupply) :
    (run s earlier).supplyVault ≤ (run s (earlier ++ trades)).supplyVault := by
  have hrun (first : List (Call Pubkey)) : run s (earlier ++ first) = run (run s earlier) first :=
    List.foldl_append
  have hearlier := sound_run (processInitReserve_ok hinit).1 htake
  rw [hrun] at hsame ⊢
  generalize run s earlier = start at *
  have hrises := below_run hearlier (fun call h => (tradesIn_harmless (htrades call h)).1)
    (fun call h => (tradesIn_harmless (htrades call h)).2) fun first h => by
      rw [← hrun first]
      exact hshares first h
  have hpos : 0 < start.reserve.ledger.pool.shares := by
    have h := hshares [] List.nil_prefix
    rw [hrun] at h
    exact Int.natCast_pos.mpr h
  have hsupply := (below_of_rises hrises hpos).1.assets_le
    (congrArg (fun n : U64 => (n.val : Int)) hsame) hpos
  obtain ⟨-, howed, hrewards⟩ := steady_run htrades
  have hvault := vault_run start trades
  rw [Ledger.pool_assets, Ledger.pool_assets, Ledger.supplySf_eq, Ledger.supplySf_eq,
    howed] at hsupply
  simp only [Ledger.cash, hrewards] at hvault
  have havailable : (start.reserve.ledger.available : Int) ≤
      (run start trades).reserve.ledger.available :=
    le_of_mul_le_mul_right (by linarith) (show (0 : Int) < ONE_SCALED by decide)
  have hle : start.supplyVault.val ≤ (run start trades).supplyVault.val := by omega
  exact hle

set_option maxRecDepth 10000 in
theorem trading_takes_nothing_out_sample :
    (run sampleReserve (sampleLoan ++ sampleInterest)).supplyVault ≤
      (run sampleReserve ((sampleLoan ++ sampleInterest) ++ sampleTrades)).supplyVault :=
  trading_takes_nothing_out sampleMarket ⟨0, I64.clamp 0⟩ 6 false sampleReserve
    (sampleLoan ++ sampleInterest) sampleTrades rfl
    (by simp [sampleLoan, sampleInterest, sampleCall, Call.TakesAtMostAll])
    (by
      intro call hcall
      simp only [sampleTrades, List.mem_cons, List.not_mem_nil, or_false] at hcall
      rcases hcall with rfl | rfl
      · exact ⟨rfl, trivial⟩
      · exact ⟨rfl, trivial⟩)
    (forall_of_inits (by decide))
    rfl

end Trading

end SolanaAuditor.Klend
