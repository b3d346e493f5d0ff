/- SolanaAuditor/Klend/ReserveRuns
   digest: Over any run the vault covers the reserve, and a share never loses value. -/

import SolanaAuditor.Klend.Settlements

set_option autoImplicit false
set_option relaxedAutoImplicit false

namespace SolanaAuditor.Klend

open SolanaAuditor.Lib SolanaAuditor.Lib.CheckedWords SolanaAuditor.Lib.SharePool Fraction

variable {Pubkey : Type} {call : Call Pubkey} {r : Reserve} {t : Settlement}
  {s s' : ReserveAccounts}

section Steps

def Call.socializesLoss (call : Call Pubkey) : Bool :=
  match call.instruction with
  | .socializeLoss .. => true
  | _ => false

/-- A configuration that is put in place unchecked, which only an unused reserve allows, takes no
more than all of the interest. -/
def Call.TakesAtMostAll (call : Call Pubkey) : Prop :=
  match call.instruction with
  | .updateReserveConfig config skip => skip = true → config.protocolTakeRatePct.val ≤ 100
  | _ => True

/-- The debt that leaves the reserve in a rollover is one that the reserve counts. -/
def Call.Agrees (call : Call Pubkey) (r : Reserve) : Prop :=
  match call.instruction with
  | .rolloverSource tokens full => min (ofU64 tokens) full ≤ r.liquidity.totalBorrow
  | _ => True

theorem handle_ok (h : handle call r = .ok t) :
    t.Balances r.ledger (call.Agrees r) ∧
      (call.socializesLoss = false → call.TakesAtMostAll → r.ledger.Trades t.reserve.ledger) := by
  obtain ⟨market, clock, instruction⟩ := call
  cases instruction with
  | refreshReserve => exact (processRefreshReserve_ok h).imp_right fun h _ _ => h
  | depositReserveLiquidity =>
    exact (processDepositReserveLiquidity_ok h).imp_right fun h _ _ => h
  | depositReserveLiquidityAndObligationCollateral =>
    exact (processDepositReserveLiquidityAndObligationCollateral_ok h).imp_right fun h _ _ => h
  | redeemReserveCollateral =>
    exact (processRedeemReserveCollateral_ok h).imp_right fun h _ _ => h
  | withdrawObligationCollateralAndRedeemReserveCollateral =>
    exact (processWithdrawObligationCollateralAndRedeemReserveCollateral_ok h).imp_right
      fun h _ _ => h
  | borrowObligationLiquidity =>
    exact (processBorrowObligationLiquidity_ok h).imp_right fun h _ _ => h
  | repayObligationLiquidity =>
    exact (processRepayObligationLiquidity_ok h).imp_right fun h _ _ => h
  | liquidateRepay => exact (processLiquidateRepay_ok h).imp_right fun h _ _ => h
  | liquidateWithdraw => exact (processLiquidateWithdraw_ok h).imp_right fun h _ _ => h
  | liquidateSameReserve => exact (processLiquidateSameReserve_ok h).imp_right fun h _ _ => h
  | rolloverSource => exact (processRolloverSource_ok h).imp_right fun h _ _ => h
  | rolloverTarget => exact (processRolloverTarget_ok h).imp_right fun h _ _ => h
  | flashBorrowReserveLiquidity =>
    exact (processFlashBorrowReserveLiquidity_ok h).imp_right fun h _ _ => h
  | flashRepayReserveLiquidity =>
    exact (processFlashRepayReserveLiquidity_ok h).imp_right fun h _ _ => h
  | redeemFees => exact (processRedeemFees_ok h).imp_right fun h _ _ => h
  | withdrawReferrerFees => exact (processWithdrawReferrerFees_ok h).imp_right fun h _ _ => h
  | refreshObligation => exact (processRefreshObligation_ok h).imp_right fun h _ _ => h
  | socializeLoss => exact ⟨(processSocializeLoss_ok h).1, fun hloss => by cases hloss⟩
  | updateReserveConfig =>
    exact (processUpdateReserveConfig_ok h).imp_right fun h _ htake => h htake
  | topupReserveRewards => exact (processTopupReserveRewards_ok h).imp_right fun h _ _ => h
  | seedDepositOnInitReserve =>
    exact (processSeedDepositOnInitReserve_ok h).imp_right fun h _ _ => h
  | enqueueToWithdraw =>
    obtain ⟨⟨n, t'⟩, ht', h⟩ := bind_eq_ok.mp h
    cases h
    exact (processEnqueueToWithdraw_ok ht').imp_right fun h _ _ => h
  | withdrawQueuedLiquidity =>
    obtain ⟨⟨result, ticket', t'⟩, ht', h⟩ := bind_eq_ok.mp h
    cases h
    exact (processWithdrawQueuedLiquidity_ok ht').imp_right fun h _ _ => h
  | skipTicket => exact (processSkipTicket_ok h).imp_right fun h _ _ => h
  | cancelWithdrawTicket =>
    obtain ⟨⟨cancelled, ticket', t'⟩, ht', h⟩ := bind_eq_ok.mp h
    cases h
    exact (processCancelWithdrawTicket_ok ht').imp_right fun h _ _ => h

theorem execute_ok (h : execute s call = .ok s') :
    ∃ t, handle call s.reserve = .ok t ∧ s'.reserve = t.reserve ∧
      s'.supplyVault.val + paidOut t.transfers = s.supplyVault.val + paidIn t.transfers := by
  simp only [execute, settle, bind_eq_ok, pure, Except.pure, Except.ok.injEq] at h
  obtain ⟨t, ht, vault, hvault, _, -, rfl⟩ := h
  exact ⟨t, ht, rfl, transfers_ok hvault⟩

/-- A step is an accepted instruction, or none. -/
theorem step_cases (s : ReserveAccounts) (call : Call Pubkey) :
    step s call = s ∨ ∃ s', execute s call = .ok s' ∧ step s call = s' := by
  unfold step
  cases h : execute s call with
  | error f => exact .inl rfl
  | ok s' => exact .inr ⟨s', rfl, rfl⟩

/-- What holds at first and is kept by every accepted instruction holds after every run. -/
theorem run_induction {P : ReserveAccounts → Prop} {calls : List (Call Pubkey)} (h : P s)
    (hstep : ∀ s s', ∀ call ∈ calls, P s → execute s call = .ok s' → P s') : P (run s calls) := by
  induction calls generalizing s with
  | nil => exact h
  | cons call rest ih =>
    refine ih ?_ fun s s' call' hcall => hstep s s' call' (List.mem_cons_of_mem _ hcall)
    rcases step_cases s call with hsame | ⟨s', hs', heq⟩
    · rw [hsame]
      exact h
    · rw [heq]
      exact hstep s s' call List.mem_cons_self h hs'

end Steps

section Vault

/-- The vault holds what the reserve accounts for. -/
def ReserveAccounts.VaultCovers (s : ReserveAccounts) : Prop :=
  s.reserve.ledger.cash ≤ s.supplyVault.val

/-- What the vault holds besides what the reserve accounts for stays there. -/
theorem vault_run (s : ReserveAccounts) (calls : List (Call Pubkey)) :
    ((run s calls).supplyVault.val : Int) - (run s calls).reserve.ledger.cash =
      (s.supplyVault.val : Int) - s.reserve.ledger.cash := by
  refine run_induction (P := fun s' => (s'.supplyVault.val : Int) - s'.reserve.ledger.cash =
    (s.supplyVault.val : Int) - s.reserve.ledger.cash) rfl fun s₁ s₂ call _ h hexecute => ?_
  obtain ⟨t, ht, hreserve, hvault⟩ := execute_ok hexecute
  have hcash := (handle_ok ht).1.cash
  rw [hreserve]
  omega

theorem vaultCovers_run {calls : List (Call Pubkey)} (h : s.VaultCovers) :
    (run s calls).VaultCovers := by
  have hvault := vault_run s calls
  unfold ReserveAccounts.VaultCovers at *
  omega

end Vault

section Shares

/-- The part of the invariant that even a socialized loss keeps: a reserve with outstanding
collateral and nothing to back it is deprecated. -/
structure Ledger.Sound (p : Ledger) : Prop where
  takeRate : p.takeRate ≤ 100
  healthy : p.version = PROGRAM_VERSION → p.pool.Healthy

/-- Each share is backed by one unit of liquidity. -/
abbrev Ledger.Covered (p : Ledger) : Prop := p.pool.Covered (ONE_SCALED : Int)

theorem Ledger.Covered.healthy {p : Ledger} (h : p.Covered) : p.pool.Healthy := by
  have hone : (0 : Int) < ONE_SCALED := by exact_mod_cast one_scaled_pos
  have hle : (p.shares : Int) * ONE_SCALED ≤ p.supplySf := h
  refine ⟨?_, Int.natCast_nonneg _, fun hpos => ?_⟩
  · exact (mul_nonneg (Int.natCast_nonneg _) hone.le).trans hle
  · exact (mul_pos hpos hone).trans_le hle

theorem Ledger.Trades.sound {p q : Ledger} (h : p.Trades q) (hp : p.Sound) : q.Sound where
  takeRate := h.takeRate hp.takeRate
  healthy hversion := (h.move hp.takeRate hp.healthy).healthy
    (by exact_mod_cast one_scaled_pos) (hp.healthy (h.version.symm.trans hversion))

theorem Ledger.Trades.covered {p q : Ledger} (h : p.Trades q) (htake : p.takeRate ≤ 100)
    (hp : p.Covered) : q.Covered :=
  (h.move htake fun _ => hp.healthy).covered hp.healthy hp

theorem sound_execute (h : execute s call = .ok s') (htake : call.TakesAtMostAll)
    (hs : s.reserve.ledger.Sound) : s'.reserve.ledger.Sound := by
  obtain ⟨t, ht, hreserve, -⟩ := execute_ok h
  rw [hreserve]
  cases hloss : call.socializesLoss with
  | false => exact ((handle_ok ht).2 hloss htake).sound hs
  | true =>
    obtain ⟨market, clock, instruction⟩ := call
    cases instruction
    case socializeLoss amount borrowed =>
      obtain ⟨-, borrowedSf, version, hledger, hversion⟩ := processSocializeLoss_ok ht
      rw [hledger] at hversion ⊢
      refine ⟨hs.takeRate, fun hv => ?_⟩
      obtain ⟨-, hpos⟩ := hversion hv
      exact ⟨hpos.le, Int.natCast_nonneg _, fun _ => hpos⟩
    all_goals cases hloss

theorem sound_run {calls : List (Call Pubkey)} (hs : s.reserve.ledger.Sound)
    (htake : ∀ call ∈ calls, call.TakesAtMostAll) :
    (run s calls).reserve.ledger.Sound :=
  run_induction hs fun _ _ call hcall h hexecute => sound_execute hexecute (htake call hcall) h

theorem covered_run {calls : List (Call Pubkey)} (hs : s.reserve.ledger.Sound)
    (hcovered : s.reserve.ledger.Covered) (htake : ∀ call ∈ calls, call.TakesAtMostAll)
    (hloss : ∀ call ∈ calls, call.socializesLoss = false) :
    (run s calls).reserve.ledger.Covered := by
  have hboth : (run s calls).reserve.ledger.Sound ∧ (run s calls).reserve.ledger.Covered := by
    refine run_induction (P := fun s => s.reserve.ledger.Sound ∧ s.reserve.ledger.Covered)
      ⟨hs, hcovered⟩ fun s s' call hcall h hexecute => ?_
    obtain ⟨t, ht, hreserve, -⟩ := execute_ok hexecute
    have htrades := (handle_ok ht).2 (hloss call hcall) (htake call hcall)
    rw [hreserve]
    exact ⟨htrades.sound h.1, htrades.covered h.1.takeRate h.2⟩
  exact hboth.2

/-- Shares that are outstanding throughout are worth no less at the end than at the start. -/
theorem below_run {calls : List (Call Pubkey)} (hs : s.reserve.ledger.Sound)
    (htake : ∀ call ∈ calls, call.TakesAtMostAll)
    (hloss : ∀ call ∈ calls, call.socializesLoss = false)
    (hshares : ∀ first, first <+: calls → 0 < (run s first).reserve.ledger.shares) :
    Relation.ReflTransGen Rises s.reserve.ledger.pool (run s calls).reserve.ledger.pool := by
  induction calls generalizing s with
  | nil => exact .refl
  | cons call rest ih =>
    have hnow : 0 < s.reserve.ledger.shares := hshares [] List.nil_prefix
    have hrest := ih (s := step s call)
    rcases step_cases s call with hsame | ⟨s', hs', heq⟩
    · rw [hsame] at hrest
      have hrun : run s (call :: rest) = run s rest := congrArg (run · rest) hsame
      rw [hrun]
      refine hrest hs (fun c hc => htake c (List.mem_cons_of_mem _ hc))
        (fun c hc => hloss c (List.mem_cons_of_mem _ hc)) fun first hfirst => ?_
      have hpos := hshares (call :: first) (List.cons_prefix_cons.mpr ⟨rfl, hfirst⟩)
      rwa [show run s (call :: first) = run s first from congrArg (run · first) hsame] at hpos
    · rw [heq] at hrest
      have hrun (first : List (Call Pubkey)) : run s (call :: first) = run s' first :=
        congrArg (run · first) heq
      obtain ⟨t, ht, hreserve, -⟩ := execute_ok hs'
      have htrades := (handle_ok ht).2 (hloss _ List.mem_cons_self) (htake _ List.mem_cons_self)
      have hnext : 0 < s'.reserve.ledger.shares := by
        have hpos := hshares [call] (List.cons_prefix_cons.mpr ⟨rfl, List.nil_prefix⟩)
        rwa [hrun] at hpos
      have hpos : 0 < s.reserve.ledger.pool.shares := Int.natCast_pos.mpr hnow
      rw [hrun]
      refine .head ⟨hpos, Int.natCast_pos.mpr hnext, ?_⟩ (hrest ?_
        (fun c hc => htake c (List.mem_cons_of_mem _ hc))
        (fun c hc => hloss c (List.mem_cons_of_mem _ hc)) fun first hfirst => ?_)
      · rw [hreserve]
        exact (htrades.move hs.takeRate hs.healthy).below hpos
      · exact sound_execute hs' (htake _ List.mem_cons_self) hs
      · have hpos := hshares (call :: first) (List.cons_prefix_cons.mpr ⟨rfl, hfirst⟩)
        rwa [hrun] at hpos

end Shares

section Opening

/-- A new reserve is covered by what its creator pays in. -/
theorem processInitReserve_ok {market : LendingMarket} {clock : Clock} {decimals : U64}
    {frozen : Bool} (h : processInitReserve market clock decimals frozen = .ok s) :
    s.reserve.ledger.Sound ∧ s.reserve.ledger.Covered ∧ s.VaultCovers := by
  unfold processInitReserve at h
  dsimp only at h
  generalize (if frozen = true then 0 else market.minInitialDepositAmount) = amount at h
  obtain ⟨curve, -, h⟩ := bind_eq_ok.mp h
  obtain ⟨vault, hvault, h⟩ := bind_eq_ok.mp h
  cases h
  have hsum : vault.val + 0 = 0 + amount.val := transfer_ok hvault
  have hcovered : Ledger.Covered ⟨amount.val, 0, 0, 0, 0, 0, amount.val, ONE_SCALED, 0,
      PROGRAM_VERSION, ⟨0, 0, 0⟩⟩ := by
    simp only [Ledger.Covered, Pool.Covered, Ledger.pool, Ledger.supplySf, Ledger.feesSf]
    push_cast
    linarith
  refine ⟨⟨Nat.zero_le _, fun _ => hcovered.healthy⟩, hcovered, ?_⟩
  change amount.val + 0 ≤ vault.val
  omega

end Opening

end SolanaAuditor.Klend
