/- SolanaAuditor/Klend/Fraction
   digest: The fixed-point numbers of klend, U68F60, and their 256-bit intermediates. -/

import SolanaAuditor.Lib.CheckedWords
import Mathlib.Order.Lattice
import Mathlib.Order.Basic

set_option autoImplicit false
set_option relaxedAutoImplicit false

/-!
The crate is built with overflow checks, also for `fixed`: an operation that does not fit its
word aborts the instruction.
-/

namespace SolanaAuditor.Klend

open SolanaAuditor.Lib.CheckedWords

section Faults

/-- The errors that the modelled functions return. -/
inductive LendingError
  | invalidAmount
  | mathOverflow
  | integerOverflow
  | insufficientLiquidity
  | reserveStale
  | reserveDeprecated
  | reserveObsolete
  | reserveEmergencyMode
  | reserveHasNotReceivedInitialDeposit
  | reserveTokenBalanceMismatch
  | reserveVaultBalanceMismatch
  | reserveAccountingMismatch
  | userTokenBalanceMismatch
  | cTokenUsageBlocked
  | depositLimitExceeded
  | borrowTooLarge
  | borrowTooSmall
  | borrowLimitExceeded
  | borrowingAboveUtilizationRateDisabled
  | elevationGroupBorrowLimitExceeded
  | repayTooSmall
  | liquidationTooSmall
  | flashLoansDisabled
  | insufficientProtocolFeesToRedeem
  | insufficientReferralFeesToRedeem
  | cannotCalculateReferralAmountDueToSlotsMismatch
  | invalidBorrowRateCurvePoint
  | invalidUtilizationRate
  | invalidConfig
  | withdrawalCapReached
  | lastTimestampGreaterThanCurrent
  | initialAdminDepositExecuted
  | reserveRewardsDisabled
  | withdrawTicketIssuanceDisabled
  | withdrawTicketRedemptionDisabled
  | withdrawTicketCancellationDisabled
  | withdrawTicketInvalid
  | withdrawTicketStillValid
  | withdrawTicketFullyCancelled
  | withdrawTicketValueTooSmall
  | withdrawTicketRequiresFullRedemption
  | withdrawQueuedLiquidityValueTooSmall
  | invalidSigner
  deriving DecidableEq

/-- How an instruction fails: with an error, by a panic, or in a program that it calls. Each
way the accounts stay as they were. -/
inductive Fault
  | error (e : LendingError)
  | panic
  | external
  deriving DecidableEq

abbrev Outcome (α : Type) := Except Fault α

abbrev U8 := Word 8
abbrev U16 := Word 16
abbrev U32 := Word 32
abbrev U64 := Word 64
abbrev U128 := Word 128
abbrev U256 := Word 256

instance neZero_U8 : NeZero (2 ^ 8) := ⟨by decide⟩
instance neZero_U16 : NeZero (2 ^ 16) := ⟨by decide⟩
instance neZero_U32 : NeZero (2 ^ 32) := ⟨by decide⟩
instance neZero_U64 : NeZero (2 ^ 64) := ⟨by decide⟩
instance neZero_U128 : NeZero (2 ^ 128) := ⟨by decide⟩

theorem u64_le_u128 : 2 ^ 64 ≤ 2 ^ 128 := by decide

theorem u64_max_lt : 2 ^ 64 - 1 < 2 ^ 64 := by decide

end Faults

section Fractions

/-- `U68F60`: 68 bits before the point and 60 after it. -/
@[ext]
structure Fraction where
  bits : U128
  deriving DecidableEq

namespace Fraction

def FRAC_NBITS : Nat := 60

def ONE_SCALED : Nat := 2 ^ FRAC_NBITS

theorem one_scaled_pos : 0 < ONE_SCALED := by decide

/-- The number times `ONE_SCALED`. -/
def sf (f : Fraction) : Nat := f.bits.val

theorem sf_injective : Function.Injective sf := fun _ _ h => Fraction.ext (Fin.ext h)

theorem sf_lt (f : Fraction) : f.sf < 2 ^ 128 := f.bits.isLt

instance : LinearOrder Fraction := LinearOrder.lift' sf sf_injective

theorem le_iff {f g : Fraction} : f ≤ g ↔ f.sf ≤ g.sf := Iff.rfl

theorem lt_iff {f g : Fraction} : f < g ↔ f.sf < g.sf := Iff.rfl

theorem min_sf (f g : Fraction) : (min f g).sf = min f.sf g.sf := by
  rcases le_total f g with h | h
  · rw [min_eq_left h, min_eq_left (le_iff.mp h)]
  · rw [min_eq_right h, min_eq_right (le_iff.mp h)]

def ofSf (n : Nat) : Outcome Fraction := Fraction.mk <$> fit .panic 128 n

theorem ofSf_eq_ok {n : Nat} {f : Fraction} : ofSf n = .ok f ↔ f.sf = n := by
  unfold ofSf
  constructor
  · intro h
    cases hfit : fit Fault.panic 128 n with
    | error e => simp [hfit] at h
    | ok x =>
      rw [hfit] at h
      cases h
      exact fit_eq_ok.mp hfit
  · intro h
    rw [fit_eq_ok.mpr h]
    rfl

theorem ofSf_isOk {n : Nat} (h : n < 2 ^ 128) : ∃ f, ofSf n = .ok f ∧ f.sf = n :=
  ⟨⟨⟨n, h⟩⟩, ofSf_eq_ok.mpr rfl, rfl⟩

def ZERO : Fraction := ⟨⟨0, by decide⟩⟩

def ONE : Fraction := ⟨⟨ONE_SCALED, by decide⟩⟩

@[simp] theorem sf_zero : ZERO.sf = 0 := rfl

@[simp] theorem sf_one : ONE.sf = ONE_SCALED := rfl

/-- `Fraction::from`, which a `u64` always fits. -/
def ofU64 (n : U64) : Fraction :=
  ⟨⟨n.val * ONE_SCALED, by
    have h := n.isLt
    simp only [ONE_SCALED, FRAC_NBITS]
    omega⟩⟩

@[simp] theorem sf_ofU64 (n : U64) : (ofU64 n).sf = n.val * ONE_SCALED := rfl

def add (a b : Fraction) : Outcome Fraction := ofSf (a.sf + b.sf)

def checkedSub (fault : Fault) (a b : Fraction) : Outcome Fraction := do
  ofSf (← minus fault a.sf b.sf)

def sub (a b : Fraction) : Outcome Fraction := checkedSub .panic a b

def saturatingSub (a b : Fraction) : Fraction :=
  ⟨⟨a.sf - b.sf, (Nat.sub_le _ _).trans_lt a.sf_lt⟩⟩

def mul (a b : Fraction) : Outcome Fraction := ofSf (a.sf * b.sf / ONE_SCALED)

def div (a b : Fraction) : Outcome Fraction := do
  ofSf (← divide .panic (a.sf * ONE_SCALED) b.sf)

/-- Multiplication by an integer. -/
def mulInt (a : Fraction) (n : Nat) : Outcome Fraction := ofSf (a.sf * n)

/-- Division by an integer. -/
def divInt (a : Fraction) (n : Nat) : Outcome Fraction := do
  ofSf (← divide .panic a.sf n)

/-- `(big_sf * numerator) / denominator` in 256 bits. -/
def fullMulIntRatio (a : Fraction) (numerator denominator : Nat) : Outcome Fraction := do
  let product ← fit .panic 256 (a.sf * numerator)
  ofSf (← divide .panic product.val denominator)

def fromPercent {w : Nat} (percent : Word w) : Outcome Fraction := do
  divInt (← ofSf (percent.val * ONE_SCALED)) 100

def fromBps {w : Nat} (bps : Word w) : Outcome Fraction := do
  divInt (← ofSf (bps.val * ONE_SCALED)) 10000

/-- The nearest number of basis points; half a point goes up. -/
def toBps (f : Fraction) : Outcome U32 := do
  let scaled ← mulInt f 10000
  let rounded ← ofSf ((scaled.sf + ONE_SCALED / 2) / ONE_SCALED * ONE_SCALED)
  fit .panic 32 (rounded.sf / ONE_SCALED)

def toFloor (w : Nat) (f : Fraction) : Outcome (Word w) := fit .panic w (f.sf / ONE_SCALED)

/-- The ceiling may itself be too large for a fraction. -/
def toCeil (w : Nat) (f : Fraction) : Outcome (Word w) := do
  let ceiled ← ofSf (f.sf ⌈/⌉ ONE_SCALED * ONE_SCALED)
  fit .panic w (ceiled.sf / ONE_SCALED)

def toRound (w : Nat) (f : Fraction) : Outcome (Word w) := do
  let rounded ← ofSf ((f.sf + ONE_SCALED / 2) / ONE_SCALED * ONE_SCALED)
  fit .panic w (rounded.sf / ONE_SCALED)

end Fraction

end Fractions

section Specs

open Fraction

variable {a b c : Fraction} {n w : Nat}

theorem Fraction.add_eq_ok : a.add b = .ok c ↔ c.sf = a.sf + b.sf := ofSf_eq_ok

theorem Fraction.checkedSub_eq_ok {fault : Fault} :
    Fraction.checkedSub fault a b = .ok c ↔ c.sf + b.sf = a.sf := by
  simp only [Fraction.checkedSub, bind_eq_ok, minus_eq_ok, ofSf_eq_ok]
  constructor
  · rintro ⟨d, hd, hc⟩
    omega
  · intro h
    exact ⟨c.sf, h, rfl⟩

theorem Fraction.sub_eq_ok : a.sub b = .ok c ↔ c.sf + b.sf = a.sf := checkedSub_eq_ok

theorem Fraction.sub_isOk (h : b.sf ≤ a.sf) : ∃ d, a.sub b = .ok d ∧ d.sf = a.sf - b.sf := by
  obtain ⟨d, hd, hsf⟩ := ofSf_isOk ((Nat.sub_le a.sf b.sf).trans_lt a.sf_lt)
  exact ⟨d, sub_eq_ok.mpr (by omega), hsf⟩

@[simp] theorem Fraction.sf_saturatingSub : (a.saturatingSub b).sf = a.sf - b.sf := rfl

theorem Fraction.mul_eq_ok : a.mul b = .ok c ↔ c.sf = a.sf * b.sf / ONE_SCALED := ofSf_eq_ok

theorem Fraction.div_eq_ok :
    a.div b = .ok c ↔ 0 < b.sf ∧ c.sf = a.sf * ONE_SCALED / b.sf := by
  simp only [Fraction.div, bind_eq_ok, divide_eq_ok, ofSf_eq_ok]
  constructor
  · rintro ⟨d, ⟨hpos, rfl⟩, hc⟩
    exact ⟨hpos, hc⟩
  · rintro ⟨hpos, hc⟩
    exact ⟨_, ⟨hpos, rfl⟩, hc⟩

theorem Fraction.mulInt_eq_ok : a.mulInt n = .ok c ↔ c.sf = a.sf * n := ofSf_eq_ok

theorem Fraction.divInt_eq_ok : a.divInt n = .ok c ↔ 0 < n ∧ c.sf = a.sf / n := by
  simp only [Fraction.divInt, bind_eq_ok, divide_eq_ok, ofSf_eq_ok]
  constructor
  · rintro ⟨d, ⟨hpos, rfl⟩, hc⟩
    exact ⟨hpos, hc⟩
  · rintro ⟨hpos, hc⟩
    exact ⟨_, ⟨hpos, rfl⟩, hc⟩

theorem Fraction.fromPercent_eq_ok {percent : Word w} (h : Fraction.fromPercent percent = .ok c) :
    c.sf = percent.val * ONE_SCALED / 100 := by
  simp only [Fraction.fromPercent, bind_eq_ok, ofSf_eq_ok, divInt_eq_ok] at h
  obtain ⟨d, hd, -, hc⟩ := h
  rw [hc, hd]

theorem Fraction.fromBps_eq_ok {bps : Word w} (h : Fraction.fromBps bps = .ok c) :
    c.sf = bps.val * ONE_SCALED / 10000 := by
  simp only [Fraction.fromBps, bind_eq_ok, ofSf_eq_ok, divInt_eq_ok] at h
  obtain ⟨d, hd, -, hc⟩ := h
  rw [hc, hd]

theorem Fraction.fromBps_isOk (bps : U32) :
    ∃ c, Fraction.fromBps bps = .ok c ∧ c.sf = bps.val * ONE_SCALED / 10000 := by
  have hlt := bps.isLt
  have hfits : bps.val * ONE_SCALED < 2 ^ 128 := by
    simp only [ONE_SCALED, FRAC_NBITS]
    omega
  obtain ⟨d, hd, hsf⟩ := ofSf_isOk hfits
  obtain ⟨c, hc, hcsf⟩ := ofSf_isOk ((Nat.div_le_self _ 10000).trans_lt hfits)
  refine ⟨c, ?_, hcsf⟩
  simp only [Fraction.fromBps, bind_eq_ok]
  exact ⟨d, hd, divInt_eq_ok.mpr ⟨by decide, by rw [hcsf, hsf]⟩⟩

theorem Fraction.toFloor_eq_ok {x : Word w} :
    a.toFloor w = .ok x ↔ x.val = a.sf / ONE_SCALED := fit_eq_ok

theorem Fraction.toCeil_eq_ok {x : Word w} (h : a.toCeil w = .ok x) :
    x.val = a.sf ⌈/⌉ ONE_SCALED := by
  simp only [Fraction.toCeil, bind_eq_ok, ofSf_eq_ok, fit_eq_ok] at h
  obtain ⟨d, hd, hx⟩ := h
  rw [hx, hd, Nat.mul_div_cancel _ one_scaled_pos]

end Specs

section BigFractions

/-- A fraction with 256 bits, 60 of them after the point. -/
@[ext]
structure BigFraction where
  bits : U256
  deriving DecidableEq

namespace BigFraction

open Fraction

def sf (f : BigFraction) : Nat := f.bits.val

def ofSf (n : Nat) : Outcome BigFraction := BigFraction.mk <$> fit .panic 256 n

def ofFraction (f : Fraction) : BigFraction :=
  ⟨⟨f.sf, f.sf_lt.trans (by decide)⟩⟩

@[simp] theorem sf_ofFraction (f : Fraction) : (ofFraction f).sf = f.sf := rfl

theorem ofSf_eq_ok {n : Nat} {f : BigFraction} : ofSf n = .ok f ↔ f.sf = n := by
  unfold ofSf
  constructor
  · intro h
    cases hfit : fit Fault.panic 256 n with
    | error e => simp [hfit] at h
    | ok x =>
      rw [hfit] at h
      cases h
      exact fit_eq_ok.mp hfit
  · intro h
    rw [fit_eq_ok.mpr h]
    rfl

theorem ofSf_isOk {n : Nat} (h : n < 2 ^ 256) : ∃ f, ofSf n = .ok f ∧ f.sf = n :=
  ⟨⟨⟨n, h⟩⟩, ofSf_eq_ok.mpr rfl, rfl⟩

/-- `try_into` with an `expect`. -/
def toFraction (f : BigFraction) : Outcome Fraction := Fraction.ofSf f.sf

/-- `from_num`, with a shift that panics when it loses bits. -/
def fromNum (n : Nat) : Outcome BigFraction := ofSf (n * ONE_SCALED)

def mul (a b : BigFraction) : Outcome BigFraction := do
  let extraScaled ← ofSf (a.sf * b.sf)
  ofSf (extraScaled.sf / ONE_SCALED)

def mulInt (a : BigFraction) (n : Nat) : Outcome BigFraction := ofSf (a.sf * n)

def divInt (a : BigFraction) (n : Nat) : Outcome BigFraction := do
  ofSf (← divide .panic a.sf n)

def divFraction (a : BigFraction) (b : Fraction) : Outcome BigFraction := do
  let extraScaled ← ofSf (a.sf * ONE_SCALED)
  ofSf (← divide .panic extraScaled.sf b.sf)

/-- The sum before the division may not fit either. -/
def divCeil (a : BigFraction) (b : Fraction) : Outcome BigFraction := do
  let extraScaled ← ofSf (a.sf * ONE_SCALED)
  let sum ← ofSf (extraScaled.sf + b.sf)
  ofSf (← divide .panic (← minus .panic sum.sf 1) b.sf)

end BigFraction

end BigFractions

end SolanaAuditor.Klend
