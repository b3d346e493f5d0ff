/- SolanaAuditor/Klend/WithdrawalCaps
   digest: The withdrawal caps of a reserve: net outflow in an interval of fixed length. -/

import SolanaAuditor.Klend.Fraction

set_option autoImplicit false
set_option relaxedAutoImplicit false

namespace SolanaAuditor.Klend

open SolanaAuditor.Lib.CheckedWords

section Signed

/-- A signed word of 64 bits. -/
@[ext]
structure I64 where
  val : Int
  low : -2 ^ 63 ≤ val
  high : val < 2 ^ 63

def fitI64 (fault : Fault) (z : Int) : Outcome I64 :=
  if h : -2 ^ 63 ≤ z ∧ z < 2 ^ 63 then .ok ⟨z, h.1, h.2⟩ else .error fault

theorem fitI64_eq_ok {fault : Fault} {z : Int} {x : I64} :
    fitI64 fault z = .ok x ↔ x.val = z := by
  unfold fitI64
  split
  · simp [I64.ext_iff, eq_comm]
  · next h =>
    simp only [reduceCtorEq, false_iff]
    rintro rfl
    exact h ⟨x.low, x.high⟩

theorem fitI64_isOk {fault : Fault} {z : Int} (hlow : -2 ^ 63 ≤ z) (hhigh : z < 2 ^ 63) :
    fitI64 fault z = .ok ⟨z, hlow, hhigh⟩ := dif_pos ⟨hlow, hhigh⟩

/-- The result of a saturating operation. -/
def I64.clamp (z : Int) : I64 := ⟨max (-2 ^ 63) (min z (2 ^ 63 - 1)), by omega, by omega⟩

end Signed

section Caps

structure WithdrawalCaps where
  configCapacity : I64
  currentTotal : I64
  lastIntervalStartTimestamp : U64
  configIntervalLengthSeconds : U64

inductive WithdrawalCapAction
  | add
  | remove
  deriving DecidableEq

inductive WithdrawalCapOverflowAction
  | saturatingOverflow
  | errorOnOverflow

/-- What the action adds to the counter. -/
def WithdrawalCapAction.signed : WithdrawalCapAction → U64 → Int
  | .add, amount => amount.val
  | .remove, amount => -amount.val

def updateCounter (caps : WithdrawalCaps) (requestedAmount : U64) (action : WithdrawalCapAction) :
    WithdrawalCapOverflowAction → Outcome WithdrawalCaps
  | .saturatingOverflow => do
    let _ ← fitI64 (.error .mathOverflow) requestedAmount.val
    return { caps with
      currentTotal := I64.clamp (caps.currentTotal.val + action.signed requestedAmount) }
  | .errorOnOverflow => do
    let _ ← fitI64 (.error .integerOverflow) requestedAmount.val
    let currentTotal ← fitI64 (.error .mathOverflow)
      (caps.currentTotal.val + action.signed requestedAmount)
    return { caps with currentTotal }

def checkLastIntervalElapsed (caps : WithdrawalCaps) (currTimestamp : U64) : Outcome Bool := do
  require (.error .lastTimestampGreaterThanCurrent)
    (caps.lastIntervalStartTimestamp ≤ currTimestamp)
  return decide (caps.configIntervalLengthSeconds.val ≤
    currTimestamp.val - caps.lastIntervalStartTimestamp.val)

def resetCurrentIntervalAndCounter (caps : WithdrawalCaps) (currTimestamp : U64) :
    WithdrawalCaps :=
  { caps with
    currentTotal := ⟨0, by decide, by decide⟩
    lastIntervalStartTimestamp := currTimestamp }

/-- The counter that a call at the timestamp starts from. -/
def totalAt (caps : WithdrawalCaps) (timestamp : U64) : Int :=
  if caps.configIntervalLengthSeconds.val ≤ timestamp.val - caps.lastIntervalStartTimestamp.val
  then 0 else caps.currentTotal.val

theorem totalAt_bounds (caps : WithdrawalCaps) (timestamp : U64) :
    -2 ^ 63 ≤ totalAt caps timestamp ∧ totalAt caps timestamp < 2 ^ 63 := by
  unfold totalAt
  split
  · decide
  · exact ⟨caps.currentTotal.low, caps.currentTotal.high⟩

/-- The difference of two `i64` always fits a `u64`. -/
def remainingWithdrawalCapsAmount (caps : WithdrawalCaps) (timestamp : U64) : U64 :=
  if caps.configIntervalLengthSeconds.val = 0 then ⟨2 ^ 64 - 1, by decide⟩
  else if caps.configCapacity.val < 0 then ⟨0, by decide⟩
  else if totalAt caps timestamp ≤ caps.configCapacity.val then
    ⟨(caps.configCapacity.val - totalAt caps timestamp).toNat, by
      have hlow := (totalAt_bounds caps timestamp).1
      have hhigh := caps.configCapacity.high
      omega⟩
  else ⟨0, by decide⟩

def checkAndUpdateWithdrawalCaps (caps : WithdrawalCaps) (requestedAmount currTimestamp : U64)
    (action : WithdrawalCapAction) : Outcome WithdrawalCaps :=
  if caps.configIntervalLengthSeconds.val ≠ 0 then do
    let elapsed ← checkLastIntervalElapsed caps currTimestamp
    let caps := if elapsed then resetCurrentIntervalAndCounter caps currTimestamp else caps
    require (.error .withdrawalCapReached) (action = .add →
      requestedAmount ≤ remainingWithdrawalCapsAmount caps currTimestamp)
    updateCounter caps requestedAmount action .errorOnOverflow
  else
    updateCounter caps requestedAmount action .saturatingOverflow

def addToWithdrawalAccum (caps : WithdrawalCaps) (requestedAmount currTimestamp : U64) :
    Outcome WithdrawalCaps :=
  checkAndUpdateWithdrawalCaps caps requestedAmount currTimestamp .add

def subFromWithdrawalAccum (caps : WithdrawalCaps) (requestedAmount currTimestamp : U64) :
    Outcome WithdrawalCaps :=
  checkAndUpdateWithdrawalCaps caps requestedAmount currTimestamp .remove

end Caps

end SolanaAuditor.Klend
