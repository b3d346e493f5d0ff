/- SolanaAuditor/Klend/CapRuns
   digest: In every interval the accepted withdrawals stay within the cap. -/

import SolanaAuditor.Klend.WithdrawalCaps
import Mathlib.Algebra.BigOperators.Group.List.Basic

set_option autoImplicit false
set_option relaxedAutoImplicit false

namespace SolanaAuditor.Klend

open SolanaAuditor.Lib.CheckedWords

section Calls

variable {caps caps' : WithdrawalCaps} {amount timestamp : U64} {action : WithdrawalCapAction}

/-- The start of the interval that a call at the timestamp belongs to. -/
def intervalAt (caps : WithdrawalCaps) (timestamp : U64) : U64 :=
  if caps.configIntervalLengthSeconds.val ≤ timestamp.val - caps.lastIntervalStartTimestamp.val
  then timestamp else caps.lastIntervalStartTimestamp

/-- What a call does, with nothing said of when it is accepted. -/
def counted (caps : WithdrawalCaps) (timestamp : U64) (total : I64) : WithdrawalCaps :=
  { caps with currentTotal := total, lastIntervalStartTimestamp := intervalAt caps timestamp }

theorem remaining_of_reset (helapsed : caps.configIntervalLengthSeconds.val ≤
    timestamp.val - caps.lastIntervalStartTimestamp.val) :
    remainingWithdrawalCapsAmount (resetCurrentIntervalAndCounter caps timestamp) timestamp =
      remainingWithdrawalCapsAmount caps timestamp := by
  have htotal : totalAt (resetCurrentIntervalAndCounter caps timestamp) timestamp =
      totalAt caps timestamp := by
    simp [totalAt, resetCurrentIntervalAndCounter, helapsed]
  simp only [remainingWithdrawalCapsAmount, htotal]
  rfl

/-- With an interval configured, exactly these calls are accepted. -/
theorem checkAndUpdate_eq_ok (hinterval : caps.configIntervalLengthSeconds.val ≠ 0) :
    checkAndUpdateWithdrawalCaps caps amount timestamp action = .ok caps' ↔
      caps.lastIntervalStartTimestamp ≤ timestamp ∧
      (action = .add → amount ≤ remainingWithdrawalCapsAmount caps timestamp) ∧
      amount.val < 2 ^ 63 ∧
      ∃ total : I64, total.val = totalAt caps timestamp + action.signed amount ∧
        caps' = counted caps timestamp total := by
  have hfits : (∃ x : I64, x.val = (amount.val : Int)) ↔ amount.val < 2 ^ 63 := by
    constructor
    · rintro ⟨x, hx⟩
      have := x.high
      omega
    · intro h
      exact ⟨⟨amount.val, by omega, by omega⟩, rfl⟩
  simp only [checkAndUpdateWithdrawalCaps, if_pos hinterval, checkLastIntervalElapsed,
    updateCounter, bind_eq_ok, require_eq_ok, fitI64_eq_ok, pure, Except.pure, Except.ok.injEq]
  by_cases helapsed : caps.configIntervalLengthSeconds.val ≤
      timestamp.val - caps.lastIntervalStartTimestamp.val
  · have hcounted (total : I64) : counted caps timestamp total =
        { resetCurrentIntervalAndCounter caps timestamp with currentTotal := total } := by
      simp [counted, intervalAt, helapsed, resetCurrentIntervalAndCounter]
    have htotal : totalAt caps timestamp = 0 := if_pos helapsed
    constructor
    · rintro ⟨_, ⟨_, hstart, rfl⟩, _, hcap, x, hx, total, hsum, rfl⟩
      simp only [helapsed, decide_true, if_true] at hcap hsum ⊢
      rw [remaining_of_reset helapsed] at hcap
      refine ⟨hstart, hcap, hfits.mp ⟨x, hx⟩, total, ?_, (hcounted total).symm⟩
      rw [htotal]
      exact hsum
    · rintro ⟨hstart, hcap, hamount, total, hsum, rfl⟩
      obtain ⟨x, hx⟩ := hfits.mpr hamount
      refine ⟨_, ⟨(), hstart, rfl⟩, (), ?_, x, hx, total, ?_, ?_⟩
      · simp only [helapsed, decide_true, if_true]
        rwa [remaining_of_reset helapsed]
      · simp only [helapsed, decide_true, if_true]
        rw [hsum, htotal]
        rfl
      · simp only [helapsed, decide_true, if_true]
        exact (hcounted total).symm
  · have hcounted (total : I64) : counted caps timestamp total =
        { caps with currentTotal := total } := by
      simp [counted, intervalAt, helapsed]
    have htotal : totalAt caps timestamp = caps.currentTotal.val := if_neg helapsed
    constructor
    · rintro ⟨_, ⟨_, hstart, rfl⟩, _, hcap, x, hx, total, hsum, rfl⟩
      simp only [helapsed, decide_false, Bool.false_eq_true, if_false] at hcap hsum ⊢
      exact ⟨hstart, hcap, hfits.mp ⟨x, hx⟩, total, by rw [htotal, hsum], (hcounted total).symm⟩
    · rintro ⟨hstart, hcap, hamount, total, hsum, rfl⟩
      obtain ⟨x, hx⟩ := hfits.mpr hamount
      refine ⟨_, ⟨(), hstart, rfl⟩, (), ?_, x, hx, total, ?_, ?_⟩
      · simpa only [helapsed, decide_false, Bool.false_eq_true, if_false] using hcap
      · simp only [helapsed, decide_false, Bool.false_eq_true, if_false]
        rw [hsum, htotal]
      · simp only [helapsed, decide_false, Bool.false_eq_true, if_false]
        exact (hcounted total).symm

/-- A positive amount within the remaining one keeps the counter within the capacity. -/
theorem total_le_capacity (hinterval : caps.configIntervalLengthSeconds.val ≠ 0)
    (hcap : amount ≤ remainingWithdrawalCapsAmount caps timestamp) (hpos : 0 < amount.val) :
    totalAt caps timestamp + amount.val ≤ caps.configCapacity.val := by
  have hle : amount.val ≤ (remainingWithdrawalCapsAmount caps timestamp).val := hcap
  unfold remainingWithdrawalCapsAmount at hle
  rw [if_neg hinterval] at hle
  split_ifs at hle <;> simp only at hle <;> omega

/-- The amount that is said to remain is accepted, and nothing above it. -/
theorem addToWithdrawalAccum_accepts (hinterval : caps.configIntervalLengthSeconds.val ≠ 0) :
    (∃ caps', addToWithdrawalAccum caps amount timestamp = .ok caps') ↔
      caps.lastIntervalStartTimestamp ≤ timestamp ∧
      amount ≤ remainingWithdrawalCapsAmount caps timestamp ∧ amount.val < 2 ^ 63 := by
  simp only [addToWithdrawalAccum, checkAndUpdate_eq_ok hinterval, forall_const]
  constructor
  · rintro ⟨_, hstart, hcap, hamount, -⟩
    exact ⟨hstart, hcap, hamount⟩
  · rintro ⟨hstart, hcap, hamount⟩
    have hbounds := totalAt_bounds caps timestamp
    have hhigh : totalAt caps timestamp + amount.val < 2 ^ 63 := by
      rcases Nat.eq_zero_or_pos amount.val with hzero | hpos
      · omega
      · exact (total_le_capacity hinterval hcap hpos).trans_lt caps.configCapacity.high
    exact ⟨_, hstart, hcap, hamount, ⟨_, by omega, hhigh⟩, rfl, rfl⟩

end Calls

section Runs

structure CapCall where
  action : WithdrawalCapAction
  amount : U64
  timestamp : U64

/-- An accepted call, and the interval it was counted in. -/
structure CapEntry where
  call : CapCall
  start : Nat

structure CapLog where
  caps : WithdrawalCaps
  accepted : List CapEntry

/-- A call that fails leaves the counter as it was. -/
def CapLog.call (log : CapLog) (c : CapCall) : CapLog :=
  match checkAndUpdateWithdrawalCaps log.caps c.amount c.timestamp c.action with
  | .ok caps => ⟨caps, log.accepted ++ [⟨c, caps.lastIntervalStartTimestamp.val⟩]⟩
  | .error _ => log

def capRun (caps : WithdrawalCaps) (calls : List CapCall) : CapLog :=
  calls.foldl CapLog.call ⟨caps, []⟩

/-- What left in the interval, less what came back. -/
def netIn (start : Nat) (entries : List CapEntry) : Int :=
  ((entries.filter fun e => e.start = start).map fun e => e.call.action.signed e.call.amount).sum

theorem netIn_append (start : Nat) (entries more : List CapEntry) :
    netIn start (entries ++ more) = netIn start entries + netIn start more := by
  simp [netIn]

theorem netIn_self (e : CapEntry) : netIn e.start [e] = e.call.action.signed e.call.amount := by
  simp [netIn]

theorem netIn_eq_zero {start : Nat} {entries : List CapEntry} (h : ∀ e ∈ entries, e.start ≠ start) :
    netIn start entries = 0 := by
  have hnil : entries.filter (fun e => e.start = start) = [] := by
    simpa [List.filter_eq_nil_iff] using h
  simp [netIn, hnil]

/-- Two intervals are one, or the later starts after the whole earlier one. -/
def Apart (length start start' : Nat) : Prop := start = start' ∨ start + length ≤ start'

/-- What holds of the counter between two calls. -/
structure Counted (caps₀ : WithdrawalCaps) (log : CapLog) : Prop where
  capacity : log.caps.configCapacity = caps₀.configCapacity
  interval : log.caps.configIntervalLengthSeconds = caps₀.configIntervalLengthSeconds
  total : log.caps.currentTotal.val =
    netIn log.caps.lastIntervalStartTimestamp.val log.accepted
  before : ∀ e ∈ log.accepted, Apart caps₀.configIntervalLengthSeconds.val e.start
    log.caps.lastIntervalStartTimestamp.val
  apart : log.accepted.Pairwise fun e f =>
    Apart caps₀.configIntervalLengthSeconds.val e.start f.start
  within : ∀ e ∈ log.accepted, e.start ≤ e.call.timestamp.val ∧
    e.call.timestamp.val < e.start + caps₀.configIntervalLengthSeconds.val
  capped : ∀ entries e, (entries ++ [e]) <+: log.accepted → e.call.action = .add →
    0 < e.call.amount.val → netIn e.start (entries ++ [e]) ≤ caps₀.configCapacity.val

variable {caps₀ : WithdrawalCaps} {log : CapLog}

/-- The calls of the interval that a new call falls into are those the counter has. -/
theorem Counted.totalAt_eq (h : Counted caps₀ log)
    (hinterval : caps₀.configIntervalLengthSeconds.val ≠ 0) {timestamp : U64} :
    totalAt log.caps timestamp = netIn (intervalAt log.caps timestamp).val log.accepted := by
  unfold totalAt intervalAt
  split
  · next helapsed =>
    rw [h.interval] at helapsed
    refine (netIn_eq_zero fun e he => ?_).symm
    rcases h.before e he with hsame | hearlier <;> omega
  · exact h.total

theorem Counted.apart_new (h : Counted caps₀ log)
    (hinterval : caps₀.configIntervalLengthSeconds.val ≠ 0) {timestamp : U64} {e : CapEntry}
    (he : e ∈ log.accepted) : Apart caps₀.configIntervalLengthSeconds.val e.start
      (intervalAt log.caps timestamp).val := by
  unfold intervalAt
  split
  · next helapsed =>
    rw [h.interval] at helapsed
    rcases h.before e he with hsame | hearlier <;> right <;> omega
  · exact h.before e he

theorem within_intervalAt {caps : WithdrawalCaps} {timestamp : U64}
    (hinterval : caps.configIntervalLengthSeconds.val ≠ 0)
    (hstart : caps.lastIntervalStartTimestamp ≤ timestamp) :
    (intervalAt caps timestamp).val ≤ timestamp.val ∧
      timestamp.val < (intervalAt caps timestamp).val + caps.configIntervalLengthSeconds.val := by
  have hle : caps.lastIntervalStartTimestamp.val ≤ timestamp.val := hstart
  unfold intervalAt
  split <;> omega

theorem Counted.call (h : Counted caps₀ log)
    (hinterval : caps₀.configIntervalLengthSeconds.val ≠ 0) (c : CapCall) :
    Counted caps₀ (log.call c) := by
  unfold CapLog.call
  split
  · next caps' hok =>
    have hinterval' : log.caps.configIntervalLengthSeconds.val ≠ 0 := by rwa [h.interval]
    obtain ⟨hstart, hcap, -, total, hsum, rfl⟩ := (checkAndUpdate_eq_ok hinterval').mp hok
    set e : CapEntry := ⟨c, (intervalAt log.caps c.timestamp).val⟩ with he
    have hnet : netIn e.start (log.accepted ++ [e]) = total.val := by
      rw [netIn_append, netIn_self, hsum, h.totalAt_eq hinterval]
    have hwithin := within_intervalAt hinterval' hstart
    rw [h.interval] at hwithin
    refine ⟨h.capacity, h.interval, hnet.symm, ?_, ?_, ?_, ?_⟩
    · intro f hf
      rcases List.mem_append.mp hf with hf | hf
      · exact h.apart_new hinterval hf
      · rw [List.mem_singleton.mp hf]
        exact .inl rfl
    · refine List.pairwise_append.mpr ⟨h.apart, List.pairwise_singleton _ _, ?_⟩
      intro f hf g hg
      rw [List.mem_singleton.mp hg]
      exact h.apart_new hinterval hf
    · intro f hf
      rcases List.mem_append.mp hf with hf | hf
      · exact h.within f hf
      · rw [List.mem_singleton.mp hf]
        exact hwithin
    · intro entries f hprefix hadd hpos
      rcases List.prefix_concat_iff.mp hprefix with heq | hbefore
      · obtain ⟨rfl, hf⟩ := List.append_inj' heq rfl
        obtain rfl : f = e := (List.cons.inj hf).1
        rw [hnet, hsum, ← h.capacity]
        have hsigned : c.action.signed c.amount = c.amount.val := by
          rw [show c.action = .add from hadd]
          rfl
        rw [hsigned]
        exact total_le_capacity hinterval' (hcap hadd) hpos
      · exact h.capped entries f hbefore hadd hpos
  · exact h

theorem counted_capRun (hinterval : caps₀.configIntervalLengthSeconds.val ≠ 0)
    (hfresh : caps₀.currentTotal.val = 0) (calls : List CapCall) :
    Counted caps₀ (capRun caps₀ calls) := by
  have hstart : Counted caps₀ ⟨caps₀, []⟩ :=
    ⟨rfl, rfl, by simp [netIn, hfresh], by simp, .nil, by simp, by simp⟩
  unfold capRun
  generalize (⟨caps₀, []⟩ : CapLog) = log at hstart
  induction calls generalizing log with
  | nil => exact hstart
  | cons c calls ih => exact ih _ (hstart.call hinterval c)

/-- What the cap is for. -/
structure StaysCapped (caps₀ : WithdrawalCaps) (log : CapLog) : Prop where
  apart : log.accepted.Pairwise fun e f =>
    Apart caps₀.configIntervalLengthSeconds.val e.start f.start
  within : ∀ e ∈ log.accepted, e.start ≤ e.call.timestamp.val ∧
    e.call.timestamp.val < e.start + caps₀.configIntervalLengthSeconds.val
  capped : ∀ entries e, (entries ++ [e]) <+: log.accepted → e.call.action = .add →
    0 < e.call.amount.val → netIn e.start (entries ++ [e]) ≤ caps₀.configCapacity.val
  remaining : ∀ amount timestamp,
    (∃ caps, addToWithdrawalAccum log.caps amount timestamp = .ok caps) ↔
      log.caps.lastIntervalStartTimestamp ≤ timestamp ∧
      amount ≤ remainingWithdrawalCapsAmount log.caps timestamp ∧ amount.val < 2 ^ 63

/-- However the calls come: the accepted ones fall into intervals that start at least a full
length apart, and at each accepted withdrawal the net outflow of its interval is within the
capacity. After them a withdrawal is accepted exactly when its amount is at most what the
reserve says remains (and fits the counter). -/
theorem withdrawals_stay_capped (caps₀ : WithdrawalCaps) (calls : List CapCall)
    (hinterval : caps₀.configIntervalLengthSeconds.val ≠ 0)
    (hfresh : caps₀.currentTotal.val = 0) : StaysCapped caps₀ (capRun caps₀ calls) := by
  have h := counted_capRun hinterval hfresh calls
  refine ⟨h.apart, h.within, h.capped, fun amount timestamp => ?_⟩
  exact addToWithdrawalAccum_accepts (by rwa [h.interval])

/-- A capacity of 100 in 60 seconds. -/
def sampleCaps : WithdrawalCaps where
  configCapacity := ⟨100, by decide, by decide⟩
  currentTotal := I64.clamp 0
  lastIntervalStartTimestamp := 0
  configIntervalLengthSeconds := 60

theorem withdrawals_stay_capped_sample :
    StaysCapped sampleCaps
      (capRun sampleCaps [⟨.add, 70, 10⟩, ⟨.add, 40, 20⟩, ⟨.remove, 20, 30⟩, ⟨.add, 90, 75⟩]) :=
  withdrawals_stay_capped sampleCaps _ (by decide) rfl

end Runs

end SolanaAuditor.Klend
