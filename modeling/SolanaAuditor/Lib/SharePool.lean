/- SolanaAuditor/Lib/SharePool
   digest: Assets divided into equal shares: what keeps a share from losing value. -/

import Mathlib.Algebra.Order.Ring.Defs
import Mathlib.Algebra.Order.Monoid.Unbundled.ExistsOfLE
import Mathlib.Logic.Relation
import Mathlib.Tactic.Linarith
import Mathlib.Tactic.Ring

set_option autoImplicit false
set_option relaxedAutoImplicit false

namespace SolanaAuditor.Lib.SharePool

variable {R : Type}

/-- Assets, and the number of equal shares that divide them. -/
@[ext]
structure Pool (R : Type) where
  assets : R
  shares : R

section Below

variable [CommRing R] [LinearOrder R] [IsStrictOrderedRing R] {p q r : Pool R} {a c : R}

/-- A share of `p` is worth at most a share of `q`. -/
def Pool.Below (p q : Pool R) : Prop := p.assets * q.shares ≤ q.assets * p.shares

theorem Pool.Below.trans (h : p.Below q) (h' : q.Below r) (hp : 0 ≤ p.shares)
    (hq : 0 < q.shares) (hr : 0 ≤ r.shares) : p.Below r := by
  have hleft : p.assets * r.shares * q.shares ≤ q.assets * p.shares * r.shares := by
    calc p.assets * r.shares * q.shares = p.assets * q.shares * r.shares := by ring
      _ ≤ q.assets * p.shares * r.shares := mul_le_mul_of_nonneg_right h hr
  have hright : q.assets * p.shares * r.shares ≤ r.assets * p.shares * q.shares := by
    calc q.assets * p.shares * r.shares = q.assets * r.shares * p.shares := by ring
      _ ≤ r.assets * q.shares * p.shares := mul_le_mul_of_nonneg_right h' hp
      _ = r.assets * p.shares * q.shares := by ring
  exact le_of_mul_le_mul_right (hleft.trans hright) hq

/-- Shares issued for at least their value. -/
theorem Pool.Below.of_mint (hassets : p.assets + a ≤ q.assets) (hshares : q.shares = p.shares + c)
    (hp : 0 ≤ p.shares) (h : c * p.assets ≤ a * p.shares) : p.Below q := by
  unfold Pool.Below
  have hq : (p.assets + a) * p.shares ≤ q.assets * p.shares := mul_le_mul_of_nonneg_right hassets hp
  rw [hshares]
  linarith

/-- Shares taken back for at most their value. -/
theorem Pool.Below.of_burn (hassets : p.assets ≤ q.assets + a) (hshares : q.shares + c = p.shares)
    (hp : 0 ≤ p.shares) (h : a * p.shares ≤ c * p.assets) : p.Below q := by
  unfold Pool.Below
  have hq : p.assets * p.shares ≤ (q.assets + a) * p.shares := mul_le_mul_of_nonneg_right hassets hp
  have hp' : p.assets * q.shares = p.assets * p.shares - c * p.assets := by
    rw [← hshares]
    ring
  linarith

/-- Assets added to the same shares. -/
theorem Pool.Below.of_gain (hassets : p.assets ≤ q.assets) (hshares : q.shares = p.shares)
    (hp : 0 ≤ p.shares) : p.Below q := by
  unfold Pool.Below
  rw [hshares]
  exact mul_le_mul_of_nonneg_right hassets hp

/-- Back at the same number of shares, nothing has left the pool. -/
theorem Pool.Below.assets_le (h : p.Below q) (hshares : q.shares = p.shares)
    (hp : 0 < p.shares) : p.assets ≤ q.assets := by
  unfold Pool.Below at h
  rw [hshares] at h
  exact le_of_mul_le_mul_right h hp

end Below

section Covered

variable [CommRing R] [LinearOrder R] [IsStrictOrderedRing R] {p q : Pool R} {unit : R}

/-- Each share is worth at least the unit. -/
def Pool.Covered (unit : R) (p : Pool R) : Prop := p.shares * unit ≤ p.assets

theorem Pool.Covered.of_below (h : p.Covered unit) (hb : p.Below q) (hp : 0 < p.shares)
    (hq : 0 ≤ q.shares) : q.Covered unit := by
  unfold Pool.Covered at *
  refine le_of_mul_le_mul_right ?_ hp
  calc q.shares * unit * p.shares = p.shares * unit * q.shares := by ring
    _ ≤ p.assets * q.shares := mul_le_mul_of_nonneg_right h hq
    _ ≤ q.assets * p.shares := hb

end Covered

section Moves

variable [CommRing R] [LinearOrder R] [IsStrictOrderedRing R] {p q r : Pool R} {unit : R}

/-- A share is worth something, and no assets are missing. -/
structure Pool.Healthy (p : Pool R) : Prop where
  assets : 0 ≤ p.assets
  shares : 0 ≤ p.shares
  backed : 0 < p.shares → 0 < p.assets

/-- The first shares cost one unit each. Later ones are issued for no less than they are worth,
and taken back for no more. Further assets may come in with either. -/
inductive Move (unit : R) (p q : Pool R) : Prop
  | gain (hassets : p.assets ≤ q.assets) (hshares : q.shares = p.shares)
  | first (n : R) (hn : 0 ≤ n) (hempty : p.shares = 0) (hassets : p.assets + n * unit ≤ q.assets)
      (hshares : q.shares = n)
  | mint (a c : R) (ha : 0 ≤ a) (hc : 0 ≤ c) (hassets : p.assets + a ≤ q.assets)
      (hshares : q.shares = p.shares + c) (hp : 0 < p.shares) (h : c * p.assets ≤ a * p.shares)
  | burn (a c : R) (hassets : p.assets ≤ q.assets + a) (hshares : q.shares + c = p.shares)
      (hq : 0 ≤ q.shares) (hp : 0 < p.shares) (h : a * p.shares ≤ c * p.assets)

/-- No move takes value from the shares that are outstanding. -/
theorem Move.below (h : Move unit p q) (hp : 0 < p.shares) : p.Below q := by
  cases h with
  | gain hassets hshares => exact .of_gain hassets hshares hp.le
  | first n _ hempty => exact absurd hempty hp.ne'
  | mint a c _ _ hassets hshares _ h => exact .of_mint hassets hshares hp.le h
  | burn a c hassets hshares _ _ h => exact .of_burn hassets hshares hp.le h

theorem Move.covered (h : Move unit p q) (hp : p.Healthy) (hc : p.Covered unit) :
    q.Covered unit := by
  cases h with
  | gain hassets hshares =>
    unfold Pool.Covered at *
    rw [hshares]
    exact hc.trans hassets
  | first n hn hempty hassets hshares =>
    unfold Pool.Covered
    rw [hshares]
    linarith [hp.assets]
  | mint a c _ hc' hassets hshares hpos h =>
    exact hc.of_below (.of_mint hassets hshares hpos.le h) hpos (by linarith)
  | burn a c hassets hshares hq hpos h =>
    exact hc.of_below (.of_burn hassets hshares hpos.le h) hpos hq

theorem Move.healthy (h : Move unit p q) (hunit : 0 < unit) (hp : p.Healthy) : q.Healthy := by
  cases h with
  | gain hassets hshares =>
    exact ⟨hp.assets.trans hassets, hshares ▸ hp.shares,
      fun hq => (hp.backed (hshares ▸ hq)).trans_le hassets⟩
  | first n hn hempty hassets hshares =>
    refine ⟨?_, hshares ▸ hn, fun hq => ?_⟩
    · exact (add_nonneg hp.assets (mul_nonneg hn hunit.le)).trans hassets
    · exact (add_pos_of_nonneg_of_pos hp.assets (mul_pos (hshares ▸ hq) hunit)).trans_le hassets
  | mint a c ha hc hassets hshares hpos h =>
    refine ⟨(add_nonneg hp.assets ha).trans hassets, ?_, fun _ => ?_⟩
    · rw [hshares]
      exact add_nonneg hp.shares hc
    · exact (add_pos_of_pos_of_nonneg (hp.backed hpos) ha).trans_le hassets
  | burn a c hassets hshares hq hpos h =>
    have hbelow : p.Below q := .of_burn hassets hshares hpos.le h
    refine ⟨?_, hq, fun hqpos => ?_⟩
    · exact nonneg_of_mul_nonneg_left ((mul_nonneg hp.assets hq).trans hbelow) hpos
    · exact pos_of_mul_pos_left ((mul_pos (hp.backed hpos) hqpos).trans_le hbelow) hpos.le

/-- Assets that come in after a move are part of it. -/
theorem Move.then_gain (h : Move unit p q) (hassets : q.assets ≤ r.assets)
    (hshares : r.shares = q.shares) : Move unit p r := by
  cases h with
  | gain ha hs => exact .gain (ha.trans hassets) (hshares.trans hs)
  | first n hn hempty ha hs => exact .first n hn hempty (ha.trans hassets) (hshares.trans hs)
  | mint a c ha hc hle hs hp h => exact .mint a c ha hc (hle.trans hassets) (hshares.trans hs) hp h
  | burn a c hle hs hq hp h =>
    exact .burn a c (by linarith) (by rw [hshares, hs]) (hshares ▸ hq) hp h

/-- So are assets that come in before it. -/
theorem Move.after_gain (h : Move unit q r) (hassets : p.assets ≤ q.assets)
    (hshares : q.shares = p.shares) : Move unit p r := by
  cases h with
  | gain ha hs => exact .gain (hassets.trans ha) (hs.trans hshares)
  | first n hn hempty ha hs =>
    exact .first n hn (hshares ▸ hempty) (by linarith) hs
  | mint a c ha hc hle hs hp h =>
    have hmul := mul_le_mul_of_nonneg_left hassets hc
    exact .mint a c ha hc (by linarith) (hshares ▸ hs) (hshares ▸ hp) (hshares ▸ hmul.trans h)
  | burn a c hle hs hq hp h =>
    -- The shares left gain from the assets too, so only their part can be asked back.
    have hmul := mul_le_mul_of_nonneg_left hassets hq
    refine .burn (a - (q.assets - p.assets)) c (by linarith) (hs.trans hshares) hq (hshares ▸ hp) ?_
    rw [← hshares]
    have hc : c = q.shares - r.shares := by linarith
    rw [hc] at h ⊢
    linarith

end Moves

section Runs

variable [CommRing R] [LinearOrder R] [IsStrictOrderedRing R] {p q : Pool R}

/-- Pools with shares throughout, each worth at most the next. -/
def Rises (p q : Pool R) : Prop := 0 < p.shares ∧ 0 < q.shares ∧ p.Below q

theorem below_of_rises (h : Relation.ReflTransGen Rises p q) (hp : 0 < p.shares) :
    p.Below q ∧ 0 < q.shares := by
  induction h with
  | refl => exact ⟨le_refl _, hp⟩
  | tail _ hstep ih =>
    obtain ⟨hmid, hlast, hb⟩ := hstep
    exact ⟨ih.1.trans hb hp.le hmid hlast.le, hlast⟩

theorem healthy_of_rises (h : Relation.ReflTransGen Rises p q) (hp : p.Healthy) : q.Healthy := by
  induction h with
  | refl => exact hp
  | tail _ hstep ih =>
    obtain ⟨hmid, hlast, hb⟩ := hstep
    have hassets := pos_of_mul_pos_left ((mul_pos (ih.backed hmid) hlast).trans_le hb) hmid.le
    exact ⟨hassets.le, hlast.le, fun _ => hassets⟩

end Runs

end SolanaAuditor.Lib.SharePool
