/- SolanaAuditor/Lib/CheckedWords
   digest: Machine words, arithmetic that gives up instead of wrapping, and its rounding. -/

import Mathlib.Algebra.Order.Floor.Div

set_option autoImplicit false
set_option relaxedAutoImplicit false

namespace SolanaAuditor.Lib.CheckedWords

section Checks

/-- An unsigned word of `w` bits. -/
abbrev Word (w : Nat) := Fin (2 ^ w)

variable {ε α β : Type}

theorem bind_eq_ok {x : Except ε α} {f : α → Except ε β} {b : β} :
    x >>= f = .ok b ↔ ∃ a, x = .ok a ∧ f a = .ok b := by
  cases x <;> simp [bind, Except.bind]

/-- The number as a word, or the fault when the word is too narrow. -/
def fit (fault : ε) (w n : Nat) : Except ε (Word w) :=
  if h : n < 2 ^ w then .ok ⟨n, h⟩ else .error fault

theorem fit_eq_ok {fault : ε} {w n : Nat} {x : Word w} : fit fault w n = .ok x ↔ x.val = n := by
  unfold fit
  split
  · next h => simp [Fin.ext_iff, eq_comm]
  · next h =>
    simp only [reduceCtorEq, false_iff]
    rintro rfl
    exact h x.isLt

theorem fit_isOk {fault : ε} {w n : Nat} (h : n < 2 ^ w) : fit fault w n = .ok ⟨n, h⟩ := dif_pos h

def minus (fault : ε) (a b : Nat) : Except ε Nat := if b ≤ a then .ok (a - b) else .error fault

theorem minus_eq_ok {fault : ε} {a b c : Nat} : minus fault a b = .ok c ↔ c + b = a := by
  unfold minus
  split
  · simp only [Except.ok.injEq]
    omega
  · simp only [reduceCtorEq, false_iff]
    omega

def divide (fault : ε) (a b : Nat) : Except ε Nat := if b = 0 then .error fault else .ok (a / b)

theorem divide_eq_ok {fault : ε} {a b c : Nat} : divide fault a b = .ok c ↔ 0 < b ∧ a / b = c := by
  unfold divide
  split
  · simp only [reduceCtorEq, false_iff, not_and]
    omega
  · simp only [Except.ok.injEq, Nat.pos_iff_ne_zero]
    tauto

def require (fault : ε) (p : Prop) [Decidable p] : Except ε Unit :=
  if p then .ok () else .error fault

theorem require_eq_ok {fault : ε} {p : Prop} [Decidable p] {u : Unit} :
    require fault p = .ok u ↔ p := by
  unfold require
  split <;> simp_all

end Checks

section Rounding

/-- Two ceilings in a row are the ceiling of the whole division. -/
theorem ceilDiv_ceilDiv (n : Nat) {a b : Nat} (ha : 0 < a) (hb : 0 < b) :
    (n ⌈/⌉ a) ⌈/⌉ b = n ⌈/⌉ (a * b) := by
  apply eq_of_forall_ge_iff
  intro k
  rw [ceilDiv_le_iff_le_mul hb, ceilDiv_le_iff_le_mul ha,
    ceilDiv_le_iff_le_mul (Nat.mul_pos ha hb), Nat.mul_assoc]

/-- The ceiling of a multiple divides the factor out. -/
theorem mul_ceilDiv_mul (n : Nat) {a b : Nat} (ha : 0 < a) (hb : 0 < b) :
    (n * b) ⌈/⌉ (a * b) = n ⌈/⌉ a := by
  apply eq_of_forall_ge_iff
  intro k
  rw [ceilDiv_le_iff_le_mul ha, ceilDiv_le_iff_le_mul (Nat.mul_pos ha hb),
    Nat.mul_right_comm, Nat.mul_le_mul_right_iff hb]

theorem le_ceilDiv_mul (n : Nat) {a : Nat} (ha : 0 < a) : n ≤ (n ⌈/⌉ a) * a := by
  rw [Nat.mul_comm]
  exact (ceilDiv_le_iff_le_mul ha).mp le_rfl

end Rounding

end SolanaAuditor.Lib.CheckedWords
