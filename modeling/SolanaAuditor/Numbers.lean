/- SolanaAuditor/Numbers
   digest: Python's numbers in exact arithmetic: sums, averages, maxima and rounding. -/

import SolanaAuditor.Python
import SolanaAuditor.Lib.Decimal

set_option autoImplicit false
set_option relaxedAutoImplicit false

namespace SolanaAuditor

open SolanaAuditor.Lib

namespace FloatValue

/-- The result of an operation on doubles, in exact arithmetic up to its overflow. -/
def ofRat (q : ℚ) : FloatValue :=
  if |q| < floatLimit then .finite q else if q < 0 then .negInf else .posInf

def neg : FloatValue → FloatValue
  | .finite q => .finite (-q)
  | .posInf => .negInf
  | .negInf => .posInf
  | .nan => .nan

def add : FloatValue → FloatValue → FloatValue
  | .finite p, .finite q => ofRat (p + q)
  | .nan, _ | _, .nan => .nan
  | .posInf, .negInf | .negInf, .posInf => .nan
  | .posInf, _ | _, .posInf => .posInf
  | .negInf, _ | _, .negInf => .negInf

/-- `x * k` for a positive number. -/
def times (k : ℚ) : FloatValue → FloatValue
  | .finite q => ofRat (q * k)
  | x => x

def lt : FloatValue → FloatValue → Bool
  | .finite p, .finite q => decide (p < q)
  | .nan, _ | _, .nan => false
  | .posInf, _ | _, .negInf => false
  | .negInf, _ | _, .posInf => true

/-- `x == y`, where `nan` is not equal to itself. -/
def eq (x y : FloatValue) : Bool := decide (x = y ∧ x ≠ .nan)

/-- `round(x, n)`, from the rounding of finite numbers. -/
def rounded (round : ℚ → ℚ) : FloatValue → FloatValue
  | .finite q => .finite (round q)
  | x => x

end FloatValue

/-- `float(x)` of any value, from `float()` of a text. -/
def pyFloat (parseFloat : String → Option FloatValue) : Json → Py FloatValue
  | .str s =>
      match parseFloat s with
      | some x => .ok x
      | none => .error .valueError
  | v => toFloat v

/-- A number of Python; a Boolean counts as an integer. -/
inductive PyNumber
  | int (n : Int)
  | float (x : FloatValue)

namespace PyNumber

/-- A value that is `isinstance(value, (int, float))`. -/
def ofJson : Json → Option PyNumber
  | .bool b => some (.int (if b then 1 else 0))
  | .int n => some (.int n)
  | .float x => some (.float x)
  | .null | .str _ | .arr _ | .obj _ => none

def toJson : PyNumber → Json
  | .int n => .int n
  | .float x => .float x

def toFloat : PyNumber → Py FloatValue
  | .int n => floatOfInt n
  | .float x => .ok x

/-- The value of a number where it is compared: exact for integers, too. -/
def value : PyNumber → FloatValue
  | .int n => .finite n
  | .float x => x

def add : PyNumber → PyNumber → Py PyNumber
  | .int m, .int n => return .int (m + n)
  | a, b => do return .float ((← a.toFloat).add (← b.toFloat))

def sub : PyNumber → PyNumber → Py PyNumber
  | .int m, .int n => return .int (m - n)
  | a, b => do return .float ((← a.toFloat).add (← b.toFloat).neg)

/-- `a / n` -/
def divNat : PyNumber → Nat → Py FloatValue
  | .int m, n =>
      if |(m : ℚ) / n| < floatLimit then .ok (.finite (m / n)) else .error .overflowError
  | .float x, n => .ok (x.times (1 / n))

/-- `sum(numbers)`, after a first part of the sum. -/
def sumFrom : PyNumber → List PyNumber → Py PyNumber
  | total, [] => return total
  | total, x :: xs => do sumFrom (← total.add x) xs

def sum (numbers : List PyNumber) : Py PyNumber := sumFrom (.int 0) numbers

/-- `max(numbers)`: the first of the greatest. -/
def maximum : PyNumber → List PyNumber → PyNumber
  | best, [] => best
  | best, x :: xs => maximum (if best.value.lt x.value then x else best) xs

/-- `round(x, n)`: an integer stays as it is. -/
def rounded (round : ℚ → ℚ) : PyNumber → PyNumber
  | .int n => .int n
  | .float x => .float (x.rounded round)

/-! When a sum returns: only an integer that is turned into a float can fail. -/

/-- Once a sum is a float, every integer that follows must have a float. -/
theorem sumFrom_float_returns {x : FloatValue} {numbers : List PyNumber} :
    (∃ total, sumFrom (.float x) numbers = .ok total) ↔
      ∀ n, PyNumber.int n ∈ numbers → n.natAbs < floatLimit := by
  induction numbers generalizing x with
  | nil => simp [sumFrom, pure, Except.pure]
  | cons y numbers ih =>
    cases y with
    | float y =>
      have hstep : (PyNumber.float x).add (.float y) = .ok (.float (x.add y)) := rfl
      simp only [sumFrom, hstep]
      refine Iff.trans ih ?_
      simp
    | int m =>
      by_cases hm : m.natAbs < floatLimit
      · have hstep : (PyNumber.float x).add (.int m) = .ok (.float (x.add (.finite m))) := by
          simp [add, toFloat, floatOfInt, hm, bind, Except.bind, pure, Except.pure]
        simp only [sumFrom, hstep]
        refine Iff.trans ih ?_
        simp [hm]
      · have hstep : (PyNumber.float x).add (.int m) = .error .overflowError := by
          simp [add, toFloat, floatOfInt, hm, bind, Except.bind]
        simp only [sumFrom, hstep]
        refine iff_of_false ?_ ?_
        · rintro ⟨total, h⟩
          simp [bind, Except.bind] at h
        · intro h
          exact hm (h m List.mem_cons_self)

/-- The integers before the first float, with the part of the sum before them, and each integer
after it have a float. -/
def Summable (start : Int) (numbers : List PyNumber) : Prop :=
  ∀ (ints : List Int) x rest, numbers = ints.map PyNumber.int ++ PyNumber.float x :: rest →
    (start + ints.sum).natAbs < floatLimit ∧ ∀ n, PyNumber.int n ∈ rest → n.natAbs < floatLimit

theorem sumFrom_int_returns {start : Int} {numbers : List PyNumber} :
    (∃ total, sumFrom (.int start) numbers = .ok total) ↔ Summable start numbers := by
  induction numbers generalizing start with
  | nil => simp [sumFrom, Summable, pure, Except.pure]
  | cons y numbers ih =>
    cases y with
    | int m =>
      have hstep : (PyNumber.int start).add (.int m) = .ok (.int (start + m)) := rfl
      simp only [sumFrom, hstep]
      refine Iff.trans ih ?_
      constructor
      · intro h ints x rest heq
        cases ints with
        | nil => simp at heq
        | cons n ints =>
          simp only [List.map_cons, List.cons_append, List.cons.injEq, PyNumber.int.injEq] at heq
          obtain ⟨rfl, heq⟩ := heq
          rw [List.sum_cons, ← Int.add_assoc]
          exact h ints x rest heq
      · intro h ints x rest heq
        have hsum := h (m :: ints) x rest (by rw [heq]; rfl)
        rwa [List.sum_cons, ← Int.add_assoc] at hsum
    | float y =>
      by_cases hs : start.natAbs < floatLimit
      · have hstep : (PyNumber.int start).add (.float y) =
            .ok (.float ((FloatValue.finite start).add y)) := by
          simp [add, toFloat, floatOfInt, hs, bind, Except.bind, pure, Except.pure]
        simp only [sumFrom, hstep]
        refine Iff.trans sumFrom_float_returns ?_
        constructor
        · intro h ints x rest heq
          cases ints with
          | nil =>
            obtain ⟨-, rfl⟩ := List.cons.inj heq
            exact ⟨by simpa using hs, h⟩
          | cons n ints => simp at heq
        · intro h
          exact (h [] y numbers rfl).2
      · have hstep : (PyNumber.int start).add (.float y) = .error .overflowError := by
          simp [add, toFloat, floatOfInt, hs, bind, Except.bind]
        simp only [sumFrom, hstep]
        refine iff_of_false ?_ ?_
        · rintro ⟨total, h⟩
          simp [bind, Except.bind] at h
        · intro h
          exact hs (by simpa using (h [] y numbers rfl).1)

theorem sum_returns {numbers : List PyNumber} :
    (∃ total, sum numbers = .ok total) ↔ Summable 0 numbers := sumFrom_int_returns

/-- The sum of integers alone is an integer. -/
theorem sumFrom_ints (start : Int) (ints : List Int) :
    sumFrom (.int start) (ints.map PyNumber.int) = .ok (.int (start + ints.sum)) := by
  induction ints generalizing start with
  | nil => simp [sumFrom, pure, Except.pure]
  | cons n ints ih =>
    have hstep : (PyNumber.int start).add (.int n) = .ok (.int (start + n)) := rfl
    rw [List.map_cons, sumFrom, hstep, List.sum_cons, ← Int.add_assoc]
    exact ih (start + n)

theorem add_float_right {a b : PyNumber} {x : FloatValue} (h : a.add (.float x) = .ok b) :
    ∃ y, b = .float y := by
  cases a with
  | int m =>
    simp only [add, Py.bind_eq_ok] at h
    obtain ⟨a, -, b, -, hsum⟩ := h
    exact ⟨_, (Except.ok.inj hsum).symm⟩
  | float z => exact ⟨_, (Except.ok.inj h).symm⟩

theorem add_float_left {a b : PyNumber} {x : FloatValue} (h : (PyNumber.float x).add a = .ok b) :
    ∃ y, b = .float y := by
  simp only [add, Py.bind_eq_ok] at h
  obtain ⟨a, -, b, -, hsum⟩ := h
  exact ⟨_, (Except.ok.inj hsum).symm⟩

theorem sumFrom_float_ok {x : FloatValue} {numbers : List PyNumber} {total : PyNumber}
    (h : sumFrom (.float x) numbers = .ok total) : ∃ y, total = .float y := by
  induction numbers generalizing x with
  | nil => exact ⟨x, (Except.ok.inj h).symm⟩
  | cons y numbers ih =>
    obtain ⟨next, hnext, hrest⟩ := Py.bind_eq_ok.mp h
    obtain ⟨z, rfl⟩ := add_float_left hnext
    exact ih hrest

/-- A sum with a float among its numbers is a float. -/
theorem sumFrom_of_float_mem {start total : PyNumber} {x : FloatValue} {numbers : List PyNumber}
    (h : sumFrom start numbers = .ok total) (hx : PyNumber.float x ∈ numbers) :
    ∃ y, total = .float y := by
  induction numbers generalizing start with
  | nil => simp at hx
  | cons number numbers ih =>
    obtain ⟨next, hnext, hrest⟩ := Py.bind_eq_ok.mp h
    rcases List.mem_cons.mp hx with rfl | hx
    · obtain ⟨y, rfl⟩ := add_float_right hnext
      exact sumFrom_float_ok hrest
    · exact ih hrest hx

/-- Numbers are integers alone, or a float follows some integers. -/
theorem ints_or_float (numbers : List PyNumber) :
    (∃ ints : List Int, numbers = ints.map PyNumber.int) ∨
      ∃ (ints : List Int) (x : FloatValue) (rest : List PyNumber),
        numbers = ints.map PyNumber.int ++ PyNumber.float x :: rest := by
  induction numbers with
  | nil => exact Or.inl ⟨[], rfl⟩
  | cons number numbers ih =>
    cases number with
    | float x => exact Or.inr ⟨[], x, numbers, rfl⟩
    | int n =>
      rcases ih with ⟨ints, rfl⟩ | ⟨ints, x, rest, rfl⟩
      · exact Or.inl ⟨n :: ints, rfl⟩
      · exact Or.inr ⟨n :: ints, x, rest, rfl⟩

/-- A sum is an integer exactly when it is one of integers alone. -/
theorem sum_int_iff {numbers : List PyNumber} {n : Int} :
    sum numbers = .ok (.int n) ↔ ∃ ints : List Int, numbers = ints.map PyNumber.int ∧
      ints.sum = n := by
  constructor
  · intro h
    rcases ints_or_float numbers with ⟨ints, rfl⟩ | ⟨ints, x, rest, rfl⟩
    · rw [sum, sumFrom_ints, Int.zero_add] at h
      exact ⟨ints, rfl, PyNumber.int.inj (Except.ok.inj h)⟩
    · obtain ⟨y, hy⟩ := sumFrom_of_float_mem (x := x) h (by simp)
      simp at hy
  · rintro ⟨ints, rfl, rfl⟩
    rw [sum, sumFrom_ints, Int.zero_add]

theorem sum_float_iff {numbers : List PyNumber} {total : PyNumber}
    (h : sum numbers = .ok total) :
    (∃ y, total = .float y) ↔ ∃ x, PyNumber.float x ∈ numbers := by
  constructor
  · rintro ⟨y, rfl⟩
    rcases ints_or_float numbers with ⟨ints, rfl⟩ | ⟨ints, x, rest, rfl⟩
    · have hint := sum_int_iff.mpr ⟨ints, rfl, rfl⟩
      simp [hint] at h
    · exact ⟨x, by simp⟩
  · rintro ⟨x, hx⟩
    exact sumFrom_of_float_mem h hx

theorem rounded_eq_int {round : ℚ → ℚ} {a : PyNumber} {n : Int} :
    a.rounded round = .int n ↔ a = .int n := by
  cases a <;> simp [rounded]

theorem rounded_eq_float {round : ℚ → ℚ} {a : PyNumber} :
    (∃ x, a.rounded round = .float x) ↔ ∃ x, a = .float x := by
  cases a <;> simp [rounded]

/-- An integer sum of the first numbers has a float where the second ones have one. -/
def Comparable (xs ys : List PyNumber) : Prop :=
  ∀ ints : List Int, xs = ints.map PyNumber.int → (∃ y, PyNumber.float y ∈ ys) →
    ints.sum.natAbs < floatLimit

theorem comparable_iff {xs ys : List PyNumber} {a b : PyNumber} (round : ℚ → ℚ)
    (ha : sum xs = .ok a) (hb : sum ys = .ok b) :
    Comparable xs ys ↔ ∀ n y, a.rounded round = .int n → b.rounded round = .float y →
      n.natAbs < floatLimit := by
  constructor
  · intro h n y hn hy
    obtain rfl := rounded_eq_int.mp hn
    obtain ⟨ints, hints, rfl⟩ := sum_int_iff.mp ha
    exact h ints hints ((sum_float_iff hb).mp (rounded_eq_float.mp ⟨y, hy⟩))
  · intro h ints hints hfloat
    have hint := sum_int_iff.mpr ⟨ints, hints, rfl⟩
    obtain rfl := Except.ok.inj (ha.symm.trans hint)
    obtain ⟨y, hy⟩ := rounded_eq_float.mpr ((sum_float_iff hb).mpr hfloat)
    exact h _ y rfl hy

theorem sub_returns {a b : PyNumber} :
    (∃ d, a.sub b = .ok d) ↔
      (∀ n x, a = .int n → b = .float x → n.natAbs < floatLimit) ∧
      (∀ n x, b = .int n → a = .float x → n.natAbs < floatLimit) := by
  cases a with
  | int m =>
    cases b with
    | int n => exact iff_of_true ⟨_, rfl⟩ ⟨by simp, by simp⟩
    | float y =>
      by_cases hm : m.natAbs < floatLimit
      · simp [sub, toFloat, floatOfInt, hm, bind, Except.bind, pure, Except.pure]
      · simp [sub, toFloat, floatOfInt, hm, bind, Except.bind]
  | float x =>
    cases b with
    | int n =>
      by_cases hn : n.natAbs < floatLimit
      · simp [sub, toFloat, floatOfInt, hn, bind, Except.bind, pure, Except.pure]
      · simp [sub, toFloat, floatOfInt, hn, bind, Except.bind]
    | float y => exact iff_of_true ⟨_, rfl⟩ ⟨by simp, by simp⟩

/-! Numbers whose integers are small in all: every part of them, in any order, has a sum. -/

def mass : List PyNumber → Nat
  | [] => 0
  | .int n :: numbers => n.natAbs + mass numbers
  | .float _ :: numbers => mass numbers

theorem natAbs_le_mass {n : Int} {numbers : List PyNumber} (h : PyNumber.int n ∈ numbers) :
    n.natAbs ≤ mass numbers := by
  induction numbers with
  | nil => simp at h
  | cons number numbers ih =>
    rcases List.mem_cons.mp h with rfl | htail
    · exact Nat.le_add_right _ _
    · cases number with
      | int m => exact (ih htail).trans (Nat.le_add_left _ _)
      | float x => exact ih htail

theorem natAbs_sum_le_mass (ints : List Int) (rest : List PyNumber) :
    ints.sum.natAbs + mass rest ≤ mass (ints.map PyNumber.int ++ rest) := by
  induction ints with
  | nil => simp
  | cons n ints ih =>
    rw [List.sum_cons, List.map_cons, List.cons_append, mass]
    omega

theorem summable_of_mass {numbers : List PyNumber} (h : mass numbers < floatLimit) :
    Summable 0 numbers := by
  rintro ints x rest rfl
  have hle := natAbs_sum_le_mass ints (.float x :: rest)
  rw [mass] at hle
  refine ⟨by omega, fun n hn => ?_⟩
  have hn' := natAbs_le_mass hn
  omega

theorem mass_perm {xs ys : List PyNumber} (h : xs.Perm ys) : mass xs = mass ys := by
  induction h with
  | nil => rfl
  | cons x _ ih => cases x <;> simp [mass, ih]
  | swap x y _ =>
    cases x <;> cases y <;> simp only [mass]
    omega
  | trans _ _ ih ih' => exact ih.trans ih'

theorem mass_sublist {xs ys : List PyNumber} (h : xs.Sublist ys) : mass xs ≤ mass ys := by
  induction h with
  | slnil => exact Nat.le_refl _
  | cons x _ ih => cases x <;> simp only [mass] <;> omega
  | cons_cons x _ ih => cases x <;> simp only [mass] <;> omega

end PyNumber

end SolanaAuditor
