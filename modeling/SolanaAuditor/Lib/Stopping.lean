/- SolanaAuditor/Lib/Stopping
   digest: Solo runs stopped after any number of operations, and what always holds in them. -/

import SolanaAuditor.Lib.Shell

set_option autoImplicit false
set_option relaxedAutoImplicit false

namespace SolanaAuditor.Lib.Stopping

open SolanaAuditor.Lib.Shell

variable {Op : Type} {Reply : Op → Type} {α β σ : Type}

section Defs

variable (answer : σ → (o : Op) → Reply o × σ)

/-- The state after at most `n` operations of a run. -/
def stopped : Nat → Script Op Reply α → σ → σ
  | _, .done _, s => s
  | _, .exit _, s => s
  | 0, .act _ _, s => s
  | n + 1, .act o k, s => stopped n (k (answer s o).1) (answer s o).2

/-- `P` holds in every state that a run goes through, from the first to the last. -/
def Always (P : σ → Prop) : Script Op Reply α → σ → Prop
  | .done _, s => P s
  | .exit _, s => P s
  | .act o k, s => P s ∧ Always P (k (answer s o).1) (answer s o).2

/-- Every operation of the script is an allowed one, whatever the replies are. -/
def Only (allowed : Op → Prop) : Script Op Reply α → Prop
  | .done _ => True
  | .exit _ => True
  | .act o k => allowed o ∧ ∀ r, Only allowed (k r)

end Defs

section Rules

variable {answer : σ → (o : Op) → Reply o × σ} {P Q : σ → Prop} {x : Script Op Reply α} {s : σ}

@[simp] theorem always_done (a : α) :
    Always answer P (.done a : Script Op Reply α) s ↔ P s := Iff.rfl

@[simp] theorem always_exit (n : Nat) :
    Always answer P (.exit n : Script Op Reply α) s ↔ P s := Iff.rfl

@[simp] theorem always_act (o : Op) (k : Reply o → Script Op Reply α) :
    Always answer P (.act o k) s ↔
      P s ∧ Always answer P (k (answer s o).1) (answer s o).2 := Iff.rfl

theorem Always.first (h : Always answer P x s) : P s := by
  cases x with
  | done a => exact h
  | exit n => exact h
  | act o k => exact h.1

theorem Always.last (h : Always answer P x s) : P (x.run answer s).2 := by
  induction x generalizing s with
  | done a => exact h
  | exit n => exact h
  | act o k ih => exact ih (answer s o).1 h.2

/-- What always holds in a run holds wherever the run is stopped. -/
theorem Always.stopped (h : Always answer P x s) (n : Nat) : P (stopped answer n x s) := by
  induction n generalizing x s with
  | zero => cases x <;> exact h.first
  | succ n ih =>
    cases x with
    | done a => exact h
    | exit m => exact h
    | act o k => exact ih h.2

theorem Always.mono (h : Always answer P x s) (hPQ : ∀ t, P t → Q t) : Always answer Q x s := by
  induction x generalizing s with
  | done a => exact hPQ s h
  | exit n => exact hPQ s h
  | act o k ih => exact ⟨hPQ s h.1, ih (answer s o).1 h.2⟩

/-- Sequencing: the second part starts where the first one ended. -/
theorem Always.bind {f : α → Script Op Reply β} (hx : Always answer P x s)
    (hf : ∀ a t, x.run answer s = (.ok a, t) → Always answer P (f a) t) :
    Always answer P (x.bind f) s := by
  induction x generalizing s with
  | done a => exact hf a s rfl
  | exit n => exact hx
  | act o k ih => exact ⟨hx.1, ih (answer s o).1 hx.2 hf⟩

theorem Only.bind {allowed : Op → Prop} {f : α → Script Op Reply β} (hx : Only allowed x)
    (hf : ∀ a, Only allowed (f a)) : Only allowed (x.bind f) := by
  induction x with
  | done a => exact hf a
  | exit n => trivial
  | act o k ih => exact ⟨hx.1, fun r => ih r (hx.2 r)⟩

/-- What the allowed operations keep always holds. -/
theorem Only.always {allowed : Op → Prop} (h : Only allowed x)
    (hkeep : ∀ o t, allowed o → P t → P (answer t o).2) (hs : P s) : Always answer P x s := by
  induction x generalizing s with
  | done a => exact hs
  | exit n => exact hs
  | act o k ih => exact ⟨hs, ih (answer s o).1 (h.2 _) (hkeep o s h.1 hs)⟩

end Rules

end SolanaAuditor.Lib.Stopping
