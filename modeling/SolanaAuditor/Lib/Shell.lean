/- SolanaAuditor/Lib/Shell
   digest: Programs over atomic operations, their solo runs and their interleavings. -/

import Mathlib.Logic.Function.Basic
import Mathlib.Data.List.Basic

set_option autoImplicit false
set_option relaxedAutoImplicit false

namespace SolanaAuditor.Lib.Shell

/-- A script returns a value, ends the shell with an exit code, or performs one
atomic operation and goes on from its reply. -/
inductive Script (Op : Type) (Reply : Op → Type) (α : Type) : Type where
  | done (a : α) : Script Op Reply α
  | exit (code : Nat) : Script Op Reply α
  | act (o : Op) (k : Reply o → Script Op Reply α) : Script Op Reply α

variable {Op : Type} {Reply : Op → Type} {α β σ : Type}

/-- Sequencing: an exit skips everything after it. -/
def Script.bind : Script Op Reply α → (α → Script Op Reply β) → Script Op Reply β
  | .done a, f => f a
  | .exit n, _ => .exit n
  | .act o k, f => .act o (fun r => (k r).bind f)

instance : Monad (Script Op Reply) where
  pure := .done
  bind := .bind

@[simp] theorem pure_eq (a : α) : (pure a : Script Op Reply α) = .done a := rfl

@[simp] theorem bind_eq (x : Script Op Reply α) (f : α → Script Op Reply β) :
    x >>= f = x.bind f := rfl

@[simp] theorem bind_done (a : α) (f : α → Script Op Reply β) :
    (Script.done a).bind f = f a := rfl

@[simp] theorem bind_exit (n : Nat) (f : α → Script Op Reply β) :
    (Script.exit n : Script Op Reply α).bind f = .exit n := rfl

@[simp] theorem bind_act (o : Op) (k : Reply o → Script Op Reply α) (f : α → Script Op Reply β) :
    (Script.act o k).bind f = .act o (fun r => (k r).bind f) := rfl

/-- A simple command under `set -e`: a status other than 0 ends the shell. -/
def errexit (status : Nat) : Script Op Reply Unit :=
  if status = 0 then .done () else .exit status

def arithStatus (v : Nat) : Nat := if v = 0 then 1 else 0

/-- `((x++))` as a simple command under `set -e`: its value is the old `x`. -/
def postIncrement (x : Nat) : Script Op Reply Nat := do
  errexit (arithStatus x)
  return x + 1

@[simp] theorem postIncrement_zero :
    (postIncrement 0 : Script Op Reply Nat) = .exit 1 := rfl

@[simp] theorem postIncrement_succ (x : Nat) :
    (postIncrement (x + 1) : Script Op Reply Nat) = .done (x + 2) := rfl

/-- How a script ends: with a value, or with the shell gone at an exit code. -/
abbrev Ending (α : Type) := Except Nat α

def Script.run (answer : σ → (o : Op) → Reply o × σ) : Script Op Reply α → σ → Ending α × σ
  | .done a, s => (.ok a, s)
  | .exit n, s => (.error n, s)
  | .act o k, s => (k (answer s o).1).run answer (answer s o).2

section Solo

variable (answer : σ → (o : Op) → Reply o × σ)

@[simp] theorem run_done (a : α) (s : σ) :
    (Script.done a : Script Op Reply α).run answer s = (.ok a, s) := rfl

@[simp] theorem run_exit (n : Nat) (s : σ) :
    (Script.exit n : Script Op Reply α).run answer s = (.error n, s) := rfl

@[simp] theorem run_act (o : Op) (k : Reply o → Script Op Reply α) (s : σ) :
    (Script.act o k).run answer s = (k (answer s o).1).run answer (answer s o).2 := rfl

theorem run_bind (x : Script Op Reply α) (f : α → Script Op Reply β) (s : σ) :
    (x.bind f).run answer s =
      match x.run answer s with
      | (.ok a, t) => (f a).run answer t
      | (.error n, t) => (.error n, t) := by
  induction x generalizing s with
  | done a => rfl
  | exit n => rfl
  | act o k ih => exact ih (answer s o).1 (answer s o).2

theorem run_bind_ok {x : Script Op Reply α} {f : α → Script Op Reply β} {s t : σ} {a : α}
    (h : x.run answer s = (.ok a, t)) : (x.bind f).run answer s = (f a).run answer t := by
  rw [run_bind, h]

end Solo

/-- The exit code of the shell that runs a script whose value is a status. -/
def exitCode : Ending Nat → Nat
  | .ok status => status
  | .error code => code

/-! Several scripts share one state. A schedule names, step by step, the script that
performs its next operation; a script that has ended ignores its turns. -/

section Interleaving

variable {ι : Type} [DecidableEq ι]

/-- The scripts still to be run, and the state they share. -/
structure Config (ι Op : Type) (Reply : Op → Type) (α σ : Type) where
  procs : ι → Script Op Reply α
  shared : σ

variable (answer : ι → σ → (o : Op) → Reply o × σ)

/-- One atomic step of script `i`. -/
def stepAt (c : Config ι Op Reply α σ) (i : ι) : Config ι Op Reply α σ :=
  match c.procs i with
  | .done _ => c
  | .exit _ => c
  | .act o k =>
      { procs := Function.update c.procs i (k (answer i c.shared o).1)
        shared := (answer i c.shared o).2 }

theorem stepAt_done {c : Config ι Op Reply α σ} {i : ι} {a : α}
    (h : c.procs i = .done a) : stepAt answer c i = c := by simp only [stepAt, h]

theorem stepAt_exit {c : Config ι Op Reply α σ} {i : ι} {n : Nat}
    (h : c.procs i = .exit n) : stepAt answer c i = c := by simp only [stepAt, h]

theorem stepAt_act {c : Config ι Op Reply α σ} {i : ι} {o : Op} {k : Reply o → Script Op Reply α}
    (h : c.procs i = .act o k) :
    stepAt answer c i =
      { procs := Function.update c.procs i (k (answer i c.shared o).1)
        shared := (answer i c.shared o).2 } := by simp only [stepAt, h]

def runSchedule (c : Config ι Op Reply α σ) (schedule : List ι) : Config ι Op Reply α σ :=
  schedule.foldl (stepAt answer) c

/-- Every operation of the interleaving is performed in a state that the guard allows. -/
def Guarded (guard : ι → σ → Op → Prop) : Config ι Op Reply α σ → List ι → Prop
  | _, [] => True
  | c, i :: rest =>
      (∀ o k, c.procs i = .act o k → guard i c.shared o) ∧
        Guarded guard (stepAt answer c i) rest

/-- A guard that allows everything excludes no schedule. -/
theorem guarded_of_forall {guard : ι → σ → Op → Prop} (h : ∀ i s o, guard i s o)
    (c : Config ι Op Reply α σ) (schedule : List ι) : Guarded answer guard c schedule := by
  induction schedule generalizing c with
  | nil => trivial
  | cons i rest ih => exact ⟨fun o _ _ => h i c.shared o, ih _⟩

instance decidableGuarded (guard : ι → σ → Op → Prop) [∀ i s o, Decidable (guard i s o)] :
    ∀ (c : Config ι Op Reply α σ) (schedule : List ι), Decidable (Guarded answer guard c schedule)
  | _, [] => isTrue trivial
  | c, i :: rest =>
      have := decidableGuarded guard (stepAt answer c i) rest
      have : Decidable (∀ o k, c.procs i = .act o k → guard i c.shared o) :=
        match c.procs i with
        | .done _ => isTrue (by simp)
        | .exit _ => isTrue (by simp)
        | .act o _ => decidable_of_iff (guard i c.shared o) ⟨by rintro h _ _ ⟨⟩; exact h,
            fun h => h _ _ rfl⟩
      inferInstanceAs (Decidable (_ ∧ _))

end Interleaving

end SolanaAuditor.Lib.Shell
