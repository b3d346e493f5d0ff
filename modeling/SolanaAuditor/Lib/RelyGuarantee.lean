/- SolanaAuditor/Lib/RelyGuarantee
   digest: Rely-guarantee triples for interleaved scripts, with their rules and soundness. -/

import SolanaAuditor.Lib.Stopping

set_option autoImplicit false
set_option relaxedAutoImplicit false

namespace SolanaAuditor.Lib.RelyGuarantee

open SolanaAuditor.Lib.Shell SolanaAuditor.Lib.Stopping

variable {ι Op : Type} {Reply : Op → Type} {α β σ : Type}

/-- What a group of scripts keeps to: an invariant of the shared state, the states in
which an operation may be performed, and the transitions each script may cause. -/
structure Discipline (ι Op σ : Type) where
  inv : σ → Prop
  guard : ι → σ → Op → Prop
  guar : ι → σ → σ → Prop

/-- An assertion of script `i` that no transition of another script can falsify. -/
def Stable (D : Discipline ι Op σ) (i : ι) (A : σ → Prop) : Prop :=
  ∀ j, j ≠ i → ∀ s t, D.inv s → D.inv t → A s → D.guar j s t → A t

theorem Stable.and {D : Discipline ι Op σ} {i : ι} {A B : σ → Prop} (hA : Stable D i A)
    (hB : Stable D i B) : Stable D i (fun s => A s ∧ B s) :=
  fun j hj s t hs ht h hg => ⟨hA j hj s t hs ht h.1 hg, hB j hj s t hs ht h.2 hg⟩

theorem Stable.imp {D : Discipline ι Op σ} {i : ι} {A : σ → Prop} (p : Prop)
    (hA : Stable D i A) : Stable D i (fun s => p → A s) :=
  fun j hj s t hs ht h hg hp => hA j hj s t hs ht (h hp) hg

variable (answer : ι → σ → (o : Op) → Reply o × σ) (D : Discipline ι Op σ)

/-- From a state with `A`, script `i` keeps the invariant and its guarantee at every
operation, knows a stable assertion after each, and ends with `Q`. -/
def Triple (i : ι) : (σ → Prop) → Script Op Reply α → (Ending α → σ → Prop) → Prop
  | A, .done a, Q => ∀ s, D.inv s → A s → Q (.ok a) s
  | A, .exit n, Q => ∀ s, D.inv s → A s → Q (.error n) s
  | A, .act o k, Q =>
      ∀ s, D.inv s → A s → D.guard i s o →
        D.inv (answer i s o).2 ∧ D.guar i s (answer i s o).2 ∧
          ∃ B : σ → Prop, Stable D i B ∧ B (answer i s o).2 ∧
            Triple i B (k (answer i s o).1) Q

variable {answer D} {i : ι}

theorem Triple.strengthen {A B : σ → Prop} {x : Script Op Reply α} {Q : Ending α → σ → Prop}
    (h : Triple answer D i B x Q) (hAB : ∀ s, D.inv s → A s → B s) :
    Triple answer D i A x Q := by
  cases x with
  | done a => exact fun s hs hA => h s hs (hAB s hs hA)
  | exit n => exact fun s hs hA => h s hs (hAB s hs hA)
  | act o k => exact fun s hs hA => h s hs (hAB s hs hA)

/-- Sequencing: what the first part ends with is what the second starts from. -/
theorem Triple.bind {A : σ → Prop} {x : Script Op Reply α} {f : α → Script Op Reply β}
    {Q : Ending α → σ → Prop} {R : Ending β → σ → Prop}
    (hx : Triple answer D i A x Q)
    (hf : ∀ a, Triple answer D i (Q (.ok a)) (f a) R)
    (he : ∀ n s, D.inv s → Q (.error n) s → R (.error n) s) :
    Triple answer D i A (x.bind f) R := by
  induction x generalizing A with
  | done a => exact (hf a).strengthen hx
  | exit n => exact fun s hs hA => he n s hs (hx s hs hA)
  | act o k ih =>
    intro s hs hA hg
    obtain ⟨hinv, hguar, B, hB, hBs, ht⟩ := hx s hs hA hg
    exact ⟨hinv, hguar, B, hB, hBs, ih _ ht⟩

theorem Triple.ite {A : σ → Prop} {c : Prop} [Decidable c] {x y : Script Op Reply α}
    {Q : Ending α → σ → Prop} (hx : c → Triple answer D i A x Q)
    (hy : ¬ c → Triple answer D i A y Q) :
    Triple answer D i A (if c then x else y) Q := by
  by_cases hc : c
  · rw [if_pos hc]
    exact hx hc
  · rw [if_neg hc]
    exact hy hc

/-- A command under `set -e` whose status is known to be 0. -/
theorem Triple.errexit {A : σ → Prop} {status : Nat} {x : Script Op Reply α}
    {Q : Ending α → σ → Prop} (h0 : ∀ s, D.inv s → A s → status = 0)
    (hx : Triple answer D i A x Q) :
    Triple answer D i A ((Shell.errexit status).bind fun _ => x) Q := by
  by_cases h : status = 0
  · subst h
    exact hx
  · simp only [Shell.errexit, if_neg h, bind_exit]
    exact fun s hs hA => absurd (h0 s hs hA) h

/-- A script of allowed operations keeps a stable assertion that each of them keeps. -/
theorem Triple.of_only {A : σ → Prop} {x : Script Op Reply α} {allowed : Op → Prop}
    (hx : Only allowed x) (hA : Stable D i A)
    (hkeep : ∀ o s, allowed o → D.inv s → A s →
      D.inv (answer i s o).2 ∧ D.guar i s (answer i s o).2 ∧ A (answer i s o).2) :
    Triple answer D i A x (fun _ s => A s) := by
  induction x with
  | done a => exact fun s _ hs => hs
  | exit n => exact fun s _ hs => hs
  | act o k ih =>
    intro s hinv hs _
    obtain ⟨hinv', hguar, hs'⟩ := hkeep o s hx.1 hinv hs
    exact ⟨hinv', hguar, A, hA, hs', ih _ (hx.2 _)⟩

theorem Triple.weaken {A : σ → Prop} {x : Script Op Reply α} {Q R : Ending α → σ → Prop}
    (h : Triple answer D i A x Q) (hQR : ∀ e s, D.inv s → Q e s → R e s) :
    Triple answer D i A x R := by
  induction x generalizing A with
  | done a => exact fun s hs hA => hQR _ s hs (h s hs hA)
  | exit n => exact fun s hs hA => hQR _ s hs (h s hs hA)
  | act o k ih =>
    intro s hs hA hg
    obtain ⟨hinv, hguar, B, hB, hBs, ht⟩ := h s hs hA hg
    exact ⟨hinv, hguar, B, hB, hBs, ih _ ht⟩

/-- What the processes of an interleaving know while it runs. -/
def Supported (answer : ι → σ → (o : Op) → Reply o × σ) (D : Discipline ι Op σ)
    (Q : ι → Ending α → σ → Prop) (c : Config ι Op Reply α σ) : Prop :=
  D.inv c.shared ∧
    ∀ i, ∃ A : σ → Prop, Stable D i A ∧ A c.shared ∧ Triple answer D i A (c.procs i) (Q i)

/-- A script that has returned meets its postcondition in the state reached. -/
theorem Supported.returned {Q : ι → Ending α → σ → Prop} {c : Config ι Op Reply α σ}
    (h : Supported answer D Q c) {i : ι} {a : α} (hp : c.procs i = .done a) :
    Q i (.ok a) c.shared := by
  obtain ⟨A, -, hA, ht⟩ := h.2 i
  rw [hp] at ht
  exact ht c.shared h.1 hA

variable [DecidableEq ι]

/-- One guarded step keeps what every script knows. -/
theorem Supported.step {Q : ι → Ending α → σ → Prop} {c : Config ι Op Reply α σ}
    (h : Supported answer D Q c) (i : ι)
    (hg : ∀ o k, c.procs i = .act o k → D.guard i c.shared o) :
    Supported answer D Q (stepAt answer c i) := by
  cases hp : c.procs i with
  | done a =>
    rw [stepAt_done answer hp]
    exact h
  | exit n =>
    rw [stepAt_exit answer hp]
    exact h
  | act o k =>
    obtain ⟨hinv, hknow⟩ := h
    obtain ⟨A, -, hA, ht⟩ := hknow i
    rw [hp] at ht
    obtain ⟨hinv', hguar, B, hB, hBs, ht'⟩ := ht c.shared hinv hA (hg o k hp)
    rw [stepAt_act answer hp]
    refine ⟨hinv', fun j => ?_⟩
    by_cases hj : j = i
    · subst j
      exact ⟨B, hB, hBs, by simpa only [Function.update_self] using ht'⟩
    · -- another script's assertion survives because it is stable
      obtain ⟨C, hC, hCs, htC⟩ := hknow j
      refine ⟨C, hC, hC i (Ne.symm hj) _ _ hinv hinv' hCs hguar, ?_⟩
      simpa only [Function.update_of_ne hj] using htC

/-- Soundness: the knowledge of every script survives every guarded interleaving. -/
theorem Supported.run {Q : ι → Ending α → σ → Prop} {c : Config ι Op Reply α σ}
    (h : Supported answer D Q c) (schedule : List ι)
    (hg : Guarded answer D.guard c schedule) :
    Supported answer D Q (runSchedule answer c schedule) := by
  induction schedule generalizing c with
  | nil => exact h
  | cons i rest ih =>
    obtain ⟨hi, hrest⟩ := hg
    exact ih (h.step i hi) hrest

end SolanaAuditor.Lib.RelyGuarantee
