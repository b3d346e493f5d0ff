/- SolanaAuditor/Lib/Tally
   digest: Counting keys in a dictionary, with its keys fixed beforehand or found on the way. -/

import Mathlib.Algebra.Ring.Nat
import SolanaAuditor.Lib.Dict

set_option autoImplicit false
set_option relaxedAutoImplicit false

namespace SolanaAuditor.Lib.Tally

variable {κ : Type} [DecidableEq κ]

/-- `if key in counts: counts[key] += 1` -/
def bump (counts : List (κ × Nat)) (key : κ) : List (κ × Nat) :=
  match Dict.get? counts key with
  | some n => Dict.set counts key (n + 1)
  | none => counts

/-- `counts[key] = counts.get(key, 0) + 1` -/
def grow (counts : List (κ × Nat)) (key : κ) : List (κ × Nat) :=
  Dict.set counts key ((Dict.get? counts key).getD 0 + 1)

theorem get?_bump (counts : List (κ × Nat)) (key k : κ) :
    Dict.get? (bump counts key) k =
      (Dict.get? counts k).map (· + if key = k then 1 else 0) := by
  unfold bump
  by_cases hk : key = k
  · subst hk
    cases h : Dict.get? counts key with
    | none => simp [h]
    | some n => simp
  · cases h : Dict.get? counts key with
    | none => simp [hk]
    | some n => simp [hk, Dict.get?_set_of_ne counts (n + 1) (Ne.symm hk)]

/-- A key that is there from the start counts its occurrences. -/
theorem get?_foldl_bump (keys : List κ) (counts : List (κ × Nat)) (k : κ) :
    Dict.get? (keys.foldl bump counts) k = (Dict.get? counts k).map (· + keys.count k) := by
  induction keys generalizing counts with
  | nil => simp
  | cons key keys ih =>
    rw [List.foldl_cons, ih, get?_bump, Option.map_map]
    congr 1
    funext n
    by_cases hk : key = k
    · simp [hk]
      omega
    · simp [hk]

theorem getD_grow (counts : List (κ × Nat)) (key k : κ) :
    (Dict.get? (grow counts key) k).getD 0 =
      (Dict.get? counts k).getD 0 + if key = k then 1 else 0 := by
  unfold grow
  by_cases hk : key = k
  · subst hk
    simp
  · simp [hk, Dict.get?_set_of_ne counts _ (Ne.symm hk)]

theorem getD_foldl_grow (keys : List κ) (counts : List (κ × Nat)) (k : κ) :
    (Dict.get? (keys.foldl grow counts) k).getD 0 =
      (Dict.get? counts k).getD 0 + keys.count k := by
  induction keys generalizing counts with
  | nil => simp
  | cons key keys ih =>
    rw [List.foldl_cons, ih, getD_grow, List.count_cons]
    by_cases hk : key = k
    · simp [hk]
      omega
    · simp [hk]

theorem sum_set (counts : List (κ × Nat)) (key : κ) (n : Nat) :
    ((Dict.set counts key n).map Prod.snd).sum + (Dict.get? counts key).getD 0 =
      (counts.map Prod.snd).sum + n := by
  induction counts with
  | nil => simp [Dict.set]
  | cons e counts ih =>
    obtain ⟨k, m⟩ := e
    by_cases hk : k = key
    · simp [Dict.set, hk]
      omega
    · simp [Dict.set, hk]
      omega

/-- The counts of a table add up to the number of keys counted. -/
theorem sum_foldl_grow (keys : List κ) (counts : List (κ × Nat)) :
    ((keys.foldl grow counts).map Prod.snd).sum = (counts.map Prod.snd).sum + keys.length := by
  induction keys generalizing counts with
  | nil => rfl
  | cons key keys ih =>
    have hstep := sum_set counts key ((Dict.get? counts key).getD 0 + 1)
    rw [List.foldl_cons, ih, grow, List.length_cons]
    omega

end SolanaAuditor.Lib.Tally
