/- SolanaAuditor/Lib/KeyedLog
   digest: Append-only logs under keys, each tag stored once: the first entry wins. -/

import Mathlib.Data.List.Nodup
import Mathlib.Logic.Function.Basic

set_option autoImplicit false
set_option relaxedAutoImplicit false

namespace SolanaAuditor.Lib.KeyedLog

variable {κ ν α : Type} [DecidableEq κ] [DecidableEq ν] (tag : α → ν)

/-- A key already holds an entry with the tag. -/
def Has (s : κ → List α) (k : κ) (v : ν) : Prop := ∃ a ∈ s k, tag a = v

instance (s : κ → List α) (k : κ) (v : ν) : Decidable (Has tag s k v) :=
  inferInstanceAs (Decidable (∃ a ∈ s k, tag a = v))

/-- Append an entry to the log of its key unless its tag is already there. -/
def add (s : κ → List α) (k : κ) (a : α) : κ → List α :=
  if Has tag s k (tag a) then s else Function.update s k (s k ++ [a])

def lookup (s : κ → List α) (k : κ) (v : ν) : List α :=
  (s k).filter (fun a => decide (tag a = v))

def addAll (s : κ → List α) (entries : List (κ × α)) : κ → List α :=
  entries.foldl (fun s e => add tag s e.1 e.2) s

/-- No key holds two entries with one tag. -/
def Distinct (s : κ → List α) : Prop := ∀ k, ((s k).map tag).Nodup

variable {tag}

omit [DecidableEq κ] in
theorem lookup_eq_nil {s : κ → List α} {k : κ} {v : ν} :
    lookup tag s k v = [] ↔ ¬ Has tag s k v := by
  simp [lookup, Has, List.filter_eq_nil_iff]

theorem add_of_has {s : κ → List α} {k : κ} {a : α} (h : Has tag s k (tag a)) :
    add tag s k a = s := if_pos h

theorem add_of_not_has {s : κ → List α} {k : κ} {a : α} (h : ¬ Has tag s k (tag a)) :
    add tag s k a = Function.update s k (s k ++ [a]) := if_neg h

theorem has_add_self (s : κ → List α) (k : κ) (a : α) : Has tag (add tag s k a) k (tag a) := by
  by_cases h : Has tag s k (tag a)
  · rwa [add_of_has h]
  · rw [add_of_not_has h]
    exact ⟨a, by simp, rfl⟩

/-- An addition keeps every entry. -/
theorem mem_add {s : κ → List α} {k : κ} {b : α} (hb : b ∈ s k) (k' : κ) (a : α) :
    b ∈ add tag s k' a k := by
  by_cases h : Has tag s k' (tag a)
  · rwa [add_of_has h]
  · rw [add_of_not_has h]
    by_cases hk : k = k'
    · subst k
      rw [Function.update_self]
      exact List.mem_append_left _ hb
    · rwa [Function.update_of_ne hk]

theorem Has.add {s : κ → List α} {k : κ} {v : ν} (h : Has tag s k v) (k' : κ) (a : α) :
    Has tag (add tag s k' a) k v := by
  obtain ⟨b, hb, hv⟩ := h
  exact ⟨b, mem_add hb k' a, hv⟩

theorem Distinct.add {s : κ → List α} (hs : Distinct tag s) (k : κ) (a : α) :
    Distinct tag (add tag s k a) := by
  by_cases h : Has tag s k (tag a)
  · rwa [add_of_has h]
  · rw [add_of_not_has h]
    intro k'
    by_cases hk : k' = k
    · subst k'
      have hnew : tag a ∉ (s k).map tag := by
        intro hm
        obtain ⟨b, hb, hv⟩ := List.mem_map.mp hm
        exact h ⟨b, hb, hv⟩
      simp only [Function.update_self, List.map_append, List.map_cons, List.map_nil]
      exact List.nodup_append.mpr ⟨hs k, by simp, by
        intro x hx y hy hxy
        rw [List.mem_singleton] at hy
        exact hnew (hy ▸ hxy ▸ hx)⟩
    · simpa only [Function.update_of_ne hk] using hs k'

omit [DecidableEq κ] in
theorem Distinct.lookup_length {s : κ → List α} (hs : Distinct tag s) (k : κ) (v : ν) :
    (lookup tag s k v).length ≤ 1 := by
  have hsub : ((lookup tag s k v).map tag).Nodup :=
    (hs k).sublist (List.filter_sublist.map tag)
  have hall : (lookup tag s k v).map tag = List.replicate (lookup tag s k v).length v := by
    rw [List.map_eq_replicate_iff]
    intro a ha
    simpa using (List.mem_filter.mp ha).2
  rwa [hall, List.nodup_replicate] at hsub

theorem Distinct.addAll {s : κ → List α} (hs : Distinct tag s) (entries : List (κ × α)) :
    Distinct tag (addAll tag s entries) := by
  induction entries generalizing s with
  | nil => exact hs
  | cons e entries ih => exact ih (hs.add e.1 e.2)

theorem lookup_add_of_has {s : κ → List α} {k k' : κ} {a : α} {v : ν}
    (h : Has tag s k' v ∨ ¬ (k = k' ∧ tag a = v)) :
    lookup tag (add tag s k a) k' v = lookup tag s k' v := by
  by_cases hold : Has tag s k (tag a)
  · rw [add_of_has hold]
  rw [add_of_not_has hold, lookup, lookup]
  by_cases hk : k' = k
  · subst k'
    have hv : tag a ≠ v := by
      rintro rfl
      rcases h with h | h
      · exact hold h
      · exact h ⟨rfl, rfl⟩
    simp [hv]
  · rw [Function.update_of_ne hk]

theorem lookup_add_new {s : κ → List α} {k : κ} {a : α} (h : ¬ Has tag s k (tag a)) :
    lookup tag (add tag s k a) k (tag a) = [a] := by
  have hnone : (s k).filter (fun b => decide (tag b = tag a)) = [] := lookup_eq_nil.mpr h
  rw [add_of_not_has h, lookup, Function.update_self, List.filter_append, hnone]
  simp

/-- First addition wins: after any sequence a lookup of a pair that was absent finds
the first entry added under it, and nothing when there was none. -/
theorem lookup_addAll {s : κ → List α} {k : κ} {v : ν} (h : ¬ Has tag s k v)
    (entries : List (κ × α)) :
    lookup tag (addAll tag s entries) k v =
      ((entries.find? (fun e => decide (e.1 = k ∧ tag e.2 = v))).map Prod.snd).toList := by
  -- once the pair is there, later additions change nothing
  have hkeep : ∀ (rest : List (κ × α)) (t : κ → List α), Has tag t k v →
      lookup tag (addAll tag t rest) k v = lookup tag t k v := by
    intro rest
    induction rest with
    | nil => intro t _; rfl
    | cons e rest ih =>
      intro t ht
      have hl := lookup_add_of_has (k := e.1) (a := e.2) (Or.inl ht)
      have ht' : Has tag (add tag t e.1 e.2) k v := by
        by_contra hn
        rw [← lookup_eq_nil, hl, lookup_eq_nil] at hn
        exact hn ht
      exact (ih _ ht').trans hl
  induction entries generalizing s with
  | nil => simpa [addAll] using lookup_eq_nil.mpr h
  | cons e entries ih =>
    obtain ⟨k', a⟩ := e
    by_cases he : k' = k ∧ tag a = v
    · obtain ⟨rfl, rfl⟩ := he
      have hl := lookup_add_new h
      have hhas : Has tag (add tag s k' a) k' (tag a) := by
        by_contra hn
        rw [← lookup_eq_nil, hl] at hn
        exact absurd hn (by simp)
      calc lookup tag (addAll tag s ((k', a) :: entries)) k' (tag a)
          = lookup tag (add tag s k' a) k' (tag a) := hkeep entries _ hhas
        _ = [a] := hl
        _ = _ := by simp
    · have hl := lookup_add_of_has (s := s) (Or.inr he)
      have hn : ¬ Has tag (add tag s k' a) k v := by
        rw [← lookup_eq_nil, hl]
        exact lookup_eq_nil.mpr h
      calc lookup tag (addAll tag s ((k', a) :: entries)) k v
          = lookup tag (addAll tag (add tag s k' a) entries) k v := rfl
        _ = _ := ih hn
        _ = _ := by rw [List.find?_cons_of_neg (by simpa using he)]

end SolanaAuditor.Lib.KeyedLog
