/- SolanaAuditor/Lib/Dict
   digest: Insertion-ordered dictionaries as association lists. -/

import Mathlib.Data.List.Basic

set_option autoImplicit false
set_option relaxedAutoImplicit false

namespace SolanaAuditor.Lib.Dict

variable {κ α : Type} [DecidableEq κ]

def get? : List (κ × α) → κ → Option α
  | [], _ => none
  | (k', v) :: d, k => if k' = k then some v else get? d k

/-- Assignment: a known key keeps its place, a new one goes to the end. -/
def set : List (κ × α) → κ → α → List (κ × α)
  | [], k, v => [(k, v)]
  | (k', w) :: d, k, v => if k' = k then (k, v) :: d else (k', w) :: set d k v

@[simp] theorem get?_nil (k : κ) : get? ([] : List (κ × α)) k = none := rfl

@[simp] theorem get?_cons (k' : κ) (v : α) (d : List (κ × α)) (k : κ) :
    get? ((k', v) :: d) k = if k' = k then some v else get? d k := rfl

@[simp] theorem get?_set_self (d : List (κ × α)) (k : κ) (v : α) :
    get? (set d k v) k = some v := by
  induction d with
  | nil => simp [set]
  | cons e d ih =>
    obtain ⟨k', w⟩ := e
    by_cases h : k' = k
    · simp [set, h]
    · simp [set, h, ih]

theorem get?_set_of_ne (d : List (κ × α)) {k k' : κ} (v : α) (h : k' ≠ k) :
    get? (set d k v) k' = get? d k' := by
  induction d with
  | nil => simp [set, Ne.symm h]
  | cons e d ih =>
    obtain ⟨l, w⟩ := e
    by_cases hl : l = k
    · subst l
      simp [set, Ne.symm h]
    · simp [set, hl, ih]

theorem get?_map {β : Type} (f : α → β) (d : List (κ × α)) (k : κ) :
    get? (d.map fun e => (e.1, f e.2)) k = (get? d k).map f := by
  induction d with
  | nil => rfl
  | cons e d ih =>
    obtain ⟨k', w⟩ := e
    by_cases h : k' = k
    · simp [h]
    · simp [h, ih]

theorem set_map {β : Type} (f : α → β) (d : List (κ × α)) (k : κ) (v : α) :
    set (d.map fun e => (e.1, f e.2)) k (f v) = (set d k v).map fun e => (e.1, f e.2) := by
  induction d with
  | nil => rfl
  | cons e d ih =>
    obtain ⟨k', w⟩ := e
    by_cases h : k' = k
    · simp [set, h]
    · simp [set, h, ih]

theorem mem_of_get? {d : List (κ × α)} {k : κ} {v : α} (h : get? d k = some v) :
    (k, v) ∈ d := by
  induction d with
  | nil => simp at h
  | cons e d ih =>
    obtain ⟨k', w⟩ := e
    rw [get?_cons] at h
    split_ifs at h with hk
    · simp_all
    · exact List.mem_cons_of_mem _ (ih h)

theorem get?_isSome_iff {d : List (κ × α)} {k : κ} :
    (get? d k).isSome = true ↔ k ∈ d.map Prod.fst := by
  induction d with
  | nil => simp
  | cons e d ih =>
    obtain ⟨k', w⟩ := e
    by_cases h : k' = k
    · simp [h]
    · simp [h, ih, Ne.symm h]

theorem mem_keys_set {d : List (κ × α)} {k k' : κ} {v : α} :
    k' ∈ (set d k v).map Prod.fst ↔ k' ∈ d.map Prod.fst ∨ k' = k := by
  induction d with
  | nil => simp [set]
  | cons e d ih =>
    obtain ⟨l, w⟩ := e
    unfold set
    split_ifs with h
    · subst h
      simp only [List.map_cons, List.mem_cons]
      tauto
    · simp only [List.map_cons, List.mem_cons, ih]
      tauto

theorem nodup_keys_set {d : List (κ × α)} {k : κ} {v : α} (h : (d.map Prod.fst).Nodup) :
    ((set d k v).map Prod.fst).Nodup := by
  induction d with
  | nil => simp [set]
  | cons e d ih =>
    obtain ⟨l, w⟩ := e
    obtain ⟨hl, hd⟩ := List.nodup_cons.mp h
    unfold set
    split_ifs with hk
    · subst hk
      exact List.nodup_cons.mpr ⟨hl, hd⟩
    · rw [List.map_cons, List.nodup_cons, mem_keys_set]
      exact ⟨fun hor => hor.elim hl hk, ih hd⟩

theorem mem_of_mem_set {d : List (κ × α)} {k : κ} {v : α} {e : κ × α} (h : e ∈ set d k v) :
    e = (k, v) ∨ e ∈ d := by
  induction d with
  | nil => exact .inl (List.mem_singleton.mp h)
  | cons e' d ih =>
    obtain ⟨l, w⟩ := e'
    unfold set at h
    split_ifs at h with hk
    · rcases List.mem_cons.mp h with h | h
      · exact .inl h
      · exact .inr (List.mem_cons_of_mem _ h)
    · rcases List.mem_cons.mp h with h | h
      · exact .inr (h ▸ List.mem_cons_self)
      · exact (ih h).imp_right (List.mem_cons_of_mem _)

/-- After a sequence of assignments a key has the last value given to it. -/
theorem get?_foldl_set (entries d : List (κ × α)) (k : κ) :
    get? (entries.foldl (fun d e => set d e.1 e.2) d) k =
      ((entries.filter (fun e => decide (e.1 = k))).getLast?.map Prod.snd).or (get? d k) := by
  induction entries generalizing d with
  | nil => simp
  | cons e entries ih =>
    obtain ⟨k', v⟩ := e
    rw [List.foldl_cons, ih]
    by_cases h : k' = k
    · subst k'
      cases hl : (entries.filter (fun e => decide (e.1 = k))).getLast? <;>
        simp [List.getLast?_cons, hl]
    · simp [h, get?_set_of_ne d v (Ne.symm h)]

theorem get?_foldl_set_const (ks : List κ) (v : α) (d : List (κ × α)) (k : κ) :
    get? ((ks.map fun k => (k, v)).foldl (fun d e => set d e.1 e.2) d) k =
      if k ∈ ks then some v else get? d k := by
  induction ks generalizing d with
  | nil => simp
  | cons l ks ih =>
    rw [List.map_cons, List.foldl_cons, ih]
    by_cases hk : k = l
    · subst hk
      simp
    · simp [hk, get?_set_of_ne d v hk]

theorem get?_of_mem {d : List (κ × α)} {e : κ × α} (hdistinct : (d.map Prod.fst).Nodup)
    (he : e ∈ d) : get? d e.1 = some e.2 := by
  induction d with
  | nil => simp at he
  | cons x d ih =>
    rw [List.map_cons, List.nodup_cons] at hdistinct
    rw [get?_cons]
    rcases List.mem_cons.mp he with rfl | he
    · rw [if_pos rfl]
    · have hne : x.1 ≠ e.1 := fun heq => hdistinct.1 (heq ▸ List.mem_map_of_mem he)
      rw [if_neg hne, ih hdistinct.2 he]

theorem set_of_notMem {d : List (κ × α)} {k : κ} {v : α} (h : k ∉ d.map Prod.fst) :
    set d k v = d ++ [(k, v)] := by
  induction d with
  | nil => rfl
  | cons e d ih =>
    obtain ⟨l, w⟩ := e
    rw [List.map_cons, List.mem_cons, not_or] at h
    rw [set, if_neg (Ne.symm h.1), ih h.2, List.cons_append]

section Collect

/-- A dictionary from the assignments in turn. -/
def collect (assignments : List (κ × α)) : List (κ × α) :=
  assignments.foldl (fun d e => set d e.1 e.2) []

theorem nodup_keys_foldl_set {d : List (κ × α)} (assignments : List (κ × α))
    (h : (d.map Prod.fst).Nodup) :
    ((assignments.foldl (fun d e => set d e.1 e.2) d).map Prod.fst).Nodup := by
  induction assignments generalizing d with
  | nil => exact h
  | cons e assignments ih => exact ih (nodup_keys_set h)

theorem mem_keys_foldl_set {d assignments : List (κ × α)} {k : κ} :
    k ∈ (assignments.foldl (fun d e => set d e.1 e.2) d).map Prod.fst ↔
      k ∈ d.map Prod.fst ∨ k ∈ assignments.map Prod.fst := by
  induction assignments generalizing d with
  | nil => simp
  | cons e assignments ih =>
    rw [List.foldl_cons, ih, mem_keys_set, List.map_cons, List.mem_cons, or_assoc]

theorem foldl_set_of_disjoint {d assignments : List (κ × α)}
    (h : ((d ++ assignments).map Prod.fst).Nodup) :
    assignments.foldl (fun d e => set d e.1 e.2) d = d ++ assignments := by
  induction assignments generalizing d with
  | nil => simp
  | cons e assignments ih =>
    have hnew : e.1 ∉ d.map Prod.fst := by
      rw [List.map_append, List.nodup_append] at h
      exact fun hmem => h.2.2 e.1 hmem e.1 List.mem_cons_self rfl
    rw [List.foldl_cons, set_of_notMem hnew, ih (by simpa using h)]
    simp

theorem nodup_keys_collect (assignments : List (κ × α)) :
    ((collect assignments).map Prod.fst).Nodup :=
  nodup_keys_foldl_set assignments List.nodup_nil

theorem mem_keys_collect {assignments : List (κ × α)} {k : κ} :
    k ∈ (collect assignments).map Prod.fst ↔ k ∈ assignments.map Prod.fst := by
  rw [collect, mem_keys_foldl_set]
  simp

/-- Different keys stay as they were assigned. -/
theorem collect_of_nodup {assignments : List (κ × α)} (h : (assignments.map Prod.fst).Nodup) :
    collect assignments = assignments :=
  foldl_set_of_disjoint (by simpa using h)

/-- A key keeps the last of its assignments. -/
theorem last_of_mem_collect {assignments : List (κ × α)} {e : κ × α} (h : e ∈ collect assignments) :
    (assignments.filter fun a => decide (a.1 = e.1)).getLast? = some e := by
  have hget := get?_of_mem (nodup_keys_collect assignments) h
  rw [collect, get?_foldl_set, get?_nil, Option.or_none] at hget
  obtain ⟨a, ha, hvalue⟩ := Option.map_eq_some_iff.mp hget
  have hkey : a.1 = e.1 :=
    of_decide_eq_true (List.mem_filter.mp (List.mem_of_getLast? ha)).2
  rw [ha, Prod.ext hkey hvalue]

end Collect

end SolanaAuditor.Lib.Dict
