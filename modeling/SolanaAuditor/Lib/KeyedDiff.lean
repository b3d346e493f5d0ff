/- SolanaAuditor/Lib/KeyedDiff
   digest: The difference of two lists that are indexed by a key. -/

import Mathlib.Data.List.Dedup
import Mathlib.Data.List.Induction
import Mathlib.Data.List.Perm.Basic
import SolanaAuditor.Lib.Dict

set_option autoImplicit false
set_option relaxedAutoImplicit false

namespace SolanaAuditor.Lib.KeyedDiff

variable {α κ : Type} [DecidableEq κ]

/-- `{key(a): a for a in items}`: of two items with one key the later one stays. -/
def index (key : α → κ) (items : List α) : List (κ × α) :=
  items.foldl (fun d a => Dict.set d (key a) a) []

/-- The keys of two indexes, each once. -/
def union (before after : List (κ × α)) : List κ :=
  before.map Prod.fst ++ (after.map Prod.fst).filter fun k => (Dict.get? before k).isNone

structure Diff (α : Type) where
  removed : List α
  kept : List α
  added : List α

/-- What stands under the keys, in their order: in the first index only, in both, or in the
second only. Of an item in both the second version is kept. -/
def diff (before after : List (κ × α)) : List κ → Diff α
  | [] => ⟨[], [], []⟩
  | k :: ks =>
      let rest := diff before after ks
      match Dict.get? before k, Dict.get? after k with
      | some _, some a => { rest with kept := a :: rest.kept }
      | some b, none => { rest with removed := b :: rest.removed }
      | none, some a => { rest with added := a :: rest.added }
      | none, none => rest

section Index

variable {key : α → κ}

theorem index_append (items : List α) (a : α) :
    index key (items ++ [a]) = Dict.set (index key items) (key a) a := by
  simp [index]

theorem nodup_keys_index (items : List α) : ((index key items).map Prod.fst).Nodup := by
  induction items using List.reverseRec with
  | nil => exact List.nodup_nil
  | append_singleton items a ih =>
    rw [index_append]
    exact Dict.nodup_keys_set ih

theorem mem_keys_index {items : List α} {k : κ} :
    k ∈ (index key items).map Prod.fst ↔ k ∈ items.map key := by
  induction items using List.reverseRec with
  | nil => exact Iff.rfl
  | append_singleton items a ih =>
    rw [index_append, Dict.mem_keys_set, ih, List.map_append, List.mem_append]
    simp

theorem get?_index_isSome {items : List α} {k : κ} :
    (Dict.get? (index key items) k).isSome = true ↔ k ∈ items.map key := by
  rw [Dict.get?_isSome_iff, mem_keys_index]

/-- What the index has under a key is an item with that key. -/
theorem get?_index {items : List α} {k : κ} {a : α}
    (h : Dict.get? (index key items) k = some a) : a ∈ items ∧ key a = k := by
  induction items using List.reverseRec with
  | nil => simp [index] at h
  | append_singleton items b ih =>
    rw [index_append] at h
    by_cases hk : k = key b
    · subst hk
      rw [Dict.get?_set_self] at h
      obtain rfl := Option.some.inj h
      exact ⟨by simp, rfl⟩
    · rw [Dict.get?_set_of_ne _ _ hk] at h
      obtain ⟨hmem, hkey⟩ := ih h
      exact ⟨List.mem_append_left _ hmem, hkey⟩

/-- With different keys every item is found under its own. -/
theorem get?_index_of_mem {items : List α} (hnodup : (items.map key).Nodup) {a : α}
    (ha : a ∈ items) : Dict.get? (index key items) (key a) = some a := by
  have hsome := get?_index_isSome.mpr (List.mem_map_of_mem (f := key) ha)
  obtain ⟨b, hb⟩ := Option.isSome_iff_exists.mp hsome
  obtain ⟨hmem, hkey⟩ := get?_index hb
  rw [hb, List.inj_on_of_nodup_map hnodup hmem ha hkey]

/-- The index has an entry for each item exactly when the keys are pairwise different. -/
theorem length_index {items : List α} :
    (index key items).length = items.length ↔ (items.map key).Nodup := by
  have hperm : ((index key items).map Prod.fst).Perm (items.map key).dedup := by
    refine (List.perm_ext_iff_of_nodup (nodup_keys_index items) (List.nodup_dedup _)).mpr ?_
    intro k
    rw [mem_keys_index, List.mem_dedup]
  have hlength : (index key items).length = (items.map key).dedup.length := by
    simpa using hperm.length_eq
  rw [hlength]
  constructor
  · intro h
    have hself := (List.dedup_sublist (items.map key)).eq_of_length (by simpa using h)
    exact List.dedup_eq_self.mp hself
  · intro h
    rw [List.dedup_eq_self.mpr h, List.length_map]

end Index

section Diff

variable {before after : List (κ × α)} {ks : List κ}

/-- What an index has under those of the keys that satisfy a test. -/
def lookups (index : List (κ × α)) (p : κ → Bool) (ks : List κ) : List α :=
  ks.filterMap fun k => if p k then Dict.get? index k else none

theorem removed_eq : (diff before after ks).removed =
    lookups before (fun k => (Dict.get? after k).isNone) ks := by
  induction ks with
  | nil => rfl
  | cons k ks ih =>
    unfold lookups at ih ⊢
    cases hb : Dict.get? before k <;> cases ha : Dict.get? after k <;> simp [diff, hb, ha, ih]

theorem kept_eq : (diff before after ks).kept =
    lookups after (fun k => (Dict.get? before k).isSome) ks := by
  induction ks with
  | nil => rfl
  | cons k ks ih =>
    unfold lookups at ih ⊢
    cases hb : Dict.get? before k <;> cases ha : Dict.get? after k <;> simp [diff, hb, ha, ih]

theorem added_eq : (diff before after ks).added =
    lookups after (fun k => (Dict.get? before k).isNone) ks := by
  induction ks with
  | nil => rfl
  | cons k ks ih =>
    unfold lookups at ih ⊢
    cases hb : Dict.get? before k <;> cases ha : Dict.get? after k <;> simp [diff, hb, ha, ih]

/-- Every key of the first index is counted once, among the removed or the kept. -/
theorem length_removed_kept : (diff before after ks).removed.length +
    (diff before after ks).kept.length = ks.countP fun k => (Dict.get? before k).isSome := by
  induction ks with
  | nil => rfl
  | cons k ks ih =>
    cases hb : Dict.get? before k <;> cases ha : Dict.get? after k <;>
      simp [diff, hb, ha] <;> omega

theorem length_kept_added : (diff before after ks).kept.length +
    (diff before after ks).added.length = ks.countP fun k => (Dict.get? after k).isSome := by
  induction ks with
  | nil => rfl
  | cons k ks ih =>
    cases hb : Dict.get? before k <;> cases ha : Dict.get? after k <;>
      simp [diff, hb, ha] <;> omega

/-- The kept and the added are what the second index has under the keys. -/
theorem kept_added_perm : ((diff before after ks).kept ++ (diff before after ks).added).Perm
    (ks.filterMap fun k => Dict.get? after k) := by
  induction ks with
  | nil => exact .refl _
  | cons k ks ih =>
    cases hb : Dict.get? before k <;> cases ha : Dict.get? after k
    · simpa [diff, hb, ha] using ih
    · simpa [diff, hb, ha] using List.perm_middle.trans (ih.cons _)
    · simpa [diff, hb, ha] using ih
    · next a => simpa [diff, hb, ha] using ih.cons a

end Diff

section Lookups

variable {key : α → κ} {items : List α} {p : κ → Bool} {ks : List κ}

theorem mem_of_mem_lookups {a : α} (h : a ∈ lookups (index key items) p ks) :
    a ∈ items ∧ p (key a) = true := by
  obtain ⟨k, -, hget⟩ := List.mem_filterMap.mp h
  split at hget
  · next hp =>
    obtain ⟨hmem, rfl⟩ := get?_index hget
    exact ⟨hmem, hp⟩
  · simp at hget

theorem mem_lookups (hnodup : (items.map key).Nodup) (hks : ∀ k ∈ items.map key, k ∈ ks) {a : α} :
    a ∈ lookups (index key items) p ks ↔ a ∈ items ∧ p (key a) = true := by
  constructor
  · exact mem_of_mem_lookups
  · rintro ⟨hmem, hp⟩
    refine List.mem_filterMap.mpr ⟨key a, hks _ (List.mem_map_of_mem hmem), ?_⟩
    rw [if_pos hp]
    exact get?_index_of_mem hnodup hmem

/-- The keys of what is found, in the order of the keys that were looked up. -/
theorem map_lookups :
    (lookups (index key items) p ks).map key =
      ks.filter fun k => p k && (Dict.get? (index key items) k).isSome := by
  induction ks with
  | nil => rfl
  | cons k ks ih =>
    unfold lookups at ih ⊢
    cases hp : p k with
    | false => simp [hp, ih]
    | true =>
      cases hget : Dict.get? (index key items) k with
      | none => simp [hp, hget, ih]
      | some a => simp [hp, hget, ih, (get?_index hget).2]

/-- Items of an index are known from their keys. -/
theorem filterMap_get?_map (hnodup : (items.map key).Nodup) {found : List α}
    (h : ∀ a ∈ found, a ∈ items) :
    (found.map key).filterMap (fun k => Dict.get? (index key items) k) = found := by
  rw [List.filterMap_map]
  calc
    found.filterMap ((fun k => Dict.get? (index key items) k) ∘ key)
        = found.filterMap some :=
          List.filterMap_congr fun a ha => get?_index_of_mem hnodup (h a ha)
    _ = found := List.filterMap_some

theorem eq_of_map_key_eq (hnodup : (items.map key).Nodup) {l l' : List α}
    (hl : ∀ a ∈ l, a ∈ items) (hl' : ∀ a ∈ l', a ∈ items) (h : l.map key = l'.map key) :
    l = l' := by
  rw [← filterMap_get?_map hnodup hl, h, filterMap_get?_map hnodup hl']

end Lookups

section Union

variable {key : α → κ} {before after : List α} {ks : List κ}

theorem mem_union {b a : List (κ × α)} {k : κ} :
    k ∈ union b a ↔ k ∈ b.map Prod.fst ∨ k ∈ a.map Prod.fst := by
  have hnone : (Dict.get? b k).isNone = true ↔ k ∉ b.map Prod.fst := by
    rw [← Dict.get?_isSome_iff, ← Option.not_isSome, Bool.not_eq_true', Bool.not_eq_true]
  unfold union
  rw [List.mem_append, List.mem_filter, hnone]
  tauto

theorem nodup_union {b a : List (κ × α)} (hb : (b.map Prod.fst).Nodup)
    (ha : (a.map Prod.fst).Nodup) : (union b a).Nodup := by
  refine List.Nodup.append hb (ha.filter _) ?_
  intro k hk hfilter
  obtain ⟨-, hnone⟩ := List.mem_filter.mp hfilter
  have hsome := Dict.get?_isSome_iff.mpr hk
  simp [Option.isNone_iff_eq_none.mp hnone] at hsome

/-- Keys without repetition that are those of an index and more. -/
theorem countP_keys (items : List α) (hks : ks.Nodup)
    (hmem : ∀ k ∈ items.map key, k ∈ ks) :
    ks.countP (fun k => (Dict.get? (index key items) k).isSome) = (index key items).length := by
  have hperm : (ks.filter fun k => (Dict.get? (index key items) k).isSome).Perm
      ((index key items).map Prod.fst) := by
    refine (List.perm_ext_iff_of_nodup (hks.filter _) (nodup_keys_index items)).mpr ?_
    intro k
    rw [List.mem_filter, get?_index_isSome, mem_keys_index]
    exact ⟨And.right, fun hk => ⟨hmem k hk, hk⟩⟩
  rw [List.countP_eq_length_filter, hperm.length_eq, List.length_map]

/-- The items under such keys are the indexed items, when these have different keys. -/
theorem filterMap_index_perm (items : List α) (hnodup : (items.map key).Nodup) (hks : ks.Nodup)
    (hmem : ∀ k ∈ items.map key, k ∈ ks) :
    (ks.filterMap fun k => Dict.get? (index key items) k).Perm items := by
  have hperm : (ks.filter fun k => (Dict.get? (index key items) k).isSome).Perm
      (items.map key) := by
    refine (List.perm_ext_iff_of_nodup (hks.filter _) hnodup).mpr ?_
    intro k
    rw [List.mem_filter, get?_index_isSome]
    exact ⟨And.right, fun hk => ⟨hmem k hk, hk⟩⟩
  have hfilter : ks.filterMap (fun k => Dict.get? (index key items) k) =
      (ks.filter fun k => (Dict.get? (index key items) k).isSome).filterMap
        fun k => Dict.get? (index key items) k := by
    rw [List.filterMap_filter]
    refine List.filterMap_congr fun k _ => ?_
    cases Dict.get? (index key items) k <;> rfl
  have hitems := hperm.filterMap fun k => Dict.get? (index key items) k
  rw [filterMap_get?_map hnodup fun a ha => ha] at hitems
  rwa [hfilter]

end Union

end SolanaAuditor.Lib.KeyedDiff
