/- SolanaAuditor/JsonTree
   digest: JSON values as trees: induction, the nodes at a depth, objects without repeated keys. -/

import SolanaAuditor.Json

set_option autoImplicit false
set_option relaxedAutoImplicit false

namespace SolanaAuditor.Json

open SolanaAuditor.Lib

/-- No list of values and no object. -/
def isLeaf : Json → Bool
  | .null | .bool _ | .int _ | .float _ | .str _ => true
  | .arr _ | .obj _ => false

/-- A leaf other than a text. -/
def isScalar : Json → Bool
  | .null | .bool _ | .int _ | .float _ => true
  | .str _ | .arr _ | .obj _ => false

/-- A node of a value, and how deep it stands; the value itself stands at 0. -/
inductive NodeAt : Json → Nat → Json → Prop
  | root (v : Json) : NodeAt v 0 v
  | item {items : List Json} {v x : Json} {n : Nat} :
      v ∈ items → NodeAt v n x → NodeAt (.arr items) (n + 1) x
  | entry {entries : List (String × Json)} {e : String × Json} {x : Json} {n : Nat} :
      e ∈ entries → NodeAt e.2 n x → NodeAt (.obj entries) (n + 1) x

/-- Each object has a key once, as every dictionary of Python does. -/
inductive DistinctKeys : Json → Prop
  | leaf {v : Json} : v.isLeaf = true → DistinctKeys v
  | arr {items : List Json} : (∀ v ∈ items, DistinctKeys v) → DistinctKeys (.arr items)
  | obj {entries : List (String × Json)} : (entries.map Prod.fst).Nodup →
      (∀ e ∈ entries, DistinctKeys e.2) → DistinctKeys (.obj entries)

theorem induct {P : Json → Prop} (leaf : ∀ v : Json, v.isLeaf = true → P v)
    (arr : ∀ items, (∀ v ∈ items, P v) → P (.arr items))
    (obj : ∀ entries : List (String × Json), (∀ e ∈ entries, P e.2) → P (.obj entries))
    (v : Json) : P v :=
  @Json.rec P (fun items => ∀ v ∈ items, P v) (fun entries => ∀ e ∈ entries, P e.2)
    (fun e => P e.2) (leaf .null rfl) (fun b => leaf (.bool b) rfl) (fun n => leaf (.int n) rfl)
    (fun x => leaf (.float x) rfl) (fun s => leaf (.str s) rfl) arr obj
    (List.forall_mem_nil _) (fun _ _ hv hitems => List.forall_mem_cons.mpr ⟨hv, hitems⟩)
    (List.forall_mem_nil _) (fun _ _ he hentries => List.forall_mem_cons.mpr ⟨he, hentries⟩)
    (fun _ _ hv => hv) v

theorem nodeAt_leaf_iff {v x : Json} {n : Nat} (hv : v.isLeaf = true) :
    NodeAt v n x ↔ n = 0 ∧ x = v := by
  constructor
  · intro h
    cases h with
    | root => exact ⟨rfl, rfl⟩
    | item => contradiction
    | entry => contradiction
  · rintro ⟨rfl, rfl⟩
    exact .root x

theorem nodeAt_arr_iff {items : List Json} {x : Json} {n : Nat} :
    NodeAt (.arr items) n x ↔
      n = 0 ∧ x = .arr items ∨ ∃ m, n = m + 1 ∧ ∃ v ∈ items, NodeAt v m x := by
  constructor
  · intro h
    cases h with
    | root => exact .inl ⟨rfl, rfl⟩
    | item hv hx => exact .inr ⟨_, rfl, _, hv, hx⟩
  · rintro (⟨rfl, rfl⟩ | ⟨m, rfl, v, hv, hx⟩)
    · exact .root _
    · exact .item hv hx

theorem nodeAt_obj_iff {entries : List (String × Json)} {x : Json} {n : Nat} :
    NodeAt (.obj entries) n x ↔
      n = 0 ∧ x = .obj entries ∨ ∃ m, n = m + 1 ∧ ∃ e ∈ entries, NodeAt e.2 m x := by
  constructor
  · intro h
    cases h with
    | root => exact .inl ⟨rfl, rfl⟩
    | entry he hx => exact .inr ⟨_, rfl, _, he, hx⟩
  · rintro (⟨rfl, rfl⟩ | ⟨m, rfl, e, he, hx⟩)
    · exact .root _
    · exact .entry he hx

/-- A node stands deeper than the bound. -/
def DeeperThan (v : Json) (bound : Int) : Prop := ∃ n x, NodeAt v n x ∧ bound < n

section Deeper

variable {bound : Int}

theorem deeperThan_of_neg (v : Json) (h : bound < 0) : DeeperThan v bound :=
  ⟨0, v, .root v, h⟩

theorem not_deeperThan_leaf {v : Json} (hv : v.isLeaf = true) (h : 0 ≤ bound) :
    ¬ DeeperThan v bound := by
  rintro ⟨n, x, hx, hdeep⟩
  obtain ⟨rfl, -⟩ := (nodeAt_leaf_iff hv).mp hx
  omega

theorem deeperThan_arr_iff {items : List Json} (h : 0 ≤ bound) :
    DeeperThan (.arr items) bound ↔ ∃ v ∈ items, DeeperThan v (bound - 1) := by
  constructor
  · rintro ⟨n, x, hx, hdeep⟩
    rcases nodeAt_arr_iff.mp hx with ⟨rfl, -⟩ | ⟨m, rfl, v, hv, hm⟩
    · omega
    · exact ⟨v, hv, m, x, hm, by omega⟩
  · rintro ⟨v, hv, m, x, hm, hdeep⟩
    exact ⟨m + 1, x, .item hv hm, by omega⟩

theorem deeperThan_obj_iff {entries : List (String × Json)} (h : 0 ≤ bound) :
    DeeperThan (.obj entries) bound ↔ ∃ e ∈ entries, DeeperThan e.2 (bound - 1) := by
  constructor
  · rintro ⟨n, x, hx, hdeep⟩
    rcases nodeAt_obj_iff.mp hx with ⟨rfl, -⟩ | ⟨m, rfl, e, he, hm⟩
    · omega
    · exact ⟨e, he, m, x, hm, by omega⟩
  · rintro ⟨e, he, m, x, hm, hdeep⟩
    exact ⟨m + 1, x, .entry he hm, by omega⟩

end Deeper

end SolanaAuditor.Json
