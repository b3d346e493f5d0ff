/- SolanaAuditor/Suggestions/SafeDump
   digest: safe_output and safe_json_dump of scripts/audit-fix-suggestions.py. -/

import SolanaAuditor.JsonTree
import SolanaAuditor.Python

set_option autoImplicit false
set_option relaxedAutoImplicit false

namespace SolanaAuditor.Suggestions

open SolanaAuditor.Lib SolanaAuditor.Json

/-- The default of `max_length`. -/
def maxOutputLength : Nat := 10000

/-- `safe_output` -/
def safeOutput (value : String) : String :=
  let chars := value.toList.filter (· ≠ '\x00')
  String.ofList (if maxOutputLength < chars.length then chars.take maxOutputLength else chars)

mutual

/-- `safe_json_dump` -/
def safeJsonDump (maxDepth : Int) (obj : Json) : Py Json :=
  if maxDepth < 0 then .error .valueError
  else
    match obj with
    | .str s => .ok (.str (safeOutput s))
    | .obj entries => do
        let entries ← dumpEntries (maxDepth - 1) [] entries
        return .obj entries
    | .arr items => do
        let items ← dumpItems (maxDepth - 1) items
        return .arr items
    | .int n => .ok (.int n)
    | .float x => .ok (.float x)
    | .bool b => .ok (.bool b)
    | .null => .ok .null

/-- The list comprehension. -/
def dumpItems (maxDepth : Int) : List Json → Py (List Json)
  | [] => .ok []
  | item :: items => do
      let item ← safeJsonDump maxDepth item
      let items ← dumpItems maxDepth items
      return item :: items

/-- The dictionary comprehension: a key that is there already keeps its place and gets the new
value. -/
def dumpEntries (maxDepth : Int) (done : List (String × Json)) :
    List (String × Json) → Py (List (String × Json))
  | [] => .ok done
  | (k, v) :: entries => do
      let v ← safeJsonDump maxDepth v
      dumpEntries maxDepth (Dict.set done (safeOutput k) v) entries

end

mutual

/-- A value with its texts and keys made safe. -/
def sanitized : Json → Json
  | .str s => .str (safeOutput s)
  | .obj entries => .obj (Dict.collect (sanitizedEntries entries))
  | .arr items => .arr (sanitizedItems items)
  | .int n => .int n
  | .float x => .float x
  | .bool b => .bool b
  | .null => .null

def sanitizedItems : List Json → List Json
  | [] => []
  | item :: items => sanitized item :: sanitizedItems items

def sanitizedEntries : List (String × Json) → List (String × Json)
  | [] => []
  | (k, v) :: entries => (safeOutput k, sanitized v) :: sanitizedEntries entries

end

theorem sanitizedItems_eq (items : List Json) : sanitizedItems items = items.map sanitized := by
  induction items with
  | nil => rfl
  | cons item items ih => rw [sanitizedItems, ih, List.map_cons]

theorem sanitizedEntries_eq (entries : List (String × Json)) :
    sanitizedEntries entries = entries.map fun e => (safeOutput e.1, sanitized e.2) := by
  induction entries with
  | nil => rfl
  | cons e entries ih => rw [sanitizedEntries, ih, List.map_cons]

section Dump

variable {maxDepth : Int}

/-- The dump raises for a node that stands too deep, and makes the other values safe. -/
structure Dumps (maxDepth : Int) (v : Json) : Prop where
  raises : DeeperThan v maxDepth → safeJsonDump maxDepth v = .error .valueError
  returns : ¬ DeeperThan v maxDepth → safeJsonDump maxDepth v = .ok (sanitized v)

theorem dumpItems_raises {items : List Json} (h : ∀ v ∈ items, Dumps maxDepth v)
    (hdeep : ∃ v ∈ items, DeeperThan v maxDepth) :
    dumpItems maxDepth items = .error .valueError := by
  induction items with
  | nil => simp at hdeep
  | cons item items ih =>
    obtain ⟨hitem, hitems⟩ := List.forall_mem_cons.mp h
    rw [dumpItems]
    by_cases hfirst : DeeperThan item maxDepth
    · rw [hitem.raises hfirst]
      rfl
    · have hrest : ∃ v ∈ items, DeeperThan v maxDepth := by
        obtain ⟨v, hv, hdeep⟩ := hdeep
        rcases List.mem_cons.mp hv with rfl | hv
        · exact absurd hdeep hfirst
        · exact ⟨v, hv, hdeep⟩
      rw [hitem.returns hfirst, ih hitems hrest]
      rfl

theorem dumpItems_returns {items : List Json} (h : ∀ v ∈ items, Dumps maxDepth v)
    (hdeep : ∀ v ∈ items, ¬ DeeperThan v maxDepth) :
    dumpItems maxDepth items = .ok (items.map sanitized) := by
  induction items with
  | nil => rfl
  | cons item items ih =>
    obtain ⟨hitem, hitems⟩ := List.forall_mem_cons.mp h
    obtain ⟨hfirst, hrest⟩ := List.forall_mem_cons.mp hdeep
    rw [dumpItems, hitem.returns hfirst, ih hitems hrest]
    rfl

theorem dumpEntries_raises {entries : List (String × Json)}
    (h : ∀ e ∈ entries, Dumps maxDepth e.2) (hdeep : ∃ e ∈ entries, DeeperThan e.2 maxDepth)
    (done : List (String × Json)) : dumpEntries maxDepth done entries = .error .valueError := by
  induction entries generalizing done with
  | nil => simp at hdeep
  | cons e entries ih =>
    obtain ⟨he, hentries⟩ := List.forall_mem_cons.mp h
    rw [dumpEntries]
    by_cases hfirst : DeeperThan e.2 maxDepth
    · rw [he.raises hfirst]
      rfl
    · have hrest : ∃ e ∈ entries, DeeperThan e.2 maxDepth := by
        obtain ⟨x, hx, hdeep⟩ := hdeep
        rcases List.mem_cons.mp hx with rfl | hx
        · exact absurd hdeep hfirst
        · exact ⟨x, hx, hdeep⟩
      rw [he.returns hfirst]
      exact ih hentries hrest _

theorem dumpEntries_returns {entries : List (String × Json)}
    (h : ∀ e ∈ entries, Dumps maxDepth e.2) (hdeep : ∀ e ∈ entries, ¬ DeeperThan e.2 maxDepth)
    (done : List (String × Json)) : dumpEntries maxDepth done entries =
      .ok ((entries.map fun e => (safeOutput e.1, sanitized e.2)).foldl
        (fun d e => Dict.set d e.1 e.2) done) := by
  induction entries generalizing done with
  | nil => rfl
  | cons e entries ih =>
    obtain ⟨he, hentries⟩ := List.forall_mem_cons.mp h
    obtain ⟨hfirst, hrest⟩ := List.forall_mem_cons.mp hdeep
    rw [dumpEntries, he.returns hfirst]
    exact ih hentries hrest _

theorem dumps_of_neg (v : Json) (h : maxDepth < 0) : Dumps maxDepth v := by
  refine ⟨fun _ => ?_, fun hdeep => absurd (deeperThan_of_neg v h) hdeep⟩
  cases v <;> rw [safeJsonDump, if_pos h]

theorem dumps (v : Json) (maxDepth : Int) : Dumps maxDepth v := by
  induction v using Json.induct generalizing maxDepth with
  | leaf v hleaf =>
    rcases lt_or_ge maxDepth 0 with hneg | hdepth
    · exact dumps_of_neg v hneg
    · refine ⟨fun h => absurd h (not_deeperThan_leaf hleaf hdepth), fun _ => ?_⟩
      cases v with
      | null | bool | int | float | str => rw [safeJsonDump, if_neg (not_lt.mpr hdepth), sanitized]
      | arr | obj => contradiction
  | arr items ih =>
    rcases lt_or_ge maxDepth 0 with hneg | hdepth
    · exact dumps_of_neg _ hneg
    · have hitems : ∀ v ∈ items, Dumps (maxDepth - 1) v := fun v hv => ih v hv _
      constructor
      · intro h
        rw [safeJsonDump, if_neg (not_lt.mpr hdepth),
          dumpItems_raises hitems ((deeperThan_arr_iff hdepth).mp h)]
        rfl
      · intro h
        have hrest : ∀ v ∈ items, ¬ DeeperThan v (maxDepth - 1) := fun v hv hdeeper =>
          h ((deeperThan_arr_iff hdepth).mpr ⟨v, hv, hdeeper⟩)
        rw [safeJsonDump, if_neg (not_lt.mpr hdepth), dumpItems_returns hitems hrest, sanitized,
          sanitizedItems_eq]
        rfl
  | obj entries ih =>
    rcases lt_or_ge maxDepth 0 with hneg | hdepth
    · exact dumps_of_neg _ hneg
    · have hentries : ∀ e ∈ entries, Dumps (maxDepth - 1) e.2 := fun e he => ih e he _
      constructor
      · intro h
        rw [safeJsonDump, if_neg (not_lt.mpr hdepth),
          dumpEntries_raises hentries ((deeperThan_obj_iff hdepth).mp h)]
        rfl
      · intro h
        have hrest : ∀ e ∈ entries, ¬ DeeperThan e.2 (maxDepth - 1) := fun e he hdeeper =>
          h ((deeperThan_obj_iff hdepth).mpr ⟨e, he, hdeeper⟩)
        rw [safeJsonDump, if_neg (not_lt.mpr hdepth), dumpEntries_returns hentries hrest, sanitized,
          sanitizedEntries_eq]
        rfl

end Dump

/-! What the dump makes of the texts, the keys and the rest. -/

/-- No null character, and not too long. -/
def SafeText (s : String) : Prop := '\x00' ∉ s.toList ∧ s.length ≤ maxOutputLength

/-- Every text and every key is safe. -/
structure Safe (v : Json) : Prop where
  texts : ∀ n s, NodeAt v n (.str s) → SafeText s
  keys : ∀ n entries, NodeAt v n (.obj entries) → ∀ e ∈ entries, SafeText e.1

/-- The last entry whose key becomes this text. -/
def lastEntry (entries : List (String × Json)) (key : String) : Option (String × Json) :=
  (entries.filter fun e => decide (safeOutput e.1 = key)).getLast?

/-- Scalars stay, lists keep their length, and an object keeps for each of its new keys the last
value. -/
inductive Kept : Json → Json → Prop
  | scalar {v : Json} : v.isScalar = true → Kept v v
  | text (s : String) : Kept (.str s) (.str (safeOutput s))
  | items {items items' : List Json} : items'.length = items.length →
      (∀ (i : Nat) v v', items[i]? = some v → items'[i]? = some v' → Kept v v') →
      Kept (.arr items) (.arr items')
  | entries {entries entries' : List (String × Json)} :
      (∀ key, key ∈ entries'.map Prod.fst ↔ ∃ e ∈ entries, safeOutput e.1 = key) →
      (∀ e' ∈ entries', ∀ e, lastEntry entries e'.1 = some e → Kept e.2 e'.2) →
      Kept (.obj entries) (.obj entries')

section Sanitized

theorem safeText_safeOutput (s : String) : SafeText (safeOutput s) := by
  have hfilter : '\x00' ∉ s.toList.filter (· ≠ '\x00') := by simp
  unfold SafeText safeOutput
  rw [← String.length_toList, String.toList_ofList]
  split_ifs with hlong
  · exact ⟨fun hmem => hfilter (List.mem_of_mem_take hmem), List.length_take_le _ _⟩
  · exact ⟨hfilter, not_lt.mp hlong⟩

theorem safeOutput_of_safe {s : String} (h : SafeText s) : safeOutput s = s := by
  have hsame : s.toList.filter (· ≠ '\x00') = s.toList := by
    rw [List.filter_eq_self]
    intro c hc
    exact decide_eq_true fun heq => h.1 (heq ▸ hc)
  rw [safeOutput, hsame, String.length_toList, if_neg (not_lt.mpr h.2), String.ofList_toList]

theorem safe_arr_iff {items : List Json} : Safe (.arr items) ↔ ∀ v ∈ items, Safe v := by
  constructor
  · intro h v hv
    exact ⟨fun n s hs => h.texts _ s (.item hv hs), fun n d hd => h.keys _ d (.item hv hd)⟩
  · intro h
    constructor
    · intro n s hs
      obtain ⟨-, heq⟩ | ⟨m, -, v, hv, hm⟩ := nodeAt_arr_iff.mp hs
      · contradiction
      · exact (h v hv).texts m s hm
    · intro n d hd
      obtain ⟨-, heq⟩ | ⟨m, -, v, hv, hm⟩ := nodeAt_arr_iff.mp hd
      · contradiction
      · exact (h v hv).keys m d hm

theorem safe_obj_iff {entries : List (String × Json)} :
    Safe (.obj entries) ↔ ∀ e ∈ entries, SafeText e.1 ∧ Safe e.2 := by
  constructor
  · intro h e he
    exact ⟨h.keys 0 entries (.root _) e he,
      fun n s hs => h.texts _ s (.entry he hs), fun n d hd => h.keys _ d (.entry he hd)⟩
  · intro h
    constructor
    · intro n s hs
      obtain ⟨-, heq⟩ | ⟨m, -, e, he, hm⟩ := nodeAt_obj_iff.mp hs
      · contradiction
      · exact (h e he).2.texts m s hm
    · intro n d hd
      obtain ⟨-, heq⟩ | ⟨m, -, e, he, hm⟩ := nodeAt_obj_iff.mp hd
      · obtain rfl := Json.obj.inj heq
        exact fun e he => (h e he).1
      · exact (h e he).2.keys m d hm

theorem safe_str_iff {s : String} : Safe (.str s) ↔ SafeText s := by
  refine ⟨fun h => h.texts 0 s (.root _), fun h => ⟨fun n t ht => ?_, fun n d hd => ?_⟩⟩
  · obtain ⟨-, heq⟩ := (nodeAt_leaf_iff rfl).mp ht
    obtain rfl := Json.str.inj heq
    exact h
  · obtain ⟨-, heq⟩ := (nodeAt_leaf_iff rfl).mp hd
    contradiction

theorem safe_scalar {v : Json} (h : v.isScalar = true) : Safe v := by
  have hleaf : v.isLeaf = true := by
    cases v with
    | null | bool | int | float => rfl
    | str | arr | obj => contradiction
  constructor
  · intro n s hs
    obtain ⟨-, rfl⟩ := (nodeAt_leaf_iff hleaf).mp hs
    contradiction
  · intro n d hd
    obtain ⟨-, rfl⟩ := (nodeAt_leaf_iff hleaf).mp hd
    contradiction

theorem sanitized_leaf {v : Json} (h : v.isLeaf = true) :
    v.isScalar = true ∧ sanitized v = v ∨ ∃ s, v = .str s ∧ sanitized v = .str (safeOutput s) := by
  cases v with
  | null | bool | int | float => exact .inl ⟨rfl, by rw [sanitized]⟩
  | str s => exact .inr ⟨s, rfl, by rw [sanitized]⟩
  | arr | obj => contradiction

theorem sanitized_arr (items : List Json) : sanitized (.arr items) = .arr (items.map sanitized) := by
  rw [sanitized, sanitizedItems_eq]

theorem sanitized_obj (entries : List (String × Json)) : sanitized (.obj entries) =
    .obj (Dict.collect (entries.map fun e => (safeOutput e.1, sanitized e.2))) := by
  rw [sanitized, sanitizedEntries_eq]

/-- The entries of a sanitized object come from the last entries with their keys. -/
theorem lastEntry_of_mem {entries : List (String × Json)} {e' : String × Json}
    (h : e' ∈ Dict.collect (entries.map fun e => (safeOutput e.1, sanitized e.2))) :
    ∃ e ∈ entries, lastEntry entries e'.1 = some e ∧ e' = (safeOutput e.1, sanitized e.2) := by
  have hlast := Dict.last_of_mem_collect h
  rw [List.filter_map, List.getLast?_map] at hlast
  obtain ⟨e, he, heq⟩ := Option.map_eq_some_iff.mp hlast
  exact ⟨e, (List.mem_filter.mp (List.mem_of_getLast? he)).1, he, heq.symm⟩

theorem safe_sanitized (v : Json) : Safe (sanitized v) := by
  induction v using Json.induct with
  | leaf v hleaf =>
    rcases sanitized_leaf hleaf with ⟨hscalar, heq⟩ | ⟨s, -, heq⟩ <;> rw [heq]
    · exact safe_scalar hscalar
    · exact safe_str_iff.mpr (safeText_safeOutput s)
  | arr items ih =>
    rw [sanitized_arr, safe_arr_iff]
    exact List.forall_mem_map.mpr ih
  | obj entries ih =>
    rw [sanitized_obj, safe_obj_iff]
    intro e' he'
    obtain ⟨e, he, -, rfl⟩ := lastEntry_of_mem he'
    exact ⟨safeText_safeOutput e.1, ih e he⟩

theorem distinctKeys_sanitized (v : Json) : (sanitized v).DistinctKeys := by
  induction v using Json.induct with
  | leaf v hleaf =>
    rcases sanitized_leaf hleaf with ⟨-, heq⟩ | ⟨s, -, heq⟩ <;> rw [heq]
    · exact .leaf hleaf
    · exact .leaf rfl
  | arr items ih =>
    rw [sanitized_arr]
    exact .arr (List.forall_mem_map.mpr ih)
  | obj entries ih =>
    rw [sanitized_obj]
    refine .obj (Dict.nodup_keys_collect _) fun e' he' => ?_
    obtain ⟨e, he, -, rfl⟩ := lastEntry_of_mem he'
    exact ih e he

theorem kept_sanitized (v : Json) : Kept v (sanitized v) := by
  induction v using Json.induct with
  | leaf v hleaf =>
    rcases sanitized_leaf hleaf with ⟨hscalar, heq⟩ | ⟨s, rfl, heq⟩ <;> rw [heq]
    · exact .scalar hscalar
    · exact .text s
  | arr items ih =>
    rw [sanitized_arr]
    refine .items (List.length_map _) fun i v v' hv hv' => ?_
    rw [List.getElem?_map, hv, Option.map_some, Option.some.injEq] at hv'
    rw [← hv']
    exact ih v (List.mem_of_getElem? hv)
  | obj entries ih =>
    rw [sanitized_obj]
    refine .entries (fun key => ?_) fun e' he' e hlast => ?_
    · rw [Dict.mem_keys_collect]
      simp
    · obtain ⟨x, hx, hlast', rfl⟩ := lastEntry_of_mem he'
      obtain rfl : e = x := Option.some.inj (hlast.symm.trans hlast')
      exact ih e hx

theorem deeperThan_of_sanitized {v : Json} {bound : Int} (h : DeeperThan (sanitized v) bound) :
    DeeperThan v bound := by
  induction v using Json.induct generalizing bound with
  | leaf v hleaf =>
    rcases lt_or_ge bound 0 with hneg | hbound
    · exact deeperThan_of_neg v hneg
    · have hleaf' : (sanitized v).isLeaf = true := by
        rcases sanitized_leaf hleaf with ⟨-, heq⟩ | ⟨s, -, heq⟩ <;> rw [heq]
        · exact hleaf
        · rfl
      exact absurd h (not_deeperThan_leaf hleaf' hbound)
  | arr items ih =>
    rcases lt_or_ge bound 0 with hneg | hbound
    · exact deeperThan_of_neg _ hneg
    · rw [sanitized_arr, deeperThan_arr_iff hbound] at h
      obtain ⟨v', hv', hdeep⟩ := h
      obtain ⟨v, hv, rfl⟩ := List.mem_map.mp hv'
      exact (deeperThan_arr_iff hbound).mpr ⟨v, hv, ih v hv hdeep⟩
  | obj entries ih =>
    rcases lt_or_ge bound 0 with hneg | hbound
    · exact deeperThan_of_neg _ hneg
    · rw [sanitized_obj, deeperThan_obj_iff hbound] at h
      obtain ⟨e', he', hdeep⟩ := h
      obtain ⟨e, he, -, rfl⟩ := lastEntry_of_mem he'
      exact (deeperThan_obj_iff hbound).mpr ⟨e, he, ih e he hdeep⟩

/-- A safe value stays as it is. -/
theorem sanitized_of_safe {v : Json} (hkeys : v.DistinctKeys) (hsafe : Safe v) :
    sanitized v = v := by
  induction hkeys with
  | leaf hleaf =>
    rcases sanitized_leaf hleaf with ⟨-, heq⟩ | ⟨s, rfl, heq⟩ <;> rw [heq]
    rw [safeOutput_of_safe (safe_str_iff.mp hsafe)]
  | @arr items hitems ih =>
    rw [safe_arr_iff] at hsafe
    have hsame : items.map sanitized = items :=
      (List.map_congr_left fun v hv => ih v hv (hsafe v hv)).trans (List.map_id items)
    rw [sanitized_arr, hsame]
  | @obj entries hnodup hentries ih =>
    rw [safe_obj_iff] at hsafe
    have hsame : entries.map (fun e => (safeOutput e.1, sanitized e.2)) = entries := by
      refine (List.map_congr_left fun e he => ?_).trans (List.map_id entries)
      rw [safeOutput_of_safe (hsafe e he).1, ih e he (hsafe e he).2]
      rfl
    rw [sanitized_obj, hsame, Dict.collect_of_nodup hnodup]

end Sanitized

/-- A JSON value that Python holds. -/
structure PyJson where
  value : Json
  distinct : value.DistinctKeys

/-- The dump raises `ValueError` exactly for a node below the bound. Otherwise it leaves safe texts
and keys, keeps scalars and the lengths of lists, of several keys of an object that become the same
text the last value, and any safe value; its results are its fixed points. -/
theorem safeJsonDump_spec (v : PyJson) (maxDepth : Int) :
    (safeJsonDump maxDepth v.value = .error .valueError ↔ DeeperThan v.value maxDepth) ∧
    (¬ DeeperThan v.value maxDepth → ∃ w : PyJson, safeJsonDump maxDepth v.value = .ok w.value ∧
      Safe w.value ∧ Kept v.value w.value ∧ (Safe v.value → w.value = v.value) ∧
      safeJsonDump maxDepth w.value = .ok w.value) := by
  have hdumps := dumps v.value maxDepth
  refine ⟨⟨fun hraised => ?_, hdumps.raises⟩, fun hdeep => ?_⟩
  · by_contra hdeep
    rw [hdumps.returns hdeep] at hraised
    contradiction
  · have hsafe := safe_sanitized v.value
    have hkeys := distinctKeys_sanitized v.value
    have hagain := (dumps (sanitized v.value) maxDepth).returns fun h =>
      hdeep (deeperThan_of_sanitized h)
    rw [sanitized_of_safe hkeys hsafe] at hagain
    exact ⟨⟨sanitized v.value, hkeys⟩, hdumps.returns hdeep, hsafe, kept_sanitized v.value,
      sanitized_of_safe v.distinct, hagain⟩

/-- Every scalar stays at its depth. -/
def KeepsScalars (v w : Json) : Prop :=
  ∀ n x, x.isScalar = true → NodeAt v n x → NodeAt w n x

/-- Two keys that differ in a null character. -/
def collidingKeys : PyJson where
  value := .obj [("a", .int 1), ("a\x00", .int 2)]
  distinct := .obj (by decide) (by
    rw [List.forall_mem_cons, List.forall_mem_singleton]
    exact ⟨.leaf rfl, .leaf rfl⟩)

theorem sanitized_collidingKeys :
    sanitized collidingKeys.value = .obj [("a", .int 2)] := by
  have hplain : safeOutput "a" = "a" := by decide
  have hnull : safeOutput "a\x00" = "a" := by decide
  rw [collidingKeys, sanitized_obj, List.map_cons, List.map_singleton, hplain, hnull]
  simp [Dict.collect, Dict.set, sanitized]

/-- The value of the first key is lost. -/
theorem scalars_not_kept :
    ¬ ∀ (v : PyJson) (maxDepth : Int) (w : Json), safeJsonDump maxDepth v.value = .ok w →
      KeepsScalars v.value w := by
  intro h
  have hflat : ¬ DeeperThan collidingKeys.value 10 := by
    rw [collidingKeys, deeperThan_obj_iff (by decide)]
    rintro ⟨e, he, hdeep⟩
    have hleaf : e.2.isLeaf = true := by
      rcases List.mem_cons.mp he with rfl | he
      · rfl
      · rw [List.mem_singleton.mp he]
        rfl
    exact not_deeperThan_leaf hleaf (by decide) hdeep
  have hone := h collidingKeys 10 _ ((dumps _ _).returns hflat) 1 (.int 1) rfl
    (.entry List.mem_cons_self (.root _))
  rw [sanitized_collidingKeys] at hone
  rcases nodeAt_obj_iff.mp hone with ⟨-, heq⟩ | ⟨m, -, e, he, hm⟩
  · contradiction
  · rw [List.mem_singleton.mp he] at hm
    have heq := Json.int.inj ((nodeAt_leaf_iff rfl).mp hm).2
    contradiction

end SolanaAuditor.Suggestions
