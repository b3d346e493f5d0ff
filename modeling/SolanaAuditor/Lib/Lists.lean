/- SolanaAuditor/Lib/Lists
   digest: Lists related member by member, and lists of pairs. -/

import Mathlib.Data.List.Forall2
import Mathlib.Data.List.Nodup
import Mathlib.Data.List.TakeWhile

set_option autoImplicit false
set_option relaxedAutoImplicit false

namespace SolanaAuditor.Lib.Lists

variable {α β γ : Type}

theorem forall_mem_iff_of_forall₂ {r : α → β → Prop} {as : List α} {bs : List β}
    (h : List.Forall₂ r as bs) {p : α → Prop} {q : β → Prop}
    (hpq : ∀ a ∈ as, ∀ b, r a b → (p a ↔ q b)) : (∀ a ∈ as, p a) ↔ ∀ b ∈ bs, q b := by
  induction h with
  | nil => simp
  | cons hab _ ih =>
    obtain ⟨hhead, htail⟩ := List.forall_mem_cons.mp hpq
    rw [List.forall_mem_cons, List.forall_mem_cons, hhead _ hab, ih htail]

/-- The images of the members that a condition on the image selects. -/
theorem mem_map_iff_of_mem_iff {f : α → β} {p : β → Prop} {as bs : List α}
    (h : ∀ a, a ∈ bs ↔ a ∈ as ∧ p (f a)) {b : β} : b ∈ bs.map f ↔ b ∈ as.map f ∧ p b := by
  constructor
  · intro hb
    obtain ⟨a, ha, rfl⟩ := List.mem_map.mp hb
    obtain ⟨hmem, hp⟩ := (h a).mp ha
    exact ⟨List.mem_map_of_mem hmem, hp⟩
  · rintro ⟨hb, hp⟩
    obtain ⟨a, ha, rfl⟩ := List.mem_map.mp hb
    exact List.mem_map_of_mem ((h a).mpr ⟨ha, hp⟩)

theorem forall₂_and {r r' : α → β → Prop} {as : List α} {bs : List β} :
    List.Forall₂ (fun a b => r a b ∧ r' a b) as bs ↔
      List.Forall₂ r as bs ∧ List.Forall₂ r' as bs := by
  refine ⟨fun h => ⟨h.imp fun _ _ h => h.1, h.imp fun _ _ h => h.2⟩, ?_⟩
  rintro ⟨h, h'⟩
  induction h with
  | nil => exact .nil
  | cons hab _ ih =>
    cases h' with
    | cons hab' hrest => exact .cons ⟨hab, hab'⟩ (ih hrest)

theorem forall₂_and_right {r : α → β → Prop} {p : β → Prop} {as : List α} {bs : List β} :
    List.Forall₂ (fun a b => p b ∧ r a b) as bs ↔ (∀ b ∈ bs, p b) ∧ List.Forall₂ r as bs := by
  constructor
  · intro h
    obtain ⟨hp, hr⟩ := (List.forall₂_and_left bs as).mp (List.Forall₂.flip h)
    exact ⟨hp, List.Forall₂.flip hr⟩
  · rintro ⟨hp, hr⟩
    exact List.Forall₂.flip ((List.forall₂_and_left bs as).mpr ⟨hp, List.Forall₂.flip hr⟩)

theorem map_eq_map_of_forall₂ {f : α → γ} {g : β → γ} {as : List α} {bs : List β}
    (h : List.Forall₂ (fun a b => f a = g b) as bs) : as.map f = bs.map g := by
  induction h with
  | nil => rfl
  | cons hab _ ih => rw [List.map_cons, List.map_cons, hab, ih]

/-- A list is related to some list where each member is related to something. -/
theorem exists_forall₂_iff {r : α → β → Prop} {as : List α} :
    (∃ bs, List.Forall₂ r as bs) ↔ ∀ a ∈ as, ∃ b, r a b := by
  constructor
  · rintro ⟨bs, h⟩
    induction h with
    | nil => simp
    | cons hab _ ih => exact List.forall_mem_cons.mpr ⟨⟨_, hab⟩, ih⟩
  · intro h
    induction as with
    | nil => exact ⟨[], .nil⟩
    | cons a as ih =>
      obtain ⟨⟨b, hab⟩, hrest⟩ := List.forall_mem_cons.mp h
      obtain ⟨bs, hbs⟩ := ih hrest
      exact ⟨b :: bs, .cons hab hbs⟩

theorem forall₂_comp {r : α → β → Prop} {s : β → γ → Prop} {as : List α} {bs : List β}
    {cs : List γ} (h : List.Forall₂ r as bs) (h' : List.Forall₂ s bs cs) :
    List.Forall₂ (fun a c => ∃ b, r a b ∧ s b c) as cs := by
  induction h generalizing cs with
  | nil =>
    cases h'
    exact .nil
  | cons hab _ ih =>
    cases h' with
    | cons hbc hrest => exact .cons ⟨_, hab, hbc⟩ (ih hrest)

/-- A partial map that drops no member leaves the members side by side with their images. -/
theorem forall₂_filterMap {f : α → Option β} {l : List α}
    (h : (l.filterMap f).length = l.length) :
    List.Forall₂ (fun a b => f a = some b) l (l.filterMap f) := by
  have hsome := List.filterMap_length_eq_length.mp h
  clear h
  induction l with
  | nil => exact .nil
  | cons a l ih =>
    obtain ⟨hhead, htail⟩ := List.forall_mem_cons.mp hsome
    obtain ⟨b, hb⟩ := Option.isSome_iff_exists.mp hhead
    rw [List.filterMap_cons_some hb]
    exact .cons hb (ih htail)

theorem filterMap_of_forall₂ {f : α → Option β} {l : List α} {bs : List β}
    (h : List.Forall₂ (fun a b => f a = some b) l bs) : l.filterMap f = bs := by
  induction h with
  | nil => rfl
  | cons hb _ ih => rw [List.filterMap_cons_some hb, ih]

/-- What a pair of a list has, every member has with the last one, but for the last one itself. -/
theorem pairwise_last {r : α → α → Prop} {l : List α} {a : α} (h : l.Pairwise r)
    (hlast : l.getLast? = some a) : ∀ b ∈ l, b = a ∨ r b a := by
  obtain ⟨front, rfl⟩ := List.getLast?_eq_some_iff.mp hlast
  intro b hb
  rcases List.mem_append.mp hb with hb | hb
  · exact .inr ((List.pairwise_append.mp h).2.2 b hb a List.mem_cons_self)
  · exact .inl (List.mem_singleton.mp hb)

/-- Two counts, one of which is the smaller, are equal when they count the same members. -/
theorem countP_eq_iff_of_imp {p q : α → Bool} {l : List α}
    (h : ∀ a ∈ l, p a = true → q a = true) :
    l.countP p = l.countP q ↔ ∀ a ∈ l, q a = true → p a = true := by
  induction l with
  | nil => simp
  | cons a l ih =>
    obtain ⟨hhead, htail⟩ := List.forall_mem_cons.mp h
    have hle : l.countP p ≤ l.countP q := List.countP_mono_left htail
    rw [List.forall_mem_cons, ← ih htail, List.countP_cons, List.countP_cons]
    cases hp : p a with
    | true => simp [hhead hp]
    | false =>
      cases hq : q a with
      | true =>
        simp only [Bool.false_eq_true, if_false, if_true, imp_false, false_and,
          not_true_eq_false, iff_false]
        omega
      | false => simp

theorem append_cons_inj {a : α} {x y u v : List α} (hx : a ∉ x) (hy : a ∉ y)
    (h : x ++ a :: u = y ++ a :: v) : x = y ∧ u = v := by
  induction x generalizing y with
  | nil =>
    cases y with
    | nil => simpa using h
    | cons c y =>
      obtain ⟨rfl, -⟩ := List.cons.inj h
      exact absurd List.mem_cons_self hy
  | cons b x ih =>
    cases y with
    | nil =>
      obtain ⟨rfl, -⟩ := List.cons.inj h
      exact absurd List.mem_cons_self hx
    | cons c y =>
      obtain ⟨rfl, htail⟩ := List.cons.inj h
      obtain ⟨rfl, rfl⟩ := ih (fun hm => hx (List.mem_cons_of_mem _ hm))
        (fun hm => hy (List.mem_cons_of_mem _ hm)) htail
      exact ⟨rfl, rfl⟩

/-- A map of a list into itself that makes no element larger, and only fixed elements no smaller,
has no two equal images only where it fixes every element. -/
theorem fixed_of_injOn {f : α → α} (size : α → Nat) {l : List α}
    (hsize : ∀ a, f a = a ∨ size (f a) < size a) (hmaps : ∀ a ∈ l, f a ∈ l)
    (hinj : ∀ a ∈ l, ∀ b ∈ l, f a = f b → a = b) : ∀ a ∈ l, f a = a := by
  intro a ha
  induction hn : size a using Nat.strongRecOn generalizing a with
  | ind n ih =>
    rcases hsize a with hfix | hless
    · exact hfix
    · have hagain := ih _ (hn ▸ hless) (f a) (hmaps a ha) rfl
      exact hinj (f a) (hmaps a ha) a ha hagain

/-- In a list with members, not every member has one with a property that is larger than it if it
has the property itself. -/
theorem not_always_larger {l : List α} (hne : l ≠ []) (p : α → Prop) (size : α → Nat) :
    ¬ ∀ a ∈ l, ∃ b ∈ l, p b ∧ (p a → size a < size b) := by
  intro h
  have hgrow : ∀ n, ∃ b ∈ l, p b ∧ n ≤ size b := by
    intro n
    induction n with
    | zero =>
      obtain ⟨a, ha⟩ := List.exists_mem_of_ne_nil l hne
      obtain ⟨b, hb, hpb, -⟩ := h a ha
      exact ⟨b, hb, hpb, Nat.zero_le _⟩
    | succ n ih =>
      obtain ⟨b, hb, hpb, hn⟩ := ih
      obtain ⟨c, hc, hpc, hlt⟩ := h b hb
      exact ⟨c, hc, hpc, Nat.lt_of_le_of_lt hn (hlt hpb)⟩
  have hsizes : l.map size ≠ [] := fun hnil => hne (List.map_eq_nil_iff.mp hnil)
  obtain ⟨b, hb, -, hlarge⟩ := hgrow ((l.map size).max hsizes + 1)
  have hsmall : size b ≤ (l.map size).max hsizes := List.le_max_of_mem (List.mem_map_of_mem hb)
  omega

/-- The first piece of a text between two separators is one of the pieces. -/
theorem takeWhile_mem_splitOn [BEq α] [LawfulBEq α] (sep : α) (a s b : List α) :
    s.takeWhile (· != sep) ∈ (a ++ sep :: (s ++ sep :: b)).splitOn sep := by
  rw [List.splitOn_append_cons_self, List.splitOn_append_cons_self]
  refine List.mem_append_right _ (List.mem_append_left _ ?_)
  by_cases hsep : sep ∈ s
  · obtain ⟨u, v, rfl, hu⟩ := List.eq_append_cons_of_mem hsep
    have hfree : ∀ c ∈ u, (c != sep) = true := fun c hc => bne_iff_ne.mpr fun h => hu (h ▸ hc)
    have htake : (u ++ sep :: v).takeWhile (· != sep) = u := by
      rw [List.takeWhile_append_of_pos hfree, List.takeWhile_cons_of_neg (by simp),
        List.append_nil]
    rw [htake, List.splitOn_append_cons_self_of_not_mem hu]
    exact List.mem_cons_self
  · rw [List.splitOn_eq_singleton hsep, List.mem_singleton, List.takeWhile_eq_self_iff]
    intro c hc
    exact bne_iff_ne.mpr fun h => hsep (h ▸ hc)

/-- A member of a list stands between two separators in the joined list with one at each end. -/
theorem mem_intercalate {sep : α} {ls : List (List α)} {s : List α} (h : s ∈ ls) :
    ∃ a b, sep :: ([sep].intercalate ls ++ [sep]) = a ++ sep :: (s ++ sep :: b) := by
  induction ls with
  | nil => exact absurd h List.not_mem_nil
  | cons l ls ih =>
    rcases List.mem_cons.mp h with rfl | h
    · cases ls with
      | nil => exact ⟨[], [], by simp⟩
      | cons l' ls => exact ⟨[], [sep].intercalate (l' :: ls) ++ [sep], by simp⟩
    · obtain ⟨a, b, hab⟩ := ih h
      rw [List.intercalate_cons_of_ne_nil (List.ne_nil_of_mem h)]
      exact ⟨sep :: (l ++ a), b, by simp [← hab]⟩

/-- Pairs are pairwise different when the second parts under each first part are. -/
theorem nodup_map_pair [DecidableEq β] (l : List α) (f : α → β) (g : α → γ) :
    (l.map fun a => (f a, g a)).Nodup ↔
      ∀ w, ((l.filter fun a => decide (f a = w)).map g).Nodup := by
  induction l with
  | nil => simp
  | cons a l ih =>
    rw [List.map_cons, List.nodup_cons, ih]
    have hhead : (f a, g a) ∉ l.map (fun a => (f a, g a)) ↔
        g a ∉ (l.filter fun b => decide (f b = f a)).map g := by
      simp [eq_comm]
    rw [hhead]
    constructor
    · rintro ⟨hnotin, hrest⟩ w
      by_cases hw : f a = w
      · subst hw
        simpa [List.filter_cons] using ⟨by simpa using hnotin, hrest (f a)⟩
      · simpa [List.filter_cons, hw] using hrest w
    · intro h
      constructor
      · have hself := h (f a)
        rw [List.filter_cons, if_pos (by simp), List.map_cons, List.nodup_cons] at hself
        exact hself.1
      · intro w
        by_cases hw : f a = w
        · have hself := h w
          rw [List.filter_cons, if_pos (by simpa using hw), List.map_cons, List.nodup_cons] at hself
          exact hself.2
        · simpa [List.filter_cons, hw] using h w

/-- `a` is in the list, and it and everything before it has the property. -/
inductive Reached (p : α → Prop) : List α → α → Prop
  | here {a : α} {as : List α} : p a → Reached p (a :: as) a
  | later {a b : α} {as : List α} : p b → Reached p as a → Reached p (b :: as) a

theorem Reached.mem {p : α → Prop} {as : List α} {a : α} (h : Reached p as a) : a ∈ as := by
  induction h with
  | here => exact List.mem_cons_self
  | later _ _ ih => exact List.mem_cons_of_mem _ ih

theorem Reached.imp {p q : α → Prop} {as : List α} {a : α} (h : Reached p as a)
    (hpq : ∀ b ∈ as, p b → q b) : Reached q as a := by
  induction h with
  | here ha => exact .here (hpq _ List.mem_cons_self ha)
  | later hb _ ih =>
    obtain ⟨hhead, htail⟩ := List.forall_mem_cons.mp hpq
    exact .later (hhead hb) (ih htail)

section Firsts

variable {κ : Type} [DecidableEq κ]

/-- The members that are the first with their key, after the keys in `seen`. -/
def firstsBy (key : α → Option κ) : List κ → List α → List α
  | _, [] => []
  | seen, a :: as =>
      match key a with
      | none => firstsBy key seen as
      | some k => if k ∈ seen then firstsBy key seen as else a :: firstsBy key (k :: seen) as

/-- The member stands in the list with no member of its key before it. -/
def FirstOf (key : α → Option κ) (as : List α) (a : α) (k : κ) : Prop :=
  key a = some k ∧ ∃ before after, as = before ++ a :: after ∧ ∀ b ∈ before, key b ≠ some k

omit [DecidableEq κ] in
theorem firstOf_cons {key : α → Option κ} {x a : α} {as : List α} {k : κ} :
    FirstOf key (x :: as) a k ↔
      (x = a ∧ key a = some k) ∨ (key x ≠ some k ∧ FirstOf key as a k) := by
  constructor
  · rintro ⟨hk, before, after, has, hbefore⟩
    cases before with
    | nil => exact Or.inl ⟨(List.cons.inj has).1, hk⟩
    | cons y before =>
      obtain ⟨rfl, rfl⟩ := List.cons.inj has
      obtain ⟨hx, hbefore⟩ := List.forall_mem_cons.mp hbefore
      exact Or.inr ⟨hx, hk, before, after, rfl, hbefore⟩
  · rintro (⟨rfl, hk⟩ | ⟨hx, hk, before, after, rfl, hbefore⟩)
    · exact ⟨hk, [], as, rfl, by simp⟩
    · exact ⟨hk, x :: before, after, rfl, List.forall_mem_cons.mpr ⟨hx, hbefore⟩⟩

theorem exists_firstOf {key : α → Option κ} {as : List α} {a : α} {k : κ} (ha : a ∈ as)
    (hk : key a = some k) : ∃ b, FirstOf key as b k := by
  induction as with
  | nil => simp at ha
  | cons x as ih =>
    by_cases hx : key x = some k
    · exact ⟨x, firstOf_cons.mpr (Or.inl ⟨rfl, hx⟩)⟩
    · have ha' : a ∈ as := by
        rcases List.mem_cons.mp ha with rfl | ha
        · exact absurd hk hx
        · exact ha
      obtain ⟨b, hb⟩ := ih ha'
      exact ⟨b, firstOf_cons.mpr (Or.inr ⟨hx, hb⟩)⟩

omit [DecidableEq κ] in
theorem FirstOf.mem {key : α → Option κ} {as : List α} {a : α} {k : κ}
    (h : FirstOf key as a k) : a ∈ as := by
  obtain ⟨-, before, after, rfl, -⟩ := h
  simp

theorem mem_firstsBy {key : α → Option κ} {seen : List κ} {as : List α} {a : α} :
    a ∈ firstsBy key seen as ↔ ∃ k, k ∉ seen ∧ FirstOf key as a k := by
  induction as generalizing seen with
  | nil => simp [firstsBy, FirstOf]
  | cons x as ih =>
    simp only [firstOf_cons]
    unfold firstsBy
    cases hx : key x with
    | none =>
      simp only [ih]
      grind
    | some k =>
      simp only
      split_ifs with hk
      · rw [ih]
        grind
      · rw [List.mem_cons, ih]
        grind

theorem nodup_firstsBy {key : α → Option κ} {seen : List κ} {as : List α} :
    ((firstsBy key seen as).map key).Nodup := by
  induction as generalizing seen with
  | nil => exact List.nodup_nil
  | cons x as ih =>
    unfold firstsBy
    cases hx : key x with
    | none => exact ih
    | some k =>
      simp only
      split_ifs with hk
      · exact ih
      · rw [List.map_cons, List.nodup_cons]
        refine ⟨?_, ih⟩
        intro hmem
        obtain ⟨a, ha, hkey⟩ := List.mem_map.mp hmem
        obtain ⟨k', hk', hfirst⟩ := mem_firstsBy.mp ha
        have hsame : k = k' := by simpa [hx, hfirst.1, eq_comm] using hkey
        exact hk' (hsame ▸ List.mem_cons_self)

end Firsts

section Largest

variable {score : α → Nat} {l : List α}

/-- The first of the members with the largest score. -/
def FirstLargest (score : α → Nat) (l : List α) (a : α) : Prop :=
  ∃ before after, l = before ++ a :: after ∧ (∀ b ∈ before, score b < score a) ∧
    ∀ b ∈ after, score b ≤ score a

def keepLarger (score : α → Nat) (best : α × Nat) (a : α) : α × Nat :=
  if best.2 < score a then (a, score a) else best

theorem FirstLargest.mem {a : α} (h : FirstLargest score l a) : a ∈ l := by
  obtain ⟨before, after, rfl, -, -⟩ := h
  simp

theorem FirstLargest.cons {a x : α} (h : FirstLargest score l a) (hx : score x < score a) :
    FirstLargest score (x :: l) a := by
  obtain ⟨before, after, rfl, hbefore, hafter⟩ := h
  exact ⟨x :: before, after, rfl, List.forall_mem_cons.mpr ⟨hx, hbefore⟩, hafter⟩

theorem FirstLargest.unique {a b : α} (h : FirstLargest score l a) (h' : FirstLargest score l b) :
    a = b := by
  obtain ⟨before, after, rfl, hbefore, hafter⟩ := h
  obtain ⟨before', after', heq, hbefore', hafter'⟩ := h'
  rcases List.append_eq_append_iff.mp heq with ⟨u, hu, hu'⟩ | ⟨u, hu, hu'⟩
  · cases u with
    | nil => exact (List.cons.inj hu').1
    | cons c u =>
      obtain ⟨rfl, rfl⟩ := List.cons.inj hu'
      have hlt := hbefore' a (by simp [hu])
      have hle := hafter b (by simp)
      omega
  · cases u with
    | nil => exact (List.cons.inj hu').1.symm
    | cons c u =>
      obtain ⟨rfl, rfl⟩ := List.cons.inj hu'
      have hlt := hbefore b (by simp [hu])
      have hle := hafter' a (by simp)
      omega

variable (score) in
/-- A scan that keeps the larger score ends with what it began with, where nothing is larger, or
else with the first member of the largest score. -/
theorem foldl_keepLarger (l : List α) (best : α × Nat) :
    (∀ a ∈ l, score a ≤ best.2) ∧ l.foldl (keepLarger score) best = best ∨
      ∃ a, FirstLargest score l a ∧ best.2 < score a ∧
        l.foldl (keepLarger score) best = (a, score a) := by
  induction l generalizing best with
  | nil => exact .inl ⟨by simp, rfl⟩
  | cons x l ih =>
    rw [List.foldl_cons, keepLarger]
    by_cases hx : best.2 < score x
    · rw [if_pos hx]
      refine .inr ?_
      rcases ih (x, score x) with ⟨hall, hend⟩ | ⟨a, ha, hlt, hend⟩
      · exact ⟨x, ⟨[], l, rfl, by simp, hall⟩, hx, hend⟩
      · exact ⟨a, ha.cons hlt, hx.trans hlt, hend⟩
    · rw [if_neg hx]
      rcases ih best with ⟨hall, hend⟩ | ⟨a, ha, hlt, hend⟩
      · exact .inl ⟨List.forall_mem_cons.mpr ⟨not_lt.mp hx, hall⟩, hend⟩
      · exact .inr ⟨a, ha.cons ((not_lt.mp hx).trans_lt hlt), hlt, hend⟩

end Largest

section FilterMaps

variable {β : Type}

/-- Two partial maps whose results tell the members apart agree where they give the same list. -/
theorem eq_of_filterMap_eq {f g : α → Option β} {l : List α}
    (hapart : l.Pairwise fun a b => ∀ x, (f a = some x ∨ g a = some x) → f b ≠ some x ∧ g b ≠ some x)
    (h : l.filterMap f = l.filterMap g) : ∀ a ∈ l, f a = g a := by
  induction l with
  | nil => simp
  | cons a l ih =>
    obtain ⟨hfirst, hrest⟩ := List.pairwise_cons.mp hapart
    have hnew : ∀ x, (f a = some x ∨ g a = some x) → x ∉ l.filterMap f ∧ x ∉ l.filterMap g := by
      intro x hx
      constructor
      · intro hmem
        obtain ⟨b, hb, hbx⟩ := List.mem_filterMap.mp hmem
        exact (hfirst b hb x hx).1 hbx
      · intro hmem
        obtain ⟨b, hb, hbx⟩ := List.mem_filterMap.mp hmem
        exact (hfirst b hb x hx).2 hbx
    rw [List.forall_mem_cons]
    cases hf : f a with
    | none =>
      rw [List.filterMap_cons_none hf] at h
      cases hg : g a with
      | none =>
        rw [List.filterMap_cons_none hg] at h
        exact ⟨rfl, ih hrest h⟩
      | some y =>
        rw [List.filterMap_cons_some hg] at h
        exact absurd (h ▸ List.mem_cons_self) (hnew y (.inr hg)).1
    | some x =>
      rw [List.filterMap_cons_some hf] at h
      cases hg : g a with
      | none =>
        rw [List.filterMap_cons_none hg] at h
        exact absurd (h ▸ List.mem_cons_self) (hnew x (.inl hf)).2
      | some y =>
        rw [List.filterMap_cons_some hg] at h
        obtain ⟨rfl, htail⟩ := List.cons.inj h
        exact ⟨rfl, ih hrest htail⟩

end FilterMaps

section Splitting

/-- A piece of a split list has no separator, and all its members are of the list. -/
theorem piece_of_splitOn [DecidableEq α] {s piece : List α} {sep : α}
    (h : piece ∈ s.splitOn sep) : sep ∉ piece ∧ ∀ c ∈ piece, c ∈ s := by
  induction s generalizing piece with
  | nil =>
    rw [List.splitOn_nil, List.mem_singleton] at h
    simp [h]
  | cons d s ih =>
    have hrest : ∀ {w}, w ∈ s.splitOn sep → sep ∉ w ∧ ∀ c ∈ w, c ∈ d :: s := fun hw =>
      ⟨(ih hw).1, fun c hc => List.mem_cons_of_mem d ((ih hw).2 c hc)⟩
    rw [List.splitOn_cons_eq_if_modifyHead] at h
    split_ifs at h with hd
    · rcases List.mem_cons.mp h with rfl | h
      · simp
      · exact hrest h
    · cases hs : s.splitOn sep with
      | nil => simp [hs] at h
      | cons first rest =>
        rw [hs, List.modifyHead_cons] at h
        rcases List.mem_cons.mp h with rfl | h
        · obtain ⟨hsep, hmem⟩ := hrest (hs ▸ List.mem_cons_self)
          have hne : sep ≠ d := fun heq => hd (by simp [heq])
          exact ⟨by simp [hne, hsep], List.forall_mem_cons.mpr ⟨List.mem_cons_self, hmem⟩⟩
        · exact hrest (hs ▸ List.mem_cons_of_mem _ h)

end Splitting

end SolanaAuditor.Lib.Lists
