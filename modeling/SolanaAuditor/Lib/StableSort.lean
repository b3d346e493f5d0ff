/- SolanaAuditor/Lib/StableSort
   digest: Stable sorting by a strict weak order that may hold on some members only. -/

import Mathlib.Data.List.Sort
import SolanaAuditor.Lib.Lists

set_option autoImplicit false
set_option relaxedAutoImplicit false

namespace SolanaAuditor.Lib.StableSort

variable {α β : Type}

/-- A strict weak order on the members that are `ok`. -/
structure StrictWeak (ok : α → Prop) (lt : α → α → Bool) : Prop where
  asymm : ∀ a b, ok a → ok b → lt a b = true → lt b a = false
  trans : ∀ a b c, ok a → ok b → ok c → lt b a = false → lt c b = false → lt c a = false

/-- First the one order, then the other. -/
def lex (lt lt' : α → α → Bool) (a b : α) : Bool := lt a b || (!lt b a && lt' a b)

/-- A sort that keeps the order of members neither of which is less. -/
def sort (lt : α → α → Bool) (l : List α) : List α := l.insertionSort fun a b => lt b a = false

section Orders

variable {ok : α → Prop} {lt lt' : α → α → Bool}

theorem StrictWeak.total (h : StrictWeak ok lt) {a b : α} (ha : ok a) (hb : ok b) :
    lt b a = false ∨ lt a b = false := by
  cases hlt : lt a b with
  | true => exact .inl (h.asymm a b ha hb hlt)
  | false => exact .inr rfl

theorem lex_eq_false {a b : α} :
    lex lt lt' b a = false ↔ lt b a = false ∧ (lt a b = true ∨ lt' b a = false) := by
  cases hba : lt b a <;> cases hab : lt a b <;> simp [lex, hba, hab]

/-- Two members in order: the first is less, or they are equal in the one order and in order in
the other. -/
theorem StrictWeak.not_lt_or_iff (h : StrictWeak ok lt) {a b : α} (ha : ok a) (hb : ok b)
    {same p : Prop} (hsame : lt a b = false → lt b a = false → same)
    (hne : same → lt b a = false) :
    lt b a = false ∧ (lt a b = true ∨ p) ↔ lt a b = true ∨ same ∧ p := by
  constructor
  · rintro ⟨hba, hab | hp⟩
    · exact .inl hab
    · cases hab : lt a b with
      | true => exact .inl rfl
      | false => exact .inr ⟨hsame hab hba, hp⟩
  · rintro (hab | ⟨hs, hp⟩)
    · exact ⟨h.asymm a b ha hb hab, .inl hab⟩
    · exact ⟨hne hs, .inr hp⟩

theorem lex_eq_ite {a b : α} {c : Prop} [Decidable c]
    (hc : c ↔ lt a b = true ∨ lt b a = true) :
    lex lt lt' a b = if c then lt a b else lt' a b := by
  cases hab : lt a b with
  | true =>
    rw [if_pos (hc.mpr (.inl hab))]
    simp [lex, hab]
  | false =>
    cases hba : lt b a with
    | true =>
      rw [if_pos (hc.mpr (.inr hba))]
      simp [lex, hab, hba]
    | false =>
      rw [if_neg (by simp [hc, hab, hba])]
      simp [lex, hab, hba]

theorem StrictWeak.lex (h : StrictWeak ok lt) (h' : StrictWeak ok lt') :
    StrictWeak ok (StableSort.lex lt lt') where
  asymm a b ha hb hlt := by
    rw [lex_eq_false]
    cases hab : lt a b with
    | true => exact ⟨h.asymm a b ha hb hab, .inl rfl⟩
    | false =>
      cases hba : lt b a with
      | true => simp [StableSort.lex, hab, hba] at hlt
      | false =>
        have hlt' : lt' a b = true := by simpa [StableSort.lex, hab, hba] using hlt
        exact ⟨rfl, .inr (h'.asymm a b ha hb hlt')⟩
  trans a b c ha hb hc hba hcb := by
    rw [lex_eq_false] at hba hcb ⊢
    have hca := h.trans a b c ha hb hc hba.1 hcb.1
    refine ⟨hca, ?_⟩
    cases hac : lt a c with
    | true => exact .inl rfl
    | false =>
      -- neither of the first and the last is less, so neither of any two is
      have hab : lt a b = false := h.trans b c a hb hc ha hcb.1 hac
      have hbc : lt b c = false := h.trans c a b hc ha hb hac hba.1
      have hba' : lt' b a = false := hba.2.resolve_left (by simp [hab])
      have hcb' : lt' c b = false := hcb.2.resolve_left (by simp [hbc])
      exact .inr (h'.trans a b c ha hb hc hba' hcb')

theorem StrictWeak.flip (h : StrictWeak ok lt) : StrictWeak ok fun a b => lt b a where
  asymm a b ha hb hlt := h.asymm b a hb ha hlt
  trans a b c ha hb hc hba hcb := h.trans c b a hc hb ha hcb hba

/-- An order of keys orders what has the keys. -/
theorem StrictWeak.comap {okKey : β → Prop} {ltKey : β → β → Bool} (h : StrictWeak okKey ltKey)
    (key : α → β) (hkey : ∀ a, ok a → okKey (key a)) :
    StrictWeak ok fun a b => ltKey (key a) (key b) where
  asymm a b ha hb := h.asymm _ _ (hkey a ha) (hkey b hb)
  trans a b c ha hb hc := h.trans _ _ _ (hkey a ha) (hkey b hb) (hkey c hc)

end Orders

section Sorting

variable {ok : α → Prop} {lt : α → α → Bool} {l l' : List α}

theorem sort_perm (lt : α → α → Bool) (l : List α) : (sort lt l).Perm l :=
  List.perm_insertionSort _ _

theorem mem_sort {a : α} : a ∈ sort lt l ↔ a ∈ l := (sort_perm lt l).mem_iff

theorem sort_cons (a : α) (l : List α) :
    sort lt (a :: l) = (sort lt l).orderedInsert (fun a b => lt b a = false) a := rfl

/-- What an ordered insertion makes of two relations on the pairs of a list. -/
theorem pairwise_orderedInsert (h : StrictWeak ok lt) {a : α} (ha : ok a)
    (hok : ∀ b ∈ l, ok b) (hsorted : l.Pairwise fun a b => lt b a = false)
    {p : α → α → Prop} :
    (l.orderedInsert (fun a b => lt b a = false) a).Pairwise p ↔
      l.Pairwise p ∧ ∀ b ∈ l, if lt b a = false then p a b else p b a := by
  induction l with
  | nil => simp
  | cons c l ih =>
    obtain ⟨hc, hl⟩ := List.forall_mem_cons.mp hok
    obtain ⟨hfirst, hsorted⟩ := List.pairwise_cons.mp hsorted
    rw [List.orderedInsert_cons]
    split_ifs with hlt
    · have hall : ∀ b ∈ c :: l, lt b a = false := by
        intro b hb
        rcases List.mem_cons.mp hb with rfl | hb
        · exact hlt
        · exact h.trans a c b ha hc (hl b hb) hlt (hfirst b hb)
      rw [List.pairwise_cons, and_comm]
      refine and_congr_right fun _ => forall₂_congr fun b hb => ?_
      rw [if_pos (hall b hb)]
    · rw [List.pairwise_cons, ih hl hsorted, List.pairwise_cons, List.forall_mem_cons, if_neg hlt]
      simp only [List.mem_orderedInsert, forall_eq_or_imp]
      tauto

theorem sort_pairwise (h : StrictWeak ok lt) (hok : ∀ a ∈ l, ok a) :
    (sort lt l).Pairwise fun a b => lt b a = false := by
  induction l with
  | nil => exact .nil
  | cons a l ih =>
    obtain ⟨ha, hl⟩ := List.forall_mem_cons.mp hok
    have hrest : ∀ b ∈ sort lt l, ok b := fun b hb => hl b (mem_sort.mp hb)
    rw [sort_cons, pairwise_orderedInsert h ha hrest (ih hl)]
    refine ⟨ih hl, fun b hb => ?_⟩
    split_ifs with hlt
    · exact hlt
    · exact (h.total ha (hrest b hb)).resolve_left hlt

/-- Nothing comes after the last member of a sorted list. -/
theorem sort_last (h : StrictWeak ok lt) (hok : ∀ a ∈ l, ok a) {a : α}
    (hlast : (sort lt l).getLast? = some a) : a ∈ l ∧ ∀ b ∈ l, lt a b = false := by
  have hmem : a ∈ l := mem_sort.mp (List.mem_of_getLast? hlast)
  refine ⟨hmem, fun b hb => ?_⟩
  rcases Lists.pairwise_last (sort_pairwise h hok) hlast b (mem_sort.mpr hb) with rfl | hlt
  · exact (h.total (hok b hmem) (hok b hmem)).elim id id
  · exact hlt

/-- The pairs of a sorted list are those of the list, turned round where the second is less. -/
theorem sort_pairwise_iff (h : StrictWeak ok lt) (hok : ∀ a ∈ l, ok a) {p : α → α → Prop} :
    (sort lt l).Pairwise p ↔ l.Pairwise fun a b => if lt b a = false then p a b else p b a := by
  induction l with
  | nil => exact iff_of_true .nil .nil
  | cons a l ih =>
    obtain ⟨ha, hl⟩ := List.forall_mem_cons.mp hok
    have hrest : ∀ b ∈ sort lt l, ok b := fun b hb => hl b (mem_sort.mp hb)
    rw [sort_cons, pairwise_orderedInsert h ha hrest (sort_pairwise h hl), ih hl,
      List.pairwise_cons, and_comm]
    refine and_congr_left fun _ => ?_
    simp only [mem_sort]

/-- A sorted list is determined by its members, where no two of them are equal in the order. -/
theorem sort_eq_of_perm (h : StrictWeak ok lt) (hok : ∀ a ∈ l, ok a) (hperm : l.Perm l')
    (hstrict : ∀ a ∈ l, ∀ b ∈ l, lt b a = false → lt a b = false → a = b) :
    sort lt l = sort lt l' := by
  have hok' : ∀ a ∈ l', ok a := fun a ha => hok a (hperm.mem_iff.mpr ha)
  have hsorts : (sort lt l).Perm (sort lt l') :=
    (sort_perm lt l).trans (hperm.trans (sort_perm lt l').symm)
  refine hsorts.eq_of_pairwise ?_ (sort_pairwise h hok) (sort_pairwise h hok')
  intro a b ha hb
  exact hstrict a (mem_sort.mp ha) b (hperm.mem_iff.mpr (mem_sort.mp hb))

theorem filter_orderedInsert (h : StrictWeak ok lt) {a : α} (ha : ok a)
    (hok : ∀ b ∈ l, ok b) (hsorted : l.Pairwise fun a b => lt b a = false) (p : α → Bool) :
    (l.orderedInsert (fun a b => lt b a = false) a).filter p =
      if p a then (l.filter p).orderedInsert (fun a b => lt b a = false) a else l.filter p := by
  induction l with
  | nil => cases hp : p a <;> simp [hp]
  | cons c l ih =>
    obtain ⟨hc, hl⟩ := List.forall_mem_cons.mp hok
    obtain ⟨hfirst, hsorted⟩ := List.pairwise_cons.mp hsorted
    rw [List.orderedInsert_cons]
    split_ifs with hlt hp hp
    · -- everything that is left comes after the new member
      have hall : ∀ b ∈ (c :: l).filter p, lt b a = false := by
        intro b hb
        rcases List.mem_cons.mp (List.mem_of_mem_filter hb) with rfl | hb
        · exact hlt
        · exact h.trans a c b ha hc (hl b hb) hlt (hfirst b hb)
      rw [List.filter_cons_of_pos hp]
      cases hrest : (c :: l).filter p with
      | nil => rfl
      | cons d rest =>
        rw [hrest] at hall
        rw [List.orderedInsert_cons, if_pos (hall d List.mem_cons_self)]
    · rw [List.filter_cons_of_neg hp]
    · cases hpc : p c with
      | true =>
        rw [List.filter_cons_of_pos hpc, List.filter_cons_of_pos hpc, ih hl hsorted, if_pos hp,
          List.orderedInsert_cons, if_neg hlt]
      | false =>
        rw [List.filter_cons_of_neg (by simp [hpc]), List.filter_cons_of_neg (by simp [hpc]),
          ih hl hsorted, if_pos hp]
    · cases hpc : p c with
      | true =>
        rw [List.filter_cons_of_pos hpc, List.filter_cons_of_pos hpc, ih hl hsorted, if_neg hp]
      | false =>
        rw [List.filter_cons_of_neg (by simp [hpc]), List.filter_cons_of_neg (by simp [hpc]),
          ih hl hsorted, if_neg hp]

/-- Sorting and filtering commute. -/
theorem filter_sort (h : StrictWeak ok lt) (hok : ∀ a ∈ l, ok a) (p : α → Bool) :
    (sort lt l).filter p = sort lt (l.filter p) := by
  induction l with
  | nil => rfl
  | cons a l ih =>
    obtain ⟨ha, hl⟩ := List.forall_mem_cons.mp hok
    have hrest : ∀ b ∈ sort lt l, ok b := fun b hb => hl b (mem_sort.mp hb)
    rw [sort_cons, filter_orderedInsert h ha hrest (sort_pairwise h hl), ih hl]
    cases hp : p a with
    | true => rw [List.filter_cons_of_pos hp, if_pos rfl, sort_cons]
    | false => rw [List.filter_cons_of_neg (by simp [hp]), if_neg (by simp)]

/-- The members that hold a property are the first ones, where none follows one without it. -/
theorem filter_front {p : α → Bool} (h : l.Pairwise fun a b => p b = true → p a = true) :
    l.filter p <+: l := by
  induction l with
  | nil => exact List.prefix_refl []
  | cons a l ih =>
    obtain ⟨hfirst, hrest⟩ := List.pairwise_cons.mp h
    cases hp : p a with
    | true =>
      rw [List.filter_cons_of_pos hp]
      exact List.cons_prefix_cons.mpr ⟨rfl, ih hrest⟩
    | false =>
      have hnone : (a :: l).filter p = [] := by
        rw [List.filter_eq_nil_iff]
        intro b hb hpb
        rcases List.mem_cons.mp hb with rfl | hb
        · simp [hp] at hpb
        · simp [hp] at hfirst
          simp [hfirst b hb] at hpb
      rw [hnone]
      exact List.nil_prefix

end Sorting

section Keys

/-! Sorting by a number, from the lowest up. -/

variable {key : α → Nat} {l : List α}

def lowerKey (key : α → Nat) (a b : α) : Bool := decide (key a < key b)

theorem strictWeak_lowerKey (key : α → Nat) : StrictWeak (fun _ => True) (lowerKey key) where
  asymm a b _ _ h := by
    simp only [lowerKey, decide_eq_true_eq, decide_eq_false_iff_not] at h ⊢
    omega
  trans a b c _ _ _ h h' := by
    simp only [lowerKey, decide_eq_false_iff_not] at h h' ⊢
    omega

theorem sort_eq_self {lt : α → α → Bool} (h : l.Pairwise fun a b => lt b a = false) :
    sort lt l = l :=
  List.Pairwise.insertionSort_eq h

/-- A list in the order of its keys is the parts of the single keys, one after the other. -/
theorem flatMap_filter_eq_self {keys : List Nat} (hkeys : keys.Pairwise (· < ·))
    (hsorted : l.Pairwise fun a b => lowerKey key b a = false) (hall : ∀ a ∈ l, key a ∈ keys) :
    (keys.flatMap fun k => l.filter fun a => key a == k) = l := by
  induction keys generalizing l with
  | nil =>
    cases l with
    | nil => rfl
    | cons a l => exact absurd (hall a List.mem_cons_self) List.not_mem_nil
  | cons k keys ih =>
    obtain ⟨hfirst, hkeys⟩ := List.pairwise_cons.mp hkeys
    have hleast : ∀ a ∈ l, k ≤ key a := by
      intro a ha
      rcases List.mem_cons.mp (hall a ha) with h | h
      · exact h.ge
      · exact (hfirst _ h).le
    have hfront : (l.filter fun a => key a == k) <+: l := by
      refine filter_front (hsorted.imp_of_mem ?_)
      intro a b ha hb hba hk
      simp only [lowerKey, decide_eq_false_iff_not, beq_iff_eq] at hba hk ⊢
      have := hleast a ha
      omega
    obtain ⟨rest, hrest⟩ := hfront
    have hnone : (rest.filter fun a => key a == k) = [] := by
      have hfilter := congrArg (List.filter fun a => key a == k) hrest
      rw [List.filter_append, List.filter_filter] at hfilter
      simpa using hfilter
    have hrestKeys : ∀ a ∈ rest, key a ∈ keys := by
      intro a ha
      have hmem : a ∈ l := hrest ▸ List.mem_append_right _ ha
      refine (List.mem_cons.mp (hall a hmem)).resolve_left fun hk => ?_
      exact List.filter_eq_nil_iff.mp hnone a ha (beq_iff_eq.mpr hk)
    have hrestSorted : rest.Pairwise fun a b => lowerKey key b a = false :=
      hsorted.sublist (hrest ▸ List.sublist_append_right _ _)
    have hsame : (keys.flatMap fun k' => l.filter fun a => key a == k') =
        keys.flatMap fun k' => rest.filter fun a => key a == k' := by
      refine List.flatMap_congr fun k' hk' => ?_
      have hother : ((l.filter fun a => key a == k).filter fun a => key a == k') = [] := by
        rw [List.filter_eq_nil_iff]
        intro a ha
        have hk : key a = k := beq_iff_eq.mp (List.mem_filter.mp ha).2
        have := hfirst k' hk'
        rw [beq_iff_eq]
        omega
      calc l.filter (fun a => key a == k') =
          ((l.filter fun a => key a == k) ++ rest).filter fun a => key a == k' := by rw [hrest]
        _ = rest.filter fun a => key a == k' := by
          rw [List.filter_append, hother, List.nil_append]
    rw [List.flatMap_cons, hsame, ih hkeys hrestSorted hrestKeys, hrest]

/-- Sorted by a number, the members of each number follow in the order that they came in. -/
theorem sort_lowerKey {keys : List Nat} (hkeys : keys.Pairwise (· < ·))
    (hall : ∀ a ∈ l, key a ∈ keys) :
    sort (lowerKey key) l = keys.flatMap fun k => l.filter fun a => key a == k := by
  have hsorted := sort_pairwise (strictWeak_lowerKey key) fun a (_ : a ∈ l) => trivial
  rw [← flatMap_filter_eq_self hkeys hsorted fun a ha => hall a (mem_sort.mp ha)]
  refine List.flatMap_congr fun k _ => ?_
  rw [filter_sort (strictWeak_lowerKey key) fun _ _ => trivial]
  refine sort_eq_self (List.pairwise_iff_forall_sublist.mpr ?_)
  intro a b hab
  have ha := List.of_mem_filter (hab.subset (show a ∈ [a, b] by simp))
  have hb := List.of_mem_filter (hab.subset (show b ∈ [a, b] by simp))
  simp only [beq_iff_eq] at ha hb
  simp [lowerKey, ha, hb]

end Keys

end SolanaAuditor.Lib.StableSort
