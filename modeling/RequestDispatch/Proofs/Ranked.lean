/-! # Ranked lists

A list is ranked by sorting it with a comparison that may tie. With the first element strictly
before the second one it is strictly before all of them. -/
namespace RequestDispatch.Ranked

open Std (TransCmp OrientedCmp)

theorem comap_trans {α β : Type} (f : α → β) (cmp : β → β → Ordering) [TransCmp cmp] :
    TransCmp fun a b => cmp (f a) (f b) where
  eq_swap := OrientedCmp.eq_swap
  isLE_trans := TransCmp.isLE_trans

/-- Swapping the sides reverses a comparison, and what comes before or ties is passed on along a
chain, so all elements can be ranked, with ties. -/
structure TotalPreorder {α : Type} (cmp : α → α → Ordering) : Prop where
  self : ∀ a, cmp a a = .eq
  swap : ∀ a b, cmp b a = (cmp a b).swap
  lt_trans : ∀ {a b c}, cmp a b = .lt → cmp b c = .lt → cmp a c = .lt
  lt_of_lt_of_eq : ∀ {a b c}, cmp a b = .lt → cmp b c = .eq → cmp a c = .lt
  lt_of_eq_of_lt : ∀ {a b c}, cmp a b = .eq → cmp b c = .lt → cmp a c = .lt
  eq_trans : ∀ {a b c}, cmp a b = .eq → cmp b c = .eq → cmp a c = .eq

variable {α : Type} {cmp : α → α → Ordering} [TransCmp cmp]

theorem totalPreorder : TotalPreorder cmp where
  self _ := Std.ReflCmp.compare_self
  swap _ _ := OrientedCmp.eq_swap
  lt_trans := TransCmp.lt_trans
  lt_of_lt_of_eq := TransCmp.lt_of_lt_of_eq
  lt_of_eq_of_lt := TransCmp.lt_of_eq_of_lt
  eq_trans := TransCmp.eq_trans

theorem isLE_trans (a b c : α) : (cmp a b).isLE → (cmp b c).isLE → (cmp a c).isLE :=
  TransCmp.isLE_trans

theorem isLE_total (a b : α) : ((cmp a b).isLE || (cmp b a).isLE) = true := by
  cases h : cmp a b with
  | lt | eq => rfl
  | gt => simp [OrientedCmp.lt_of_gt h]

theorem pairwise_isLE (l : List α) :
    (l.mergeSort fun a b => (cmp a b).isLE).Pairwise fun a b => (cmp a b).isLE :=
  List.pairwise_mergeSort isLE_trans isLE_total l

omit [TransCmp cmp] in
theorem lt_of_isLE_of_ne {a b : α} (h : (cmp a b).isLE) (hne : cmp a b ≠ .eq) : cmp a b = .lt := by
  cases hab : cmp a b with
  | lt => rfl
  | eq => exact absurd hab hne
  | gt => rw [hab] at h; cases h

theorem first_lt {first second : α} {rest : List α}
    (h : (first :: second :: rest).Pairwise fun a b => (cmp a b).isLE)
    (hne : cmp first second ≠ .eq) : ∀ a ∈ second :: rest, cmp first a = .lt := by
  have hlt := lt_of_isLE_of_ne (List.rel_of_pairwise_cons h (List.mem_cons_self ..)) hne
  intro a ha
  rcases List.mem_cons.1 ha with rfl | ha
  · exact hlt
  · exact TransCmp.lt_of_lt_of_isLE hlt (List.rel_of_pairwise_cons h.of_cons ha)

/-! ### Ties -/

/-- The elements that tie with `a`. -/
def tied (cmp : α → α → Ordering) (a : α) (l : List α) : List α :=
  l.filter fun b => cmp a b = .eq

/-- The list is ranked, and those that tie keep their order. -/
structure StablySorted (cmp : α → α → Ordering) (l ranked : List α) : Prop where
  perm : ranked.Perm l
  pairwise : ranked.Pairwise fun a b => (cmp a b).isLE
  tied : ∀ a, tied cmp a ranked = tied cmp a l

variable (cmp) in
theorem mem_tied_self (a : α) (l : List α) : a ∈ tied cmp a (a :: l) := by
  simp [tied, Std.ReflCmp.compare_self]

theorem pairwise_tied (a : α) (l : List α) :
    (tied cmp a l).Pairwise fun b c => (cmp b c).isLE := by
  rw [List.pairwise_iff_forall_sublist]
  intro b c hsub
  have hab : cmp a b = .eq := of_decide_eq_true (List.mem_filter.1 (hsub.subset (by simp))).2
  have hac : cmp a c = .eq := of_decide_eq_true (List.mem_filter.1 (hsub.subset (by simp))).2
  rw [TransCmp.eq_trans (OrientedCmp.eq_symm hab) hac]
  rfl

theorem head_isLE {a b : α} {l : List α} (h : (a :: l).Pairwise fun a b => (cmp a b).isLE)
    (hb : b ∈ a :: l) : (cmp a b).isLE := by
  rcases List.mem_cons.1 hb with heq | hb
  · have hself : cmp a a = .eq := Std.ReflCmp.compare_self
    rw [heq, hself]
    rfl
  · exact List.rel_of_pairwise_cons h hb

/-- A ranked list is known by which of its elements tie, and in what order. -/
theorem eq_of_tied {l other : List α} (h : l.Pairwise fun a b => (cmp a b).isLE)
    (hother : other.Pairwise fun a b => (cmp a b).isLE)
    (htied : ∀ a, tied cmp a l = tied cmp a other) : l = other := by
  induction l generalizing other with
  | nil =>
    cases other with
    | nil => rfl
    | cons b other =>
      have hb := mem_tied_self cmp b other
      rw [← htied b] at hb
      cases hb
  | cons a l ih =>
    cases other with
    | nil =>
      have ha := mem_tied_self cmp a l
      rw [htied a] at ha
      cases ha
    | cons b other =>
      -- each head is found in the other list, so the heads tie
      have hab : (cmp a b).isLE := by
        have hb := mem_tied_self cmp b other
        rw [← htied b] at hb
        exact head_isLE h (List.mem_filter.1 hb).1
      have hba : (cmp b a).isLE := by
        have ha := mem_tied_self cmp a l
        rw [htied a] at ha
        exact head_isLE hother (List.mem_filter.1 ha).1
      have htie : cmp a b = .eq := OrientedCmp.isLE_antisymm hab hba
      have hheads := htied a
      rw [tied, tied, List.filter_cons_of_pos (by simp [Std.ReflCmp.compare_self]),
        List.filter_cons_of_pos (by simp [htie])] at hheads
      obtain ⟨rfl, -⟩ := List.cons.inj hheads
      congr 1
      apply ih h.of_cons hother.of_cons
      intro c
      have hc := htied c
      by_cases hca : cmp c a = .eq
      · simpa [tied, hca] using hc
      · simpa [tied, hca] using hc

theorem stablySorted_mergeSort (l : List α) :
    StablySorted cmp l (l.mergeSort fun a b => (cmp a b).isLE) where
  perm := List.mergeSort_perm l _
  pairwise := pairwise_isLE l
  tied a := by
    have hperm := List.mergeSort_perm l fun a b => (cmp a b).isLE
    have hsub : (tied cmp a l).Sublist (l.mergeSort fun a b => (cmp a b).isLE) :=
      List.sublist_mergeSort isLE_trans isLE_total (pairwise_tied a l) List.filter_sublist
    have hself : tied cmp a (tied cmp a l) = tied cmp a l := by
      rw [tied, tied, List.filter_filter]
      simp
    have hkept : (tied cmp a l).Sublist (tied cmp a (l.mergeSort fun a b => (cmp a b).isLE)) := by
      have hfilter := hsub.filter fun b => decide (cmp a b = .eq)
      rwa [← tied, ← tied, hself] at hfilter
    exact (hkept.eq_of_length (hperm.filter _).length_eq.symm).symm

/-- There is one way to rank a list so that those that tie keep their order. -/
theorem StablySorted.unique {l ranked other : List α} (h : StablySorted cmp l ranked)
    (hother : StablySorted cmp l other) : ranked = other :=
  eq_of_tied h.pairwise hother.pairwise fun a => (h.tied a).trans (hother.tied a).symm

end RequestDispatch.Ranked
