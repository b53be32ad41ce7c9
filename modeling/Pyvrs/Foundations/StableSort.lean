import Mathlib.Data.List.Nodup

/-!
# Stable sorts

A list whose elements are counted in its order has one stable sort: the list in which an element
comes before another one if it is less, or if they are tied and it was counted first. Whatever sorts
the elements so, in one go or in several, yields what `List.mergeSort` does
(`eq_mergeSort_of_pairwise_before`). Lists of the same elements, sorted or not, need only agree on
the elements of each key (`perm_of_forall_filter_eq`).
-/

namespace Foundations.StableSort

variable {α : Type*} {le : α → α → Bool} {count : α → ℕ} {l l' : List α} {a b : α}

/-- A merge sort compares elements of the list only. -/
theorem mergeSort_congr {le' : α → α → Bool} (h : ∀ a ∈ l, ∀ b ∈ l, le a b = le' a b) :
    l.mergeSort le = l.mergeSort le' := by
  have hmap := List.map_mergeSort (f := id) h
  rwa [List.map_id, List.map_id] at hmap

/-- Not after the other one, and counted first if they are tied. -/
def Before (le : α → α → Bool) (count : α → ℕ) (a b : α) : Prop :=
  le a b = true ∧ (le b a = true → count a < count b)

theorem Before.asymm (h : Before le count a b) : ¬Before le count b a := by
  intro h'
  have hab := h.2 h'.1
  have hba := h'.2 h.1
  omega

/-- Elements counted in the order of the list are in that order. -/
theorem pair_sublist_of_lt (hcount : l.Pairwise fun a b => count a < count b) (ha : a ∈ l)
    (hb : b ∈ l) (hlt : count a < count b) : [a, b].Sublist l := by
  induction l with
  | nil => cases ha
  | cons c l ih =>
    obtain ⟨hc, hl⟩ := List.pairwise_cons.1 hcount
    rcases List.mem_cons.1 hb with rfl | hb'
    · -- nothing is counted before the first element
      rcases List.mem_cons.1 ha with rfl | ha'
      · omega
      · have hba := hc a ha'
        omega
    · rcases List.mem_cons.1 ha with rfl | ha'
      · exact .cons_cons a (List.singleton_sublist.2 hb')
      · exact .cons c (ih hl ha' hb')

theorem not_pair_sublist_of_nodup (hl : l.Nodup) (hab : [a, b].Sublist l) :
    ¬[b, a].Sublist l := by
  intro hba
  induction l with
  | nil => cases hab
  | cons c l ih =>
    obtain ⟨hc, hl⟩ := List.nodup_cons.1 hl
    cases hab with
    | cons _ hab =>
      cases hba with
      | cons _ hba => exact ih hl hab hba
      | cons_cons _ _ => exact hc (hab.subset (by simp))
    | cons_cons _ hb =>
      cases hba with
      | cons _ hba => exact hc (hba.subset (by simp))
      | cons_cons _ ha => exact hc (List.singleton_sublist.1 ha)

/-- Lists that agree on the elements of each key have the same elements. -/
theorem perm_of_forall_filter_eq {κ : Type*} [DecidableEq κ] {key : α → κ}
    (h : ∀ k, l.filter (fun a => key a = k) = l'.filter fun a => key a = k) : l.Perm l' := by
  classical
  rw [List.perm_iff_count]
  intro a
  have hkey : decide (key a = key a) = true := decide_eq_true rfl
  rw [← List.count_filter (p := fun b => key b = key a) hkey, h,
    List.count_filter (p := fun b => key b = key a) hkey]

variable (htrans : ∀ a b c, le a b = true → le b c = true → le a c = true)
  (htotal : ∀ a b, (le a b || le b a) = true)

include htrans htotal

/-- A merge sort is stable. -/
theorem pairwise_before_mergeSort (hcount : l.Pairwise fun a b => count a < count b) :
    (l.mergeSort le).Pairwise (Before le count) := by
  have hcounts : (l.map count).Nodup := (List.pairwise_map.2 hcount).imp Nat.ne_of_lt
  have hnodup := (List.mergeSort_perm l le).nodup_iff.2 (List.Nodup.of_map count hcounts)
  rw [List.pairwise_iff_forall_sublist]
  intro a b hab
  have hsorted := List.pairwise_iff_forall_sublist.1 (List.pairwise_mergeSort htrans htotal l) hab
  refine ⟨hsorted, fun hba => ?_⟩
  have ha : a ∈ l := List.mem_mergeSort.1 (hab.subset (by simp))
  have hb : b ∈ l := List.mem_mergeSort.1 (hab.subset (by simp))
  by_contra hlt
  rcases Nat.lt_or_eq_of_le (Nat.not_lt.1 hlt) with hlt' | heq
  · -- a tie that was counted the other way round stays so
    have hpair := List.pair_sublist_mergeSort htrans htotal hba
      (pair_sublist_of_lt hcount hb ha hlt')
    exact not_pair_sublist_of_nodup hnodup hab hpair
  · obtain rfl := List.inj_on_of_nodup_map hcounts hb ha heq
    exact not_pair_sublist_of_nodup hnodup hab hab

/-- **The stable sort is unique.** -/
theorem eq_mergeSort_of_pairwise_before (count : α → ℕ)
    (hcount : l.Pairwise fun a b => count a < count b) (hperm : l'.Perm l)
    (hbefore : l'.Pairwise (Before le count)) : l' = l.mergeSort le :=
  List.Perm.eq_of_pairwise (fun _ _ _ _ hab hba => absurd hba hab.asymm) hbefore
    (pairwise_before_mergeSort htrans htotal hcount) (hperm.trans (List.mergeSort_perm l le).symm)

end Foundations.StableSort
