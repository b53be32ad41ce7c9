import Mathlib.Data.List.Basic
import Mathlib.Order.Lattice
import Mathlib.Order.Nat

/-!
# Bisection

`bisectRight xs x` is the position in a sorted list where `x` goes, after the elements equal to it,
found by halving. Up to that position the elements are at most `x`, and from it on they are above
(`splits_bisectRight`). `partitionPoint p n` is the number of positions where `p` holds, of `n` of
which these are the first ones (`lt_partitionPoint_iff`).
-/

namespace Foundations

variable {α : Type*} [LinearOrder α]

/-- The element at a position is above `x`. -/
def aboveAt (xs : List α) (x : α) (i : ℕ) : Bool :=
  match xs[i]? with
  | some y => x < y
  | none => false

/-- The search between `lo` and `hi`, in at most `fuel` steps. -/
def bisectBetween (xs : List α) (x : α) : ℕ → ℕ → ℕ → ℕ
  | 0, lo, _ => lo
  | fuel + 1, lo, hi =>
    if lo < hi then
      let mid := (lo + hi) / 2
      if aboveAt xs x mid then bisectBetween xs x fuel lo mid
      else bisectBetween xs x fuel (mid + 1) hi
    else lo

/-- The position after the elements that are at most `x`. -/
def bisectRight (xs : List α) (x : α) : ℕ := bisectBetween xs x xs.length 0 xs.length

/-- The elements before `lo` are at most `x`, and those from `hi` on are above. -/
structure Splits (xs : List α) (x : α) (lo hi : ℕ) : Prop where
  le_length : hi ≤ xs.length
  below : ∀ i y, i < lo → xs[i]? = some y → y ≤ x
  above : ∀ i y, hi ≤ i → xs[i]? = some y → x < y

variable {xs : List α} {x : α} {lo hi : ℕ}

theorem splits_zero_length : Splits xs x 0 xs.length where
  le_length := le_rfl
  below _ _ hi _ := absurd hi (Nat.not_lt_zero _)
  above i y hi h := by
    rw [List.getElem?_eq_none hi] at h
    cases h

/-- What is above at one position of a sorted list is above from it on. -/
theorem Splits.of_aboveAt (h : Splits xs x lo hi) (hsorted : xs.Pairwise (· ≤ ·)) {mid : ℕ}
    (hmid : mid < hi) (habove : aboveAt xs x mid) : Splits xs x lo mid where
  le_length := hmid.le.trans h.le_length
  below := h.below
  above i y hi hy := by
    have hlt : mid < xs.length := hmid.trans_le h.le_length
    unfold aboveAt at habove
    rw [List.getElem?_eq_getElem hlt] at habove
    obtain ⟨hilt, rfl⟩ := List.getElem?_eq_some_iff.1 hy
    rcases hi.lt_or_eq with hlt' | rfl
    · have hle := List.pairwise_iff_getElem.1 hsorted mid i hlt hilt hlt'
      exact lt_of_lt_of_le (of_decide_eq_true habove) hle
    · exact of_decide_eq_true habove

/-- What is not above at one position of a sorted list is not above before it. -/
theorem Splits.of_not_aboveAt (h : Splits xs x lo hi) (hsorted : xs.Pairwise (· ≤ ·)) {mid : ℕ}
    (hmid : mid < hi) (hnot : ¬aboveAt xs x mid) : Splits xs x (mid + 1) hi where
  le_length := h.le_length
  below i y hi hy := by
    have hlt : mid < xs.length := hmid.trans_le h.le_length
    have hle : xs[mid] ≤ x := by
      unfold aboveAt at hnot
      rw [List.getElem?_eq_getElem hlt] at hnot
      simpa using hnot
    obtain ⟨hilt, rfl⟩ := List.getElem?_eq_some_iff.1 hy
    rcases (Nat.lt_succ_iff.1 hi).lt_or_eq with hlt' | rfl
    · exact (List.pairwise_iff_getElem.1 hsorted i mid hilt hlt hlt').trans hle
    · exact hle
  above := h.above

/-- The search narrows the split down to one position. -/
theorem Splits.bisectBetween (hsorted : xs.Pairwise (· ≤ ·)) {fuel : ℕ}
    (h : Splits xs x lo hi) (hle : lo ≤ hi) (hfuel : hi - lo ≤ fuel) :
    Splits xs x (bisectBetween xs x fuel lo hi) (bisectBetween xs x fuel lo hi) := by
  induction fuel generalizing lo hi with
  | zero =>
    have heq : lo = hi := by omega
    subst heq
    exact h
  | succ fuel ih =>
    unfold Foundations.bisectBetween
    by_cases hlt : lo < hi
    · rw [if_pos hlt]
      have hmid : (lo + hi) / 2 < hi := by omega
      have hmid' : lo ≤ (lo + hi) / 2 := by omega
      by_cases habove : aboveAt xs x ((lo + hi) / 2)
      · simp only [habove, if_true]
        exact ih (h.of_aboveAt hsorted hmid habove) hmid' (by omega)
      · simp only [habove, if_false, Bool.false_eq_true]
        exact ih (h.of_not_aboveAt hsorted hmid habove) (by omega) (by omega)
    · rw [if_neg hlt]
      have heq : lo = hi := by omega
      subst heq
      exact h

/-- **The bisection splits a sorted list.** -/
theorem splits_bisectRight (hsorted : xs.Pairwise (· ≤ ·)) (x : α) :
    Splits xs x (bisectRight xs x) (bisectRight xs x) :=
  splits_zero_length.bisectBetween hsorted (Nat.zero_le _) (Nat.sub_le _ _)

/-- The elements before the position are those at most `x`. -/
theorem lt_bisectRight_iff (hsorted : xs.Pairwise (· ≤ ·)) {i : ℕ} {y : α}
    (h : xs[i]? = some y) : i < bisectRight xs x ↔ y ≤ x := by
  have hsplits := splits_bisectRight hsorted x
  constructor
  · intro hi
    exact hsplits.below i y hi h
  · intro hle
    by_contra hnot
    exact absurd hle (not_le_of_gt (hsplits.above i y (Nat.le_of_not_lt hnot) h))

/-! ## Partition points -/

/-- The search for the first position where `p` does not hold, of `count` from `first` on, in at
most `fuel` steps. -/
def partitionFrom (p : ℕ → Bool) : ℕ → ℕ → ℕ → ℕ
  | 0, first, _ => first
  | fuel + 1, first, count =>
    if 0 < count then
      let step := count / 2
      if p (first + step) then partitionFrom p fuel (first + step + 1) (count - (step + 1))
      else partitionFrom p fuel first step
    else first

/-- `lower_bound`: the first of `n` positions where `p` does not hold, or `n`. -/
def partitionPoint (p : ℕ → Bool) (n : ℕ) : ℕ := partitionFrom p n 0 n

section Partition

variable {p : ℕ → Bool} {n first count fuel : ℕ}

/-- The positions where `p` holds come first. -/
def Partitioned (p : ℕ → Bool) (n : ℕ) : Prop := ∀ i j, i ≤ j → j < n → p j = true → p i = true

/-- The search returns a position before which `p` holds, and from which on it does not. -/
theorem partitionFrom_spec (hp : Partitioned p n) (hin : first + count ≤ n) (hfuel : count ≤ fuel)
    (hbefore : ∀ i < first, p i = true)
    (hafter : ∀ i, first + count ≤ i → i < n → p i = false) :
    partitionFrom p fuel first count ≤ n ∧
      (∀ i < partitionFrom p fuel first count, p i = true) ∧
      ∀ i, partitionFrom p fuel first count ≤ i → i < n → p i = false := by
  induction fuel generalizing first count with
  | zero =>
    obtain rfl : count = 0 := by omega
    exact ⟨hin, hbefore, hafter⟩
  | succ fuel ih =>
    unfold partitionFrom
    by_cases hcount : 0 < count
    · rw [if_pos hcount]
      have hmid : first + count / 2 < n := by omega
      by_cases hhold : p (first + count / 2) = true
      · simp only [hhold, if_true]
        refine ih (by omega) (by omega) (fun i hi => ?_) fun i hi => hafter i (by omega)
        exact hp i _ (Nat.le_of_lt_succ hi) hmid hhold
      · simp only [hhold, if_false, Bool.false_eq_true]
        refine ih (by omega) (by omega) hbefore fun i hi hin' => ?_
        by_contra hne
        exact hhold (hp _ i hi hin' (by simpa using hne))
    · rw [if_neg hcount]
      obtain rfl : count = 0 := by omega
      exact ⟨hin, hbefore, hafter⟩

/-- **The positions before the partition point** are those where `p` holds. -/
theorem lt_partitionPoint_iff (hp : Partitioned p n) {i : ℕ} (hi : i < n) :
    i < partitionPoint p n ↔ p i = true := by
  obtain ⟨-, hbefore, hafter⟩ := partitionFrom_spec hp (Nat.zero_add n).le (le_refl n)
    (fun i hi => absurd hi (Nat.not_lt_zero i)) fun i hi hin => absurd hin (by omega)
  refine ⟨hbefore i, fun h => ?_⟩
  by_contra hnot
  rw [hafter i (not_lt.1 hnot) hi] at h
  cases h

end Partition

end Foundations
