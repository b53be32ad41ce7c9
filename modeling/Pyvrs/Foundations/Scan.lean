import Mathlib.Data.List.Basic
import Mathlib.Order.Bounds.Basic
import Mathlib.Data.List.Sort

/-!
# Scanning an index

Three searches over the positions `0, …, n - 1` of an index: `firstFrom` walks forward from a
position to the first one that satisfies a test, as a `while` loop over a cursor does, `lastUpTo`
walks back from a position, and `lastBelow` takes the entry just before the lower bound of a value
in a sorted list. Their specifications are order-theoretic: the first finds the least position
(`firstFrom_eq_iff`), the second the greatest one (`lastUpTo_eq_some_iff`), the third the greatest
entry below the value (`lastBelow_eq_some_iff`).
-/

namespace Foundations

/-! ## Walking forward -/

/-- At most `fuel` steps forward from `k`, stopping where `p` holds. -/
def walk (p : ℕ → Bool) : ℕ → ℕ → ℕ
  | 0, k => k
  | fuel + 1, k => if p k then k else walk p fuel (k + 1)

/-- The loop `while (k < n && !p(k)) ++k`: the first position from `k` on where `p` holds, or the
end `n`. -/
def firstFrom (p : ℕ → Bool) (n k : ℕ) : ℕ := walk p (n - k) k

theorem walk_spec (p : ℕ → Bool) (fuel k : ℕ) :
    k ≤ walk p fuel k ∧ walk p fuel k ≤ k + fuel ∧
      (∀ j, k ≤ j → j < walk p fuel k → p j = false) ∧
      (walk p fuel k < k + fuel → p (walk p fuel k) = true) := by
  induction fuel generalizing k with
  | zero => exact ⟨le_rfl, le_rfl, fun j h₁ h₂ => absurd h₂ (by simp only [walk]; omega),
      fun h => absurd h (by simp only [walk]; omega)⟩
  | succ fuel ih =>
    by_cases hp : p k = true
    · simp only [walk, hp, if_true]
      exact ⟨le_rfl, by omega, fun j h₁ h₂ => by omega, fun _ => trivial⟩
    · obtain ⟨h₁, h₂, h₃, h₄⟩ := ih (k + 1)
      simp only [walk, hp, if_false, Bool.false_eq_true]
      refine ⟨by omega, by omega, fun j hj hj' => ?_, fun h => h₄ (by omega)⟩
      rcases hj.eq_or_lt with rfl | hj
      · simpa using hp
      · exact h₃ j hj hj'

section FirstFrom

variable (p : ℕ → Bool) {n k : ℕ}

theorem le_firstFrom : k ≤ firstFrom p n k := (walk_spec p _ _).1

theorem firstFrom_le (h : k ≤ n) : firstFrom p n k ≤ n := by
  have := (walk_spec p (n - k) k).2.1
  simp only [firstFrom]
  omega

/-- No position passed over satisfies the test. -/
theorem not_of_lt_firstFrom {j : ℕ} (h₁ : k ≤ j) (h₂ : j < firstFrom p n k) : p j = false :=
  (walk_spec p _ _).2.2.1 j h₁ h₂

/-- The position found satisfies the test. -/
theorem firstFrom_spec (h : firstFrom p n k < n) : p (firstFrom p n k) = true := by
  refine (walk_spec p (n - k) k).2.2.2 ?_
  simp only [firstFrom] at h
  have := (walk_spec p (n - k) k).1
  omega

/-- **The position found is the least one from `k` on where the test holds.** -/
theorem firstFrom_eq_iff {r : ℕ} (hr : r < n) :
    firstFrom p n k = r ↔ IsLeast {j | k ≤ j ∧ j < n ∧ p j = true} r := by
  constructor
  · rintro rfl
    refine ⟨⟨le_firstFrom p, hr, firstFrom_spec p hr⟩, fun j hj => ?_⟩
    by_contra hlt
    exact absurd hj.2.2 (by simp [not_of_lt_firstFrom p hj.1 (not_le.1 hlt)])
  · rintro ⟨⟨hk, -, hp⟩, hmin⟩
    rcases lt_trichotomy (firstFrom p n k) r with h | h | h
    · have := hmin ⟨le_firstFrom p, h.trans hr, firstFrom_spec p (h.trans hr)⟩
      omega
    · exact h
    · exact absurd hp (by simp [not_of_lt_firstFrom p hk h])

theorem firstFrom_eq_self (h : k < n) (hp : p k = true) : firstFrom p n k = k :=
  (firstFrom_eq_iff p h).2 ⟨⟨le_rfl, h, hp⟩, fun _ hj => hj.1⟩

/-- The walk ends at `n` exactly when no position from `k` on satisfies the test. -/
theorem firstFrom_eq_end_iff (h : k ≤ n) :
    firstFrom p n k = n ↔ ∀ j, k ≤ j → j < n → p j = false := by
  constructor
  · intro he j h₁ h₂
    exact not_of_lt_firstFrom p h₁ (he.symm ▸ h₂)
  · intro hall
    by_contra hne
    have hlt : firstFrom p n k < n := lt_of_le_of_ne (firstFrom_le p h) hne
    exact absurd (firstFrom_spec p hlt) (by simp [hall _ (le_firstFrom p) hlt])

/-- Tests that agree on the positions of the index find the same position. -/
theorem firstFrom_congr {q : ℕ → Bool} (h : ∀ j, j < n → p j = q j) :
    firstFrom p n k = firstFrom q n k := by
  rcases Nat.lt_or_ge n k with hk | hk
  · simp only [firstFrom, Nat.sub_eq_zero_of_le hk.le, walk]
  rcases (firstFrom_le q hk).eq_or_lt with he | hlt
  · rw [he, firstFrom_eq_end_iff p hk]
    intro j h₁ h₂
    rw [h j h₂]
    exact (firstFrom_eq_end_iff q hk).1 he j h₁ h₂
  · rw [firstFrom_eq_iff p hlt]
    have := (firstFrom_eq_iff q hlt (k := k)).1 rfl
    refine ⟨⟨this.1.1, hlt, (h _ hlt).trans this.1.2.2⟩, fun j hj => this.2 ⟨hj.1, hj.2.1, ?_⟩⟩
    exact (h j hj.2.1).symm.trans hj.2.2

/-- From the end on there is nothing to walk over. -/
theorem firstFrom_of_le (h : n ≤ k) : firstFrom p n k = k := by
  rw [firstFrom, Nat.sub_eq_zero_of_le h]
  rfl

end FirstFrom

/-! ## Walking back -/

/-- The loop `while (k >= 0 && !p(k)) --k`: the last position up to `k` where `p` holds. -/
def lastUpTo (p : ℕ → Bool) : ℕ → Option ℕ
  | 0 => if p 0 then some 0 else none
  | k + 1 => if p (k + 1) then some (k + 1) else lastUpTo p k

section LastUpTo

variable (p : ℕ → Bool) {k : ℕ}

/-- The walk back passes the start exactly when no position up to `k` satisfies the test. -/
theorem lastUpTo_eq_none_iff : lastUpTo p k = none ↔ ∀ j ≤ k, p j = false := by
  induction k with
  | zero => simp [lastUpTo]
  | succ k ih =>
    by_cases hp : p (k + 1) = true
    · simp only [lastUpTo, hp, if_true, reduceCtorEq, false_iff, not_forall]
      exact ⟨k + 1, le_rfl, by simp [hp]⟩
    · rw [lastUpTo, if_neg hp, ih]
      constructor
      · intro h j hj
        rcases hj.eq_or_lt with rfl | hlt
        · simpa using hp
        · exact h j (Nat.le_of_lt_succ hlt)
      · exact fun h j hj => h j (Nat.le_succ_of_le hj)

/-- **The position found is the greatest one up to `k` where the test holds.** -/
theorem lastUpTo_eq_some_iff {r : ℕ} :
    lastUpTo p k = some r ↔ IsGreatest {j | j ≤ k ∧ p j = true} r := by
  have hfound : ∀ r, lastUpTo p k = some r → IsGreatest {j | j ≤ k ∧ p j = true} r := by
    induction k with
    | zero =>
      intro r h
      by_cases hp : p 0 = true
      · simp only [lastUpTo, hp, if_true, Option.some.injEq] at h
        subst h
        exact ⟨⟨le_rfl, hp⟩, fun j hj => hj.1⟩
      · simp [lastUpTo, hp] at h
    | succ k ih =>
      intro r h
      by_cases hp : p (k + 1) = true
      · simp only [lastUpTo, hp, if_true, Option.some.injEq] at h
        subst h
        exact ⟨⟨le_rfl, hp⟩, fun j hj => hj.1⟩
      · rw [lastUpTo, if_neg hp] at h
        obtain ⟨⟨hr, hpr⟩, hmax⟩ := ih r h
        refine ⟨⟨Nat.le_succ_of_le hr, hpr⟩, fun j hj => ?_⟩
        rcases hj.1.eq_or_lt with rfl | hlt
        · exact absurd hj.2 hp
        · exact hmax ⟨Nat.le_of_lt_succ hlt, hj.2⟩
  refine ⟨hfound r, fun h => ?_⟩
  rcases hlast : lastUpTo p k with _ | r'
  · exact absurd h.1.2 (by simp [(lastUpTo_eq_none_iff p).1 hlast r h.1.1])
  · rw [(hfound r' hlast).unique h]

end LastUpTo

/-! ## The entry below a value -/

/-- The position of the first entry not below `x`, in a sorted list. -/
def lowerBound (l : List ℕ) (x : ℕ) : ℕ := (l.takeWhile (· < x)).length

/-- The entry just before the lower bound of `x`, if there is one. -/
def lastBelow (l : List ℕ) (x : ℕ) : Option ℕ :=
  match lowerBound l x with
  | 0 => none
  | k + 1 => l[k]?

theorem lastBelow_eq_getLast? (l : List ℕ) (x : ℕ) :
    lastBelow l x = (l.takeWhile (· < x)).getLast? := by
  rw [List.getLast?_eq_getElem?, lastBelow, lowerBound]
  rcases hk : (l.takeWhile (· < x)).length with _ | k
  · simp [List.length_eq_zero_iff.1 hk]
  · have hsplit := List.takeWhile_append_dropWhile (p := (· < x)) (l := l)
    have hleft : (l.takeWhile (· < x) ++ l.dropWhile (· < x))[k]? = (l.takeWhile (· < x))[k]? :=
      List.getElem?_append_left (by omega)
    rw [Nat.add_sub_cancel, ← hleft, hsplit]

theorem takeWhile_lt_eq_filter {l : List ℕ} (hl : l.Pairwise (· < ·)) (x : ℕ) :
    l.takeWhile (· < x) = l.filter (· < x) := by
  induction l with
  | nil => rfl
  | cons y l ih =>
    rw [List.pairwise_cons] at hl
    by_cases hy : y < x
    · simp [hy, ih hl.2]
    · have hnone : l.filter (· < x) = [] := by
        rw [List.filter_eq_nil_iff]
        intro z hz
        have := hl.1 z hz
        simp only [decide_eq_true_eq]
        omega
      simp [hy, hnone]

/-- The last entry of a sorted list is its greatest. -/
theorem getLast?_eq_some_iff_isGreatest {l : List ℕ} (hl : l.Pairwise (· < ·)) {m : ℕ} :
    l.getLast? = some m ↔ IsGreatest {y | y ∈ l} m := by
  have hlast : ∀ m', l.getLast? = some m' → IsGreatest {y | y ∈ l} m' := by
    intro m' h
    obtain ⟨init, rfl⟩ := List.getLast?_eq_some_iff.1 h
    rw [List.pairwise_append] at hl
    refine ⟨by simp, fun y hy => ?_⟩
    rcases List.mem_append.1 hy with hy | hy
    · exact (hl.2.2 y hy m' (by simp)).le
    · exact (List.mem_singleton.1 hy).le
  refine ⟨hlast m, fun hm => ?_⟩
  rcases h : l.getLast? with _ | m'
  · rw [List.getLast?_eq_none_iff] at h
    exact absurd hm.1 (by simp [h])
  · rw [(hlast m' h).unique hm]

/-- **In a sorted list, the entry before the lower bound is the greatest entry below the value.** -/
theorem lastBelow_eq_some_iff {l : List ℕ} (hl : l.Pairwise (· < ·)) {x m : ℕ} :
    lastBelow l x = some m ↔ IsGreatest {y | y ∈ l ∧ y < x} m := by
  rw [lastBelow_eq_getLast?, takeWhile_lt_eq_filter hl,
    getLast?_eq_some_iff_isGreatest (hl.filter _)]
  simp only [List.mem_filter, decide_eq_true_eq]

end Foundations
