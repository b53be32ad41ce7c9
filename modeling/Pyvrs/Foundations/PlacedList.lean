import Mathlib.Data.List.Induction
import Mathlib.Order.Basic
import Mathlib.Order.Lattice

/-!
# Lists emptied by position

An element that comes with a position is appended to a list, and the list is emptied first when it
already holds as many elements as the position says or more. Elements whose positions stay above the
length are all kept (`placeAll_eq_append`). Of elements at increasing positions placed in an empty
list, all are kept unless the first two positions are `0` and `1` (`placeAll_nil_eq_map_iff`). Of
elements at one position, the list holds a number that starts anew at every multiple of it
(`length_placeAll`).
-/

namespace Foundations

variable {α : Type*}

/-- The list after an element is placed. -/
def place (xs : List α) (q : ℕ × α) : List α :=
  (if q.1 ≤ xs.length then [] else xs) ++ [q.2]

/-- The list after elements are placed in order. -/
def placeAll (xs : List α) (placed : List (ℕ × α)) : List α :=
  placed.foldl place xs

@[simp] theorem placeAll_nil (xs : List α) : placeAll xs [] = xs := rfl

@[simp] theorem placeAll_cons (xs : List α) (q : ℕ × α) (placed : List (ℕ × α)) :
    placeAll xs (q :: placed) = placeAll (place xs q) placed := rfl

theorem placeAll_append (xs : List α) (placed placed' : List (ℕ × α)) :
    placeAll xs (placed ++ placed') = placeAll (placeAll xs placed) placed' :=
  List.foldl_append

theorem place_of_le {xs : List α} {q : ℕ × α} (h : q.1 ≤ xs.length) : place xs q = [q.2] := by
  unfold place
  rw [if_pos h]
  rfl

theorem place_of_lt {xs : List α} {q : ℕ × α} (h : xs.length < q.1) :
    place xs q = xs ++ [q.2] := by
  unfold place
  rw [if_neg (by omega)]

/-- In an empty list nothing is lost. -/
@[simp] theorem place_nil (q : ℕ × α) : place [] q = [q.2] := by
  unfold place
  split <;> rfl

/-! ## Increasing positions -/

/-- **Elements placed beyond the end of a list, at increasing positions, are all kept.** -/
theorem placeAll_eq_append {xs : List α} {placed : List (ℕ × α)}
    (hincreasing : (placed.map Prod.fst).Pairwise (· < ·))
    (hbeyond : ∀ q ∈ placed, xs.length < q.1) :
    placeAll xs placed = xs ++ placed.map Prod.snd := by
  induction placed generalizing xs with
  | nil => simp
  | cons q placed ih =>
    rw [List.forall_mem_cons] at hbeyond
    rw [List.map_cons, List.pairwise_cons] at hincreasing
    rw [placeAll_cons, place_of_lt hbeyond.1, ih hincreasing.2, List.map_cons, List.append_assoc,
      List.singleton_append]
    intro q' hq'
    have hless := hincreasing.1 q'.1 (List.mem_map_of_mem hq')
    have hlength := hbeyond.1
    rw [List.length_append, List.length_singleton]
    omega

/-- **At increasing positions, placed in an empty list, all are kept unless the first two positions
are `0` and `1`**: the first element is then lost. -/
theorem placeAll_nil_eq_map_iff {placed : List (ℕ × α)}
    (hincreasing : (placed.map Prod.fst).Pairwise (· < ·)) :
    placeAll [] placed = placed.map Prod.snd ↔ ¬[0, 1] <+: placed.map Prod.fst := by
  match placed with
  | [] => simp
  | [q] => simp
  | q :: q' :: placed =>
    rw [List.map_cons, List.map_cons, List.pairwise_cons, List.pairwise_cons] at hincreasing
    obtain ⟨hfirst, hsecond, hrest⟩ := hincreasing
    have hless := hfirst q'.1 List.mem_cons_self
    have hbeyond : ∀ r ∈ placed, q'.1 < r.1 := fun r hr =>
      hsecond r.1 (List.mem_map_of_mem hr)
    have hpair : [0, 1] <+: (q :: q' :: placed).map Prod.fst ↔ q.1 = 0 ∧ q'.1 = 1 := by
      simp [List.cons_prefix_cons, eq_comm]
    rw [hpair, placeAll_cons, placeAll_cons, place_nil]
    by_cases htwo : q'.1 ≤ 1
    · -- The second element empties the list.
      have hlost : placeAll [q'.2] placed = [q'.2] ++ placed.map Prod.snd :=
        placeAll_eq_append hrest fun r hr => by
          have := hbeyond r hr
          rw [List.length_singleton]
          omega
      rw [place_of_le (by simpa using htwo), hlost]
      refine iff_of_false (fun h => ?_) (not_not.2 ⟨by omega, by omega⟩)
      have hlengths := congrArg List.length h
      simp at hlengths
    · have hkept : placeAll ([q.2] ++ [q'.2]) placed = [q.2] ++ [q'.2] ++ placed.map Prod.snd :=
        placeAll_eq_append hrest fun r hr => by
          have := hbeyond r hr
          rw [List.length_append, List.length_singleton, List.length_singleton]
          omega
      rw [place_of_lt (by simpa using htwo), hkept]
      exact iff_of_true rfl fun h => htwo h.2.le

/-! ## One position -/

/-- **Elements placed at one position are counted modulo it.** -/
theorem length_placeAll {p : ℕ} {placed : List (ℕ × α)} (hplaced : ∀ q ∈ placed, q.1 = p)
    (q : ℕ × α) (hq : q.1 = p) :
    (placeAll [] (placed ++ [q])).length = placed.length % max p 1 + 1 := by
  induction placed using List.reverseRecOn generalizing q with
  | nil => simp
  | append_singleton placed q' ih =>
    have hq' : q'.1 = p := hplaced q' (by simp)
    have hlength := ih (fun r hr => hplaced r (by simp [hr])) q' hq'
    rw [placeAll_append, placeAll_cons, placeAll_nil, List.length_append, List.length_singleton]
    have hpos : 0 < max p 1 := by omega
    have hmod : placed.length % max p 1 < max p 1 := Nat.mod_lt _ hpos
    by_cases hfull : p ≤ placed.length % max p 1 + 1
    · -- The list is as long as the position, so that it starts anew.
      have hwrap : placed.length % max p 1 + 1 = max p 1 := by omega
      have hnext : (placed.length + 1) % max p 1 = 0 := by
        rw [← Nat.mod_add_mod, hwrap, Nat.mod_self]
      rw [place_of_le (by omega), hnext]
      rfl
    · have hnext : (placed.length + 1) % max p 1 = placed.length % max p 1 + 1 := by
        rw [← Nat.mod_add_mod]
        exact Nat.mod_eq_of_lt (by omega)
      rw [place_of_lt (by omega), List.length_append, hlength, hnext]
      rfl

/-- The last one placed is all that is left exactly when the list starts anew with it. -/
theorem placeAll_eq_singleton_iff {p : ℕ} {placed : List (ℕ × α)}
    (hplaced : ∀ q ∈ placed, q.1 = p) (q : ℕ × α) (hq : q.1 = p) :
    placeAll [] (placed ++ [q]) = [q.2] ↔ max p 1 ∣ placed.length := by
  have hlength := length_placeAll hplaced q hq
  constructor
  · intro h
    rw [h, List.length_singleton] at hlength
    exact Nat.dvd_of_mod_eq_zero (by omega)
  · intro hdvd
    rw [Nat.mod_eq_zero_of_dvd hdvd, placeAll_append, placeAll_cons, placeAll_nil, place,
      List.length_append, List.length_singleton] at hlength
    have hnil := List.length_eq_zero_iff.1 (Nat.add_right_cancel hlength)
    rw [placeAll_append, placeAll_cons, placeAll_nil, place, hnil, List.nil_append]

end Foundations
