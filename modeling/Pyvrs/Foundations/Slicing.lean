import Mathlib.Algebra.Order.Ring.Int
import Mathlib.Data.List.Induction
import Mathlib.Data.List.Nodup
import Mathlib.Data.List.Sort
import Mathlib.Tactic.Ring

/-!
# Indexing and slicing sequences

A sequence of Python is indexed by an integer, from its end if that is negative, and sliced by
`start:stop:step`, of which each part may be missing or negative. The positions that a slice stands
for in a sequence of a given length are an arithmetic progression (`Slice.indices`), and they are
positions of the sequence (`Slice.within_indices`). A `range` object is a progression itself: to
slice it is to compose two of them, and that is to slice the list of its items (`items_compose`). A
slice keeps the order of a sequence or reverses it (`pairwise_pick`, `pairwise_pick_of_neg`).
-/

namespace Foundations

/-- The integers `start, start + step, …` before `stop`: a `range` object. -/
structure Progression where
  start : ℤ
  stop : ℤ
  step : ℤ
  step_ne_zero : step ≠ 0
  deriving DecidableEq

namespace Progression

variable (p r : Progression)

/-- The number of items. -/
def length : ℕ :=
  let lo := if 0 < p.step then p.start else p.stop
  let hi := if 0 < p.step then p.stop else p.start
  if hi ≤ lo then 0 else ((hi - lo - 1) / |p.step| + 1).toNat

/-- The item at a position. -/
def item (i : ℤ) : ℤ := p.start + i * p.step

/-- The items, in order. -/
def items : List ℤ := (List.range p.length).map fun i : ℕ => p.item i

/-- The items of `r` at the items of `p`, as a progression. -/
def compose : Progression where
  start := r.item p.start
  stop := r.item p.stop
  step := r.step * p.step
  step_ne_zero := mul_ne_zero r.step_ne_zero p.step_ne_zero

/-- The items are positions in a sequence of a length. -/
def Within (length : ℕ) : Prop := ∀ i < p.length, 0 ≤ p.item i ∧ p.item i < length

variable {p r}

theorem step_pos_or_neg : 0 < p.step ∨ p.step < 0 := by
  have := p.step_ne_zero
  omega

/-- **The positions are those whose item is before the end**, going up. -/
theorem lt_length_iff (hstep : 0 < p.step) {i : ℕ} : i < p.length ↔ p.item i < p.stop := by
  unfold length item
  simp only [if_pos hstep, abs_of_pos hstep]
  by_cases hempty : p.stop ≤ p.start
  · have hnonneg : 0 ≤ (i : ℤ) * p.step := mul_nonneg (by omega) hstep.le
    rw [if_pos hempty]
    omega
  · have hle := Int.le_ediv_iff_mul_le (a := i) (b := p.stop - p.start - 1) hstep
    rw [if_neg hempty]
    omega

/-- The same, going down. -/
theorem lt_length_iff_of_neg (hstep : p.step < 0) {i : ℕ} : i < p.length ↔ p.stop < p.item i := by
  unfold length item
  simp only [if_neg hstep.not_gt, abs_of_neg hstep]
  by_cases hempty : p.start ≤ p.stop
  · have hnonpos : (i : ℤ) * p.step ≤ 0 := mul_nonpos_of_nonneg_of_nonpos (by omega) hstep.le
    rw [if_pos hempty]
    omega
  · have hle := Int.le_ediv_iff_mul_le (a := i) (b := p.start - p.stop - 1) (c := -p.step)
      (by omega)
    rw [mul_neg] at hle
    rw [if_neg hempty]
    omega

theorem item_compose (i : ℤ) : (p.compose r).item i = r.item (p.item i) := by
  simp only [item, compose]
  ring

theorem item_lt_item (hstep : 0 < p.step) {i j : ℤ} : p.item i < p.item j ↔ i < j := by
  unfold item
  rw [add_lt_add_iff_left, mul_lt_mul_iff_left₀ hstep]

theorem item_lt_item_of_neg (hstep : p.step < 0) {i j : ℤ} : p.item i < p.item j ↔ j < i := by
  unfold item
  rw [add_lt_add_iff_left, mul_lt_mul_right_of_neg hstep]

theorem length_compose : (p.compose r).length = p.length := by
  refine eq_of_forall_lt_iff fun i => ?_
  have hitem : (p.compose r).item i = r.item (p.item i) := item_compose i
  have hstop : (p.compose r).stop = r.item p.stop := rfl
  rcases r.step_pos_or_neg with hr | hr <;> rcases p.step_pos_or_neg with hp | hp
  · rw [lt_length_iff (mul_pos hr hp), lt_length_iff hp, hitem, hstop, item_lt_item hr]
  · rw [lt_length_iff_of_neg (mul_neg_of_pos_of_neg hr hp), lt_length_iff_of_neg hp, hitem, hstop,
      item_lt_item hr]
  · rw [lt_length_iff_of_neg (mul_neg_of_neg_of_pos hr hp), lt_length_iff hp, hitem, hstop,
      item_lt_item_of_neg hr]
  · rw [lt_length_iff (mul_pos_of_neg_of_neg hr hp), lt_length_iff_of_neg hp, hitem, hstop,
      item_lt_item_of_neg hr]

@[simp] theorem length_items : p.items.length = p.length := by simp [items]

theorem getElem?_items {i : ℕ} (hi : i < p.length) : p.items[i]? = some (p.item i) := by
  simp [items, hi]

end Progression

/-! ## Picking items -/

variable {α : Type*}

/-- The items of a list at the positions of a progression. -/
def pick (xs : List α) (p : Progression) : List α := p.items.filterMap fun i => xs[i.toNat]?

section Pick

variable {xs : List α} {p : Progression}

theorem pick_eq (h : p.Within xs.length) :
    (pick xs p).map some = (List.range p.length).map fun i : ℕ => xs[(p.item i).toNat]? := by
  unfold pick Progression.items
  rw [List.filterMap_map]
  have hsome : ∀ i ∈ List.range p.length, ∃ x, xs[(p.item i).toNat]? = some x := by
    intro i hi
    obtain ⟨hnonneg, hlt⟩ := h i (List.mem_range.1 hi)
    have hlt' : (p.item i).toNat < xs.length := by omega
    exact ⟨_, List.getElem?_eq_getElem hlt'⟩
  generalize List.range p.length = positions at hsome
  induction positions with
  | nil => rfl
  | cons i positions ih =>
    rw [List.forall_mem_cons] at hsome
    obtain ⟨x, hx⟩ := hsome.1
    have hhead : ((fun i : ℤ => xs[i.toNat]?) ∘ fun i : ℕ => p.item i) i = some x := hx
    rw [List.filterMap_cons_some hhead, List.map_cons, List.map_cons, ih hsome.2, hx]

@[simp] theorem length_pick (h : p.Within xs.length) : (pick xs p).length = p.length := by
  have hlength := congrArg List.length (pick_eq h)
  rwa [List.length_map, List.length_map, List.length_range] at hlength

theorem getElem?_pick (h : p.Within xs.length) {i : ℕ} (hi : i < p.length) :
    (pick xs p)[i]? = xs[(p.item i).toNat]? := by
  have hget : ((pick xs p).map some)[i]? = some xs[(p.item i).toNat]? := by
    rw [pick_eq h, List.getElem?_map, List.getElem?_range hi, Option.map_some]
  rw [List.getElem?_map, Option.map_eq_some_iff] at hget
  obtain ⟨x, hx, hsome⟩ := hget
  rw [hx, hsome]

theorem pick_map {β : Type*} (f : α → β) (xs : List α) (p : Progression) :
    pick (xs.map f) p = (pick xs p).map f := by
  unfold pick
  rw [List.map_filterMap]
  simp only [List.getElem?_map]

theorem mem_of_mem_pick {x : α} (hx : x ∈ pick xs p) : x ∈ xs := by
  obtain ⟨i, -, hi⟩ := List.mem_filterMap.1 hx
  exact List.mem_of_getElem? hi

/-- **Slicing a range is composing progressions**: the items are those picked from its items. -/
theorem items_compose {r : Progression} (h : p.Within r.length) :
    (p.compose r).items = pick r.items p := by
  have hwithin : p.Within r.items.length := by rwa [Progression.length_items]
  refine List.ext_getElem? fun i => ?_
  by_cases hi : i < p.length
  · obtain ⟨hnonneg, hlt⟩ := h i hi
    have hitem : (p.item i).toNat < r.length := by omega
    rw [Progression.getElem?_items (by rwa [Progression.length_compose]), getElem?_pick hwithin hi,
      Progression.getElem?_items hitem, Progression.item_compose, Int.toNat_of_nonneg hnonneg]
  · rw [List.getElem?_eq_none, List.getElem?_eq_none]
    · rw [length_pick hwithin]
      omega
    · rw [Progression.length_items, Progression.length_compose]
      omega

/-- Two items picked are items of the list, at the positions picked. -/
theorem pairwise_pick_of {S : α → α → Prop} (h : p.Within xs.length)
    (hxs : ∀ i j : ℕ, i < p.length → j < p.length → i < j → ∀ x y,
      xs[(p.item i).toNat]? = some x → xs[(p.item j).toNat]? = some y → S x y) :
    (pick xs p).Pairwise S := by
  rw [List.pairwise_iff_getElem]
  intro i j hi hj hij
  have hi' : i < p.length := by rwa [length_pick h] at hi
  have hj' : j < p.length := by rwa [length_pick h] at hj
  refine hxs i j hi' hj' hij _ _ ?_ ?_
  · rw [← getElem?_pick h hi', List.getElem?_eq_getElem hi]
  · rw [← getElem?_pick h hj', List.getElem?_eq_getElem hj]

theorem rel_of_getElem? {R : α → α → Prop} (hR : xs.Pairwise R) {i j : ℕ} (hij : i < j) {x y : α}
    (hx : xs[i]? = some x) (hy : xs[j]? = some y) : R x y := by
  obtain ⟨hi, rfl⟩ := List.getElem?_eq_some_iff.1 hx
  obtain ⟨hj, rfl⟩ := List.getElem?_eq_some_iff.1 hy
  exact List.pairwise_iff_getElem.1 hR i j hi hj hij

/-- Going up keeps the order of a list. -/
theorem pairwise_pick {R : α → α → Prop} (h : p.Within xs.length) (hstep : 0 < p.step)
    (hR : xs.Pairwise R) : (pick xs p).Pairwise R := by
  refine pairwise_pick_of h fun i j hi hj hij x y hx hy => rel_of_getElem? hR ?_ hx hy
  have hlt := (p.item_lt_item hstep).2 (Int.ofNat_lt.2 hij)
  have hnonneg := (h i hi).1
  omega

/-- Going down reverses it. -/
theorem pairwise_pick_of_neg {R : α → α → Prop} (h : p.Within xs.length) (hstep : p.step < 0)
    (hR : xs.Pairwise R) : (pick xs p).Pairwise fun x y => R y x := by
  refine pairwise_pick_of h fun i j hi hj hij x y hx hy => rel_of_getElem? hR ?_ hy hx
  have hlt := (p.item_lt_item_of_neg hstep).2 (Int.ofNat_lt.2 hij)
  have hnonneg := (h j hj).1
  omega

end Pick

/-! ## Indexes and slices -/

/-- The position that an index stands for: from the end if it is negative. -/
def position (length : ℕ) (i : ℤ) : Option ℕ :=
  let i := if i < 0 then i + length else i
  if 0 ≤ i ∧ i < length then some i.toNat else none

theorem lt_of_position {length : ℕ} {i : ℤ} {k : ℕ} (h : position length i = some k) :
    k < length := by
  unfold position at h
  simp only at h
  generalize (if i < 0 then i + (length : ℤ) else i) = j at h
  by_cases hj : 0 ≤ j ∧ j < length
  · rw [if_pos hj, Option.some_inj] at h
    omega
  · rw [if_neg hj] at h
    cases h

/-- A `slice` object. -/
structure Slice where
  start : Option ℤ
  stop : Option ℤ
  step : Option ℤ
  deriving DecidableEq

namespace Slice

/-- A bound of a slice: from the end if it is negative, and within the bounds of the sequence. -/
def clip (lower upper : ℤ) (length : ℕ) (i : ℤ) : ℤ :=
  if i < 0 then max (i + length) lower else min i upper

/-- `slice.indices`: the positions in a sequence of a length, none for a step of 0. -/
def indices (s : Slice) (length : ℕ) : Option Progression :=
  let step := s.step.getD 1
  if h : step = 0 then none
  else
    let lower : ℤ := if 0 < step then 0 else -1
    let upper : ℤ := if 0 < step then length else length - 1
    some {
      start := (s.start.map (clip lower upper length)).getD (if 0 < step then lower else upper)
      stop := (s.stop.map (clip lower upper length)).getD (if 0 < step then upper else lower)
      step
      step_ne_zero := h }

variable {s : Slice} {length : ℕ} {p : Progression}

theorem clip_bounds {lower upper : ℤ} (hlower : lower ≤ 0) (hupper : (length : ℤ) - 1 ≤ upper)
    (hle : lower ≤ upper) (i : ℤ) :
    lower ≤ clip lower upper length i ∧ clip lower upper length i ≤ upper := by
  unfold clip
  split <;> omega

/-- Both bounds of a slice are bounds of the sequence. -/
theorem bound_within {lower upper default : ℤ} (hlower : lower ≤ 0)
    (hupper : (length : ℤ) - 1 ≤ upper) (hdefault : lower ≤ default ∧ default ≤ upper)
    (bound : Option ℤ) :
    lower ≤ (bound.map (clip lower upper length)).getD default ∧
      (bound.map (clip lower upper length)).getD default ≤ upper := by
  cases bound with
  | none => exact hdefault
  | some i => exact clip_bounds hlower hupper (hdefault.1.trans hdefault.2) i

/-- **A slice picks positions of the sequence.** -/
theorem within_indices (h : s.indices length = some p) : p.Within length := by
  unfold indices at h
  simp only at h
  split at h
  · cases h
  · rename_i hstep
    cases h
    intro i hi
    by_cases hpos : 0 < s.step.getD 1
    · rw [Progression.lt_length_iff hpos] at hi
      simp only [Progression.item, if_pos hpos] at hi ⊢
      have hupper : (length : ℤ) - 1 ≤ length := by omega
      have hstart := bound_within le_rfl hupper ⟨le_rfl, Int.natCast_nonneg length⟩ s.start
      have hstop := bound_within le_rfl hupper ⟨Int.natCast_nonneg length, le_rfl⟩ s.stop
      have hnonneg : 0 ≤ (i : ℤ) * s.step.getD 1 := mul_nonneg (by omega) hpos.le
      omega
    · rw [Progression.lt_length_iff_of_neg (by show s.step.getD 1 < 0; omega)] at hi
      simp only [Progression.item, if_neg hpos] at hi ⊢
      have hle : (-1 : ℤ) ≤ length - 1 := by omega
      have hstart := bound_within (by decide : (-1 : ℤ) ≤ 0) le_rfl ⟨hle, le_rfl⟩ s.start
      have hstop := bound_within (by decide : (-1 : ℤ) ≤ 0) le_rfl ⟨le_rfl, hle⟩ s.stop
      have hnonpos : (i : ℤ) * s.step.getD 1 ≤ 0 :=
        mul_nonpos_of_nonneg_of_nonpos (by omega) (by omega)
      omega

end Slice

/-- `xs[s]`, none for a step of 0. -/
def slice? (xs : List α) (s : Slice) : Option (List α) := (s.indices xs.length).map (pick xs)

/-- `xs[s₁][s₂]…`. -/
def slices? : List α → List Slice → Option (List α)
  | xs, [] => some xs
  | xs, s :: rest => (slice? xs s).bind fun ys => slices? ys rest

example : slice? [10, 11, 12, 13, 14] ⟨some (-2), none, some (-2)⟩ = some [13, 11] := by decide

section Slices

variable {xs ys : List α} {s : Slice} {rest : List Slice}

theorem subset_of_slice? (h : slice? xs s = some ys) {x : α} (hx : x ∈ ys) : x ∈ xs := by
  obtain ⟨p, -, rfl⟩ := Option.map_eq_some_iff.1 h
  exact mem_of_mem_pick hx

/-- A slice is in the order of the sequence, or in the reverse order. -/
theorem pairwise_or_of_slice? {R : α → α → Prop} (h : slice? xs s = some ys)
    (hR : xs.Pairwise R) : ys.Pairwise R ∨ ys.Pairwise fun x y => R y x := by
  obtain ⟨p, hp, rfl⟩ := Option.map_eq_some_iff.1 h
  have hwithin := Slice.within_indices hp
  rcases p.step_pos_or_neg with hstep | hstep
  · exact .inl (pairwise_pick hwithin hstep hR)
  · exact .inr (pairwise_pick_of_neg hwithin hstep hR)

theorem subset_of_slices? (h : slices? xs rest = some ys) {x : α} (hx : x ∈ ys) : x ∈ xs := by
  induction rest generalizing xs with
  | nil =>
    cases h
    exact hx
  | cons s rest ih =>
    obtain ⟨zs, hzs, h⟩ := Option.bind_eq_some_iff.1 h
    exact subset_of_slice? hzs (ih h)

/-- **Slices of slices keep the order or reverse it**, and so repeat nothing. -/
theorem pairwise_or_of_slices? {R : α → α → Prop} (h : slices? xs rest = some ys)
    (hR : xs.Pairwise R ∨ xs.Pairwise fun x y => R y x) :
    ys.Pairwise R ∨ ys.Pairwise fun x y => R y x := by
  induction rest generalizing xs with
  | nil =>
    cases h
    exact hR
  | cons s rest ih =>
    obtain ⟨zs, hzs, h⟩ := Option.bind_eq_some_iff.1 h
    refine ih h ?_
    rcases hR with hR | hR
    · exact pairwise_or_of_slice? hzs hR
    · exact (pairwise_or_of_slice? hzs hR).symm

/-- Slicing looks at positions alone. -/
theorem slices?_map {β : Type*} (f : α → β) (xs : List α) (rest : List Slice) :
    slices? (xs.map f) rest = (slices? xs rest).map (List.map f) := by
  induction rest generalizing xs with
  | nil => rfl
  | cons s rest ih =>
    simp only [slices?, slice?, List.length_map]
    cases s.indices xs.length with
    | none => rfl
    | some p => exact (congrArg (slices? · rest) (pick_map f xs p)).trans (ih _)

end Slices

/-! ## Selections -/

section Selection

variable {α : Type*} {l : List α} {p : α → Bool} {is : List ℕ}

theorem filterMap_getElem?_range (l : List α) : (List.range l.length).filterMap (l[·]?) = l := by
  induction l using List.reverseRecOn with
  | nil => rfl
  | append_singleton l x ih =>
    rw [List.length_append, List.length_singleton, List.range_succ, List.filterMap_append]
    have hold : (List.range l.length).filterMap ((l ++ [x])[·]?) =
        (List.range l.length).filterMap (l[·]?) :=
      List.filterMap_congr fun i hi => List.getElem?_append_left (List.mem_range.1 hi)
    rw [hold, ih]
    simp

/-- **The items at the positions of those that are wanted** are those wanted, in order. -/
theorem filterMap_getElem?_of_mem_iff (hincreasing : is.Pairwise (· < ·))
    (hmem : ∀ i, i ∈ is ↔ ∃ x, l[i]? = some x ∧ p x) : is.filterMap (l[·]?) = l.filter p := by
  have his : is = (List.range l.length).filter fun i => l[i]?.any p := by
    refine hincreasing.eq_of_mem_iff (List.pairwise_lt_range.filter _) fun i => ?_
    rw [hmem, List.mem_filter, List.mem_range, Option.any_eq_true]
    constructor
    · rintro ⟨x, hx, hpx⟩
      exact ⟨(List.getElem?_eq_some_iff.1 hx).1, x, hx, hpx⟩
    · exact And.right
  have hfilter : l.filter p = ((List.range l.length).filterMap (l[·]?)).filter p := by
    rw [filterMap_getElem?_range]
  rw [hfilter, his, List.filterMap_filter, List.filter_filterMap]
  refine List.filterMap_congr fun i _ => ?_
  cases l[i]? with
  | none => simp
  | some x => by_cases hx : p x <;> simp [hx, Option.filter]

/-- What is related to the items at some positions, one by one. -/
theorem forall₂_filterMap_getElem? {β : Type*} {R : α → β → Prop} {ys : List β}
    (h : List.Forall₂ (fun i y => ∃ x, l[i]? = some x ∧ R x y) is ys) :
    List.Forall₂ R (is.filterMap (l[·]?)) ys := by
  induction h with
  | nil => exact .nil
  | cons hhead _ ih =>
    obtain ⟨x, hx, hxy⟩ := hhead
    rw [List.filterMap_cons_some hx]
    exact .cons hxy ih

theorem forall₂_trans {β γ : Type*} {R : α → β → Prop} {S : β → γ → Prop} {Q : α → γ → Prop}
    (hQ : ∀ {x y z}, R x y → S y z → Q x z) {ys : List β} {zs : List γ}
    (hR : List.Forall₂ R l ys) (hS : List.Forall₂ S ys zs) : List.Forall₂ Q l zs := by
  induction hR generalizing zs with
  | nil =>
    cases hS
    exact .nil
  | cons hxy _ ih =>
    obtain - | ⟨hyz, hS⟩ := hS
    exact .cons (hQ hxy hyz) (ih hS)

end Selection

end Foundations
