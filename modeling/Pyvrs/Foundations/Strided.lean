import Mathlib.Algebra.BigOperators.Group.List.Basic
import Mathlib.Algebra.Order.Ring.Int
import Mathlib.Data.List.Basic
import Mathlib.Tactic.Ring

/-!
# Strided arrays

An array of any dimension in memory, where each dimension has an extent and a stride of its own,
which may be negative. Its bytes have addresses, relative to the address of the array, and
`Layout.offsets` lists them in row-major order, which is the order of its content. The addresses
are the numbers from zero up to the size, in order, if and only if the array is C-contiguous
(`offsets_eq_range_iff`); so exactly then a copy of so many bytes from the address of the array on
is its content, whatever is in memory (`forall_map_eq_iff`).
-/

namespace Foundations

/-! ## Lists of equal blocks -/

section Blocks

variable {α β : Type*} {m n : ℕ}

/-- Lists made of blocks of one length are equal if and only if their blocks are. -/
theorem flatMap_range_inj {f g : ℕ → List α} (hf : ∀ i, (f i).length = m)
    (hg : ∀ i, (g i).length = m) :
    (List.range n).flatMap f = (List.range n).flatMap g ↔ ∀ i < n, f i = g i := by
  induction n with
  | zero => simp
  | succ n ih =>
    rw [List.range_succ, List.flatMap_append, List.flatMap_append, List.flatMap_singleton,
      List.flatMap_singleton]
    constructor
    · intro h i hi
      obtain ⟨hinit, hlast⟩ := List.append_inj' h ((hf n).trans (hg n).symm)
      rcases Nat.lt_succ_iff_lt_or_eq.1 hi with hlt | rfl
      · exact ih.1 hinit i hlt
      · exact hlast
    · intro h
      rw [ih.2 fun i hi => h i (Nat.lt_succ_of_lt hi), h n (Nat.lt_succ_self n)]

theorem range_mul (n m : ℕ) :
    List.range (n * m) = (List.range n).flatMap fun i => (List.range m).map (i * m + ·) := by
  induction n with
  | zero => simp
  | succ n ih =>
    rw [Nat.succ_mul, List.range_add, ih, List.range_succ, List.flatMap_append,
      List.flatMap_singleton]

/-- **Addresses are told apart** by what can be in memory. -/
theorem forall_map_eq_iff [DecidableEq α] [Nontrivial β] {as bs : List α} :
    (∀ memory : α → β, as.map memory = bs.map memory) ↔ as = bs := by
  refine ⟨fun h => ?_, fun h memory => by rw [h]⟩
  obtain ⟨zero, one, hne⟩ := exists_pair_ne β
  have hlength : as.length = bs.length := by
    have := congrArg List.length (h fun _ => zero)
    rwa [List.length_map, List.length_map] at this
  refine List.ext_getElem hlength fun i hi hi' => ?_
  -- a memory that has `one` at this address only
  by_contra hat
  have hmark := congrArg (fun l => l[i]?) (h fun a => if a = as[i] then one else zero)
  simp only [List.getElem?_map, List.getElem?_eq_getElem hi, List.getElem?_eq_getElem hi',
    Option.map_some, Option.some.injEq, if_true, if_neg (Ne.symm hat)] at hmark
  exact hne hmark.symm

end Blocks

/-! ## Layouts -/

/-- The item size of an array and, for each dimension, its extent and its stride. -/
structure Layout where
  itemsize : ℕ
  dims : List (ℕ × ℤ)
  deriving DecidableEq, Repr

namespace Layout

/-- The number of bytes in the array. -/
def sizeOf (itemsize : ℕ) : List (ℕ × ℤ) → ℕ
  | [] => itemsize
  | (n, _) :: dims => n * sizeOf itemsize dims

/-- The addresses of the bytes, row by row. -/
def offsetsOf (itemsize : ℕ) : List (ℕ × ℤ) → List ℤ
  | [] => (List.range itemsize).map Nat.cast
  | (n, s) :: dims =>
    (List.range n).flatMap fun i : ℕ => (offsetsOf itemsize dims).map ((i : ℤ) * s + ·)

/-- Each stride is the size of what it steps over, where there is more than one step. -/
def IsPacked (itemsize : ℕ) : List (ℕ × ℤ) → Prop
  | [] => True
  | (n, s) :: dims => (n = 1 ∨ s = sizeOf itemsize dims) ∧ IsPacked itemsize dims

variable (layout : Layout)

/-- The number of bytes in the array. -/
def size : ℕ := sizeOf layout.itemsize layout.dims

/-- The addresses of the bytes of the array, in row-major order. -/
def offsets : List ℤ := offsetsOf layout.itemsize layout.dims

/-- The array is C-contiguous: it is empty, or its rows follow one another. -/
def IsCContiguous : Prop := layout.size = 0 ∨ IsPacked layout.itemsize layout.dims

/-- The elements of the array in row-major order, byte by byte. -/
def content {β : Type*} (memory : ℤ → β) : List β := layout.offsets.map memory

section Offsets

variable {itemsize : ℕ} {dims : List (ℕ × ℤ)}

theorem sizeOf_mul (n itemsize : ℕ) (dims : List (ℕ × ℤ)) :
    sizeOf (n * itemsize) dims = n * sizeOf itemsize dims := by
  induction dims with
  | nil => rfl
  | cons dim dims ih =>
    rw [sizeOf, sizeOf, ih]
    ring

@[simp] theorem length_offsetsOf : (offsetsOf itemsize dims).length = sizeOf itemsize dims := by
  induction dims with
  | nil => simp [offsetsOf, sizeOf]
  | cons dim dims ih =>
    obtain ⟨n, s⟩ := dim
    simp [offsetsOf, sizeOf, ih]

/-- **The addresses of the rows** are consecutive if and only if those of one row are, and the
next row is where it ends. -/
theorem offsetsOf_cons_eq_range_iff {n : ℕ} {s : ℤ} (hn : n ≠ 0)
    (hsize : sizeOf itemsize dims ≠ 0) :
    offsetsOf itemsize ((n, s) :: dims) =
        (List.range (n * sizeOf itemsize dims)).map Nat.cast ↔
      (n = 1 ∨ s = sizeOf itemsize dims) ∧
        offsetsOf itemsize dims = (List.range (sizeOf itemsize dims)).map Nat.cast := by
  generalize hm : sizeOf itemsize dims = m at hsize ⊢
  have hlength : ∀ i : ℕ, ((offsetsOf itemsize dims).map ((i : ℤ) * s + ·)).length = m := by
    intro i
    rw [List.length_map, length_offsetsOf, hm]
  rw [range_mul, List.map_flatMap, offsetsOf, flatMap_range_inj hlength (by simp)]
  constructor
  · intro h
    have hrow : offsetsOf itemsize dims = (List.range m).map Nat.cast := by
      have hfirst := h 0 (Nat.pos_of_ne_zero hn)
      simpa [Function.comp_def] using hfirst
    refine ⟨or_iff_not_imp_left.2 fun hone => ?_, hrow⟩
    -- the first byte of the second row
    have hsecond := congrArg (fun l => l[0]?) (h 1 (by omega))
    rw [hrow] at hsecond
    simpa [List.getElem?_range (Nat.pos_of_ne_zero hsize)] using hsecond
  · rintro ⟨hstride, hrow⟩ i hi
    rw [hrow, List.map_map, List.map_map]
    refine List.map_congr_left fun x _ => ?_
    rcases hstride with rfl | rfl
    · obtain rfl : i = 0 := by omega
      simp
    · simp

theorem offsetsOf_eq_range_iff (hsize : sizeOf itemsize dims ≠ 0) :
    offsetsOf itemsize dims = (List.range (sizeOf itemsize dims)).map Nat.cast ↔
      IsPacked itemsize dims := by
  induction dims with
  | nil => simp [offsetsOf, sizeOf, IsPacked]
  | cons dim dims ih =>
    obtain ⟨n, s⟩ := dim
    obtain ⟨hn, hrest⟩ := mul_ne_zero_iff.1 hsize
    rw [sizeOf, offsetsOf_cons_eq_range_iff hn hrest, ih hrest, IsPacked]

end Offsets

@[simp] theorem length_offsets : layout.offsets.length = layout.size := length_offsetsOf

/-- **An array is C-contiguous** if and only if its bytes are those from its address on. -/
theorem offsets_eq_range_iff :
    layout.offsets = (List.range layout.size).map Nat.cast ↔ layout.IsCContiguous := by
  by_cases hsize : layout.size = 0
  · have hnone : layout.offsets = [] :=
      List.length_eq_zero_iff.1 (layout.length_offsets.trans hsize)
    simp [IsCContiguous, hsize, hnone]
  · unfold IsCContiguous
    rw [or_iff_right hsize]
    exact offsetsOf_eq_range_iff hsize

end Layout

end Foundations
