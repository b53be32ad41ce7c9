import Mathlib.Order.WithBot

/-!
# Numbers with a NaN

A floating-point type as its comparisons see it: the numbers of a linear order and one more value,
which compares with nothing, itself included. `IsNum` singles out the numbers.
-/

namespace Foundations

/-- A number of `α`, or NaN. -/
inductive WithNaN (α : Type*)
  | nan
  | num (x : α)
  deriving DecidableEq, Repr

namespace WithNaN

variable {α : Type*}

/-- The value is not NaN. -/
def IsNum : WithNaN α → Prop
  | nan => False
  | num _ => True

instance : DecidablePred (@IsNum α)
  | nan => .isFalse id
  | num _ => .isTrue trivial

/-- The comparison `a < b`, false when one side is NaN. -/
protected def lt [LT α] : WithNaN α → WithNaN α → Prop
  | num x, num y => x < y
  | _, _ => False

/-- The comparison `a ≤ b`, false when one side is NaN. -/
protected def le [LE α] : WithNaN α → WithNaN α → Prop
  | num x, num y => x ≤ y
  | _, _ => False

instance [LT α] : LT (WithNaN α) := ⟨WithNaN.lt⟩

instance [LE α] : LE (WithNaN α) := ⟨WithNaN.le⟩

instance [LT α] [DecidableLT α] : DecidableLT (WithNaN α)
  | num x, num y => inferInstanceAs (Decidable (x < y))
  | nan, num _ => .isFalse id
  | num _, nan => .isFalse id
  | nan, nan => .isFalse id

instance [LE α] [DecidableLE α] : DecidableLE (WithNaN α)
  | num x, num y => inferInstanceAs (Decidable (x ≤ y))
  | nan, num _ => .isFalse id
  | num _, nan => .isFalse id
  | nan, nan => .isFalse id

@[simp] theorem isNum_num (x : α) : (num x).IsNum := trivial

@[simp] theorem not_isNum_nan : ¬(nan : WithNaN α).IsNum := id

@[simp] theorem num_lt_num [LT α] {x y : α} : num x < num y ↔ x < y := Iff.rfl

@[simp] theorem num_le_num [LE α] {x y : α} : num x ≤ num y ↔ x ≤ y := Iff.rfl

theorem IsNum.exists_eq_num {a : WithNaN α} (h : a.IsNum) : ∃ x, a = num x := by
  cases a with
  | nan => exact h.elim
  | num x => exact ⟨x, rfl⟩

/-- The value in a linear order where NaN is the least. -/
def toWithBot : WithNaN α → WithBot α
  | nan => ⊥
  | num x => x

theorem toWithBot_le_iff [LE α] {a b : WithNaN α} (ha : a.IsNum) (hb : b.IsNum) :
    a.toWithBot ≤ b.toWithBot ↔ a ≤ b := by
  obtain ⟨x, rfl⟩ := ha.exists_eq_num
  obtain ⟨y, rfl⟩ := hb.exists_eq_num
  exact WithBot.coe_le_coe

section Preorder

variable [LinearOrder α] {a b c : WithNaN α}

theorem le_refl_of_isNum (ha : a.IsNum) : a ≤ a := by
  obtain ⟨x, rfl⟩ := ha.exists_eq_num
  exact le_refl x

theorem isNum_of_le (h : a ≤ b) : a.IsNum ∧ b.IsNum := by
  cases a with
  | nan => exact h.elim
  | num x =>
    cases b with
    | nan => exact h.elim
    | num y => exact ⟨trivial, trivial⟩

protected theorem le_trans (hab : a ≤ b) (hbc : b ≤ c) : a ≤ c := by
  cases a with
  | nan => exact hab.elim
  | num x =>
    cases b with
    | nan => exact hab.elim
    | num y =>
      cases c with
      | nan => exact hbc.elim
      | num z => exact le_trans (num_le_num.1 hab) (num_le_num.1 hbc)

protected theorem le_of_lt (h : a < b) : a ≤ b := by
  cases a with
  | nan => exact h.elim
  | num x =>
    cases b with
    | nan => exact h.elim
    | num y => exact le_of_lt (num_lt_num.1 h)

protected theorem lt_of_lt_of_le (hab : a < b) (hbc : b ≤ c) : a < c := by
  cases a with
  | nan => exact hab.elim
  | num x =>
    cases b with
    | nan => exact hab.elim
    | num y =>
      cases c with
      | nan => exact hbc.elim
      | num z => exact lt_of_lt_of_le (num_lt_num.1 hab) (num_le_num.1 hbc)

protected theorem lt_of_le_of_lt (hab : a ≤ b) (hbc : b < c) : a < c := by
  cases a with
  | nan => exact hab.elim
  | num x =>
    cases b with
    | nan => exact hab.elim
    | num y =>
      cases c with
      | nan => exact hbc.elim
      | num z => exact lt_of_le_of_lt (num_le_num.1 hab) (num_lt_num.1 hbc)

theorem not_le_of_lt (h : a < b) : ¬b ≤ a := by
  cases a with
  | nan => exact h.elim
  | num x =>
    cases b with
    | nan => exact h.elim
    | num y => exact not_le_of_gt (num_lt_num.1 h)

theorem le_of_not_lt (ha : a.IsNum) (hb : b.IsNum) (h : ¬a < b) : b ≤ a := by
  obtain ⟨x, rfl⟩ := ha.exists_eq_num
  obtain ⟨y, rfl⟩ := hb.exists_eq_num
  exact le_of_not_gt (by simpa using h)

theorem lt_of_not_le (ha : a.IsNum) (hb : b.IsNum) (h : ¬a ≤ b) : b < a := by
  obtain ⟨x, rfl⟩ := ha.exists_eq_num
  obtain ⟨y, rfl⟩ := hb.exists_eq_num
  exact lt_of_not_ge (by simpa using h)

protected theorem lt_of_le_of_ne (h : a ≤ b) (hne : a ≠ b) : a < b := by
  cases a with
  | nan => exact h.elim
  | num x =>
    cases b with
    | nan => exact h.elim
    | num y => exact lt_of_le_of_ne (num_le_num.1 h) fun heq => hne (congrArg num heq)

end Preorder

end WithNaN

end Foundations
