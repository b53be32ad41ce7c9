import Mathlib.Data.Rat.Defs
import Mathlib.Algebra.Order.Ring.Rat
import Mathlib.Order.WithBot
import Pyvrs.Foundations.WithNaN

/-!
# Records, streams and the index

The vocabulary of VRS files that the whole repository shares: the types of records, the streams
they belong to, and the index entries `IndexRecord::RecordInfo`, the only thing known of a record
before it is read. A timestamp is a C++ `double`, of which the repository only uses the comparisons:
a rational number, one of the two infinities, or NaN.
-/

namespace Pyvrs

open Foundations

/-- `double`, as far as comparisons go. -/
abbrev Timestamp := WithNaN (WithBot (WithTop ℚ))

namespace Timestamp

/-- The finite timestamp `q`. -/
def ofRat (q : ℚ) : Timestamp := .num ((q : WithTop ℚ) : WithBot (WithTop ℚ))

/-- `-float("inf")`. -/
def negInf : Timestamp := .num ⊥

/-- The timestamp is a finite number. -/
def IsFinite (t : Timestamp) : Prop := ∃ q, t = ofRat q

@[simp] theorem isFinite_ofRat (q : ℚ) : (ofRat q).IsFinite := ⟨q, rfl⟩

theorem IsFinite.isNum {t : Timestamp} (h : t.IsFinite) : t.IsNum := by
  obtain ⟨q, rfl⟩ := h
  trivial

end Timestamp

/-- `RecordableTypeId`, the device type of a stream. -/
abbrev RecordableTypeId := ℕ

/-- `StreamId`: a device type and an instance of it. -/
structure StreamId where
  typeId : RecordableTypeId
  instanceId : ℕ
  deriving DecidableEq, Repr

/-- `Record::Type`. -/
inductive RecordType
  | undefined
  | state
  | configuration
  | data
  | tags
  deriving DecidableEq, Repr

/-- `IndexRecord::RecordInfo`, the index entry of a record. -/
structure RecordInfo where
  timestamp : Timestamp
  streamId : StreamId
  recordType : RecordType
  deriving DecidableEq

/-! ## Indexes and counts as `int`s -/

/-- `static_cast<uint32_t>` of an `int`. -/
def castUInt32 (i : Int32) : ℕ := i.toUInt32.toNat

theorem castUInt32_emod (i : Int32) : (castUInt32 i : ℤ) = i.toInt % 2 ^ 32 := by
  have h : i.toInt = (i.toUInt32.toNat : ℤ).bmod (2 ^ 32) :=
    BitVec.toInt_eq_toNat_bmod i.toBitVec
  have hmod := Int.bmod_emod (x := (i.toUInt32.toNat : ℤ)) (m := 2 ^ 32)
  have hlt := i.toUInt32.toNat_lt
  rw [h]
  simp only [castUInt32]
  omega

theorem castUInt32_of_nonneg {i : Int32} (h : 0 ≤ i.toInt) : (castUInt32 i : ℤ) = i.toInt := by
  have := castUInt32_emod i
  have := i.toInt_lt
  omega

/-- A number is what an `int` counts as long as it fits. -/
theorem toInt_ofNat_eq_iff {k : ℕ} (h : k < 2 ^ 32) : (Int32.ofNat k).toInt = k ↔ k < 2 ^ 31 := by
  have hsize : Int32.size = 2 ^ 32 := rfl
  rw [Int32.toInt_ofNat', Int.bmod_def, hsize]
  split <;> omega

theorem ofNat_pos_iff {k : ℕ} (h : k < 2 ^ 32) : 0 < Int32.ofNat k ↔ 0 < k ∧ k < 2 ^ 31 := by
  have hsize : Int32.size = 2 ^ 32 := rfl
  rw [Int32.lt_iff_toInt_lt, Int32.toInt_ofNat', Int.bmod_def, hsize, Int32.toInt_zero]
  split <;> omega

theorem castUInt32_ofNat {k : ℕ} (h : k < 2 ^ 32) : castUInt32 (.ofNat k) = k := by
  have hmod : castUInt32 (.ofNat k) = k % 2 ^ 32 := by simp [castUInt32]
  rw [hmod, Nat.mod_eq_of_lt h]

end Pyvrs
