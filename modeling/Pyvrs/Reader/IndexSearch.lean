import Pyvrs.Reader.MultiVRSReader

/-!
# Searching the index

`getNextIndex` and `getPrevIndex` of both readers walk over the index from a position that may be
any `int`, and leave their loops in different ways. A search meets its purpose if it returns the
nearest position that holds a record of a stream and a type, and raises `IndexError` if there is
none (`MeetsNext`, `MeetsPrev`). Forward, the single-file reader takes a start outside of the index
for the position found; backward, it reads the index there, while the multi-file reader takes the
end of its scan for a position found.
-/

namespace Pyvrs

open Foundations

/-- `static_cast<size_t>` of an `int`. -/
def castSizeT (i : Int32) : ℕ := (i.toInt % 2 ^ 64).toNat

theorem castSizeT_of_nonneg {i : Int32} (h : 0 ≤ i.toInt) : (castSizeT i : ℤ) = i.toInt := by
  have := i.toInt_lt
  unfold castSizeT
  omega

theorem castSizeT_of_neg {i : Int32} (h : i.toInt < 0) : 2 ^ 63 ≤ castSizeT i := by
  have := i.le_toInt
  unfold castSizeT
  omega

/-! ## The searches -/

/-- The exception of `getNextIndex`. -/
def noRecordAfter (streamId : String) (index : Int32) : PyError :=
  .indexError ("There are no record for " ++ streamId ++ " after " ++ toString index)

/-- The exception of `getPrevIndex`. -/
def noRecordBefore (streamId : String) (index : Int32) : PyError :=
  .indexError ("There are no record for " ++ streamId ++ " before " ++ toString index)

namespace OssVRSReader

variable {L : VrsLib} (F : RecordFileReader L) (reader : OssVRSReader L)

/-- `getNextIndex`, `none` if `nextIndex` overflows. -/
def getNextIndex (streamId recordType : String) (index : Int32) :
    Option (Except PyError Int32) :=
  match getStreamId F streamId with
  | .error e => some (.error e)
  | .ok id =>
    let type := L.toRecordType recordType
    -- `nextIndex` is an `int` that is compared as a `size_t`
    let nextIndex := firstFrom (fun i => F.index[i]?.any fun record =>
      reader.matchStream record id type) F.index.length (castSizeT index)
    if castSizeT index < 2 ^ 31 ∧ 2 ^ 31 ≤ nextIndex then none
    else if nextIndex = F.index.length then some (.error (noRecordAfter streamId index))
    else some (.ok (.ofNat nextIndex))

/-- `getPrevIndex`, `none` if it reads outside of the index. -/
def getPrevIndex (streamId recordType : String) (index : Int32) :
    Option (Except PyError Int32) :=
  match getStreamId F streamId with
  | .error e => some (.error e)
  | .ok id =>
    let type := L.toRecordType recordType
    if index.toInt < 0 then some (.error (noRecordBefore streamId index))
    else if F.index.length ≤ index.toInt then none
    else
      match lastUpTo (fun i => F.index[i]?.any fun record => reader.matchStream record id type)
        index.toInt.toNat with
      | none => some (.error (noRecordBefore streamId index))
      | some prevIndex => some (.ok (.ofNat prevIndex))

end OssVRSReader

namespace OssMultiVRSReader

variable {L : VrsLib} (F : MultiRecordFileReader L) (reader : OssMultiVRSReader L)

/-- `getNextIndex`. -/
def getNextIndex (streamId recordType : String) (index : Int32) : Except PyError Int32 :=
  match getStreamId F streamId with
  | .error e => .error e
  | .ok id =>
    let type := L.toRecordType recordType
    let nextIndex := firstFrom (fun i => (F.getRecord i).any fun record =>
      reader.matchStream F i record id type) F.getRecordCount (castUInt32 index)
    match F.getRecord nextIndex with
    | none => .error (noRecordAfter streamId index)
    | some _ => .ok (.ofNat nextIndex)

/-- `getPrevIndex`. -/
def getPrevIndex (streamId recordType : String) (index : Int32) : Except PyError Int32 :=
  match getStreamId F streamId with
  | .error e => .error e
  | .ok id =>
    let type := L.toRecordType recordType
    if index.toInt < 0 then .error (noRecordBefore streamId index)
    else
      match F.getRecord (castUInt32 index) with
      | none => .error (noRecordBefore streamId index)
      | some _ =>
        match lastUpTo (fun i => (F.getRecord i).any fun record =>
          reader.matchStream F i record id type) (castUInt32 index) with
        | some prevIndex => .ok (.ofNat prevIndex)
        -- the scan is exhausted, and `record` is the first one
        | none => .ok (-1)

end OssMultiVRSReader

/-! ## What they are for -/

section Purpose

variable (p : ℕ → Bool) (n : ℕ) (index : Int32)

/-- The positions from `index` on where the test holds. -/
def holdsFrom : Set ℕ := {j | index.toInt ≤ j ∧ j < n ∧ p j = true}

/-- The positions up to `index` where the test holds. -/
def holdsUpTo : Set ℕ := {j | (j : ℤ) ≤ index.toInt ∧ j < n ∧ p j = true}

/-- A search forward returns the first position from `index` on where the test holds. It raises
`IndexError` if there is none, or for a negative `index`. -/
def MeetsNext : Option (Except PyError Int32) → Prop
  | none => False
  | some (.ok k) => ∃ j : ℕ, k.toInt = j ∧ IsLeast (holdsFrom p n index) j
  | some (.error e) => e.kind = .indexError ∧ (0 ≤ index.toInt → holdsFrom p n index = ∅)

/-- A search backward returns the last position up to `index` where the test holds. It raises
`IndexError` if there is none. -/
def MeetsPrev : Option (Except PyError Int32) → Prop
  | none => False
  | some (.ok k) => ∃ j : ℕ, k.toInt = j ∧ IsGreatest (holdsUpTo p n index) j
  | some (.error e) => e.kind = .indexError ∧ holdsUpTo p n index = ∅

end Purpose

section Searches

variable {p : ℕ → Bool} {n : ℕ} {index : Int32} {e : PyError}

theorem eq_of_toInt_ofNat_eq {j k : ℕ} (h : (Int32.ofNat k).toInt = j) (hk : k < 2 ^ 32) :
    k = j ∧ k < 2 ^ 31 := by
  have hsize : Int32.size = 2 ^ 32 := rfl
  rw [Int32.toInt_ofNat', Int.bmod_def, hsize] at h
  split at h <;> omega

/-- A start outside of the index is returned as it is. -/
theorem ofNat_castSizeT (i : Int32) : Int32.ofNat (castSizeT i) = i := by
  have hle := i.le_toInt
  have hlt := i.toInt_lt
  have hsize : Int32.size = 2 ^ 32 := rfl
  rw [← Int32.toInt_inj, Int32.toInt_ofNat', Int.bmod_def, hsize]
  unfold castSizeT
  split <;> omega

theorem holdsFrom_eq {k : ℕ} (hk : (k : ℤ) = index.toInt) :
    holdsFrom p n index = {j | k ≤ j ∧ j < n ∧ p j = true} := by
  ext j
  show index.toInt ≤ j ∧ _ ↔ k ≤ j ∧ _
  rw [← hk, Int.ofNat_le]

/-- **Forward in one file**: the search meets its purpose if and only if it starts in the index, or
at its end, and stops before it reaches the greatest `int`. -/
theorem meetsNext_iff_of_castSizeT (hn : n < 2 ^ 32) (he : e.kind = .indexError) :
    MeetsNext p n index
      (if castSizeT index < 2 ^ 31 ∧ 2 ^ 31 ≤ firstFrom p n (castSizeT index) then none
      else if firstFrom p n (castSizeT index) = n then some (.error e)
      else some (.ok (.ofNat (firstFrom p n (castSizeT index))))) ↔
      0 ≤ index.toInt ∧ index.toInt ≤ n ∧ (n < 2 ^ 31 ∨ ∃ j ∈ holdsFrom p n index, j < 2 ^ 31) := by
  rcases lt_or_ge index.toInt 0 with hneg | hnonneg
  · have hbig := castSizeT_of_neg hneg
    rw [firstFrom_of_le p (by omega), if_neg (by omega), if_neg (by omega), ofNat_castSizeT]
    refine iff_of_false ?_ (by omega)
    rintro ⟨j, hj, -⟩
    omega
  · have hk := castSizeT_of_nonneg hnonneg
    have hlt := index.toInt_lt
    have hset := holdsFrom_eq (p := p) (n := n) hk
    rcases lt_or_ge n (castSizeT index) with hpast | hin
    · rw [firstFrom_of_le p hpast.le, if_neg (by omega), if_neg (by omega), ofNat_castSizeT]
      refine iff_of_false ?_ (by omega)
      rintro ⟨j, hj, ⟨-, hjn, -⟩, -⟩
      omega
    · have hle := firstFrom_le p hin
      by_cases hover : 2 ^ 31 ≤ firstFrom p n (castSizeT index)
      · rw [if_pos ⟨by omega, hover⟩]
        refine iff_of_false id ?_
        rintro ⟨-, -, hsmall | ⟨j, hj, hj31⟩⟩
        · omega
        · rw [hset] at hj
          have hnot := not_of_lt_firstFrom p hj.1 (hj31.trans_le hover)
          rw [hj.2.2] at hnot
          cases hnot
      · rw [if_neg fun h => hover h.2]
        by_cases hend : firstFrom p n (castSizeT index) = n
        · rw [if_pos hend]
          refine iff_of_true ⟨he, fun _ => ?_⟩ ⟨hnonneg, by omega, .inl (by omega)⟩
          rw [hset, Set.eq_empty_iff_forall_notMem]
          rintro j ⟨hj, hjn, hpj⟩
          rw [(firstFrom_eq_end_iff p hin).1 hend j hj hjn] at hpj
          cases hpj
        · rw [if_neg hend]
          have hleast := (firstFrom_eq_iff p (lt_of_le_of_ne hle hend)).1 rfl
          rw [← hset] at hleast
          exact iff_of_true ⟨_, Int32.toInt_ofNat_of_lt (by omega), hleast⟩
            ⟨hnonneg, by omega, .inr ⟨_, hleast.1, by omega⟩⟩

/-- **Forward in several files**: the search meets its purpose if and only if it finds nothing, or
something at a position that is an `int`. -/
theorem meetsNext_iff_of_castUInt32 (hn : n < 2 ^ 32) (he : e.kind = .indexError) :
    MeetsNext p n index (some (if n ≤ firstFrom p n (castUInt32 index) then .error e
      else .ok (.ofNat (firstFrom p n (castUInt32 index))))) ↔
      (∀ j, castUInt32 index ≤ j → j < n → p j = false) ∨
        ∃ j, castUInt32 index ≤ j ∧ j < n ∧ p j = true ∧ j < 2 ^ 31 := by
  have hcast := castUInt32_emod index
  have hle := index.le_toInt
  have hset : 0 ≤ index.toInt →
      holdsFrom p n index = {j | castUInt32 index ≤ j ∧ j < n ∧ p j = true} :=
    fun hnonneg => holdsFrom_eq (castUInt32_of_nonneg hnonneg)
  by_cases hend : n ≤ firstFrom p n (castUInt32 index)
  · have hnone : ∀ j, castUInt32 index ≤ j → j < n → p j = false := fun j hj hjn =>
      not_of_lt_firstFrom p hj (hjn.trans_le hend)
    rw [if_pos hend]
    refine iff_of_true ⟨he, fun hnonneg => ?_⟩ (.inl hnone)
    rw [hset hnonneg, Set.eq_empty_iff_forall_notMem]
    rintro j ⟨hj, hjn, hpj⟩
    rw [hnone j hj hjn] at hpj
    cases hpj
  · have hlt := not_le.1 hend
    have hleast := (firstFrom_eq_iff p hlt).1 rfl
    rw [if_neg hend]
    constructor
    · rintro ⟨j, hj, -⟩
      obtain ⟨-, hint⟩ := eq_of_toInt_ofNat_eq hj (by omega)
      exact .inr ⟨_, hleast.1.1, hlt, hleast.1.2.2, hint⟩
    · rintro (hnone | ⟨j, hj, hjn, hpj, hint⟩)
      · have hnot := hnone _ hleast.1.1 hlt
        rw [hleast.1.2.2] at hnot
        cases hnot
      · have hfirst := hleast.2 ⟨hj, hjn, hpj⟩
        have hstart := hleast.1.1
        rw [← hset (by omega)] at hleast
        exact ⟨_, Int32.toInt_ofNat_of_lt (by omega), hleast⟩

theorem holdsUpTo_eq (hnonneg : 0 ≤ index.toInt) (hin : index.toInt < n) :
    holdsUpTo p n index = {j | j ≤ index.toInt.toNat ∧ p j = true} := by
  ext j
  constructor
  · rintro ⟨hj, -, hpj⟩
    exact ⟨by omega, hpj⟩
  · rintro ⟨hj, hpj⟩
    exact ⟨by omega, by omega, hpj⟩

theorem holdsUpTo_eq_empty_of_neg (hneg : index.toInt < 0) : holdsUpTo p n index = ∅ := by
  rw [Set.eq_empty_iff_forall_notMem]
  rintro j ⟨hj, -⟩
  omega

/-- A scan back that is exhausted has found nothing to return. -/
theorem holdsUpTo_eq_empty_of_none (hnonneg : 0 ≤ index.toInt) (hin : index.toInt < n)
    (hlast : lastUpTo p index.toInt.toNat = none) : holdsUpTo p n index = ∅ := by
  rw [holdsUpTo_eq hnonneg hin, Set.eq_empty_iff_forall_notMem]
  rintro j ⟨hj, hpj⟩
  rw [(lastUpTo_eq_none_iff p).1 hlast j hj] at hpj
  cases hpj

/-- What a scan back finds is what it has to return. -/
theorem meetsPrev_of_some {r : ℕ} (hnonneg : 0 ≤ index.toInt) (hin : index.toInt < n)
    (hlast : lastUpTo p index.toInt.toNat = some r) :
    MeetsPrev p n index (some (.ok (.ofNat r))) := by
  have hgreatest := (lastUpTo_eq_some_iff p).1 hlast
  have hr := hgreatest.1.1
  have hlt := index.toInt_lt
  rw [← holdsUpTo_eq hnonneg hin] at hgreatest
  exact ⟨r, Int32.toInt_ofNat_of_lt (by omega), hgreatest⟩

/-- **Backward in one file**: the search meets its purpose if and only if it starts before the end
of the index. -/
theorem meetsPrev_iff_of_index (he : e.kind = .indexError) :
    MeetsPrev p n index
      (if index.toInt < 0 then some (.error e)
      else if n ≤ index.toInt then none
      else match lastUpTo p index.toInt.toNat with
        | none => some (.error e)
        | some prevIndex => some (.ok (.ofNat prevIndex))) ↔
      index.toInt < n := by
  rcases lt_or_ge index.toInt 0 with hneg | hnonneg
  · rw [if_pos hneg]
    exact iff_of_true ⟨he, holdsUpTo_eq_empty_of_neg hneg⟩ (by omega)
  · rw [if_neg (not_lt.2 hnonneg)]
    rcases lt_or_ge index.toInt n with hin | hpast
    · rw [if_neg (not_le.2 hin)]
      refine iff_of_true ?_ hin
      cases hlast : lastUpTo p index.toInt.toNat with
      | none => exact ⟨he, holdsUpTo_eq_empty_of_none hnonneg hin hlast⟩
      | some r => exact meetsPrev_of_some hnonneg hin hlast
    · rw [if_pos hpast]
      exact iff_of_false id (not_lt.2 hpast)

/-- **Backward in several files**: the search meets its purpose if and only if it starts before the
first record, or it starts at a record just when there is something to find. -/
theorem meetsPrev_iff_of_record (he : e.kind = .indexError) :
    MeetsPrev p n index (some
      (if index.toInt < 0 then .error e
      else if n ≤ index.toInt then .error e
      else .ok (((lastUpTo p index.toInt.toNat).map Int32.ofNat).getD (-1)))) ↔
      index.toInt < 0 ∨ (index.toInt < n ↔ (holdsUpTo p n index).Nonempty) := by
  rcases lt_or_ge index.toInt 0 with hneg | hnonneg
  · rw [if_pos hneg]
    exact iff_of_true ⟨he, holdsUpTo_eq_empty_of_neg hneg⟩ (.inl hneg)
  · rw [if_neg (not_lt.2 hnonneg), or_iff_right (not_lt.2 hnonneg)]
    rcases lt_or_ge index.toInt n with hin | hpast
    · rw [if_neg (not_le.2 hin), iff_true_left hin]
      cases hlast : lastUpTo p index.toInt.toNat with
      | some r =>
        refine iff_of_true (meetsPrev_of_some hnonneg hin hlast) ⟨r, ?_⟩
        rw [holdsUpTo_eq hnonneg hin]
        exact ((lastUpTo_eq_some_iff p).1 hlast).1
      | none =>
        rw [holdsUpTo_eq_empty_of_none hnonneg hin hlast]
        refine iff_of_false ?_ Set.not_nonempty_empty
        rintro ⟨j, hj, -⟩
        have hneg : (-1 : ℤ) = j := hj
        omega
    · rw [if_pos hpast, iff_false_left (not_lt.2 hpast), Set.not_nonempty_iff_eq_empty]
      exact and_iff_right he

end Searches

end Pyvrs
