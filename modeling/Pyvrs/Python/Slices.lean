import Pyvrs.Foundations.Slicing
import Pyvrs.Python.AsyncLoops
import Pyvrs.Python.NearestRecord

/-!
# Indexing and slicing readers

`VRSReader`, `FilteredVRSReader` and `VRSReaderSlice` are indexed and sliced by
`index_or_slice_records`, on the indices in the file of their records: a `range` object for a reader
of the whole file, a list for a filtered one, and what slicing them makes for a slice. Whichever it
is, slices of slices read what they do for a list (`getItemOfSlices_eq`). Where the indices are
those of records in the order of the file, those of a slice are of the same records, each once, in
that order or in the reverse one (`HoldPositions.slices`).
-/

namespace Pyvrs

open Foundations

variable {L : VrsLib}

/-! ## Indices of records -/

/-- The indices in the file of the records of a sequence. -/
inductive VrsIndices
  | range (indices : Progression)
  | list (indices : List ℤ)

/-- The `ValueError` of a slice whose step is 0. -/
def zeroStep : PyError := .valueError "slice step cannot be zero"

namespace VrsIndices

/-- The indices, in order. -/
def toList : VrsIndices → List ℤ
  | range indices => indices.items
  | list indices => indices

/-- `len(vrs_indices)`. -/
def length : VrsIndices → ℕ
  | range indices => indices.length
  | list indices => indices.length

/-- The Python type of the sequence. -/
def type : VrsIndices → SequenceType
  | range _ => .range
  | list _ => .list

/-- The index at a position. -/
def itemAt : VrsIndices → ℕ → Option ℤ
  | range indices, k => if k < indices.length then some (indices.item k) else none
  | list indices, k => indices[k]?

/-- `vrs_indices[i]`, of an integer. -/
def getItem (self : VrsIndices) (i : ℤ) : Except PyError ℤ :=
  match (position self.length i).bind self.itemAt with
  | none => .error self.type.outOfRange
  | some index => .ok index

/-- `vrs_indices[s]`, of a slice. -/
def slice (self : VrsIndices) (s : Slice) : Except PyError VrsIndices :=
  match s.indices self.length, self with
  | none, _ => .error zeroStep
  | some positions, range indices => .ok (.range (positions.compose indices))
  | some positions, list indices => .ok (.list (pick indices positions))

/-- The indices of `x[s₁][s₂]…`. -/
def slices : VrsIndices → List Slice → Except PyError VrsIndices
  | self, [] => .ok self
  | self, s :: rest =>
    match self.slice s with
    | .error e => .error e
    | .ok sliced => sliced.slices rest

variable (self : VrsIndices)

@[simp] theorem length_toList : self.toList.length = self.length := by
  cases self with
  | range indices => exact indices.length_items
  | list indices => rfl

theorem itemAt_eq (k : ℕ) : self.itemAt k = self.toList[k]? := by
  cases self with
  | list indices => rfl
  | range indices =>
    show (if k < indices.length then some (indices.item k) else none) = indices.items[k]?
    by_cases hk : k < indices.length
    · rw [if_pos hk, Progression.getElem?_items hk]
    · rw [if_neg hk, List.getElem?_eq_none (by simpa using hk)]

/-- A slice holds what that of a list does, in a sequence of the same type. -/
theorem slice_eq_ok {s : Slice} {indices : List ℤ} (h : slice? self.toList s = some indices) :
    ∃ sliced, self.slice s = .ok sliced ∧ sliced.toList = indices ∧ sliced.type = self.type := by
  obtain ⟨positions, hpositions, rfl⟩ := Option.map_eq_some_iff.1 h
  rw [length_toList] at hpositions
  unfold slice
  rw [hpositions]
  cases self with
  | range indices => exact ⟨_, rfl, items_compose (Slice.within_indices hpositions), rfl⟩
  | list indices => exact ⟨_, rfl, rfl, rfl⟩

theorem slice_eq_error {s : Slice} (h : slice? self.toList s = none) :
    self.slice s = .error zeroStep := by
  rw [slice?, Option.map_eq_none_iff, length_toList] at h
  unfold slice
  rw [h]

/-- The same for slices of slices. -/
theorem slices_eq_ok {path : List Slice} {indices : List ℤ}
    (h : slices? self.toList path = some indices) :
    ∃ sliced, self.slices path = .ok sliced ∧ sliced.toList = indices ∧
      sliced.type = self.type := by
  induction path generalizing self with
  | nil =>
    cases h
    exact ⟨self, rfl, rfl, rfl⟩
  | cons s rest ih =>
    obtain ⟨ys, hys, hrest⟩ := Option.bind_eq_some_iff.1 h
    obtain ⟨sliced, hsliced, rfl, htype⟩ := self.slice_eq_ok hys
    obtain ⟨last, hlast, hindices, htype'⟩ := ih sliced hrest
    refine ⟨last, ?_, hindices, htype'.trans htype⟩
    rw [slices, hsliced]
    exact hlast

theorem slices_eq_error {path : List Slice} (h : slices? self.toList path = none) :
    self.slices path = .error zeroStep := by
  induction path generalizing self with
  | nil => cases h
  | cons s rest ih =>
    unfold slices
    cases hys : slice? self.toList s with
    | none => rw [self.slice_eq_error hys]
    | some ys =>
      obtain ⟨sliced, hsliced, rfl, -⟩ := self.slice_eq_ok hys
      rw [slices?, hys] at h
      rw [hsliced]
      exact ih sliced h

end VrsIndices

/-! ## Reading records -/

/-- A record that was read is the one at a position of the file. -/
def NativeReader.IsRecordAt (reader : NativeReader L) (i : ℕ) (r : PyRecord L) : Prop :=
  ∃ id record, reader.record i = some (id, record) ∧ r.recordIndex = .ofNat i ∧
    r.recordType = lowercaseTypeName L record.recordType ∧
    r.recordTimestamp = record.timestamp ∧ r.streamId = L.getNumericName id

namespace OpenReader

variable (self : OpenReader L)

/-- `read_record`, of a Python integer. -/
def readRecordOfInt (index : ℤ) : Except PyError (PyRecord L) × OpenReader L :=
  if Int32.minValue.toInt ≤ index ∧ index ≤ Int32.maxValue.toInt then
    self.readRecord (.ofInt index)
  else (.error (.typeError "read_record(): incompatible function arguments."), self)

/-- `index_or_slice_records`, of an integer. -/
def getItem (vrsIndices : VrsIndices) (i : ℤ) : Except PyError (PyRecord L) × OpenReader L :=
  match vrsIndices.getItem i with
  | .error e => (.error e, self)
  | .ok index => self.readRecordOfInt index

/-- `x[s₁][s₂]…[i]`. -/
def getItemOfSlices (vrsIndices : VrsIndices) (path : List Slice) (i : ℤ) :
    Except PyError (PyRecord L) × OpenReader L :=
  match vrsIndices.slices path with
  | .error e => (.error e, self)
  | .ok sliced => self.getItem sliced i

/-- **Slices of slices read what they do for a list**, be the indices a `range` object or a list:
`ValueError` for a step of 0, `IndexError` for a position outside, or the record there. -/
theorem getItemOfSlices_eq (vrsIndices : VrsIndices) (path : List Slice) (i : ℤ) :
    self.getItemOfSlices vrsIndices path i =
      match slices? vrsIndices.toList path with
      | none => (.error zeroStep, self)
      | some indices =>
        match (position indices.length i).bind (indices[·]?) with
        | none => (.error vrsIndices.type.outOfRange, self)
        | some index => self.readRecordOfInt index := by
  unfold getItemOfSlices
  cases hindices : slices? vrsIndices.toList path with
  | none => rw [vrsIndices.slices_eq_error hindices]
  | some indices =>
    obtain ⟨sliced, hsliced, rfl, htype⟩ := vrsIndices.slices_eq_ok hindices
    rw [hsliced]
    simp only [getItem, VrsIndices.getItem, htype, VrsIndices.length_toList]
    have hitem : sliced.itemAt = (sliced.toList[·]?) := funext sliced.itemAt_eq
    rw [hitem]
    cases (position sliced.length i).bind (sliced.toList[·]?) with
    | none => rfl
    | some index => rfl

end OpenReader

/-! ## Whose records they are -/

/-- The indices of a `VRSReader`, `range(n_records)`. -/
def VRSReader.vrsIndices (self : VRSReader L) : VrsIndices :=
  .range ⟨0, self.nRecords, 1, by decide⟩

/-- The indices of a `FilteredVRSReader`. -/
def FilteredVRSReader.vrsIndices (self : FilteredVRSReader L) : VrsIndices :=
  .list (self.filteredIndices.map Int32.toInt)

/-- The indices are the positions of records in the file, in its order or in the reverse order. -/
structure VrsIndices.HoldPositions (vrsIndices : VrsIndices) (positions : List ℕ) : Prop where
  toList_eq : vrsIndices.toList = positions.map Nat.cast
  monotone : positions.Pairwise (· < ·) ∨ positions.Pairwise (· > ·)

theorem VRSReader.toList_vrsIndices (self : VRSReader L) :
    self.vrsIndices.toList = (List.range self.nRecords).map Nat.cast := by
  show (Progression.mk 0 self.nRecords 1 _).items = _
  have hlength : (Progression.mk 0 self.nRecords 1 (by decide)).length = self.nRecords := by
    refine eq_of_forall_lt_iff fun i => ?_
    rw [Progression.lt_length_iff (show (0 : ℤ) < 1 by decide)]
    simp [Progression.item]
  rw [Progression.items, hlength]
  simp [Progression.item]

namespace VrsIndices

variable {self : VrsIndices} {positions : List ℕ}

/-- **Slices hold each position once**, in order or in the reverse order. -/
theorem HoldPositions.slices (h : self.HoldPositions positions) {path : List Slice}
    {sliced : VrsIndices} (hsliced : self.slices path = .ok sliced) :
    ∃ picked, slices? positions path = some picked ∧ sliced.HoldPositions picked ∧
      ∀ i ∈ picked, i ∈ positions := by
  cases hpicked : slices? positions path with
  | none =>
    have hnone : slices? self.toList path = none := by
      rw [h.toList_eq, slices?_map, hpicked]
      rfl
    rw [self.slices_eq_error hnone] at hsliced
    cases hsliced
  | some picked =>
    have hsome : slices? self.toList path = some (picked.map Nat.cast) := by
      rw [h.toList_eq, slices?_map, hpicked]
      rfl
    obtain ⟨sliced', hsliced', htoList, -⟩ := self.slices_eq_ok hsome
    cases hsliced.symm.trans hsliced'
    exact ⟨picked, rfl, ⟨htoList, pairwise_or_of_slices? hpicked h.monotone⟩,
      fun i hi => subset_of_slices? hpicked hi⟩

theorem HoldPositions.getItem_natCast (h : self.HoldPositions positions) {k i : ℕ}
    (hk : positions[k]? = some i) : self.getItem k = .ok i := by
  have hlength : self.length = positions.length := by
    rw [← length_toList, h.toList_eq, List.length_map]
  obtain ⟨hlt, -⟩ := List.getElem?_eq_some_iff.1 hk
  have hposition : position self.length k = some k := by
    have hnonneg : ¬(k : ℤ) < 0 := by omega
    have hinside : 0 ≤ (k : ℤ) ∧ (k : ℤ) < self.length := by omega
    unfold position
    simp only [if_neg hnonneg, if_pos hinside, Int.toNat_natCast]
  unfold getItem
  rw [hposition, Option.bind_some, itemAt_eq, h.toList_eq, List.getElem?_map, hk]
  rfl

end VrsIndices

namespace OpenReader

variable (self : OpenReader L)

/-- What is read at a position is the record there. -/
theorem isRecordAt_of_readRecord {i : ℕ} (hi : i < 2 ^ 32) {r : PyRecord L}
    {self' : OpenReader L} (h : self.readRecord (.ofNat i) = (.ok r, self')) :
    self.native.IsRecordAt i r := by
  have hcast := castUInt32_ofNat hi
  cases self with
  | reader F D native =>
    have hok : (native.readRecord F D (.ofNat i)).1 = .ok r := congrArg Prod.fst h
    have hread : native.readRecord F D (.ofNat i) =
        (.ok r, (native.readRecord F D (.ofNat i)).2) := Prod.ext hok rfl
    obtain ⟨record, cache, hrecord, rfl⟩ := OssVRSReader.readRecord_eq_ok hread
    rw [hcast] at hrecord ⊢
    refine ⟨record.streamId, record, ?_, rfl, rfl, rfl, rfl⟩
    show F.index[i]?.map _ = _
    rw [hrecord]
    rfl
  | multiReader F D native =>
    have hok : (native.readRecord F D (.ofNat i)).1 = .ok r := congrArg Prod.fst h
    have hread : native.readRecord F D (.ofNat i) =
        (.ok r, (native.readRecord F D (.ofNat i)).2) := Prod.ext hok rfl
    obtain ⟨record, cache, hrecord, rfl⟩ := OssMultiVRSReader.readRecord_eq_ok hread
    rw [hcast] at hrecord ⊢
    refine ⟨F.getUniqueStreamId i, record, ?_, rfl, rfl, rfl, rfl⟩
    show (F.getRecord i).map _ = _
    rw [hrecord]
    rfl

theorem readRecordOfInt_natCast {i : ℕ} (hi : i < 2 ^ 31) :
    self.readRecordOfInt i = self.readRecord (.ofNat i) := by
  have hmin : Int32.minValue.toInt = -2 ^ 31 := rfl
  have hmax : Int32.maxValue.toInt = 2 ^ 31 - 1 := rfl
  have hcast : Int32.ofInt (i : ℤ) = .ofNat i := rfl
  unfold readRecordOfInt
  rw [if_pos (by omega), hcast]

/-- A position of a slice reads the record of the file that it holds. -/
theorem getItem_natCast {vrsIndices : VrsIndices} {positions : List ℕ}
    (h : vrsIndices.HoldPositions positions) {k i : ℕ} (hk : positions[k]? = some i)
    (hi : i < 2 ^ 31) : self.getItem vrsIndices k = self.readRecord (.ofNat i) := by
  unfold getItem
  rw [h.getItem_natCast hk]
  exact self.readRecordOfInt_natCast hi

end OpenReader

end Pyvrs
