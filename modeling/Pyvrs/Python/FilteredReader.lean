import Pyvrs.Python.Filtering
import Pyvrs.Python.Slices

/-!
# Filtered readers

A `FilteredVRSReader` holds the indices in the file of the records that its filter selects, and
hands them to the reader of the whole file. Slicing it is slicing the list of these records, in the
order of the file (`slices_exact`). Their timestamps, as a list, by index and at both ends, agree
with each other and with the records read (`timestamps_agree`).
-/

namespace Pyvrs

open Foundations

variable {L : VrsLib}

/-! ## The records held -/

/-- What filtering counts on: the names of streams match themselves and stand for their streams,
those of types stand for their types, and the records are in the order of time and fewer than an
`int` counts. -/
structure NativeReader.Filterable (reader : NativeReader L) (fnmatch : String → String → Bool) :
    Prop where
  matches_self : ∀ id ∈ reader.streams, fnmatch (L.getNumericName id) (L.getNumericName id)
  getStreamForName_eq : ∀ id ∈ reader.streams,
    reader.getStreamForName (L.getNumericName id) = some id
  toRecordType_eq : ∀ type, L.toRecordType (lowercaseTypeName L type) = type
  sorted : reader.SortedByTimestamp
  size_lt : reader.getAvailableRecordsSize < 2 ^ 31

namespace FilteredVRSReader

/-- The reader holds the records at some positions of a file, those that the fields select. -/
structure Holds (filtered : FilteredVRSReader L) (reader : NativeReader L)
    (fnmatch : String → String → Bool) (fields : FilterFields) (positions : List ℕ) : Prop where
  reader_eq : filtered.reader = VRSReader.init reader
  filteredIndices_eq : filtered.filteredIndices = positions.map Int32.ofNat
  minTimestamp_eq : timestampAt filtered.reader filtered.filteredIndices.head? =
    .ok filtered.minTimestamp
  maxTimestamp_eq : timestampAt filtered.reader filtered.filteredIndices.getLast? =
    .ok filtered.maxTimestamp
  increasing : positions.Pairwise (· < ·)
  mem_iff : ∀ i, i ∈ positions ↔ ∃ id record, reader.record i = some (id, record) ∧
    fields.Selects L fnmatch id record

theorem timestamps_of_init {reader : VRSReader L} {recordFilter : RecordFilter}
    {filtered : FilteredVRSReader L} (h : init reader recordFilter = .ok filtered) :
    filtered.reader = reader ∧
      timestampAt reader filtered.filteredIndices.head? = .ok filtered.minTimestamp ∧
      timestampAt reader filtered.filteredIndices.getLast? = .ok filtered.maxTimestamp := by
  unfold init at h
  split at h
  · cases h
  · split at h
    · cases h
    · rename_i hmin
      split at h
      · cases h
      · rename_i hmax
        cases h
        exact ⟨rfl, hmin, hmax⟩

end FilteredVRSReader

/-- **Filtering yields a reader of the records that the fields select.** -/
theorem NativeReader.Filterable.exists_holds {reader : NativeReader L}
    {fnmatch : String → String → Bool} (h : reader.Filterable fnmatch) (fields : FilterFields) :
    ∃ filtered positions, (VRSReader.init reader).filteredByFields fnmatch fields = .ok filtered ∧
      filtered.Holds reader fnmatch fields positions := by
  obtain ⟨positions, hgenerated, hincreasing, hmem⟩ :=
    exists_generateFilteredIndices fnmatch reader h.matches_self h.getStreamForName_eq
      h.toRecordType_eq h.sorted h.size_lt fields
  have hrecords : ∀ i ∈ positions, ∃ id record, reader.record i = some (id, record) := by
    intro i hi
    obtain ⟨id, record, hrecord, -⟩ := (hmem i).1 hi
    exact ⟨id, record, hrecord⟩
  obtain ⟨filtered, hfiltered, hindices⟩ :=
    exists_filteredVRSReader reader h.size_lt.le hgenerated hrecords
  obtain ⟨hreader, hmin, hmax⟩ := FilteredVRSReader.timestamps_of_init hfiltered
  refine ⟨filtered, positions, hfiltered, hreader, hindices, ?_, ?_, hincreasing, hmem⟩
  · rw [hreader]
    exact hmin
  · rw [hreader]
    exact hmax

namespace FilteredVRSReader.Holds

variable {filtered : FilteredVRSReader L} {reader : NativeReader L}
  {fnmatch : String → String → Bool} {fields : FilterFields} {positions : List ℕ}
  (h : filtered.Holds reader fnmatch fields positions) (hfile : reader.Filterable fnmatch)

include h

theorem exists_record {k i : ℕ} (hk : positions[k]? = some i) :
    ∃ id record, reader.record i = some (id, record) ∧ fields.Selects L fnmatch id record :=
  (h.mem_iff i).1 (List.mem_of_getElem? hk)

theorem nRecords_eq : filtered.nRecords = positions.length := by
  rw [nRecords, h.filteredIndices_eq, List.length_map]

include hfile

theorem lt {i : ℕ} (hi : i ∈ positions) : i < 2 ^ 31 := by
  obtain ⟨id, record, hrecord, -⟩ := (h.mem_iff i).1 hi
  exact (reader.lt_of_record hrecord).trans hfile.size_lt

theorem holdPositions : filtered.vrsIndices.HoldPositions positions where
  toList_eq := by
    show filtered.filteredIndices.map Int32.toInt = _
    rw [h.filteredIndices_eq, List.map_map]
    exact List.map_congr_left fun i hi => Int32.toInt_ofNat_of_lt (h.lt hfile hi)
  monotone := .inl h.increasing

/-- The timestamp of a position is that of its record. -/
theorem timestampAt_eq {i : ℕ} {id : StreamId} {record : RecordInfo} (hi : i ∈ positions)
    (hrecord : reader.record i = some (id, record)) :
    timestampAt filtered.reader (some (.ofNat i)) = .ok record.timestamp := by
  rw [h.reader_eq]
  exact timestampAt_ofNat reader hrecord (h.lt hfile hi)

end FilteredVRSReader.Holds

/-! ## Slices -/

/-- **Slices of a filtered reader** are those of the list of the records selected, in the order of
the file: each holds its records once, in that order or in the reverse one, and a position reads the
record there. -/
theorem FilteredVRSReader.slices_exact (self : OpenReader L) {fnmatch : String → String → Bool}
    (hfile : self.native.Filterable fnmatch) (fields : FilterFields) :
    ∃ filtered positions,
      (VRSReader.init self.native).filteredByFields fnmatch fields = .ok filtered ∧
      positions.Pairwise (· < ·) ∧
      (∀ i, i ∈ positions ↔ ∃ id record, self.native.record i = some (id, record) ∧
        fields.Selects L fnmatch id record) ∧
      ∀ path, match slices? positions path with
        | none => filtered.vrsIndices.slices path = .error zeroStep
        | some picked => ∃ sliced, filtered.vrsIndices.slices path = .ok sliced ∧
          sliced.HoldPositions picked ∧ ∀ index,
            self.getItem sliced index = match (position picked.length index).bind (picked[·]?) with
              | none => (.error SequenceType.list.outOfRange, self)
              | some i => self.readRecord (.ofNat i) := by
  obtain ⟨filtered, positions, hfiltered, h⟩ := hfile.exists_holds fields
  have htoList := (h.holdPositions hfile).toList_eq
  refine ⟨filtered, positions, hfiltered, h.increasing, h.mem_iff, fun path => ?_⟩
  have hmap : slices? filtered.vrsIndices.toList path =
      (slices? positions path).map (List.map Nat.cast) := by
    rw [htoList, slices?_map]
  cases hpicked : slices? positions path with
  | none =>
    rw [hpicked] at hmap
    exact filtered.vrsIndices.slices_eq_error hmap
  | some picked =>
    rw [hpicked] at hmap
    obtain ⟨sliced, hsliced, hlist, htype⟩ := filtered.vrsIndices.slices_eq_ok hmap
    refine ⟨sliced, hsliced, ⟨hlist, pairwise_or_of_slices? hpicked (.inl h.increasing)⟩, ?_⟩
    intro index
    have hlength : sliced.length = picked.length := by
      rw [← sliced.length_toList, hlist, List.length_map]
    have hitem : sliced.itemAt = fun k => (picked[k]?).map Nat.cast := by
      funext k
      rw [sliced.itemAt_eq, hlist, List.getElem?_map]
    unfold OpenReader.getItem VrsIndices.getItem
    rw [hlength, hitem, htype]
    cases hk : position picked.length index with
    | none => rfl
    | some k =>
      simp only [Option.bind_some]
      cases hi : picked[k]? with
      | none => rfl
      | some i =>
        have hmem := subset_of_slices? hpicked (List.mem_of_getElem? hi)
        exact self.readRecordOfInt_natCast (h.lt hfile hmem)

/-! ## Timestamps -/

namespace NativeReader

/-- `get_timestamp_list_for_indices`. -/
def getTimestampListForIndices : NativeReader L → List Int32 → Except PyError (List Timestamp)
  | reader F => OssVRSReader.getTimestampListForIndices F
  | multiReader F => OssMultiVRSReader.getTimestampListForIndices F

end NativeReader

/-- `VRSReader.get_timestamp_list`. -/
def VRSReader.getTimestampList (self : VRSReader L) (indices : Option (List ℤ)) :
    Except PyError (List Timestamp) :=
  let indices := indices.getD ((List.range self.nRecords).map Nat.cast)
  if ∀ i ∈ indices, Int32.minValue.toInt ≤ i ∧ i ≤ Int32.maxValue.toInt then
    self.reader.getTimestampListForIndices (indices.map Int32.ofInt)
  else .error (.typeError "get_timestamp_list_for_indices(): incompatible function arguments.")

namespace FilteredVRSReader

variable (self : FilteredVRSReader L)

/-- `FilteredVRSReader.get_timestamp_list`. -/
def getTimestampList : Option (List ℤ) → Except PyError (List Timestamp)
  | some _ => .error (.valueError ("FilteredVRSReader.get_timestamp_list does not accept " ++
      "explicit indices; it always uses the reader's filtered indices."))
  | none => self.reader.getTimestampList (some (self.filteredIndices.map Int32.toInt))

/-- `FilteredVRSReader.get_timestamp_for_index`. -/
def getTimestampForIndex (index : ℤ) : Except PyError Timestamp :=
  if self.filteredIndices.length ≤ index then
    .error (.indexError ("Index " ++ toString index ++ " is out of range."))
  else
    match self.vrsIndices.getItem index with
    | .error e => .error e
    | .ok indexInAll => self.reader.getTimestampForIndex (.ofInt indexInAll)

end FilteredVRSReader

section Timestamps

/-- The timestamps of the records at some positions. -/
def NativeReader.TimestampsOf (reader : NativeReader L) (positions : List ℕ)
    (timestamps : List Timestamp) : Prop :=
  List.Forall₂ (fun i t => ∃ id record, reader.record i = some (id, record) ∧ t = record.timestamp)
    positions timestamps

/-- The timestamps of positions that an `int32_t` holds are listed. -/
theorem NativeReader.exists_timestampsOf (reader : NativeReader L) {positions : List ℕ}
    (hpositions : ∀ i ∈ positions, i < 2 ^ 31 ∧ ∃ id record, reader.record i = some (id, record)) :
    ∃ timestamps, reader.getTimestampListForIndices (positions.map Int32.ofNat) = .ok timestamps ∧
      reader.TimestampsOf positions timestamps := by
  induction positions with
  | nil =>
    refine ⟨[], ?_, .nil⟩
    cases reader <;> rfl
  | cons i positions ih =>
    rw [List.forall_mem_cons] at hpositions
    obtain ⟨⟨hi, id, record, hrecord⟩, hrest⟩ := hpositions
    obtain ⟨timestamps, hlist, htimestamps⟩ := ih hrest
    have hhead := reader.getTimestampForIndex_ofNat hrecord hi
    refine ⟨record.timestamp :: timestamps, ?_, .cons ⟨id, record, hrecord, rfl⟩ htimestamps⟩
    cases reader with
    | reader F =>
      have hhead' : OssVRSReader.getTimestampForIndex F (.ofNat i) = .ok record.timestamp := hhead
      have hlist' : OssVRSReader.getTimestampListForIndices F (positions.map Int32.ofNat) =
          .ok timestamps := hlist
      show OssVRSReader.getTimestampListForIndices F (.ofNat i :: _) = _
      rw [OssVRSReader.getTimestampListForIndices, hhead', hlist']
    | multiReader F =>
      have hlist' : OssMultiVRSReader.getTimestampListForIndices F (positions.map Int32.ofNat) =
          .ok timestamps := hlist
      obtain ⟨record', hrecord', heq⟩ := Option.map_eq_some_iff.1 hrecord
      cases heq
      show OssMultiVRSReader.getTimestampListForIndices F (.ofNat i :: _) = _
      rw [OssMultiVRSReader.getTimestampListForIndices, castUInt32_ofNat (by omega), hrecord',
        hlist']

variable {reader : NativeReader L} {positions : List ℕ} {timestamps : List Timestamp}

theorem NativeReader.TimestampsOf.getElem? (h : reader.TimestampsOf positions timestamps) {k : ℕ}
    {t : Timestamp} (hk : timestamps[k]? = some t) :
    ∃ i id record, positions[k]? = some i ∧ reader.record i = some (id, record) ∧
      t = record.timestamp := by
  induction h generalizing k with
  | nil => cases hk
  | cons hhead _ ih =>
    cases k with
    | succ k => exact ih hk
    | zero =>
      cases hk
      obtain ⟨id, record, hrecord, ht⟩ := hhead
      exact ⟨_, id, record, rfl, hrecord, ht⟩

/-- In a sorted file the timestamps are sorted. -/
theorem NativeReader.TimestampsOf.pairwise (hsorted : reader.SortedByTimestamp)
    (hincreasing : positions.Pairwise (· < ·)) (h : reader.TimestampsOf positions timestamps) :
    timestamps.Pairwise (· ≤ ·) := by
  rw [List.pairwise_iff_getElem]
  intro k l hk hl hkl
  obtain ⟨i, id, record, hi, hrecord, ht⟩ := h.getElem? (List.getElem?_eq_getElem hk)
  obtain ⟨j, id', later, hj, hlater, ht'⟩ := h.getElem? (List.getElem?_eq_getElem hl)
  rw [ht, ht']
  exact hsorted i j id record id' later (rel_of_getElem? hincreasing hkl hi hj).le hrecord hlater

end Timestamps

/-- **The timestamps agree**: those listed are in order and within the times of the filter, the
first and the last of them are the least and the greatest, each is that of its index, from the end
if the index is negative, and that of the record read there. -/
structure FilteredVRSReader.TimestampsAgree (filtered : FilteredVRSReader L) (reader : OpenReader L)
    (fields : FilterFields) (timestamps : List Timestamp) : Prop where
  length_eq : timestamps.length = filtered.nRecords
  sorted : timestamps.Pairwise (· ≤ ·)
  notBefore : ∀ t ∈ timestamps, ∀ least, fields.minTimestamp = some least → least ≤ t
  notAfter : ∀ t ∈ timestamps, ∀ greatest, fields.maxTimestamp = some greatest →
    greatest.IsNum → t ≤ greatest
  minTimestamp_eq : filtered.minTimestamp = timestamps.head?.getD (.ofRat 0)
  maxTimestamp_eq : filtered.maxTimestamp = timestamps.getLast?.getD (.ofRat 0)
  forIndex : ∀ index k t, position filtered.nRecords index = some k → timestamps[k]? = some t →
    filtered.getTimestampForIndex index = .ok t
  outOfRange : ∀ index, position filtered.nRecords index = none →
    ∃ e, filtered.getTimestampForIndex index = .error e ∧ e.kind = .indexError
  ofRecord : ∀ index record reader', reader.getItem filtered.vrsIndices index =
    (.ok record, reader') → filtered.getTimestampForIndex index = .ok record.recordTimestamp

namespace FilteredVRSReader.Holds

variable {filtered : FilteredVRSReader L} {reader : NativeReader L}
  {fnmatch : String → String → Bool} {fields : FilterFields} {positions : List ℕ}
  {timestamps : List Timestamp}
  (h : filtered.Holds reader fnmatch fields positions) (hfile : reader.Filterable fnmatch)

include h

theorem length_vrsIndices : filtered.vrsIndices.length = positions.length := by
  show (filtered.filteredIndices.map Int32.toInt).length = _
  rw [h.filteredIndices_eq, List.length_map, List.length_map]

/-- The index in the file of a position, and the exception past the ends. -/
theorem getItem_of_position {index : ℤ} {k i : ℕ} (hfile : reader.Filterable fnmatch)
    (hk : position positions.length index = some k) (hi : positions[k]? = some i) :
    filtered.vrsIndices.getItem index = .ok i := by
  unfold VrsIndices.getItem
  rw [h.length_vrsIndices, hk, Option.bind_some, VrsIndices.itemAt_eq,
    (h.holdPositions hfile).toList_eq, List.getElem?_map, hi]
  rfl

theorem getItem_of_position_none {index : ℤ} (hk : position positions.length index = none) :
    filtered.vrsIndices.getItem index = .error SequenceType.list.outOfRange := by
  unfold VrsIndices.getItem
  rw [h.length_vrsIndices, hk]
  rfl

include hfile

theorem getTimestampForIndex_of_position {index : ℤ} {k i : ℕ} {id : StreamId}
    {record : RecordInfo} (hk : position positions.length index = some k)
    (hi : positions[k]? = some i) (hrecord : reader.record i = some (id, record)) :
    filtered.getTimestampForIndex index = .ok record.timestamp := by
  have hlength := h.nRecords_eq
  unfold nRecords at hlength
  have hindex : ¬((filtered.filteredIndices.length : ℤ) ≤ index) := by
    rw [hlength]
    unfold position at hk
    intro hle
    have hneg : ¬index < 0 := by omega
    have hout : ¬(0 ≤ index ∧ index < positions.length) := by omega
    rw [if_neg hneg, if_neg hout] at hk
    cases hk
  have hmem := List.mem_of_getElem? hi
  have htimestamp := h.timestampAt_eq hfile hmem hrecord
  unfold getTimestampForIndex
  rw [if_neg hindex, h.getItem_of_position hfile hk hi]
  exact htimestamp

omit hfile in
theorem getTimestampForIndex_of_position_none {index : ℤ}
    (hk : position positions.length index = none) :
    ∃ e, filtered.getTimestampForIndex index = .error e ∧ e.kind = .indexError := by
  unfold getTimestampForIndex
  by_cases hindex : (filtered.filteredIndices.length : ℤ) ≤ index
  · rw [if_pos hindex]
    exact ⟨_, rfl, rfl⟩
  · rw [if_neg hindex, h.getItem_of_position_none hk]
    exact ⟨_, rfl, rfl⟩

/-- The timestamp at a position of the reader is the one listed there. -/
theorem eq_getD_of_timestampAt (htimestamps : reader.TimestampsOf positions timestamps) {k : ℕ}
    {t : Timestamp} (ht : timestampAt filtered.reader (positions[k]?.map Int32.ofNat) = .ok t) :
    t = timestamps[k]?.getD (.ofRat 0) := by
  cases hk : timestamps[k]? with
  | none =>
    have hlength := htimestamps.length_eq
    rw [List.getElem?_eq_none_iff] at hk
    rw [List.getElem?_eq_none (by omega)] at ht
    exact (Except.ok.inj ht).symm
  | some u =>
    obtain ⟨i, id, record, hi, hrecord, rfl⟩ := htimestamps.getElem? hk
    have htimestamp := h.timestampAt_eq hfile (List.mem_of_getElem? hi) hrecord
    rw [hi] at ht
    exact Except.ok.inj (ht.symm.trans htimestamp)

theorem getTimestampList_none : filtered.getTimestampList none =
    reader.getTimestampListForIndices (positions.map Int32.ofNat) := by
  have hlist : filtered.filteredIndices.map Int32.toInt = positions.map Nat.cast :=
    (h.holdPositions hfile).toList_eq
  have hrange : ∀ i ∈ positions.map (Nat.cast : ℕ → ℤ),
      Int32.minValue.toInt ≤ i ∧ i ≤ Int32.maxValue.toInt := by
    intro i hi
    obtain ⟨j, hj, rfl⟩ := List.mem_map.1 hi
    have hlt := h.lt hfile hj
    have hmin : Int32.minValue.toInt = -2 ^ 31 := rfl
    have hmax : Int32.maxValue.toInt = 2 ^ 31 - 1 := rfl
    omega
  unfold getTimestampList VRSReader.getTimestampList
  simp only [Option.getD_some]
  rw [hlist, if_pos hrange, h.reader_eq, List.map_map]
  rfl

/-- The timestamps of the positions held are as they should be. -/
theorem timestampsAgree {self : OpenReader L} (hself : self.native = reader)
    (htimestamps : reader.TimestampsOf positions timestamps) :
    filtered.TimestampsAgree self fields timestamps := by
  have hlength := htimestamps.length_eq
  have hselects : ∀ t ∈ timestamps, ∃ id record, fields.Selects L fnmatch id record ∧
      t = record.timestamp := by
    intro t ht
    obtain ⟨k, hk⟩ := List.mem_iff_getElem?.1 ht
    obtain ⟨i, id, record, hi, hrecord, rfl⟩ := htimestamps.getElem? hk
    obtain ⟨id', record', hrecord', hselects⟩ := h.exists_record hi
    cases hrecord.symm.trans hrecord'
    exact ⟨id, record, hselects, rfl⟩
  have hnRecords := h.nRecords_eq
  constructor
  case length_eq => rw [hnRecords, hlength]
  case sorted => exact htimestamps.pairwise hfile.sorted h.increasing
  case notBefore =>
    intro t ht least hleast
    obtain ⟨id, record, hselects, rfl⟩ := hselects t ht
    exact hselects.notBefore least hleast
  case notAfter =>
    intro t ht greatest hgreatest hnum
    obtain ⟨id, record, hselects, rfl⟩ := hselects t ht
    exact hselects.notAfter greatest hgreatest hnum
  case minTimestamp_eq =>
    have hmin := h.minTimestamp_eq
    rw [h.filteredIndices_eq, List.head?_map, List.head?_eq_getElem?] at hmin
    rw [List.head?_eq_getElem?]
    exact h.eq_getD_of_timestampAt hfile htimestamps hmin
  case maxTimestamp_eq =>
    have hmax := h.maxTimestamp_eq
    rw [h.filteredIndices_eq, List.getLast?_map, List.getLast?_eq_getElem?] at hmax
    rw [List.getLast?_eq_getElem?, ← hlength]
    exact h.eq_getD_of_timestampAt hfile htimestamps hmax
  case forIndex =>
    intro index k t hk ht
    rw [hnRecords] at hk
    obtain ⟨i, id, record, hi, hrecord, rfl⟩ := htimestamps.getElem? ht
    exact h.getTimestampForIndex_of_position hfile hk hi hrecord
  case outOfRange =>
    intro index hk
    rw [hnRecords] at hk
    exact h.getTimestampForIndex_of_position_none hk
  case ofRecord =>
    intro index r reader' hread
    unfold OpenReader.getItem at hread
    cases hk : position positions.length index with
    | none =>
      rw [h.getItem_of_position_none hk] at hread
      cases hread
    | some k =>
      have hlt := lt_of_position hk
      have hi : positions[k]? = some positions[k] := List.getElem?_eq_getElem hlt
      have hsmall := h.lt hfile (List.mem_of_getElem? hi)
      rw [h.getItem_of_position hfile hk hi] at hread
      simp only [self.readRecordOfInt_natCast hsmall] at hread
      obtain ⟨id, record, hrecord, -, -, htime, -⟩ :=
        self.isRecordAt_of_readRecord (by omega) hread
      rw [hself] at hrecord
      rw [htime]
      exact h.getTimestampForIndex_of_position hfile hk hi hrecord

end FilteredVRSReader.Holds

/-- **The timestamps of a filtered reader agree**, however they are asked for. -/
theorem FilteredVRSReader.timestamps_agree (self : OpenReader L)
    {fnmatch : String → String → Bool} (hfile : self.native.Filterable fnmatch)
    (fields : FilterFields) :
    ∃ filtered timestamps,
      (VRSReader.init self.native).filteredByFields fnmatch fields = .ok filtered ∧
        filtered.getTimestampList none = .ok timestamps ∧
        filtered.TimestampsAgree self fields timestamps := by
  obtain ⟨filtered, positions, hfiltered, h⟩ := hfile.exists_holds fields
  obtain ⟨timestamps, hlist, htimestamps⟩ := self.native.exists_timestampsOf fun i hi => by
    obtain ⟨id, record, hrecord, -⟩ := (h.mem_iff i).1 hi
    exact ⟨h.lt hfile hi, id, record, hrecord⟩
  exact ⟨filtered, timestamps, hfiltered, (h.getTimestampList_none hfile).trans hlist,
    h.timestampsAgree hfile rfl htimestamps⟩

/-! ## Two configurations -/

/-- A reader of a file with two configurations, whose stream is enabled. -/
def reconfiguredOpen : OpenReader VrsLib.bare :=
  .reader reconfiguredFile (.blank .bare) ((OssVRSReader.new false).enableStreamId ⟨1201, 1⟩)

theorem filterable_reconfiguredOpen :
    reconfiguredOpen.native.Filterable fun name pattern => name = pattern where
  matches_self := by simp
  getStreamForName_eq := by decide +kernel
  toRecordType_eq type := by cases type <;> decide +kernel
  sorted := NativeReader.sortedByTimestamp_reader (by decide) (by decide)
  size_lt := by decide

/-- The data records from 1 to 2. -/
def dataBetween : FilterFields := ⟨.none, .str "data", some (.ofRat 1), some (.ofRat 2)⟩

theorem slices_exact_dataBetween :
    ∃ filtered positions,
      (VRSReader.init reconfiguredOpen.native).filteredByFields (fun name pattern => name = pattern)
        dataBetween = .ok filtered ∧
      positions.Pairwise (· < ·) ∧
      (∀ i, i ∈ positions ↔ ∃ id record, reconfiguredOpen.native.record i = some (id, record) ∧
        dataBetween.Selects VrsLib.bare (fun name pattern => name = pattern) id record) ∧
      ∀ path, match slices? positions path with
        | none => filtered.vrsIndices.slices path = .error zeroStep
        | some picked => ∃ sliced, filtered.vrsIndices.slices path = .ok sliced ∧
          sliced.HoldPositions picked ∧ ∀ index,
            reconfiguredOpen.getItem sliced index =
              match (position picked.length index).bind (picked[·]?) with
              | none => (.error SequenceType.list.outOfRange, reconfiguredOpen)
              | some i => reconfiguredOpen.readRecord (.ofNat i) :=
  FilteredVRSReader.slices_exact reconfiguredOpen filterable_reconfiguredOpen dataBetween

theorem timestamps_agree_dataBetween :
    ∃ filtered timestamps,
      (VRSReader.init reconfiguredOpen.native).filteredByFields (fun name pattern => name = pattern)
        dataBetween = .ok filtered ∧
        filtered.getTimestampList none = .ok timestamps ∧
        filtered.TimestampsAgree reconfiguredOpen dataBetween timestamps :=
  FilteredVRSReader.timestamps_agree reconfiguredOpen filterable_reconfiguredOpen dataBetween

end Pyvrs
