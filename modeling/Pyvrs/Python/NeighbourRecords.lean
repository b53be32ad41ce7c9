import Pyvrs.Reader.IndexSearch

/-!
# The record after, the record before

`read_next_record` and `read_prev_record` of `reader.py` ask the native reader for a position, and
read the record there; an `IndexError` of the search means that there is no such record. The
searches meet their purpose exactly when they start in the index and the positions are those of an
`int` (`readNextRecord_iff`), and when they start before the end of the index or, with several
files, just when there is something to find (`readPrevRecord_iff`).
-/

namespace Pyvrs

open Foundations

/-- A `Reader` or a `MultiReader` with its files open. -/
inductive OpenReader (L : VrsLib)
  | reader (F : RecordFileReader L) (D : Native L) (native : OssVRSReader L)
  | multiReader (F : MultiRecordFileReader L) (D : Native L) (native : OssMultiVRSReader L)

namespace OpenReader

variable {L : VrsLib} (self : OpenReader L)

/-- `get_next_index`. -/
def getNextIndex (streamId recordType : String) (index : Int32) :
    Option (Except PyError Int32) :=
  match self with
  | reader F _ native => native.getNextIndex F streamId recordType index
  | multiReader F _ native => some (native.getNextIndex F streamId recordType index)

/-- `get_prev_index`. -/
def getPrevIndex (streamId recordType : String) (index : Int32) :
    Option (Except PyError Int32) :=
  match self with
  | reader F _ native => native.getPrevIndex F streamId recordType index
  | multiReader F _ native => some (native.getPrevIndex F streamId recordType index)

/-- `read_record`. -/
def readRecord (index : Int32) : Except PyError (PyRecord L) × OpenReader L :=
  match self with
  | reader F D native =>
    let (record, native) := native.readRecord F D index
    (record, .reader F D native)
  | multiReader F D native =>
    let (record, native) := native.readRecord F D index
    (record, .multiReader F D native)

/-- What `read_next_record` and `read_prev_record` do with the result of their search. -/
def readAt (search : Option (Except PyError Int32)) :
    Option (Except PyError (Option (PyRecord L)) × OpenReader L) :=
  match search with
  | none => none
  | some (.error e) =>
    if e.kind = .indexError then some (.ok none, self) else some (.error e, self)
  | some (.ok index) =>
    let (record, self) := self.readRecord index
    some (record.map some, self)

/-- `read_next_record`. -/
def readNextRecord (streamId recordType : String) (index : Int32) :
    Option (Except PyError (Option (PyRecord L)) × OpenReader L) :=
  self.readAt (self.getNextIndex streamId recordType index)

/-- `read_prev_record`. -/
def readPrevRecord (streamId recordType : String) (index : Int32) :
    Option (Except PyError (Option (PyRecord L)) × OpenReader L) :=
  self.readAt (self.getPrevIndex streamId recordType index)

/-! ## What is searched -/

/-- The number of records. -/
def recordCount : ℕ :=
  match self with
  | reader F _ _ => F.index.length
  | multiReader F _ _ => F.getRecordCount

/-- The name stands for a stream that is enabled. -/
def IsEnabled (streamId : String) (id : StreamId) : Prop :=
  match self with
  | reader F _ native => OssVRSReader.getStreamId F streamId = .ok id ∧ id ∈ native.enabledStreams
  | multiReader F _ native =>
    OssMultiVRSReader.getStreamId F streamId = .ok id ∧ id ∈ native.enabledStreams

/-- The record at a position is of a stream and a type. -/
def isAt (id : StreamId) (type : RecordType) (i : ℕ) : Bool :=
  match self with
  | reader F _ _ => F.index[i]?.any fun record => record.streamId = id ∧ record.recordType = type
  | multiReader F _ _ =>
    (F.getRecord i).any fun record => F.getUniqueStreamId i = id ∧ record.recordType = type

/-- A search forward from `index` starts in the index, or at its end, and what it finds is at a
position that is an `int`. -/
def NextFits (id : StreamId) (type : RecordType) (index : Int32) : Prop :=
  match self with
  | reader F _ _ => 0 ≤ index.toInt ∧ index.toInt ≤ F.index.length ∧
      (F.index.length < 2 ^ 31 ∨
        ∃ j ∈ holdsFrom (self.isAt id type) F.index.length index, j < 2 ^ 31)
  | multiReader F _ _ =>
    (∀ j, castUInt32 index ≤ j → j < F.getRecordCount → self.isAt id type j = false) ∨
      ∃ j, castUInt32 index ≤ j ∧ j < F.getRecordCount ∧ self.isAt id type j = true ∧ j < 2 ^ 31

/-- A search backward from `index` starts before the end of the index; with several files it starts
before the first record, or at a record just when there is something to find. -/
def PrevFits (id : StreamId) (type : RecordType) (index : Int32) : Prop :=
  match self with
  | reader F _ _ => index.toInt < F.index.length
  | multiReader F _ _ => index.toInt < 0 ∨
      (index.toInt < F.getRecordCount ↔
        (holdsUpTo (self.isAt id type) F.getRecordCount index).Nonempty)

section Match

variable {id : StreamId} {type : RecordType} (hvalid : type ≠ .undefined)

include hvalid

theorem any_matchStream (F : RecordFileReader L) (D : Native L) {native : OssVRSReader L}
    (henabled : id ∈ native.enabledStreams) :
    (fun i => F.index[i]?.any fun record => native.matchStream record id type) =
      (OpenReader.reader F D native).isAt id type := by
  funext i
  simp [isAt, OssVRSReader.matchStream, henabled, hvalid]

theorem any_matchStream_multi (F : MultiRecordFileReader L) (D : Native L)
    {native : OssMultiVRSReader L} (henabled : id ∈ native.enabledStreams) :
    (fun i => (F.getRecord i).any fun record => native.matchStream F i record id type) =
      (OpenReader.multiReader F D native).isAt id type := by
  funext i
  simp [isAt, OssMultiVRSReader.matchStream, henabled, hvalid]

/-- The search of several files ends at the first record that matches, or else at the end. -/
theorem getNextIndex_multiReader_eq {F : MultiRecordFileReader L} (D : Native L)
    {native : OssMultiVRSReader L} {streamId recordType : String} {index : Int32}
    (hid : OssMultiVRSReader.getStreamId F streamId = .ok id)
    (henabled : id ∈ native.enabledStreams) (htype : L.toRecordType recordType = type) :
    let k := firstFrom ((OpenReader.multiReader F D native).isAt id type) F.getRecordCount
      (castUInt32 index)
    native.getNextIndex F streamId recordType index =
      if F.getRecordCount ≤ k then .error (noRecordAfter streamId index) else .ok (.ofNat k) := by
  intro k
  unfold OssMultiVRSReader.getNextIndex
  rw [hid]
  simp only [htype, any_matchStream_multi hvalid F D henabled]
  by_cases hend : F.getRecordCount ≤ k
  · rw [if_pos hend, MultiRecordFileReader.getRecord, List.getElem?_eq_none hend]
  · rw [if_neg hend, MultiRecordFileReader.getRecord, List.getElem?_eq_getElem (not_le.1 hend)]

/-- The search of several files takes what it finds for a record, unless it looks at none. -/
theorem getPrevIndex_multiReader_eq {F : MultiRecordFileReader L} (D : Native L)
    {native : OssMultiVRSReader L} {streamId recordType : String} {index : Int32}
    (hid : OssMultiVRSReader.getStreamId F streamId = .ok id)
    (henabled : id ∈ native.enabledStreams) (htype : L.toRecordType recordType = type) :
    native.getPrevIndex F streamId recordType index =
      if index.toInt < 0 then .error (noRecordBefore streamId index)
      else if F.getRecordCount ≤ index.toInt then .error (noRecordBefore streamId index)
      else .ok (((lastUpTo ((OpenReader.multiReader F D native).isAt id type)
        index.toInt.toNat).map Int32.ofNat).getD (-1)) := by
  unfold OssMultiVRSReader.getPrevIndex
  rw [hid]
  simp only [htype, any_matchStream_multi hvalid F D henabled]
  by_cases hneg : index.toInt < 0
  · rw [if_pos hneg, if_pos hneg]
  · have hcast := castUInt32_of_nonneg (not_lt.1 hneg)
    rw [if_neg hneg, if_neg hneg, show index.toInt.toNat = castUInt32 index by omega]
    by_cases hpast : F.getRecordCount ≤ castUInt32 index
    · rw [if_pos (by omega), MultiRecordFileReader.getRecord, List.getElem?_eq_none hpast]
    · rw [if_neg (by omega), MultiRecordFileReader.getRecord,
        List.getElem?_eq_getElem (not_le.1 hpast)]
      cases lastUpTo ((OpenReader.multiReader F D native).isAt id type) (castUInt32 index) with
      | none => rfl
      | some prevIndex => rfl

end Match

section Searches

variable {self} {streamId recordType : String} {id : StreamId} {type : RecordType} {index : Int32}
  (hstream : self.IsEnabled streamId id) (htype : L.toRecordType recordType = type)
  (hvalid : type ≠ .undefined)

include hstream htype hvalid

/-- The search forward meets its purpose exactly when it fits. -/
theorem meetsNext_iff :
    MeetsNext (self.isAt id type) self.recordCount index
      (self.getNextIndex streamId recordType index) ↔ self.NextFits id type index := by
  cases self with
  | reader F D native =>
    obtain ⟨hid, henabled⟩ := hstream
    show MeetsNext _ F.index.length index (native.getNextIndex F streamId recordType index) ↔ _
    unfold OssVRSReader.getNextIndex
    rw [hid]
    simp only [htype, any_matchStream hvalid F D henabled]
    exact meetsNext_iff_of_castSizeT F.length_index_lt rfl
  | multiReader F D native =>
    obtain ⟨hid, henabled⟩ := hstream
    show MeetsNext _ F.getRecordCount index
      (some (native.getNextIndex F streamId recordType index)) ↔ _
    rw [getNextIndex_multiReader_eq hvalid D hid henabled htype]
    exact meetsNext_iff_of_castUInt32 F.length_records_lt rfl

/-- The search backward meets its purpose exactly when it fits. -/
theorem meetsPrev_iff :
    MeetsPrev (self.isAt id type) self.recordCount index
      (self.getPrevIndex streamId recordType index) ↔ self.PrevFits id type index := by
  cases self with
  | reader F D native =>
    obtain ⟨hid, henabled⟩ := hstream
    show MeetsPrev _ F.index.length index (native.getPrevIndex F streamId recordType index) ↔ _
    unfold OssVRSReader.getPrevIndex
    rw [hid]
    simp only [htype, any_matchStream hvalid F D henabled]
    exact meetsPrev_iff_of_index rfl
  | multiReader F D native =>
    obtain ⟨hid, henabled⟩ := hstream
    show MeetsPrev _ F.getRecordCount index
      (some (native.getPrevIndex F streamId recordType index)) ↔ _
    rw [getPrevIndex_multiReader_eq hvalid D hid henabled htype]
    exact meetsPrev_iff_of_record rfl

/-- **`read_next_record` finds the next record** from `index` on, or none if there is none, if and
only if the search fits. -/
theorem readNextRecord_iff :
    (MeetsNext (self.isAt id type) self.recordCount index
        (self.getNextIndex streamId recordType index) ∧
      (0 ≤ index.toInt → holdsFrom (self.isAt id type) self.recordCount index = ∅ →
        self.readNextRecord streamId recordType index = some (.ok none, self))) ↔
      self.NextFits id type index := by
  rw [← meetsNext_iff hstream htype hvalid]
  refine and_iff_left_of_imp fun hmeets _ hnone => ?_
  unfold readNextRecord
  match hsearch : self.getNextIndex streamId recordType index with
  | none =>
    rw [hsearch] at hmeets
    exact hmeets.elim
  | some (.ok k) =>
    rw [hsearch] at hmeets
    obtain ⟨j, -, hleast⟩ := hmeets
    rw [hnone] at hleast
    exact hleast.1.elim
  | some (.error e) =>
    rw [hsearch] at hmeets
    exact if_pos hmeets.1

/-- **`read_prev_record` finds the last record** up to `index`, or none if there is none, if and
only if the search fits. -/
theorem readPrevRecord_iff :
    (MeetsPrev (self.isAt id type) self.recordCount index
        (self.getPrevIndex streamId recordType index) ∧
      (holdsUpTo (self.isAt id type) self.recordCount index = ∅ →
        self.readPrevRecord streamId recordType index = some (.ok none, self))) ↔
      self.PrevFits id type index := by
  rw [← meetsPrev_iff hstream htype hvalid]
  refine and_iff_left_of_imp fun hmeets hnone => ?_
  unfold readPrevRecord
  match hsearch : self.getPrevIndex streamId recordType index with
  | none =>
    rw [hsearch] at hmeets
    exact hmeets.elim
  | some (.ok k) =>
    rw [hsearch] at hmeets
    obtain ⟨j, -, hgreatest⟩ := hmeets
    rw [hnone] at hgreatest
    exact hgreatest.1.elim
  | some (.error e) =>
    rw [hsearch] at hmeets
    exact if_pos hmeets.1

end Searches

end OpenReader

/-! ## Two streams -/

/-- A reader of a file of two streams, both of them enabled. -/
def twoStreams : OpenReader VrsLib.bare :=
  .reader twoStreamsFile (.blank .bare)
    (((OssVRSReader.new false).enableStreamId ⟨1201, 1⟩).enableStreamId ⟨1202, 1⟩)

/-- The same with the reader of several files. -/
def twoStreamsMulti : OpenReader VrsLib.bare :=
  .multiReader (.ofFile twoStreamsFile) (.blank .bare)
    (((OssMultiVRSReader.new false).enableStreamId ⟨1201, 1⟩).enableStreamId ⟨1202, 1⟩)

theorem isEnabled_twoStreams :
    (twoStreams.IsEnabled "1201-1" ⟨1201, 1⟩ ∧ twoStreams.IsEnabled "1202-1" ⟨1202, 1⟩) ∧
      twoStreamsMulti.IsEnabled "1201-1" ⟨1201, 1⟩ ∧
        twoStreamsMulti.IsEnabled "1202-1" ⟨1202, 1⟩ := by
  refine ⟨⟨⟨by decide +kernel, ?_⟩, by decide +kernel, ?_⟩, ⟨by decide +kernel, ?_⟩,
    by decide +kernel, ?_⟩
  · exact Finset.mem_insert_of_mem (Finset.mem_insert_self _ _)
  · exact Finset.mem_insert_self _ _
  · exact Finset.mem_insert_of_mem (Finset.mem_insert_self _ _)
  · exact Finset.mem_insert_self _ _

theorem toRecordType_data : VrsLib.bare.toRecordType "data" = .data := by decide +kernel

/-- From a record of the other stream on, both readers find the data record of the stream. -/
theorem readNextRecord_twoStreams :
    (MeetsNext (twoStreams.isAt ⟨1202, 1⟩ .data) twoStreams.recordCount 2
        (twoStreams.getNextIndex "1202-1" "data" 2) ∧
      (0 ≤ (2 : Int32).toInt →
        holdsFrom (twoStreams.isAt ⟨1202, 1⟩ .data) twoStreams.recordCount 2 = ∅ →
        twoStreams.readNextRecord "1202-1" "data" 2 = some (.ok none, twoStreams))) ∧
    MeetsNext (twoStreamsMulti.isAt ⟨1202, 1⟩ .data) twoStreamsMulti.recordCount 2
        (twoStreamsMulti.getNextIndex "1202-1" "data" 2) ∧
      (0 ≤ (2 : Int32).toInt →
        holdsFrom (twoStreamsMulti.isAt ⟨1202, 1⟩ .data) twoStreamsMulti.recordCount 2 = ∅ →
        twoStreamsMulti.readNextRecord "1202-1" "data" 2 = some (.ok none, twoStreamsMulti)) := by
  constructor
  · exact (OpenReader.readNextRecord_iff isEnabled_twoStreams.1.2 toRecordType_data (by decide)).2
      ⟨by decide, by decide, .inl (by decide)⟩
  · exact (OpenReader.readNextRecord_iff isEnabled_twoStreams.2.2 toRecordType_data (by decide)).2
      (.inr ⟨3, by decide, by decide, by decide +kernel, by decide⟩)

/-- Up to the last record, both readers find the data record of the other stream two before. -/
theorem readPrevRecord_twoStreams :
    (MeetsPrev (twoStreams.isAt ⟨1201, 1⟩ .data) twoStreams.recordCount 4
        (twoStreams.getPrevIndex "1201-1" "data" 4) ∧
      (holdsUpTo (twoStreams.isAt ⟨1201, 1⟩ .data) twoStreams.recordCount 4 = ∅ →
        twoStreams.readPrevRecord "1201-1" "data" 4 = some (.ok none, twoStreams))) ∧
    MeetsPrev (twoStreamsMulti.isAt ⟨1201, 1⟩ .data) twoStreamsMulti.recordCount 4
        (twoStreamsMulti.getPrevIndex "1201-1" "data" 4) ∧
      (holdsUpTo (twoStreamsMulti.isAt ⟨1201, 1⟩ .data) twoStreamsMulti.recordCount 4 = ∅ →
        twoStreamsMulti.readPrevRecord "1201-1" "data" 4 = some (.ok none, twoStreamsMulti)) := by
  constructor
  · exact (OpenReader.readPrevRecord_iff isEnabled_twoStreams.1.1 toRecordType_data (by decide)).2
      (show (4 : Int32).toInt < 5 by decide)
  · exact (OpenReader.readPrevRecord_iff isEnabled_twoStreams.2.1 toRecordType_data (by decide)).2
      (.inr (iff_of_true (by decide) ⟨2, by decide, by decide, by decide +kernel⟩))

/-! ## One record -/

/-- A file with one data record. -/
def oneRecordFile : RecordFileReader VrsLib.bare :=
  .ofIndex .bare [⟨.ofRat 0, ⟨1201, 1⟩, .data⟩] (by decide)

/-- A reader of the file, whose stream is enabled. -/
def oneRecord : OpenReader VrsLib.bare :=
  .reader oneRecordFile (.blank .bare) ((OssVRSReader.new false).enableStreamId ⟨1201, 1⟩)

/-- The same with the reader of several files. -/
def oneRecordMulti : OpenReader VrsLib.bare :=
  .multiReader (.ofFile oneRecordFile) (.blank .bare)
    ((OssMultiVRSReader.new false).enableStreamId ⟨1201, 1⟩)

/-- **A negative start** is returned as the position of a record. -/
theorem not_meetsNext_oneRecord :
    oneRecord.getNextIndex "1201-1" "data" (-1) = some (.ok (-1)) ∧
    ¬MeetsNext (oneRecord.isAt ⟨1201, 1⟩ .data) oneRecord.recordCount (-1)
      (oneRecord.getNextIndex "1201-1" "data" (-1)) := by
  have hsearch : oneRecord.getNextIndex "1201-1" "data" (-1) = some (.ok (-1)) := by
    decide +kernel
  refine ⟨hsearch, ?_⟩
  rw [hsearch]
  rintro ⟨j, hj, -⟩
  have hneg : (-1 : Int32).toInt = -1 := rfl
  omega

/-- **A start at the end** is read in the index of one file, and **an exhausted scan** returns -1
with several files. -/
theorem not_meetsPrev_oneRecord :
    oneRecord.getPrevIndex "1201-1" "data" 1 = none ∧
    ¬MeetsPrev (oneRecord.isAt ⟨1201, 1⟩ .data) oneRecord.recordCount 1
      (oneRecord.getPrevIndex "1201-1" "data" 1) ∧
    oneRecordMulti.getPrevIndex "1201-1" "state" 0 = some (.ok (-1)) ∧
    ¬MeetsPrev (oneRecordMulti.isAt ⟨1201, 1⟩ .state) oneRecordMulti.recordCount 0
      (oneRecordMulti.getPrevIndex "1201-1" "state" 0) := by
  have hpast : oneRecord.getPrevIndex "1201-1" "data" 1 = none := by decide +kernel
  have hexhausted : oneRecordMulti.getPrevIndex "1201-1" "state" 0 = some (.ok (-1)) := by
    decide +kernel
  refine ⟨hpast, ?_, hexhausted, ?_⟩
  · rw [hpast]
    exact id
  · rw [hexhausted]
    rintro ⟨j, hj, -⟩
    have hneg : (-1 : Int32).toInt = -1 := rfl
    omega

end Pyvrs
