import Pyvrs.Python.VRSReader

/-!
# Filtering is exact

On a file sorted by timestamp, the loop that stops at the first record past the last timestamp finds
the positions that a filter over the whole file does (`enabledIndices_eq`). The names that
`filtered_by_fields` hands over are those of streams and types in the file, which stand for
themselves. So the filtered indices are those of the records that the fields select
(`filteredByFields_exact`), as long as the records are fewer than an `int` counts.
-/

namespace Pyvrs

open Foundations

variable {L : VrsLib}

/-! ## Enabled indices -/

namespace OssMultiVRSReader

variable (F : MultiRecordFileReader L)

/-- The record at a position is one that `regenerateEnabledIndices` looks for. -/
def enabled (types : List RecordType) (ids : List StreamId)
    (minEnabledTimestamp maxEnabledTimestamp : Timestamp) (i : ℕ) : Bool :=
  match F.getRecord i with
  | none => false
  | some record => minEnabledTimestamp ≤ record.timestamp ∧
      ¬maxEnabledTimestamp < record.timestamp ∧ record.recordType ∈ types ∧
      F.getUniqueStreamId i ∈ ids

/-- The records are in the order of their timestamps, which are numbers. -/
def SortedRecords : Prop :=
  ∀ i j record later, i ≤ j → F.getRecord i = some record → F.getRecord j = some later →
    record.timestamp ≤ later.timestamp

variable {F}

/-- **Stopping at the first late record loses nothing** in a sorted file. -/
theorem enabledIndices_eq (hsorted : SortedRecords F) (types : List RecordType)
    (ids : List StreamId) (minEnabledTimestamp maxEnabledTimestamp : Timestamp)
    {fuel start : ℕ} (hend : start + fuel = F.getRecordCount) :
    enabledIndices F types ids minEnabledTimestamp maxEnabledTimestamp fuel start =
      ((List.range' start fuel).filter
        (enabled F types ids minEnabledTimestamp maxEnabledTimestamp)).map Int32.ofNat := by
  induction fuel generalizing start with
  | zero => rfl
  | succ fuel ih =>
    have hlt : start < F.records.length := by
      unfold MultiRecordFileReader.getRecordCount at hend
      omega
    obtain ⟨record, hrecord⟩ : ∃ record, F.getRecord start = some record :=
      ⟨F.records[start], List.getElem?_eq_getElem hlt⟩
    unfold enabledIndices
    rw [hrecord]
    simp only
    by_cases hlate : maxEnabledTimestamp < record.timestamp
    · have hnone : (List.range' start (fuel + 1)).filter
          (enabled F types ids minEnabledTimestamp maxEnabledTimestamp) = [] := by
        rw [List.filter_eq_nil_iff]
        intro i hi henabled
        rw [List.mem_range'_1] at hi
        unfold enabled at henabled
        split at henabled
        · cases henabled
        · rename_i later hlater
          have hle := hsorted start i record later hi.1 hrecord hlater
          have hpast := WithNaN.lt_of_lt_of_le hlate hle
          exact (of_decide_eq_true henabled).2.1 hpast
      rw [if_pos hlate, hnone]
      rfl
    · rw [if_neg hlate, List.range'_succ, List.filter_cons, ih (by omega)]
      have hhead : enabled F types ids minEnabledTimestamp maxEnabledTimestamp start =
          decide (minEnabledTimestamp ≤ record.timestamp ∧ record.recordType ∈ types ∧
            F.getUniqueStreamId start ∈ ids) := by
        unfold enabled
        rw [hrecord]
        simp only [hlate, not_false_eq_true, true_and]
      rw [hhead]
      by_cases hmatches : minEnabledTimestamp ≤ record.timestamp ∧ record.recordType ∈ types ∧
          F.getUniqueStreamId start ∈ ids
      · rw [if_pos hmatches, if_pos (decide_eq_true hmatches)]
        rfl
      · rw [if_neg hmatches, if_neg (by simpa using hmatches)]

/-- Names of streams of the file stand for these streams. -/
theorem exists_streamIdSet
    (hnames : ∀ id ∈ F.streams, F.getStreamForName (L.getNumericName id) = some id)
    {names : List String}
    (hstreams : ∀ name ∈ names, ∃ id ∈ F.streams, L.getNumericName id = name) :
    ∃ ids, streamIdSet F names = .ok ids ∧
      ∀ id ∈ F.streams, id ∈ ids ↔ L.getNumericName id ∈ names := by
  induction names with
  | nil => exact ⟨[], rfl, fun _ _ => by simp⟩
  | cons name names ih =>
    rw [List.forall_mem_cons] at hstreams
    obtain ⟨⟨id, hid, rfl⟩, hrest⟩ := hstreams
    obtain ⟨ids, hids, hmem⟩ := ih hrest
    refine ⟨id :: ids, ?_, fun id' hid' => ?_⟩
    · simp only [streamIdSet, getStreamId, hnames id hid, hids]
    · have hname : L.getNumericName id' = L.getNumericName id ↔ id' = id := by
        refine ⟨fun h => ?_, congrArg _⟩
        have hsame := hnames id' hid'
        rw [h, hnames id hid, Option.some_inj] at hsame
        exact hsame.symm
      rw [List.mem_cons, List.mem_cons, hmem id' hid', hname]

end OssMultiVRSReader

/-! ## The file of a reader -/

namespace NativeReader

/-- The record at an index, with the stream that the reader knows it by. -/
def record : NativeReader L → ℕ → Option (StreamId × RecordInfo)
  | reader F, i => F.index[i]?.map fun record => (record.streamId, record)
  | multiReader F, i => (F.getRecord i).map fun record => (F.getUniqueStreamId i, record)

/-- `getStreams`. -/
def streams : NativeReader L → List StreamId
  | reader F => F.streams
  | multiReader F => F.streams

/-- `getStreamForName`. -/
def getStreamForName : NativeReader L → String → Option StreamId
  | reader F => F.getStreamForName
  | multiReader F => F.getStreamForName

/-- The records are in the order of their timestamps, which are numbers. -/
def SortedByTimestamp (reader : NativeReader L) : Prop :=
  ∀ i j id record id' later, i ≤ j → reader.record i = some (id, record) →
    reader.record j = some (id', later) → record.timestamp ≤ later.timestamp

/-- The files, where one file is opened as several. -/
def files : NativeReader L → MultiRecordFileReader L
  | reader F => .ofFile F
  | multiReader F => F

variable (self : NativeReader L)

theorem record_eq (i : ℕ) : self.record i =
    (self.files.getRecord i).map fun record => (self.files.getUniqueStreamId i, record) := by
  cases self with
  | multiReader F => rfl
  | reader F =>
    show F.index[i]?.map _ = F.index[i]?.map _
    cases hrecord : F.index[i]? with
    | none => rfl
    | some record =>
      have hunique := getUniqueStreamId_ofFile hrecord
      simp only [Option.map_some, files, hunique]

theorem record_eq_some_iff {i : ℕ} {id : StreamId} {record : RecordInfo} :
    self.record i = some (id, record) ↔
      self.files.getRecord i = some record ∧ self.files.getUniqueStreamId i = id := by
  rw [record_eq, Option.map_eq_some_iff]
  constructor
  · rintro ⟨record', hrecord, heq⟩
    cases heq
    exact ⟨hrecord, rfl⟩
  · rintro ⟨hrecord, rfl⟩
    exact ⟨record, hrecord, rfl⟩

theorem streams_eq : self.streams = self.files.streams := by
  cases self <;> rfl

theorem getStreamForName_eq : self.getStreamForName = self.files.getStreamForName := by
  cases self <;> rfl

theorem getAvailableRecordsSize_eq :
    self.getAvailableRecordsSize = self.files.getRecordCount := by
  cases self <;> rfl

theorem getAvailableStreamIds_eq :
    self.getAvailableStreamIds = (self.files.streams.map L.getNumericName).toFinset := by
  cases self <;> rfl

theorem regenerateEnabledIndices_eq (recordTypes streamIds : Finset String)
    (minEnabledTimestamp maxEnabledTimestamp : Timestamp) :
    self.regenerateEnabledIndices recordTypes streamIds minEnabledTimestamp maxEnabledTimestamp =
      OssMultiVRSReader.regenerateEnabledIndices self.files recordTypes.sort streamIds.sort
        minEnabledTimestamp maxEnabledTimestamp := by
  cases self with
  | reader F => exact regenerateEnabledIndices_ofFile F _ _ _ _
  | multiReader F => rfl

theorem SortedByTimestamp.sortedRecords {reader : NativeReader L}
    (h : reader.SortedByTimestamp) : OssMultiVRSReader.SortedRecords reader.files := by
  intro i j record later hle hrecord hlater
  exact h i j _ record _ later hle (reader.record_eq_some_iff.2 ⟨hrecord, rfl⟩)
    (reader.record_eq_some_iff.2 ⟨hlater, rfl⟩)

/-- The index of one file, in order. -/
theorem sortedByTimestamp_reader {F : RecordFileReader L}
    (hnum : ∀ record ∈ F.index, record.timestamp ≤ record.timestamp)
    (hpairwise : F.index.Pairwise fun record later => record.timestamp ≤ later.timestamp) :
    (reader F).SortedByTimestamp := by
  intro i j id record id' later hle hrecord hlater
  obtain ⟨record', hi', heq⟩ := Option.map_eq_some_iff.1 hrecord
  cases heq
  obtain ⟨later', hj', heq⟩ := Option.map_eq_some_iff.1 hlater
  cases heq
  obtain ⟨hi, rfl⟩ := List.getElem?_eq_some_iff.1 hi'
  obtain ⟨hj, rfl⟩ := List.getElem?_eq_some_iff.1 hj'
  rcases hle.lt_or_eq with hlt | rfl
  · exact List.pairwise_iff_getElem.1 hpairwise i j hi hj hlt
  · exact hnum _ (List.getElem_mem hi)

theorem lt_of_record {i : ℕ} {id : StreamId} {record : RecordInfo}
    (h : self.record i = some (id, record)) : i < self.getAvailableRecordsSize := by
  rw [getAvailableRecordsSize_eq]
  obtain ⟨hlt, -⟩ := List.getElem?_eq_some_iff.1 (self.record_eq_some_iff.1 h).1
  exact hlt

theorem exists_record {i : ℕ} (h : i < self.getAvailableRecordsSize) :
    ∃ id record, self.record i = some (id, record) := by
  rw [getAvailableRecordsSize_eq] at h
  exact ⟨_, _, self.record_eq_some_iff.2 ⟨List.getElem?_eq_getElem h, rfl⟩⟩

theorem mem_streams {i : ℕ} {id : StreamId} {record : RecordInfo}
    (h : self.record i = some (id, record)) : id ∈ self.streams := by
  rw [streams_eq]
  obtain ⟨hrecord, rfl⟩ := self.record_eq_some_iff.1 h
  obtain ⟨hlt, -⟩ := List.getElem?_eq_some_iff.1 hrecord
  exact self.files.mem_streams i hlt

/-- What the record summaries of the reader are made from. -/
def summarySource : NativeReader L → SummarySource
  | reader F => F.summarySource
  | multiReader F => F.summarySource

theorem getAvailableRecordTypes_eq :
    self.getAvailableRecordTypes = RecordSummaries.typeNames L self.summarySource := by
  cases self <;> rfl

theorem mem_entries {i : ℕ} {id : StreamId} {record : RecordInfo}
    (h : self.record i = some (id, record)) :
    (id, record.recordType) ∈ self.summarySource.entries := by
  cases self with
  | reader F =>
    obtain ⟨record', hrecord, heq⟩ := Option.map_eq_some_iff.1 h
    cases heq
    exact List.mem_map.2 ⟨record, List.mem_of_getElem? hrecord, rfl⟩
  | multiReader F =>
    obtain ⟨record', hrecord, heq⟩ := Option.map_eq_some_iff.1 h
    cases heq
    obtain ⟨hlt, hget⟩ := List.getElem?_eq_some_iff.1 hrecord
    exact List.mem_mapIdx.2 ⟨i, hlt, by rw [hget]⟩

theorem length_entries : self.summarySource.entries.length = self.getAvailableRecordsSize := by
  cases self with
  | reader F => exact List.length_map _
  | multiReader F => exact List.length_mapIdx

/-- The types of the records are available, as long as an `int` counts them. -/
theorem mem_getAvailableRecordTypes (hlength : self.getAvailableRecordsSize < 2 ^ 31) {i : ℕ}
    {id : StreamId} {record : RecordInfo} (h : self.record i = some (id, record)) :
    lowercaseTypeName L record.recordType ∈ self.getAvailableRecordTypes := by
  have hcount : self.summarySource.entries.countP (fun e => e.2 = record.recordType) < 2 ^ 31 :=
    List.countP_le_length.trans_lt (self.length_entries ▸ hlength)
  rw [getAvailableRecordTypes_eq, RecordSummaries.typeNames, List.mem_toFinset]
  refine List.mem_map_of_mem (List.mem_filter.2 ⟨RecordType.mem_values _, decide_eq_true ?_⟩)
  refine (ofNat_pos_iff (by omega)).2 ⟨List.countP_pos_iff.2 ?_, hcount⟩
  exact ⟨_, self.mem_entries h, decide_eq_true rfl⟩

theorem exists_of_mem_getAvailableRecordTypes {name : String}
    (h : name ∈ self.getAvailableRecordTypes) : ∃ type, lowercaseTypeName L type = name := by
  rw [getAvailableRecordTypes_eq, RecordSummaries.typeNames, List.mem_toFinset] at h
  obtain ⟨type, -, hname⟩ := List.mem_map.1 h
  exact ⟨type, hname⟩

theorem getMinAvailableTimestamp_eq {id : StreamId} {record : RecordInfo}
    (h : self.record 0 = some (id, record)) :
    self.getMinAvailableTimestamp = record.timestamp := by
  cases self with
  | reader F =>
    obtain ⟨record', hrecord, heq⟩ := Option.map_eq_some_iff.1 h
    cases heq
    show OssVRSReader.getMinAvailableTimestamp F = _
    rw [OssVRSReader.getMinAvailableTimestamp, List.head?_eq_getElem?, hrecord]
  | multiReader F =>
    have hlt : 0 < F.getRecordCount := (multiReader F).lt_of_record h
    obtain ⟨record', hrecord, heq⟩ := Option.map_eq_some_iff.1 h
    cases heq
    show OssMultiVRSReader.getMinAvailableTimestamp F = _
    rw [OssMultiVRSReader.getMinAvailableTimestamp, if_neg (by omega), hrecord]
    rfl

theorem getMaxAvailableTimestamp_eq {id : StreamId} {record : RecordInfo}
    (h : self.record (self.getAvailableRecordsSize - 1) = some (id, record)) :
    self.getMaxAvailableTimestamp = record.timestamp := by
  cases self with
  | reader F =>
    obtain ⟨record', hrecord, heq⟩ := Option.map_eq_some_iff.1 h
    cases heq
    have hlast : F.index.getLast? = some record := by
      rw [List.getLast?_eq_getElem?]
      exact hrecord
    show OssVRSReader.getMaxAvailableTimestamp F = _
    rw [OssVRSReader.getMaxAvailableTimestamp, hlast]
  | multiReader F =>
    have hlt := (multiReader F).lt_of_record h
    obtain ⟨record', hrecord, heq⟩ := Option.map_eq_some_iff.1 h
    cases heq
    have hlast : F.getRecord (F.getRecordCount - 1) = some record := hrecord
    show OssMultiVRSReader.getMaxAvailableTimestamp F = _
    rw [OssMultiVRSReader.getMaxAvailableTimestamp, hlast]
    have hpos : F.getRecordCount ≠ 0 := Nat.ne_of_gt (Nat.zero_lt_of_lt hlt)
    rw [if_neg hpos]
    rfl

/-- The first timestamp is below all others. -/
theorem SortedByTimestamp.getMinAvailableTimestamp_le {reader : NativeReader L}
    (hsorted : reader.SortedByTimestamp) {i : ℕ} {id : StreamId} {record : RecordInfo}
    (h : reader.record i = some (id, record)) :
    reader.getMinAvailableTimestamp ≤ record.timestamp := by
  have hlt := reader.lt_of_record h
  obtain ⟨id₀, first, hfirst⟩ := reader.exists_record (i := 0) (by omega)
  rw [reader.getMinAvailableTimestamp_eq hfirst]
  exact hsorted 0 i _ _ _ _ (Nat.zero_le i) hfirst h

/-- The last timestamp is above all others. -/
theorem SortedByTimestamp.le_getMaxAvailableTimestamp {reader : NativeReader L}
    (hsorted : reader.SortedByTimestamp) {i : ℕ} {id : StreamId} {record : RecordInfo}
    (h : reader.record i = some (id, record)) :
    record.timestamp ≤ reader.getMaxAvailableTimestamp := by
  have hlt := reader.lt_of_record h
  obtain ⟨id₀, last, hlast⟩ :=
    reader.exists_record (i := reader.getAvailableRecordsSize - 1) (by omega)
  rw [reader.getMaxAvailableTimestamp_eq hlast]
  exact hsorted i _ _ _ _ _ (by omega) h hlast

/-- An index that an `int32_t` holds gives the timestamp of its record. -/
theorem getTimestampForIndex_ofNat {i : ℕ} {id : StreamId} {record : RecordInfo}
    (h : self.record i = some (id, record)) (hlt : i < 2 ^ 31) :
    self.getTimestampForIndex (.ofNat i) = .ok record.timestamp := by
  have hint : (Int32.ofNat i).toInt = i := Int32.toInt_ofNat_of_lt (by omega)
  cases self with
  | reader F =>
    obtain ⟨record', hrecord, heq⟩ := Option.map_eq_some_iff.1 h
    cases heq
    show OssVRSReader.getTimestampForIndex F (.ofNat i) = _
    rw [OssVRSReader.getTimestampForIndex, hint, if_neg (by omega), Int.toNat_natCast, hrecord]
  | multiReader F =>
    obtain ⟨record', hrecord, heq⟩ := Option.map_eq_some_iff.1 h
    cases heq
    show OssMultiVRSReader.getTimestampForIndex F (.ofNat i) = _
    rw [OssMultiVRSReader.getTimestampForIndex, castUInt32_ofNat (by omega), hrecord]

end NativeReader

/-! ## What the fields select -/

/-- A name is asked for: it matches one of the texts, or none is given. -/
def Texts.Admits (condFunc : String → String → Bool) (name : String) : Texts → Prop
  | none => True
  | str text => condFunc name text
  | iterable texts => ∃ text ∈ texts, condFunc name text

/-- The fields ask for a record of a stream: the stream's id matches one of the patterns, the type
is among those requested, and the timestamp is between the bounds, of which a NaN is none above. -/
structure FilterFields.Selects (L : VrsLib) (fnmatch : String → String → Bool)
    (fields : FilterFields) (id : StreamId) (record : RecordInfo) : Prop where
  stream : fields.streamIds.Admits fnmatch (L.getNumericName id)
  type : fields.recordTypes.Admits (fun a b => a = b) (lowercaseTypeName L record.recordType)
  notBefore : ∀ t, fields.minTimestamp = some t → t ≤ record.timestamp
  notAfter : ∀ t, fields.maxTimestamp = some t → t.IsNum → record.timestamp ≤ t

theorem mem_filterSetOnCondition {s : Finset String} {items : List String}
    {condFunc : String → String → Bool} {a : String} :
    a ∈ filterSetOnCondition s items condFunc ↔ a ∈ s ∧ ∃ b ∈ items, condFunc a b := by
  unfold filterSetOnCondition
  rw [Finset.mem_filter, List.any_eq_true]

/-- A name that there is, and that matches itself, is kept if it is asked for. -/
theorem mem_filterSetOnCondition_items {s : Finset String} {texts : Texts}
    {condFunc : String → String → Bool} {a : String} (ha : a ∈ s) (hself : condFunc a a) :
    a ∈ filterSetOnCondition s (texts.items s) condFunc ↔ texts.Admits condFunc a := by
  rw [mem_filterSetOnCondition, and_iff_right ha]
  cases texts with
  | none => exact iff_of_true ⟨a, (Finset.mem_sort _).2 ha, hself⟩ trivial
  | str text => simp [Texts.items, Texts.Admits]
  | iterable texts => rfl

section Selects

variable (fnmatch : String → String → Bool) (reader : NativeReader L) (fields : FilterFields)
  {i : ℕ} {id : StreamId} {record : RecordInfo}

theorem minTimestamp_le_iff (hsorted : reader.SortedByTimestamp)
    (h : reader.record i = some (id, record)) :
    ((VRSReader.init reader).recordFilter fnmatch fields).minTimestamp ≤ record.timestamp ↔
      ∀ t, fields.minTimestamp = some t → t ≤ record.timestamp := by
  show fields.minTimestamp.getD reader.getMinAvailableTimestamp ≤ record.timestamp ↔ _
  cases fields.minTimestamp with
  | none => exact iff_of_true (hsorted.getMinAvailableTimestamp_le h) nofun
  | some t => simp

theorem not_maxTimestamp_lt_iff (hsorted : reader.SortedByTimestamp)
    (h : reader.record i = some (id, record)) :
    ¬((VRSReader.init reader).recordFilter fnmatch fields).maxTimestamp < record.timestamp ↔
      ∀ t, fields.maxTimestamp = some t → t.IsNum → record.timestamp ≤ t := by
  show ¬fields.maxTimestamp.getD reader.getMaxAvailableTimestamp < record.timestamp ↔ _
  have hnum : record.timestamp.IsNum :=
    (WithNaN.isNum_of_le (hsorted i i id record id record le_rfl h h)).1
  cases fields.maxTimestamp with
  | none =>
    refine iff_of_true (fun hlt => ?_) nofun
    exact WithNaN.not_le_of_lt hlt (hsorted.le_getMaxAvailableTimestamp h)
  | some t =>
    constructor
    · rintro hnot t' ⟨⟩ ht
      exact WithNaN.le_of_not_lt ht hnum hnot
    · intro hle hlt
      have ht : t.IsNum := (WithNaN.isNum_of_le (WithNaN.le_of_lt hlt)).1
      exact WithNaN.not_le_of_lt hlt (hle t rfl ht)

theorem mem_recordTypes_iff (htypes : ∀ type, L.toRecordType (lowercaseTypeName L type) = type)
    (hlength : reader.getAvailableRecordsSize < 2 ^ 31) (h : reader.record i = some (id, record)) :
    record.recordType ∈
        ((VRSReader.init reader).recordFilter fnmatch fields).recordTypes.sort.map
          L.toRecordType ↔
      fields.recordTypes.Admits (fun a b => a = b) (lowercaseTypeName L record.recordType) := by
  rw [← mem_filterSetOnCondition_items (reader.mem_getAvailableRecordTypes hlength h) (by simp),
    List.mem_map]
  constructor
  · rintro ⟨name, hname, htype⟩
    rw [Finset.mem_sort] at hname
    obtain ⟨type, rfl⟩ := reader.exists_of_mem_getAvailableRecordTypes
      (mem_filterSetOnCondition.1 hname).1
    rw [htypes] at htype
    rwa [← htype]
  · intro hname
    exact ⟨_, (Finset.mem_sort _).2 hname, htypes _⟩

theorem mem_streamIds_iff
    (hself : ∀ id ∈ reader.streams, fnmatch (L.getNumericName id) (L.getNumericName id))
    (h : reader.record i = some (id, record)) :
    L.getNumericName id ∈ ((VRSReader.init reader).recordFilter fnmatch fields).streamIds ↔
      fields.streamIds.Admits fnmatch (L.getNumericName id) := by
  have hid := reader.mem_streams h
  refine mem_filterSetOnCondition_items ?_ (hself id hid)
  show _ ∈ reader.getAvailableStreamIds
  rw [reader.getAvailableStreamIds_eq, List.mem_toFinset, ← reader.streams_eq]
  exact List.mem_map_of_mem hid

end Selects

section Exact

variable (fnmatch : String → String → Bool) (reader : NativeReader L)
  (hself : ∀ id ∈ reader.streams, fnmatch (L.getNumericName id) (L.getNumericName id))
  (hnames : ∀ id ∈ reader.streams, reader.getStreamForName (L.getNumericName id) = some id)
  (htypes : ∀ type, L.toRecordType (lowercaseTypeName L type) = type)
  (hsorted : reader.SortedByTimestamp) (hlength : reader.getAvailableRecordsSize < 2 ^ 31)

include hself hnames htypes hsorted hlength

/-- **The indices generated for the fields** are those of the records that the fields select, each
converted to an `int32_t`. -/
theorem exists_generateFilteredIndices (fields : FilterFields) :
    ∃ positions : List ℕ,
      (VRSReader.init reader).generateFilteredIndices
        ((VRSReader.init reader).recordFilter fnmatch fields) =
          .ok (positions.map Int32.ofNat) ∧
      positions.Pairwise (· < ·) ∧
      ∀ i, i ∈ positions ↔ ∃ id record, reader.record i = some (id, record) ∧
        fields.Selects L fnmatch id record := by
  generalize hfilter : (VRSReader.init reader).recordFilter fnmatch fields = filter
  have hstreams : ∀ name ∈ filter.streamIds.sort,
      ∃ id ∈ reader.files.streams, L.getNumericName id = name := by
    intro name hname
    rw [Finset.mem_sort, ← hfilter] at hname
    have havailable : name ∈ reader.getAvailableStreamIds := (mem_filterSetOnCondition.1 hname).1
    rw [reader.getAvailableStreamIds_eq, List.mem_toFinset] at havailable
    obtain ⟨id, hid, hname⟩ := List.mem_map.1 havailable
    exact ⟨id, hid, hname⟩
  rw [reader.streams_eq, reader.getStreamForName_eq] at hnames
  obtain ⟨ids, hids, hmem⟩ := OssMultiVRSReader.exists_streamIdSet hnames hstreams
  refine ⟨(List.range' 0 reader.files.getRecordCount).filter (OssMultiVRSReader.enabled
    reader.files (filter.recordTypes.sort.map L.toRecordType) ids filter.minTimestamp
    filter.maxTimestamp), ?_, List.Pairwise.filter _ (List.pairwise_lt_range' ..), fun i => ?_⟩
  · show reader.regenerateEnabledIndices _ _ _ _ = _
    rw [reader.regenerateEnabledIndices_eq, OssMultiVRSReader.regenerateEnabledIndices, hids]
    simp only
    rw [OssMultiVRSReader.enabledIndices_eq hsorted.sortedRecords _ _ _ _ (Nat.zero_add _)]
  · rw [List.mem_filter, List.mem_range'_1]
    constructor
    · rintro ⟨hi, henabled⟩
      obtain ⟨id, record, h⟩ := reader.exists_record (i := i)
        (by rw [reader.getAvailableRecordsSize_eq]; omega)
      obtain ⟨hrecord, hid⟩ := reader.record_eq_some_iff.1 h
      have hstream := reader.mem_streams h
      rw [reader.streams_eq] at hstream
      rw [OssMultiVRSReader.enabled, hrecord, hid] at henabled
      obtain ⟨hmin, hmax, htype, hstreamId⟩ := of_decide_eq_true henabled
      rw [hmem id hstream, Finset.mem_sort] at hstreamId
      subst hfilter
      exact ⟨id, record, h, (mem_streamIds_iff fnmatch reader fields hself h).1 hstreamId,
        (mem_recordTypes_iff fnmatch reader fields htypes hlength h).1 htype,
        (minTimestamp_le_iff fnmatch reader fields hsorted h).1 hmin,
        (not_maxTimestamp_lt_iff fnmatch reader fields hsorted h).1 hmax⟩
    · rintro ⟨id, record, h, hselects⟩
      have hlt := reader.lt_of_record h
      obtain ⟨hrecord, hid⟩ := reader.record_eq_some_iff.1 h
      have hstream := reader.mem_streams h
      rw [reader.streams_eq] at hstream
      rw [reader.getAvailableRecordsSize_eq] at hlt
      refine ⟨⟨Nat.zero_le i, by omega⟩, ?_⟩
      rw [OssMultiVRSReader.enabled, hrecord, hid]
      refine decide_eq_true ?_
      subst hfilter
      rw [hmem id hstream, Finset.mem_sort]
      exact ⟨(minTimestamp_le_iff fnmatch reader fields hsorted h).2 hselects.notBefore,
        (not_maxTimestamp_lt_iff fnmatch reader fields hsorted h).2 hselects.notAfter,
        (mem_recordTypes_iff fnmatch reader fields htypes hlength h).2 hselects.type,
        (mem_streamIds_iff fnmatch reader fields hself h).2 hselects.stream⟩

omit hself hnames htypes hsorted hlength in
theorem timestampAt_ofNat {i : ℕ} {id : StreamId} {record : RecordInfo}
    (h : reader.record i = some (id, record)) (hlt : i < 2 ^ 31) :
    FilteredVRSReader.timestampAt (VRSReader.init reader) (some (.ofNat i)) =
      .ok record.timestamp := by
  have hint : (Int32.ofNat i).toInt = i := Int32.toInt_ofNat_of_lt hlt
  have hsize := reader.lt_of_record h
  show (if (reader.getAvailableRecordsSize : ℤ) ≤ (Int32.ofNat i).toInt then _
    else reader.getTimestampForIndex (Int32.ofNat i)) = _
  rw [hint, if_neg (by omega), reader.getTimestampForIndex_ofNat h hlt]

omit hself hnames htypes hsorted hlength in
/-- A filtered reader is made of any indices that an `int32_t` holds. -/
theorem exists_filteredVRSReader {filter : RecordFilter} {positions : List ℕ}
    (hfits : reader.getAvailableRecordsSize ≤ 2 ^ 31)
    (hgenerated : (VRSReader.init reader).generateFilteredIndices filter =
      .ok (positions.map Int32.ofNat))
    (hpositions : ∀ i ∈ positions, ∃ id record, reader.record i = some (id, record)) :
    ∃ filtered, FilteredVRSReader.init (VRSReader.init reader) filter = .ok filtered ∧
      filtered.filteredIndices = positions.map Int32.ofNat := by
  have htimestamp : ∀ i? : Option ℕ, (∀ i ∈ i?, i ∈ positions) →
      ∃ t, FilteredVRSReader.timestampAt (VRSReader.init reader) (i?.map Int32.ofNat) = .ok t := by
    intro i? hi
    cases i? with
    | none => exact ⟨_, rfl⟩
    | some i =>
      obtain ⟨id, record, h⟩ := hpositions i (hi i rfl)
      have hlt := reader.lt_of_record h
      exact ⟨record.timestamp, timestampAt_ofNat reader h (by omega)⟩
  obtain ⟨minTimestamp, hmin⟩ := htimestamp positions.head? fun i hi => List.mem_of_mem_head? hi
  obtain ⟨maxTimestamp, hmax⟩ :=
    htimestamp positions.getLast? fun i hi => List.mem_of_getLast? hi
  refine ⟨⟨VRSReader.init reader, filter, positions.map Int32.ofNat, minTimestamp, maxTimestamp⟩,
    ?_, rfl⟩
  unfold FilteredVRSReader.init
  rw [hgenerated]
  simp only [List.head?_map, List.getLast?_map, hmin, hmax]

omit hself hnames htypes hsorted hlength in
/-- Fields that select every record select all indexes. -/
theorem eq_range_of_selects {fields : FilterFields} {positions : List ℕ}
    (hincreasing : positions.Pairwise (· < ·))
    (hmem : ∀ i, i ∈ positions ↔ ∃ id record, reader.record i = some (id, record) ∧
      fields.Selects L fnmatch id record)
    (hall : ∀ id record, fields.Selects L fnmatch id record) :
    positions = List.range reader.getAvailableRecordsSize := by
  refine hincreasing.eq_of_mem_iff List.pairwise_lt_range fun i => ?_
  rw [hmem, List.mem_range]
  constructor
  · rintro ⟨id, record, h, -⟩
    exact reader.lt_of_record h
  · intro hi
    obtain ⟨id, record, h⟩ := reader.exists_record hi
    exact ⟨id, record, h, hall id record⟩

/-- **Filtering is exact**, for files whose records an `int` counts: the filtered indices are in
order, and they are those of the records that the fields select; all of them when no field is
given. -/
theorem filteredByFields_exact (fields : FilterFields) :
    ∃ filtered, (VRSReader.init reader).filteredByFields fnmatch fields = .ok filtered ∧
      ∃ positions : List ℕ, filtered.filteredIndices.map Int32.toInt = positions.map Int.ofNat ∧
        positions.Pairwise (· < ·) ∧
        (∀ i, i ∈ positions ↔ ∃ id record, reader.record i = some (id, record) ∧
          fields.Selects L fnmatch id record) ∧
        (fields = .omitted → positions = List.range reader.getAvailableRecordsSize) := by
  obtain ⟨positions, hgenerated, hincreasing, hmem⟩ :=
    exists_generateFilteredIndices fnmatch reader hself hnames htypes hsorted hlength fields
  have hrecords : ∀ i ∈ positions, ∃ id record, reader.record i = some (id, record) := by
    intro i hi
    obtain ⟨id, record, h, -⟩ := (hmem i).1 hi
    exact ⟨id, record, h⟩
  obtain ⟨filtered, hfiltered, hindices⟩ :=
    exists_filteredVRSReader reader hlength.le hgenerated hrecords
  refine ⟨filtered, hfiltered, positions, ?_, hincreasing, hmem, fun homitted => ?_⟩
  · rw [hindices, List.map_map]
    refine List.map_congr_left fun i hi => ?_
    obtain ⟨id, record, h⟩ := hrecords i hi
    have hlt := reader.lt_of_record h
    exact Int32.toInt_ofNat_of_lt (by omega)
  · subst homitted
    exact eq_range_of_selects fnmatch reader hincreasing hmem fun _ _ =>
      ⟨trivial, trivial, nofun, nofun⟩

end Exact

theorem filteredByFields_exact_of_reconfiguredFile :
    ∃ filtered, (VRSReader.init (.reader reconfiguredFile)).filteredByFields
        (fun name pattern => name = pattern)
        ⟨.none, .str "data", some (.ofRat 1), some (.ofRat 2)⟩ = .ok filtered ∧
      ∃ positions : List ℕ, filtered.filteredIndices.map Int32.toInt = positions.map Int.ofNat ∧
        positions.Pairwise (· < ·) ∧
        (∀ i, i ∈ positions ↔ ∃ id record,
          (NativeReader.reader reconfiguredFile).record i = some (id, record) ∧
          (⟨.none, .str "data", some (.ofRat 1), some (.ofRat 2)⟩ : FilterFields).Selects .bare
            (fun name pattern => name = pattern) id record) ∧
        ((⟨.none, .str "data", some (.ofRat 1), some (.ofRat 2)⟩ : FilterFields) = .omitted →
          positions = List.range 4) :=
  filteredByFields_exact (fun name pattern => name = pattern) (.reader reconfiguredFile)
    (by simp) (by decide +kernel) (fun type => by cases type <;> decide +kernel)
    (NativeReader.sortedByTimestamp_reader (by decide) (by decide)) (by decide)
    ⟨.none, .str "data", some (.ofRat 1), some (.ofRat 2)⟩

/-- With a NaN for the last timestamp all records are kept, none of which is at most NaN. -/
theorem not_filteredByFields_exact :
    ∃ filtered, (VRSReader.init (.reader reconfiguredFile)).filteredByFields
        (fun name pattern => name = pattern) ⟨.none, .none, none, some .nan⟩ = .ok filtered ∧
      filtered.filteredIndices = [0, 1, 2, 3] ∧
      ∀ record ∈ reconfiguredFile.index, ¬record.timestamp ≤ .nan := by
  obtain ⟨positions, hgenerated, hincreasing, hmem⟩ := exists_generateFilteredIndices
    (fun name pattern => name = pattern) (.reader reconfiguredFile) (by simp)
    (by decide +kernel) (fun type => by cases type <;> decide +kernel)
    (NativeReader.sortedByTimestamp_reader (by decide) (by decide)) (by decide)
    ⟨.none, .none, none, some .nan⟩
  have hall := eq_range_of_selects _ _ hincreasing hmem fun _ _ =>
    ⟨trivial, trivial, nofun, fun t ht hnum => by cases ht; exact hnum.elim⟩
  subst hall
  obtain ⟨filtered, hfiltered, hindices⟩ := exists_filteredVRSReader _ (by decide) hgenerated
    fun i hi => ((hmem i).1 hi).imp fun id h => h.imp fun record h => h.1
  exact ⟨filtered, hfiltered, hindices, by decide⟩

end Pyvrs
