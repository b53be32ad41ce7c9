import Mathlib.Data.Rat.Floor
import Pyvrs.Foundations.Bisect
import Pyvrs.Python.Filtering

/-!
# Looking up a time in a filtered reader

`get_record_index_by_time`, called without an epsilon, asks the reader of the whole file for a
record and bisects the filtered indices for it. The position found is right exactly when the record
of the whole file is one of the filtered ones, or lies before all of them and the first of them
answers the question too (`getRecordIndexByTime_correct_iff`).
-/

namespace Pyvrs

open Foundations

variable {L : VrsLib}

/-- A number rounded to an integer, halves to the even one. -/
def roundHalfEven (q : ℚ) : ℤ :=
  let below := ⌊q⌋
  let rest := q - below
  if rest < 1 / 2 then below
  else if 1 / 2 < rest then below + 1
  else if below % 2 = 0 then below
  else below + 1

/-- `std::to_string`, of a `double`. -/
def Timestamp.toString : Timestamp → String
  | .nan => "nan"
  | .num ⊥ => "-inf"
  | .num (some ⊤) => "inf"
  | .num (some (some q)) =>
    let millionths := (roundHalfEven (|q| * 10 ^ 6)).toNat
    let digits := ToString.toString (millionths % 10 ^ 6)
    (if q < 0 then "-" else "") ++ ToString.toString (millionths / 10 ^ 6) ++ "." ++
      "".pushn '0' (6 - digits.length) ++ digits

/-- What a call from Python raises: an exception of the bindings, that of an `assert`, or that of a
method that is missing. -/
inductive PythonError
  | assertionError
  | attributeError (message : String)
  | raised (e : PyError)
  deriving DecidableEq

namespace NativeReader

variable (self : NativeReader L)

/-- `getStreamId`. -/
def getStreamId : NativeReader L → String → Except PyError StreamId
  | reader F => OssVRSReader.getStreamId F
  | multiReader F => OssMultiVRSReader.getStreamId F

/-- `get_record_index_by_time`, of a stream and a type if one is given, where `getRecordByTime` is
that of vrs. -/
def getRecordIndexByTime
    (getRecordByTime : StreamId → Option RecordType → Timestamp → Option ℕ) (streamId : String)
    (recordType : Option RecordType) (timestamp : Timestamp) : Except PyError Int32 :=
  match self.getStreamId streamId with
  | .error e => .error e
  | .ok id =>
    match getRecordByTime id recordType timestamp with
    | none => .error (.valueError ("No record at timestamp " ++ timestamp.toString ++
        " in stream " ++ streamId))
    | some record => .ok (.ofNat record)

/-- The record at an index is one of a stream, of a type if one is given, and not before a time. -/
def IsAt (id : StreamId) (recordType : Option RecordType) (timestamp : Timestamp) (i : ℕ) : Prop :=
  ∃ record, self.record i = some (id, record) ∧
    (∀ type, recordType = some type → record.recordType = type) ∧ timestamp ≤ record.timestamp

/-- The record at an index is the first one. -/
def IsFirstAt (id : StreamId) (recordType : Option RecordType) (timestamp : Timestamp) (i : ℕ) :
    Prop :=
  self.IsAt id recordType timestamp i ∧ ∀ j < i, ¬self.IsAt id recordType timestamp j

/-- `getRecordByTime` finds the first record, or null when there is none. -/
structure FindsFirst (reader : NativeReader L)
    (getRecordByTime : StreamId → Option RecordType → Timestamp → Option ℕ) :
    Prop where
  isFirstAt : ∀ id recordType timestamp i, getRecordByTime id recordType timestamp = some i →
    reader.IsFirstAt id recordType timestamp i
  not_isAt : ∀ id recordType timestamp, getRecordByTime id recordType timestamp = none →
    ∀ i, ¬reader.IsAt id recordType timestamp i

/-- The first record, by looking through the file. -/
def scanByTime (id : StreamId) (recordType : Option RecordType) (timestamp : Timestamp) :
    Option ℕ :=
  (List.range self.getAvailableRecordsSize).find? fun i =>
    match self.record i with
    | none => false
    | some (id', record) =>
      id' = id ∧ (∀ type ∈ recordType, record.recordType = type) ∧ timestamp ≤ record.timestamp

variable {self}

theorem IsFirstAt.eq {id : StreamId} {recordType : Option RecordType} {timestamp : Timestamp}
    {i j : ℕ} (hi : self.IsFirstAt id recordType timestamp i)
    (hj : self.IsFirstAt id recordType timestamp j) : i = j := by
  have hle : ¬i < j := fun hlt => hj.2 i hlt hi.1
  have hle' : ¬j < i := fun hlt => hi.2 j hlt hj.1
  omega

end NativeReader

/-- `VRSReader.get_record_index_by_time`. -/
def VRSReader.getRecordIndexByTime (self : VRSReader L)
    (getRecordByTime : StreamId → Option RecordType → Timestamp → Option ℕ) (streamId : String)
    (timestamp : Timestamp) (recordType : Option RecordType) : Except PythonError Int32 :=
  if streamId ∉ self.streamIds then .error .assertionError
  else (self.reader.getRecordIndexByTime getRecordByTime streamId recordType timestamp).mapError
    .raised

namespace FilteredVRSReader

/-- `get_record_index_by_time`. -/
def getRecordIndexByTime (self : FilteredVRSReader L)
    (getRecordByTime : StreamId → Option RecordType → Timestamp → Option ℕ) (streamId : String)
    (timestamp : Timestamp) (recordType : Option RecordType) : Except PythonError ℤ :=
  if streamId ∉ self.recordFilter.streamIds then .error .assertionError
  else
    match self.reader.getRecordIndexByTime getRecordByTime streamId timestamp recordType with
    | .error e => .error e
    | .ok index =>
      .ok (max ((bisectRight (self.filteredIndices.map Int32.toInt) index.toInt : ℤ) - 1) 0)

/-- The positions in the file that the reader reads at its indices. -/
def positions (self : FilteredVRSReader L) : List ℕ := self.filteredIndices.map castUInt32

/-- The record at a filtered position is the first one of the filtered sequence. -/
def IsFirstAt (self : FilteredVRSReader L) (id : StreamId) (recordType : Option RecordType)
    (timestamp : Timestamp) (p : ℤ) : Prop :=
  ∃ k : ℕ, p = k ∧ k < self.nRecords ∧
    (∃ i, self.positions[k]? = some i ∧ self.reader.reader.IsAt id recordType timestamp i) ∧
    ∀ j < k, ∀ i, self.positions[j]? = some i →
      ¬self.reader.reader.IsAt id recordType timestamp i

/-- The answer is right: a position is that of the first record, and without a record there is an
exception. -/
structure AnswersWith (filtered : FilteredVRSReader L) (id : StreamId)
    (recordType : Option RecordType) (timestamp : Timestamp) (answer : Except PythonError ℤ) :
    Prop where
  isFirstAt : ∀ p, answer = .ok p → filtered.IsFirstAt id recordType timestamp p
  raises : (∀ i ∈ filtered.positions, ¬filtered.reader.reader.IsAt id recordType timestamp i) →
    ∃ e, answer = .error e

end FilteredVRSReader

/-! ## The filtered positions -/

/-- The loop that finds the enabled indices goes up. -/
theorem OssMultiVRSReader.exists_enabledIndices (F : MultiRecordFileReader L)
    (types : List RecordType) (ids : List StreamId)
    (minEnabledTimestamp maxEnabledTimestamp : Timestamp) (fuel start : ℕ) :
    ∃ positions : List ℕ,
      enabledIndices F types ids minEnabledTimestamp maxEnabledTimestamp fuel start =
        positions.map Int32.ofNat ∧
      positions.Pairwise (· < ·) ∧ ∀ i ∈ positions, start ≤ i ∧ i < start + fuel := by
  induction fuel generalizing start with
  | zero => exact ⟨[], rfl, List.Pairwise.nil, nofun⟩
  | succ fuel ih =>
    obtain ⟨positions, heq, hincreasing, hbounds⟩ := ih (start + 1)
    have hlater : ∀ i ∈ positions, start < i ∧ i < start + (fuel + 1) := fun i hi => by
      have := hbounds i hi
      omega
    have hnone : ∀ i ∈ ([] : List ℕ), start ≤ i ∧ i < start + (fuel + 1) := nofun
    unfold enabledIndices
    cases F.getRecord start with
    | none => exact ⟨[], rfl, List.Pairwise.nil, hnone⟩
    | some record =>
      simp only
      by_cases hlate : maxEnabledTimestamp < record.timestamp
      · rw [if_pos hlate]
        exact ⟨[], rfl, List.Pairwise.nil, hnone⟩
      · rw [if_neg hlate, heq]
        split
        · refine ⟨start :: positions, rfl, ?_, ?_⟩
          · exact List.pairwise_cons.2 ⟨fun i hi => (hlater i hi).1, hincreasing⟩
          · rw [List.forall_mem_cons]
            exact ⟨by omega, fun i hi => ⟨(hlater i hi).1.le, (hlater i hi).2⟩⟩
        · exact ⟨positions, rfl, hincreasing, fun i hi => ⟨(hlater i hi).1.le, (hlater i hi).2⟩⟩

theorem mem_streamIdSet {F : MultiRecordFileReader L} {names : List String} {ids : List StreamId}
    (h : OssMultiVRSReader.streamIdSet F names = .ok ids) {name : String} (hname : name ∈ names) :
    ∃ id, F.getStreamForName name = some id := by
  induction names generalizing ids with
  | nil => cases hname
  | cons first rest ih =>
    unfold OssMultiVRSReader.streamIdSet OssMultiVRSReader.getStreamId at h
    cases hfirst : F.getStreamForName first with
    | none =>
      rw [hfirst] at h
      cases h
    | some id =>
      rw [hfirst] at h
      rcases List.mem_cons.1 hname with rfl | hrest
      · exact ⟨id, hfirst⟩
      · cases hids : OssMultiVRSReader.streamIdSet F rest with
        | error e =>
          rw [hids] at h
          cases h
        | ok ids => exact ih hids hrest

/-- **What is known of a filtered reader**: it keeps its reader and its filter, the streams of the
filter are known, and its positions go up. -/
theorem FilteredVRSReader.init_eq_ok {reader : NativeReader L} {filter : RecordFilter}
    {filtered : FilteredVRSReader L}
    (h : FilteredVRSReader.init (VRSReader.init reader) filter = .ok filtered) :
    filtered.reader = VRSReader.init reader ∧ filtered.recordFilter = filter ∧
      (∀ name ∈ filter.streamIds, ∃ id, reader.getStreamForName name = some id) ∧
      ∃ positions : List ℕ, filtered.filteredIndices = positions.map Int32.ofNat ∧
        positions.Pairwise (· < ·) ∧ ∀ i ∈ positions, i < reader.getAvailableRecordsSize := by
  unfold FilteredVRSReader.init at h
  split at h
  · cases h
  rename_i indices hgenerated
  split at h
  · cases h
  split at h
  · cases h
  cases h
  refine ⟨rfl, rfl, ?_⟩
  have hregenerated : OssMultiVRSReader.regenerateEnabledIndices reader.files
      filter.recordTypes.sort filter.streamIds.sort filter.minTimestamp filter.maxTimestamp =
        .ok indices := by
    rw [← reader.regenerateEnabledIndices_eq]
    exact hgenerated
  unfold OssMultiVRSReader.regenerateEnabledIndices at hregenerated
  split at hregenerated
  · cases hregenerated
  rename_i ids hids
  rw [Except.ok.injEq] at hregenerated
  constructor
  · intro name hname
    rw [reader.getStreamForName_eq]
    exact mem_streamIdSet hids ((Finset.mem_sort _).2 hname)
  · obtain ⟨positions, hpositions, hincreasing, hbounds⟩ :=
      OssMultiVRSReader.exists_enabledIndices reader.files
        (filter.recordTypes.sort.map L.toRecordType) ids filter.minTimestamp filter.maxTimestamp
        reader.files.getRecordCount 0
    refine ⟨positions, hregenerated.symm.trans hpositions, hincreasing, fun i hi => ?_⟩
    rw [reader.getAvailableRecordsSize_eq]
    have := hbounds i hi
    omega

/-! ## The position found -/

section Bisect

variable {positions : List ℕ} (hincreasing : positions.Pairwise (· < ·)) {a : ℕ}

include hincreasing

theorem lt_bisectRight_natCast_iff {k i : ℕ} (h : positions[k]? = some i) :
    k < bisectRight (positions.map (Nat.cast : ℕ → ℤ)) a ↔ i ≤ a := by
  have hsorted : (positions.map (Nat.cast : ℕ → ℤ)).Pairwise (· ≤ ·) :=
    List.pairwise_map.2 (hincreasing.imp fun hlt => by omega)
  rw [lt_bisectRight_iff hsorted (y := (i : ℤ)) (by rw [List.getElem?_map, h]; rfl)]
  omega

/-- The position of `a` itself, when it is there. -/
theorem bisectRight_natCast_of_getElem? {k : ℕ} (h : positions[k]? = some a) :
    bisectRight (positions.map (Nat.cast : ℕ → ℤ)) a = k + 1 := by
  have hlt := (lt_bisectRight_natCast_iff hincreasing (a := a) h).2 le_rfl
  by_contra hne
  have hlength : bisectRight (positions.map (Nat.cast : ℕ → ℤ)) a ≤ positions.length := by
    have hsorted : (positions.map (Nat.cast : ℕ → ℤ)).Pairwise (· ≤ ·) :=
      List.pairwise_map.2 (hincreasing.imp fun hlt => by omega)
    have hle := (splits_bisectRight hsorted (a : ℤ)).le_length
    rwa [List.length_map] at hle
  have hnext : k + 1 < positions.length := by omega
  have hle := (lt_bisectRight_natCast_iff hincreasing (a := a)
    (List.getElem?_eq_getElem hnext)).1 (by omega)
  obtain ⟨hk, hka⟩ := List.getElem?_eq_some_iff.1 h
  have hless := List.pairwise_iff_getElem.1 hincreasing k (k + 1) hk hnext (by omega)
  omega

end Bisect

namespace FilteredVRSReader

/-- A reader of the whole file finds a record that the filtered reader has, or that lies before all
of its records, of which the first one is another answer. -/
def Answers (self : FilteredVRSReader L) (id : StreamId) (recordType : Option RecordType)
    (timestamp : Timestamp) (a : ℕ) : Prop :=
  a ∈ self.positions ∨ ∃ first, self.positions.head? = some first ∧ a < first ∧
    self.reader.reader.IsAt id recordType timestamp first

/-- Positions that an `int32_t` holds are looked up as they are. -/
theorem positions_eq {filtered : FilteredVRSReader L} {positions : List ℕ}
    (hindices : filtered.filteredIndices = positions.map Int32.ofNat)
    (hbounds : ∀ i ∈ positions, i < 2 ^ 31) :
    filtered.positions = positions ∧ filtered.nRecords = positions.length ∧
      filtered.filteredIndices.map Int32.toInt = positions.map (Nat.cast : ℕ → ℤ) := by
  unfold FilteredVRSReader.positions nRecords
  rw [hindices, List.map_map, List.map_map, List.length_map]
  refine ⟨?_, rfl, ?_⟩
  · refine (List.map_congr_left fun i hi => ?_).trans (List.map_id positions)
    have := hbounds i hi
    exact castUInt32_ofNat (by omega)
  · exact List.map_congr_left fun i hi => Int32.toInt_ofNat_of_lt (hbounds i hi)

variable {filtered : FilteredVRSReader L} {positions : List ℕ}
  (hincreasing : positions.Pairwise (· < ·)) (hpositions : filtered.positions = positions)
  (hrecords : filtered.nRecords = positions.length) {id : StreamId}
  {recordType : Option RecordType} {timestamp : Timestamp} {a : ℕ}
  (ha : filtered.reader.reader.IsFirstAt id recordType timestamp a)

include hincreasing hpositions hrecords ha

/-- **The position to the left of the bisection** is that of the first record exactly when the
record of the whole file is among the filtered ones, or before all of them with the first of them
another answer. -/
theorem isFirstAt_bisect_iff :
    filtered.IsFirstAt id recordType timestamp
        (max ((bisectRight (positions.map (Nat.cast : ℕ → ℤ)) a : ℤ) - 1) 0) ↔
      filtered.Answers id recordType timestamp a := by
  unfold IsFirstAt Answers
  rw [hpositions, hrecords]
  constructor
  · rintro ⟨k, hk, hlt, ⟨i, hi, hat⟩, -⟩
    have hle : a ≤ i := by
      by_contra hlt
      exact ha.2 i (by omega) hat
    by_cases hbelow : k < bisectRight (positions.map (Nat.cast : ℕ → ℤ)) a
    · have hia := (lt_bisectRight_natCast_iff hincreasing hi).1 hbelow
      have heq : i = a := by omega
      exact .inl (heq ▸ List.mem_of_getElem? hi)
    · -- No position is at or before the record of the whole file.
      have hzero : k = 0 := by omega
      subst hzero
      have hia : ¬i ≤ a := fun hia =>
        hbelow ((lt_bisectRight_natCast_iff hincreasing hi).2 hia)
      exact .inr ⟨i, by rw [List.head?_eq_getElem?, hi], by omega, hat⟩
  · rintro (hmem | ⟨first, hfirst, hafter, hat⟩)
    · obtain ⟨k, hk⟩ := List.mem_iff_getElem?.1 hmem
      obtain ⟨hlt, -⟩ := List.getElem?_eq_some_iff.1 hk
      refine ⟨k, ?_, hlt, ⟨a, hk, ha.1⟩, fun j hj i hi hat => ?_⟩
      · rw [bisectRight_natCast_of_getElem? hincreasing hk]
        omega
      · obtain ⟨hjlt, rfl⟩ := List.getElem?_eq_some_iff.1 hi
        obtain ⟨hklt, hka⟩ := List.getElem?_eq_some_iff.1 hk
        have hless := List.pairwise_iff_getElem.1 hincreasing j k hjlt hklt hj
        exact ha.2 _ (by omega) hat
    · rw [List.head?_eq_getElem?] at hfirst
      obtain ⟨hlt, -⟩ := List.getElem?_eq_some_iff.1 hfirst
      have hzero : ¬0 < bisectRight (positions.map (Nat.cast : ℕ → ℤ)) a := fun hpos => by
        have := (lt_bisectRight_natCast_iff hincreasing hfirst).1 hpos
        omega
      refine ⟨0, by omega, hlt, ⟨first, hfirst, hat⟩, fun j hj => absurd hj (Nat.not_lt_zero j)⟩

omit hincreasing hpositions hrecords ha in
theorem answersWith_error (e : PythonError) :
    filtered.AnswersWith id recordType timestamp (.error e) where
  isFirstAt _ h := by cases h
  raises _ := ⟨e, rfl⟩

omit hincreasing hpositions hrecords ha in
theorem answersWith_ok_iff {p : ℤ} :
    filtered.AnswersWith id recordType timestamp (.ok p) ↔
      filtered.IsFirstAt id recordType timestamp p := by
  refine ⟨fun h => h.isFirstAt p rfl, fun h => ⟨?_, fun hnone => ?_⟩⟩
  · rintro p' ⟨⟩
    exact h
  · obtain ⟨k, -, -, ⟨i, hi, hat⟩, -⟩ := h
    exact absurd hat (hnone i (List.mem_of_getElem? hi))

end FilteredVRSReader

/-- What the reader of the whole file answers for one of its streams. -/
theorem VRSReader.getRecordIndexByTime_of_mem {reader : NativeReader L} {streamId : String}
    {id : StreamId} (havailable : streamId ∈ reader.getAvailableStreamIds)
    (hid : reader.getStreamForName streamId = some id)
    (getRecordByTime : StreamId → Option RecordType → Timestamp → Option ℕ)
    (timestamp : Timestamp) (recordType : Option RecordType) :
    (VRSReader.init reader).getRecordIndexByTime getRecordByTime streamId timestamp recordType =
      match getRecordByTime id recordType timestamp with
      | none => .error (.raised (.valueError ("No record at timestamp " ++ timestamp.toString ++
          " in stream " ++ streamId)))
      | some record => .ok (.ofNat record) := by
  have hgetStreamId : reader.getStreamId streamId = .ok id := by
    cases reader with
    | reader F =>
      show OssVRSReader.getStreamId F streamId = _
      rw [OssVRSReader.getStreamId, show F.getStreamForName streamId = some id from hid]
    | multiReader F =>
      show OssMultiVRSReader.getStreamId F streamId = _
      rw [OssMultiVRSReader.getStreamId, show F.getStreamForName streamId = some id from hid]
  have hstreamIds : streamId ∈ (init reader).streamIds := havailable
  rw [getRecordIndexByTime, if_neg (not_not.2 hstreamIds)]
  show (reader.getRecordIndexByTime _ _ _ _).mapError _ = _
  rw [NativeReader.getRecordIndexByTime, hgetStreamId]
  simp only
  cases getRecordByTime id recordType timestamp <;> rfl

/-- **A time is found in a filtered reader exactly when the record found in the whole file is one of
the filtered ones**, or lies before all of them and the first of them is on the stream, of the type
and not before the time as well; or when there is no record to be found in the file. -/
theorem getRecordIndexByTime_correct_iff (reader : NativeReader L)
    (getRecordByTime : StreamId → Option RecordType → Timestamp → Option ℕ)
    (hfinds : reader.FindsFirst getRecordByTime)
    (hlength : reader.getAvailableRecordsSize ≤ 2 ^ 31) (filter : RecordFilter)
    (filtered : FilteredVRSReader L)
    (hfiltered : FilteredVRSReader.init (VRSReader.init reader) filter = .ok filtered)
    (streamId : String) (hstream : streamId ∈ filter.streamIds) (timestamp : Timestamp)
    (recordType : Option RecordType) :
    ∃ id, reader.getStreamForName streamId = some id ∧
      (filtered.AnswersWith id recordType timestamp
          (filtered.getRecordIndexByTime getRecordByTime streamId timestamp recordType) ↔
        streamId ∉ reader.getAvailableStreamIds ∨
          ∀ a, reader.IsFirstAt id recordType timestamp a →
            filtered.Answers id recordType timestamp a) := by
  obtain ⟨hreader, hfilter, hnames, positions, hindices, hincreasing, hbounds⟩ :=
    FilteredVRSReader.init_eq_ok hfiltered
  obtain ⟨id, hid⟩ := hnames streamId hstream
  refine ⟨id, hid, ?_⟩
  obtain ⟨hpositions, hrecords, hints⟩ :=
    FilteredVRSReader.positions_eq hindices fun i hi => (hbounds i hi).trans_le hlength
  have hanswer : filtered.getRecordIndexByTime getRecordByTime streamId timestamp recordType =
      match (VRSReader.init reader).getRecordIndexByTime getRecordByTime streamId timestamp
        recordType with
      | .error e => .error e
      | .ok index =>
        .ok (max ((bisectRight (positions.map (Nat.cast : ℕ → ℤ)) index.toInt : ℤ) - 1) 0) := by
    rw [FilteredVRSReader.getRecordIndexByTime, hfilter, if_neg (not_not.2 hstream), hreader,
      hints]
  rw [hanswer]
  by_cases havailable : streamId ∈ reader.getAvailableStreamIds
  · rw [or_iff_right (not_not.2 havailable), VRSReader.getRecordIndexByTime_of_mem havailable hid]
    cases hfound : getRecordByTime id recordType timestamp with
    | none =>
      refine iff_of_true (FilteredVRSReader.answersWith_error _) fun a ha => ?_
      exact absurd ha.1 (hfinds.not_isAt id recordType timestamp hfound a)
    | some a =>
      have hfirst := hfinds.isFirstAt id recordType timestamp a hfound
      have ha : (Int32.ofNat a).toInt = a := by
        obtain ⟨record, hrecord, -⟩ := hfirst.1
        have := reader.lt_of_record hrecord
        exact Int32.toInt_ofNat_of_lt (by omega)
      have hfirst' : filtered.reader.reader.IsFirstAt id recordType timestamp a := by
        rw [hreader]
        exact hfirst
      simp only [ha]
      rw [FilteredVRSReader.answersWith_ok_iff,
        FilteredVRSReader.isFirstAt_bisect_iff hincreasing hpositions hrecords hfirst']
      exact ⟨fun h a' ha' => ha'.eq hfirst ▸ h, fun h => h a hfirst⟩
  · have hstreamIds : streamId ∉ (VRSReader.init reader).streamIds := havailable
    rw [VRSReader.getRecordIndexByTime, if_pos hstreamIds]
    exact iff_of_true (FilteredVRSReader.answersWith_error _) (.inl havailable)

/-- Looking through the file is one way to find the first record. -/
theorem NativeReader.findsFirst_scanByTime (reader : NativeReader L) :
    reader.FindsFirst reader.scanByTime := by
  have hscan : ∀ id recordType timestamp i, (match reader.record i with
      | none => false
      | some (id', record) => decide (id' = id ∧ (∀ type ∈ recordType, record.recordType = type) ∧
          timestamp ≤ record.timestamp)) = true ↔ reader.IsAt id recordType timestamp i := by
    intro id recordType timestamp i
    unfold IsAt
    cases reader.record i with
    | none => simp
    | some entry =>
      obtain ⟨id', record⟩ := entry
      simp only [decide_eq_true_eq, Option.some.injEq, Prod.mk.injEq, Option.mem_def]
      constructor
      · rintro ⟨rfl, htype, htime⟩
        exact ⟨record, ⟨rfl, rfl⟩, htype, htime⟩
      · rintro ⟨record, ⟨rfl, rfl⟩, htype, htime⟩
        exact ⟨rfl, htype, htime⟩
  constructor
  · intro id recordType timestamp i h
    obtain ⟨hi, -, hbefore⟩ := List.find?_range_eq_some.1 h
    refine ⟨(hscan id recordType timestamp i).1 hi, fun j hj hat => ?_⟩
    have hnot := hbefore j hj
    rw [(hscan id recordType timestamp j).2 hat] at hnot
    cases hnot
  · intro id recordType timestamp h i hat
    have hlt : i < reader.getAvailableRecordsSize := by
      obtain ⟨record, hrecord, -⟩ := hat
      exact reader.lt_of_record hrecord
    have hnot := List.find?_eq_none.1 h i (List.mem_range.2 hlt)
    exact hnot ((hscan _ recordType timestamp i).2 hat)

/-- The configuration records of a file of which every other record is one. -/
def configurationFilter : RecordFilter :=
  ⟨{"configuration"}, {"1201-1"}, .ofRat 0, .ofRat 3⟩

theorem init_configurationFilter :
    FilteredVRSReader.init (VRSReader.init (.reader reconfiguredFile)) configurationFilter =
      .ok ⟨VRSReader.init (.reader reconfiguredFile), configurationFilter, [0, 2], .ofRat 0,
        .ofRat 2⟩ := by
  have hgenerated : (VRSReader.init (.reader reconfiguredFile)).generateFilteredIndices
      configurationFilter = .ok [0, 2] := by
    show OssVRSReader.regenerateEnabledIndices reconfiguredFile (Finset.sort {"configuration"})
      (Finset.sort {"1201-1"}) _ _ = _
    rw [Finset.sort_singleton, Finset.sort_singleton]
    decide +kernel
  unfold FilteredVRSReader.init
  rw [hgenerated]
  rfl

theorem getRecordIndexByTime_correct_iff_of_configurationFilter :
    ∃ id, reconfiguredFile.getStreamForName "1201-1" = some id ∧
      (FilteredVRSReader.AnswersWith ⟨VRSReader.init (.reader reconfiguredFile),
          configurationFilter, [0, 2], .ofRat 0, .ofRat 2⟩ id (some .configuration) (.ofRat 1)
          (FilteredVRSReader.getRecordIndexByTime ⟨VRSReader.init (.reader reconfiguredFile),
            configurationFilter, [0, 2], .ofRat 0, .ofRat 2⟩
            (NativeReader.reader reconfiguredFile).scanByTime "1201-1" (.ofRat 1)
            (some .configuration)) ↔
        "1201-1" ∉ (NativeReader.reader reconfiguredFile).getAvailableStreamIds ∨
          ∀ a, (NativeReader.reader reconfiguredFile).IsFirstAt id (some .configuration)
            (.ofRat 1) a →
              FilteredVRSReader.Answers ⟨VRSReader.init (.reader reconfiguredFile),
                configurationFilter, [0, 2], .ofRat 0, .ofRat 2⟩ id (some .configuration)
                (.ofRat 1) a) :=
  getRecordIndexByTime_correct_iff (.reader reconfiguredFile)
    (NativeReader.reader reconfiguredFile).scanByTime (NativeReader.findsFirst_scanByTime _)
    (by decide) configurationFilter _ init_configurationFilter "1201-1" (by decide) (.ofRat 1)
    (some .configuration)

/-- Asked for a time after the first configuration record and before the first data record, a reader
of the configuration records answers with the former. -/
theorem not_getRecordIndexByTime_correct :
    ∃ filtered, FilteredVRSReader.init (VRSReader.init (.reader reconfiguredFile))
        configurationFilter = .ok filtered ∧
      ¬filtered.AnswersWith ⟨1201, 1⟩ none (.ofRat (1 / 2))
        (filtered.getRecordIndexByTime (NativeReader.reader reconfiguredFile).scanByTime "1201-1"
          (.ofRat (1 / 2)) none) := by
  refine ⟨_, init_configurationFilter, ?_⟩
  have hanswer : FilteredVRSReader.getRecordIndexByTime
      ⟨VRSReader.init (.reader reconfiguredFile), configurationFilter, [0, 2], .ofRat 0, .ofRat 2⟩
      (NativeReader.reader reconfiguredFile).scanByTime "1201-1" (.ofRat (1 / 2)) none = .ok 0 := by
    decide +kernel
  rw [hanswer, FilteredVRSReader.answersWith_ok_iff]
  rintro ⟨k, hk, -, ⟨i, hi, record, hrecord, -, htime⟩, -⟩
  have hzero : k = 0 := by omega
  subst hzero
  cases hi
  cases hrecord
  exact absurd htime (by decide +kernel)

end Pyvrs
