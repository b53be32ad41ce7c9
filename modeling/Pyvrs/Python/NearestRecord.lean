import Mathlib.Data.List.MinMax
import Pyvrs.Python.NeighbourRecords
import Pyvrs.Python.RecordIndexByTime

/-!
# The record nearest to a time

`get_record_index_by_time` and `read_record_by_time` of a reader of the whole file look for the
record nearest to a time when they are called with an epsilon, and for the first record from that
time on when they are not: but it is the truth value of epsilon that they test, so that an epsilon
of 0 counts as none. The answers respect an epsilon exactly when it is not 0, or when the first
record from the time on is at that very time (`respectsTolerance_iff`), as long as the stream is one
of the reader's, the record is at a position that an `int` holds, and the reader is a synchronous
one, since there is no `read_record` to call in the others.
-/

namespace Pyvrs

open Foundations

variable {L : VrsLib}

/-! ## Distances -/

/-- The distance between two timestamps, which is that of the numbers; an infinity is at distance 0
from itself. -/
def Timestamp.dist : Timestamp → Timestamp → Timestamp
  | .num (some (some p)), .num (some (some q)) => .ofRat |p - q|
  | .num x, .num y => if x = y then .ofRat 0 else .num ((⊤ : WithTop ℚ) : WithBot (WithTop ℚ))
  | _, _ => .nan

/-! ## The calls -/

/-- A `SyncVRSReader` or an `AsyncVRSReader`, with its native reader open. -/
inductive WholeFileReader (L : VrsLib)
  | sync (reader : OpenReader L)
  | async (reader : NativeReader L)

/-- What vrs makes known of the files. -/
def OpenReader.native : OpenReader L → NativeReader L
  | reader F _ _ => .reader F
  | multiReader F _ _ => .multiReader F

/-- `getRecordByTime` and `getNearestRecordByTime` of vrs: the records they point to. -/
structure TimeSearch where
  getRecordByTime : StreamId → Option RecordType → Timestamp → Option ℕ
  getNearestRecordByTime : StreamId → Option RecordType → Timestamp → Timestamp → Option ℕ

/-- `get_nearest_record_index_by_time`, of a stream and a type if one is given. -/
def NativeReader.getNearestRecordIndexByTime (self : NativeReader L) (search : TimeSearch)
    (timestamp epsilon : Timestamp) (streamId : String) (recordType : Option RecordType) :
    Except PyError Int32 :=
  match self.getStreamId streamId with
  | .error e => .error e
  | .ok id =>
    match search.getNearestRecordByTime id recordType timestamp epsilon with
    | none => .error (.timestampNotFoundError timestamp epsilon id (recordType.getD .undefined))
    | some record => .ok (.ofNat record)

namespace WholeFileReader

variable (self : WholeFileReader L) (search : TimeSearch)

/-- The native reader. -/
def native : WholeFileReader L → NativeReader L
  | sync reader => reader.native
  | async reader => reader

/-- The search that both calls make: `if epsilon` is false of 0.0. -/
def searchByTime (streamId : String) (timestamp : Timestamp) (epsilon : Option Timestamp)
    (recordType : Option RecordType) : Except PyError Int32 :=
  match epsilon with
  | none => self.native.getRecordIndexByTime search.getRecordByTime streamId recordType timestamp
  | some epsilon =>
    if epsilon = .ofRat 0 then
      self.native.getRecordIndexByTime search.getRecordByTime streamId recordType timestamp
    else self.native.getNearestRecordIndexByTime search timestamp epsilon streamId recordType

/-- `get_record_index_by_time`. -/
def getRecordIndexByTime (streamId : String) (timestamp : Timestamp) (epsilon : Option Timestamp)
    (recordType : Option RecordType) : Except PythonError Int32 :=
  if streamId ∉ (VRSReader.init self.native).streamIds then .error .assertionError
  else (self.searchByTime search streamId timestamp epsilon recordType).mapError .raised

/-- `self._reader.read_record(index)`. -/
def readRecord (index : Int32) : Except PythonError (PyRecord L) :=
  match self with
  | sync reader => (reader.readRecord index).1.mapError .raised
  | async (.reader _) =>
    .error (.attributeError "'vrsbindings.AsyncReader' object has no attribute 'read_record'")
  | async (.multiReader _) =>
    .error (.attributeError "'vrsbindings.AsyncMultiReader' object has no attribute 'read_record'")

/-- `read_record_by_time`. -/
def readRecordByTime (streamId : String) (timestamp : Timestamp) (epsilon : Option Timestamp)
    (recordType : Option RecordType) : Except PythonError (PyRecord L) :=
  match self.searchByTime search streamId timestamp epsilon recordType with
  | .error e => .error (.raised e)
  | .ok index => self.readRecord index

end WholeFileReader

/-! ## Records within a tolerance -/

namespace NativeReader

variable (self : NativeReader L)

/-- The record at an index is one of a stream, of a type if one is given, and within a distance of
a time. -/
def IsWithin (id : StreamId) (recordType : Option RecordType) (timestamp epsilon : Timestamp)
    (i : ℕ) : Prop :=
  ∃ record, self.record i = some (id, record) ∧
    (∀ type, recordType = some type → record.recordType = type) ∧
    timestamp.dist record.timestamp ≤ epsilon

/-- None of these records is nearer than that at an index. -/
def IsNearest (id : StreamId) (recordType : Option RecordType) (timestamp epsilon : Timestamp)
    (i : ℕ) : Prop :=
  self.IsWithin id recordType timestamp epsilon i ∧
    ∀ j, self.IsWithin id recordType timestamp epsilon j →
      ∀ record other, self.record i = some (id, record) → self.record j = some (id, other) →
        timestamp.dist record.timestamp ≤ timestamp.dist other.timestamp

/-- `getNearestRecordByTime` finds one of the nearest records, or null when there is none. -/
structure FindsNearest (reader : NativeReader L) (search : TimeSearch) : Prop where
  isNearest : ∀ id recordType timestamp epsilon i, .ofRat 0 ≤ epsilon →
    search.getNearestRecordByTime id recordType timestamp epsilon = some i →
    reader.IsNearest id recordType timestamp epsilon i
  not_isWithin : ∀ id recordType timestamp epsilon, .ofRat 0 ≤ epsilon →
    search.getNearestRecordByTime id recordType timestamp epsilon = none →
    ∀ i, ¬reader.IsWithin id recordType timestamp epsilon i

end NativeReader

/-! ## Distance 0 -/

namespace Timestamp

theorem ofRat_le_ofRat {p q : ℚ} : ofRat p ≤ ofRat q ↔ p ≤ q :=
  WithBot.coe_le_coe.trans WithTop.coe_le_coe

theorem dist_self {t : Timestamp} (h : t.IsNum) : t.dist t = .ofRat 0 := by
  obtain ⟨x, rfl⟩ := h.exists_eq_num
  match x with
  | some (some q) => simp [dist]
  | some ⊤ => rfl
  | ⊥ => rfl

/-- **Only a timestamp itself is at distance 0.** -/
theorem dist_le_zero_iff {t u : Timestamp} : t.dist u ≤ .ofRat 0 ↔ t.IsNum ∧ u = t := by
  fun_cases dist t u with
  | case1 p q =>
    rw [ofRat_le_ofRat, abs_nonpos_iff, sub_eq_zero]
    constructor
    · rintro rfl
      exact ⟨trivial, rfl⟩
    · rintro ⟨-, ⟨⟩⟩
      rfl
  | case2 y => exact iff_of_true (ofRat_le_ofRat.2 le_rfl) ⟨trivial, rfl⟩
  | case3 x y _ hne =>
    refine iff_of_false (fun h => ?_) fun h => hne (WithNaN.num.inj h.2).symm
    exact absurd (WithBot.coe_le_coe.1 h) (not_le.2 (WithTop.coe_lt_top 0))
  | case4 _ _ _ hnot =>
    refine iff_of_false id fun h => ?_
    obtain ⟨x, hx⟩ := h.1.exists_eq_num
    exact hnot x x hx (h.2.trans hx)

end Timestamp

theorem NativeReader.getStreamId_eq (self : NativeReader L) (streamId : String) :
    self.getStreamId streamId =
      match self.getStreamForName streamId with
      | some id => .ok id
      | none => .error (streamNotFoundError L streamId self.streams) := by
  cases self <;> rfl

/-- The position of a record is a `uint32_t`. -/
theorem NativeReader.lt_of_record_of (self : NativeReader L) {i : ℕ} {id : StreamId}
    {record : RecordInfo} (h : self.record i = some (id, record)) : i < 2 ^ 32 := by
  have hlt := self.lt_of_record h
  rw [self.getAvailableRecordsSize_eq] at hlt
  exact hlt.trans self.files.length_records_lt

section Nearest

variable {reader : NativeReader L} {id : StreamId} {recordType : Option RecordType}
  {timestamp : Timestamp}

theorem NativeReader.isWithin_zero_iff {i : ℕ} :
    reader.IsWithin id recordType timestamp (.ofRat 0) i ↔
      timestamp.IsNum ∧ ∃ record, reader.record i = some (id, record) ∧
        (∀ type, recordType = some type → record.recordType = type) ∧
        record.timestamp = timestamp := by
  unfold IsWithin
  simp only [Timestamp.dist_le_zero_iff]
  constructor
  · rintro ⟨record, hrecord, htype, hnum, htime⟩
    exact ⟨hnum, record, hrecord, htype, htime⟩
  · rintro ⟨hnum, record, hrecord, htype, htime⟩
    exact ⟨record, hrecord, htype, hnum, htime⟩

/-- Of records at the time itself, none is nearer than another. -/
theorem NativeReader.isNearest_zero_iff {i : ℕ} :
    reader.IsNearest id recordType timestamp (.ofRat 0) i ↔
      reader.IsWithin id recordType timestamp (.ofRat 0) i := by
  refine ⟨And.left, fun h => ⟨h, fun j hj record other hrecord hother => ?_⟩⟩
  obtain ⟨hnum, record', hrecord', -, htime⟩ := isWithin_zero_iff.1 h
  obtain ⟨-, other', hother', -, htime'⟩ := isWithin_zero_iff.1 hj
  cases hrecord.symm.trans hrecord'
  cases hother.symm.trans hother'
  rw [htime, htime', Timestamp.dist_self hnum]
  exact Timestamp.ofRat_le_ofRat.2 le_rfl

end Nearest

/-! ## Answers -/

namespace WholeFileReader

variable (self : WholeFileReader L) (search : TimeSearch) (streamId : String)
  (timestamp epsilon : Timestamp) (recordType : Option RecordType)

/-- Both calls designate the record at an index: it is returned, and read. -/
structure Designates (i : ℕ) : Prop where
  index_eq : ∃ index, self.getRecordIndexByTime search streamId timestamp (some epsilon)
    recordType = .ok index ∧ index.toInt = i
  reads : ∃ reader, self = .sync reader ∧
    self.readRecordByTime search streamId timestamp (some epsilon) recordType =
      (reader.readRecord (.ofNat i)).1.mapError .raised

/-- Both calls raise `TimestampNotFoundError`. -/
def NotFound : Prop :=
  ∃ e : PyError, e.kind = .timestampNotFoundError ∧
    self.getRecordIndexByTime search streamId timestamp (some epsilon) recordType =
      .error (.raised e) ∧
    self.readRecordByTime search streamId timestamp (some epsilon) recordType = .error (.raised e)

/-- **The tolerance is respected**: both calls designate one of the records that are nearest within
it, and raise `TimestampNotFoundError` where there is none. -/
def RespectsTolerance : Prop :=
  (∃ id i, self.native.getStreamForName streamId = some id ∧
    self.native.IsNearest id recordType timestamp epsilon i ∧
    self.Designates search streamId timestamp epsilon recordType i) ∨
  (∀ id, self.native.getStreamForName streamId = some id →
    ∀ i, ¬self.native.IsWithin id recordType timestamp epsilon i) ∧
    self.NotFound search streamId timestamp epsilon recordType

/-- The position of the record is an `int`, and there is a way to read it. -/
def Readable (i : ℕ) : Prop :=
  i < 2 ^ 31 ∧ ∃ reader, self = .sync reader

/-- The stream is one of the reader's; and the epsilon is not 0 and what vrs finds is readable, or
it is 0 and the first record from the time on is at that time, and readable. -/
def WithinReach : Prop :=
  streamId ∈ self.native.getAvailableStreamIds ∧
    ∃ id, self.native.getStreamForName streamId = some id ∧
      if epsilon = .ofRat 0 then
        ∃ i record, self.native.IsFirstAt id recordType timestamp i ∧
          self.native.record i = some (id, record) ∧ record.timestamp = timestamp ∧
          self.Readable i
      else ∀ i, search.getNearestRecordByTime id recordType timestamp epsilon = some i →
        self.Readable i

variable {self search streamId timestamp epsilon recordType}

/-- What the calls answer to what the search finds. -/
theorem getRecordIndexByTime_of_mem (havailable : streamId ∈ self.native.getAvailableStreamIds) :
    self.getRecordIndexByTime search streamId timestamp (some epsilon) recordType =
      (self.searchByTime search streamId timestamp (some epsilon) recordType).mapError .raised := by
  have hstreamIds : streamId ∈ (VRSReader.init self.native).streamIds := havailable
  rw [getRecordIndexByTime, if_neg (not_not.2 hstreamIds)]

/-- An index that is found designates the record at its position, where that is readable. -/
theorem designates_iff {i j : ℕ} (havailable : streamId ∈ self.native.getAvailableStreamIds)
    (hlt : i < 2 ^ 32)
    (hsearch : self.searchByTime search streamId timestamp (some epsilon) recordType =
      .ok (.ofNat i)) :
    self.Designates search streamId timestamp epsilon recordType j ↔ j = i ∧ self.Readable i := by
  have hindex : self.getRecordIndexByTime search streamId timestamp (some epsilon) recordType =
      .ok (.ofNat i) := by
    rw [getRecordIndexByTime_of_mem havailable, hsearch]
    rfl
  have hread : self.readRecordByTime search streamId timestamp (some epsilon) recordType =
      self.readRecord (.ofNat i) := by
    rw [readRecordByTime, hsearch]
  constructor
  · rintro ⟨⟨index, hanswer, hj⟩, reader, hsync, -⟩
    cases hindex.symm.trans hanswer
    -- The position is what an `int` makes of it.
    have hcast := castUInt32_emod (.ofNat i)
    rw [castUInt32_ofNat hlt] at hcast
    have hsmall := Int32.toInt_lt (.ofNat i)
    have hij : j = i := by omega
    exact ⟨hij, by omega, reader, hsync⟩
  · rintro ⟨rfl, hsmall, reader, hsync⟩
    refine ⟨⟨_, hindex, Int32.toInt_ofNat_of_lt hsmall⟩, reader, hsync, ?_⟩
    rw [hread, hsync]
    rfl

/-- Where the search raises another exception, the tolerance is not respected. -/
theorem not_respectsTolerance_of_error {e : PythonError}
    (hanswer : self.getRecordIndexByTime search streamId timestamp (some epsilon) recordType =
      .error e) (he : ∀ e', e = .raised e' → e'.kind ≠ .timestampNotFoundError) :
    ¬self.RespectsTolerance search streamId timestamp epsilon recordType := by
  rintro (⟨_, _, -, -, ⟨_, hok, -⟩, -⟩ | ⟨-, e', hkind, herror, -⟩)
  · cases hanswer.symm.trans hok
  · cases hanswer.symm.trans herror
    exact he e' rfl hkind

theorem notFound_of_error (havailable : streamId ∈ self.native.getAvailableStreamIds)
    {e : PyError}
    (hsearch : self.searchByTime search streamId timestamp (some epsilon) recordType = .error e)
    (hkind : e.kind = .timestampNotFoundError) :
    self.NotFound search streamId timestamp epsilon recordType := by
  refine ⟨e, hkind, ?_, ?_⟩
  · rw [getRecordIndexByTime_of_mem havailable, hsearch]
    rfl
  · rw [readRecordByTime, hsearch]

/-- Where the search finds an index, the tolerance is respected if it is that of a nearest record,
and readable. -/
theorem respectsTolerance_of_ok_iff {id : StreamId} {i : ℕ}
    (havailable : streamId ∈ self.native.getAvailableStreamIds)
    (hid : self.native.getStreamForName streamId = some id) (hlt : i < 2 ^ 32)
    (hsearch : self.searchByTime search streamId timestamp (some epsilon) recordType =
      .ok (.ofNat i)) :
    self.RespectsTolerance search streamId timestamp epsilon recordType ↔
      self.native.IsNearest id recordType timestamp epsilon i ∧ self.Readable i := by
  constructor
  · rintro (⟨id', j, hid', hnearest, hdesignates⟩ | ⟨-, e, -, herror, -⟩)
    · cases hid.symm.trans hid'
      obtain ⟨rfl, hreadable⟩ := (designates_iff havailable hlt hsearch).1 hdesignates
      exact ⟨hnearest, hreadable⟩
    · rw [getRecordIndexByTime_of_mem havailable, hsearch] at herror
      cases herror
  · rintro ⟨hnearest, hreadable⟩
    exact .inl ⟨id, i, hid, hnearest, (designates_iff havailable hlt hsearch).2 ⟨rfl, hreadable⟩⟩

/-- The search without an epsilon, which is that of an epsilon of 0. -/
theorem searchByTime_zero {id : StreamId}
    (hid : self.native.getStreamForName streamId = some id) :
    self.searchByTime search streamId timestamp (some (.ofRat 0)) recordType =
      match search.getRecordByTime id recordType timestamp with
      | none => .error (.valueError ("No record at timestamp " ++ timestamp.toString ++
          " in stream " ++ streamId))
      | some i => .ok (.ofNat i) := by
  have hgetStreamId := self.native.getStreamId_eq streamId
  rw [hid] at hgetStreamId
  unfold searchByTime NativeReader.getRecordIndexByTime
  cases hfound : search.getRecordByTime id recordType timestamp with
  | none => simp only [↓reduceIte, hgetStreamId, hfound]
  | some i => simp only [↓reduceIte, hgetStreamId, hfound]

/-- The search with another epsilon. -/
theorem searchByTime_of_ne {id : StreamId}
    (hid : self.native.getStreamForName streamId = some id) (hne : epsilon ≠ .ofRat 0) :
    self.searchByTime search streamId timestamp (some epsilon) recordType =
      match search.getNearestRecordByTime id recordType timestamp epsilon with
      | none => .error (.timestampNotFoundError timestamp epsilon id (recordType.getD .undefined))
      | some i => .ok (.ofNat i) := by
  have hgetStreamId := self.native.getStreamId_eq streamId
  rw [hid] at hgetStreamId
  unfold searchByTime NativeReader.getNearestRecordIndexByTime
  simp only [if_neg hne, hgetStreamId]

theorem searchByTime_of_none (hid : self.native.getStreamForName streamId = none) :
    self.searchByTime search streamId timestamp (some epsilon) recordType =
      .error (streamNotFoundError L streamId self.native.streams) := by
  have hgetStreamId := self.native.getStreamId_eq streamId
  rw [hid] at hgetStreamId
  unfold searchByTime NativeReader.getRecordIndexByTime NativeReader.getNearestRecordIndexByTime
  simp only [hgetStreamId, ite_self]

/-- With an epsilon of 0, the first record from the time on has to be at that time. -/
theorem respectsTolerance_zero_iff (hfirst : self.native.FindsFirst search.getRecordByTime)
    (havailable : streamId ∈ self.native.getAvailableStreamIds) {id : StreamId}
    (hid : self.native.getStreamForName streamId = some id) :
    self.RespectsTolerance search streamId timestamp (.ofRat 0) recordType ↔
      ∃ i record, self.native.IsFirstAt id recordType timestamp i ∧
        self.native.record i = some (id, record) ∧ record.timestamp = timestamp ∧
        self.Readable i := by
  have hsearch : self.searchByTime search streamId timestamp (some (.ofRat 0)) recordType = _ :=
    searchByTime_zero hid
  cases hfound : search.getRecordByTime id recordType timestamp with
  | none =>
    rw [hfound] at hsearch
    have hanswer : self.getRecordIndexByTime search streamId timestamp (some (.ofRat 0))
        recordType = _ := getRecordIndexByTime_of_mem havailable
    rw [hsearch] at hanswer
    refine iff_of_false (not_respectsTolerance_of_error hanswer ?_) ?_
    · rintro _ ⟨⟩
      exact nofun
    · rintro ⟨i, _, hi, -⟩
      exact hfirst.not_isAt id recordType timestamp hfound i hi.1
  | some i =>
    rw [hfound] at hsearch
    have hi := hfirst.isFirstAt id recordType timestamp i hfound
    obtain ⟨record, hrecord, htype, htime⟩ := hi.1
    rw [respectsTolerance_of_ok_iff havailable hid (self.native.lt_of_record_of hrecord) hsearch,
      NativeReader.isNearest_zero_iff, NativeReader.isWithin_zero_iff]
    constructor
    · rintro ⟨⟨-, record', hrecord', -, htime'⟩, hreadable⟩
      exact ⟨i, record', hi, hrecord', htime', hreadable⟩
    · rintro ⟨j, record', hj, hrecord', htime', hreadable⟩
      obtain rfl := hi.eq hj
      cases hrecord.symm.trans hrecord'
      exact ⟨⟨(WithNaN.isNum_of_le htime).1, record, hrecord, htype, htime'⟩, hreadable⟩

/-- With another epsilon, what is found has to be readable. -/
theorem respectsTolerance_of_ne_iff (hnearest : self.native.FindsNearest search)
    (havailable : streamId ∈ self.native.getAvailableStreamIds) {id : StreamId}
    (hid : self.native.getStreamForName streamId = some id) (hepsilon : .ofRat 0 ≤ epsilon)
    (hne : epsilon ≠ .ofRat 0) :
    self.RespectsTolerance search streamId timestamp epsilon recordType ↔
      ∀ i, search.getNearestRecordByTime id recordType timestamp epsilon = some i →
        self.Readable i := by
  have hsearch : self.searchByTime search streamId timestamp (some epsilon) recordType = _ :=
    searchByTime_of_ne hid hne
  cases hfound : search.getNearestRecordByTime id recordType timestamp epsilon with
  | none =>
    rw [hfound] at hsearch
    refine iff_of_true (.inr ⟨?_, notFound_of_error havailable hsearch rfl⟩) nofun
    intro id' hid'
    cases hid.symm.trans hid'
    exact hnearest.not_isWithin id recordType timestamp epsilon hepsilon hfound
  | some i =>
    rw [hfound] at hsearch
    have hi := hnearest.isNearest id recordType timestamp epsilon i hepsilon hfound
    obtain ⟨record, hrecord, -⟩ := hi.1
    rw [respectsTolerance_of_ok_iff havailable hid (self.native.lt_of_record_of hrecord) hsearch,
      and_iff_right hi]
    simp

/-- **The tolerance is respected exactly where the search is the right one**: for a stream of the
reader, and an epsilon that is not 0 or a time at which there is a record, as long as the record
found is at an `int` position and can be read. -/
theorem respectsTolerance_iff (self : WholeFileReader L) (search : TimeSearch)
    (hfirst : self.native.FindsFirst search.getRecordByTime)
    (hnearest : self.native.FindsNearest search) (streamId : String)
    (timestamp epsilon : Timestamp) (hepsilon : .ofRat 0 ≤ epsilon)
    (recordType : Option RecordType) :
    self.RespectsTolerance search streamId timestamp epsilon recordType ↔
      self.WithinReach search streamId timestamp epsilon recordType := by
  by_cases havailable : streamId ∈ self.native.getAvailableStreamIds
  swap
  · refine iff_of_false (not_respectsTolerance_of_error (e := .assertionError) ?_ nofun)
      fun h => havailable h.1
    have hstreamIds : streamId ∉ (VRSReader.init self.native).streamIds := havailable
    rw [getRecordIndexByTime, if_pos hstreamIds]
  unfold WithinReach
  rw [and_iff_right havailable]
  cases hid : self.native.getStreamForName streamId with
  | none =>
    have hanswer : self.getRecordIndexByTime search streamId timestamp (some epsilon) recordType =
        _ := getRecordIndexByTime_of_mem havailable
    rw [searchByTime_of_none hid] at hanswer
    refine iff_of_false (not_respectsTolerance_of_error hanswer ?_) fun ⟨_, h, _⟩ => nomatch h
    rintro _ ⟨⟩
    exact nofun
  | some id =>
    simp only [Option.some.injEq, exists_eq_left']
    by_cases hzero : epsilon = .ofRat 0
    · subst hzero
      rw [if_pos rfl]
      exact respectsTolerance_zero_iff hfirst havailable hid
    · rw [if_neg hzero]
      exact respectsTolerance_of_ne_iff hnearest havailable hid hepsilon hzero

end WholeFileReader

/-! ## Looking through the file -/

namespace NativeReader

variable (self : NativeReader L)

/-- The distance of the record at an index, least where it is none. -/
def distAt (timestamp : Timestamp) (i : ℕ) : WithBot (WithBot (WithTop ℚ)) :=
  match self.record i with
  | none => ⊥
  | some (_, record) => (timestamp.dist record.timestamp).toWithBot

/-- The record at an index is within a distance of a time, by looking at it. -/
def isWithin (id : StreamId) (recordType : Option RecordType) (timestamp epsilon : Timestamp)
    (i : ℕ) : Bool :=
  match self.record i with
  | none => false
  | some (id', record) =>
    id' = id ∧ (∀ type ∈ recordType, record.recordType = type) ∧
      timestamp.dist record.timestamp ≤ epsilon

/-- One of the nearest records, by looking through the file. -/
def scanNearest (id : StreamId) (recordType : Option RecordType) (timestamp epsilon : Timestamp) :
    Option ℕ :=
  ((List.range self.getAvailableRecordsSize).filter
    (self.isWithin id recordType timestamp epsilon)).argmin (self.distAt timestamp)

/-- The searches, by looking through the file. -/
def scan : TimeSearch := ⟨self.scanByTime, self.scanNearest⟩

variable {self}

theorem isWithin_eq_true_iff {id : StreamId} {recordType : Option RecordType}
    {timestamp epsilon : Timestamp} {i : ℕ} :
    self.isWithin id recordType timestamp epsilon i = true ↔
      self.IsWithin id recordType timestamp epsilon i := by
  unfold isWithin IsWithin
  cases self.record i with
  | none => simp
  | some entry =>
    obtain ⟨id', record⟩ := entry
    simp only [decide_eq_true_eq, Option.some.injEq, Prod.mk.injEq, Option.mem_def]
    constructor
    · rintro ⟨rfl, htype, hwithin⟩
      exact ⟨record, ⟨rfl, rfl⟩, fun type h => htype type h, hwithin⟩
    · rintro ⟨record, ⟨rfl, rfl⟩, htype, hwithin⟩
      exact ⟨rfl, fun type h => htype type h, hwithin⟩

/-- Looking through the file is one way to find a nearest record. -/
theorem findsNearest_scan (self : NativeReader L) : self.FindsNearest self.scan := by
  have hmem {id : StreamId} {recordType : Option RecordType} {timestamp epsilon : Timestamp}
      {i : ℕ} : i ∈ (List.range self.getAvailableRecordsSize).filter
        (self.isWithin id recordType timestamp epsilon) ↔
        self.IsWithin id recordType timestamp epsilon i := by
    rw [List.mem_filter, isWithin_eq_true_iff, List.mem_range]
    exact and_iff_right_of_imp fun ⟨record, hrecord, _⟩ => self.lt_of_record hrecord
  constructor
  · intro id recordType timestamp epsilon i _ hfound
    have hi := hmem.1 (List.argmin_mem hfound)
    refine ⟨hi, fun j hj record other hrecord hother => ?_⟩
    have hle := List.le_of_mem_argmin (hmem.2 hj) hfound
    unfold distAt at hle
    rw [hrecord, hother] at hle
    obtain ⟨record', hrecord', -, hwithin⟩ := hi
    obtain ⟨other', hother', -, hwithin'⟩ := hj
    cases hrecord.symm.trans hrecord'
    cases hother.symm.trans hother'
    exact (WithNaN.toWithBot_le_iff (WithNaN.isNum_of_le hwithin).1
      (WithNaN.isNum_of_le hwithin').1).1 hle
  · intro id recordType timestamp epsilon _ hfound i hi
    have hnone := List.argmin_eq_none.1 hfound
    exact List.not_mem_nil (hnone ▸ hmem.2 hi)

end NativeReader

/-! ## An epsilon of 0 -/

/-- A synchronous reader of a file with records at 0, 1, 2 and 3. -/
def reconfiguredReader : WholeFileReader VrsLib.bare :=
  .sync (.reader reconfiguredFile (.blank VrsLib.bare) (.new false))

/-- A search for the record nearest to 1.25, within 0.5. -/
theorem respectsTolerance_reconfiguredReader :
    reconfiguredReader.RespectsTolerance reconfiguredReader.native.scan "1201-1"
        (.ofRat (5 / 4)) (.ofRat (1 / 2)) (some .data) ↔
      reconfiguredReader.WithinReach reconfiguredReader.native.scan "1201-1"
        (.ofRat (5 / 4)) (.ofRat (1 / 2)) (some .data) :=
  WholeFileReader.respectsTolerance_iff reconfiguredReader reconfiguredReader.native.scan
    (NativeReader.findsFirst_scanByTime _) (NativeReader.findsNearest_scan _) "1201-1" _ _
    (by decide +kernel) (some .data)

/-- **Within 0 of 0.5 there is no record**, and the one at 1 is designated. -/
theorem not_respectsTolerance_zero :
    reconfiguredReader.getRecordIndexByTime reconfiguredReader.native.scan "1201-1"
        (.ofRat (1 / 2)) (some (.ofRat 0)) none = .ok 1 ∧
      ¬reconfiguredReader.RespectsTolerance reconfiguredReader.native.scan "1201-1"
        (.ofRat (1 / 2)) (.ofRat 0) none := by
  have hanswer : reconfiguredReader.getRecordIndexByTime reconfiguredReader.native.scan "1201-1"
      (.ofRat (1 / 2)) (some (.ofRat 0)) none = .ok 1 := by decide +kernel
  refine ⟨hanswer, ?_⟩
  rintro (⟨id, i, -, hnearest, ⟨index, hindex, hi⟩, -⟩ | ⟨-, e, -, herror, -⟩)
  · cases hanswer.symm.trans hindex
    have hone : i = 1 := by
      have hvalue : Int32.toInt 1 = 1 := by decide
      omega
    subst hone
    obtain ⟨-, record, hrecord, -, htime⟩ :=
      NativeReader.isWithin_zero_iff.1 (NativeReader.isNearest_zero_iff.1 hnearest)
    cases hrecord
    exact absurd htime (by decide +kernel)
  · cases hanswer.symm.trans herror

end Pyvrs
