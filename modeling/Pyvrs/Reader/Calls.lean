import Mathlib.Data.Finset.Lattice.Lemmas
import Pyvrs.Reader.VRSReader

/-!
# What one call does

Every call of the single-file reader that reads a record first settles on a position of the index,
its `target`, and then is `readNextRecordInternal` with the cursor at that position
(`call_of_target`). A call without a target reads nothing: it changes the cursor, the streams
enabled and the settings at most (`idle_of_target_eq_none`). The invariants of runs rest on this
case distinction and not on the individual calls.
-/

namespace Pyvrs.OssVRSReader

open Foundations

variable {L : VrsLib} (F : RecordFileReader L) (D : Native L) (reader : OssVRSReader L)

/-! ## Native reads -/

section NativeRead

variable (i : ℕ) (record : RecordInfo)

@[simp] theorem nativeReadRecord_fst :
    (reader.nativeReadRecord D i record).1 = (D reader.nativeReads i).status := rfl

@[simp] theorem nativeReadRecord_nativeReads :
    (reader.nativeReadRecord D i record).2.nativeReads = reader.nativeReads ++
      [⟨i, record.streamId ∈ reader.enabledStreams, (D reader.nativeReads i).status⟩] := rfl

@[simp] theorem nativeReadRecord_nextRecordIndex :
    (reader.nativeReadRecord D i record).2.nextRecordIndex = reader.nextRecordIndex := rfl

@[simp] theorem nativeReadRecord_enabledStreams :
    (reader.nativeReadRecord D i record).2.enabledStreams = reader.enabledStreams := rfl

@[simp] theorem nativeReadRecord_configIndex :
    (reader.nativeReadRecord D i record).2.configIndex = reader.configIndex := rfl

@[simp] theorem nativeReadRecord_lastReadConfigIndex :
    (reader.nativeReadRecord D i record).2.lastReadConfigIndex = reader.lastReadConfigIndex := rfl

@[simp] theorem nativeReadRecord_autoReadConfigurationRecord :
    (reader.nativeReadRecord D i record).2.autoReadConfigurationRecord =
      reader.autoReadConfigurationRecord := rfl

@[simp] theorem configurationRead_nativeReads (s : StreamId) :
    (reader.configurationRead s i).nativeReads = reader.nativeReads := rfl

@[simp] theorem configurationRead_enabledStreams (s : StreamId) :
    (reader.configurationRead s i).enabledStreams = reader.enabledStreams := rfl

@[simp] theorem configurationRead_lastReadConfigIndex (s : StreamId) :
    (reader.configurationRead s i).lastReadConfigIndex =
      Function.update reader.lastReadConfigIndex s i := rfl

@[simp] theorem recordRead_nativeReads : reader.recordRead.nativeReads = reader.nativeReads := rfl

@[simp] theorem recordRead_nextRecordIndex :
    reader.recordRead.nextRecordIndex = reader.nextRecordIndex + 1 := rfl

@[simp] theorem recordRead_enabledStreams :
    reader.recordRead.enabledStreams = reader.enabledStreams := rfl

theorem readConfigurationAt_of_ne (s : StreamId) (h : (D reader.nativeReads i).status ≠ 0) :
    reader.readConfigurationAt D s i record =
      (.error (.indexError "Failed to read prior configuration record."),
        (reader.nativeReadRecord D i record).2) :=
  if_pos h

theorem readConfigurationAt_of_eq (s : StreamId) (h : (D reader.nativeReads i).status = 0) :
    reader.readConfigurationAt D s i record =
      (.ok (), (reader.nativeReadRecord D i record).2.configurationRead s i) :=
  if_neg (not_not.2 h)

theorem readConfigurationAt_eq_ok {s : StreamId} {reader' : OssVRSReader L}
    (h : reader.readConfigurationAt D s i record = (.ok (), reader')) :
    (D reader.nativeReads i).status = 0 ∧
      reader' = (reader.nativeReadRecord D i record).2.configurationRead s i := by
  by_cases hstatus : (D reader.nativeReads i).status = 0
  · rw [readConfigurationAt_of_eq D reader i record s hstatus] at h
    cases h
    exact ⟨hstatus, rfl⟩
  · rw [readConfigurationAt_of_ne D reader i record s hstatus] at h
    cases h

theorem readThisRecord_of_ne (h : (D reader.nativeReads reader.nextRecordIndex).status ≠ 0) :
    reader.readThisRecord D record =
      (.error (.runtimeError ("Read error: " ++ L.errorCodeToMessageWithCode
        (D reader.nativeReads reader.nextRecordIndex).status)),
        (reader.nativeReadRecord D reader.nextRecordIndex record).2) :=
  if_pos h

theorem readThisRecord_of_eq (h : (D reader.nativeReads reader.nextRecordIndex).status = 0) :
    reader.readThisRecord D record =
      (.ok (.ofCache record reader.nextRecordIndex
        (reader.nativeReadRecord D reader.nextRecordIndex record).2.lastRecord),
        (reader.nativeReadRecord D reader.nextRecordIndex record).2.recordRead) :=
  if_neg (not_not.2 h)

theorem readThisRecord_eq_ok {r : PyRecord L} {reader' : OssVRSReader L}
    (h : reader.readThisRecord D record = (.ok r, reader')) :
    (D reader.nativeReads reader.nextRecordIndex).status = 0 ∧
      r = .ofCache record reader.nextRecordIndex
        (reader.nativeReadRecord D reader.nextRecordIndex record).2.lastRecord ∧
      reader' = (reader.nativeReadRecord D reader.nextRecordIndex record).2.recordRead := by
  by_cases hstatus : (D reader.nativeReads reader.nextRecordIndex).status = 0
  · rw [readThisRecord_of_eq D reader record hstatus] at h
    cases h
    exact ⟨hstatus, rfl, rfl⟩
  · rw [readThisRecord_of_ne D reader record hstatus] at h
    cases h

end NativeRead

/-! ## The records that calls look for -/

/-- The test of a `readNextRecord` by stream and type on the records it looks for, once its
arguments are accepted. -/
def wantedOfStream (streamId recordType : String) : Option (RecordInfo → Bool) :=
  match reader.enabledStreamId F streamId, recordTypeFilter L recordType with
  | .ok id, .ok type => some fun record => reader.matchStream record id type
  | _, _ => none

/-- The same, by device type and type. -/
def wantedOfRecordable (typeId : RecordableTypeId) (recordType : String) :
    Option (RecordInfo → Bool) :=
  match recordTypeFilter L recordType with
  | .ok type =>
    if ∃ id ∈ reader.enabledStreams, id.typeId = typeId then
      some fun record => reader.matchRecordable record typeId type
    else none
  | .error _ => none

/-- The test of a `readNextRecord` call, in any of its forms, on the records it looks for: `none`
for the other calls and when the arguments are rejected. -/
def wanted : Call → Option (RecordInfo → Bool)
  | .readNextRecord => some fun record => record.streamId ∈ reader.enabledStreams
  | .readNextRecordOfStream streamId => reader.wantedOfStream F streamId "any"
  | .readNextRecordOfStreamAndType streamId recordType =>
    reader.wantedOfStream F streamId recordType
  | .readNextRecordOfRecordable typeId => reader.wantedOfRecordable typeId "any"
  | .readNextRecordOfRecordableAndType typeId recordType =>
    reader.wantedOfRecordable typeId recordType
  | _ => none

/-- The position that a `readRecord` call asks for, if there is one. -/
def sought : Call → Option ℕ
  | .readRecord index =>
    if F.index.length ≤ castUInt32 index then none else some (castUInt32 index)
  | .readRecordOfStreamAndType streamId recordType index =>
    match reader.enabledStreamId F streamId, recordTypeFilter L recordType with
    | .ok id, .ok type =>
      (if L.strcasecmp recordType "any" = 0 then F.getRecordOfStream id (castUInt32 index)
        else F.getRecordOfType id type (castUInt32 index)).map Fin.val
    | _, _ => none
  | _ => none

/-- Where a test is first satisfied from the cursor on, or the end of the index. -/
def firstWanted (p : RecordInfo → Bool) : ℕ :=
  firstFrom (fun i => F.index[i]?.any p) F.index.length reader.nextRecordIndex

/-- The position at which a call reads a record, the end of the index when a search finds none. -/
def target (c : Call) : Option ℕ :=
  match reader.wanted F c with
  | some p => some (reader.firstWanted F p)
  | none => reader.sought F c

/-- The streams that a call enables. -/
def enables : Call → List StreamId
  | .enableStream streamId => (F.getStreamForName streamId).toList
  | .enableStreams typeId flavor => F.getStreamsOf typeId flavor
  | .enableStreamsByIndexes indexes => streamsAt (playableStreams F) indexes
  | .enableAllStreams => F.streams
  | _ => []

theorem target_of_sought {c : Call} (h : reader.wanted F c = none) :
    reader.target F c = reader.sought F c := by
  simp only [target, h]

theorem enables_of_target {c : Call} {k : ℕ} (h : reader.target F c = some k) :
    enables F c = [] := by
  cases c with
  | enableStream | enableStreams | enableStreamsByIndexes | enableAllStreams => cases h
  | _ => rfl

/-! ## Calls that read a record -/

/-- The reader with its cursor at `k`. -/
def cursorAt (k : ℕ) : OssVRSReader L := { reader with nextRecordIndex := k }

@[simp] theorem cursorAt_nextRecordIndex (k : ℕ) : (reader.cursorAt k).nextRecordIndex = k := rfl

theorem readNextRecordOfStreamAndType_of_wanted {streamId recordType : String}
    {p : RecordInfo → Bool} (h : reader.wantedOfStream F streamId recordType = some p) :
    reader.readNextRecordOfStreamAndType F D streamId recordType =
      (reader.cursorAt (reader.firstWanted F p)).readNextRecordInternal F D := by
  unfold wantedOfStream at h
  split at h
  · rename_i id type hid htype
    cases h
    simp only [readNextRecordOfStreamAndType, hid, htype]
    rfl
  · cases h

theorem readNextRecordOfRecordableAndType_of_wanted {typeId : RecordableTypeId}
    {recordType : String} {p : RecordInfo → Bool}
    (h : reader.wantedOfRecordable typeId recordType = some p) :
    reader.readNextRecordOfRecordableAndType F D typeId recordType =
      (reader.cursorAt (reader.firstWanted F p)).readNextRecordInternal F D := by
  unfold wantedOfRecordable at h
  split at h
  · rename_i type htype
    split at h
    · rename_i hfound
      cases h
      simp only [readNextRecordOfRecordableAndType, htype, if_pos hfound]
      rfl
    · cases h
  · cases h

/-- A search whose arguments are accepted reads at the first record wanted. -/
theorem call_of_wanted {c : Call} {p : RecordInfo → Bool} (h : reader.wanted F c = some p) :
    call F D reader c =
      answer .record ((reader.cursorAt (reader.firstWanted F p)).readNextRecordInternal F D) := by
  cases c with
  | readNextRecord =>
    cases h
    rfl
  | readNextRecordOfStream streamId =>
    exact congrArg (answer .record) (reader.readNextRecordOfStreamAndType_of_wanted F D h)
  | readNextRecordOfStreamAndType streamId recordType =>
    exact congrArg (answer .record) (reader.readNextRecordOfStreamAndType_of_wanted F D h)
  | readNextRecordOfRecordable typeId =>
    exact congrArg (answer .record) (reader.readNextRecordOfRecordableAndType_of_wanted F D h)
  | readNextRecordOfRecordableAndType typeId recordType =>
    exact congrArg (answer .record) (reader.readNextRecordOfRecordableAndType_of_wanted F D h)
  | _ => cases h

/-- A `readRecord` call reads at the position it asks for. -/
theorem call_of_sought {c : Call} {k : ℕ} (h : reader.sought F c = some k) :
    call F D reader c = answer .record ((reader.cursorAt k).readNextRecordInternal F D) := by
  cases c with
  | readRecord index =>
    simp only [sought] at h
    split at h
    · cases h
    · rename_i hlt
      cases h
      simp only [call, readRecord, if_neg hlt]
      rfl
  | readRecordOfStreamAndType streamId recordType index =>
    simp only [sought] at h
    split at h
    · rename_i id type hid htype
      simp only [call, readRecordOfStreamAndType, hid, htype]
      obtain ⟨record, hrecord, rfl⟩ := Option.map_eq_some_iff.1 h
      simp only [hrecord]
      rfl
    · cases h
  | _ => cases h

/-- **A call with a target is `readNextRecordInternal` at it.** -/
theorem call_of_target {c : Call} {k : ℕ} (h : reader.target F c = some k) :
    call F D reader c = answer .record ((reader.cursorAt k).readNextRecordInternal F D) := by
  unfold target at h
  split at h
  · rename_i p hp
    cases h
    exact reader.call_of_wanted F D hp
  · exact reader.call_of_sought F D h

theorem call_readRecord (index : Int32) (h : castUInt32 index < F.index.length) :
    call F D reader (.readRecord index) =
      answer .record ((reader.cursorAt (castUInt32 index)).readNextRecordInternal F D) := by
  refine reader.call_of_sought F D ?_
  simp only [sought, if_neg (not_le.2 h)]

/-- A record is only read at a position in the index. -/
theorem lt_length_of_call_readRecord {index : Int32} {value : Value L}
    (h : (call F D reader (.readRecord index)).1 = .ok value) :
    castUInt32 index < F.index.length := by
  by_contra hlt
  have herror : call F D reader (.readRecord index) =
      (.error (.indexError ("No record at index: " ++ toString index)), reader) := by
    simp only [call, readRecord, if_pos (not_lt.1 hlt)]
    rfl
  rw [herror] at h
  cases h

/-- A successful read: the automatic configuration read, then that of the record. -/
theorem readNextRecordInternal_eq_ok {r : PyRecord L} {reader' : OssVRSReader L}
    (h : reader.readNextRecordInternal F D = (.ok r, reader')) :
    ∃ record reader₁, F.index[reader.nextRecordIndex]? = some record ∧
      reader.autoReadConfiguration F D record = (.ok (), reader₁) ∧
      reader₁.readThisRecord D record = (.ok r, reader') := by
  unfold readNextRecordInternal at h
  split at h
  · cases h
  · rename_i record hrecord
    split at h
    · cases h
    · rename_i reader₁ hauto
      exact ⟨record, reader₁, hrecord, hauto, h⟩

/-- A successful call with a target reads the record there. -/
theorem call_of_target_eq_ok {c : Call} {k : ℕ} (htarget : reader.target F c = some k)
    {value : Value L} (h : (call F D reader c).1 = .ok value) :
    ∃ record r reader₁, F.index[k]? = some record ∧ value = .record r ∧
      (reader.cursorAt k).autoReadConfiguration F D record = (.ok (), reader₁) ∧
      reader₁.readThisRecord D record = (.ok r, (call F D reader c).2) := by
  rw [reader.call_of_target F D htarget] at h ⊢
  rcases hread : (reader.cursorAt k).readNextRecordInternal F D with ⟨result, reader'⟩
  rw [hread] at h
  cases result with
  | error e => cases h
  | ok r =>
    cases h
    obtain ⟨record, reader₁, hrecord, hauto, hthis⟩ :=
      (reader.cursorAt k).readNextRecordInternal_eq_ok F D hread
    exact ⟨record, r, reader₁, hrecord, rfl, hauto, hthis⟩

/-! ## Calls that read nothing -/

/-- `reader'` has read what `reader` has: they differ in the cursor, the streams enabled and the
settings at most. -/
structure Idle (reader reader' : OssVRSReader L) : Prop where
  lastRecord_eq : reader'.lastRecord = reader.lastRecord
  streamPlayer_eq : reader'.streamPlayer = reader.streamPlayer
  configIndex_eq : reader'.configIndex = reader.configIndex
  lastReadConfigIndex_eq : reader'.lastReadConfigIndex = reader.lastReadConfigIndex
  autoReadConfigurationRecord_eq :
    reader'.autoReadConfigurationRecord = reader.autoReadConfigurationRecord
  nativeReads_eq : reader'.nativeReads = reader.nativeReads

theorem Idle.refl : Idle reader reader := ⟨rfl, rfl, rfl, rfl, rfl, rfl⟩

/-- What a call without a target does to a reader. -/
structure Unread (c : Call) (reader reader' : OssVRSReader L) : Prop
    extends Idle reader reader' where
  enabledStreams_eq : reader'.enabledStreams = reader.enabledStreams ∪ (enables F c).toFinset
  nextRecordIndex_eq : reader'.nextRecordIndex = reader.nextRecordIndex ∨
    c.IsSeek ∧ reader'.nextRecordIndex ≤ F.index.length

theorem foldl_enableStreamId (streams : List StreamId) :
    streams.foldl enableStreamId reader =
      { reader with enabledStreams := reader.enabledStreams ∪ streams.toFinset } := by
  induction streams generalizing reader with
  | nil => simp only [List.foldl_nil, List.toFinset_nil, Finset.union_empty]
  | cons id streams ih =>
    rw [List.foldl_cons, ih, List.toFinset_cons, Finset.union_insert, ← Finset.insert_union]
    rfl

theorem foldl_setImageConversionOfId (conversion : ImageConversion) (streams : List StreamId) :
    streams.foldl (fun reader id => reader.setImageConversionOfId conversion id) reader =
      { reader with
        streamImageConversion := streams.foldl
          (fun set id => Function.update set id (some conversion))
          reader.streamImageConversion } := by
  induction streams generalizing reader with
  | nil => rfl
  | cons id streams ih => exact ih (reader.setImageConversionOfId conversion id)

theorem getStreamId_of_error {streamId : String} {e : PyError}
    (h : getStreamId F streamId = .error e) : e = streamNotFoundError L streamId F.streams := by
  unfold getStreamId at h
  split at h
  · cases h
  · cases h
    rfl

theorem enableStream_eq (streamId : String) :
    (reader.enableStream F streamId).2 = { reader with
      enabledStreams :=
        reader.enabledStreams ∪ (F.getStreamForName streamId).toList.toFinset } := by
  unfold enableStream getStreamId
  cases F.getStreamForName streamId with
  | none => simp only [Option.toList_none, List.toFinset_nil, Finset.union_empty]
  | some id =>
    have hunion : insert id reader.enabledStreams = reader.enabledStreams ∪ [id].toFinset := by
      rw [List.toFinset_cons, Finset.union_insert, List.toFinset_nil, Finset.union_empty]
    exact congrArg (fun streams => { reader with enabledStreams := streams }) hunion

/-- An exception that rejects an argument. -/
def IsRejection (e : PyError) : Prop := ∀ message, e ≠ .stopIteration message

theorem isRejection_of_enabledStreamId {streamId : String} {e : PyError}
    (h : reader.enabledStreamId F streamId = .error e) : IsRejection e := by
  unfold enabledStreamId at h
  split at h
  · rename_i e' he
    cases h
    rw [getStreamId_of_error F he]
    exact fun _ => PyError.noConfusion
  · split at h
    · cases h
    · cases h
      exact fun _ => PyError.noConfusion

theorem isRejection_of_recordTypeFilter {recordType : String} {e : PyError}
    (h : recordTypeFilter L recordType = .error e) : IsRejection e := by
  unfold recordTypeFilter at h
  simp only at h
  split at h
  · cases h
    exact fun _ => PyError.noConfusion
  · cases h

theorem readNextRecordOfStreamAndType_of_rejected {streamId recordType : String}
    (h : reader.wantedOfStream F streamId recordType = none) :
    ∃ e, IsRejection e ∧
      reader.readNextRecordOfStreamAndType F D streamId recordType = (.error e, reader) := by
  unfold wantedOfStream at h
  unfold readNextRecordOfStreamAndType
  cases hid : reader.enabledStreamId F streamId with
  | error e => exact ⟨e, reader.isRejection_of_enabledStreamId F hid, rfl⟩
  | ok id =>
    cases htype : recordTypeFilter L recordType with
    | error e => exact ⟨e, isRejection_of_recordTypeFilter htype, rfl⟩
    | ok type => simp [hid, htype] at h

theorem readNextRecordOfRecordableAndType_of_rejected {typeId : RecordableTypeId}
    {recordType : String} (h : reader.wantedOfRecordable typeId recordType = none) :
    ∃ e, IsRejection e ∧
      reader.readNextRecordOfRecordableAndType F D typeId recordType = (.error e, reader) := by
  unfold wantedOfRecordable at h
  unfold readNextRecordOfRecordableAndType
  cases htype : recordTypeFilter L recordType with
  | error e => exact ⟨e, isRejection_of_recordTypeFilter htype, rfl⟩
  | ok type =>
    by_cases hfound : ∃ id ∈ reader.enabledStreams, id.typeId = typeId
    · simp [htype, hfound] at h
    · simp only [if_neg hfound]
      exact ⟨_, fun _ => PyError.noConfusion, rfl⟩

/-- A `readRecord` by stream that finds no record fails with the cursor at the end, unless its
arguments are rejected. -/
theorem readRecordOfStreamAndType_of_not_sought {streamId recordType : String} {index : Int32}
    (h : reader.sought F (.readRecordOfStreamAndType streamId recordType index) = none) :
    ∃ e, IsRejection e ∧
      (reader.readRecordOfStreamAndType F D streamId recordType index = (.error e, reader) ∨
        reader.readRecordOfStreamAndType F D streamId recordType index =
          (.error e, reader.cursorAt F.index.length)) := by
  unfold sought at h
  unfold readRecordOfStreamAndType
  cases hid : reader.enabledStreamId F streamId with
  | error e => exact ⟨e, reader.isRejection_of_enabledStreamId F hid, .inl rfl⟩
  | ok id =>
    cases htype : recordTypeFilter L recordType with
    | error e => exact ⟨e, isRejection_of_recordTypeFilter htype, .inl rfl⟩
    | ok type =>
      simp only [hid, htype, Option.map_eq_none_iff] at h
      simp only [h]
      exact ⟨_, fun _ => PyError.noConfusion, .inr rfl⟩

theorem recordOf_answer {α : Type} {value : α → Value L}
    (hvalue : ∀ a, recordOf (.ok (value a)) = none)
    (result : Except PyError α × OssVRSReader L) : recordOf (answer value result).1 = none := by
  obtain ⟨result, reader⟩ := result
  cases result with
  | error e => rfl
  | ok a => exact hvalue a

theorem unread_self {c : Call} (h : enables F c = []) : Unread F c reader reader :=
  ⟨Idle.refl reader, by rw [h, List.toFinset_nil, Finset.union_empty], .inl rfl⟩

theorem unread_insert {c : Call} {streams : List StreamId} (h : enables F c = streams) :
    Unread F c reader (streams.foldl enableStreamId reader) := by
  rw [foldl_enableStreamId, ← h]
  exact ⟨⟨rfl, rfl, rfl, rfl, rfl, rfl⟩, rfl, .inl rfl⟩

theorem unread_cursorAt {c : Call} (h : enables F c = []) (hc : c.IsSeek) {k : ℕ}
    (hk : k ≤ F.index.length) : Unread F c reader (reader.cursorAt k) :=
  ⟨⟨rfl, rfl, rfl, rfl, rfl, rfl⟩, by rw [h, List.toFinset_nil, Finset.union_empty]; rfl,
    .inr ⟨hc, hk⟩⟩

theorem unread_gotoRecord (index : Int32) :
    Unread F (.gotoRecord index) reader (reader.gotoRecord F index).2 := by
  unfold gotoRecord getNextRecordInfo
  split
  · exact reader.unread_cursorAt F (c := .gotoRecord index) rfl trivial le_rfl
  · rename_i hrecord
    have hlt := (List.getElem?_eq_some_iff.1 hrecord).1
    exact reader.unread_cursorAt F (c := .gotoRecord index) rfl trivial hlt.le

theorem unread_setImageConversionOfStream (streamId : String) (conversion : ImageConversion) :
    Unread F (.setImageConversionOfStream streamId conversion) reader
      (reader.setImageConversionOfStream F streamId conversion).2 := by
  unfold setImageConversionOfStream
  split
  · exact ⟨⟨rfl, rfl, rfl, rfl, rfl, rfl⟩, (reader.unread_self F rfl).enabledStreams_eq, .inl rfl⟩
  · exact reader.unread_self F rfl

theorem unread_setImageConversionOfRecordable (typeId : RecordableTypeId)
    (conversion : ImageConversion) :
    Unread F (.setImageConversionOfRecordable typeId conversion) reader
      (reader.setImageConversionOfRecordable F typeId conversion).2 := by
  unfold setImageConversionOfRecordable
  simp only [foldl_setImageConversionOfId]
  exact ⟨⟨rfl, rfl, rfl, rfl, rfl, rfl⟩, (reader.unread_self F rfl).enabledStreams_eq, .inl rfl⟩

/-- A `readRecord` that finds no record. -/
theorem unread_of_not_sought {c : Call} (hc : c.IsSeek) (hwanted : reader.wanted F c = none)
    (h : reader.sought F c = none) :
    recordOf (call F D reader c).1 = none ∧ Unread F c reader (call F D reader c).2 := by
  cases c with
  | gotoRecord index =>
    exact ⟨recordOf_answer (fun _ => rfl) _, reader.unread_gotoRecord F index⟩
  | readRecord index =>
    simp only [sought] at h
    split at h
    · rename_i hle
      simp only [call, readRecord, if_pos hle]
      exact ⟨rfl, reader.unread_self F rfl⟩
    · cases h
  | readRecordOfStreamAndType streamId recordType index =>
    obtain ⟨e, -, he | he⟩ := reader.readRecordOfStreamAndType_of_not_sought F D h
    · simp only [call, he]
      exact ⟨rfl, reader.unread_self F rfl⟩
    · simp only [call, he]
      exact ⟨rfl, reader.unread_cursorAt F
        (c := .readRecordOfStreamAndType streamId recordType index) rfl trivial le_rfl⟩
  | _ => exact hc.elim

/-- A search whose arguments are rejected. -/
theorem rejected_of_not_wanted {c : Call} (hc : c.IsSearch) (h : reader.wanted F c = none) :
    ∃ e, IsRejection e ∧ call F D reader c = (.error e, reader) := by
  cases c with
  | readNextRecord => cases h
  | readNextRecordOfStream streamId =>
    obtain ⟨e, hrej, he⟩ := reader.readNextRecordOfStreamAndType_of_rejected F D h
    exact ⟨e, hrej, congrArg (answer .record) he⟩
  | readNextRecordOfStreamAndType streamId recordType =>
    obtain ⟨e, hrej, he⟩ := reader.readNextRecordOfStreamAndType_of_rejected F D h
    exact ⟨e, hrej, congrArg (answer .record) he⟩
  | readNextRecordOfRecordable typeId =>
    obtain ⟨e, hrej, he⟩ := reader.readNextRecordOfRecordableAndType_of_rejected F D h
    exact ⟨e, hrej, congrArg (answer .record) he⟩
  | readNextRecordOfRecordableAndType typeId recordType =>
    obtain ⟨e, hrej, he⟩ := reader.readNextRecordOfRecordableAndType_of_rejected F D h
    exact ⟨e, hrej, congrArg (answer .record) he⟩
  | _ => exact hc.elim

/-- **A call without a target reads nothing.** -/
theorem unread_of_target_eq_none {c : Call} (h : reader.target F c = none) :
    recordOf (call F D reader c).1 = none ∧ Unread F c reader (call F D reader c).2 := by
  have hwanted : reader.wanted F c = none := by
    unfold target at h
    split at h
    · cases h
    · assumption
  have hsought : reader.sought F c = none := by
    rwa [target_of_sought F reader hwanted] at h
  have hsearch : c.IsSearch → enables F c = [] →
      recordOf (call F D reader c).1 = none ∧ Unread F c reader (call F D reader c).2 := by
    intro hc he
    obtain ⟨e, -, hcall⟩ := reader.rejected_of_not_wanted F D hc hwanted
    rw [hcall]
    exact ⟨rfl, reader.unread_self F he⟩
  have hidle := reader.unread_self F (c := c)
  cases c with
  | enableStream streamId =>
    refine ⟨recordOf_answer (fun _ => rfl) _, ?_⟩
    have hinsert := reader.unread_insert F (c := .enableStream streamId) rfl
    simp only [enables] at hinsert
    show Unread F _ reader (reader.enableStream F streamId).2
    rwa [enableStream_eq, ← foldl_enableStreamId]
  | enableStreams | enableStreamsByIndexes | enableAllStreams =>
    exact ⟨rfl, reader.unread_insert F rfl⟩
  | gotoRecord | readRecord | readRecordOfStreamAndType =>
    exact reader.unread_of_not_sought F D trivial hwanted hsought
  | readNextRecord | readNextRecordOfStream | readNextRecordOfStreamAndType
  | readNextRecordOfRecordable | readNextRecordOfRecordableAndType =>
    exact hsearch trivial rfl
  | regenerateEnabledIndices | getTimestampForIndex | getTimestampListForIndices
  | getStreamIdForIndex =>
    exact ⟨recordOf_answer (fun _ => rfl) _, hidle rfl⟩
  | setImageConversionOfStream streamId conversion =>
    exact ⟨recordOf_answer (fun _ => rfl) _,
      reader.unread_setImageConversionOfStream F streamId conversion⟩
  | setImageConversionOfRecordable typeId conversion =>
    exact ⟨rfl,
      reader.unread_setImageConversionOfRecordable F typeId conversion⟩
  | setEncoding | setImageConversion | skipTrailingBlocks =>
    exact ⟨rfl,
      ⟨⟨rfl, rfl, rfl, rfl, rfl, rfl⟩, (hidle rfl).enabledStreams_eq, .inl rfl⟩⟩

end Pyvrs.OssVRSReader
