import Mathlib.Data.Finset.Lattice.Lemmas
import Pyvrs.Reader.ConfigRecords
import Pyvrs.Reader.MultiVRSReader

/-!
# The configuration in force over several files

`OssMultiVRSReader` looks configuration records up by the id a stream has in its own file, under
which the streams of different files may meet. The record it finds is then the last one before the
data record of any of them. `own_configuration_in_force_iff` says for which files a run that reads
data records only reads each of them under a configuration of its own stream.
-/

namespace Pyvrs

open Foundations

variable {L : VrsLib}

/-! ## The configuration records of a unique stream -/

namespace MultiRecordFileReader

variable (F : MultiRecordFileReader L)

/-- The record at `k` is a configuration record of the unique stream `u`. -/
def IsOwnConfigAt (u : StreamId) (k : ℕ) : Prop :=
  F.getUniqueStreamId k = u ∧
    ∃ record, F.getRecord k = some record ∧ record.recordType = .configuration

instance (u : StreamId) : DecidablePred (F.IsOwnConfigAt u) := fun k =>
  match h : F.getRecord k with
  | none => .isFalse fun ⟨_, record, hk, _⟩ => by simp [h] at hk
  | some record =>
    decidable_of_iff (F.getUniqueStreamId k = u ∧ record.recordType = .configuration)
      ⟨fun hu => ⟨hu.1, record, h, hu.2⟩, fun ⟨hu, record', hk, htype⟩ => by
        cases h.symm.trans hk
        exact ⟨hu, htype⟩⟩

/-- The positions below `i` of the configuration records of a unique stream. -/
def ownConfigsBelow (u : StreamId) (i : ℕ) : Set ℕ := {k | F.IsOwnConfigAt u k ∧ k < i}

/-- At every data record, the last configuration record before it of its unique stream, if any, is
the last one under the id of that stream in its file, and can be told from the default value of
`lastReadConfigIndex_`. -/
def ConfigsApart : Prop :=
  ∀ i info t, F.getRecord i = some info → info.recordType = .data →
    IsGreatest (F.ownConfigsBelow (F.getUniqueStreamId i) i) t →
    IsGreatest (configsBelow F.getRecord info.streamId i) t ∧
      (info.streamId ∈ F.streams ∨ t ≠ 0)

variable {F}

/-- The configuration records of a unique stream go by the id of its records. -/
theorem IsOwnConfigAt.isConfigAt {i k : ℕ} {info : RecordInfo} (hinfo : F.getRecord i = some info)
    (h : F.IsOwnConfigAt (F.getUniqueStreamId i) k) : IsConfigAt F.getRecord info.streamId k := by
  obtain ⟨hu, record, hrecord, htype⟩ := h
  exact ⟨record, hrecord, F.streamId_eq k i record info hrecord hinfo hu, htype⟩

theorem lt_of_getRecord {i : ℕ} {info : RecordInfo} (h : F.getRecord i = some info) :
    i < F.getRecordCount :=
  (List.getElem?_eq_some_iff.1 h).1

theorem ne_uint32Max_of_isConfigAt {s : StreamId} {k : ℕ} (h : IsConfigAt F.getRecord s k) :
    k ≠ uint32Max := by
  obtain ⟨record, hrecord, -⟩ := h
  have hlt : k < F.records.length := lt_of_getRecord hrecord
  have hcount := F.length_records_lt
  unfold uint32Max
  omega

end MultiRecordFileReader

namespace OssMultiVRSReader

variable (F : MultiRecordFileReader L) (D : Native L) (reader : OssMultiVRSReader L)

/-! ## What one call does -/

/-- The reader with its cursor at `k`. -/
def cursorAt (k : ℕ) : OssMultiVRSReader L := { reader with nextRecordIndex := k }

/-- `reader'` has read what `reader` has. -/
structure Idle (reader reader' : OssMultiVRSReader L) : Prop where
  configIndex_eq : reader'.configIndex = reader.configIndex
  lastReadConfigIndex_eq : reader'.lastReadConfigIndex = reader.lastReadConfigIndex
  autoReadConfigurationRecord_eq :
    reader'.autoReadConfigurationRecord = reader.autoReadConfigurationRecord
  nativeReads_eq : reader'.nativeReads = reader.nativeReads

theorem Idle.refl : Idle reader reader := ⟨rfl, rfl, rfl, rfl⟩

theorem foldl_enableStreamId (streams : List StreamId) :
    streams.foldl enableStreamId reader =
      { reader with enabledStreams := reader.enabledStreams ∪ streams.toFinset } := by
  induction streams generalizing reader with
  | nil => simp only [List.foldl_nil, List.toFinset_nil, Finset.union_empty]
  | cons id streams ih =>
    rw [List.foldl_cons, ih, List.toFinset_cons, Finset.union_insert, ← Finset.insert_union]
    rfl

theorem idle_foldl_enableStreamId (streams : List StreamId) :
    Idle reader (streams.foldl enableStreamId reader) := by
  rw [foldl_enableStreamId]
  exact ⟨rfl, rfl, rfl, rfl⟩

theorem foldl_setImageConversionOfId (conversion : ImageConversion) (streams : List StreamId) :
    streams.foldl (fun reader id => reader.setImageConversionOfId conversion id) reader =
      { reader with
        streamImageConversion := streams.foldl
          (fun set id => Function.update set id (some conversion))
          reader.streamImageConversion } := by
  induction streams generalizing reader with
  | nil => rfl
  | cons id streams ih => exact ih (reader.setImageConversionOfId conversion id)

theorem idle_foldl_setImageConversionOfId (conversion : ImageConversion)
    (streams : List StreamId) :
    Idle reader (streams.foldl (fun reader id => reader.setImageConversionOfId conversion id)
      reader) := by
  rw [foldl_setImageConversionOfId]
  exact ⟨rfl, rfl, rfl, rfl⟩

theorem recordOf_answer {α : Type} {value : α → Value L}
    (hvalue : ∀ a, recordOf (.ok (value a)) = none)
    (result : Except PyError α × OssMultiVRSReader L) :
    recordOf (answer value result).1 = none := by
  obtain ⟨result, reader⟩ := result
  cases result with
  | error e => rfl
  | ok a => exact hvalue a

/-- A call reads a record at some position or reads nothing. -/
def ReadsOrIdle (result : Except PyError (PyRecord L) × OssMultiVRSReader L) : Prop :=
  (∃ k, result = (reader.cursorAt k).readNextRecordInternal F D) ∨
    (∃ e, result.1 = .error e) ∧ Idle reader result.2

theorem readsOrIdle_readNextRecordOfStreamAndType (streamId recordType : String) :
    reader.ReadsOrIdle F D
      (reader.readNextRecordOfStreamAndType F D streamId recordType) := by
  unfold readNextRecordOfStreamAndType
  split
  · exact .inr ⟨⟨_, rfl⟩, Idle.refl reader⟩
  · split
    · exact .inr ⟨⟨_, rfl⟩, Idle.refl reader⟩
    · exact .inl ⟨_, rfl⟩

theorem readsOrIdle_readNextRecordOfRecordableAndType (typeId : RecordableTypeId)
    (recordType : String) :
    reader.ReadsOrIdle F D
      (reader.readNextRecordOfRecordableAndType F D typeId recordType) := by
  unfold readNextRecordOfRecordableAndType
  split
  · exact .inr ⟨⟨_, rfl⟩, Idle.refl reader⟩
  · split
    · exact .inl ⟨_, rfl⟩
    · exact .inr ⟨⟨_, rfl⟩, Idle.refl reader⟩

theorem readsOrIdle_readRecordOfStreamAndType (streamId recordType : String) (index : Int32) :
    reader.ReadsOrIdle F D
      (reader.readRecordOfStreamAndType F D streamId recordType index) := by
  unfold readRecordOfStreamAndType
  split
  · exact .inr ⟨⟨_, rfl⟩, Idle.refl reader⟩
  · split
    · exact .inr ⟨⟨_, rfl⟩, Idle.refl reader⟩
    · simp only
      split
      · exact .inr ⟨⟨_, rfl⟩, ⟨rfl, rfl, rfl, rfl⟩⟩
      · exact .inl ⟨_, rfl⟩

theorem readsOrIdle_readRecord (index : Int32) :
    reader.ReadsOrIdle F D (reader.readRecord F D index) := by
  unfold readRecord
  split
  · exact .inr ⟨⟨_, rfl⟩, Idle.refl reader⟩
  · exact .inl ⟨_, rfl⟩

theorem idle_gotoRecord (index : Int32) : Idle reader (reader.gotoRecord F index).2 := by
  unfold gotoRecord getNextRecordInfo
  split
  · exact ⟨rfl, rfl, rfl, rfl⟩
  · split <;> exact ⟨rfl, rfl, rfl, rfl⟩

theorem ReadsOrIdle.call {c : Call} {result : Except PyError (PyRecord L) × OssMultiVRSReader L}
    (h : reader.ReadsOrIdle F D result) (hcall : call F D reader c = answer .record result) :
    (∃ k, call F D reader c =
      answer .record ((reader.cursorAt k).readNextRecordInternal F D)) ∨
      recordOf (call F D reader c).1 = none ∧ Idle reader (call F D reader c).2 := by
  rcases h with ⟨k, rfl⟩ | ⟨⟨e, he⟩, hidle⟩
  · exact .inl ⟨k, hcall⟩
  · right
    rw [hcall, answer, he]
    exact ⟨rfl, hidle⟩

/-- **Every call reads a record at some position, or reads nothing.** -/
theorem call_cases (c : Call) :
    (∃ k, call F D reader c =
      answer .record ((reader.cursorAt k).readNextRecordInternal F D)) ∨
      recordOf (call F D reader c).1 = none ∧ Idle reader (call F D reader c).2 := by
  cases c with
  | readNextRecord => exact .inl ⟨_, rfl⟩
  | readNextRecordOfStream streamId =>
    exact (reader.readsOrIdle_readNextRecordOfStreamAndType F D streamId "any").call F D _ rfl
  | readNextRecordOfStreamAndType streamId recordType =>
    exact (reader.readsOrIdle_readNextRecordOfStreamAndType F D streamId recordType).call F D _ rfl
  | readNextRecordOfRecordable typeId =>
    exact (reader.readsOrIdle_readNextRecordOfRecordableAndType F D typeId "any").call F D _ rfl
  | readNextRecordOfRecordableAndType typeId recordType =>
    exact (reader.readsOrIdle_readNextRecordOfRecordableAndType F D typeId recordType).call F D _
      rfl
  | readRecord index => exact (reader.readsOrIdle_readRecord F D index).call F D _ rfl
  | readRecordOfStreamAndType streamId recordType index =>
    exact (reader.readsOrIdle_readRecordOfStreamAndType F D streamId recordType index).call F D _
      rfl
  | enableStream streamId =>
    refine .inr ⟨recordOf_answer (fun _ => rfl) _, ?_⟩
    show Idle reader (reader.enableStream F streamId).2
    unfold enableStream
    split <;> exact ⟨rfl, rfl, rfl, rfl⟩
  | enableStreams | enableStreamsByIndexes | enableAllStreams =>
    exact .inr ⟨rfl, reader.idle_foldl_enableStreamId _⟩
  | gotoRecord index =>
    exact .inr ⟨recordOf_answer (fun _ => rfl) _, reader.idle_gotoRecord F index⟩
  | setImageConversionOfStream streamId conversion =>
    refine .inr ⟨recordOf_answer (fun _ => rfl) _, ?_⟩
    show Idle reader (reader.setImageConversionOfStream F streamId conversion).2
    unfold setImageConversionOfStream
    split <;> exact ⟨rfl, rfl, rfl, rfl⟩
  | setImageConversionOfRecordable typeId conversion =>
    exact .inr ⟨rfl, reader.idle_foldl_setImageConversionOfId conversion _⟩
  | regenerateEnabledIndices | getTimestampForIndex | getTimestampListForIndices
  | getStreamIdForIndex =>
    exact .inr ⟨recordOf_answer (fun _ => rfl) _, Idle.refl reader⟩
  | setEncoding | setImageConversion | skipTrailingBlocks =>
    exact .inr ⟨rfl, ⟨rfl, rfl, rfl, rfl⟩⟩

/-! ## Reading a record -/

/-- `configIndex_` is empty or filled from the merged index. -/
def IndexFilled : Prop :=
  reader.filledConfigIndex F = buildConfigIndex F.getRecord F.getRecordCount

/-- The configuration that the automatic read goes on to read for the record at `i`. -/
def toRead (info : RecordInfo) (i : ℕ) : Option ℕ :=
  configurationToRead (buildConfigIndex F.getRecord F.getRecordCount) reader.lastReadConfigIndex
    info.streamId i

theorem readConfigurationAt_eq_ok {s : StreamId} {t : ℕ} {record : RecordInfo}
    {reader' : OssMultiVRSReader L}
    (h : reader.readConfigurationAt F D s t record = (.ok (), reader')) :
    (D reader.nativeReads t).status = 0 ∧
      reader' = (reader.nativeReadRecord F D t record).2.configurationRead s t := by
  by_cases hstatus : (D reader.nativeReads t).status = 0
  · rw [readConfigurationAt_of_eq F D reader t record s hstatus] at h
    cases h
    exact ⟨hstatus, rfl⟩
  · rw [readConfigurationAt_of_ne F D reader t record s hstatus] at h
    cases h

theorem readThisRecord_eq_ok {record : RecordInfo} {r : PyRecord L}
    {reader' : OssMultiVRSReader L} (h : reader.readThisRecord F D record = (.ok r, reader')) :
    (D reader.nativeReads reader.nextRecordIndex).status = 0 ∧
      reader' = (reader.nativeReadRecord F D reader.nextRecordIndex record).2.recordRead := by
  by_cases hstatus : (D reader.nativeReads reader.nextRecordIndex).status = 0
  · rw [readThisRecord_of_eq F D reader record hstatus] at h
    cases h
    exact ⟨hstatus, rfl⟩
  · rw [readThisRecord_of_ne F D reader record hstatus] at h
    cases h

/-- The automatic configuration read leaves the cursor and what `configIndex_` is filled with. -/
theorem autoReadConfiguration_frame (record : RecordInfo) :
    (reader.autoReadConfiguration F D record).2.nextRecordIndex = reader.nextRecordIndex ∧
      (reader.autoReadConfiguration F D record).2.filledConfigIndex F =
        reader.filledConfigIndex F := by
  unfold autoReadConfiguration readConfigurationRecord
  split
  · simp only
    split
    · exact ⟨rfl, rfl⟩
    · split
      · exact ⟨rfl, rfl⟩
      · rename_i it _ _ configuration _
        by_cases hstatus : (D (reader.withConfigIndex F).nativeReads it).status = 0
        · rw [readConfigurationAt_of_eq F D _ it configuration _ hstatus]
          exact ⟨rfl, rfl⟩
        · rw [readConfigurationAt_of_ne F D _ it configuration _ hstatus]
          exact ⟨rfl, rfl⟩
  · exact ⟨rfl, rfl⟩

/-- What the automatic configuration read changes of what the reader notes: the position read is
noted under the id of the stream in its file. -/
theorem autoReadConfiguration_eq_ok {info : RecordInfo} {reader' : OssMultiVRSReader L}
    (hauto : reader.autoReadConfigurationRecord = true) (hfilled : reader.IndexFilled F)
    (hinfo : F.getRecord reader.nextRecordIndex = some info) (hdata : info.recordType = .data)
    (h : reader.autoReadConfiguration F D info = (.ok (), reader')) :
    reader'.autoReadConfigurationRecord = true ∧ reader'.IndexFilled F ∧
      reader'.nextRecordIndex = reader.nextRecordIndex ∧
      ((reader.toRead F info reader.nextRecordIndex = none ∧
        reader'.lastReadConfigIndex = reader.lastReadConfigIndex ∧
        reader'.nativeReads = reader.nativeReads) ∨
      ∃ t handed, reader.toRead F info reader.nextRecordIndex = some t ∧
        reader'.lastReadConfigIndex =
          Function.update reader.lastReadConfigIndex info.streamId t ∧
        reader'.nativeReads = reader.nativeReads ++ [⟨t, handed, 0⟩]) := by
  have hnext : (reader.withConfigIndex F).IndexFilled F := by
    simpa only [IndexFilled, filledConfigIndex, withConfigIndex, Option.getD_some] using hfilled
  have hread : reader.autoReadConfiguration F D info =
      reader.readConfigurationRecord F D info.streamId reader.nextRecordIndex :=
    if_pos ⟨hauto, hdata⟩
  rw [hread] at h
  unfold readConfigurationRecord at h
  rw [hfilled] at h
  simp only at h
  unfold toRead
  split at h
  · rename_i hnone
    cases h
    exact ⟨hauto, hnext, rfl, .inl ⟨hnone, rfl, rfl⟩⟩
  · rename_i t hsome
    split at h
    · rename_i hmissing
      have hle := (MultiRecordFileReader.lt_of_getRecord hinfo).le
      have ht := (configurationToRead_eq_some_iff F.getRecord hle).1 hsome
      exact absurd ht.1.1.1 (not_isConfigAt_of_eq_none hmissing _)
    · rename_i record hrecord
      obtain ⟨hstatus, rfl⟩ := readConfigurationAt_eq_ok F D _ h
      refine ⟨hauto, hnext, rfl,
        .inr ⟨t, F.getUniqueStreamId t ∈ reader.enabledStreams, hsome, rfl, ?_⟩⟩
      have hzero : (D (reader.withConfigIndex F).nativeReads t).status = 0 := hstatus
      rw [← hzero]
      rfl

theorem exists_recordOf_answer {result : Except PyError (PyRecord L) × OssMultiVRSReader L}
    {value : Value L} (h : (answer .record result).1 = .ok value) :
    ∃ r, recordOf (answer .record result).1 = some r := by
  obtain ⟨result, reader⟩ := result
  cases result with
  | error e => cases h
  | ok r => exact ⟨r, rfl⟩

theorem call_eq_ok {c : Call} {k : ℕ} {r : PyRecord L}
    (hcall : call F D reader c = answer .record ((reader.cursorAt k).readNextRecordInternal F D))
    (h : recordOf (call F D reader c).1 = some r) :
    ∃ info reader₁, F.getRecord k = some info ∧
      (reader.cursorAt k).autoReadConfiguration F D info = (.ok (), reader₁) ∧
      reader₁.readThisRecord F D info = (.ok r, (call F D reader c).2) := by
  rw [hcall] at h ⊢
  unfold readNextRecordInternal at h ⊢
  split at h
  · cases h
  · rename_i hlt
    rw [if_neg hlt]
    split at h
    · cases h
    · rename_i info hinfo
      refine ⟨info, ?_⟩
      split at h
      · cases h
      · rename_i reader₁ hauto
        rcases hthis : reader₁.readThisRecord F D info with ⟨result, reader'⟩
        rw [hthis] at h
        cases result with
        | error e => cases h
        | ok r' =>
          cases h
          have hrecord : F.getRecord k = some info := hinfo
          refine ⟨reader₁, hrecord, hauto, ?_⟩
          simp only [hthis, answer]

/-! ## Runs that read data records -/

/-- The position of the last configuration record read under the id that a stream has in its
file. -/
def lastConfigRead (s : StreamId) (reads : List NativeRead) : Option ℕ :=
  lastRead (fun read => IsConfigAt F.getRecord s read.index) reads

/-- The position of the last configuration record read of a unique stream. -/
def lastOwnConfigRead (u : StreamId) (reads : List NativeRead) : Option ℕ :=
  lastRead (fun read => F.IsOwnConfigAt u read.index) reads

/-- The call answers without an exception. -/
def Succeeds (c : Call) : Prop := ∃ value, (call F D reader c).1 = .ok value

/-- A record that the call returns is a data record. -/
def ReadsData (c : Call) : Prop :=
  ∀ record before read info, recordOf (call F D reader c).1 = some record →
    (call F D reader c).2.nativeReads = before ++ [read] →
    F.getRecord read.index = some info → info.recordType = .data

/-- The configuration in force: if the call returns a data record whose unique stream has a
configuration record before it, then the greatest of these is the last one read of that stream. -/
def OwnInForce (c : Call) : Prop :=
  ∀ record before i handed info t, recordOf (call F D reader c).1 = some record →
    (call F D reader c).2.nativeReads = before ++ [⟨i, handed, 0⟩] →
    F.getRecord i = some info → info.recordType = .data →
    IsGreatest (F.ownConfigsBelow (F.getUniqueStreamId i) i) t →
    lastOwnConfigRead F (F.getUniqueStreamId i) before = some t

/-- What reads of data records preserve: `lastReadConfigIndex_` has its initial value for an id, or
notes the last configuration record read under it. -/
structure Noted : Prop where
  auto : reader.autoReadConfigurationRecord = true
  filled : reader.IndexFilled F
  noted : ∀ s, (reader.lastReadConfigIndex s = if s ∈ F.streams then uint32Max else 0) ∨
    lastConfigRead F s reader.nativeReads = some (reader.lastReadConfigIndex s)

theorem noted_open : Noted F ((new true : OssMultiVRSReader L).open F) where
  auto := rfl
  filled := rfl
  noted _ := .inl rfl

variable {F reader}

/-- Where the streams are apart, a noted configuration in force is that of the unique stream. -/
theorem Noted.lastOwnConfigRead_eq (hnoted : reader.Noted F) (hapart : F.ConfigsApart) {i t : ℕ}
    {info : RecordInfo} (hinfo : F.getRecord i = some info) (hdata : info.recordType = .data)
    (ht : IsGreatest (F.ownConfigsBelow (F.getUniqueStreamId i) i) t)
    (hlast : reader.lastReadConfigIndex info.streamId = t) :
    lastOwnConfigRead F (F.getUniqueStreamId i) reader.nativeReads = some t := by
  obtain ⟨hgreatest, hdefault⟩ := hapart i info t hinfo hdata ht
  rcases hnoted.noted info.streamId with hinit | hread
  · rw [hlast] at hinit
    split at hinit
    · exact absurd hinit (MultiRecordFileReader.ne_uint32Max_of_isConfigAt hgreatest.1.1)
    · rename_i hstreams
      exact absurd hinit (hdefault.resolve_left hstreams)
  · rw [hlast] at hread
    refine lastRead_of_imp
      (fun read : NativeRead => IsConfigAt F.getRecord info.streamId read.index)
      (fun read hown => hown.isConfigAt hinfo) (fun read hindex => ?_) hread
    rw [hindex]
    exact ht.1.1

/-- The automatic configuration read before a data record. -/
theorem Noted.autoReadConfiguration {reader' : OssMultiVRSReader L} {info : RecordInfo}
    (hnoted : reader.Noted F) (hinfo : F.getRecord reader.nextRecordIndex = some info)
    (hdata : info.recordType = .data)
    (hok : reader.autoReadConfiguration F D info = (.ok (), reader')) :
    reader'.Noted F ∧ reader'.nextRecordIndex = reader.nextRecordIndex ∧
      (F.ConfigsApart → ∀ t,
        IsGreatest (F.ownConfigsBelow (F.getUniqueStreamId reader.nextRecordIndex)
          reader.nextRecordIndex) t →
        lastOwnConfigRead F (F.getUniqueStreamId reader.nextRecordIndex) reader'.nativeReads =
          some t) := by
  have hle := (MultiRecordFileReader.lt_of_getRecord hinfo).le
  obtain ⟨hauto, hfilled, hcursor, ⟨hnone, hlast, hreads⟩ | ⟨t, handed, hsome, hlast, hreads⟩⟩ :=
    reader.autoReadConfiguration_eq_ok F D hnoted.auto hnoted.filled hinfo hdata hok
  · have hup := (configurationToRead_eq_none_iff F.getRecord hle).1 hnone
    refine ⟨⟨hauto, hfilled, ?_⟩, hcursor, fun hapart t ht => ?_⟩
    · rw [hlast, hreads]
      exact hnoted.noted
    · rw [hreads]
      have hgreatest := (hapart _ info t hinfo hdata ht).1
      exact hnoted.lastOwnConfigRead_eq hapart hinfo hdata ht (hup t hgreatest)
  · have hgreatest := ((configurationToRead_eq_some_iff F.getRecord hle).1 hsome).1
    refine ⟨⟨hauto, hfilled, fun s => ?_⟩, hcursor, fun hapart t' ht' => ?_⟩
    · rw [hlast, hreads, lastConfigRead, lastRead_append]
      by_cases hs : s = info.streamId
      · subst hs
        rw [Function.update_self]
        exact .inr (if_pos hgreatest.1.1)
      · have hother : ¬IsConfigAt F.getRecord s t := by
          rintro ⟨record, hrecord, hsame, -⟩
          obtain ⟨record', hrecord', hsame', -⟩ := hgreatest.1.1
          cases hrecord.symm.trans hrecord'
          exact hs (hsame.symm.trans hsame')
        rw [Function.update_of_ne hs, if_neg hother]
        exact hnoted.noted s
    · have heq : t' = t := (hapart _ info t' hinfo hdata ht').1.unique hgreatest
      rw [hreads, lastOwnConfigRead, lastRead_append, if_pos (heq ▸ ht'.1.1), heq]

/-- One successful call that reads a data record or none. -/
theorem Noted.call {c : Call} (hnoted : reader.Noted F) (hdata : reader.ReadsData F D c)
    (hok : reader.Succeeds F D c) :
    (OssMultiVRSReader.call F D reader c).2.Noted F ∧
      (F.ConfigsApart → reader.OwnInForce F D c) := by
  rcases reader.call_cases F D c with ⟨k, hcall⟩ | ⟨hnone, hidle⟩
  · obtain ⟨value, hvalue⟩ := hok
    obtain ⟨r, hr⟩ := exists_recordOf_answer (hcall ▸ hvalue)
    rw [← hcall] at hr
    obtain ⟨info, reader₁, hinfo, hauto, hthis⟩ := reader.call_eq_ok F D hcall hr
    obtain ⟨hstatus, hreader'⟩ := reader₁.readThisRecord_eq_ok F D hthis
    have hreads : (OssMultiVRSReader.call F D reader c).2.nativeReads = reader₁.nativeReads ++
        [⟨reader₁.nextRecordIndex, F.getUniqueStreamId reader₁.nextRecordIndex ∈
          reader₁.enabledStreams, 0⟩] := by
      rw [hreader', ← hstatus]
      rfl
    have hstart : (reader.cursorAt k).Noted F := ⟨hnoted.auto, hnoted.filled, hnoted.noted⟩
    have htype : info.recordType = .data := by
      by_contra hne
      have hsame : (reader.cursorAt k).autoReadConfiguration F D info =
          (.ok (), reader.cursorAt k) :=
        if_neg fun h => hne h.2
      cases hsame.symm.trans hauto
      exact hne (hdata r _ _ info hr hreads hinfo)
    obtain ⟨hnoted₁, hcursor, hforce⟩ := hstart.autoReadConfiguration D hinfo htype hauto
    have hcursor' : reader₁.nextRecordIndex = k := hcursor
    refine ⟨⟨?_, ?_, fun s => ?_⟩,
      fun hapart record before i handed info' t _ hreads' hinfo' _ ht => ?_⟩
    · rw [hreader']
      exact hnoted₁.auto
    · rw [hreader']
      exact hnoted₁.filled
    · have hnot : ¬IsConfigAt F.getRecord s k := by
        rw [isConfigAt_iff hinfo, htype]
        exact fun h => RecordType.noConfusion h.2
      rw [hreads, lastConfigRead, lastRead_append, hcursor', if_neg hnot, hreader']
      exact hnoted₁.noted s
    · obtain ⟨rfl, hlast⟩ := List.append_inj' (hreads.symm.trans hreads') rfl
      obtain ⟨hi, -, -⟩ := NativeRead.mk.inj (List.singleton_inj.1 hlast)
      have hik : k = i := hcursor'.symm.trans hi
      subst hik
      exact hforce hapart t ht
  · refine ⟨⟨?_, ?_, ?_⟩, fun _ record before i handed info t hrecord => ?_⟩
    · exact hidle.autoReadConfigurationRecord_eq.trans hnoted.auto
    · simpa only [IndexFilled, filledConfigIndex, hidle.configIndex_eq] using hnoted.filled
    · rw [hidle.lastReadConfigIndex_eq, hidle.nativeReads_eq]
      exact hnoted.noted
    · rw [hnone] at hrecord
      cases hrecord

/-! ## A run to a data record -/

/-- Where nothing fails, the record at the cursor is read. -/
theorem exists_readNextRecordInternal_blank {info : RecordInfo}
    (hinfo : F.getRecord reader.nextRecordIndex = some info) :
    ∃ r reader₁ reader', reader.autoReadConfiguration F (.blank L) info = (.ok (), reader₁) ∧
      reader₁.readThisRecord F (.blank L) info = (.ok r, reader') ∧
      reader.readNextRecordInternal F (.blank L) = (.ok r, reader') := by
  have hlt := MultiRecordFileReader.lt_of_getRecord hinfo
  have hauto : ∃ reader₁, reader.autoReadConfiguration F (.blank L) info = (.ok (), reader₁) := by
    unfold autoReadConfiguration readConfigurationRecord
    split
    · simp only
      split
      · exact ⟨_, rfl⟩
      · split
        · exact ⟨_, rfl⟩
        · exact ⟨_, rfl⟩
    · exact ⟨_, rfl⟩
  obtain ⟨reader₁, hauto⟩ := hauto
  have hthis : ∃ r reader', reader₁.readThisRecord F (.blank L) info = (.ok r, reader') :=
    ⟨_, _, rfl⟩
  obtain ⟨r, reader', hthis⟩ := hthis
  refine ⟨r, reader₁, reader', hauto, hthis, ?_⟩
  unfold readNextRecordInternal
  rw [if_neg (not_le.2 hlt)]
  simp only [hinfo, hauto, hthis]

/-- A search for any enabled stream stays at the record of one. -/
theorem call_readNextRecord (hlt : reader.nextRecordIndex < F.getRecordCount)
    (hen : F.getUniqueStreamId reader.nextRecordIndex ∈ reader.enabledStreams) :
    call F D reader .readNextRecord = answer .record (reader.readNextRecordInternal F D) := by
  have hp : ((F.getRecord reader.nextRecordIndex).any fun _ =>
      getUniqueStreamIdForRecordIndex F reader.nextRecordIndex ∈ reader.enabledStreams) = true := by
    have hrecord : F.getRecord reader.nextRecordIndex = some _ := List.getElem?_eq_getElem hlt
    rw [hrecord]
    exact decide_eq_true hen
  have hskip : reader.skipIgnoredRecords F = reader := by
    unfold skipIgnoredRecords skipTo
    rw [firstFrom_eq_self _ hlt hp]
  simp only [call, readNextRecord, hskip]

theorem gotoRecord_ofNat {i : ℕ} {info : RecordInfo} (hinfo : F.getRecord i = some info) :
    reader.gotoRecord F (.ofNat i) = (.ok (getRecordInfo F info i), reader.cursorAt i) := by
  have hlt := MultiRecordFileReader.lt_of_getRecord hinfo
  have hcast : castUInt32 (.ofNat i) = i := castUInt32_ofNat (hlt.trans F.length_records_lt)
  unfold gotoRecord getNextRecordInfo
  simp only [hcast, if_neg (not_le.2 hlt), hinfo]
  rfl

/-- The reader with all streams enabled and the cursor at `i`. -/
def readyAt (F : MultiRecordFileReader L) (i : ℕ) : OssMultiVRSReader L :=
  { (new true : OssMultiVRSReader L).open F with
    enabledStreams := F.streams.toFinset
    nextRecordIndex := i }

/-- What reading the data record at `i` first of all reads. -/
theorem call_readNextRecord_readyAt {i : ℕ} {info : RecordInfo} (hinfo : F.getRecord i = some info)
    (hdata : info.recordType = .data) :
    ∃ r before handed, (call F (.blank L) (readyAt F i) .readNextRecord).1 = .ok (.record r) ∧
      (call F (.blank L) (readyAt F i) .readNextRecord).2.nativeReads =
        before ++ [⟨i, handed, 0⟩] ∧
      ((readyAt F i).toRead F info i = none ∧ before = [] ∨
        ∃ t handed, (readyAt F i).toRead F info i = some t ∧ before = [⟨t, handed, 0⟩]) := by
  have hlt := MultiRecordFileReader.lt_of_getRecord hinfo
  have hinfo' : F.getRecord (readyAt F i).nextRecordIndex = some info := hinfo
  have hen : F.getUniqueStreamId (readyAt F i).nextRecordIndex ∈ (readyAt F i).enabledStreams :=
    List.mem_toFinset.2 (F.mem_streams i hlt)
  obtain ⟨r, reader₁, reader', hauto, hthis, hread⟩ := exists_readNextRecordInternal_blank hinfo'
  obtain ⟨-, hreader'⟩ := reader₁.readThisRecord_eq_ok F _ hthis
  obtain ⟨-, -, hcursor, hcases⟩ :=
    (readyAt F i).autoReadConfiguration_eq_ok F _ rfl rfl hinfo' hdata hauto
  have hcursor' : reader₁.nextRecordIndex = i := hcursor
  rw [call_readNextRecord (.blank L) hlt hen, hread]
  refine ⟨r, reader₁.nativeReads, F.getUniqueStreamId i ∈ reader₁.enabledStreams, rfl, ?_, ?_⟩
  · rw [answer, hreader', ← hcursor']
    rfl
  · rcases hcases with ⟨hnone, -, hreads⟩ | ⟨t, handed, hsome, -, hreads⟩
    · exact .inl ⟨hnone, hreads⟩
    · exact .inr ⟨t, handed, hsome, hreads⟩

/-- With all streams enabled, `gotoRecord` moves the cursor to any record. -/
theorem call_gotoRecord_readyAt {i : ℕ} {info : RecordInfo} (hinfo : F.getRecord i = some info) :
    call F D (call F D ((new true).open F) .enableAllStreams).2 (.gotoRecord (.ofNat i)) =
      (.ok (.info (getRecordInfo F info i)), readyAt F i) := by
  have henable : (call F D ((new true).open F) .enableAllStreams).2 =
      { (new true : OssMultiVRSReader L).open F with enabledStreams := F.streams.toFinset } := by
    have hempty : ((new true : OssMultiVRSReader L).open F).enabledStreams = ∅ := rfl
    refine (foldl_enableStreamId _ F.streams).trans ?_
    rw [hempty, Finset.empty_union]
  rw [henable]
  exact congrArg (answer .info) (gotoRecord_ofNat hinfo)

/-- **For which files every data record is read under its own configuration**: exactly those where
no other unique stream has a configuration record in between under the same id. -/
theorem own_configuration_in_force_iff (F : MultiRecordFileReader L) :
    (∀ (D : Native L) (cs : List Call),
      (call F D).Along (fun reader c => reader.ReadsData F D c ∧ reader.Succeeds F D c)
        ((new true).open F) cs →
      (call F D).Along (fun reader c => reader.OwnInForce F D c) ((new true).open F) cs) ↔
    F.ConfigsApart := by
  constructor
  · intro h i info t hinfo hdata ht
    have hle := (MultiRecordFileReader.lt_of_getRecord hinfo).le
    obtain ⟨r, before, handed, hreply, hreads, hbefore⟩ := call_readNextRecord_readyAt hinfo hdata
    have hgoto := call_gotoRecord_readyAt (.blank L) hinfo
    have hrecord : recordOf (call F (.blank L) (readyAt F i) .readNextRecord).1 = some r := by
      rw [hreply]
      rfl
    have hdataOnly : (readyAt F i).ReadsData F (.blank L) .readNextRecord := by
      intro _ _ read info' _ hreads' hinfo'
      obtain ⟨-, hlast⟩ := List.append_inj' (hreads.symm.trans hreads') rfl
      rw [List.singleton_inj] at hlast
      rw [← hlast] at hinfo'
      cases hinfo.symm.trans hinfo'
      exact hdata
    have hrun := h (.blank L) [.enableAllStreams, .gotoRecord (.ofNat i), .readNextRecord]
    simp only [Machine.along_cons, hgoto, Machine.along_nil, and_true] at hrun
    have hnone : ∀ record, recordOf (call F (.blank L) (call F (.blank L) ((new true).open F)
        .enableAllStreams).2 (.gotoRecord (.ofNat i))).1 ≠ some record := by
      rw [hgoto]
      intro record hrecord'
      cases hrecord'
    have henable : (((new true).open F : OssMultiVRSReader L)).ReadsData F (.blank L)
        .enableAllStreams := by
      intro _ _ _ _ hrecord'
      cases hrecord'
    have hforce := (hrun ⟨⟨henable, ⟨_, rfl⟩⟩,
      ⟨fun record _ _ _ hrecord' => absurd hrecord' (hnone record), ⟨_, congrArg Prod.fst hgoto⟩⟩,
      hdataOnly, ⟨_, hreply⟩⟩).2.2
    have hlast := hforce r before i handed info t hrecord hreads hinfo hdata ht
    rcases hbefore with ⟨-, rfl⟩ | ⟨t', handed', hsome, rfl⟩
    · -- no configuration was read at all
      cases hlast
    · -- the one read is that of the unique stream, and was not taken for read
      have hsingle := lastRead_append (fun read : NativeRead =>
        F.IsOwnConfigAt (F.getUniqueStreamId i) read.index) [] ⟨t', handed', 0⟩
      have hown := hsingle.symm.trans hlast
      split at hown
      · cases hown
        obtain ⟨hgreatest, hne⟩ := (configurationToRead_eq_some_iff F.getRecord hle).1 hsome
        refine ⟨hgreatest, or_iff_not_imp_left.2 fun hstreams ht => hne ?_⟩
        exact (if_neg hstreams).trans ht.symm
      · cases hown
  · intro hapart D cs hrun
    exact Machine.along_of_invariant (I := Noted F)
      (fun _ _ hnoted h => (hnoted.call D h.1 h.2).symm.imp_left fun hforce => hforce hapart)
      cs (noted_open F) hrun

/-- Two files whose streams have the same id, opened together: the stream of the second file has a
configuration record between the configuration and the data record of the first. -/
def interleavedFiles : MultiRecordFileReader .bare where
  records := [⟨.ofRat 0, ⟨1201, 1⟩, .configuration⟩, ⟨.ofRat 1, ⟨1201, 1⟩, .configuration⟩,
    ⟨.ofRat 2, ⟨1201, 1⟩, .data⟩]
  length_records_lt := by decide
  getUniqueStreamId i := if i = 1 then ⟨1201, 2⟩ else ⟨1201, 1⟩
  streamId_eq i j record record' hi hj _ := by
    have hall : ∀ r ∈ [(⟨.ofRat 0, ⟨1201, 1⟩, .configuration⟩ : RecordInfo),
        ⟨.ofRat 1, ⟨1201, 1⟩, .configuration⟩, ⟨.ofRat 2, ⟨1201, 1⟩, .data⟩],
        r.streamId = ⟨1201, 1⟩ := by decide
    rw [hall record (List.mem_of_getElem? hi), hall record' (List.mem_of_getElem? hj)]
  streams := [⟨1201, 1⟩, ⟨1201, 2⟩]
  mem_streams := by decide
  getStreamForName _ := none
  getStreamsOf _ _ := []
  getRecordFormats _ := []
  getRecordOfStream _ _ := none
  getRecordOfType _ _ _ := none
  getSerialNumber _ := ""

/-- The data record of the first file is read under the configuration of the second. -/
theorem not_own_configuration_in_force :
    ¬∀ (L : VrsLib) (F : MultiRecordFileReader L) (D : Native L) (cs : List Call),
      (call F D).Along (fun reader c => reader.ReadsData F D c ∧ reader.Succeeds F D c)
        ((new true).open F) cs →
      (call F D).Along (fun reader c => reader.OwnInForce F D c) ((new true).open F) cs := by
  intro h
  have hreads : ∀ before read, (call interleavedFiles (.blank .bare)
      (call interleavedFiles (.blank .bare) ((new true).open interleavedFiles)
        .enableAllStreams).2 (.readRecord 2)).2.nativeReads = before ++ [read] →
      before = [⟨1, true, 0⟩] ∧ read = ⟨2, true, 0⟩ := by
    intro before read hreads
    have hlog : [(⟨1, true, 0⟩ : NativeRead)] ++ [⟨2, true, 0⟩] = before ++ [read] := hreads
    obtain ⟨hbefore, hread⟩ := List.append_inj' hlog rfl
    exact ⟨hbefore.symm, (List.singleton_inj.1 hread).symm⟩
  have hrun := h .bare interleavedFiles (.blank .bare) [.enableAllStreams, .readRecord 2]
    ⟨⟨fun _ _ _ _ => nofun, ⟨_, rfl⟩⟩, ⟨fun _ before read info _ hlog hinfo => by
      obtain ⟨-, rfl⟩ := hreads before read hlog
      cases hinfo
      rfl, ⟨_, rfl⟩⟩, trivial⟩
  have hgreatest : IsGreatest (interleavedFiles.ownConfigsBelow ⟨1201, 1⟩ 2) 0 := by
    refine ⟨⟨⟨rfl, _, rfl, rfl⟩, by decide⟩, fun k hk => ?_⟩
    obtain ⟨⟨hu, -⟩, hlt⟩ := hk
    rcases k with _ | _ | k
    · exact le_rfl
    · exact absurd hu (by decide)
    · omega
  have hlast := hrun.2.1 _ [⟨1, true, 0⟩] 2 true _ 0 rfl rfl rfl rfl hgreatest
  exact absurd hlast (by decide)

end OssMultiVRSReader

/-- The streams of one file opened on its own are always apart. -/
theorem MultiRecordFileReader.configsApart_ofFile (F : RecordFileReader L) :
    (MultiRecordFileReader.ofFile F).ConfigsApart := by
  intro i info t hinfo hdata ht
  have hindex : F.index[i]? = some info := hinfo
  have hunique : (ofFile F).getUniqueStreamId i = info.streamId := by
    show (F.index[i]?.map RecordInfo.streamId).getD ⟨0, 0⟩ = info.streamId
    rw [hindex]
    rfl
  refine ⟨⟨⟨ht.1.1.isConfigAt hinfo, ht.1.2⟩, fun k hk => ht.2 ⟨?_, hk.2⟩⟩,
    .inl (F.mem_streams info (List.mem_of_getElem? hindex))⟩
  obtain ⟨⟨record, hrecord, hs, htype⟩, -⟩ := hk
  have hrecord' : F.index[k]? = some record := hrecord
  refine ⟨?_, record, hrecord, htype⟩
  rw [hunique, ← hs]
  show (F.index[k]?.map RecordInfo.streamId).getD ⟨0, 0⟩ = record.streamId
  rw [hrecord']
  rfl

end Pyvrs
