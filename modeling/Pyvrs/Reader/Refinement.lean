import Pyvrs.Reader.ConfigRecords
import Pyvrs.Reader.MultiVRSReader
import Pyvrs.Reader.PlayerAgreement

/-!
# One file in the multi-file reader

Opened on one file, `OssMultiVRSReader` answers every call as `OssVRSReader` does, with the same
native reads and the same cursor, except that the two check a negative index differently
(`sameBehaviour_iff`): in a file of more than `2 ^ 31` records, it can turn into a position. The
simulation relates the player of one to the players of the other stream by stream.
-/

namespace Pyvrs

open Foundations

variable {L : VrsLib}

/-! ## Related readers -/

/-- The state of the multi-file reader represents that of the single-file reader of the file
`F`. -/
structure Refines (F : RecordFileReader L) (reader : OssVRSReader L)
    (multi : OssMultiVRSReader L) : Prop where
  filled : reader.IndexFilled F
  nextRecordIndex_eq : reader.nextRecordIndex = multi.nextRecordIndex
  enabledStreams_eq : reader.enabledStreams = multi.enabledStreams
  lastRecord_eq : reader.lastRecord = multi.lastRecord
  players_agree : ∀ s, reader.streamPlayer.AgreeAt s (multi.playerByStreamIdMap s)
  firstSkippedTrailingBlockIndex_eq :
    reader.firstSkippedTrailingBlockIndex = multi.firstSkippedTrailingBlockIndex
  imageConversion_eq : reader.imageConversion = multi.imageConversion
  streamImageConversion_eq : reader.streamImageConversion = multi.streamImageConversion
  encoding_eq : reader.encoding = multi.encoding
  configIndex_eq : reader.configIndex = multi.configIndex
  lastReadConfigIndex_eq : reader.lastReadConfigIndex = multi.lastReadConfigIndex
  autoReadConfigurationRecord_eq :
    reader.autoReadConfigurationRecord = multi.autoReadConfigurationRecord
  nativeReads_eq : reader.nativeReads = multi.nativeReads

/-- The results of an operation on the two readers are the same, and the readers stay related. -/
def SameResult {α : Type} (F : RecordFileReader L) (result : α × OssVRSReader L)
    (result' : α × OssMultiVRSReader L) : Prop :=
  result.1 = result'.1 ∧ Refines F result.2 result'.2

theorem refines_open (F : RecordFileReader L) (autoReadConfigurationRecord : Bool) :
    Refines F ((OssVRSReader.new autoReadConfigurationRecord).open F)
      ((OssMultiVRSReader.new autoReadConfigurationRecord).open (.ofFile F)) :=
  ⟨OssVRSReader.indexFilled_of_eq_none F _ rfl, rfl, rfl, rfl, fun s => .refl s _, rfl, rfl, rfl,
    rfl, rfl, rfl, rfl, rfl⟩

section Reads

variable {F : RecordFileReader L} (D : Native L) {reader : OssVRSReader L}
  {multi : OssMultiVRSReader L}

theorem getUniqueStreamId_ofFile {i : ℕ} {record : RecordInfo} (h : F.index[i]? = some record) :
    (MultiRecordFileReader.ofFile F).getUniqueStreamId i = record.streamId := by
  show (F.index[i]?.map RecordInfo.streamId).getD ⟨0, 0⟩ = record.streamId
  rw [h]
  rfl

/-- A record of the stream of the record at the cursor is read alike. -/
theorem Refines.nativeReadRecord (h : Refines F reader multi) {i : ℕ} {record current : RecordInfo}
    (hrecord : F.index[i]? = some record)
    (hcurrent : F.index[reader.nextRecordIndex]? = some current)
    (hstream : current.streamId = record.streamId) :
    SameResult F (reader.nativeReadRecord D i record)
      (multi.nativeReadRecord (.ofFile F) D i record) := by
  have hunique := getUniqueStreamId_ofFile hrecord
  have hsettings : reader.playerSettings record =
      multi.playerSettings (.ofFile F) record.recordType := by
    unfold OssVRSReader.playerSettings OssMultiVRSReader.playerSettings
      OssVRSReader.getImageConversion OssMultiVRSReader.getImageConversion
      OssMultiVRSReader.getUniqueStreamIdForRecordIndex
    rw [← h.nextRecordIndex_eq, getUniqueStreamId_ofFile hcurrent, hstream, h.encoding_eq,
      h.imageConversion_eq, h.streamImageConversion_eq, h.firstSkippedTrailingBlockIndex_eq]
  let delivery := D reader.nativeReads i
  let current : CurrentRecord := ⟨record.streamId, record.recordType, delivery.formatVersion⟩
  let st : Playing L := ⟨reader.lastRecord, reader.streamPlayer⟩
  let st' : Playing L := ⟨multi.lastRecord, multi.playerByStreamIdMap record.streamId⟩
  have hstart : Playing.Alike current st st' := ⟨h.lastRecord_eq, h.players_agree record.streamId⟩
  -- what is left by the read, of a stream with a player or without
  have hafter : ∀ handed : Bool,
      let after := if handed then st.play (reader.playerSettings record) current
        delivery.callbacks else st
      let after' := if handed then st'.play (reader.playerSettings record) current
        delivery.callbacks else st'
      Playing.Alike current after after' ∧
        reader.streamPlayer.AgreeOff record.streamId after.player := by
    intro handed
    cases handed with
    | true =>
      have hoff : st.player.AgreeOff current.streamId (st.play (reader.playerSettings record)
          current delivery.callbacks).player :=
        Playing.agreeOff_play _ st _
      exact ⟨Playing.play_alike _ hstart _, hoff⟩
    | false => exact ⟨hstart, .refl _ _⟩
  obtain ⟨halike, hoff⟩ := hafter (record.streamId ∈ reader.enabledStreams)
  unfold OssVRSReader.nativeReadRecord OssMultiVRSReader.nativeReadRecord
  simp only [← hsettings, hunique, ← h.nativeReads_eq, ← h.enabledStreams_eq]
  refine ⟨rfl, h.filled.congr F rfl, h.nextRecordIndex_eq, rfl, halike.cache_eq, fun s => ?_,
    h.firstSkippedTrailingBlockIndex_eq, h.imageConversion_eq, h.streamImageConversion_eq,
    h.encoding_eq, h.configIndex_eq, h.lastReadConfigIndex_eq, h.autoReadConfigurationRecord_eq,
    rfl⟩
  by_cases hs : s = record.streamId
  · subst hs
    simp only [Function.update_self]
    exact halike.agree
  · simp only [Function.update_of_ne hs]
    exact (hoff s hs).symm.trans (h.players_agree s)

theorem Refines.readConfigurationAt (h : Refines F reader multi) {t : ℕ}
    {record current : RecordInfo}
    (hrecord : F.index[t]? = some record)
    (hcurrent : F.index[reader.nextRecordIndex]? = some current)
    (hstream : current.streamId = record.streamId) (s : StreamId) :
    SameResult F (reader.readConfigurationAt D s t record)
      (multi.readConfigurationAt (.ofFile F) D s t record) := by
  obtain ⟨-, hread⟩ := h.nativeReadRecord D hrecord hcurrent hstream
  by_cases hstatus : (D reader.nativeReads t).status = 0
  · have hstatus' : (D multi.nativeReads t).status = 0 := h.nativeReads_eq ▸ hstatus
    rw [OssVRSReader.readConfigurationAt_of_eq D reader t record s hstatus,
      OssMultiVRSReader.readConfigurationAt_of_eq (.ofFile F) D multi t record s hstatus']
    refine ⟨rfl, hread.filled.congr F rfl, hread.nextRecordIndex_eq, hread.enabledStreams_eq, rfl,
      hread.players_agree,
      hread.firstSkippedTrailingBlockIndex_eq, hread.imageConversion_eq,
      hread.streamImageConversion_eq, hread.encoding_eq, hread.configIndex_eq, ?_,
      hread.autoReadConfigurationRecord_eq, hread.nativeReads_eq⟩
    exact congrArg (fun noted => Function.update noted s t) hread.lastReadConfigIndex_eq
  · have hstatus' : (D multi.nativeReads t).status ≠ 0 := h.nativeReads_eq ▸ hstatus
    rw [OssVRSReader.readConfigurationAt_of_ne D reader t record s hstatus,
      OssMultiVRSReader.readConfigurationAt_of_ne (.ofFile F) D multi t record s hstatus']
    exact ⟨rfl, hread⟩

theorem Refines.withConfigIndex (h : Refines F reader multi) :
    Refines F (reader.withConfigIndex F) (multi.withConfigIndex (.ofFile F)) := by
  refine ⟨h.filled.withConfigIndex, h.nextRecordIndex_eq, h.enabledStreams_eq, h.lastRecord_eq,
    h.players_agree, h.firstSkippedTrailingBlockIndex_eq, h.imageConversion_eq,
    h.streamImageConversion_eq, h.encoding_eq, ?_, h.lastReadConfigIndex_eq,
    h.autoReadConfigurationRecord_eq, h.nativeReads_eq⟩
  exact congrArg (fun configIndex : Option (StreamId → List ℕ) => some (configIndex.getD
    (buildConfigIndex (fun i => F.index[i]?) F.index.length))) h.configIndex_eq

/-- The configuration that both look up. -/
theorem Refines.readConfigurationRecord (h : Refines F reader multi) {record : RecordInfo}
    (hrecord : F.index[reader.nextRecordIndex]? = some record) :
    SameResult F (reader.readConfigurationRecord F D record.streamId reader.nextRecordIndex)
      (multi.readConfigurationRecord (.ofFile F) D record.streamId multi.nextRecordIndex) := by
  have hfilled' : multi.filledConfigIndex (.ofFile F) = reader.filledConfigIndex F :=
    congrArg (fun configIndex : Option (StreamId → List ℕ) => configIndex.getD
      (buildConfigIndex (fun i => F.index[i]?) F.index.length)) h.configIndex_eq.symm
  have hle := (List.getElem?_eq_some_iff.1 hrecord).1.le
  unfold OssVRSReader.readConfigurationRecord OssMultiVRSReader.readConfigurationRecord
  rw [hfilled', ← h.lastReadConfigIndex_eq, ← h.nextRecordIndex_eq]
  cases htoRead : configurationToRead (reader.filledConfigIndex F) reader.lastReadConfigIndex
    record.streamId reader.nextRecordIndex with
  | none => exact ⟨rfl, h.withConfigIndex⟩
  | some t =>
    rw [h.filled, configurationToRead_eq_some_iff _ hle] at htoRead
    obtain ⟨config, hconfig, hs, -⟩ := htoRead.1.1.1
    have hconfig' : (MultiRecordFileReader.ofFile F).getRecord t = some config := hconfig
    simp only [hconfig, hconfig']
    exact h.withConfigIndex.readConfigurationAt D hconfig hrecord hs.symm record.streamId

theorem Refines.autoReadConfiguration (h : Refines F reader multi) {record : RecordInfo}
    (hrecord : F.index[reader.nextRecordIndex]? = some record) :
    SameResult F (reader.autoReadConfiguration F D record)
      (multi.autoReadConfiguration (.ofFile F) D record) := by
  unfold OssVRSReader.autoReadConfiguration OssMultiVRSReader.autoReadConfiguration
  rw [← h.autoReadConfigurationRecord_eq]
  split
  · exact h.readConfigurationRecord D hrecord
  · exact ⟨rfl, h⟩

theorem Refines.recordRead (h : Refines F reader multi) :
    Refines F reader.recordRead multi.recordRead :=
  ⟨h.filled.congr F rfl, congrArg (· + 1) h.nextRecordIndex_eq, h.enabledStreams_eq,
    congrArg RecordCache.moved h.lastRecord_eq, h.players_agree,
    h.firstSkippedTrailingBlockIndex_eq, h.imageConversion_eq, h.streamImageConversion_eq,
    h.encoding_eq, h.configIndex_eq, h.lastReadConfigIndex_eq, h.autoReadConfigurationRecord_eq,
    h.nativeReads_eq⟩

/-- The unique id that a record is named by is that of its stream. -/
theorem Refines.pyRecord (h : Refines F reader multi) {record : RecordInfo}
    (hrecord : F.index[reader.nextRecordIndex]? = some record) :
    PyRecord.ofCache record reader.nextRecordIndex reader.lastRecord =
      multi.pyRecord (.ofFile F) record := by
  unfold OssMultiVRSReader.pyRecord
  rw [← h.nextRecordIndex_eq, ← h.lastRecord_eq, getUniqueStreamId_ofFile hrecord]
  rfl

theorem Refines.readThisRecord (h : Refines F reader multi) {record : RecordInfo}
    (hrecord : F.index[reader.nextRecordIndex]? = some record) :
    SameResult F (reader.readThisRecord D record) (multi.readThisRecord (.ofFile F) D record) := by
  obtain ⟨-, hread⟩ := h.nativeReadRecord D hrecord hrecord rfl
  rw [h.nextRecordIndex_eq] at hread
  by_cases hstatus : (D reader.nativeReads reader.nextRecordIndex).status = 0
  · have hstatus' : (D multi.nativeReads multi.nextRecordIndex).status = 0 := by
      rwa [← h.nativeReads_eq, ← h.nextRecordIndex_eq]
    rw [OssVRSReader.readThisRecord_of_eq D reader record hstatus,
      OssMultiVRSReader.readThisRecord_of_eq (.ofFile F) D multi record hstatus']
    rw [← h.nextRecordIndex_eq] at hread ⊢
    exact ⟨congrArg Except.ok (hread.pyRecord hrecord), hread.recordRead⟩
  · have hstatus' : (D multi.nativeReads multi.nextRecordIndex).status ≠ 0 := by
      rwa [← h.nativeReads_eq, ← h.nextRecordIndex_eq]
    rw [OssVRSReader.readThisRecord_of_ne D reader record hstatus,
      OssMultiVRSReader.readThisRecord_of_ne (.ofFile F) D multi record hstatus',
      h.nativeReads_eq, h.nextRecordIndex_eq]
    exact ⟨rfl, hread⟩

theorem Refines.readNextRecordInternal (h : Refines F reader multi) :
    SameResult F (reader.readNextRecordInternal F D)
      (multi.readNextRecordInternal (.ofFile F) D) := by
  unfold OssVRSReader.readNextRecordInternal OssMultiVRSReader.readNextRecordInternal
  cases hrecord : F.index[reader.nextRecordIndex]? with
  | none =>
    have hpast : (MultiRecordFileReader.ofFile F).getRecordCount ≤ multi.nextRecordIndex :=
      h.nextRecordIndex_eq ▸ List.getElem?_eq_none_iff.1 hrecord
    rw [if_pos hpast]
    exact ⟨rfl, h⟩
  | some record =>
    have hlt : multi.nextRecordIndex < (MultiRecordFileReader.ofFile F).getRecordCount :=
      h.nextRecordIndex_eq ▸ (List.getElem?_eq_some_iff.1 hrecord).1
    have hrecord' : (MultiRecordFileReader.ofFile F).getRecord multi.nextRecordIndex =
        some record := h.nextRecordIndex_eq ▸ hrecord
    have hframe := (reader.autoReadConfiguration_frame F D record).1
    obtain ⟨hresult, hafter⟩ := h.autoReadConfiguration D hrecord
    rw [if_neg (not_le.2 hlt)]
    simp only [hrecord']
    rcases hauto : reader.autoReadConfiguration F D record with ⟨result, reader₁⟩
    rcases hauto' : multi.autoReadConfiguration (.ofFile F) D record with ⟨result', multi₁⟩
    rw [hauto] at hresult hafter hframe
    rw [hauto'] at hresult hafter
    cases hresult
    cases result with
    | error e => exact ⟨rfl, hafter⟩
    | ok _ =>
      have hrecord₁ : F.index[reader₁.nextRecordIndex]? = some record := hframe.symm ▸ hrecord
      exact hafter.readThisRecord D hrecord₁

end Reads

/-! ## The operations -/

section Operations

variable {F : RecordFileReader L} (D : Native L) {reader : OssVRSReader L}
  {multi : OssMultiVRSReader L}

theorem Refines.cursorAt (h : Refines F reader multi) (k : ℕ) :
    Refines F (reader.cursorAt k) { multi with nextRecordIndex := k } :=
  ⟨h.filled.congr F rfl, rfl, h.enabledStreams_eq, h.lastRecord_eq, h.players_agree,
    h.firstSkippedTrailingBlockIndex_eq, h.imageConversion_eq, h.streamImageConversion_eq,
    h.encoding_eq, h.configIndex_eq, h.lastReadConfigIndex_eq, h.autoReadConfigurationRecord_eq,
    h.nativeReads_eq⟩

/-- Tests that agree on the records of the file move both cursors to the same position. -/
theorem Refines.skipTo (h : Refines F reader multi) {p : RecordInfo → Bool}
    {q : ℕ → RecordInfo → Bool}
    (hpq : ∀ i record, F.index[i]? = some record → p record = q i record) :
    Refines F (reader.skipTo F p) (multi.skipTo (.ofFile F) q) := by
  have hfirst : firstFrom (fun i => F.index[i]?.any p) F.index.length reader.nextRecordIndex =
      firstFrom (fun i => ((MultiRecordFileReader.ofFile F).getRecord i).any (q i))
        F.index.length multi.nextRecordIndex := by
    rw [h.nextRecordIndex_eq]
    apply firstFrom_congr
    intro i hi
    show F.index[i]?.any p = F.index[i]?.any (q i)
    rw [List.getElem?_eq_getElem hi]
    exact hpq i _ (List.getElem?_eq_getElem hi)
  have hcursor := h.cursorAt (firstFrom (fun i => F.index[i]?.any p) F.index.length
    reader.nextRecordIndex)
  have hmulti : multi.skipTo (.ofFile F) q = { multi with
      nextRecordIndex := firstFrom (fun i => F.index[i]?.any p) F.index.length
        reader.nextRecordIndex } := by
    rw [hfirst]
    rfl
  rw [hmulti]
  exact hcursor

theorem Refines.enabledStreamId (h : Refines F reader multi) (streamId : String) :
    reader.enabledStreamId F streamId = multi.enabledStreamId (.ofFile F) streamId := by
  unfold OssVRSReader.enabledStreamId OssMultiVRSReader.enabledStreamId
  rw [h.enabledStreams_eq]
  rfl

theorem Refines.foldl_enableStreamId (h : Refines F reader multi) (streams : List StreamId) :
    Refines F (streams.foldl OssVRSReader.enableStreamId reader)
      (streams.foldl OssMultiVRSReader.enableStreamId multi) := by
  induction streams generalizing reader multi with
  | nil => exact h
  | cons id streams ih =>
    have hid : Refines F (reader.enableStreamId id) (multi.enableStreamId id) :=
      ⟨h.filled.congr F rfl, h.nextRecordIndex_eq, congrArg (insert id) h.enabledStreams_eq,
        h.lastRecord_eq, h.players_agree, h.firstSkippedTrailingBlockIndex_eq,
        h.imageConversion_eq, h.streamImageConversion_eq, h.encoding_eq, h.configIndex_eq,
        h.lastReadConfigIndex_eq, h.autoReadConfigurationRecord_eq, h.nativeReads_eq⟩
    exact ih hid

theorem Refines.enableStream (h : Refines F reader multi) (streamId : String) :
    SameResult F (reader.enableStream F streamId) (multi.enableStream (.ofFile F) streamId) := by
  have hget : OssVRSReader.getStreamId F streamId =
      OssMultiVRSReader.getStreamId (.ofFile F) streamId := rfl
  unfold OssVRSReader.enableStream OssMultiVRSReader.enableStream
  rw [← hget]
  cases OssVRSReader.getStreamId F streamId with
  | error e => exact ⟨rfl, h⟩
  | ok id => exact ⟨rfl, h.foldl_enableStreamId [id]⟩

theorem Refines.setImageConversionOfId (h : Refines F reader multi) (conversion : ImageConversion)
    (id : StreamId) :
    Refines F (reader.setImageConversionOfId conversion id)
      (multi.setImageConversionOfId conversion id) :=
  ⟨h.filled.congr F rfl, h.nextRecordIndex_eq, h.enabledStreams_eq, h.lastRecord_eq,
    h.players_agree, h.firstSkippedTrailingBlockIndex_eq, h.imageConversion_eq,
    congrArg (fun policies : StreamId → Option ImageConversion =>
      Function.update policies id (some conversion)) h.streamImageConversion_eq,
    h.encoding_eq, h.configIndex_eq, h.lastReadConfigIndex_eq, h.autoReadConfigurationRecord_eq,
    h.nativeReads_eq⟩

theorem Refines.setImageConversionOfStream (h : Refines F reader multi) (streamId : String)
    (conversion : ImageConversion) :
    SameResult F (reader.setImageConversionOfStream F streamId conversion)
      (multi.setImageConversionOfStream (.ofFile F) streamId conversion) := by
  have hget : OssVRSReader.getStreamId F streamId =
      OssMultiVRSReader.getStreamId (.ofFile F) streamId := rfl
  unfold OssVRSReader.setImageConversionOfStream OssMultiVRSReader.setImageConversionOfStream
  rw [← hget]
  cases OssVRSReader.getStreamId F streamId with
  | error e => exact ⟨rfl, h⟩
  | ok id => exact ⟨rfl, h.setImageConversionOfId conversion id⟩

theorem Refines.foldl_setImageConversionOfId (h : Refines F reader multi)
    (conversion : ImageConversion) (streams : List StreamId) :
    Refines F
      (streams.foldl (fun reader id => reader.setImageConversionOfId conversion id) reader)
      (streams.foldl (fun reader id => reader.setImageConversionOfId conversion id) multi) := by
  induction streams generalizing reader multi with
  | nil => exact h
  | cons id streams ih => exact ih (h.setImageConversionOfId conversion id)

theorem Refines.skipTrailingBlocks (h : Refines F reader multi) (typeId : RecordableTypeId)
    (recordType : RecordType) (first : ℕ) :
    Refines F (reader.skipTrailingBlocks typeId recordType first)
      (multi.skipTrailingBlocks typeId recordType first) := by
  refine ⟨h.filled.congr F rfl, h.nextRecordIndex_eq, h.enabledStreams_eq, h.lastRecord_eq,
    h.players_agree, ?_, h.imageConversion_eq, h.streamImageConversion_eq, h.encoding_eq,
    h.configIndex_eq, h.lastReadConfigIndex_eq, h.autoReadConfigurationRecord_eq,
    h.nativeReads_eq⟩
  unfold OssVRSReader.skipTrailingBlocks OssMultiVRSReader.skipTrailingBlocks
  simp only [h.firstSkippedTrailingBlockIndex_eq]

theorem Refines.gotoRecord (h : Refines F reader multi) (index : Int32) :
    SameResult F (reader.gotoRecord F index) (multi.gotoRecord (.ofFile F) index) := by
  unfold OssVRSReader.gotoRecord OssMultiVRSReader.gotoRecord OssVRSReader.getNextRecordInfo
    OssMultiVRSReader.getNextRecordInfo
  simp only
  cases hrecord : F.index[castUInt32 index]? with
  | none =>
    have hpast : (MultiRecordFileReader.ofFile F).getRecordCount ≤ castUInt32 index :=
      List.getElem?_eq_none_iff.1 hrecord
    rw [if_pos hpast]
    exact ⟨rfl, h.cursorAt F.index.length⟩
  | some record =>
    have hlt : castUInt32 index < (MultiRecordFileReader.ofFile F).getRecordCount :=
      (List.getElem?_eq_some_iff.1 hrecord).1
    have hrecord' : (MultiRecordFileReader.ofFile F).getRecord (castUInt32 index) =
        some record := hrecord
    rw [if_neg (not_le.2 hlt)]
    simp only [hrecord']
    refine ⟨congrArg Except.ok ?_, h.cursorAt (castUInt32 index)⟩
    unfold OssVRSReader.getRecordInfo OssMultiVRSReader.getRecordInfo
    rw [getUniqueStreamId_ofFile hrecord]
    rfl

theorem Refines.readNextRecord (h : Refines F reader multi) :
    SameResult F (reader.readNextRecord F D) (multi.readNextRecord (.ofFile F) D) := by
  apply Refines.readNextRecordInternal
  apply h.skipTo
  intro i record hrecord
  unfold OssMultiVRSReader.getUniqueStreamIdForRecordIndex
  rw [getUniqueStreamId_ofFile hrecord, h.enabledStreams_eq]

theorem Refines.readNextRecordOfStreamAndType (h : Refines F reader multi)
    (streamId recordType : String) :
    SameResult F (reader.readNextRecordOfStreamAndType F D streamId recordType)
      (multi.readNextRecordOfStreamAndType (.ofFile F) D streamId recordType) := by
  unfold OssVRSReader.readNextRecordOfStreamAndType OssMultiVRSReader.readNextRecordOfStreamAndType
  rw [← h.enabledStreamId]
  cases reader.enabledStreamId F streamId with
  | error e => exact ⟨rfl, h⟩
  | ok id =>
    cases OssVRSReader.recordTypeFilter L recordType with
    | error e => exact ⟨rfl, h⟩
    | ok type =>
      apply Refines.readNextRecordInternal
      apply h.skipTo
      intro i record hrecord
      unfold OssVRSReader.matchStream OssMultiVRSReader.matchStream
      rw [getUniqueStreamId_ofFile hrecord, h.enabledStreams_eq]

theorem Refines.readNextRecordOfRecordableAndType (h : Refines F reader multi)
    (typeId : RecordableTypeId) (recordType : String) :
    SameResult F (reader.readNextRecordOfRecordableAndType F D typeId recordType)
      (multi.readNextRecordOfRecordableAndType (.ofFile F) D typeId recordType) := by
  unfold OssVRSReader.readNextRecordOfRecordableAndType
    OssMultiVRSReader.readNextRecordOfRecordableAndType
  rw [← h.enabledStreams_eq]
  cases OssVRSReader.recordTypeFilter L recordType with
  | error e => exact ⟨rfl, h⟩
  | ok type =>
    simp only
    split
    · apply Refines.readNextRecordInternal
      apply h.skipTo
      intro i record hrecord
      unfold OssVRSReader.matchRecordable OssMultiVRSReader.matchRecordable
      rw [getUniqueStreamId_ofFile hrecord, h.enabledStreams_eq]
    · exact ⟨rfl, h⟩

theorem Refines.readRecordOfStreamAndType (h : Refines F reader multi)
    (streamId recordType : String) (index : Int32) :
    SameResult F (reader.readRecordOfStreamAndType F D streamId recordType index)
      (multi.readRecordOfStreamAndType (.ofFile F) D streamId recordType index) := by
  unfold OssVRSReader.readRecordOfStreamAndType OssMultiVRSReader.readRecordOfStreamAndType
  rw [← h.enabledStreamId]
  cases reader.enabledStreamId F streamId with
  | error e => exact ⟨rfl, h⟩
  | ok id =>
    cases OssVRSReader.recordTypeFilter L recordType with
    | error e => exact ⟨rfl, h⟩
    | ok type =>
      have hfound : (if L.strcasecmp recordType "any" = 0 then
          (MultiRecordFileReader.ofFile F).getRecordOfStream id (castUInt32 index)
          else (MultiRecordFileReader.ofFile F).getRecordOfType id type (castUInt32 index)) =
          if L.strcasecmp recordType "any" = 0 then F.getRecordOfStream id (castUInt32 index)
          else F.getRecordOfType id type (castUInt32 index) := rfl
      simp only
      rw [hfound]
      cases if L.strcasecmp recordType "any" = 0 then F.getRecordOfStream id (castUInt32 index)
        else F.getRecordOfType id type (castUInt32 index) with
      | none => exact ⟨rfl, h.cursorAt F.index.length⟩
      | some record => exact (h.cursorAt record.val).readNextRecordInternal D

end Operations

/-! ## Negative indexes -/

section NegativeIndexes

variable {F : RecordFileReader L} (D : Native L) {reader : OssVRSReader L}
  {multi : OssMultiVRSReader L}

/-- A negative index that the conversion to `uint32_t` turns into a position of the file. -/
def WrapsInto (F : RecordFileReader L) (index : Int32) : Prop :=
  index.toInt < 0 ∧ castUInt32 index < F.index.length

instance (F : RecordFileReader L) (index : Int32) : Decidable (WrapsInto F index) :=
  inferInstanceAs (Decidable (_ ∧ _))

/-- The position of an index that does not wrap. -/
theorem getElem?_of_not_wrapsInto {index : Int32} (h : ¬WrapsInto F index) :
    F.index[castUInt32 index]? =
      if index.toInt < 0 then none else F.index[index.toInt.toNat]? := by
  split
  · rename_i hneg
    rw [List.getElem?_eq_none_iff]
    exact not_lt.1 fun hlt => h ⟨hneg, hlt⟩
  · rename_i hnonneg
    have hcast := castUInt32_of_nonneg (not_lt.1 hnonneg)
    have heq : castUInt32 index = index.toInt.toNat := by omega
    rw [heq]

theorem getTimestampForIndex_ofFile {index : Int32} (h : ¬WrapsInto F index) :
    OssVRSReader.getTimestampForIndex F index =
      OssMultiVRSReader.getTimestampForIndex (.ofFile F) index := by
  have hget : (MultiRecordFileReader.ofFile F).getRecord (castUInt32 index) = _ :=
    getElem?_of_not_wrapsInto h
  unfold OssVRSReader.getTimestampForIndex OssMultiVRSReader.getTimestampForIndex
  rw [hget]
  split
  · rfl
  · rfl

theorem getStreamIdForIndex_ofFile (index : Int32) :
    OssVRSReader.getStreamIdForIndex F index =
      OssMultiVRSReader.getStreamIdForIndex (.ofFile F) index := by
  unfold OssVRSReader.getStreamIdForIndex OssMultiVRSReader.getStreamIdForIndex
  by_cases hneg : index.toInt < 0
  · rw [if_pos hneg, if_pos (Or.inl hneg)]
  · have hcast := castUInt32_of_nonneg (not_lt.1 hneg)
    have heq : castUInt32 index = index.toInt.toNat := by omega
    rw [if_neg hneg, heq]
    cases hrecord : F.index[index.toInt.toNat]? with
    | none =>
      have hpast : (MultiRecordFileReader.ofFile F).getRecordCount ≤ index.toInt.toNat :=
        List.getElem?_eq_none_iff.1 hrecord
      rw [if_pos (Or.inr hpast)]
    | some record =>
      have hlt : index.toInt.toNat < (MultiRecordFileReader.ofFile F).getRecordCount :=
        (List.getElem?_eq_some_iff.1 hrecord).1
      rw [if_neg (by rintro (h | h) <;> omega)]
      unfold OssMultiVRSReader.getUniqueStreamIdForRecordIndex
      rw [getUniqueStreamId_ofFile hrecord]

theorem Refines.readRecord (h : Refines F reader multi) {index : Int32}
    (hindex : ¬WrapsInto F index) :
    SameResult F (reader.readRecord F D index) (multi.readRecord (.ofFile F) D index) := by
  unfold OssVRSReader.readRecord OssMultiVRSReader.readRecord
  by_cases hpast : F.index.length ≤ castUInt32 index
  · have hpast' : (MultiRecordFileReader.ofFile F).getRecordCount ≤ castUInt32 index := hpast
    rw [if_pos hpast, if_pos (Or.inr hpast')]
    exact ⟨rfl, h⟩
  · have hnot : ¬(index.toInt < 0 ∨
        (MultiRecordFileReader.ofFile F).getRecordCount ≤ castUInt32 index) := by
      rintro (hneg | hpast')
      · exact hindex ⟨hneg, not_le.1 hpast⟩
      · exact hpast hpast'
    rw [if_neg hpast, if_neg hnot]
    exact (h.cursorAt (castUInt32 index)).readNextRecordInternal D

/-! ### Lists of timestamps -/

theorem getTimestampForIndex_of_neg {index : Int32} (h : index.toInt < 0) :
    OssVRSReader.getTimestampForIndex F index = .error (.indexError "Index out of range.") :=
  if_pos h

theorem getTimestampForIndex_of_past {index : Int32} (h : F.index.length ≤ castUInt32 index) :
    OssVRSReader.getTimestampForIndex F index = .error (.indexError "Index out of range.") := by
  rw [getTimestampForIndex_ofFile fun hwraps => not_lt.2 h hwraps.2]
  unfold OssMultiVRSReader.getTimestampForIndex
  have hnone : (MultiRecordFileReader.ofFile F).getRecord (castUInt32 index) = none :=
    List.getElem?_eq_none_iff.2 h
  rw [hnone]

theorem getTimestampForIndex_of_error {index : Int32} {e : PyError}
    (h : OssVRSReader.getTimestampForIndex F index = .error e) :
    e = .indexError "Index out of range." := by
  unfold OssVRSReader.getTimestampForIndex at h
  split at h
  · cases h
    rfl
  · split at h
    · cases h
      rfl
    · cases h

/-- One index without a timestamp and the list has none. -/
theorem getTimestampListForIndices_of_error {indices : List Int32} {index : Int32}
    (hmem : index ∈ indices)
    (h : OssVRSReader.getTimestampForIndex F index = .error (.indexError "Index out of range.")) :
    OssVRSReader.getTimestampListForIndices F indices =
      .error (.indexError "Index out of range.") := by
  induction indices with
  | nil => cases hmem
  | cons first rest ih =>
    unfold OssVRSReader.getTimestampListForIndices
    cases hfirst : OssVRSReader.getTimestampForIndex F first with
    | error e =>
      rw [getTimestampForIndex_of_error hfirst]
    | ok timestamp =>
      have hne : index ≠ first := by
        rintro rfl
        cases hfirst.symm.trans h
      rw [ih (List.mem_of_ne_of_mem hne hmem)]

theorem getTimestampListForIndices_of_past {indices : List Int32} {index : Int32}
    (hmem : index ∈ indices) (h : F.index.length ≤ castUInt32 index) :
    OssMultiVRSReader.getTimestampListForIndices (.ofFile F) indices =
      .error (.indexError "Index out of range.") := by
  induction indices with
  | nil => cases hmem
  | cons first rest ih =>
    unfold OssMultiVRSReader.getTimestampListForIndices
    cases hfirst : (MultiRecordFileReader.ofFile F).getRecord (castUInt32 first) with
    | none => rfl
    | some record =>
      have hne : index ≠ first := by
        rintro rfl
        exact absurd (List.getElem?_eq_some_iff.1 hfirst).1 (not_lt.2 h)
      rw [ih (List.mem_of_ne_of_mem hne hmem)]

theorem getTimestampListForIndices_eq_ok {indices : List Int32}
    (h : ∀ index ∈ indices, castUInt32 index < F.index.length) :
    ∃ timestamps, OssMultiVRSReader.getTimestampListForIndices (.ofFile F) indices =
      .ok timestamps := by
  induction indices with
  | nil => exact ⟨[], rfl⟩
  | cons first rest ih =>
    obtain ⟨timestamps, hrest⟩ := ih fun index hmem => h index (List.mem_cons_of_mem _ hmem)
    have hfirst : (MultiRecordFileReader.ofFile F).getRecord (castUInt32 first) = some _ :=
      List.getElem?_eq_getElem (h first List.mem_cons_self)
    unfold OssMultiVRSReader.getTimestampListForIndices
    rw [hfirst, hrest]
    exact ⟨_, rfl⟩

theorem getTimestampListForIndices_ofFile {indices : List Int32}
    (h : ∀ index ∈ indices, ¬WrapsInto F index) :
    OssVRSReader.getTimestampListForIndices F indices =
      OssMultiVRSReader.getTimestampListForIndices (.ofFile F) indices := by
  induction indices with
  | nil => rfl
  | cons first rest ih =>
    unfold OssVRSReader.getTimestampListForIndices OssMultiVRSReader.getTimestampListForIndices
    rw [ih fun index hmem => h index (List.mem_cons_of_mem _ hmem),
      getTimestampForIndex_ofFile (h first List.mem_cons_self)]
    unfold OssMultiVRSReader.getTimestampForIndex
    cases (MultiRecordFileReader.ofFile F).getRecord (castUInt32 first) with
    | none => rfl
    | some record => rfl

/-- The calls that the two readers answer differently: those whose negative index one rejects and
the other takes for a position. -/
def Wraps (F : RecordFileReader L) : Call → Prop
  | .readRecord index | .getTimestampForIndex index => WrapsInto F index
  | .getTimestampListForIndices indices =>
    (∀ index ∈ indices, castUInt32 index < F.index.length) ∧ ∃ index ∈ indices, index.toInt < 0
  | _ => False

theorem getTimestampListForIndices_of_not_wraps {indices : List Int32}
    (h : ¬Wraps F (.getTimestampListForIndices indices)) :
    OssVRSReader.getTimestampListForIndices F indices =
      OssMultiVRSReader.getTimestampListForIndices (.ofFile F) indices := by
  by_cases hrange : ∀ index ∈ indices, castUInt32 index < F.index.length
  · exact getTimestampListForIndices_ofFile fun index hmem hwraps =>
      h ⟨hrange, index, hmem, hwraps.1⟩
  · push Not at hrange
    obtain ⟨index, hmem, hpast⟩ := hrange
    rw [getTimestampListForIndices_of_error hmem (getTimestampForIndex_of_past hpast),
      getTimestampListForIndices_of_past hmem hpast]

end NegativeIndexes

/-! ## Enabled indices -/

/-- Walking the list of records is walking its positions. -/
theorem enabledIndices_ofFile (F : RecordFileReader L) (types : List RecordType)
    (ids : List StreamId) (minEnabledTimestamp maxEnabledTimestamp : Timestamp) :
    ∀ fuel recordIndex, recordIndex + fuel = F.index.length →
      OssVRSReader.enabledIndices types ids minEnabledTimestamp maxEnabledTimestamp
          (F.index.drop recordIndex) recordIndex =
        OssMultiVRSReader.enabledIndices (.ofFile F) types ids minEnabledTimestamp
          maxEnabledTimestamp fuel recordIndex := by
  intro fuel
  induction fuel with
  | zero =>
    intro recordIndex hend
    rw [List.drop_of_length_le (by omega)]
    rfl
  | succ fuel ih =>
    intro recordIndex hend
    have hlt : recordIndex < F.index.length := by omega
    have hrecord : F.index[recordIndex]? = some F.index[recordIndex] :=
      List.getElem?_eq_getElem hlt
    have hrecord' : (MultiRecordFileReader.ofFile F).getRecord recordIndex =
        some F.index[recordIndex] := hrecord
    rw [List.drop_eq_getElem_cons hlt]
    unfold OssVRSReader.enabledIndices OssMultiVRSReader.enabledIndices
    simp only [hrecord', getUniqueStreamId_ofFile hrecord, ih (recordIndex + 1) (by omega)]

theorem regenerateEnabledIndices_ofFile (F : RecordFileReader L)
    (recordTypes streamIds : List String) (minEnabledTimestamp maxEnabledTimestamp : Timestamp) :
    OssVRSReader.regenerateEnabledIndices F recordTypes streamIds minEnabledTimestamp
        maxEnabledTimestamp =
      OssMultiVRSReader.regenerateEnabledIndices (.ofFile F) recordTypes streamIds
        minEnabledTimestamp maxEnabledTimestamp := by
  have hset : ∀ streamIds, OssVRSReader.streamIdSet F streamIds =
      OssMultiVRSReader.streamIdSet (.ofFile F) streamIds := by
    intro streamIds
    induction streamIds with
    | nil => rfl
    | cons streamId rest ih =>
      unfold OssVRSReader.streamIdSet OssMultiVRSReader.streamIdSet
      rw [ih]
      rfl
  unfold OssVRSReader.regenerateEnabledIndices OssMultiVRSReader.regenerateEnabledIndices
  rw [hset]
  cases OssMultiVRSReader.streamIdSet (.ofFile F) streamIds with
  | error e => rfl
  | ok ids =>
    have hall := enabledIndices_ofFile F (recordTypes.map L.toRecordType) ids minEnabledTimestamp
      maxEnabledTimestamp F.index.length 0 (Nat.zero_add _)
    exact congrArg Except.ok hall

/-! ## Calls and runs -/

section Calls

variable {F : RecordFileReader L} (D : Native L) {reader : OssVRSReader L}
  {multi : OssMultiVRSReader L}

theorem SameResult.answer {α : Type} {result : Except PyError α × OssVRSReader L}
    {result' : Except PyError α × OssMultiVRSReader L} (h : SameResult F result result')
    (value : α → Value L) :
    SameResult F (OssVRSReader.answer value result) (OssMultiVRSReader.answer value result') :=
  ⟨congrArg (Except.map value) h.1, h.2⟩

/-- **One call**: related readers answer alike, unless a negative index wraps, and stay related. -/
theorem Refines.call (h : Refines F reader multi) {c : Call} (hc : ¬Wraps F c) :
    SameResult F (OssVRSReader.call F D reader c)
      (OssMultiVRSReader.call (.ofFile F) D multi c) := by
  cases c with
  | enableStream streamId => exact (h.enableStream streamId).answer _
  | enableStreams | enableStreamsByIndexes | enableAllStreams =>
    exact ⟨rfl, h.foldl_enableStreamId _⟩
  | gotoRecord index => exact (h.gotoRecord index).answer _
  | readNextRecord => exact (h.readNextRecord D).answer _
  | readNextRecordOfStream streamId =>
    exact (h.readNextRecordOfStreamAndType D streamId "any").answer _
  | readNextRecordOfStreamAndType streamId recordType =>
    exact (h.readNextRecordOfStreamAndType D streamId recordType).answer _
  | readNextRecordOfRecordable typeId =>
    exact (h.readNextRecordOfRecordableAndType D typeId "any").answer _
  | readNextRecordOfRecordableAndType typeId recordType =>
    exact (h.readNextRecordOfRecordableAndType D typeId recordType).answer _
  | readRecord index => exact (h.readRecord D hc).answer _
  | readRecordOfStreamAndType streamId recordType index =>
    exact (h.readRecordOfStreamAndType D streamId recordType index).answer _
  | regenerateEnabledIndices recordTypes streamIds minT maxT =>
    exact ⟨congrArg (Except.map Value.indices)
      (regenerateEnabledIndices_ofFile F recordTypes streamIds minT maxT), h⟩
  | getTimestampForIndex index =>
    exact ⟨congrArg (Except.map Value.timestamp) (getTimestampForIndex_ofFile hc), h⟩
  | getTimestampListForIndices indices =>
    exact ⟨congrArg (Except.map Value.timestamps) (getTimestampListForIndices_of_not_wraps hc), h⟩
  | getStreamIdForIndex index =>
    exact ⟨congrArg (Except.map Value.name) (getStreamIdForIndex_ofFile index), h⟩
  | setEncoding encoding =>
    exact ⟨rfl, h.filled.congr F rfl, h.nextRecordIndex_eq, h.enabledStreams_eq, h.lastRecord_eq,
      h.players_agree, h.firstSkippedTrailingBlockIndex_eq, h.imageConversion_eq,
      h.streamImageConversion_eq, rfl, h.configIndex_eq, h.lastReadConfigIndex_eq,
      h.autoReadConfigurationRecord_eq, h.nativeReads_eq⟩
  | setImageConversion conversion =>
    exact ⟨rfl, h.filled.congr F rfl, h.nextRecordIndex_eq, h.enabledStreams_eq, h.lastRecord_eq,
      h.players_agree, h.firstSkippedTrailingBlockIndex_eq, rfl, rfl, h.encoding_eq,
      h.configIndex_eq, h.lastReadConfigIndex_eq, h.autoReadConfigurationRecord_eq,
      h.nativeReads_eq⟩
  | setImageConversionOfStream streamId conversion =>
    exact (h.setImageConversionOfStream streamId conversion).answer _
  | setImageConversionOfRecordable typeId conversion =>
    exact ⟨rfl, h.foldl_setImageConversionOfId conversion _⟩
  | skipTrailingBlocks typeId recordType first =>
    exact ⟨rfl, h.skipTrailingBlocks typeId recordType first⟩

theorem length_nativeReads_readThisRecord (reader : OssVRSReader L) (record : RecordInfo) :
    (reader.readThisRecord D record).2.nativeReads.length = reader.nativeReads.length + 1 := by
  by_cases hstatus : (D reader.nativeReads reader.nextRecordIndex).status = 0
  · rw [OssVRSReader.readThisRecord_of_eq D reader record hstatus]
    exact List.length_append
  · rw [OssVRSReader.readThisRecord_of_ne D reader record hstatus]
    exact List.length_append

/-- An automatic configuration read makes one native read, or none and succeeds. -/
theorem length_nativeReads_autoReadConfiguration {record : RecordInfo}
    {result : Except PyError Unit} {reader' : OssVRSReader L}
    (h : reader.autoReadConfiguration F D record = (result, reader')) :
    reader'.nativeReads.length = reader.nativeReads.length ∧ result = .ok () ∨
      reader'.nativeReads.length = reader.nativeReads.length + 1 := by
  unfold OssVRSReader.autoReadConfiguration OssVRSReader.readConfigurationRecord at h
  split at h
  · simp only at h
    split at h
    · cases h
      exact .inl ⟨rfl, rfl⟩
    · rename_i t _
      split at h
      · cases h
        exact .inl ⟨rfl, rfl⟩
      · rename_i config _
        by_cases hstatus : (D (reader.withConfigIndex F).nativeReads t).status = 0
        · rw [OssVRSReader.readConfigurationAt_of_eq D _ t config _ hstatus] at h
          cases h
          exact .inr List.length_append
        · rw [OssVRSReader.readConfigurationAt_of_ne D _ t config _ hstatus] at h
          cases h
          exact .inr List.length_append
  · cases h
    exact .inl ⟨rfl, rfl⟩

/-- A read at a position of the index makes a native read, whatever comes of it. -/
theorem length_nativeReads_lt {record : RecordInfo}
    (hrecord : F.index[reader.nextRecordIndex]? = some record) :
    reader.nativeReads.length < (reader.readNextRecordInternal F D).2.nativeReads.length := by
  unfold OssVRSReader.readNextRecordInternal
  simp only [hrecord]
  rcases h : reader.autoReadConfiguration F D record with ⟨result, reader'⟩
  cases result with
  | error e =>
    rcases length_nativeReads_autoReadConfiguration D h with ⟨-, hok⟩ | hlength
    · cases hok
    · simp only
      omega
  | ok _ =>
    have hlast := length_nativeReads_readThisRecord D reader' record
    rcases length_nativeReads_autoReadConfiguration D h with ⟨hlength, -⟩ | hlength
    · simp only
      omega
    · simp only
      omega

end Calls

/-- A reply, the message of an exception left out. -/
def outcome (reply : Reply L) : Except PyErrorKind (Value L) := reply.mapError PyError.kind

/-- What a call did to the two readers is the same: the value or the kind of error, the native reads
made so far, and the cursor. -/
structure SameStep (result : Reply L × OssVRSReader L) (result' : Reply L × OssMultiVRSReader L) :
    Prop where
  outcome_eq : outcome result.1 = outcome result'.1
  nativeReads_eq : result.2.nativeReads = result'.2.nativeReads
  nextRecordIndex_eq : result.2.nextRecordIndex = result'.2.nextRecordIndex

theorem SameResult.sameStep {F : RecordFileReader L} {result : Reply L × OssVRSReader L}
    {result' : Reply L × OssMultiVRSReader L} (h : SameResult F result result') :
    SameStep result result' :=
  ⟨congrArg outcome h.1, h.2.nativeReads_eq, h.2.nextRecordIndex_eq⟩

/-- A call whose index wraps is not answered alike. -/
theorem Refines.not_sameStep {F : RecordFileReader L} (D : Native L) {reader : OssVRSReader L}
    {multi : OssMultiVRSReader L} (h : Refines F reader multi) {c : Call} (hc : Wraps F c) :
    ¬SameStep (OssVRSReader.call F D reader c) (OssMultiVRSReader.call (.ofFile F) D multi c) := by
  intro hsame
  cases c with
  | readRecord index =>
    -- one reads the record, the other reads nothing
    obtain ⟨hneg, hlt⟩ := hc
    have hsingle := reader.call_readRecord F D index hlt
    have hrecord : F.index[(reader.cursorAt (castUInt32 index)).nextRecordIndex]? = some _ :=
      List.getElem?_eq_getElem hlt
    have hread := length_nativeReads_lt D hrecord
    have hmulti : (OssMultiVRSReader.call (.ofFile F) D multi (.readRecord index)).2 = multi := by
      simp only [OssMultiVRSReader.call, OssMultiVRSReader.readRecord, if_pos (Or.inl hneg)]
      rfl
    have hreads := hsame.nativeReads_eq
    rw [hsingle, hmulti, ← h.nativeReads_eq] at hreads
    have hlength := congrArg List.length hreads
    exact absurd hlength hread.ne'
  | getTimestampForIndex index =>
    obtain ⟨hneg, hlt⟩ := hc
    have hget : (MultiRecordFileReader.ofFile F).getRecord (castUInt32 index) = some _ :=
      List.getElem?_eq_getElem hlt
    have houtcome := hsame.outcome_eq
    simp only [OssVRSReader.call, OssMultiVRSReader.call, OssMultiVRSReader.getTimestampForIndex,
      getTimestampForIndex_of_neg hneg, hget] at houtcome
    cases houtcome
  | getTimestampListForIndices indices =>
    obtain ⟨hrange, index, hmem, hneg⟩ := hc
    obtain ⟨timestamps, hok⟩ := getTimestampListForIndices_eq_ok hrange
    have houtcome := hsame.outcome_eq
    simp only [OssVRSReader.call, OssMultiVRSReader.call, hok,
      getTimestampListForIndices_of_error hmem (getTimestampForIndex_of_neg hneg)] at houtcome
    cases houtcome
  | _ => exact hc

/-- The two readers, opened on the file, behave alike at every step of a run. -/
def SameBehaviour (F : RecordFileReader L) (D : Native L) (autoReadConfigurationRecord : Bool)
    (calls : List Call) : Prop :=
  Machine.AlongBoth (OssVRSReader.call F D) (OssMultiVRSReader.call (.ofFile F) D) SameStep
    ((OssVRSReader.new autoReadConfigurationRecord).open F)
    ((OssMultiVRSReader.new autoReadConfigurationRecord).open (.ofFile F)) calls

/-- **When the multi-file reader refines the single-file reader**: exactly in the runs where no call
has a negative index that wraps into the file. -/
theorem sameBehaviour_iff (F : RecordFileReader L) (D : Native L)
    (autoReadConfigurationRecord : Bool) (calls : List Call) :
    SameBehaviour F D autoReadConfigurationRecord calls ↔ ∀ c ∈ calls, ¬Wraps F c := by
  have hopen := refines_open F autoReadConfigurationRecord
  refine Machine.alongBoth_iff (fun reader multi c h hc => ?_) (fun reader multi c h hc => ?_)
    calls hopen
  · have hcall := h.call D hc
    exact ⟨hcall.sameStep, hcall.2⟩
  · exact h.not_sameStep D (not_not.1 hc)

/-- A file of one data record more than an `int` has nonnegative values. -/
def wrappingFile : RecordFileReader .bare :=
  .ofIndex .bare (List.replicate (2 ^ 31 + 1) ⟨.ofRat 0, ⟨1201, 1⟩, .data⟩)
    (by rw [List.length_replicate]; omega)

theorem wraps_minValue : Wraps wrappingFile (.getTimestampForIndex Int32.minValue) := by
  have hlength : wrappingFile.index.length = 2 ^ 31 + 1 := List.length_replicate
  have hcast : castUInt32 Int32.minValue = 2 ^ 31 := by decide
  refine ⟨by decide, ?_⟩
  rw [hlength, hcast]
  exact Nat.lt_succ_self _

/-- On it, one reader takes the least `int` for the position `2 ^ 31`. -/
theorem not_sameBehaviour :
    ¬∀ (L : VrsLib) (F : RecordFileReader L) (D : Native L) (autoReadConfigurationRecord : Bool)
      (calls : List Call), SameBehaviour F D autoReadConfigurationRecord calls := by
  intro h
  have hsame := (h .bare wrappingFile (.blank .bare) false
    [.getTimestampForIndex Int32.minValue]).1
  exact (refines_open wrappingFile false).not_sameStep _ wraps_minValue hsame

end Pyvrs
