import Pyvrs.Reader.ConfigRecords
import Pyvrs.Reader.ContentBlocks
import Pyvrs.Reader.Settings

/-!
# The records played

`readNextRecordInternal` has up to two records read natively, a configuration record and the one at
the cursor, each by the reader as it is then. `playedRecords` lists them with all that their player
is given: what it asks of the reader, and the blocks that vrs has for it. All that a call plays is
played by `readNextRecordInternal`, at some position of the cursor.
-/

namespace Pyvrs

open Foundations

variable {L : VrsLib}

/-- A block that is given to a player, with the record it is in. -/
structure GivenBlock (L : VrsLib) where
  settings : PlayerSettings
  record : CurrentRecord
  callback : Callback L

/-- What a player does with a block. -/
def BaseVRSReaderStreamPlayer.readGiven :
    Machine (BaseVRSReaderStreamPlayer L) (GivenBlock L) (ReadBlock L)
  | player, block => player.read block.settings block.record block.callback

/-- A record that is read natively, as its player is given it. -/
structure PlayedRecord (L : VrsLib) where
  index : ℕ
  record : RecordInfo
  /-- The stream of the record has a player. -/
  handed : Bool
  settings : PlayerSettings
  delivery : Delivery L

namespace PlayedRecord

variable (played : PlayedRecord L)

/-- The record as vrs describes it to the player. -/
def current : CurrentRecord :=
  ⟨played.record.streamId, played.record.recordType, played.delivery.formatVersion⟩

/-- The read as it is listed. -/
def nativeRead : NativeRead := ⟨played.index, played.handed, played.delivery.status⟩

/-- The blocks given to the player, up to the first one after which it wants no more. -/
def delivered : List (Callback L) :=
  if played.handed then visited played.settings played.delivery.callbacks else []

/-- The cache and the player after the record is played. -/
def play (st : Playing L) : Playing L :=
  if played.handed then
    st.play played.settings played.current played.delivery.callbacks
  else st

/-- The blocks delivered, as they are given to the player. -/
def blocks : List (GivenBlock L) :=
  played.delivered.map fun callback => ⟨played.settings, played.current, callback⟩

/-- The blocks delivered, as they are read, are added to the cache. -/
theorem cache_play (st : Playing L) (h : played.handed = true) :
    (played.play st).cache =
      { st.cache with recordFormatVersion := played.delivery.formatVersion }.addAll
        (st.player.readBlocks played.settings played.current played.delivered) := by
  unfold play delivered
  rw [if_pos h, if_pos h]
  exact Playing.cache_play played.settings played.current st played.delivery.callbacks

theorem player_onCallbacks (settings : PlayerSettings) (record : CurrentRecord) (st : Playing L)
    (cs : List (Callback L)) :
    (st.onCallbacks settings record cs).player =
      BaseVRSReaderStreamPlayer.readGiven.exec st.player
        ((visited settings cs).map fun callback => ⟨settings, record, callback⟩) := by
  induction cs generalizing st with
  | nil => rfl
  | cons c cs ih =>
    rw [Playing.onCallbacks_cons, Playing.onCallback_eq, visited]
    by_cases hmore : c.more settings
    · rw [if_pos hmore, if_pos hmore, ih]
      rfl
    · rw [if_neg hmore, if_neg hmore]
      rfl

/-- The player is left as the blocks delivered leave it. -/
theorem player_play (st : Playing L) :
    (played.play st).player =
      BaseVRSReaderStreamPlayer.readGiven.exec st.player played.blocks := by
  unfold play blocks delivered
  by_cases h : played.handed = true
  · rw [if_pos h, if_pos h]
    exact player_onCallbacks played.settings played.current (st.processRecordHeader played.current)
      played.delivery.callbacks
  · rw [if_neg h, if_neg h]
    rfl

end PlayedRecord

/-! ## The single-file reader -/

namespace OssVRSReader

variable (F : RecordFileReader L) (D : Native L) (reader : OssVRSReader L)

/-- The record at an index, read by the reader. -/
def playedRecord (i : ℕ) (record : RecordInfo) : PlayedRecord L where
  index := i
  record := record
  handed := record.streamId ∈ reader.enabledStreams
  settings := reader.playerSettings record
  delivery := D reader.nativeReads i

/-- What a native read does to the cache and the player. -/
theorem nativeReadRecord_played (i : ℕ) (record : RecordInfo) :
    (⟨(reader.nativeReadRecord D i record).2.lastRecord,
        (reader.nativeReadRecord D i record).2.streamPlayer⟩ : Playing L) =
      (reader.playedRecord D i record).play ⟨reader.lastRecord, reader.streamPlayer⟩ := rfl

/-- The configuration record that is read before the record at the cursor, if any. -/
def playedConfiguration (record : RecordInfo) : List (PlayedRecord L) :=
  if reader.autoReadConfigurationRecord ∧ record.recordType = .data then
    match configurationToRead (reader.filledConfigIndex F) reader.lastReadConfigIndex
      record.streamId reader.nextRecordIndex with
    | none => []
    | some it =>
      match F.index[it]? with
      | none => []
      | some configuration => [(reader.withConfigIndex F).playedRecord D it configuration]
  else []

/-- The records that `readNextRecordInternal` has read natively. -/
def playedRecords : List (PlayedRecord L) :=
  match F.index[reader.nextRecordIndex]? with
  | none => []
  | some record =>
    reader.playedConfiguration F D record ++
      match reader.autoReadConfiguration F D record with
      | (.error _, _) => []
      | (.ok (), reader) => [reader.playedRecord D reader.nextRecordIndex record]

/-- `reader'` has played some records since it was `reader`. -/
structure Played (played : List (PlayedRecord L)) (reader reader' : OssVRSReader L) : Prop where
  nativeReads_eq :
    reader'.nativeReads = reader.nativeReads ++ played.map PlayedRecord.nativeRead
  streamPlayer_eq : reader'.streamPlayer = BaseVRSReaderStreamPlayer.readGiven.exec
    reader.streamPlayer (played.flatMap PlayedRecord.blocks)

variable {F D reader} {before after : List (PlayedRecord L)} {reader' reader'' : OssVRSReader L}

theorem Played.refl : Played [] reader reader := ⟨(List.append_nil _).symm, rfl⟩

theorem Played.trans (h : Played before reader reader') (h' : Played after reader' reader'') :
    Played (before ++ after) reader reader'' where
  nativeReads_eq := by
    rw [h'.nativeReads_eq, h.nativeReads_eq, List.map_append, List.append_assoc]
  streamPlayer_eq := by
    rw [h'.streamPlayer_eq, h.streamPlayer_eq, List.flatMap_append, Machine.exec_append]

theorem Idle.played (h : Idle reader reader') : Played [] reader reader' where
  nativeReads_eq := h.nativeReads_eq.trans (List.append_nil _).symm
  streamPlayer_eq := h.streamPlayer_eq

variable (F D reader)

theorem played_nativeReadRecord (i : ℕ) (record : RecordInfo) :
    Played [reader.playedRecord D i record] reader (reader.nativeReadRecord D i record).2 where
  nativeReads_eq := rfl
  streamPlayer_eq := by
    rw [List.flatMap_singleton, ← PlayedRecord.player_play _ ⟨reader.lastRecord, _⟩]
    rfl

theorem played_readThisRecord (record : RecordInfo) :
    Played [reader.playedRecord D reader.nextRecordIndex record] reader
      (reader.readThisRecord D record).2 := by
  have hread := reader.played_nativeReadRecord D reader.nextRecordIndex record
  by_cases hstatus : (D reader.nativeReads reader.nextRecordIndex).status = 0
  · rw [readThisRecord_of_eq D reader record hstatus]
    exact ⟨hread.nativeReads_eq, hread.streamPlayer_eq⟩
  · rw [readThisRecord_of_ne D reader record hstatus]
    exact hread

theorem played_autoReadConfiguration (record : RecordInfo) :
    Played (reader.playedConfiguration F D record) reader
      (reader.autoReadConfiguration F D record).2 := by
  unfold playedConfiguration autoReadConfiguration readConfigurationRecord
  by_cases hauto : reader.autoReadConfigurationRecord ∧ record.recordType = .data
  swap
  · rw [if_neg hauto, if_neg hauto]
    exact .refl
  rw [if_pos hauto, if_pos hauto]
  simp only
  cases configurationToRead (reader.filledConfigIndex F) reader.lastReadConfigIndex
    record.streamId reader.nextRecordIndex with
  | none => exact ⟨(List.append_nil _).symm, rfl⟩
  | some it =>
    simp only
    cases F.index[it]? with
    | none => exact ⟨(List.append_nil _).symm, rfl⟩
    | some configuration =>
      have hread := (reader.withConfigIndex F).played_nativeReadRecord D it configuration
      by_cases hstatus : (D (reader.withConfigIndex F).nativeReads it).status = 0
      · simp only [readConfigurationAt_of_eq D _ it configuration _ hstatus]
        exact ⟨hread.nativeReads_eq, hread.streamPlayer_eq⟩
      · simp only [readConfigurationAt_of_ne D _ it configuration _ hstatus]
        exact ⟨hread.nativeReads_eq, hread.streamPlayer_eq⟩

/-- `readNextRecordInternal` plays the records listed. -/
theorem played_readNextRecordInternal :
    Played (reader.playedRecords F D) reader (reader.readNextRecordInternal F D).2 := by
  unfold playedRecords readNextRecordInternal
  cases F.index[reader.nextRecordIndex]? with
  | none => exact .refl
  | some record =>
    simp only
    have hauto := reader.played_autoReadConfiguration F D record
    rcases hread : reader.autoReadConfiguration F D record with ⟨result, reader₁⟩
    rw [hread] at hauto
    cases result with
    | error e =>
      rw [List.append_nil]
      exact hauto
    | ok =>
      exact hauto.trans (reader₁.played_readThisRecord D record)

/-- The records that a call plays. -/
def playedBy (c : Call) : List (PlayedRecord L) :=
  match reader.target F c with
  | some k => (reader.cursorAt k).playedRecords F D
  | none => []

/-- **What a call plays.** -/
theorem played_call (c : Call) : Played (reader.playedBy F D c) reader (call F D reader c).2 := by
  unfold playedBy
  cases htarget : reader.target F c with
  | none => exact (reader.unread_of_target_eq_none F D htarget).2.toIdle.played
  | some k =>
    rw [reader.call_of_target F D htarget]
    have hread := (reader.cursorAt k).played_readNextRecordInternal F D
    exact ⟨hread.nativeReads_eq, hread.streamPlayer_eq⟩

/-- The records that the calls of a run play. -/
def playedIn : OssVRSReader L → List Call → List (PlayedRecord L)
  | _, [] => []
  | reader, c :: cs => reader.playedBy F D c ++ playedIn (call F D reader c).2 cs

theorem played_exec (cs : List Call) :
    Played (playedIn F D reader cs) reader ((call F D).exec reader cs) := by
  induction cs generalizing reader with
  | nil => exact .refl
  | cons c cs ih => exact (reader.played_call F D c).trans (ih _)

end OssVRSReader

/-! ## The multi-file reader -/

namespace OssMultiVRSReader

variable (F : MultiRecordFileReader L) (D : Native L) (reader : OssMultiVRSReader L)

/-- The record at an index, read by the reader. -/
def playedRecord (i : ℕ) (record : RecordInfo) : PlayedRecord L where
  index := i
  record := record
  handed := F.getUniqueStreamId i ∈ reader.enabledStreams
  settings := reader.playerSettings F record.recordType
  delivery := D reader.nativeReads i

/-- What a native read does to the cache and the player of the stream. -/
theorem nativeReadRecord_played (i : ℕ) (record : RecordInfo) :
    (⟨(reader.nativeReadRecord F D i record).2.lastRecord,
        (reader.nativeReadRecord F D i record).2.playerByStreamIdMap
          (F.getUniqueStreamId i)⟩ : Playing L) =
      (reader.playedRecord F D i record).play
        ⟨reader.lastRecord, reader.playerByStreamIdMap (F.getUniqueStreamId i)⟩ := by
  unfold nativeReadRecord
  simp only [Function.update_self]
  rfl

/-- The configuration record that is read before the record at the cursor, if any. -/
def playedConfiguration (record : RecordInfo) : List (PlayedRecord L) :=
  if reader.autoReadConfigurationRecord ∧ record.recordType = .data then
    match configurationToRead (reader.filledConfigIndex F) reader.lastReadConfigIndex
      record.streamId reader.nextRecordIndex with
    | none => []
    | some it =>
      match F.getRecord it with
      | none => []
      | some configuration => [(reader.withConfigIndex F).playedRecord F D it configuration]
  else []

/-- The records that `readNextRecordInternal` has read natively. -/
def playedRecords : List (PlayedRecord L) :=
  match F.getRecord reader.nextRecordIndex with
  | none => []
  | some record =>
    reader.playedConfiguration F D record ++
      match reader.autoReadConfiguration F D record with
      | (.error _, _) => []
      | (.ok (), reader) => [reader.playedRecord F D reader.nextRecordIndex record]

theorem nativeReads_readThisRecord (record : RecordInfo) :
    (reader.readThisRecord F D record).2.nativeReads = reader.nativeReads ++
      [(reader.playedRecord F D reader.nextRecordIndex record).nativeRead] := by
  by_cases hstatus : (D reader.nativeReads reader.nextRecordIndex).status = 0
  · rw [readThisRecord_of_eq F D reader record hstatus]
    rfl
  · rw [readThisRecord_of_ne F D reader record hstatus]
    rfl

theorem nativeReads_autoReadConfiguration (record : RecordInfo) :
    (reader.autoReadConfiguration F D record).2.nativeReads = reader.nativeReads ++
      (reader.playedConfiguration F D record).map PlayedRecord.nativeRead := by
  unfold playedConfiguration autoReadConfiguration readConfigurationRecord
  by_cases hauto : reader.autoReadConfigurationRecord ∧ record.recordType = .data
  swap
  · rw [if_neg hauto, if_neg hauto, List.map_nil, List.append_nil]
  rw [if_pos hauto, if_pos hauto]
  simp only
  cases configurationToRead (reader.filledConfigIndex F) reader.lastReadConfigIndex
    record.streamId reader.nextRecordIndex with
  | none => exact (List.append_nil _).symm
  | some it =>
    simp only
    cases F.getRecord it with
    | none => exact (List.append_nil _).symm
    | some configuration =>
      by_cases hstatus : (D (reader.withConfigIndex F).nativeReads it).status = 0
      · simp only [readConfigurationAt_of_eq F D _ it configuration _ hstatus]
        rfl
      · simp only [readConfigurationAt_of_ne F D _ it configuration _ hstatus]
        rfl

/-- `readNextRecordInternal` has the records listed read. -/
theorem nativeReads_readNextRecordInternal :
    (reader.readNextRecordInternal F D).2.nativeReads = reader.nativeReads ++
      (reader.playedRecords F D).map PlayedRecord.nativeRead := by
  unfold playedRecords readNextRecordInternal
  cases hrecord : F.getRecord reader.nextRecordIndex with
  | none =>
    have hle : F.getRecordCount ≤ reader.nextRecordIndex := List.getElem?_eq_none_iff.1 hrecord
    rw [if_pos hle]
    exact (List.append_nil _).symm
  | some record =>
    rw [if_neg (not_le.2 (MultiRecordFileReader.lt_of_getRecord hrecord))]
    simp only
    have hauto := reader.nativeReads_autoReadConfiguration F D record
    rcases hread : reader.autoReadConfiguration F D record with ⟨result, reader₁⟩
    rw [hread] at hauto
    cases result with
    | error e =>
      rw [List.append_nil]
      exact hauto
    | ok =>
      rw [List.map_append, ← List.append_assoc, ← hauto]
      exact reader₁.nativeReads_readThisRecord F D record

/-- **What a call plays**: nothing, or the records at some position of the cursor. -/
theorem nativeReads_call (c : Call) :
    (call F D reader c).2.nativeReads = reader.nativeReads ∨
      ∃ k, call F D reader c =
          answer .record ((reader.cursorAt k).readNextRecordInternal F D) ∧
        (call F D reader c).2.nativeReads = reader.nativeReads ++
          ((reader.cursorAt k).playedRecords F D).map PlayedRecord.nativeRead := by
  rcases reader.call_cases F D c with ⟨k, hcall⟩ | ⟨-, hidle⟩
  · refine .inr ⟨k, hcall, ?_⟩
    rw [hcall]
    exact (reader.cursorAt k).nativeReads_readNextRecordInternal F D
  · exact .inl hidle.nativeReads_eq

end OssMultiVRSReader

end Pyvrs
