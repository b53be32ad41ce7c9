import Pyvrs.Reader.Calls
import Pyvrs.Reader.MultiConfig

/-!
# What calls set

Which streams are enabled and how many blocks of a record are read is only changed by the calls that
are made for it. No read changes them, nor does a call that is refused. `settings_call` says this of
any call of either reader, and the settings after a run are found from it by induction.
-/

namespace Pyvrs

open Foundations

variable {L : VrsLib}

/-- `enabledStreams_` and `firstSkippedTrailingBlockIndex_`. -/
structure ReaderSettings where
  enabledStreams : Finset StreamId
  firstSkippedTrailingBlockIndex : RecordableTypeId × RecordType → Option ℕ

namespace Call

/-- The call sets how many blocks are read of the records of a device type and a type: it is for
these, or for all types of record. -/
def Limits (key : RecordableTypeId × RecordType) : Call → Prop
  | .skipTrailingBlocks typeId recordType _ => typeId = key.1 ∧
    if recordType ≠ .undefined then recordType = key.2
    else key.2 ∈ [RecordType.state, .data, .configuration, .tags]
  | _ => False

instance (key : RecordableTypeId × RecordType) : DecidablePred (Limits key)
  | .skipTrailingBlocks typeId recordType _ => inferInstanceAs (Decidable (typeId = key.1 ∧
      if recordType ≠ .undefined then recordType = key.2
      else key.2 ∈ [RecordType.state, .data, .configuration, .tags]))
  | .enableStream _ | .enableStreams .. | .enableStreamsByIndexes _ | .enableAllStreams
  | .gotoRecord _ | .readNextRecord | .readNextRecordOfStream _ | .readNextRecordOfStreamAndType ..
  | .readNextRecordOfRecordable _ | .readNextRecordOfRecordableAndType .. | .readRecord _
  | .readRecordOfStreamAndType .. | .regenerateEnabledIndices .. | .getTimestampForIndex _
  | .getTimestampListForIndices _ | .getStreamIdForIndex _ | .setEncoding _ | .setImageConversion _
  | .setImageConversionOfStream .. | .setImageConversionOfRecordable .. => .isFalse id

/-- The number of blocks that are read, `none` for all of them. -/
def limit : Call → Option ℕ
  | .skipTrailingBlocks _ _ first => if first ≠ 0 then some first else none
  | _ => none

end Call

namespace ReaderSettings

/-- The settings after a call that enables some streams. -/
def after (settings : ReaderSettings) (streams : List StreamId) (c : Call) : ReaderSettings where
  enabledStreams := settings.enabledStreams ∪ streams.toFinset
  firstSkippedTrailingBlockIndex key :=
    if c.Limits key then c.limit else settings.firstSkippedTrailingBlockIndex key

theorem after_of_not_limits (settings : ReaderSettings) {c : Call} (h : ∀ key, ¬c.Limits key) :
    settings.after [] c = settings := by
  unfold after
  simp only [List.toFinset_nil, Finset.union_empty, if_neg (h _)]

/-- The limits once those of some types of record are set. -/
theorem foldl_update_apply (typeId : RecordableTypeId) (first : Option ℕ) (types : List RecordType)
    (limits : RecordableTypeId × RecordType → Option ℕ) (key : RecordableTypeId × RecordType) :
    types.foldl (fun map t => Function.update map (typeId, t) first) limits key =
      if typeId = key.1 ∧ key.2 ∈ types then first else limits key := by
  induction types generalizing limits with
  | nil => simp
  | cons type types ih =>
    rw [List.foldl_cons, ih]
    by_cases htypes : typeId = key.1 ∧ key.2 ∈ types
    · rw [if_pos htypes, if_pos ⟨htypes.1, List.mem_cons_of_mem _ htypes.2⟩]
    · rw [if_neg htypes]
      by_cases hkey : key = (typeId, type)
      · subst hkey
        rw [Function.update_self, if_pos ⟨rfl, List.mem_cons_self⟩]
      · rw [Function.update_of_ne hkey, if_neg]
        rintro ⟨rfl, hmem⟩
        rcases List.mem_cons.1 hmem with htype | hmem
        · exact hkey (Prod.ext rfl htype)
        · exact htypes ⟨rfl, hmem⟩

/-- `skipTrailingBlocks` sets the limits that it is for. -/
theorem skipTrailingBlocks_apply (typeId : RecordableTypeId) (recordType : RecordType) (first : ℕ)
    (limits : RecordableTypeId × RecordType → Option ℕ) (key : RecordableTypeId × RecordType) :
    (if recordType ≠ .undefined then [recordType]
        else [RecordType.state, .data, .configuration, .tags]).foldl
      (fun map t => Function.update map (typeId, t) (if first ≠ 0 then some first else none)) limits
        key =
      if (Call.skipTrailingBlocks typeId recordType first).Limits key then
        (Call.skipTrailingBlocks typeId recordType first).limit
      else limits key := by
  rw [foldl_update_apply]
  refine if_congr (and_congr_right fun _ => ?_) rfl rfl
  by_cases htype : recordType ≠ .undefined
  · rw [if_pos htype, if_pos htype, List.mem_singleton, eq_comm]
  · rw [if_neg htype, if_neg htype]

end ReaderSettings

/-! ## The single-file reader -/

namespace OssVRSReader

variable (F : RecordFileReader L) (D : Native L) (reader : OssVRSReader L)

/-- The settings of a reader. -/
def settings : ReaderSettings := ⟨reader.enabledStreams, reader.firstSkippedTrailingBlockIndex⟩

theorem settings_readConfigurationAt (s : StreamId) (it : ℕ) (record : RecordInfo) :
    (reader.readConfigurationAt D s it record).2.settings = reader.settings := by
  by_cases hstatus : (D reader.nativeReads it).status = 0
  · rw [readConfigurationAt_of_eq D reader it record s hstatus]
    rfl
  · rw [readConfigurationAt_of_ne D reader it record s hstatus]
    rfl

theorem settings_autoReadConfiguration (record : RecordInfo) :
    (reader.autoReadConfiguration F D record).2.settings = reader.settings := by
  unfold autoReadConfiguration readConfigurationRecord
  split
  · simp only
    split
    · rfl
    · split
      · rfl
      · exact (reader.withConfigIndex F).settings_readConfigurationAt D _ _ _
  · rfl

theorem settings_readThisRecord (record : RecordInfo) :
    (reader.readThisRecord D record).2.settings = reader.settings := by
  by_cases hstatus : (D reader.nativeReads reader.nextRecordIndex).status = 0
  · rw [readThisRecord_of_eq D reader record hstatus]
    rfl
  · rw [readThisRecord_of_ne D reader record hstatus]
    rfl

/-- A read leaves the settings as they are. -/
theorem settings_readNextRecordInternal :
    (reader.readNextRecordInternal F D).2.settings = reader.settings := by
  unfold readNextRecordInternal
  split
  · rfl
  · rename_i record _
    have hauto := reader.settings_autoReadConfiguration F D record
    split
    · rename_i hfailed
      rwa [hfailed] at hauto
    · rename_i reader₁ hread
      rw [hread] at hauto
      exact (reader₁.settings_readThisRecord D record).trans hauto

theorem settings_readNextRecordOfStreamAndType (streamId recordType : String) :
    (reader.readNextRecordOfStreamAndType F D streamId recordType).2.settings =
      reader.settings := by
  unfold readNextRecordOfStreamAndType
  split
  · rfl
  · split
    · rfl
    · exact settings_readNextRecordInternal F D _

theorem settings_readNextRecordOfRecordableAndType (typeId : RecordableTypeId)
    (recordType : String) :
    (reader.readNextRecordOfRecordableAndType F D typeId recordType).2.settings =
      reader.settings := by
  unfold readNextRecordOfRecordableAndType
  split
  · rfl
  · split
    · exact settings_readNextRecordInternal F D _
    · rfl

theorem settings_readRecord (index : Int32) :
    (reader.readRecord F D index).2.settings = reader.settings := by
  unfold readRecord
  split
  · rfl
  · exact settings_readNextRecordInternal F D _

theorem settings_readRecordOfStreamAndType (streamId recordType : String) (index : Int32) :
    (reader.readRecordOfStreamAndType F D streamId recordType index).2.settings =
      reader.settings := by
  unfold readRecordOfStreamAndType
  split
  · rfl
  · split
    · rfl
    · simp only
      split
      · rfl
      · exact settings_readNextRecordInternal F D _

theorem settings_gotoRecord (index : Int32) :
    (reader.gotoRecord F index).2.settings = reader.settings := by
  unfold gotoRecord getNextRecordInfo
  split <;> rfl

theorem settings_setImageConversionOfStream (streamId : String) (conversion : ImageConversion) :
    (reader.setImageConversionOfStream F streamId conversion).2.settings = reader.settings := by
  unfold setImageConversionOfStream
  split <;> rfl

theorem settings_foldl_enableStreamId (streams : List StreamId) {c : Call}
    (h : ∀ key, ¬c.Limits key) :
    (streams.foldl enableStreamId reader).settings = reader.settings.after streams c := by
  rw [foldl_enableStreamId]
  unfold settings ReaderSettings.after
  simp only [if_neg (h _)]

theorem settings_skipTrailingBlocks (typeId : RecordableTypeId) (recordType : RecordType)
    (first : ℕ) :
    (reader.skipTrailingBlocks typeId recordType first).settings =
      reader.settings.after [] (.skipTrailingBlocks typeId recordType first) := by
  unfold settings ReaderSettings.after skipTrailingBlocks
  simp only [ReaderSettings.mk.injEq, List.toFinset_nil, Finset.union_empty, true_and]
  funext key
  exact ReaderSettings.skipTrailingBlocks_apply typeId recordType first
    reader.firstSkippedTrailingBlockIndex key

/-- **What a call does to the settings.** -/
theorem settings_call (c : Call) :
    (call F D reader c).2.settings = reader.settings.after (enables F c) c := by
  have hkept : ∀ {c : Call}, (∀ key, ¬c.Limits key) → enables F c = [] →
      reader.settings = reader.settings.after (enables F c) c := by
    intro c hc henables
    rw [henables, reader.settings.after_of_not_limits hc]
  cases c with
  | enableStream streamId =>
    show (reader.enableStream F streamId).2.settings = _
    rw [enableStream_eq, ← foldl_enableStreamId]
    exact reader.settings_foldl_enableStreamId _ fun _ => id
  | enableStreams | enableStreamsByIndexes | enableAllStreams =>
    exact reader.settings_foldl_enableStreamId _ fun _ => id
  | gotoRecord index => exact (reader.settings_gotoRecord F index).trans (hkept (fun _ => id) rfl)
  | readNextRecord =>
    exact (settings_readNextRecordInternal F D _).trans (hkept (fun _ => id) rfl)
  | readNextRecordOfStream streamId =>
    exact (reader.settings_readNextRecordOfStreamAndType F D streamId "any").trans
      (hkept (fun _ => id) rfl)
  | readNextRecordOfStreamAndType streamId recordType =>
    exact (reader.settings_readNextRecordOfStreamAndType F D streamId recordType).trans
      (hkept (fun _ => id) rfl)
  | readNextRecordOfRecordable typeId =>
    exact (reader.settings_readNextRecordOfRecordableAndType F D typeId "any").trans
      (hkept (fun _ => id) rfl)
  | readNextRecordOfRecordableAndType typeId recordType =>
    exact (reader.settings_readNextRecordOfRecordableAndType F D typeId recordType).trans
      (hkept (fun _ => id) rfl)
  | readRecord index =>
    exact (reader.settings_readRecord F D index).trans (hkept (fun _ => id) rfl)
  | readRecordOfStreamAndType streamId recordType index =>
    exact (reader.settings_readRecordOfStreamAndType F D streamId recordType index).trans
      (hkept (fun _ => id) rfl)
  | setImageConversionOfStream streamId conversion =>
    exact (reader.settings_setImageConversionOfStream F streamId conversion).trans
      (hkept (fun _ => id) rfl)
  | setImageConversionOfRecordable typeId conversion =>
    refine Eq.trans ?_ (hkept (fun _ => id) rfl)
    show (reader.setImageConversionOfRecordable F typeId conversion).2.settings = reader.settings
    unfold setImageConversionOfRecordable
    simp only [foldl_setImageConversionOfId]
    rfl
  | skipTrailingBlocks typeId recordType first =>
    exact reader.settings_skipTrailingBlocks typeId recordType first
  | regenerateEnabledIndices | getTimestampForIndex | getTimestampListForIndices
  | getStreamIdForIndex | setEncoding | setImageConversion =>
    exact hkept (fun _ => id) rfl

theorem enabledStreams_call (c : Call) :
    (call F D reader c).2.enabledStreams = reader.enabledStreams ∪ (enables F c).toFinset :=
  congrArg ReaderSettings.enabledStreams (reader.settings_call F D c)

/-- The limit after a run is that of the last call that sets it. -/
theorem firstSkippedTrailingBlockIndex_exec (cs : List Call)
    (key : RecordableTypeId × RecordType) :
    ((call F D).exec reader cs).firstSkippedTrailingBlockIndex key =
      ((cs.filter (·.Limits key)).getLast?.map Call.limit).getD
        (reader.firstSkippedTrailingBlockIndex key) :=
  Machine.read_exec_of_covers
    (fun reader : OssVRSReader L => reader.firstSkippedTrailingBlockIndex key)
    (fun reader c => congrArg (fun settings : ReaderSettings =>
      settings.firstSkippedTrailingBlockIndex key) (settings_call F D reader c)) reader cs

end OssVRSReader

/-! ## The multi-file reader -/

namespace OssMultiVRSReader

variable (F : MultiRecordFileReader L) (D : Native L) (reader : OssMultiVRSReader L)

/-- The streams that a call enables. -/
def enables : Call → List StreamId
  | .enableStream streamId => (F.getStreamForName streamId).toList
  | .enableStreams typeId flavor => F.getStreamsOf typeId flavor
  | .enableStreamsByIndexes indexes => OssVRSReader.streamsAt (playableStreams F) indexes
  | .enableAllStreams => F.streams
  | _ => []

/-- The settings of a reader. -/
def settings : ReaderSettings := ⟨reader.enabledStreams, reader.firstSkippedTrailingBlockIndex⟩

theorem settings_readConfigurationAt (s : StreamId) (it : ℕ) (record : RecordInfo) :
    (reader.readConfigurationAt F D s it record).2.settings = reader.settings := by
  by_cases hstatus : (D reader.nativeReads it).status = 0
  · rw [readConfigurationAt_of_eq F D reader it record s hstatus]
    rfl
  · rw [readConfigurationAt_of_ne F D reader it record s hstatus]
    rfl

theorem settings_autoReadConfiguration (record : RecordInfo) :
    (reader.autoReadConfiguration F D record).2.settings = reader.settings := by
  unfold autoReadConfiguration readConfigurationRecord
  split
  · simp only
    split
    · rfl
    · split
      · rfl
      · exact (reader.withConfigIndex F).settings_readConfigurationAt F D _ _ _
  · rfl

theorem settings_readThisRecord (record : RecordInfo) :
    (reader.readThisRecord F D record).2.settings = reader.settings := by
  by_cases hstatus : (D reader.nativeReads reader.nextRecordIndex).status = 0
  · rw [readThisRecord_of_eq F D reader record hstatus]
    rfl
  · rw [readThisRecord_of_ne F D reader record hstatus]
    rfl

/-- A read leaves the settings as they are. -/
theorem settings_readNextRecordInternal :
    (reader.readNextRecordInternal F D).2.settings = reader.settings := by
  unfold readNextRecordInternal
  split
  · rfl
  · split
    · rfl
    · rename_i record _
      have hauto := reader.settings_autoReadConfiguration F D record
      split
      · rename_i hfailed
        rwa [hfailed] at hauto
      · rename_i reader₁ hread
        rw [hread] at hauto
        exact (reader₁.settings_readThisRecord F D record).trans hauto

theorem settings_readNextRecordOfStreamAndType (streamId recordType : String) :
    (reader.readNextRecordOfStreamAndType F D streamId recordType).2.settings =
      reader.settings := by
  unfold readNextRecordOfStreamAndType
  split
  · rfl
  · split
    · rfl
    · exact settings_readNextRecordInternal F D _

theorem settings_readNextRecordOfRecordableAndType (typeId : RecordableTypeId)
    (recordType : String) :
    (reader.readNextRecordOfRecordableAndType F D typeId recordType).2.settings =
      reader.settings := by
  unfold readNextRecordOfRecordableAndType
  split
  · rfl
  · split
    · exact settings_readNextRecordInternal F D _
    · rfl

theorem settings_readRecord (index : Int32) :
    (reader.readRecord F D index).2.settings = reader.settings := by
  unfold readRecord
  split
  · rfl
  · exact settings_readNextRecordInternal F D _

theorem settings_readRecordOfStreamAndType (streamId recordType : String) (index : Int32) :
    (reader.readRecordOfStreamAndType F D streamId recordType index).2.settings =
      reader.settings := by
  unfold readRecordOfStreamAndType
  split
  · rfl
  · split
    · rfl
    · simp only
      split
      · rfl
      · exact settings_readNextRecordInternal F D _

theorem settings_gotoRecord (index : Int32) :
    (reader.gotoRecord F index).2.settings = reader.settings := by
  unfold gotoRecord getNextRecordInfo
  split
  · rfl
  · split <;> rfl

theorem settings_setImageConversionOfStream (streamId : String) (conversion : ImageConversion) :
    (reader.setImageConversionOfStream F streamId conversion).2.settings = reader.settings := by
  unfold setImageConversionOfStream
  split <;> rfl

theorem settings_foldl_enableStreamId (streams : List StreamId) {c : Call}
    (h : ∀ key, ¬c.Limits key) :
    (streams.foldl enableStreamId reader).settings = reader.settings.after streams c := by
  rw [foldl_enableStreamId]
  unfold settings ReaderSettings.after
  simp only [if_neg (h _)]

theorem settings_skipTrailingBlocks (typeId : RecordableTypeId) (recordType : RecordType)
    (first : ℕ) :
    (reader.skipTrailingBlocks typeId recordType first).settings =
      reader.settings.after [] (.skipTrailingBlocks typeId recordType first) := by
  unfold settings ReaderSettings.after skipTrailingBlocks
  simp only [ReaderSettings.mk.injEq, List.toFinset_nil, Finset.union_empty, true_and]
  funext key
  exact ReaderSettings.skipTrailingBlocks_apply typeId recordType first
    reader.firstSkippedTrailingBlockIndex key

/-- **What a call does to the settings.** -/
theorem settings_call (c : Call) :
    (call F D reader c).2.settings = reader.settings.after (enables F c) c := by
  have hkept : ∀ {c : Call}, (∀ key, ¬c.Limits key) → enables F c = [] →
      reader.settings = reader.settings.after (enables F c) c := by
    intro c hc henables
    rw [henables, reader.settings.after_of_not_limits hc]
  cases c with
  | enableStream streamId =>
    refine Eq.trans ?_ (reader.settings_foldl_enableStreamId _ fun _ => id)
    show (reader.enableStream F streamId).2.settings = _
    unfold enableStream getStreamId
    simp only [enables]
    cases F.getStreamForName streamId with
    | none => rfl
    | some id => rfl
  | enableStreams | enableStreamsByIndexes | enableAllStreams =>
    exact reader.settings_foldl_enableStreamId _ fun _ => id
  | gotoRecord index => exact (reader.settings_gotoRecord F index).trans (hkept (fun _ => id) rfl)
  | readNextRecord =>
    exact (settings_readNextRecordInternal F D _).trans (hkept (fun _ => id) rfl)
  | readNextRecordOfStream streamId =>
    exact (reader.settings_readNextRecordOfStreamAndType F D streamId "any").trans
      (hkept (fun _ => id) rfl)
  | readNextRecordOfStreamAndType streamId recordType =>
    exact (reader.settings_readNextRecordOfStreamAndType F D streamId recordType).trans
      (hkept (fun _ => id) rfl)
  | readNextRecordOfRecordable typeId =>
    exact (reader.settings_readNextRecordOfRecordableAndType F D typeId "any").trans
      (hkept (fun _ => id) rfl)
  | readNextRecordOfRecordableAndType typeId recordType =>
    exact (reader.settings_readNextRecordOfRecordableAndType F D typeId recordType).trans
      (hkept (fun _ => id) rfl)
  | readRecord index =>
    exact (reader.settings_readRecord F D index).trans (hkept (fun _ => id) rfl)
  | readRecordOfStreamAndType streamId recordType index =>
    exact (reader.settings_readRecordOfStreamAndType F D streamId recordType index).trans
      (hkept (fun _ => id) rfl)
  | setImageConversionOfStream streamId conversion =>
    exact (reader.settings_setImageConversionOfStream F streamId conversion).trans
      (hkept (fun _ => id) rfl)
  | setImageConversionOfRecordable typeId conversion =>
    refine Eq.trans ?_ (hkept (fun _ => id) rfl)
    show (reader.setImageConversionOfRecordable F typeId conversion).2.settings = reader.settings
    unfold setImageConversionOfRecordable
    simp only [foldl_setImageConversionOfId]
    rfl
  | skipTrailingBlocks typeId recordType first =>
    exact reader.settings_skipTrailingBlocks typeId recordType first
  | regenerateEnabledIndices | getTimestampForIndex | getTimestampListForIndices
  | getStreamIdForIndex | setEncoding | setImageConversion =>
    exact hkept (fun _ => id) rfl

theorem enabledStreams_call (c : Call) :
    (call F D reader c).2.enabledStreams = reader.enabledStreams ∪ (enables F c).toFinset :=
  congrArg ReaderSettings.enabledStreams (reader.settings_call F D c)

/-- The limit after a run is that of the last call that sets it. -/
theorem firstSkippedTrailingBlockIndex_exec (cs : List Call)
    (key : RecordableTypeId × RecordType) :
    ((call F D).exec reader cs).firstSkippedTrailingBlockIndex key =
      ((cs.filter (·.Limits key)).getLast?.map Call.limit).getD
        (reader.firstSkippedTrailingBlockIndex key) :=
  Machine.read_exec_of_covers
    (fun reader : OssMultiVRSReader L => reader.firstSkippedTrailingBlockIndex key)
    (fun reader c => congrArg (fun settings : ReaderSettings =>
      settings.firstSkippedTrailingBlockIndex key) (settings_call F D reader c)) reader cs

end OssMultiVRSReader

end Pyvrs
