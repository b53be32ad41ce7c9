import Pyvrs.Reader.PlayedRecords

/-!
# Skipping trailing blocks

A player that has a limit answers each block as if to ask whether the next one is below it, so that
the blocks of a record that are delivered are as many as the limit says, the first ones
(`visited_eq_take`). The limit that a player asks for is that of the last call for the device type
and the type of the record (`keepsLimits`): the single-file reader takes them from the record, the
multi-file reader takes the device type from the record at the cursor, which has the one of the
record read.
-/

namespace Pyvrs

open Foundations

variable {L : VrsLib}

/-! ## The blocks of a record -/

/-- The blocks at positions from `first` on that are delivered below a limit. -/
theorem visited_eq_take_of_range' {settings : PlayerSettings} {first n : ℕ}
    (hlimit : settings.firstSkippedTrailingBlockIndex = some (first + n + 1))
    {cs : List (Callback L)} (hsizes : ∀ c ∈ cs, c.sizeKnown)
    (horder : cs.map Callback.blockIndex = List.range' first cs.length) :
    visited settings cs = cs.take (n + 1) := by
  induction cs generalizing first n with
  | nil => rfl
  | cons c cs ih =>
    rw [List.forall_mem_cons] at hsizes
    rw [List.map_cons, List.length_cons, List.range'_succ, List.cons.injEq] at horder
    obtain ⟨hindex, horder⟩ := horder
    have hmore : c.more settings = decide (first + 1 < first + n + 1) := by
      unfold Callback.more PlayerSettings.checkSkipTrailingBlocks
      rw [hlimit, hsizes.1, hindex, Bool.true_and]
    rw [visited, hmore, List.take_succ_cons]
    cases n with
    | zero => simp
    | succ n =>
      have hshift : first + (n + 1) + 1 = first + 1 + n + 1 := by omega
      rw [if_pos (decide_eq_true (by omega)), ih (hshift ▸ hlimit) hsizes.2 horder]

/-- **The blocks delivered below a limit** are the first ones, as many as the limit says. -/
theorem visited_eq_take {settings : PlayerSettings} {limit : ℕ}
    (hlimit : settings.firstSkippedTrailingBlockIndex = some limit) (hpos : limit ≠ 0)
    {cs : List (Callback L)} (hsizes : ∀ c ∈ cs, c.sizeKnown) (horder : InBlockOrder cs) :
    visited settings cs = cs.take limit := by
  obtain ⟨n, rfl⟩ := Nat.exists_eq_succ_of_ne_zero hpos
  have hlimit' : settings.firstSkippedTrailingBlockIndex = some (0 + n + 1) := by
    rw [hlimit, Nat.zero_add]
  exact visited_eq_take_of_range' hlimit' hsizes (horder.trans List.range_eq_range')

namespace PlayedRecord

/-- What limits are set for: the device type and the type of the record. -/
def key (played : PlayedRecord L) : RecordableTypeId × RecordType :=
  (played.record.streamId.typeId, played.record.recordType)

/-- The blocks of the record that a limit keeps: the first ones, as many as it says. -/
def kept (limit : Option ℕ) (played : PlayedRecord L) : List (Callback L) :=
  match limit with
  | some k => played.delivery.callbacks.take k
  | none => played.delivery.callbacks

/-- The player of a record with known sizes is given the blocks that a limit keeps, all of them
without a limit, and these are what its callbacks add to the cache. -/
def KeepsLimit (limit : Option ℕ) (played : PlayedRecord L) : Prop :=
  played.handed = true → InBlockOrder played.delivery.callbacks →
    (∀ c ∈ played.delivery.callbacks, c.sizeKnown) →
    played.delivered = played.kept limit ∧
      ∀ st : Playing L, (played.play st).cache =
        { st.cache with recordFormatVersion := played.delivery.formatVersion }.addAll
          (st.player.readBlocks played.settings played.current (played.kept limit))

/-- It is enough that the player asks for that limit. -/
theorem keepsLimit_of_eq {played : PlayedRecord L} {limit : Option ℕ}
    (hlimit : played.settings.firstSkippedTrailingBlockIndex = limit) (hpos : limit ≠ some 0) :
    played.KeepsLimit limit := by
  intro hhanded horder hsizes
  have hdelivered : played.delivered = played.kept limit := by
    unfold delivered kept
    rw [if_pos hhanded]
    cases limit with
    | none => exact visited_eq_self hlimit hsizes
    | some k => exact visited_eq_take hlimit (fun hk => hpos (congrArg some hk)) hsizes horder
  refine ⟨hdelivered, fun st => ?_⟩
  rw [played.cache_play st hhanded, hdelivered]

end PlayedRecord

/-! ## The limit in force -/

namespace Call

/-- The limit set by the last call for a device type and a type of record. -/
def limitAfter (calls : List Call) (key : RecordableTypeId × RecordType) : Option ℕ :=
  ((calls.filter (·.Limits key)).getLast?.map limit).getD none

/-- A limit of 0 is none. -/
theorem limitAfter_ne_zero (calls : List Call) (key : RecordableTypeId × RecordType) :
    limitAfter calls key ≠ some 0 := by
  unfold limitAfter
  cases (calls.filter (·.Limits key)).getLast? with
  | none => exact nofun
  | some c =>
    rw [Option.map_some, Option.getD_some]
    cases c with
    | skipTrailingBlocks typeId recordType first =>
      by_cases hfirst : first = 0 <;> simp [limit, hfirst]
    | _ => exact nofun

end Call

/-! ## The single-file reader -/

namespace OssVRSReader

variable {F : RecordFileReader L} {D : Native L} {reader : OssVRSReader L}

/-- The records that are read next are played under the limits of the reader. -/
theorem limit_of_mem_playedRecords {played : PlayedRecord L}
    (h : played ∈ reader.playedRecords F D) :
    played.settings.firstSkippedTrailingBlockIndex =
      reader.firstSkippedTrailingBlockIndex played.key := by
  unfold playedRecords at h
  cases hrecord : F.index[reader.nextRecordIndex]? with
  | none =>
    rw [hrecord] at h
    cases h
  | some record =>
    simp only [hrecord] at h
    rcases List.mem_append.1 h with hconfiguration | hthis
    · unfold playedConfiguration at hconfiguration
      split at hconfiguration
      · split at hconfiguration
        · cases hconfiguration
        · split at hconfiguration
          · cases hconfiguration
          · rw [List.mem_singleton.1 hconfiguration]
            rfl
      · cases hconfiguration
    · have hauto := congrArg ReaderSettings.firstSkippedTrailingBlockIndex
        (reader.settings_autoReadConfiguration F D record)
      rcases hread : reader.autoReadConfiguration F D record with ⟨result, reader₁⟩
      rw [hread] at hthis hauto
      cases result with
      | error e => cases hthis
      | ok =>
        rw [List.mem_singleton.1 hthis]
        exact congrFun hauto (record.streamId.typeId, record.recordType)

end OssVRSReader

/-! ## The multi-file reader -/

/-- A unique stream has the device type that its records give. -/
def MultiRecordFileReader.KeepsTypes (F : MultiRecordFileReader L) : Prop :=
  ∀ i record, F.getRecord i = some record →
    (F.getUniqueStreamId i).typeId = record.streamId.typeId

theorem MultiRecordFileReader.keepsTypes_ofFile (F : RecordFileReader L) :
    (ofFile F).KeepsTypes := by
  intro i record hrecord
  have hindex : F.index[i]? = some record := hrecord
  show ((F.index[i]?.map RecordInfo.streamId).getD ⟨0, 0⟩).typeId = record.streamId.typeId
  rw [hindex]
  rfl

namespace OssMultiVRSReader

variable {F : MultiRecordFileReader L} {D : Native L} {reader : OssMultiVRSReader L}

theorem filledConfigIndex_readThisRecord (record : RecordInfo) :
    (reader.readThisRecord F D record).2.filledConfigIndex F = reader.filledConfigIndex F := by
  by_cases hstatus : (D reader.nativeReads reader.nextRecordIndex).status = 0
  · rw [readThisRecord_of_eq F D reader record hstatus]
    rfl
  · rw [readThisRecord_of_ne F D reader record hstatus]
    rfl

theorem filledConfigIndex_readNextRecordInternal :
    (reader.readNextRecordInternal F D).2.filledConfigIndex F = reader.filledConfigIndex F := by
  unfold readNextRecordInternal
  split
  · rfl
  · split
    · rfl
    · rename_i record _
      have hauto := (reader.autoReadConfiguration_frame (F := F) (D := D) record).2
      split
      · rename_i hfailed
        rwa [hfailed] at hauto
      · rename_i reader₁ hread
        rw [hread] at hauto
        exact (reader₁.filledConfigIndex_readThisRecord record).trans hauto

/-- `configIndex_` stays what it is filled with. -/
theorem IndexFilled.call (h : reader.IndexFilled F) (c : Call) :
    (call F D reader c).2.IndexFilled F := by
  rcases reader.call_cases F D c with ⟨k, hcall⟩ | ⟨-, hidle⟩
  · rw [hcall]
    exact ((reader.cursorAt k).filledConfigIndex_readNextRecordInternal).trans h
  · simpa only [IndexFilled, filledConfigIndex, hidle.configIndex_eq] using h

/-- The records that are read next are played under the limits of the reader: the configuration
record is one of the stream of the record at the cursor. -/
theorem limit_of_mem_playedRecords (hkeeps : F.KeepsTypes) (hfilled : reader.IndexFilled F)
    {played : PlayedRecord L} (h : played ∈ reader.playedRecords F D) :
    played.settings.firstSkippedTrailingBlockIndex =
      reader.firstSkippedTrailingBlockIndex played.key := by
  unfold playedRecords at h
  cases hrecord : F.getRecord reader.nextRecordIndex with
  | none =>
    rw [hrecord] at h
    cases h
  | some record =>
    have htype := hkeeps _ record hrecord
    simp only [hrecord] at h
    rcases List.mem_append.1 h with hconfiguration | hthis
    · unfold playedConfiguration at hconfiguration
      split at hconfiguration
      · split at hconfiguration
        · cases hconfiguration
        · rename_i it htoRead
          split at hconfiguration
          · cases hconfiguration
          · rename_i configuration hit
            have hle := (MultiRecordFileReader.lt_of_getRecord hrecord).le
            rw [hfilled, configurationToRead_eq_some_iff F.getRecord hle] at htoRead
            obtain ⟨configuration', hit', hstream, -⟩ := htoRead.1.1.1
            cases hit.symm.trans hit'
            rw [List.mem_singleton.1 hconfiguration]
            show reader.firstSkippedTrailingBlockIndex
              ((F.getUniqueStreamId reader.nextRecordIndex).typeId, configuration.recordType) =
                reader.firstSkippedTrailingBlockIndex
                  (configuration.streamId.typeId, configuration.recordType)
            rw [htype, hstream]
      · cases hconfiguration
    · have hauto := congrArg ReaderSettings.firstSkippedTrailingBlockIndex
        (reader.settings_autoReadConfiguration F D record)
      have hcursor := (reader.autoReadConfiguration_frame (F := F) (D := D) record).1
      rcases hread : reader.autoReadConfiguration F D record with ⟨result, reader₁⟩
      rw [hread] at hthis hauto hcursor
      cases result with
      | error e => cases hthis
      | ok =>
        rw [List.mem_singleton.1 hthis]
        show reader₁.firstSkippedTrailingBlockIndex
          ((F.getUniqueStreamId reader₁.nextRecordIndex).typeId, record.recordType) =
            reader.firstSkippedTrailingBlockIndex (record.streamId.typeId, record.recordType)
        rw [hcursor, htype]
        exact congrFun hauto (record.streamId.typeId, record.recordType)

end OssMultiVRSReader

/-! ## Runs of calls -/

/-- **Limits are kept**: after any calls on a reader, of one file or of several, the records that it
reads next, wherever its cursor is put, are played up to the limit of the last call for their device
type and type, and no other block of theirs is in the cache. -/
theorem keepsLimits (autoReadConfigurationRecord : Bool) (calls : List Call) :
    (∀ (F : RecordFileReader L) (D : Native L) (k : ℕ),
      ∀ played ∈ (((OssVRSReader.call F D).exec
          ((OssVRSReader.new autoReadConfigurationRecord).open F) calls).cursorAt
            k).playedRecords F D,
        played.KeepsLimit (Call.limitAfter calls played.key)) ∧
    ∀ (F : MultiRecordFileReader L) (D : Native L), F.KeepsTypes → ∀ k : ℕ,
      ∀ played ∈ (((OssMultiVRSReader.call F D).exec
          ((OssMultiVRSReader.new autoReadConfigurationRecord).open F) calls).cursorAt
            k).playedRecords F D,
        played.KeepsLimit (Call.limitAfter calls played.key) := by
  constructor
  · intro F D k played hplayed
    refine PlayedRecord.keepsLimit_of_eq ?_ (Call.limitAfter_ne_zero calls played.key)
    rw [OssVRSReader.limit_of_mem_playedRecords hplayed]
    exact OssVRSReader.firstSkippedTrailingBlockIndex_exec F D _ calls played.key
  · intro F D hkeeps k played hplayed
    refine PlayedRecord.keepsLimit_of_eq ?_ (Call.limitAfter_ne_zero calls played.key)
    have hnew : ((OssMultiVRSReader.new autoReadConfigurationRecord).open F).IndexFilled F := rfl
    have hfilled : (((OssMultiVRSReader.call F D).exec
        ((OssMultiVRSReader.new autoReadConfigurationRecord).open F) calls).cursorAt
          k).IndexFilled F :=
      Machine.exec_of_invariant (I := fun reader : OssMultiVRSReader L => reader.IndexFilled F)
        (fun reader c h => h.call c) hnew calls
    rw [OssMultiVRSReader.limit_of_mem_playedRecords hkeeps hfilled hplayed]
    exact OssMultiVRSReader.firstSkippedTrailingBlockIndex_exec F D _ calls played.key

theorem length_dataFile_lt :
    [(⟨.ofRat 0, ⟨1201, 1⟩, .data⟩ : RecordInfo)].length < 2 ^ 32 := by
  decide

/-- A file with one data record. -/
def dataFile : RecordFileReader .bare :=
  .ofIndex .bare [⟨.ofRat 0, ⟨1201, 1⟩, .data⟩] length_dataFile_lt

/-- Native reads that deliver two blocks. -/
def twoBlocks : Native .bare := fun _ _ => ⟨1, [pixelAt 0, pixelAt 1], 0⟩

/-- Limited to one block, after a limit of two. -/
def limitingCalls : List Call :=
  [.enableAllStreams, .skipTrailingBlocks 1201 .data 2, .skipTrailingBlocks 1201 .undefined 1,
    .skipTrailingBlocks 1202 .undefined 0]

/-- The record, read by the single-file reader. -/
def limitedRecord : PlayedRecord .bare :=
  (((OssVRSReader.call dataFile twoBlocks).exec ((OssVRSReader.new true).open dataFile)
    limitingCalls).cursorAt 0).playedRecord twoBlocks 0 ⟨.ofRat 0, ⟨1201, 1⟩, .data⟩

/-- The record, read by the multi-file reader. -/
def limitedMultiRecord : PlayedRecord .bare :=
  (((OssMultiVRSReader.call (.ofFile dataFile) twoBlocks).exec
    ((OssMultiVRSReader.new false).open (.ofFile dataFile)) limitingCalls).cursorAt
      0).playedRecord (.ofFile dataFile) twoBlocks 0 ⟨.ofRat 0, ⟨1201, 1⟩, .data⟩

theorem keepsLimits_twoBlocks :
    (limitedRecord.delivered = [pixelAt 0] ∧ ∀ st : Playing .bare,
      (limitedRecord.play st).cache = { st.cache with recordFormatVersion := 1 }.addAll
        (st.player.readBlocks limitedRecord.settings limitedRecord.current [pixelAt 0])) ∧
    (limitedMultiRecord.delivered = [pixelAt 0] ∧ ∀ st : Playing .bare,
      (limitedMultiRecord.play st).cache = { st.cache with recordFormatVersion := 1 }.addAll
        (st.player.readBlocks limitedMultiRecord.settings limitedMultiRecord.current
          [pixelAt 0])) := by
  have hsizes : ∀ c ∈ [pixelAt 0, pixelAt 1], c.sizeKnown := by decide
  have hkeeps := MultiRecordFileReader.keepsTypes_ofFile dataFile
  exact ⟨(keepsLimits true limitingCalls).1 dataFile twoBlocks 0 limitedRecord
      (List.mem_singleton_self _) rfl rfl hsizes,
    (keepsLimits false limitingCalls).2 (.ofFile dataFile) twoBlocks hkeeps 0 limitedMultiRecord
      (List.mem_singleton_self _) rfl rfl hsizes⟩

end Pyvrs
