import Pyvrs.Foundations.KeyedCache
import Pyvrs.Reader.PlayedRecords

/-!
# The cache of normalization options

A player keeps for each stream the options that it last computed, for the pixel format of a frame
and under the configuration captured then. A frame of another format has them computed again, and a
configuration that is captured drops those of its stream. So the options used for a frame are always
those of its format and of the last configuration of its stream (`setBlock_normalizes`).
-/

namespace Pyvrs

open Foundations

variable {L : VrsLib}

/-! ## Configurations captured -/

namespace GivenBlock

/-- The block is metadata of a configuration record of a stream. -/
def Captures (streamId : StreamId) (block : GivenBlock L) : Prop :=
  block.record.streamId = streamId ∧ block.record.recordType = .configuration ∧
    block.callback.dataLayout?.isSome

instance (streamId : StreamId) : DecidablePred (Captures (L := L) streamId) := fun block =>
  inferInstanceAs (Decidable (block.record.streamId = streamId ∧
    block.record.recordType = .configuration ∧ block.callback.dataLayout?.isSome))

/-- The configuration that is captured from a block for its stream. -/
def captured (block : GivenBlock L) : Option L.NormalizeOptionsConfig :=
  block.callback.dataLayout?.map (L.captureNormalizeOptionsConfig block.record.streamId)

/-- The configuration last captured for a stream. -/
def lastCaptured (streamId : StreamId) (blocks : List (GivenBlock L)) :
    Option L.NormalizeOptionsConfig :=
  ((blocks.filter (·.Captures streamId)).getLast?.map captured).getD none

end GivenBlock

namespace BaseVRSReaderStreamPlayer

variable (player : BaseVRSReaderStreamPlayer L)

/-! ## One block -/

/-- The entries of `streamNormalizeOptions_`. -/
def normalizeEntry : CacheEntry (CachedNormalizeOptions L) PixelFormat L.NormalizeOptions :=
  ⟨CachedNormalizeOptions.sourcePixelFormat, CachedNormalizeOptions.options⟩

/-- The options held are those computed for their format under the configuration held. -/
def Coherent : Prop :=
  normalizeEntry.Coherent player.streamNormalizeOptions player.computeNormalizeOptions

theorem normalizeOptions_fst (streamId : StreamId) (pixelFormat : PixelFormat) :
    (player.normalizeOptions streamId pixelFormat).1 =
      normalizeEntry.lookup player.streamNormalizeOptions player.computeNormalizeOptions streamId
        pixelFormat := by
  unfold normalizeOptions CacheEntry.lookup normalizeEntry
  cases player.streamNormalizeOptions streamId with
  | none => rfl
  | some cached =>
    by_cases hformat : cached.sourcePixelFormat = pixelFormat
    · simp only [if_pos hformat]
    · simp only [if_neg hformat]

/-- The options that are looked up are put in the cache, or were there. -/
theorem normalizeOptions_snd (streamId : StreamId) (pixelFormat : PixelFormat) :
    (player.normalizeOptions streamId pixelFormat).2 = player ∨
      (player.normalizeOptions streamId pixelFormat).2 = { player with
        streamNormalizeOptions := Function.update player.streamNormalizeOptions streamId
          (some ⟨pixelFormat, player.computeNormalizeOptions streamId pixelFormat⟩) } := by
  unfold normalizeOptions
  cases player.streamNormalizeOptions streamId with
  | none => exact .inr rfl
  | some cached =>
    by_cases hformat : cached.sourcePixelFormat = pixelFormat
    · simp only [if_pos hformat]
      exact .inl trivial
    · simp only [if_neg hformat]
      exact .inr trivial

/-- A block that is not metadata looks up options at most. -/
theorem readContent_snd (settings : PlayerSettings) (record : CurrentRecord)
    (contentBlock : ContentBlock L) (reader : BlockReader) :
    (player.readContent settings record contentBlock reader).2 = player ∨
      ∃ pixelFormat, (player.readContent settings record contentBlock reader).2 =
        (player.normalizeOptions record.streamId pixelFormat).2 := by
  unfold readContent
  split
  · exact .inl rfl
  · exact .inl rfl
  · unfold readBlock
    by_cases hoff : contentBlock.contentType ≠ .image ∨ settings.imageConversion = .off
    · rw [if_pos hoff]
      exact .inl rfl
    rw [if_neg hoff]
    by_cases hraw : settings.imageConversion = .rawBuffer
    · rw [if_pos hraw]
      exact .inl rfl
    rw [if_neg hraw]
    by_cases hbackdoor : settings.imageConversion = .recordUnreadBytesBackdoor
    · rw [if_pos hbackdoor]
      exact .inl rfl
    rw [if_neg hbackdoor]
    cases reader.readFrame with
    | none => exact .inl rfl
    | some frame =>
      simp only
      split
      · exact .inr ⟨frame.getPixelFormat, rfl⟩
      · exact .inl rfl

/-- **What a block does to a player**: it captures a configuration, or looks up options at most. -/
theorem readGiven_snd (block : GivenBlock L) :
    (∃ dl, block.callback.dataLayout? = some dl ∧ block.record.recordType = .configuration ∧
      (player.readGiven block).2 = player.captureNormalizeOptionsConfig block.record dl) ∨
    (∀ streamId, ¬block.Captures streamId) ∧
      ((player.readGiven block).2 = player ∨
        ∃ streamId pixelFormat, (player.readGiven block).2 =
          (player.normalizeOptions streamId pixelFormat).2) := by
  obtain ⟨settings, record, callback⟩ := block
  have hcontent : ∀ contentBlock reader,
      (player.readContent settings record contentBlock reader).2 = player ∨
        ∃ streamId pixelFormat, (player.readContent settings record contentBlock reader).2 =
          (player.normalizeOptions streamId pixelFormat).2 := fun contentBlock reader =>
    (player.readContent_snd settings record contentBlock reader).imp_right
      fun ⟨pixelFormat, h⟩ => ⟨record.streamId, pixelFormat, h⟩
  cases callback with
  | dataLayout i dl =>
    by_cases htype : record.recordType = .configuration
    · exact .inl ⟨dl, rfl, htype, if_pos htype⟩
    · exact .inr ⟨fun streamId h => htype h.2.1, .inl (if_neg htype)⟩
  | image i cb reader | audio i cb reader | custom i cb reader | unsupported i cb reader =>
    exact .inr ⟨fun streamId h => absurd h.2.2 nofun, hcontent cb reader⟩

theorem streamNormalizeConfigs_normalizeOptions (streamId : StreamId) (pixelFormat : PixelFormat) :
    (player.normalizeOptions streamId pixelFormat).2.streamNormalizeConfigs =
      player.streamNormalizeConfigs := by
  rcases player.normalizeOptions_snd streamId pixelFormat with h | h
  · rw [h]
  · rw [h]

/-- The configuration of a stream is the one that is captured, or the one there was. -/
theorem streamNormalizeConfigs_readGiven (block : GivenBlock L) (streamId : StreamId) :
    (player.readGiven block).2.streamNormalizeConfigs streamId =
      if block.Captures streamId then block.captured
      else player.streamNormalizeConfigs streamId := by
  rcases player.readGiven_snd block with ⟨dl, hdl, htype, h⟩ | ⟨hnone, h⟩
  · rw [h]
    unfold captureNormalizeOptionsConfig
    by_cases hstream : block.record.streamId = streamId
    · subst hstream
      rw [if_pos ⟨rfl, htype, by rw [hdl]; rfl⟩, GivenBlock.captured, hdl]
      exact Function.update_self ..
    · rw [if_neg fun hcaptures => hstream hcaptures.1]
      exact Function.update_of_ne (Ne.symm hstream) ..
  · rw [if_neg (hnone streamId)]
    rcases h with h | ⟨_, _, h⟩
    · rw [h]
    · rw [h, streamNormalizeConfigs_normalizeOptions]

variable {player}

theorem Coherent.normalizeOptions (h : player.Coherent) (streamId : StreamId)
    (pixelFormat : PixelFormat) : (player.normalizeOptions streamId pixelFormat).2.Coherent := by
  rcases player.normalizeOptions_snd streamId pixelFormat with hsame | hput
  · rwa [hsame]
  · rw [hput]
    exact CacheEntry.Coherent.update h rfl

/-- A configuration that is captured changes what is computed for its stream only. -/
theorem Coherent.captureNormalizeOptionsConfig (h : player.Coherent) (record : CurrentRecord)
    (dl : L.DataLayout) : (player.captureNormalizeOptionsConfig record dl).Coherent := by
  refine CacheEntry.Coherent.invalidate h fun streamId hstream => ?_
  unfold computeNormalizeOptions BaseVRSReaderStreamPlayer.captureNormalizeOptionsConfig
  funext pixelFormat
  simp only [Function.update_of_ne hstream]

/-- **The cache stays coherent.** -/
theorem Coherent.readGiven (h : player.Coherent) (block : GivenBlock L) :
    (player.readGiven block).2.Coherent := by
  rcases player.readGiven_snd block with ⟨dl, -, -, heq⟩ | ⟨-, heq | ⟨_, _, heq⟩⟩
  · rw [heq]
    exact h.captureNormalizeOptionsConfig block.record dl
  · rwa [heq]
  · rw [heq]
    exact h.normalizeOptions _ _

/-! ## Runs of blocks -/

/-- The configuration held after a run is the one that was captured last. -/
theorem streamNormalizeConfigs_exec (given : List (GivenBlock L)) (streamId : StreamId) :
    (BaseVRSReaderStreamPlayer.readGiven.exec new given).streamNormalizeConfigs streamId =
      GivenBlock.lastCaptured streamId given :=
  Machine.read_exec_of_covers
    (fun player : BaseVRSReaderStreamPlayer L => player.streamNormalizeConfigs streamId)
    (fun player block => player.streamNormalizeConfigs_readGiven block streamId) new given

theorem coherent_new : (new : BaseVRSReaderStreamPlayer L).Coherent := CacheEntry.coherent_empty

theorem coherent_exec (given : List (GivenBlock L)) :
    (BaseVRSReaderStreamPlayer.readGiven.exec new given).Coherent :=
  Machine.exec_of_invariant (I := Coherent) (fun _ block h => h.readGiven block)
    coherent_new given

/-- The block that `setBlock` makes of a frame normalized with some options. -/
def normalizedBlock (contentBlock : ContentBlock L) (frame : PixelFrame) (grey16supported : Bool)
    (options : L.NormalizeOptions) : ContentBlockBuffer L :=
  let converted := L.normalizeFrame frame grey16supported options
  { ContentBlockBuffer.ofBlock contentBlock with
    spec := .ofImage L converted.spec (L.getBlockSize converted.spec)
    bytes := converted.buffer
    structuredArray := true }

/-- The block that is set is the frame normalized with the options looked up. -/
theorem setBlock_of_frame (player : BaseVRSReaderStreamPlayer L) {settings : PlayerSettings}
    (held : List (ContentBlockBuffer L)) (record : CurrentRecord) (blockIndex : ℕ)
    {contentBlock : ContentBlock L} {reader : BlockReader} {frame : PixelFrame}
    (himage : contentBlock.contentType = .image)
    (hsize : ∃ size, contentBlock.blockSize = some (size + 1))
    (hpolicy : settings.imageConversion = .normalize ∨ settings.imageConversion = .normalizeGrey8)
    (hframe : reader.readFrame = some frame) :
    (player.setBlock settings held record blockIndex contentBlock reader).2.1 =
      place held (blockIndex, normalizedBlock contentBlock frame
        (settings.imageConversion = .normalize)
        (player.normalizeOptions record.streamId frame.getPixelFormat).1) := by
  obtain ⟨size, hsize⟩ := hsize
  have hoff : ¬(contentBlock.contentType ≠ .image ∨ settings.imageConversion = .off) := by
    rcases hpolicy with h | h <;> simp [himage, h]
  have hraw : settings.imageConversion ≠ .rawBuffer := by
    rcases hpolicy with h | h <;> simp [h]
  have hbackdoor : settings.imageConversion ≠ .recordUnreadBytesBackdoor := by
    rcases hpolicy with h | h <;> simp [h]
  rw [setBlock_eq]
  refine congrArg (fun block => place held (blockIndex, block)) ?_
  unfold readContent
  rw [hsize]
  unfold readBlock
  simp only [if_neg hoff, if_neg hraw, if_neg hbackdoor, hframe, if_pos hpolicy]
  rfl

/-- A player that was given some blocks normalizes a frame with the options for its stream, its
format and the configuration last captured for the stream, or the default one. -/
def SetsNormalized (player : BaseVRSReaderStreamPlayer L) (given : List (GivenBlock L))
    (settings : PlayerSettings) (held : List (ContentBlockBuffer L)) (record : CurrentRecord)
    (blockIndex : ℕ) (contentBlock : ContentBlock L) (reader : BlockReader) (frame : PixelFrame) :
    Prop :=
  let options := L.getStreamNormalizeOptions record.streamId frame.getPixelFormat
    ((GivenBlock.lastCaptured record.streamId given).getD L.defaultNormalizeOptionsConfig)
  (player.normalizeOptions record.streamId frame.getPixelFormat).1 = options ∧
    (player.setBlock settings held record blockIndex contentBlock reader).2.1 =
      place held (blockIndex, normalizedBlock contentBlock frame
        (settings.imageConversion = .normalize) options)

/-- The cache is coherent and holds the last configuration, so the options are those computed. -/
theorem setsNormalized_exec (given : List (GivenBlock L)) {settings : PlayerSettings}
    (held : List (ContentBlockBuffer L)) (record : CurrentRecord) (blockIndex : ℕ)
    {contentBlock : ContentBlock L} {reader : BlockReader} {frame : PixelFrame}
    (himage : contentBlock.contentType = .image)
    (hsize : ∃ size, contentBlock.blockSize = some (size + 1))
    (hpolicy : settings.imageConversion = .normalize ∨ settings.imageConversion = .normalizeGrey8)
    (hframe : reader.readFrame = some frame) :
    (BaseVRSReaderStreamPlayer.readGiven.exec new given).SetsNormalized given settings held record
      blockIndex contentBlock reader frame := by
  unfold SetsNormalized
  have hoptions : ((BaseVRSReaderStreamPlayer.readGiven.exec new given).normalizeOptions
      record.streamId frame.getPixelFormat).1 =
        L.getStreamNormalizeOptions record.streamId frame.getPixelFormat
          ((GivenBlock.lastCaptured record.streamId given).getD
            L.defaultNormalizeOptionsConfig) := by
    rw [normalizeOptions_fst, (coherent_exec given).lookup, computeNormalizeOptions,
      streamNormalizeConfigs_exec]
  refine ⟨hoptions, ?_⟩
  rw [setBlock_of_frame _ held record blockIndex himage hsize hpolicy hframe, hoptions]

end BaseVRSReaderStreamPlayer

/-- In a run of the reader of one file, its player is given the blocks of the records played. -/
theorem OssVRSReader.streamPlayer_exec (F : RecordFileReader L) (D : Native L)
    (autoReadConfigurationRecord : Bool) (cs : List Call) :
    ((call F D).exec ((new autoReadConfigurationRecord).open F) cs).streamPlayer =
      BaseVRSReaderStreamPlayer.readGiven.exec .new
        ((playedIn F D ((new autoReadConfigurationRecord).open F) cs).flatMap
          PlayedRecord.blocks) :=
  (played_exec F D _ cs).streamPlayer_eq

namespace BaseVRSReaderStreamPlayer

/-- **The cache is as good as computing**: after any blocks of any streams, the options that a frame
is normalized with are those for its stream, its format and the configuration last captured for the
stream, or the default one. So they are in the callbacks of any record, after any calls on a reader
and any blocks of the record. -/
theorem setBlock_normalizes (settings : PlayerSettings) (held : List (ContentBlockBuffer L))
    (record : CurrentRecord) (blockIndex : ℕ) (contentBlock : ContentBlock L)
    (reader : BlockReader) (frame : PixelFrame) (himage : contentBlock.contentType = .image)
    (hsize : ∃ size, contentBlock.blockSize = some (size + 1))
    (hpolicy : settings.imageConversion = .normalize ∨ settings.imageConversion = .normalizeGrey8)
    (hframe : reader.readFrame = some frame) :
    (∀ given : List (GivenBlock L),
      (BaseVRSReaderStreamPlayer.readGiven.exec new given).SetsNormalized given settings held record
        blockIndex contentBlock reader frame) ∧
    ∀ (F : RecordFileReader L) (D : Native L) (autoReadConfigurationRecord : Bool)
      (cs : List Call) (cache : RecordCache L) (asked : PlayerSettings) (current : CurrentRecord)
      (callbacks : List (Callback L)),
      let opened := (OssVRSReader.new autoReadConfigurationRecord).open F
      let played : Playing L := ⟨cache, ((OssVRSReader.call F D).exec opened cs).streamPlayer⟩
      (played.play asked current callbacks).player.SetsNormalized
        ((OssVRSReader.playedIn F D opened cs).flatMap PlayedRecord.blocks ++
          (visited asked callbacks).map fun callback => ⟨asked, current, callback⟩)
        settings held record blockIndex contentBlock reader frame := by
  refine ⟨fun given => setsNormalized_exec given held record blockIndex himage hsize hpolicy hframe,
    fun F D autoReadConfigurationRecord cs cache asked current callbacks => ?_⟩
  intro opened played
  have hplayer : (played.play asked current callbacks).player =
      BaseVRSReaderStreamPlayer.readGiven.exec new
        ((OssVRSReader.playedIn F D opened cs).flatMap PlayedRecord.blocks ++
          (visited asked callbacks).map fun callback => ⟨asked, current, callback⟩) := by
    rw [Machine.exec_append, ← OssVRSReader.streamPlayer_exec F D autoReadConfigurationRecord cs]
    exact PlayedRecord.player_onCallbacks asked current (played.processRecordHeader current)
      callbacks
  rw [hplayer]
  exact setsNormalized_exec _ held record blockIndex himage hsize hpolicy hframe

/-- A library whose metadata are numbers, and that normalizes a frame to the number that is its
configuration. -/
def numberLib : VrsLib where
  __ := VrsLib.bare
  DataLayout := ℕ
  dataLayoutToPyDict _ _ := ()
  NormalizeOptionsConfig := ℕ
  defaultNormalizeOptionsConfig := 0
  NormalizeOptions := PixelFormat × ℕ
  captureNormalizeOptionsConfig _ dl := dl
  getStreamNormalizeOptions _ pixelFormat config := (pixelFormat, config)
  normalizeFrame frame _ options := { frame with buffer := [options.2.toUInt8] }

/-- A grey image. -/
def greyFrame : PixelFrame := ⟨⟨.raw, .grey16, 1, 1⟩, [0, 0]⟩

/-- The image in a block. -/
def greyBlock : Callback numberLib :=
  .image 0 (.ofImage _ greyFrame.spec (some 2)) ⟨2, fun _ => [0, 0], some greyFrame⟩

/-- An image is read between two configurations of its stream. -/
def reconfigured : List (GivenBlock numberLib) :=
  [⟨⟨"utf-8", .normalize, none⟩, ⟨⟨1201, 1⟩, .configuration, 1⟩, .dataLayout 0 (7 : ℕ)⟩,
    ⟨⟨"utf-8", .normalize, none⟩, ⟨⟨1201, 1⟩, .data, 1⟩, greyBlock⟩,
    ⟨⟨"utf-8", .normalize, none⟩, ⟨⟨1201, 1⟩, .configuration, 1⟩, .dataLayout 0 (9 : ℕ)⟩]

/-- The file that is configured twice, with numbers for configurations and images in its data. -/
def reconfiguredNumbers : RecordFileReader numberLib :=
  .ofIndex numberLib reconfiguredFile.index reconfiguredFile.length_index_lt

/-- The configuration record at an index is its number. -/
def indexConfigured : Native numberLib := fun _ i =>
  if i = 1 ∨ i = 3 then ⟨1, [greyBlock], 0⟩ else ⟨1, [.dataLayout 0 (i : ℕ)], 0⟩

theorem setBlock_normalizes_reconfigured :
    (((BaseVRSReaderStreamPlayer.readGiven.exec new reconfigured).normalizeOptions ⟨1201, 1⟩
        .grey16).1 : PixelFormat × ℕ) = (.grey16, 9) ∧
      ((((⟨.empty 0, ((OssVRSReader.call reconfiguredNumbers indexConfigured).exec
          ((OssVRSReader.new true).open reconfiguredNumbers)
          [.enableAllStreams, .readRecord 1, .readRecord 3]).streamPlayer⟩ :
        Playing numberLib).play ⟨"utf-8", .normalize, none⟩ ⟨⟨1201, 1⟩, .data, 1⟩
          [greyBlock]).player.normalizeOptions ⟨1201, 1⟩ .grey16).1 : PixelFormat × ℕ) =
        (.grey16, 2) := by
  have h := setBlock_normalizes (L := numberLib) ⟨"utf-8", .normalize, none⟩ []
    ⟨⟨1201, 1⟩, .data, 1⟩ 0 (.ofImage _ greyFrame.spec (some 2))
    ⟨2, fun _ => [0, 0], some greyFrame⟩ greyFrame rfl ⟨1, rfl⟩ (.inl rfl) rfl
  exact ⟨(h.1 reconfigured).1, (h.2 reconfiguredNumbers indexConfigured true
    [.enableAllStreams, .readRecord 1, .readRecord 3] (.empty 0) ⟨"utf-8", .normalize, none⟩
    ⟨⟨1201, 1⟩, .data, 1⟩ [greyBlock]).1⟩

end BaseVRSReaderStreamPlayer

end Pyvrs
