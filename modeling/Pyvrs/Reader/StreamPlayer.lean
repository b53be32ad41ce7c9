import Pyvrs.Utils.PyRecord

/-!
# The stream player

`BaseVRSReaderStreamPlayer` receives the content blocks of a record from vrs, in block order, and
puts them in the record cache of its reader. It keeps, for each stream, the configuration and the
options with which images are normalized. A callback tells vrs whether to go on with the next block.

What vrs hands over in one record read is a `Delivery`; `play` runs the callbacks over it.
-/

namespace Pyvrs

/-- `ImageConversion`. -/
inductive ImageConversion
  | off
  | decompress
  | normalize
  | normalizeGrey8
  | rawBuffer
  | recordUnreadBytesBackdoor
  deriving DecidableEq, Repr

/-- `CurrentRecord`, the record being read. -/
structure CurrentRecord where
  streamId : StreamId
  recordType : RecordType
  formatVersion : ℕ

/-- What can be read at a content block: `record.reader`, and the frame that `readFrame` decodes,
if it succeeds. -/
structure BlockReader where
  getUnreadBytes : ℕ
  read : ℕ → List UInt8
  readFrame : Option PixelFrame

/-- `CachedNormalizeOptions`. -/
structure CachedNormalizeOptions (L : VrsLib) where
  sourcePixelFormat : PixelFormat
  options : L.NormalizeOptions

/-- `BaseVRSReaderStreamPlayer`. -/
structure BaseVRSReaderStreamPlayer (L : VrsLib) where
  streamNormalizeConfigs : StreamId → Option L.NormalizeOptionsConfig
  streamNormalizeOptions : StreamId → Option (CachedNormalizeOptions L)

/-- What a player asks of its reader: the encoding of texts, `getImageConversion` of the record,
and the first trailing block to skip in a record of this kind, if any. -/
structure PlayerSettings where
  encoding : String
  imageConversion : ImageConversion
  firstSkippedTrailingBlockIndex : Option ℕ

/-- `checkSkipTrailingBlocks`. -/
def PlayerSettings.checkSkipTrailingBlocks (settings : PlayerSettings) (blockIndex : ℕ) : Bool :=
  match settings.firstSkippedTrailingBlockIndex with
  | some first => blockIndex + 1 < first
  | none => true

namespace BaseVRSReaderStreamPlayer

variable {L : VrsLib} (player : BaseVRSReaderStreamPlayer L)

/-- A player that has seen no configuration. -/
def new : BaseVRSReaderStreamPlayer L := ⟨fun _ => none, fun _ => none⟩

/-- `captureNormalizeOptionsConfig`. -/
def captureNormalizeOptionsConfig (record : CurrentRecord) (dl : L.DataLayout) :
    BaseVRSReaderStreamPlayer L where
  streamNormalizeConfigs := Function.update player.streamNormalizeConfigs record.streamId
    (some (L.captureNormalizeOptionsConfig record.streamId dl))
  streamNormalizeOptions := Function.update player.streamNormalizeOptions record.streamId none

/-- The options computed for a stream and a source format. -/
def computeNormalizeOptions (streamId : StreamId) (pixelFormat : PixelFormat) :
    L.NormalizeOptions :=
  L.getStreamNormalizeOptions streamId pixelFormat
    ((player.streamNormalizeConfigs streamId).getD L.defaultNormalizeOptionsConfig)

/-- The `try_emplace` of `setBlock`: the options for a frame, recomputed unless they are cached for
its pixel format. -/
def normalizeOptions (streamId : StreamId) (pixelFormat : PixelFormat) :
    L.NormalizeOptions × BaseVRSReaderStreamPlayer L :=
  let compute := player.computeNormalizeOptions streamId pixelFormat
  let updated := { player with
    streamNormalizeOptions :=
      Function.update player.streamNormalizeOptions streamId (some ⟨pixelFormat, compute⟩) }
  match player.streamNormalizeOptions streamId with
  | some cached =>
    if cached.sourcePixelFormat = pixelFormat then (cached.options, player) else (compute, updated)
  | none => (compute, updated)

/-- The part of `setBlock` that reads a block of positive size, according to the conversion policy
of the stream. -/
def readBlock (conversion : ImageConversion) (record : CurrentRecord)
    (contentBlock : ContentBlock L)
    (blockSize : ℕ) (reader : BlockReader) :
    ContentBlockBuffer L × BaseVRSReaderStreamPlayer L :=
  let block := ContentBlockBuffer.ofBlock contentBlock
  if contentBlock.contentType ≠ .image ∨ conversion = .off then
    ({ block with
        bytes := reader.read blockSize
        structuredArray :=
          if contentBlock.contentType = .image then contentBlock.image.imageFormat = .raw
          else contentBlock.contentType = .audio }, player)
  else if conversion = .rawBuffer then
    ({ block with bytes := reader.read blockSize }, player)
  else if conversion = .recordUnreadBytesBackdoor then
    let unreadBytes := reader.getUnreadBytes
    ({ block with
        spec := .ofImage L ⟨.raw, .grey8, unreadBytes, 1⟩ (some unreadBytes)
        bytes := reader.read unreadBytes }, player)
  else
    match reader.readFrame with
    | none => (block, player)
    | some frame =>
      if conversion = .normalize ∨ conversion = .normalizeGrey8 then
        let (options, player) := player.normalizeOptions record.streamId frame.getPixelFormat
        let converted := L.normalizeFrame frame (conversion = .normalize) options
        ({ block with
            spec := .ofImage L converted.spec (L.getBlockSize converted.spec)
            bytes := converted.buffer
            structuredArray := true }, player)
      else
        ({ block with
            spec := .ofImage L frame.spec (L.getBlockSize frame.spec)
            bytes := frame.buffer
            structuredArray := true }, player)

/-- `setBlock`: the block is appended to its list, which is emptied before when it holds as many
blocks as the position of this one in the record. -/
def setBlock (settings : PlayerSettings) (blocks : List (ContentBlockBuffer L))
    (record : CurrentRecord) (blockIndex : ℕ) (contentBlock : ContentBlock L)
    (reader : BlockReader) :
    Bool × List (ContentBlockBuffer L) × BaseVRSReaderStreamPlayer L :=
  let blocks := if blockIndex ≤ blocks.length then [] else blocks
  match contentBlock.blockSize with
  | none => (false, blocks ++ [.ofBlock contentBlock], player)
  | some 0 =>
    (settings.checkSkipTrailingBlocks blockIndex, blocks ++ [.ofBlock contentBlock], player)
  | some (size + 1) =>
    let (block, player) :=
      player.readBlock settings.imageConversion record contentBlock (size + 1) reader
    (settings.checkSkipTrailingBlocks blockIndex, blocks ++ [block], player)

end BaseVRSReaderStreamPlayer

/-! ## Playing a record -/

/-- A callback of vrs for one content block, at its position in the record. -/
inductive Callback (L : VrsLib)
  | dataLayout (blockIndex : ℕ) (dl : L.DataLayout)
  | image (blockIndex : ℕ) (cb : ContentBlock L) (reader : BlockReader)
  | audio (blockIndex : ℕ) (cb : ContentBlock L) (reader : BlockReader)
  | custom (blockIndex : ℕ) (cb : ContentBlock L) (reader : BlockReader)
  | unsupported (blockIndex : ℕ) (cb : ContentBlock L) (reader : BlockReader)

/-- What one native record read delivers: the format version of its header, the content blocks
that vrs gets to, and the status returned in the end. -/
structure Delivery (L : VrsLib) where
  formatVersion : ℕ
  callbacks : List (Callback L)
  status : ℤ

/-- What the callbacks change: the cache of the reader and the player. -/
structure Playing (L : VrsLib) where
  cache : RecordCache L
  player : BaseVRSReaderStreamPlayer L

namespace Playing

variable {L : VrsLib} (settings : PlayerSettings) (record : CurrentRecord) (st : Playing L)

/-- `processRecordHeader`. -/
def processRecordHeader : Playing L :=
  { st with cache := { st.cache with recordFormatVersion := record.formatVersion } }

/-- `onDataLayoutRead`. -/
def onDataLayoutRead (blockIndex : ℕ) (dl : L.DataLayout) : Bool × Playing L :=
  (settings.checkSkipTrailingBlocks blockIndex,
    { cache := { st.cache with
        datalayoutBlocks :=
          st.cache.datalayoutBlocks ++ [L.dataLayoutToPyDict dl settings.encoding] }
      player := if record.recordType = .configuration then
        st.player.captureNormalizeOptionsConfig record dl else st.player })

/-- `onImageRead`. -/
def onImageRead (blockIndex : ℕ) (cb : ContentBlock L) (reader : BlockReader) :
    Bool × Playing L :=
  let (more, blocks, player) :=
    st.player.setBlock settings st.cache.images record blockIndex cb reader
  (more, { cache := { st.cache with images := blocks }, player })

/-- `onAudioRead`. -/
def onAudioRead (blockIndex : ℕ) (cb : ContentBlock L) (reader : BlockReader) :
    Bool × Playing L :=
  let (more, blocks, player) :=
    st.player.setBlock settings st.cache.audioBlocks record blockIndex cb reader
  (more, { cache := { st.cache with audioBlocks := blocks }, player })

/-- `onCustomBlockRead`. -/
def onCustomBlockRead (blockIndex : ℕ) (cb : ContentBlock L) (reader : BlockReader) :
    Bool × Playing L :=
  let (more, blocks, player) :=
    st.player.setBlock settings st.cache.customBlocks record blockIndex cb reader
  (more, { cache := { st.cache with customBlocks := blocks }, player })

/-- `onUnsupportedBlock`. -/
def onUnsupportedBlock (blockIndex : ℕ) (cb : ContentBlock L) (reader : BlockReader) :
    Bool × Playing L :=
  let (more, blocks, player) :=
    st.player.setBlock settings st.cache.unsupportedBlocks record blockIndex cb reader
  (more, { cache := { st.cache with unsupportedBlocks := blocks }, player })

/-- One callback. -/
def onCallback : Callback L → Bool × Playing L
  | .dataLayout i dl => st.onDataLayoutRead settings record i dl
  | .image i cb reader => st.onImageRead settings record i cb reader
  | .audio i cb reader => st.onAudioRead settings record i cb reader
  | .custom i cb reader => st.onCustomBlockRead settings record i cb reader
  | .unsupported i cb reader => st.onUnsupportedBlock settings record i cb reader

/-- The callbacks in order, up to the first one that answers `false`. -/
def onCallbacks (st : Playing L) : List (Callback L) → Playing L
  | [] => st
  | c :: cs =>
    match st.onCallback settings record c with
    | (true, st) => onCallbacks st cs
    | (false, st) => st

theorem onCallbacks_cons (c : Callback L) (cs : List (Callback L)) :
    st.onCallbacks settings record (c :: cs) =
      if (st.onCallback settings record c).1 then
        (st.onCallback settings record c).2.onCallbacks settings record cs
      else (st.onCallback settings record c).2 := by
  rw [onCallbacks]
  rcases st.onCallback settings record c with ⟨more, next⟩
  cases more <;> rfl

/-- The header and the content blocks of one record. -/
def play (callbacks : List (Callback L)) : Playing L :=
  (st.processRecordHeader record).onCallbacks settings record callbacks

end Playing

end Pyvrs
