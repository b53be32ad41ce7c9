import Pyvrs.Vrs.Library

/-!
# The content of a record

`RecordCache` collects the blocks of the record being read; `PyRecord` is the record handed to
Python, built from the index entry and the cache, which it empties.
-/

namespace Pyvrs

/-- `ContentBlockBuffer`: a content block and its bytes. -/
structure ContentBlockBuffer (L : VrsLib) where
  spec : ContentBlock L
  bytes : List UInt8
  /-- The buffer is exposed with the structure of its spec. -/
  structuredArray : Bool
  /-- The bytes were already swapped or realigned. -/
  bytesAdjusted : Bool

/-- `ContentBlockBuffer(const ContentBlock&)`. -/
def ContentBlockBuffer.ofBlock {L : VrsLib} (block : ContentBlock L) : ContentBlockBuffer L :=
  ⟨block, [], false, false⟩

/-- `RecordCache`. -/
@[ext] structure RecordCache (L : VrsLib) where
  recordFormatVersion : ℕ
  datalayoutBlocks : List L.PyDict
  images : List (ContentBlockBuffer L)
  audioBlocks : List (ContentBlockBuffer L)
  customBlocks : List (ContentBlockBuffer L)
  unsupportedBlocks : List (ContentBlockBuffer L)

namespace RecordCache

variable {L : VrsLib}

/-- A cache without blocks. -/
def empty (version : ℕ) : RecordCache L := ⟨version, [], [], [], [], []⟩

/-- `RecordCache::clear`. -/
def clear (_ : RecordCache L) : RecordCache L := empty 0

/-- What a move of its lists leaves of a cache: the format version stays. -/
def moved (cache : RecordCache L) : RecordCache L := empty cache.recordFormatVersion

/-- No block is held. -/
def NoBlocks (cache : RecordCache L) : Prop := cache = empty cache.recordFormatVersion

@[simp] theorem noBlocks_empty (version : ℕ) : (empty version : RecordCache L).NoBlocks := rfl

@[simp] theorem noBlocks_clear (cache : RecordCache L) : cache.clear.NoBlocks := rfl

@[simp] theorem noBlocks_moved (cache : RecordCache L) : cache.moved.NoBlocks := rfl

end RecordCache

/-- `PyRecord`. -/
structure PyRecord (L : VrsLib) where
  recordIndex : Int32
  recordType : String
  recordTimestamp : Timestamp
  streamId : String
  recordFormatVersion : ℕ
  datalayoutBlocks : List L.PyDict
  imageBlocks : List (ContentBlockBuffer L)
  audioBlocks : List (ContentBlockBuffer L)
  customBlocks : List (ContentBlockBuffer L)
  unsupportedBlocks : List (ContentBlockBuffer L)
  audioSpecs : List L.AudioSpec
  customBlockSpecs : List (ContentBlock L)
  imageSpecs : List ImageContentBlockSpec

namespace PyRecord

variable {L : VrsLib}

/-- `PyRecord(const RecordInfo&, int32_t, RecordCache&)`; the cache's lists are moved out, see
`RecordCache.moved`. -/
def ofCache (info : RecordInfo) (recordIndex : ℕ) (cache : RecordCache L) : PyRecord L where
  recordIndex := .ofNat recordIndex
  recordType := lowercaseTypeName L info.recordType
  recordTimestamp := info.timestamp
  streamId := L.getNumericName info.streamId
  recordFormatVersion := cache.recordFormatVersion
  datalayoutBlocks := cache.datalayoutBlocks
  imageBlocks := cache.images
  audioBlocks := cache.audioBlocks
  customBlocks := cache.customBlocks
  unsupportedBlocks := cache.unsupportedBlocks
  audioSpecs := cache.audioBlocks.map (·.spec.audio)
  customBlockSpecs := cache.customBlocks.map (·.spec)
  imageSpecs := cache.images.map (·.spec.image)

/-- A record shows all that the cache held. -/
theorem ofCache_inj {info : RecordInfo} {recordIndex : ℕ} {cache cache' : RecordCache L} :
    ofCache info recordIndex cache = ofCache info recordIndex cache' ↔ cache = cache' := by
  refine ⟨fun h => ?_, congrArg _⟩
  exact RecordCache.ext (congrArg recordFormatVersion h) (congrArg datalayoutBlocks h)
    (congrArg imageBlocks h) (congrArg audioBlocks h) (congrArg customBlocks h)
    (congrArg unsupportedBlocks h)

end PyRecord

end Pyvrs
