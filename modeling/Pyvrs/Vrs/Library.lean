import Pyvrs.Vrs.Record

/-!
# The vrs library

What the repository takes from the vrs library and never looks into: the datalayouts of records,
the audio specs, the pixel frames and their normalization, and the names it prints. They are the
fields of one structure `VrsLib`, over which everything else is stated. Content blocks are spelled
out, since the readers branch on their type, size and image format.
-/

namespace Pyvrs

/-- `ContentType`. -/
inductive ContentType
  | custom
  | empty
  | image
  | audio
  | dataLayout
  deriving DecidableEq, Repr

/-- `ImageFormat`. -/
inductive ImageFormat
  | undefined
  | raw
  | jpg
  | png
  | video
  | jxl
  deriving DecidableEq, Repr

/-- `PixelFormat`. -/
inductive PixelFormat
  | undefined
  | grey8
  | bgr8
  | depth32f
  | rgb8
  | yuvI420Split
  | rgba8
  | rgb10
  | rgb12
  | grey10
  | grey12
  | grey16
  | rgb32f
  | scalar64f
  | yuy2
  | rgbIrRaw4x4
  | rgba32f
  | bayer8Rggb
  | raw10
  | raw10BayerRggb
  | raw10BayerBggr
  | yuv420Nv21
  | yuv420Nv12
  | grey10packed
  | bayer8Bggr
  | bayer10Gbrg
  | bayer8Gbrg
  deriving DecidableEq, Repr

/-- `ImageContentBlockSpec`. -/
structure ImageContentBlockSpec where
  imageFormat : ImageFormat
  pixelFormat : PixelFormat
  width : ℕ
  height : ℕ
  deriving DecidableEq, Repr

/-- `utils::PixelFrame`: an image in memory, with its spec. -/
structure PixelFrame where
  spec : ImageContentBlockSpec
  buffer : List UInt8
  deriving DecidableEq

/-- `PixelFrame::getPixelFormat`. -/
def PixelFrame.getPixelFormat (frame : PixelFrame) : PixelFormat := frame.spec.pixelFormat

/-- The types and functions of the vrs library that the repository uses as they are. -/
structure VrsLib where
  /-- `DataLayout`, the metadata of a record. -/
  DataLayout : Type
  /-- The Python dictionary of a datalayout. -/
  PyDict : Type
  /-- `dataLayoutToPyDict`, in a character encoding. -/
  dataLayoutToPyDict : DataLayout → String → PyDict
  /-- `AudioContentBlockSpec`. -/
  AudioSpec : Type
  /-- A default-constructed `AudioContentBlockSpec`. -/
  defaultAudioSpec : AudioSpec
  /-- `ImageContentBlockSpec::getBlockSize`, `none` when it is not known. -/
  getBlockSize : ImageContentBlockSpec → Option ℕ
  /-- `utils::NormalizeOptionsConfig`. -/
  NormalizeOptionsConfig : Type
  /-- A default-constructed `NormalizeOptionsConfig`. -/
  defaultNormalizeOptionsConfig : NormalizeOptionsConfig
  /-- `utils::NormalizeOptions`. -/
  NormalizeOptions : Type
  /-- `PixelFrame::captureNormalizeOptionsConfig`, for one file. -/
  captureNormalizeOptionsConfig : StreamId → DataLayout → NormalizeOptionsConfig
  /-- `PixelFrame::getStreamNormalizeOptions`, for one file. -/
  getStreamNormalizeOptions : StreamId → PixelFormat → NormalizeOptionsConfig → NormalizeOptions
  /-- `PixelFrame::normalizeFrame`, with `grey16supported`. -/
  normalizeFrame : PixelFrame → Bool → NormalizeOptions → PixelFrame
  /-- `StreamId::getNumericName`. -/
  getNumericName : StreamId → String
  /-- `StreamId::getFullName`. -/
  getFullName : StreamId → String
  /-- `toString(RecordableTypeId)`. -/
  recordableTypeName : RecordableTypeId → String
  /-- `toString(Record::Type)`. -/
  recordTypeName : RecordType → String
  /-- `toEnum<Record::Type>`, `UNDEFINED` for a name that is not one of a type. -/
  toRecordType : String → RecordType
  /-- `helpers::strcasecmp`. -/
  strcasecmp : String → String → ℤ
  /-- `errorCodeToMessageWithCode`. -/
  errorCodeToMessageWithCode : ℤ → String
  /-- `FAILURE`. -/
  failure : ℤ
  /-- A failure is no success. -/
  failure_ne_zero : failure ≠ 0
  /-- `"any"` names no type of record. -/
  toRecordType_any : ∀ s, strcasecmp s "any" = 0 → toRecordType s = .undefined
  /-- `"any"` is itself. -/
  strcasecmp_any : strcasecmp "any" "any" = 0

/-- A library whose records carry no data: enough to run the readers on an index. -/
def VrsLib.bare : VrsLib where
  DataLayout := Unit
  PyDict := Unit
  dataLayoutToPyDict _ _ := ()
  AudioSpec := Unit
  defaultAudioSpec := ()
  getBlockSize _ := none
  NormalizeOptionsConfig := Unit
  defaultNormalizeOptionsConfig := ()
  NormalizeOptions := Unit
  captureNormalizeOptionsConfig _ _ := ()
  getStreamNormalizeOptions _ _ _ := ()
  normalizeFrame frame _ _ := frame
  getNumericName id := toString id.typeId ++ "-" ++ toString id.instanceId
  getFullName id := toString id.typeId ++ "-" ++ toString id.instanceId
  recordableTypeName typeId := toString typeId
  recordTypeName
    | .undefined => "Undefined"
    | .state => "State"
    | .configuration => "Configuration"
    | .data => "Data"
    | .tags => "Tags"
  toRecordType name :=
    if name = "state" then .state
    else if name = "configuration" then .configuration
    else if name = "data" then .data
    else if name = "tags" then .tags
    else .undefined
  strcasecmp a b := if a = b then 0 else 1
  errorCodeToMessageWithCode status := toString status
  failure := -1
  failure_ne_zero := by decide
  toRecordType_any s h := by
    have hs : s = "any" := by
      by_contra hne
      simp [hne] at h
    subst hs
    rfl
  strcasecmp_any := rfl

/-- `lowercaseTypeName`. -/
def lowercaseTypeName (L : VrsLib) (type : RecordType) : String :=
  (L.recordTypeName type).map Char.toLower

/-- `ContentBlock`. -/
structure ContentBlock (L : VrsLib) where
  contentType : ContentType
  /-- `getBlockSize`, `none` for `kSizeUnknown`. -/
  blockSize : Option ℕ
  image : ImageContentBlockSpec
  audio : L.AudioSpec

/-- `ContentBlock(ImageContentBlockSpec, size)`. -/
def ContentBlock.ofImage (L : VrsLib) (spec : ImageContentBlockSpec) (size : Option ℕ) :
    ContentBlock L :=
  ⟨.image, size, spec, L.defaultAudioSpec⟩

end Pyvrs
