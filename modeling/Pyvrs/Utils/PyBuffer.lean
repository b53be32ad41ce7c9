import Pyvrs.Foundations.ByteBuffer
import Pyvrs.Utils.PyExceptions
import Pyvrs.Utils.PyRecord

/-!
# The buffers shown to Python

`convertContentBlockBuffer` describes the bytes of a content block as an array, and fixes the bytes
of an audio block first: samples of 24 bits are widened, and big-endian samples are swapped.
`convertImageBlockBuffer` describes those of an image that Python has made. Memory is a list of
bytes, on a little-endian host; an access outside of it ends the call with `outOfBounds`. The array
of samples depends on their spec alone, and so do the ways in which the bytes change
(`convertAudioSamples_eq_ok`).
-/

namespace Pyvrs

open Foundations

/-- `AudioSampleFormat`. -/
inductive AudioSampleFormat
  | undefined
  | s8
  | u8
  | aLaw
  | muLaw
  | s16Le
  | u16Le
  | s16Be
  | u16Be
  | s24Le
  | u24Le
  | s24Be
  | u24Be
  | s32Le
  | u32Le
  | s32Be
  | u32Be
  | f32Le
  | f32Be
  | f64Le
  | f64Be
  deriving DecidableEq, Repr

/-- `AudioContentBlockSpec`, as its getters show it. `getChannelCount` is a `uint8_t`. -/
structure AudioContentBlockSpec where
  getSampleFormat : AudioSampleFormat
  getChannelCount : UInt8
  getSampleFrameStride : ℕ
  getSampleCount : ℕ
  getBytesPerSample : ℕ
  isLittleEndian : Bool
  deriving DecidableEq, Repr

/-- The getters of the specs of vrs that the buffers are described with. -/
structure SpecGetters (L : VrsLib) where
  audio : L.AudioSpec → AudioContentBlockSpec
  /-- `getBytesPerPixel`, cast to a `uint32_t` as every caller does. -/
  getBytesPerPixel : ImageContentBlockSpec → ℕ
  getStride : ImageContentBlockSpec → ℕ
  getChannelCountPerPixel : ImageContentBlockSpec → ℕ
  getRawImageSize : ImageContentBlockSpec → ℕ

/-- `py::buffer_info`, with its `ptr` at the start of the bytes of a block. -/
structure BlockBufferInfo where
  itemsize : ℕ
  format : String
  shape : List ℕ
  strides : List ℕ
  deriving DecidableEq, Repr

/-- The bytes of the element at an index. -/
def BlockBufferInfo.element (info : BlockBufferInfo) (bytes : List UInt8) (index : List ℕ) :
    Option (List UInt8) :=
  load bytes (List.zipWith (· * ·) index info.strides).sum info.itemsize

/-- How a call ends that does not return. -/
inductive BufferError
  | outOfBounds
  | divisionByZero
  | raised (e : PyError)
  deriving DecidableEq

/-- The result of an access. -/
def BufferError.ofAccess {α : Type*} : Option α → Except BufferError α
  | none => .error .outOfBounds
  | some a => .ok a

theorem BufferError.ofAccess_eq_ok_iff {α : Type*} {access : Option α} {a : α} :
    BufferError.ofAccess access = .ok a ↔ access = some a := by
  cases access with
  | none => exact ⟨nofun, nofun⟩
  | some b => rw [BufferError.ofAccess, Except.ok.injEq, Option.some.injEq]

theorem BufferError.ofAccess_ne_divisionByZero {α : Type*} (access : Option α) :
    BufferError.ofAccess access ≠ .error .divisionByZero := by
  cases access <;> exact nofun

/-- `bufferInfoFromVector`. -/
def bufferInfoFromVector (vec : List UInt8) : BlockBufferInfo := ⟨1, "B", [vec.length], [1]⟩

/-! ## Images -/

/-- `pixelFormat`, the format of the scalars of an image. -/
def PixelFormat.scalarFormat : PixelFormat → String
  | .depth32f | .rgb32f | .rgba32f => "f"
  | .scalar64f => "d"
  | .grey10 | .grey12 | .grey16 | .rgb10 | .rgb12 | .bayer10Gbrg => "H"
  | _ => "B"

/-- `bytesPerPixel`, `channelCount` and `width`, as the format of the pixels has them. -/
def PixelFormat.pixels (format : PixelFormat) (bytesPerPixel channelCount width stride : ℕ) :
    ℕ × ℕ × ℕ :=
  match format with
  | .yuvI420Split | .yuv420Nv12 | .yuv420Nv21 => (1, 1, width)
  | .yuy2 => (2, 2, width)
  | .raw10 | .raw10BayerRggb | .raw10BayerBggr | .grey10packed => (1, 1, stride)
  | .rgbIrRaw4x4 => (bytesPerPixel, 1, width)
  | _ => (bytesPerPixel, channelCount, width)

/-- The same variables, as `convertImageBlockBuffer` has them. -/
def PixelFormat.imagePixels (format : PixelFormat)
    (bytesPerPixel channelCount width stride : ℕ) : ℕ × ℕ × ℕ :=
  match format with
  | .yuvI420Split | .yuv420Nv12 | .yuv420Nv21 => (1, 1, width)
  | .yuy2 => (2, 2, width)
  | .raw10 | .raw10BayerRggb | .raw10BayerBggr | .grey10packed => (1, 1, stride)
  | _ => (bytesPerPixel, channelCount, width)

/-- The buffer of an image of so many rows. -/
def imageBufferInfo (format : String) (bytesPerPixel channelCount width height stride : ℕ) :
    Except BufferError BlockBufferInfo :=
  if channelCount = 0 then .error .divisionByZero
  else
    let channels := if 1 < channelCount then [channelCount] else []
    let channelStrides := if 1 < channelCount then [bytesPerPixel / channelCount] else []
    .ok ⟨bytesPerPixel / channelCount, format, [height, width] ++ channels,
      [stride, bytesPerPixel] ++ channelStrides⟩

/-! ## Audio -/

/-- The samples are shown in one of these formats, those of 24 bits once widened. -/
def AudioSampleFormat.scalarFormat : AudioSampleFormat → Option String
  | .s8 => some "b"
  | .u8 | .aLaw | .muLaw => some "B"
  | .s16Le | .s16Be => some "h"
  | .u16Le | .u16Be => some "H"
  | .s24Le | .s24Be | .s32Le | .s32Be => some "i"
  | .u24Le | .u24Be | .u32Le | .u32Be => some "I"
  | .f32Le | .f32Be => some "f"
  | .f64Le | .f64Be => some "d"
  | .undefined => none

/-- The samples have 24 bits, which are signed. -/
def AudioSampleFormat.isSigned24 (format : AudioSampleFormat) : Bool :=
  format = .s24Le ∨ format = .s24Be

/-- The samples have 24 bits. -/
def AudioSampleFormat.is24 (format : AudioSampleFormat) : Bool :=
  format.isSigned24 ∨ format = .u24Le ∨ format = .u24Be

/-- `sample`, made of three bytes. -/
def widenSample (spec : AudioContentBlockSpec) (bytes : List UInt8) : List UInt8 :=
  let bytes := if spec.isLittleEndian then bytes else bytes.reverse
  let top := if spec.getSampleFormat.isSigned24 ∧ bytes.getD 2 0 &&& 0x80 ≠ 0 then 0xFF else 0
  bytes ++ [top]

/-- The new buffer for samples of 24 bits, with 32 bits for each of them. -/
def widenSamples (spec : AudioContentBlockSpec) (bytes : List UInt8) : Option (List UInt8) :=
  let channelCount := spec.getChannelCount.toNat
  (List.range spec.getSampleCount).foldlM (fun newBuffer sampleIndex =>
    (List.range channelCount).foldlM (fun newBuffer channelIndex => do
      let src ← load bytes (sampleIndex * spec.getSampleFrameStride + channelIndex * 3) 3
      store newBuffer (4 * (sampleIndex * channelCount + channelIndex)) (widenSample spec src))
      newBuffer)
    (List.replicate (4 * spec.getSampleCount * channelCount) 0)

/-- The loop that fixes the endianness of frames `audioSampleStride` bytes apart, word by word. -/
def swapFrames (word audioSampleStride audioSampleCount channelCount : ℕ) (bytes : List UInt8) :
    Option (List UInt8) :=
  (List.range audioSampleCount).foldlM (fun bytes sampleIndex =>
    (List.range channelCount).foldlM (fun bytes channelIndex =>
      -- `data[channelIndex]`, with `data` advanced by each of the channels before
      swapWord bytes (sampleIndex * audioSampleStride + (channelIndex + channelIndex) * word) word)
      bytes) bytes

/-- The loop, for the words that there is one for. -/
def fixEndianness (audioSampleStride audioSampleCount channelCount : ℕ) (bytes : List UInt8) :
    Except BufferError (List UInt8) :=
  if audioSampleStride = 2 then
    BufferError.ofAccess (swapFrames 2 audioSampleStride audioSampleCount channelCount bytes)
  else if audioSampleStride = 4 then
    BufferError.ofAccess (swapFrames 4 audioSampleStride audioSampleCount channelCount bytes)
  else if audioSampleStride = 8 then
    BufferError.ofAccess (swapFrames 8 audioSampleStride audioSampleCount channelCount bytes)
  else .error (.raised (.runtimeError "Unsupported sample stride during buffer endian swap"))

variable {L : VrsLib}

/-- The block with its bytes adjusted, where `bytesAdjusted` is set. -/
def ContentBlockBuffer.adjusted (block : ContentBlockBuffer L) (bytes : List UInt8) :
    ContentBlockBuffer L :=
  { block with bytes := bytes, bytesAdjusted := true }

/-- `convertContentBlockBuffer`, for the samples of a structured audio block. -/
def convertAudioSamples (spec : AudioContentBlockSpec) (block : ContentBlockBuffer L) :
    Except BufferError (BlockBufferInfo × ContentBlockBuffer L) := do
  let channelCount := spec.getChannelCount.toNat
  match spec.getSampleFormat.scalarFormat with
  | none => .error (.raised (.typeError "Unsupported audio sample format"))
  | some sampleFormat =>
    let is24 := spec.getSampleFormat.is24
    let block ← if is24 ∧ !block.bytesAdjusted then do
        let newBuffer ← BufferError.ofAccess (widenSamples spec block.bytes)
        pure (block.adjusted newBuffer)
      else pure block
    let audioSampleByteSize := if is24 then 4 else spec.getBytesPerSample
    let audioSampleStride :=
      if is24 then audioSampleByteSize * channelCount else spec.getSampleFrameStride
    let block ← if 1 < audioSampleStride ∧ !block.bytesAdjusted ∧ !spec.isLittleEndian then do
        let bytes ← fixEndianness audioSampleStride spec.getSampleCount channelCount block.bytes
        pure (block.adjusted bytes)
      else pure block
    .ok (⟨audioSampleByteSize, sampleFormat, [spec.getSampleCount, channelCount],
      [audioSampleStride, audioSampleByteSize]⟩, block)

/-! ## Content blocks -/

variable (G : SpecGetters L)

/-- `convertContentBlockBuffer`: the buffer of a block, and the block that it is the buffer of. -/
def convertContentBlockBuffer (block : ContentBlockBuffer L) :
    Except BufferError (BlockBufferInfo × ContentBlockBuffer L) :=
  let imageSpec := block.spec.image
  let audioSpec := G.audio block.spec.audio
  if block.structuredArray ∧ block.spec.contentType = .image ∧
      block.bytes.length = G.getRawImageSize imageSpec then
    let stride := G.getStride imageSpec
    let (bytesPerPixel, channelCount, width) := imageSpec.pixelFormat.pixels
      (G.getBytesPerPixel imageSpec) (G.getChannelCountPerPixel imageSpec) imageSpec.width stride
    (imageBufferInfo imageSpec.pixelFormat.scalarFormat bytesPerPixel channelCount width
      imageSpec.height stride).map fun info => (info, block)
  else if block.structuredArray ∧ block.spec.contentType = .audio ∧
      block.bytes.length = audioSpec.getSampleFrameStride * audioSpec.getSampleCount then
    convertAudioSamples audioSpec block
  else .ok (bufferInfoFromVector block.bytes, block)

/-! ## Image buffers -/

/-- `ImageBuffer`. -/
structure ImageBuffer where
  spec : ImageContentBlockSpec
  bytes : List UInt8
  recordIndex : ℤ
  deriving DecidableEq

/-- What `PyImageContentBlockSpec` shows of a number that only raw images have. -/
def ImageContentBlockSpec.ifRaw (spec : ImageContentBlockSpec)
    (get : ImageContentBlockSpec → ℕ) : ℕ :=
  if spec.imageFormat = .raw then get spec else 0

/-- `convertImageBlockBuffer`. -/
def convertImageBlockBuffer (block : ImageBuffer) : Except BufferError BlockBufferInfo :=
  let imageSpec := block.spec
  let imageFormat := imageSpec.imageFormat
  if imageFormat = .jpg ∨ imageFormat = .png ∨ imageFormat = .video then
    .ok (bufferInfoFromVector block.bytes)
  else if imageFormat = .raw ∧ block.bytes.length = G.getRawImageSize imageSpec then
    let stride := imageSpec.ifRaw G.getStride
    let (bytesPerPixel, channelCount, width) := imageSpec.pixelFormat.imagePixels
      (imageSpec.ifRaw G.getBytesPerPixel) (imageSpec.ifRaw G.getChannelCountPerPixel)
      imageSpec.width stride
    imageBufferInfo imageSpec.pixelFormat.scalarFormat bytesPerPixel channelCount width
      imageSpec.height stride
  else .ok (bufferInfoFromVector block.bytes)

/-! ## What a call returns -/

/-- The block is shown as an image: it is structured and has the size that its spec has. -/
structure ContentBlockBuffer.IsImage (block : ContentBlockBuffer L) : Prop where
  structuredArray : block.structuredArray = true
  contentType : block.spec.contentType = .image
  length_eq : block.bytes.length = G.getRawImageSize block.spec.image

/-- The block is shown as samples: it is structured and has the size that its spec has. -/
structure ContentBlockBuffer.IsAudio (block : ContentBlockBuffer L) : Prop where
  structuredArray : block.structuredArray = true
  contentType : block.spec.contentType = .audio
  length_eq : block.bytes.length = (G.audio block.spec.audio).getSampleFrameStride *
    (G.audio block.spec.audio).getSampleCount

/-- The buffer of an image. -/
def SpecGetters.imageInfo (imageSpec : ImageContentBlockSpec) :
    Except BufferError BlockBufferInfo :=
  let (bytesPerPixel, channelCount, width) := imageSpec.pixelFormat.pixels
    (G.getBytesPerPixel imageSpec) (G.getChannelCountPerPixel imageSpec) imageSpec.width
    (G.getStride imageSpec)
  imageBufferInfo imageSpec.pixelFormat.scalarFormat bytesPerPixel channelCount width
    imageSpec.height (G.getStride imageSpec)

section Kinds

variable {G} {block : ContentBlockBuffer L}

theorem convertContentBlockBuffer_of_isImage (h : block.IsImage G) :
    convertContentBlockBuffer G block =
      (G.imageInfo block.spec.image).map fun info => (info, block) := by
  unfold convertContentBlockBuffer
  rw [if_pos ⟨h.structuredArray, h.contentType, h.length_eq⟩]
  rfl

theorem convertContentBlockBuffer_of_isAudio (h : block.IsAudio G) :
    convertContentBlockBuffer G block = convertAudioSamples (G.audio block.spec.audio) block := by
  have himage : ¬(block.structuredArray = true ∧ block.spec.contentType = .image ∧
      block.bytes.length = G.getRawImageSize block.spec.image) := by
    rw [h.contentType]
    simp
  unfold convertContentBlockBuffer
  rw [if_neg himage, if_pos ⟨h.structuredArray, h.contentType, h.length_eq⟩]

/-- Any other block is shown as its bytes. -/
theorem convertContentBlockBuffer_of_bytes (himage : ¬block.IsImage G) (haudio : ¬block.IsAudio G) :
    convertContentBlockBuffer G block = .ok (bufferInfoFromVector block.bytes, block) := by
  unfold convertContentBlockBuffer
  rw [if_neg fun h => himage ⟨h.1, h.2.1, h.2.2⟩, if_neg fun h => haudio ⟨h.1, h.2.1, h.2.2⟩]

end Kinds

variable {G} {spec : AudioContentBlockSpec} {block block' : ContentBlockBuffer L}
  {info : BlockBufferInfo}

/-- `audioSampleByteSize`, once the samples are widened. -/
def AudioContentBlockSpec.audioSampleByteSize (spec : AudioContentBlockSpec) : ℕ :=
  if spec.getSampleFormat.is24 then 4 else spec.getBytesPerSample

/-- `audioSampleStride`, once the samples are widened. -/
def AudioContentBlockSpec.audioSampleStride (spec : AudioContentBlockSpec) : ℕ :=
  if spec.getSampleFormat.is24 then spec.audioSampleByteSize * spec.getChannelCount.toNat
  else spec.getSampleFrameStride

/-- The buffer of samples that are shown in a format. -/
def AudioContentBlockSpec.bufferInfo (spec : AudioContentBlockSpec) (sampleFormat : String) :
    BlockBufferInfo :=
  ⟨spec.audioSampleByteSize, sampleFormat, [spec.getSampleCount, spec.getChannelCount.toNat],
    [spec.audioSampleStride, spec.audioSampleByteSize]⟩

section Adjusted

variable (block) (bytes : List UInt8)

@[simp] theorem ContentBlockBuffer.adjusted_spec : (block.adjusted bytes).spec = block.spec := rfl

@[simp] theorem ContentBlockBuffer.adjusted_bytes : (block.adjusted bytes).bytes = bytes := rfl

@[simp] theorem ContentBlockBuffer.adjusted_structuredArray :
    (block.adjusted bytes).structuredArray = block.structuredArray := rfl

@[simp] theorem ContentBlockBuffer.adjusted_bytesAdjusted :
    (block.adjusted bytes).bytesAdjusted = true := rfl

end Adjusted

section Samples

variable {sampleFormat : String} (hformat : spec.getSampleFormat.scalarFormat = some sampleFormat)

include hformat

/-- Samples that need no adjustment are shown as they are. -/
theorem convertAudioSamples_of_kept (h : block.bytesAdjusted = true ∨
    spec.getSampleFormat.is24 = false ∧
      (spec.getSampleFrameStride ≤ 1 ∨ spec.isLittleEndian = true)) :
    convertAudioSamples spec block = .ok (spec.bufferInfo sampleFormat, block) := by
  have hwiden : ¬(spec.getSampleFormat.is24 = true ∧ (!block.bytesAdjusted) = true) := by
    rintro ⟨h24, hadjusted⟩
    rcases h with h | ⟨h, -⟩
    · simp [h] at hadjusted
    · simp [h] at h24
  have hswap : ¬(1 < spec.audioSampleStride ∧ (!block.bytesAdjusted) = true ∧
      (!spec.isLittleEndian) = true) := by
    rintro ⟨hstride, hadjusted, hbig⟩
    rcases h with h | ⟨h24, h | h⟩
    · simp [h] at hadjusted
    · rw [AudioContentBlockSpec.audioSampleStride, h24] at hstride
      exact absurd hstride (not_lt_of_ge h)
    · simp [h] at hbig
  unfold convertAudioSamples
  rw [hformat]
  simp only [if_neg hwiden, pure_bind]
  exact if_neg hswap

/-- Samples of 24 bits are widened first. -/
theorem convertAudioSamples_of_is24 (h24 : spec.getSampleFormat.is24 = true)
    (hfirst : block.bytesAdjusted = false) :
    convertAudioSamples spec block = (BufferError.ofAccess (widenSamples spec block.bytes)).map
      fun newBuffer => (spec.bufferInfo sampleFormat, block.adjusted newBuffer) := by
  have hwiden : spec.getSampleFormat.is24 = true ∧ (!block.bytesAdjusted) = true := by
    simp [h24, hfirst]
  unfold convertAudioSamples
  rw [hformat]
  simp only [if_pos hwiden]
  cases widenSamples spec block.bytes with
  | none => rfl
  | some newBuffer => exact if_neg fun h => Bool.false_ne_true h.2.1

/-- Big-endian samples of another size are swapped first. -/
theorem convertAudioSamples_of_swap (h24 : spec.getSampleFormat.is24 = false)
    (hfirst : block.bytesAdjusted = false) (hstride : 1 < spec.getSampleFrameStride)
    (hbig : spec.isLittleEndian = false) :
    convertAudioSamples spec block = (fixEndianness spec.getSampleFrameStride spec.getSampleCount
      spec.getChannelCount.toNat block.bytes).map
        fun bytes => (spec.bufferInfo sampleFormat, block.adjusted bytes) := by
  have hinfo : spec.bufferInfo sampleFormat = ⟨spec.getBytesPerSample, sampleFormat,
      [spec.getSampleCount, spec.getChannelCount.toNat],
      [spec.getSampleFrameStride, spec.getBytesPerSample]⟩ := by
    simp [AudioContentBlockSpec.bufferInfo, AudioContentBlockSpec.audioSampleByteSize,
      AudioContentBlockSpec.audioSampleStride, h24]
  unfold convertAudioSamples
  rw [hformat, hinfo]
  simp only [pure_bind, h24, Bool.false_eq_true, if_false, hstride, hfirst, hbig,
    Bool.not_false, and_self, if_true]
  cases fixEndianness spec.getSampleFrameStride spec.getSampleCount spec.getChannelCount.toNat
    block.bytes with
  | error e => rfl
  | ok bytes => rfl

end Samples

/-- Samples are kept, widened or swapped. -/
theorem kept_or_widened_or_swapped (spec : AudioContentBlockSpec) (block : ContentBlockBuffer L) :
    (block.bytesAdjusted = true ∨ spec.getSampleFormat.is24 = false ∧
      (spec.getSampleFrameStride ≤ 1 ∨ spec.isLittleEndian = true)) ∨
    (spec.getSampleFormat.is24 = true ∧ block.bytesAdjusted = false) ∨
    (spec.getSampleFormat.is24 = false ∧ block.bytesAdjusted = false ∧
      1 < spec.getSampleFrameStride ∧ spec.isLittleEndian = false) := by
  refine or_iff_not_imp_left.2 fun hkept => ?_
  rw [not_or, Bool.not_eq_true] at hkept
  obtain ⟨hfirst, hkept⟩ := hkept
  cases h24 : spec.getSampleFormat.is24 with
  | true => exact .inl ⟨rfl, hfirst⟩
  | false =>
    rw [h24, not_and, not_or, not_le, Bool.not_eq_true] at hkept
    exact .inr ⟨rfl, hfirst, hkept rfl⟩

/-- What becomes of a block when its samples are shown. -/
inductive AdjustedTo (spec : AudioContentBlockSpec) (block : ContentBlockBuffer L) :
    ContentBlockBuffer L → Prop
  | kept (h : block.bytesAdjusted = true ∨ spec.getSampleFormat.is24 = false ∧
      (spec.getSampleFrameStride ≤ 1 ∨ spec.isLittleEndian = true)) : AdjustedTo spec block block
  | widened (h24 : spec.getSampleFormat.is24 = true) (hfirst : block.bytesAdjusted = false)
      {newBuffer : List UInt8} (h : widenSamples spec block.bytes = some newBuffer) :
      AdjustedTo spec block (block.adjusted newBuffer)
  | swapped (h24 : spec.getSampleFormat.is24 = false) (hfirst : block.bytesAdjusted = false)
      {bytes : List UInt8} (h : fixEndianness spec.getSampleFrameStride spec.getSampleCount
        spec.getChannelCount.toNat block.bytes = .ok bytes) :
      AdjustedTo spec block (block.adjusted bytes)

/-- **What showing samples returns**: their buffer, which the spec alone determines. -/
theorem convertAudioSamples_eq_ok (h : convertAudioSamples spec block = .ok (info, block')) :
    ∃ sampleFormat, spec.getSampleFormat.scalarFormat = some sampleFormat ∧
      info = spec.bufferInfo sampleFormat ∧ AdjustedTo spec block block' := by
  cases hformat : spec.getSampleFormat.scalarFormat with
  | none =>
    unfold convertAudioSamples at h
    rw [hformat] at h
    cases h
  | some sampleFormat =>
    refine ⟨sampleFormat, rfl, ?_⟩
    rcases kept_or_widened_or_swapped spec block with
      hkept | ⟨h24, hfirst⟩ | ⟨h24, hfirst, hstride, hbig⟩
    · rw [convertAudioSamples_of_kept hformat hkept] at h
      cases h
      exact ⟨rfl, .kept hkept⟩
    · rw [convertAudioSamples_of_is24 hformat h24 hfirst] at h
      cases hwidened : widenSamples spec block.bytes with
      | none =>
        rw [hwidened] at h
        cases h
      | some newBuffer =>
        rw [hwidened] at h
        cases h
        exact ⟨rfl, .widened h24 hfirst hwidened⟩
    · rw [convertAudioSamples_of_swap hformat h24 hfirst hstride hbig] at h
      cases hfix : fixEndianness spec.getSampleFrameStride spec.getSampleCount
          spec.getChannelCount.toNat block.bytes with
      | error e =>
        rw [hfix] at h
        cases h
      | ok bytes =>
        rw [hfix] at h
        cases h
        exact ⟨rfl, .swapped h24 hfirst hfix⟩

/-! ## One audio spec -/

/-- The getters of a library with one audio spec. -/
def SpecGetters.ofAudio (spec : AudioContentBlockSpec) : SpecGetters VrsLib.bare where
  audio _ := spec
  getBytesPerPixel _ := 1
  getStride image := image.width
  getChannelCountPerPixel _ := 1
  getRawImageSize image := image.width * image.height

/-- A block of audio, as a record is read with it. -/
def audioBlock (bytes : List UInt8) : ContentBlockBuffer VrsLib.bare :=
  ⟨⟨.audio, some bytes.length, ⟨.undefined, .undefined, 0, 0⟩, ()⟩, bytes, true, false⟩

end Pyvrs
