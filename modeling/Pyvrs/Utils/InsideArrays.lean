import Pyvrs.Utils.ImageViews
import Pyvrs.Utils.LookingAgain

/-!
# Arrays inside their buffers

Every element of the arrays shown to Python lies in the bytes that they are shown of. Of an image,
whichever variables its format determines, a row of pixels fits in its stride
(`PixelFormat.pixels_fit`), and the rows fit in an image of the size that its spec has
(`imageBufferInfo_inside`). Samples that are not widened fit in their frames, and widened ones fill
their buffer; this is what stays true of a block from one call to the next (`Kept`,
`convertContentBlockBuffer_inside`), so it holds on every call (`inside_of_looks`).
-/

namespace Pyvrs

open Foundations

/-! ## Elements -/

/-- Every element of the array lies in the bytes. -/
def BlockBufferInfo.Inside (info : BlockBufferInfo) (bytes : List UInt8) : Prop :=
  ∀ index, List.Forall₂ (· < ·) index info.shape →
    (List.zipWith (· * ·) index info.strides).sum + info.itemsize ≤ bytes.length

/-- The elements that lie in the bytes can be loaded. -/
theorem BlockBufferInfo.Inside.isSome_element {info : BlockBufferInfo} {bytes : List UInt8}
    (h : info.Inside bytes) {index : List ℕ} (hindex : List.Forall₂ (· < ·) index info.shape) :
    (info.element bytes index).isSome :=
  isSome_load (h index hindex)

theorem bufferInfoFromVector_inside (vec : List UInt8) : (bufferInfoFromVector vec).Inside vec := by
  intro index hindex
  obtain ⟨i, hi, rfl⟩ : ∃ i, i < vec.length ∧ index = [i] := by
    cases hindex with
    | cons hi hnil =>
      cases hnil
      exact ⟨_, hi, rfl⟩
  simp [bufferInfoFromVector]
  omega

/-- What fits in a row, in one of so many rows. -/
theorem row_le {r rows used stride : ℕ} (hr : r < rows) (hused : used ≤ stride) :
    r * stride + used ≤ stride * rows := by
  have := Nat.mul_le_mul_right stride (Nat.succ_le_of_lt hr)
  rw [Nat.succ_mul, Nat.mul_comm rows] at this
  omega

/-- An array of rows, in a buffer that is as large as the rows. -/
theorem inside_of_rows {itemsize rows columns stride size : ℕ} {format : String}
    {bytes : List UInt8} (hrow : columns * itemsize ≤ stride)
    (hsize : stride * rows ≤ bytes.length) (hitem : size ≤ itemsize) :
    (⟨size, format, [rows, columns], [stride, itemsize]⟩ : BlockBufferInfo).Inside bytes := by
  intro index hindex
  obtain ⟨r, x, hr, hx, rfl⟩ : ∃ r x, r < rows ∧ x < columns ∧ index = [r, x] := by
    cases hindex with
    | cons hr hrest =>
      cases hrest with
      | cons hx hnil =>
        cases hnil
        exact ⟨_, _, hr, hx, rfl⟩
  have hused := row_le hx (Nat.le_refl itemsize)
  rw [Nat.mul_comm itemsize] at hused
  have hin := row_le hr (hused.trans hrow)
  simp only [List.zipWith_cons_cons, List.zipWith_nil_left, List.sum_cons, List.sum_nil]
  omega

/-! ## Images -/

/-- The bytes of one row of the first plane. -/
def PixelFormat.firstPlaneRowBytes (format : PixelFormat) (bytesPerPixel width : ℕ) : ℕ :=
  match format with
  | .yuvI420Split | .yuv420Nv12 | .yuv420Nv21 => width
  | .yuy2 => 2 * width
  -- four pixels of ten bits in five bytes
  | .raw10 | .raw10BayerRggb | .raw10BayerBggr | .grey10packed => (width * 10 + 7) / 8
  | _ => width * bytesPerPixel

section Image

variable {format : PixelFormat} {bytesPerPixel channelCount width height stride : ℕ}

/-- **A row of pixels fits in its stride.** -/
theorem PixelFormat.pixels_fit (hchannels : 1 ≤ channelCount)
    (hrow : format.firstPlaneRowBytes bytesPerPixel width ≤ stride) :
    let (bytesPerPixel', channelCount', width') :=
      format.pixels bytesPerPixel channelCount width stride
    1 ≤ channelCount' ∧ width' * bytesPerPixel' ≤ stride := by
  cases format <;>
    simp only [PixelFormat.firstPlaneRowBytes, PixelFormat.pixels] at hrow ⊢ <;> omega

theorem PixelFormat.imagePixels_fit (hchannels : 1 ≤ channelCount)
    (hrow : format.firstPlaneRowBytes bytesPerPixel width ≤ stride) :
    let (bytesPerPixel', channelCount', width') :=
      format.imagePixels bytesPerPixel channelCount width stride
    1 ≤ channelCount' ∧ width' * bytesPerPixel' ≤ stride := by
  by_cases hformat : format = .rgbIrRaw4x4
  · subst hformat
    exact ⟨hchannels, hrow⟩
  · rw [PixelFormat.imagePixels_eq_pixels hformat]
    exact PixelFormat.pixels_fit hchannels hrow

/-- **The pixels of an image** are in its bytes, and so are their channels. -/
theorem imageBufferInfo_inside {scalarFormat : String} {bytes : List UInt8}
    (hchannels : 1 ≤ channelCount) (hrow : width * bytesPerPixel ≤ stride)
    (hsize : stride * height ≤ bytes.length) :
    ∃ info, imageBufferInfo scalarFormat bytesPerPixel channelCount width height stride = .ok info ∧
      info.Inside bytes := by
  refine ⟨_, if_neg (Nat.ne_of_gt hchannels), ?_⟩
  have hitem : bytesPerPixel / channelCount ≤ bytesPerPixel := Nat.div_le_self _ _
  by_cases hmany : 1 < channelCount
  · simp only [hmany, if_true]
    intro index hindex
    obtain ⟨r, x, k, hr, hx, hk, rfl⟩ : ∃ r x k, r < height ∧ x < width ∧ k < channelCount ∧
        index = [r, x, k] := by
      cases hindex with
      | cons hr hrest =>
        cases hrest with
        | cons hx hrest =>
          cases hrest with
          | cons hk hnil =>
            cases hnil
            exact ⟨_, _, _, hr, hx, hk, rfl⟩
    -- the channel is in the pixel, which is in the row
    have hchannel := row_le hk (Nat.le_refl (bytesPerPixel / channelCount))
    have hpixel := row_le hx (hchannel.trans (Nat.div_mul_le_self bytesPerPixel channelCount))
    rw [Nat.mul_comm bytesPerPixel] at hpixel
    have hin := row_le hr (hpixel.trans hrow)
    simp only [List.cons_append, List.nil_append, List.zipWith_cons_cons, List.zipWith_nil_left,
      List.sum_cons, List.sum_nil]
    omega
  · simp only [hmany, if_false, List.append_nil]
    exact inside_of_rows hrow hsize hitem

end Image

variable {L : VrsLib} {G : SpecGetters L}

/-- What vrs ensures of the spec of an image. -/
structure SpecGetters.ImageSpecFits (G : SpecGetters L) (spec : ImageContentBlockSpec) : Prop where
  one_le_channelCount : 1 ≤ G.getChannelCountPerPixel spec
  rowBytes_le_stride : spec.pixelFormat.firstPlaneRowBytes (G.getBytesPerPixel spec) spec.width ≤
    G.getStride spec
  le_rawImageSize : G.getStride spec * spec.height ≤ G.getRawImageSize spec

section Views

variable {spec : ImageContentBlockSpec} {bytes : List UInt8}

theorem SpecGetters.ImageSpecFits.imageInfo (h : G.ImageSpecFits spec)
    (hlength : bytes.length = G.getRawImageSize spec) :
    ∃ info, G.imageInfo spec = .ok info ∧ info.Inside bytes := by
  obtain ⟨hchannels, hrow⟩ := PixelFormat.pixels_fit h.one_le_channelCount h.rowBytes_le_stride
  exact imageBufferInfo_inside hchannels hrow (hlength ▸ h.le_rawImageSize)

theorem SpecGetters.ImageSpecFits.rawImageInfo (h : G.ImageSpecFits spec)
    (hlength : bytes.length = G.getRawImageSize spec) :
    ∃ info, G.rawImageInfo spec = .ok info ∧ info.Inside bytes := by
  obtain ⟨hchannels, hrow⟩ := PixelFormat.imagePixels_fit h.one_le_channelCount h.rowBytes_le_stride
  exact imageBufferInfo_inside hchannels hrow (hlength ▸ h.le_rawImageSize)

end Views

/-! ## Samples -/

/-- What vrs ensures of the spec of audio. -/
structure AudioContentBlockSpec.Fits (spec : AudioContentBlockSpec) : Prop where
  one_le_channelCount : 1 ≤ spec.getChannelCount.toNat
  le_sampleFrameStride : spec.getChannelCount.toNat * spec.getBytesPerSample ≤
    spec.getSampleFrameStride

/-- Widened samples fill the bytes of the block that was adjusted. -/
def Kept (G : SpecGetters L) (block : ContentBlockBuffer L) : Prop :=
  block.bytesAdjusted = true → (G.audio block.spec.audio).getSampleFormat.is24 = true →
    block.bytes.length = 4 * (G.audio block.spec.audio).getSampleCount *
      (G.audio block.spec.audio).getChannelCount.toNat

/-- **Samples are in the bytes** that they are shown of, before and after these are adjusted. -/
theorem AdjustedTo.inside {block block' : ContentBlockBuffer L}
    (h : AdjustedTo (G.audio block.spec.audio) block block') (sampleFormat : String)
    (hkept : Kept G block) (hspec : (G.audio block.spec.audio).Fits)
    (hlength : block.bytes.length = (G.audio block.spec.audio).getSampleFrameStride *
      (G.audio block.spec.audio).getSampleCount) :
    ((G.audio block.spec.audio).bufferInfo sampleFormat).Inside block'.bytes ∧ Kept G block' := by
  unfold AudioContentBlockSpec.bufferInfo AudioContentBlockSpec.audioSampleStride
    AudioContentBlockSpec.audioSampleByteSize
  -- samples of 24 bits have four bytes once they are adjusted
  have hwide : ∀ bytes : List UInt8, bytes.length = 4 * (G.audio block.spec.audio).getSampleCount *
      (G.audio block.spec.audio).getChannelCount.toNat →
      BlockBufferInfo.Inside ⟨4, sampleFormat, [(G.audio block.spec.audio).getSampleCount,
        (G.audio block.spec.audio).getChannelCount.toNat],
        [4 * (G.audio block.spec.audio).getChannelCount.toNat, 4]⟩ bytes := by
    intro bytes hbytes
    refine inside_of_rows (Nat.mul_comm _ _).le (le_of_eq ?_) (Nat.le_refl 4)
    rw [hbytes]
    ring
  cases h with
  | kept hcase =>
    refine ⟨?_, hkept⟩
    cases h24 : (G.audio block.spec.audio).getSampleFormat.is24 with
    | true =>
      rcases hcase with hadjusted | ⟨hnot, -⟩
      · exact hwide _ (hkept hadjusted h24)
      · cases h24.symm.trans hnot
    | false => exact inside_of_rows hspec.le_sampleFrameStride hlength.ge (Nat.le_refl _)
  | widened h24 hfirst hwidened =>
    have hnew := (length_of_widenSamples hlength hwidened).1
    rw [h24]
    exact ⟨hwide _ hnew, fun _ _ => hnew⟩
  | swapped h24 hfirst hfix =>
    rw [h24]
    refine ⟨inside_of_rows hspec.le_sampleFrameStride ?_ (Nat.le_refl _),
      fun _ htrue => by cases h24.symm.trans htrue⟩
    rw [ContentBlockBuffer.adjusted_bytes, length_of_fixEndianness hfix]
    exact hlength.ge

/-! ## Calls -/

/-- What vrs ensures of the spec of a block. -/
structure ContentBlockBuffer.SpecFits (G : SpecGetters L) (block : ContentBlockBuffer L) :
    Prop where
  image : block.IsImage G → G.ImageSpecFits block.spec.image
  audio : block.IsAudio G → (G.audio block.spec.audio).Fits

section Calls

variable {block : ContentBlockBuffer L}

theorem fixEndianness_ne_divisionByZero {stride count channelCount : ℕ} {bytes : List UInt8} :
    fixEndianness stride count channelCount bytes ≠ .error .divisionByZero := by
  unfold fixEndianness
  split_ifs
  · exact BufferError.ofAccess_ne_divisionByZero _
  · exact BufferError.ofAccess_ne_divisionByZero _
  · exact BufferError.ofAccess_ne_divisionByZero _
  · simp

/-- Nothing is divided to show samples. -/
theorem convertAudioSamples_ne_divisionByZero {spec : AudioContentBlockSpec} :
    convertAudioSamples spec block ≠ .error .divisionByZero := by
  intro h
  cases hformat : spec.getSampleFormat.scalarFormat with
  | none =>
    unfold convertAudioSamples at h
    rw [hformat] at h
    cases h
  | some sampleFormat =>
    rcases kept_or_widened_or_swapped spec block with
      hkept | ⟨h24, hfirst⟩ | ⟨h24, hfirst, hstride, hbig⟩
    · rw [convertAudioSamples_of_kept hformat hkept] at h
      cases h
    · rw [convertAudioSamples_of_is24 hformat h24 hfirst] at h
      cases hwidened : widenSamples spec block.bytes <;> rw [hwidened] at h <;> cases h
    · rw [convertAudioSamples_of_swap hformat h24 hfirst hstride hbig] at h
      cases hfix : fixEndianness spec.getSampleFrameStride spec.getSampleCount
          spec.getChannelCount.toNat block.bytes with
      | ok bytes =>
        rw [hfix] at h
        cases h
      | error e =>
        rw [hfix] at h
        cases h
        exact fixEndianness_ne_divisionByZero hfix

theorem AdjustedTo.spec_eq {spec : AudioContentBlockSpec} {block' : ContentBlockBuffer L}
    (h : AdjustedTo spec block block') : block'.spec = block.spec := by
  cases h <;> rfl

/-- **One call** shows an array that is inside its block, and leaves the block ready for another. -/
theorem convertContentBlockBuffer_inside (hspec : block.SpecFits G) (hkept : Kept G block) :
    convertContentBlockBuffer G block ≠ .error .divisionByZero ∧
      ∀ info block', convertContentBlockBuffer G block = .ok (info, block') →
        info.Inside block'.bytes ∧ block'.SpecFits G ∧ Kept G block' := by
  by_cases himage : block.IsImage G
  · obtain ⟨info, hinfo, hinside⟩ := (hspec.image himage).imageInfo himage.length_eq
    rw [convertContentBlockBuffer_of_isImage himage, hinfo]
    refine ⟨nofun, fun info' block' h => ?_⟩
    cases h
    exact ⟨hinside, hspec, hkept⟩
  · by_cases haudio : block.IsAudio G
    · rw [convertContentBlockBuffer_of_isAudio haudio]
      refine ⟨convertAudioSamples_ne_divisionByZero, fun info block' h => ?_⟩
      obtain ⟨sampleFormat, hformat, rfl, hadjusted⟩ := convertAudioSamples_eq_ok h
      obtain ⟨hinside, hkept'⟩ := hadjusted.inside sampleFormat hkept
        (hspec.audio haudio) haudio.length_eq
      refine ⟨hinside, ⟨fun himage' => ?_, fun _ => ?_⟩, hkept'⟩
      · have htype := himage'.contentType
        rw [hadjusted.spec_eq, haudio.contentType] at htype
        cases htype
      · rw [hadjusted.spec_eq]
        exact hspec.audio haudio
    · rw [convertContentBlockBuffer_of_bytes himage haudio]
      refine ⟨nofun, fun info' block' h => ?_⟩
      cases h
      exact ⟨bufferInfoFromVector_inside _, hspec, hkept⟩

/-- **Every call** shows an array that is inside its block. -/
theorem looks_inside (k : ℕ) (hspec : block.SpecFits G) (hkept : Kept G block) :
    looks G k block ≠ .error .divisionByZero ∧
      ∀ info block', looks G k block = .ok (info, block') → info.Inside block'.bytes := by
  induction k generalizing block with
  | zero =>
    obtain ⟨hne, hcall⟩ := convertContentBlockBuffer_inside hspec hkept
    exact ⟨hne, fun info block' h => (hcall info block' h).1⟩
  | succ k ih =>
    obtain ⟨hne, hcall⟩ := convertContentBlockBuffer_inside hspec hkept
    have hstep : looks G (k + 1) block =
        convertContentBlockBuffer G block >>= fun r => looks G k r.2 := rfl
    rw [hstep]
    cases hfirst : convertContentBlockBuffer G block with
    | error e =>
      rw [hfirst] at hne
      refine ⟨fun h => ?_, fun info block' h => ?_⟩
      · cases h
        exact hne rfl
      · cases h
    | ok r =>
      obtain ⟨-, hspec', hkept'⟩ := hcall r.1 r.2 hfirst
      exact ih hspec' hkept'

theorem convertImageBlockBuffer_inside {image : ImageBuffer}
    (hspec : image.spec.imageFormat = .raw → G.ImageSpecFits image.spec) :
    ∃ info, convertImageBlockBuffer G image = .ok info ∧ info.Inside image.bytes := by
  by_cases hraw : image.spec.imageFormat = .raw ∧
      image.bytes.length = G.getRawImageSize image.spec
  · rw [convertImageBlockBuffer_of_raw hraw.1 hraw.2]
    exact (hspec hraw.1).rawImageInfo hraw.2
  · rw [convertImageBlockBuffer_of_bytes hraw]
    exact ⟨_, rfl, bufferInfoFromVector_inside _⟩

/-- **Arrays stay inside their buffers**: those of the blocks of a record, each time they are
looked at, and those of images that Python has made. -/
theorem arrays_inside (G : SpecGetters L) :
    (∀ block : ContentBlockBuffer L, block.bytesAdjusted = false → block.SpecFits G →
      ∀ k, looks G k block ≠ .error .divisionByZero ∧
        ∀ info block', looks G k block = .ok (info, block') → info.Inside block'.bytes) ∧
    ∀ image : ImageBuffer, (image.spec.imageFormat = .raw → G.ImageSpecFits image.spec) →
      ∃ info, convertImageBlockBuffer G image = .ok info ∧ info.Inside image.bytes := by
  constructor
  · intro block hfresh hspec k
    refine looks_inside k hspec fun hadjusted => ?_
    cases hfresh.symm.trans hadjusted
  · intro image hspec
    exact convertImageBlockBuffer_inside hspec

end Calls

/-- Samples of 24 bits in frames of three bytes, the second time they are looked at, and two grey
pixels. -/
theorem arrays_inside_packed :
    (∀ info block', looks (.ofAudio ⟨.s24Le, 1, 3, 1, 3, true⟩) 1 (audioBlock [1, 2, 3]) =
      .ok (info, block') → info.Inside block'.bytes) ∧
    ∃ info, convertImageBlockBuffer (.ofImage 1 1) ⟨⟨.raw, .grey8, 2, 1⟩, [1, 2], -1⟩ = .ok info ∧
      info.Inside [1, 2] :=
  ⟨((arrays_inside (.ofAudio ⟨.s24Le, 1, 3, 1, 3, true⟩)).1 (audioBlock [1, 2, 3]) rfl
      ⟨fun himage => (nomatch himage.contentType), fun _ => ⟨by decide, by decide⟩⟩ 1).2,
    (arrays_inside (.ofImage 1 1)).2 ⟨⟨.raw, .grey8, 2, 1⟩, [1, 2], -1⟩
      fun _ => ⟨Nat.le_refl 1, by decide, by decide⟩⟩

end Pyvrs
