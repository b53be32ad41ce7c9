import Pyvrs.Utils.PyBuffer

/-!
# The two views of an image

`convertContentBlockBuffer` and `convertImageBlockBuffer` each have their own copy of the variables
that a pixel format determines. The copies differ in one format (`imagePixels_eq_pixels`): only the
view of a content block shows a pixel of `RGB_IR_RAW_4X4` as one channel. So the views agree on
every other raw image, and on none in that format (`convertImageBlockBuffer_eq_iff`).
-/

namespace Pyvrs

open Foundations

variable {bytesPerPixel channelCount width stride : ℕ}

/-- **The two copies** of the variables of a format agree, but for one format. -/
theorem PixelFormat.imagePixels_eq_pixels {format : PixelFormat} (h : format ≠ .rgbIrRaw4x4) :
    format.imagePixels bytesPerPixel channelCount width stride =
      format.pixels bytesPerPixel channelCount width stride := by
  cases format <;> first | rfl | exact absurd rfl h

variable {L : VrsLib} (G : SpecGetters L)

/-- The buffer of a raw image that Python has made. -/
def SpecGetters.rawImageInfo (imageSpec : ImageContentBlockSpec) :
    Except BufferError BlockBufferInfo :=
  let (bytesPerPixel, channelCount, width) := imageSpec.pixelFormat.imagePixels
    (G.getBytesPerPixel imageSpec) (G.getChannelCountPerPixel imageSpec) imageSpec.width
    (G.getStride imageSpec)
  imageBufferInfo imageSpec.pixelFormat.scalarFormat bytesPerPixel channelCount width
    imageSpec.height (G.getStride imageSpec)

variable {G} {image : ImageBuffer} {block : ContentBlockBuffer L}

theorem ImageContentBlockSpec.ifRaw_of_raw {spec : ImageContentBlockSpec}
    (h : spec.imageFormat = .raw) (get : ImageContentBlockSpec → ℕ) : spec.ifRaw get = get spec :=
  if_pos h

theorem convertImageBlockBuffer_of_raw (hraw : image.spec.imageFormat = .raw)
    (hlength : image.bytes.length = G.getRawImageSize image.spec) :
    convertImageBlockBuffer G image = G.rawImageInfo image.spec := by
  unfold convertImageBlockBuffer
  simp only [hraw, hlength, ImageContentBlockSpec.ifRaw_of_raw hraw, reduceCtorEq, or_self,
    if_false, and_self, if_true]
  rfl

/-- Any other image is shown as its bytes. -/
theorem convertImageBlockBuffer_of_bytes
    (h : ¬(image.spec.imageFormat = .raw ∧ image.bytes.length = G.getRawImageSize image.spec)) :
    convertImageBlockBuffer G image = .ok (bufferInfoFromVector image.bytes) := by
  unfold convertImageBlockBuffer
  simp only [if_neg h, ite_self]

/-- What a content block shows of an image does not depend on its bytes. -/
theorem map_fst_convertContentBlockBuffer (h : block.IsImage G) :
    (convertContentBlockBuffer G block).map Prod.fst = G.imageInfo block.spec.image := by
  rw [convertContentBlockBuffer_of_isImage h]
  cases G.imageInfo block.spec.image with
  | error e => rfl
  | ok info => rfl

/-- With three channels in a byte, the two views of `RGB_IR_RAW_4X4` have different item sizes. -/
theorem rawImageInfo_ne_imageInfo {spec : ImageContentBlockSpec}
    (hformat : spec.pixelFormat = .rgbIrRaw4x4) (hbytes : G.getBytesPerPixel spec = 1)
    (hchannels : G.getChannelCountPerPixel spec = 3) :
    G.rawImageInfo spec ≠ G.imageInfo spec := by
  intro h
  simp [SpecGetters.rawImageInfo, SpecGetters.imageInfo, hformat, hbytes, hchannels,
    PixelFormat.imagePixels, PixelFormat.pixels, imageBufferInfo] at h

/-- **The two views of a raw image agree** if and only if its format is not `RGB_IR_RAW_4X4`. -/
theorem convertImageBlockBuffer_eq_iff (hraw : image.spec.imageFormat = .raw)
    (himage : block.IsImage G) (hspec : block.spec.image = image.spec)
    (hbytes : block.bytes = image.bytes)
    (hrgbIr : image.spec.pixelFormat = .rgbIrRaw4x4 →
      G.getBytesPerPixel image.spec = 1 ∧ G.getChannelCountPerPixel image.spec = 3) :
    convertImageBlockBuffer G image = (convertContentBlockBuffer G block).map Prod.fst ↔
      image.spec.pixelFormat ≠ .rgbIrRaw4x4 := by
  have hlength : image.bytes.length = G.getRawImageSize image.spec := by
    rw [← hbytes, ← hspec]
    exact himage.length_eq
  rw [map_fst_convertContentBlockBuffer himage, convertImageBlockBuffer_of_raw hraw hlength, hspec]
  constructor
  · intro h hformat
    obtain ⟨hone, hthree⟩ := hrgbIr hformat
    exact rawImageInfo_ne_imageInfo hformat hone hthree h
  · intro hformat
    unfold SpecGetters.rawImageInfo SpecGetters.imageInfo
    rw [PixelFormat.imagePixels_eq_pixels hformat]

/-! ## Two images -/

/-- The getters of a library for images without gaps between their rows. -/
def SpecGetters.ofImage (bytesPerPixel channelCount : ℕ) : SpecGetters VrsLib.bare where
  audio _ := ⟨.undefined, 0, 0, 0, 0, true⟩
  getBytesPerPixel _ := bytesPerPixel
  getStride image := bytesPerPixel * image.width
  getChannelCountPerPixel _ := channelCount
  getRawImageSize image := bytesPerPixel * image.width * image.height

/-- A block of a raw image, as a record is read with it. -/
def imageBlock (spec : ImageContentBlockSpec) (bytes : List UInt8) :
    ContentBlockBuffer VrsLib.bare :=
  ⟨⟨.image, some bytes.length, spec, ()⟩, bytes, true, false⟩

/-- The views of two grey pixels agree. -/
theorem convertImageBlockBuffer_eq_grey :
    convertImageBlockBuffer (.ofImage 1 1) ⟨⟨.raw, .grey8, 2, 1⟩, [1, 2], -1⟩ =
      (convertContentBlockBuffer (.ofImage 1 1)
        (imageBlock ⟨.raw, .grey8, 2, 1⟩ [1, 2])).map Prod.fst :=
  (convertImageBlockBuffer_eq_iff rfl ⟨rfl, rfl, rfl⟩ rfl rfl (fun h => by cases h)).2 (by decide)

/-- **A pixel with infrared** has no item size in one of the views. -/
theorem convertImageBlockBuffer_ne_rgbIr :
    (SpecGetters.ofImage 1 3).getBytesPerPixel ⟨.raw, .rgbIrRaw4x4, 1, 1⟩ = 1 ∧
    (SpecGetters.ofImage 1 3).getChannelCountPerPixel ⟨.raw, .rgbIrRaw4x4, 1, 1⟩ = 3 ∧
    (imageBlock ⟨.raw, .rgbIrRaw4x4, 1, 1⟩ [1]).IsImage (.ofImage 1 3) ∧
    convertImageBlockBuffer (.ofImage 1 3) ⟨⟨.raw, .rgbIrRaw4x4, 1, 1⟩, [1], -1⟩ ≠
      (convertContentBlockBuffer (.ofImage 1 3)
        (imageBlock ⟨.raw, .rgbIrRaw4x4, 1, 1⟩ [1])).map Prod.fst := by
  refine ⟨rfl, rfl, ⟨rfl, rfl, rfl⟩, fun h => ?_⟩
  have himage : convertImageBlockBuffer (.ofImage 1 3) ⟨⟨.raw, .rgbIrRaw4x4, 1, 1⟩, [1], -1⟩ =
      .ok ⟨0, "B", [1, 1, 3], [1, 1, 0]⟩ := rfl
  have hblock : (convertContentBlockBuffer (.ofImage 1 3)
      (imageBlock ⟨.raw, .rgbIrRaw4x4, 1, 1⟩ [1])).map Prod.fst =
        .ok ⟨1, "B", [1, 1], [1, 1]⟩ := rfl
  rw [himage, hblock] at h
  cases h

end Pyvrs
