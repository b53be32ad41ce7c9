import Pyvrs.Utils.Audio24
import Pyvrs.Utils.BigEndianAudio

/-!
# Looking at a block again

`convertContentBlockBuffer` may change the bytes of its block, and then sets `bytesAdjusted`. What
it returns is shown again by every later call if it is shown by the next one and the block stays
(`looks_of_settled`). A block is settled after its first call as long as it keeps its size, which
is compared with the spec on every call: swapped samples do (`length_of_fixEndianness`), but
widened samples need four bytes for each channel. If the frames of the block had another size, later
calls show its bytes instead (`showsAgain_iff`).
-/

namespace Pyvrs

open Foundations

/-! ## Later calls -/

variable {L : VrsLib} (G : SpecGetters L) {block block₁ : ContentBlockBuffer L}
  {info : BlockBufferInfo}

/-- The `k`-th of the later calls. -/
def looks : ℕ → ContentBlockBuffer L → Except BufferError (BlockBufferInfo × ContentBlockBuffer L)
  | 0, block => convertContentBlockBuffer G block
  | k + 1, block => do
    let (_, block') ← convertContentBlockBuffer G block
    looks k block'

/-- Two buffers show the same array: its item size, format, shape, strides and values. -/
structure SameArray (info : BlockBufferInfo) (shown : List UInt8) (info' : BlockBufferInfo)
    (shown' : List UInt8) : Prop where
  info_eq : info' = info
  element_eq : ∀ index, info'.element shown' index = info.element shown index

/-- Every later call shows the array that the first one shows. -/
def ShowsAgain (block : ContentBlockBuffer L) : Prop :=
  ∀ info block₁, convertContentBlockBuffer G block = .ok (info, block₁) →
    ∀ k, ∃ info' block', looks G k block₁ = .ok (info', block') ∧
      SameArray info block₁.bytes info' block'.bytes

variable {G}

/-- **A block that a call leaves as it is** is left so by all later ones. -/
theorem looks_of_settled (h : convertContentBlockBuffer G block = .ok (info, block)) (k : ℕ) :
    looks G k block = .ok (info, block) := by
  induction k with
  | zero => exact h
  | succ k ih =>
    show (convertContentBlockBuffer G block >>= fun r => looks G k r.2) = _
    rw [h]
    exact ih

/-! ## What the first call leaves -/

theorem length_of_swapFrames {word stride count channelCount : ℕ} {bytes bytes' : List UInt8}
    (h : swapFrames word stride count channelCount bytes = some bytes') :
    bytes'.length = bytes.length :=
  (foldlM_eq_some (I := fun m => m.length = bytes.length)
    (fun _ _ _ hframe hm => (length_of_swapFrame hframe).trans hm) rfl h).1

/-- Swapped samples have the size they had. -/
theorem length_of_fixEndianness {stride count channelCount : ℕ} {bytes bytes' : List UInt8}
    (h : fixEndianness stride count channelCount bytes = .ok bytes') :
    bytes'.length = bytes.length :=
  length_of_swapFrames (fixEndianness_eq_ok_iff.1 h).2

/-- Samples of 24 bits are not widened if their frames have no room for them. -/
theorem widenSamples_eq_none {spec : AudioContentBlockSpec} {bytes : List UInt8}
    (hstride : spec.getSampleFrameStride < 3 * spec.getChannelCount.toNat)
    (hcount : spec.getSampleCount ≠ 0)
    (hlength : bytes.length = spec.getSampleFrameStride * spec.getSampleCount) :
    widenSamples spec bytes = none := by
  refine Option.eq_none_iff_forall_ne_some.2 fun newBuffer h => ?_
  -- the last sample of the last frame would be read after the end
  obtain ⟨-, hframes⟩ := foldlM_eq_some (I := fun _ => True) (fun _ _ _ _ _ => trivial) trivial h
  obtain ⟨m, m', -, hframe⟩ := hframes (spec.getSampleCount - 1) (List.mem_range.2 (by omega))
  obtain ⟨-, hchannels⟩ := foldlM_eq_some (I := fun _ => True) (fun _ _ _ _ _ => trivial) trivial
    hframe
  obtain ⟨m₁, m₂, -, hsample⟩ := hchannels (spec.getChannelCount.toNat - 1)
    (List.mem_range.2 (by omega))
  obtain ⟨src, hload, -⟩ := Option.bind_eq_some_iff.1 hsample
  have hin := (load_eq_some_iff.1 hload).1
  obtain ⟨n, hn⟩ := Nat.exists_eq_succ_of_ne_zero hcount
  rw [hlength, hn, Nat.succ_sub_one, Nat.mul_comm _ n.succ, Nat.succ_mul] at hin
  omega

/-- Widened samples have four bytes each. -/
theorem length_of_widenSamples {spec : AudioContentBlockSpec} {bytes newBuffer : List UInt8}
    (hlength : bytes.length = spec.getSampleFrameStride * spec.getSampleCount)
    (h : widenSamples spec bytes = some newBuffer) :
    newBuffer.length = 4 * spec.getSampleCount * spec.getChannelCount.toNat ∧
      (spec.getSampleCount = 0 ∨
        3 * spec.getChannelCount.toNat ≤ spec.getSampleFrameStride) := by
  by_cases hcount : spec.getSampleCount = 0
  · unfold widenSamples at h
    rw [hcount] at h
    cases h
    exact ⟨by rw [hcount]; exact List.length_replicate, .inl hcount⟩
  · by_cases hstride : 3 * spec.getChannelCount.toNat ≤ spec.getSampleFrameStride
    · obtain ⟨m, hm, hwidened⟩ := exists_widenSamples hstride hlength
      rw [h] at hm
      cases hm
      exact ⟨hwidened.length_eq, .inr hstride⟩
    · rw [widenSamples_eq_none (by omega) hcount hlength] at h
      cases h

/-- Samples that were adjusted and still have the size that their spec has are shown as they are. -/
theorem convertContentBlockBuffer_of_adjusted {bytes : List UInt8} {sampleFormat : String}
    (haudio : block.IsAudio G)
    (hformat : (G.audio block.spec.audio).getSampleFormat.scalarFormat = some sampleFormat)
    (hlength : bytes.length = block.bytes.length) :
    convertContentBlockBuffer G (block.adjusted bytes) =
      .ok ((G.audio block.spec.audio).bufferInfo sampleFormat, block.adjusted bytes) := by
  have haudio' : (block.adjusted bytes).IsAudio G :=
    ⟨haudio.structuredArray, haudio.contentType, hlength.trans haudio.length_eq⟩
  rw [convertContentBlockBuffer_of_isAudio haudio']
  exact convertAudioSamples_of_kept hformat (.inl rfl)

/-- The first call widens the samples of the block, to a size that its spec does not have. -/
structure ContentBlockBuffer.Outgrown (G : SpecGetters L) (block : ContentBlockBuffer L) :
    Prop where
  isAudio : block.IsAudio G
  is24 : (G.audio block.spec.audio).getSampleFormat.is24 = true
  bytesAdjusted : block.bytesAdjusted = false
  sampleCount_ne_zero : (G.audio block.spec.audio).getSampleCount ≠ 0
  le_sampleFrameStride : 3 * (G.audio block.spec.audio).getChannelCount.toNat ≤
    (G.audio block.spec.audio).getSampleFrameStride
  sampleFrameStride_ne : (G.audio block.spec.audio).getSampleFrameStride ≠
    4 * (G.audio block.spec.audio).getChannelCount.toNat

/-- **The first call settles** every other block. -/
theorem settled_of_not_outgrown (h : ¬block.Outgrown G)
    (hfirst : convertContentBlockBuffer G block = .ok (info, block₁)) :
    convertContentBlockBuffer G block₁ = .ok (info, block₁) := by
  by_cases himage : block.IsImage G
  · rw [convertContentBlockBuffer_of_isImage himage] at hfirst
    cases hinfo : G.imageInfo block.spec.image with
    | error e =>
      rw [hinfo] at hfirst
      cases hfirst
    | ok info' =>
      rw [hinfo] at hfirst
      cases hfirst
      rw [convertContentBlockBuffer_of_isImage himage, hinfo]
      rfl
  · by_cases haudio : block.IsAudio G
    · have hcall := hfirst
      rw [convertContentBlockBuffer_of_isAudio haudio] at hcall
      obtain ⟨sampleFormat, hformat, rfl, hadjusted⟩ := convertAudioSamples_eq_ok hcall
      cases hadjusted with
      | kept _ => exact hfirst
      | swapped h24 hnot hfix =>
        exact convertContentBlockBuffer_of_adjusted haudio hformat (length_of_fixEndianness hfix)
      | widened h24 hnot hwidened =>
        refine convertContentBlockBuffer_of_adjusted haudio hformat ?_
        obtain ⟨hlength, hstride⟩ := length_of_widenSamples haudio.length_eq hwidened
        rw [hlength, haudio.length_eq]
        by_cases hcount : (G.audio block.spec.audio).getSampleCount = 0
        · simp [hcount]
        · have hsize : (G.audio block.spec.audio).getSampleFrameStride =
              4 * (G.audio block.spec.audio).getChannelCount.toNat := by
            by_contra hne
            exact h ⟨haudio, h24, hnot, hcount, hstride.resolve_left hcount, hne⟩
          rw [hsize]
          ring
    · have hcall := hfirst
      rw [convertContentBlockBuffer_of_bytes himage haudio] at hcall
      cases hcall
      exact hfirst

/-- **Samples that outgrow their block** are shown as bytes by the next call. -/
theorem next_of_outgrown (h : block.Outgrown G) : ∃ block₁,
    convertContentBlockBuffer G block = .ok ((G.audio block.spec.audio).bufferInfo
      (if (G.audio block.spec.audio).getSampleFormat.isSigned24 then "i" else "I"), block₁) ∧
    convertContentBlockBuffer G block₁ = .ok (bufferInfoFromVector block₁.bytes, block₁) := by
  obtain ⟨newBuffer, hwidened, hall⟩ := exists_widenSamples h.le_sampleFrameStride
    h.isAudio.length_eq
  refine ⟨block.adjusted newBuffer, ?_, convertContentBlockBuffer_of_bytes (fun himage => ?_)
    fun haudio => ?_⟩
  · rw [convertContentBlockBuffer_of_isAudio h.isAudio,
      convertAudioSamples_of_is24 (AudioSampleFormat.scalarFormat_of_is24 h.is24) h.is24
        h.bytesAdjusted, hwidened]
    rfl
  · cases himage.contentType.symm.trans h.isAudio.contentType
  · have hlength := haudio.length_eq
    simp only [ContentBlockBuffer.adjusted_bytes, ContentBlockBuffer.adjusted_spec,
      hall.length_eq] at hlength
    refine h.sampleFrameStride_ne (Nat.eq_of_mul_eq_mul_right
      (Nat.pos_of_ne_zero h.sampleCount_ne_zero) ?_)
    rw [← hlength]
    ring

/-- **Later calls show the array of the first one** if and only if the block is not widened to a
size that its spec does not have. -/
theorem showsAgain_iff : ShowsAgain G block ↔ ¬block.Outgrown G := by
  constructor
  · intro h houtgrown
    obtain ⟨block₁, hfirst, hnext⟩ := next_of_outgrown houtgrown
    obtain ⟨info', block', hlook, hsame⟩ := h _ _ hfirst 0
    rw [looks, hnext] at hlook
    cases hlook
    -- one dimension instead of two
    have hshape := congrArg (fun info => info.shape.length) hsame.info_eq
    cases hshape
  · intro h info block₁ hfirst k
    exact ⟨info, block₁, looks_of_settled (settled_of_not_outgrown h hfirst) k, rfl,
      fun _ => rfl⟩

/-- **One sample of 24 bits** in a frame of three bytes is shown as four bytes by the second
call. -/
theorem not_showsAgain_packed :
    ¬ShowsAgain (.ofAudio ⟨.s24Le, 1, 3, 1, 3, true⟩) (audioBlock [1, 2, 3]) := by
  intro h
  obtain ⟨info', block', hlook, hsame⟩ := h ⟨4, "i", [1, 1], [4, 4]⟩
    ((audioBlock [1, 2, 3]).adjusted [1, 2, 3, 0]) rfl 0
  have hnext : looks (.ofAudio ⟨.s24Le, 1, 3, 1, 3, true⟩) 0
      ((audioBlock [1, 2, 3]).adjusted [1, 2, 3, 0]) =
        .ok (⟨1, "B", [4], [1]⟩, (audioBlock [1, 2, 3]).adjusted [1, 2, 3, 0]) := rfl
  rw [hnext] at hlook
  cases hlook
  cases hsame.info_eq

end Pyvrs
