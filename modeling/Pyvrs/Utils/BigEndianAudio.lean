import Pyvrs.Utils.PyBuffer

/-!
# Big-endian audio

What the first call to `convertContentBlockBuffer` does with a block of big-endian samples. The
words that it swaps are as wide as a frame, and it advances by two of them from one channel to the
next. With one channel, a frame is a sample and every sample is swapped (`swapFrames_mono`). With
more of them the last channel of the last frame is read after the end of the block
(`swapFrames_eq_none`), unless the frames are so wide that the call raises. So the block is decoded
if and only if it has one channel, or no frames at all
(`convertContentBlockBuffer_bigEndian_iff`).
-/

namespace Pyvrs

open Foundations

/-! ## The loop -/

section Loop

variable {word stride count channelCount : ℕ} {bytes bytes' : List UInt8}

/-- **The words of one channel** are all swapped. -/
theorem swapFrames_mono (hlength : bytes.length = word * count) :
    ∃ bytes', swapFrames word word count 1 bytes = some bytes' ∧
      ∀ f < count, load bytes' (f * word) word = (load bytes (f * word) word).map List.reverse := by
  -- the frames before the `i`-th one are swapped, the others are as they were
  obtain ⟨bytes', hloop, -, hswapped, -⟩ := foldlM_range_rule (n := count) (s := bytes)
    (f := fun bytes sampleIndex => (List.range 1).foldlM (fun bytes channelIndex =>
      swapWord bytes (sampleIndex * word + (channelIndex + channelIndex) * word) word) bytes)
    (I := fun i m => m.length = bytes.length ∧
      (∀ f < i, load m (f * word) word = (load bytes (f * word) word).map List.reverse) ∧
      ∀ f, i ≤ f → load m (f * word) word = load bytes (f * word) word)
    (fun i hi m ⟨hm, hdone, htodo⟩ => by
      have hframe : (i + 1) * word ≤ count * word := Nat.mul_le_mul_right word hi
      have hin : i * word + word ≤ m.length := by
        rw [hm, hlength, Nat.mul_comm word]
        rwa [Nat.succ_mul] at hframe
      obtain ⟨m', hswap⟩ := exists_swapWord hin
      have hother : ∀ f, f ≠ i → load m' (f * word) word = load m (f * word) word := by
        intro f hf
        refine load_of_swapWord_of_disjoint hswap ?_
        rcases Nat.lt_or_gt_of_ne hf with hlt | hgt
        · have := Nat.mul_le_mul_right word (Nat.succ_le_of_lt hlt)
          rw [Nat.succ_mul] at this
          exact .inl this
        · have := Nat.mul_le_mul_right word (Nat.succ_le_of_lt hgt)
          rw [Nat.succ_mul] at this
          exact .inr this
      refine ⟨m', ?_, (length_of_swapWord hswap).trans hm, fun f hf => ?_, fun f hf => ?_⟩
      · simp [List.foldlM_cons, hswap]
      · rcases Nat.lt_succ_iff_lt_or_eq.1 hf with hlt | rfl
        · rw [hother f hlt.ne, hdone f hlt]
        · rw [load_of_swapWord hswap, htodo f le_rfl]
      · rw [hother f (Nat.ne_of_gt hf), htodo f (Nat.le_of_succ_le hf)])
    ⟨rfl, fun f hf => absurd hf (Nat.not_lt_zero f), fun f _ => rfl⟩
  exact ⟨bytes', hloop, hswapped⟩

/-- A frame that is swapped keeps the length of the buffer. -/
theorem length_of_swapFrame {offset : ℕ} (h : (List.range channelCount).foldlM
    (fun bytes channelIndex => swapWord bytes (offset + (channelIndex + channelIndex) * word) word)
      bytes = some bytes') :
    bytes'.length = bytes.length :=
  (foldlM_eq_some (I := fun m => m.length = bytes.length)
    (fun _ _ _ hswap hm => (length_of_swapWord hswap).trans hm) rfl h).1

/-- **Every word that is swapped is in the buffer.** -/
theorem le_length_of_swapFrames (h : swapFrames word stride count channelCount bytes = some bytes')
    {f k : ℕ} (hf : f < count) (hk : k < channelCount) :
    f * stride + (k + k) * word + word ≤ bytes.length := by
  obtain ⟨-, hframes⟩ := foldlM_eq_some (I := fun m => m.length = bytes.length)
    (fun m sampleIndex m' hframe hm => (length_of_swapFrame hframe).trans hm) rfl h
  obtain ⟨m, m', hm, hframe⟩ := hframes f (List.mem_range.2 hf)
  obtain ⟨-, hchannels⟩ := foldlM_eq_some (I := fun m' => m'.length = m.length)
    (fun m₁ channelIndex m₂ hswap hm₁ => (length_of_swapWord hswap).trans hm₁) rfl hframe
  obtain ⟨m₁, m₂, hm₁, hswap⟩ := hchannels k (List.mem_range.2 hk)
  have hle := le_length_of_swapWord hswap
  rwa [hm₁, hm] at hle

/-- **With two channels or more** the last word of the last frame is not in the buffer. -/
theorem swapFrames_eq_none (hword : 0 < word) (hlength : bytes.length = word * count)
    (hcount : 0 < count) (hchannels : 2 ≤ channelCount) :
    swapFrames word word count channelCount bytes = none := by
  refine Option.eq_none_iff_forall_ne_some.2 fun bytes' h => ?_
  have hle := le_length_of_swapFrames h (Nat.sub_lt hcount Nat.one_pos)
    (Nat.lt_of_lt_of_le Nat.one_lt_two hchannels)
  have hlast : (count - 1) * word + word = word * count := by
    rw [← Nat.succ_mul, Nat.mul_comm]
    congr 1
    omega
  rw [hlength, ← hlast] at hle
  omega

/-- There is a loop for frames of two, four and eight bytes. -/
theorem fixEndianness_eq_ok_iff :
    fixEndianness stride count channelCount bytes = .ok bytes' ↔
      (stride = 2 ∨ stride = 4 ∨ stride = 8) ∧
        swapFrames stride stride count channelCount bytes = some bytes' := by
  unfold fixEndianness
  split_ifs with h2 h4 h8
  · subst h2
    simp [BufferError.ofAccess_eq_ok_iff]
  · subst h4
    simp [BufferError.ofAccess_eq_ok_iff]
  · subst h8
    simp [BufferError.ofAccess_eq_ok_iff]
  · simp [h2, h4, h8]

end Loop

/-! ## The call -/

/-- The size of the samples in the big-endian formats of 16, 32 and 64 bits. -/
def AudioSampleFormat.bigEndianSize? : AudioSampleFormat → Option ℕ
  | .s16Be | .u16Be => some 2
  | .s32Be | .u32Be | .f32Be => some 4
  | .f64Be => some 8
  | _ => none

/-- Samples in a big-endian format of 16, 32 or 64 bits, in frames of nothing else. -/
structure AudioContentBlockSpec.IsBigEndian (spec : AudioContentBlockSpec) (size : ℕ) : Prop where
  bigEndianSize : spec.getSampleFormat.bigEndianSize? = some size
  bytesPerSample : spec.getBytesPerSample = size
  not_isLittleEndian : spec.isLittleEndian = false
  one_le_channelCount : 1 ≤ spec.getChannelCount.toNat
  sampleFrameStride : spec.getSampleFrameStride = spec.getChannelCount.toNat * size

/-- The array shows the samples of the bytes: its words, in the order of the host, are the numbers
that the bytes have in big-endian order. -/
structure BlockBufferInfo.ShowsBigEndian (info : BlockBufferInfo) (shown : List UInt8)
    (spec : AudioContentBlockSpec) (size : ℕ) (bytes : List UInt8) : Prop where
  format_eq : spec.getSampleFormat.scalarFormat = some info.format
  itemsize_eq : info.itemsize = size
  shape_eq : info.shape = [spec.getSampleCount, spec.getChannelCount.toNat]
  element_eq : ∀ f < spec.getSampleCount, ∀ k < spec.getChannelCount.toNat, ∃ word,
    load bytes (f * spec.getSampleFrameStride + k * size) size = some word ∧
      (info.element shown [f, k]).map littleEndian = some (bigEndian word)

variable {L : VrsLib} {spec : AudioContentBlockSpec} {size : ℕ} {block : ContentBlockBuffer L}

theorem AudioSampleFormat.scalarFormat_of_bigEndianSize {format : AudioSampleFormat}
    (h : format.bigEndianSize? = some size) :
    ∃ scalarFormat, format.scalarFormat = some scalarFormat ∧ format.is24 = false ∧
      (size = 2 ∨ size = 4 ∨ size = 8) := by
  cases format <;> cases h <;> exact ⟨_, rfl, rfl, by omega⟩

/-- The first call fixes the endianness of the bytes and shows them as they then are. -/
theorem convertAudioSamples_of_isBigEndian (hspec : spec.IsBigEndian size)
    (hfirst : block.bytesAdjusted = false) :
    ∃ scalarFormat, spec.getSampleFormat.scalarFormat = some scalarFormat ∧
      convertAudioSamples spec block =
        (fixEndianness spec.getSampleFrameStride spec.getSampleCount spec.getChannelCount.toNat
          block.bytes).map fun bytes =>
            (⟨size, scalarFormat, [spec.getSampleCount, spec.getChannelCount.toNat],
              [spec.getSampleFrameStride, size]⟩, block.adjusted bytes) := by
  obtain ⟨scalarFormat, hformat, h24, hsize⟩ :=
    AudioSampleFormat.scalarFormat_of_bigEndianSize hspec.bigEndianSize
  have hstride : 1 < spec.getSampleFrameStride := by
    rw [hspec.sampleFrameStride]
    have := Nat.mul_le_mul_right size hspec.one_le_channelCount
    omega
  refine ⟨scalarFormat, hformat, ?_⟩
  rw [convertAudioSamples_of_swap hformat h24 hfirst hstride hspec.not_isLittleEndian]
  simp [AudioContentBlockSpec.bufferInfo, AudioContentBlockSpec.audioSampleByteSize,
    AudioContentBlockSpec.audioSampleStride, h24, hspec.bytesPerSample]

/-- **Samples of one channel** are decoded. -/
theorem showsBigEndian_of_mono {scalarFormat : String} {bytes : List UInt8}
    (hspec : spec.IsBigEndian size)
    (hformat : spec.getSampleFormat.scalarFormat = some scalarFormat)
    (hlength : bytes.length = spec.getSampleFrameStride * spec.getSampleCount)
    (hmono : spec.getChannelCount.toNat = 1) :
    ∃ bytes', fixEndianness spec.getSampleFrameStride spec.getSampleCount
        spec.getChannelCount.toNat bytes = .ok bytes' ∧
      BlockBufferInfo.ShowsBigEndian ⟨size, scalarFormat,
        [spec.getSampleCount, spec.getChannelCount.toNat], [spec.getSampleFrameStride, size]⟩
        bytes' spec size bytes := by
  obtain ⟨-, -, -, hsize⟩ := AudioSampleFormat.scalarFormat_of_bigEndianSize hspec.bigEndianSize
  have hframe : spec.getSampleFrameStride = size := by
    rw [hspec.sampleFrameStride, hmono, Nat.one_mul]
  obtain ⟨bytes', hswap, hswapped⟩ := swapFrames_mono hlength
  refine ⟨bytes', ?_, hformat, rfl, rfl, fun f hf k hk => ?_⟩
  · rw [fixEndianness_eq_ok_iff, hmono, hframe]
    rw [hframe] at hswap
    exact ⟨hsize, hswap⟩
  · obtain rfl : k = 0 := by omega
    have hin : f * size + size ≤ bytes.length := by
      rw [hlength, hframe, Nat.mul_comm size, ← Nat.succ_mul]
      exact Nat.mul_le_mul_right size hf
    obtain ⟨word, hword⟩ := Option.isSome_iff_exists.1 (isSome_load hin)
    have hshown := hswapped f hf
    rw [hframe, hword] at hshown
    refine ⟨word, by simpa [hframe] using hword, ?_⟩
    simp [BlockBufferInfo.element, hframe, hshown, bigEndian]

/-- **Samples of more channels** are only fixed when there are none. -/
theorem sampleCount_eq_zero_of_fixEndianness {bytes bytes' : List UInt8}
    (hspec : spec.IsBigEndian size)
    (hlength : bytes.length = spec.getSampleFrameStride * spec.getSampleCount)
    (hfix : fixEndianness spec.getSampleFrameStride spec.getSampleCount
      spec.getChannelCount.toNat bytes = .ok bytes')
    (hmono : spec.getChannelCount.toNat ≠ 1) :
    spec.getSampleCount = 0 ∧ (spec.getSampleFrameStride = 4 ∨ spec.getSampleFrameStride = 8) := by
  obtain ⟨-, -, -, hsize⟩ := AudioSampleFormat.scalarFormat_of_bigEndianSize hspec.bigEndianSize
  obtain ⟨hwidth, hswap⟩ := fixEndianness_eq_ok_iff.1 hfix
  have hchannels : 2 ≤ spec.getChannelCount.toNat := by
    have := hspec.one_le_channelCount
    omega
  have hwide : 4 ≤ spec.getSampleFrameStride := by
    have := Nat.mul_le_mul_right size hchannels
    rw [← hspec.sampleFrameStride] at this
    omega
  refine ⟨?_, by omega⟩
  by_contra hcount
  rw [swapFrames_eq_none (by omega) hlength (Nat.pos_of_ne_zero hcount) hchannels] at hswap
  cases hswap

variable (G : SpecGetters L)

/-- **Big-endian audio is decoded** by the first call if and only if it has one channel, or it has
no frames and these would have four or eight bytes. Otherwise the call accesses bytes that are not
in the block, or it raises. -/
theorem convertContentBlockBuffer_bigEndian_iff (haudio : block.spec.contentType = .audio)
    (hstructured : block.structuredArray = true) (hfirst : block.bytesAdjusted = false)
    (hspec : (G.audio block.spec.audio).IsBigEndian size)
    (hlength : block.bytes.length = (G.audio block.spec.audio).getSampleFrameStride *
      (G.audio block.spec.audio).getSampleCount) :
    (∃ info block', convertContentBlockBuffer G block = .ok (info, block') ∧
      info.ShowsBigEndian block'.bytes (G.audio block.spec.audio) size block.bytes) ↔
    (G.audio block.spec.audio).getChannelCount.toNat = 1 ∨
      (G.audio block.spec.audio).getSampleCount = 0 ∧
        ((G.audio block.spec.audio).getSampleFrameStride = 4 ∨
          (G.audio block.spec.audio).getSampleFrameStride = 8) := by
  rw [convertContentBlockBuffer_of_isAudio ⟨hstructured, haudio, hlength⟩]
  generalize G.audio block.spec.audio = spec at hspec hlength ⊢
  obtain ⟨scalarFormat, hformat, hcall⟩ := convertAudioSamples_of_isBigEndian hspec hfirst
  rw [hcall]
  constructor
  · rintro ⟨info, block', hok, -⟩
    cases hfix : fixEndianness spec.getSampleFrameStride spec.getSampleCount
        spec.getChannelCount.toNat block.bytes with
    | error e =>
      rw [hfix] at hok
      cases hok
    | ok bytes' =>
      by_cases hmono : spec.getChannelCount.toNat = 1
      · exact .inl hmono
      · exact .inr (sampleCount_eq_zero_of_fixEndianness hspec hlength hfix hmono)
  · rintro (hmono | ⟨hnone, hwidth⟩)
    · obtain ⟨bytes', hfix, hshows⟩ := showsBigEndian_of_mono hspec hformat hlength hmono
      rw [hfix]
      exact ⟨_, _, rfl, hshows⟩
    · have hfix : fixEndianness spec.getSampleFrameStride spec.getSampleCount
          spec.getChannelCount.toNat block.bytes = .ok block.bytes :=
        fixEndianness_eq_ok_iff.2 ⟨.inr hwidth, by rw [hnone]; rfl⟩
      rw [hfix]
      refine ⟨_, _, rfl, hformat, rfl, rfl, fun f hf => ?_⟩
      rw [hnone] at hf
      exact absurd hf (Nat.not_lt_zero f)

/-! ## Samples of 16 bits -/

/-- A frame or more of signed samples of 16 bits. -/
def spec16 (channelCount : UInt8) (sampleCount : ℕ) : AudioContentBlockSpec :=
  ⟨.s16Be, channelCount, channelCount.toNat * 2, sampleCount, 2, false⟩

/-- Two frames of one channel are decoded. -/
theorem convertContentBlockBuffer_bigEndian_mono : ∃ info block',
    convertContentBlockBuffer (.ofAudio (spec16 1 2)) (audioBlock [1, 2, 3, 4]) =
      .ok (info, block') ∧ info.ShowsBigEndian block'.bytes (spec16 1 2) 2 [1, 2, 3, 4] :=
  (convertContentBlockBuffer_bigEndian_iff (.ofAudio (spec16 1 2)) rfl rfl rfl
    ⟨rfl, rfl, rfl, by decide, rfl⟩ rfl).2 (.inl rfl)

/-- **One frame of two channels** is not: the call leaves the block. -/
theorem not_convertContentBlockBuffer_stereo : (spec16 2 1).IsBigEndian 2 ∧
    (audioBlock [1, 2, 3, 4]).bytes.length =
      (spec16 2 1).getSampleFrameStride * (spec16 2 1).getSampleCount ∧
    convertContentBlockBuffer (.ofAudio (spec16 2 1)) (audioBlock [1, 2, 3, 4]) =
      .error .outOfBounds :=
  ⟨⟨rfl, rfl, rfl, by decide, rfl⟩, rfl, rfl⟩

end Pyvrs
