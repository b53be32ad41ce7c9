import Pyvrs.Utils.PyBuffer

/-!
# Audio of 24 bits

Samples of 24 bits are shown as words of 32 bits. The first call to `convertContentBlockBuffer`
makes a new buffer for them: sample `k` of frame `f` is read at its place in the block, which the
frame stride determines, and written at its place in an array without gaps. The loop writes the
words in the order of their addresses, so that what it has written stays (`Widened.step`); every
sample keeps its value (`value_widenSample`). So audio of 24 bits is decoded, for any number of
channels and any frame stride that has room for them (`convertContentBlockBuffer_is24`).
-/

namespace Pyvrs

open Foundations

/-! ## One sample -/

/-- The bytes of a sample, the least significant one first. -/
def AudioContentBlockSpec.inHostOrder (spec : AudioContentBlockSpec) (sample : List UInt8) :
    List UInt8 :=
  if spec.isLittleEndian then sample else sample.reverse

/-- The number that bytes are in a format, the least significant one first. -/
def AudioSampleFormat.value (format : AudioSampleFormat) (bytes : List UInt8) : ℤ :=
  if format.isSigned24 then signedLittleEndian bytes else littleEndian bytes

section Sample

variable {spec : AudioContentBlockSpec} {sample : List UInt8}

theorem length_inHostOrder : (spec.inHostOrder sample).length = sample.length := by
  unfold AudioContentBlockSpec.inHostOrder
  split
  · rfl
  · exact List.length_reverse

theorem length_widenSample (h : sample.length = 3) : (widenSample spec sample).length = 4 := by
  have horder : (spec.inHostOrder sample).length = 3 := length_inHostOrder.trans h
  show (spec.inHostOrder sample ++ [_]).length = 4
  rw [List.length_append, horder, List.length_singleton]

/-- **A sample keeps its value** when it is widened: it is sign-extended if its format is signed,
and zero-extended otherwise. -/
theorem value_widenSample (h : sample.length = 3) :
    spec.getSampleFormat.value (widenSample spec sample) =
      spec.getSampleFormat.value (spec.inHostOrder sample) := by
  have horder : (spec.inHostOrder sample).length = 3 := length_inHostOrder.trans h
  have hwiden : widenSample spec sample = spec.inHostOrder sample ++
      [if spec.getSampleFormat.isSigned24 ∧ (spec.inHostOrder sample).getD 2 0 &&& 0x80 ≠ 0
        then 0xFF else 0] := rfl
  rw [hwiden]
  generalize spec.inHostOrder sample = word at horder ⊢
  have hsign : littleEndian word * 2 < 256 ^ word.length ↔ word.getD 2 0 &&& 0x80 = 0 := by
    obtain ⟨b₀, b₁, b₂, rfl⟩ := List.length_eq_three.1 horder
    exact littleEndian_concat_lt_iff [b₀, b₁] b₂
  unfold AudioSampleFormat.value
  cases spec.getSampleFormat.isSigned24 with
  | true =>
    have htop : (if true = true ∧ word.getD 2 0 &&& 0x80 ≠ 0 then (0xFF : UInt8) else 0) =
        if littleEndian word * 2 < 256 ^ word.length then 0 else 0xFF := by
      by_cases hb : word.getD 2 0 &&& 0x80 = 0
      · rw [if_neg fun h => h.2 hb, if_pos (hsign.2 hb)]
      · rw [if_pos ⟨rfl, hb⟩, if_neg (mt hsign.1 hb)]
    rw [htop]
    exact signedLittleEndian_concat word
  | false =>
    simp only [Bool.false_eq_true, false_and, if_false, littleEndian_concat]
    simp

end Sample

/-! ## The loop -/

/-- Elements before `j` of row `i`, row by row, have lower addresses. -/
theorem rowMajor_lt {c f k i j : ℕ} (hk : k < c) (h : f < i ∨ f = i ∧ k < j) :
    f * c + k < i * c + j := by
  rcases h with hlt | ⟨rfl, hkj⟩
  · have := Nat.mul_le_mul_right c (Nat.succ_le_of_lt hlt)
    rw [Nat.succ_mul] at this
    omega
  · omega

section Loop

variable {spec : AudioContentBlockSpec} {bytes m : List UInt8} {i j : ℕ}

/-- The new buffer, where the samples before sample `j` of frame `i` are widened. -/
structure Widened (spec : AudioContentBlockSpec) (bytes : List UInt8) (i j : ℕ)
    (m : List UInt8) : Prop where
  length_eq : m.length = 4 * spec.getSampleCount * spec.getChannelCount.toNat
  load_eq : ∀ f k, k < spec.getChannelCount.toNat → (f < i ∨ f = i ∧ k < j) → ∃ sample,
    load bytes (f * spec.getSampleFrameStride + k * 3) 3 = some sample ∧
      load m (4 * (f * spec.getChannelCount.toNat + k)) 4 = some (widenSample spec sample)

/-- Nothing is widened at first. -/
theorem Widened.start : Widened spec bytes 0 0
    (List.replicate (4 * spec.getSampleCount * spec.getChannelCount.toNat) 0) where
  length_eq := List.length_replicate
  load_eq f k _ h := by omega

/-- A frame ends where the next one begins. -/
theorem Widened.nextFrame (h : Widened spec bytes i spec.getChannelCount.toNat m) :
    Widened spec bytes (i + 1) 0 m where
  length_eq := h.length_eq
  load_eq f k hk hbefore := by
    refine h.load_eq f k hk ?_
    omega

/-- **One sample is widened**, and those before it stay so. -/
theorem Widened.step (hstride : 3 * spec.getChannelCount.toNat ≤ spec.getSampleFrameStride)
    (hlength : bytes.length = spec.getSampleFrameStride * spec.getSampleCount)
    (hi : i < spec.getSampleCount) (hj : j < spec.getChannelCount.toNat)
    (h : Widened spec bytes i j m) :
    ∃ m', (do
      let src ← load bytes (i * spec.getSampleFrameStride + j * 3) 3
      store m (4 * (i * spec.getChannelCount.toNat + j)) (widenSample spec src)) = some m' ∧
      Widened spec bytes i (j + 1) m' := by
  -- the sample is in its frame, which is in the block
  have hin : i * spec.getSampleFrameStride + j * 3 + 3 ≤ bytes.length := by
    have hframe := Nat.mul_le_mul_right spec.getSampleFrameStride (Nat.succ_le_of_lt hi)
    rw [Nat.succ_mul] at hframe
    rw [hlength, Nat.mul_comm spec.getSampleFrameStride]
    omega
  obtain ⟨sample, hload⟩ := Option.isSome_iff_exists.1 (isSome_load hin)
  have hsample : (widenSample spec sample).length = 4 := length_widenSample (length_of_load hload)
  -- the word is in the new buffer
  have hroom : 4 * (i * spec.getChannelCount.toNat + j) + (widenSample spec sample).length ≤
      m.length := by
    have := rowMajor_lt (j := 0) hj (.inl hi)
    rw [h.length_eq, hsample, Nat.mul_assoc]
    omega
  obtain ⟨m', hstore⟩ := exists_store hroom
  have hnew := load_of_store hstore
  rw [hsample] at hnew
  refine ⟨m', by rw [hload]; exact hstore, (length_of_store hstore).trans h.length_eq,
    fun f k hk hbefore => ?_⟩
  by_cases hlast : f = i ∧ k = j
  · obtain ⟨rfl, rfl⟩ := hlast
    exact ⟨sample, hload, hnew⟩
  · have hbefore' : f < i ∨ f = i ∧ k < j := by omega
    obtain ⟨sample', hload', hshown⟩ := h.load_eq f k hk hbefore'
    refine ⟨sample', hload', ?_⟩
    rw [load_of_store_of_disjoint hstore, hshown]
    have := rowMajor_lt hk hbefore'
    omega

/-- **All samples are widened**, if the frames of the block have room for them. -/
theorem exists_widenSamples
    (hstride : 3 * spec.getChannelCount.toNat ≤ spec.getSampleFrameStride)
    (hlength : bytes.length = spec.getSampleFrameStride * spec.getSampleCount) :
    ∃ newBuffer, widenSamples spec bytes = some newBuffer ∧
      Widened spec bytes spec.getSampleCount 0 newBuffer := by
  refine foldlM_range_rule (I := fun i m => Widened spec bytes i 0 m) (fun i hi m hm => ?_)
    Widened.start
  obtain ⟨m', hloop, hm'⟩ := foldlM_range_rule (I := fun j m => Widened spec bytes i j m)
    (fun j hj m hm => hm.step hstride hlength hi hj) hm
  exact ⟨m', hloop, hm'.nextFrame⟩

end Loop

/-! ## The call -/

/-- Samples of 24 bits, in frames that have room for them. -/
structure AudioContentBlockSpec.Is24 (spec : AudioContentBlockSpec) : Prop where
  is24 : spec.getSampleFormat.is24 = true
  isLittleEndian :
    spec.isLittleEndian = decide (spec.getSampleFormat = .s24Le ∨ spec.getSampleFormat = .u24Le)
  one_le_channelCount : 1 ≤ spec.getChannelCount.toNat
  le_sampleFrameStride : 3 * spec.getChannelCount.toNat ≤ spec.getSampleFrameStride

/-- The array shows the samples of the bytes: its words, in the order of the host, are the numbers
that the samples are in their format. -/
structure BlockBufferInfo.ShowsWidened (info : BlockBufferInfo) (shown : List UInt8)
    (spec : AudioContentBlockSpec) (bytes : List UInt8) : Prop where
  format_eq : info.format = if spec.getSampleFormat.isSigned24 then "i" else "I"
  itemsize_eq : info.itemsize = 4
  shape_eq : info.shape = [spec.getSampleCount, spec.getChannelCount.toNat]
  length_eq : shown.length = 4 * spec.getSampleCount * spec.getChannelCount.toNat
  element_eq : ∀ f < spec.getSampleCount, ∀ k < spec.getChannelCount.toNat, ∃ sample word,
    load bytes (f * spec.getSampleFrameStride + 3 * k) 3 = some sample ∧
      info.element shown [f, k] = some word ∧
      spec.getSampleFormat.value word = spec.getSampleFormat.value (spec.inHostOrder sample)

variable {L : VrsLib} {spec : AudioContentBlockSpec} {block : ContentBlockBuffer L}

theorem AudioSampleFormat.scalarFormat_of_is24 {format : AudioSampleFormat}
    (h : format.is24 = true) :
    format.scalarFormat = some (if format.isSigned24 then "i" else "I") := by
  cases format <;> first | rfl | cases h

/-- Widened samples are shown as they are. -/
theorem Widened.shows {bytes newBuffer : List UInt8} (h24 : spec.getSampleFormat.is24 = true)
    (h : Widened spec bytes spec.getSampleCount 0 newBuffer) :
    (spec.bufferInfo (if spec.getSampleFormat.isSigned24 then "i" else "I")).ShowsWidened newBuffer
      spec bytes where
  format_eq := rfl
  itemsize_eq := by simp [AudioContentBlockSpec.bufferInfo,
    AudioContentBlockSpec.audioSampleByteSize, h24]
  shape_eq := rfl
  length_eq := h.length_eq
  element_eq f hf k hk := by
    obtain ⟨sample, hload, hshown⟩ := h.load_eq f k hk (.inl hf)
    refine ⟨sample, widenSample spec sample, by rwa [Nat.mul_comm 3], ?_,
      value_widenSample (length_of_load hload)⟩
    have haddress : f * (4 * spec.getChannelCount.toNat) + (k * 4 + 0) =
        4 * (f * spec.getChannelCount.toNat + k) := by ring
    simp only [BlockBufferInfo.element, AudioContentBlockSpec.bufferInfo,
      AudioContentBlockSpec.audioSampleStride, AudioContentBlockSpec.audioSampleByteSize, h24,
      if_true, List.zipWith_cons_cons, List.zipWith_nil_left, List.sum_cons, List.sum_nil]
    rw [haddress, hshown]

variable (G : SpecGetters L)

/-- **Audio of 24 bits is decoded** by the first call: each word of the array is the value of the
sample at its place in the block, and nothing outside of the two buffers is accessed. -/
theorem convertContentBlockBuffer_is24 (haudio : block.spec.contentType = .audio)
    (hstructured : block.structuredArray = true) (hfirst : block.bytesAdjusted = false)
    (hspec : (G.audio block.spec.audio).Is24)
    (hlength : block.bytes.length = (G.audio block.spec.audio).getSampleFrameStride *
      (G.audio block.spec.audio).getSampleCount) :
    ∃ info block', convertContentBlockBuffer G block = .ok (info, block') ∧
      info.ShowsWidened block'.bytes (G.audio block.spec.audio) block.bytes := by
  rw [convertContentBlockBuffer_of_isAudio ⟨hstructured, haudio, hlength⟩]
  generalize G.audio block.spec.audio = spec at hspec hlength ⊢
  obtain ⟨newBuffer, hwidened, hall⟩ := exists_widenSamples hspec.le_sampleFrameStride hlength
  rw [convertAudioSamples_of_is24 (AudioSampleFormat.scalarFormat_of_is24 hspec.is24) hspec.is24
    hfirst, hwidened]
  exact ⟨_, _, rfl, hall.shows hspec.is24⟩

/-- Two big-endian samples, a negative one and a positive one, in frames of four bytes. -/
theorem convertContentBlockBuffer_is24_padded : ∃ info block',
    convertContentBlockBuffer (.ofAudio ⟨.s24Be, 1, 4, 2, 3, false⟩)
        (audioBlock [0x80, 0, 1, 9, 0, 0, 2, 9]) = .ok (info, block') ∧
      info.ShowsWidened block'.bytes ⟨.s24Be, 1, 4, 2, 3, false⟩ [0x80, 0, 1, 9, 0, 0, 2, 9] :=
  convertContentBlockBuffer_is24 (.ofAudio ⟨.s24Be, 1, 4, 2, 3, false⟩) rfl rfl rfl
    ⟨rfl, rfl, by decide, by decide⟩ rfl

end Pyvrs
