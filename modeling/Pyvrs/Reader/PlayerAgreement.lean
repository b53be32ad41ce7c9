import Pyvrs.Reader.StreamPlayer

/-!
# What playing a stream depends on

A player keeps what it learns apart by stream. Playing a record reads what it holds for the stream
of the record (`Playing.play_alike`), and changes nothing of the other streams
(`Playing.agreeOff_play`).
-/

namespace Pyvrs

variable {L : VrsLib}

/-! ## Players that agree on a stream -/

namespace BaseVRSReaderStreamPlayer

/-- The players hold the same for the stream `s`. -/
structure AgreeAt (s : StreamId) (p q : BaseVRSReaderStreamPlayer L) : Prop where
  configs_eq : p.streamNormalizeConfigs s = q.streamNormalizeConfigs s
  options_eq : p.streamNormalizeOptions s = q.streamNormalizeOptions s

/-- The players hold the same for every stream but `s`. -/
def AgreeOff (s : StreamId) (p q : BaseVRSReaderStreamPlayer L) : Prop :=
  ∀ s', s' ≠ s → AgreeAt s' p q

theorem AgreeAt.refl (s : StreamId) (p : BaseVRSReaderStreamPlayer L) : AgreeAt s p p := ⟨rfl, rfl⟩

theorem AgreeAt.symm {s : StreamId} {p q : BaseVRSReaderStreamPlayer L} (h : AgreeAt s p q) :
    AgreeAt s q p :=
  ⟨h.configs_eq.symm, h.options_eq.symm⟩

theorem AgreeAt.trans {s : StreamId} {p q r : BaseVRSReaderStreamPlayer L} (h : AgreeAt s p q)
    (h' : AgreeAt s q r) : AgreeAt s p r :=
  ⟨h.configs_eq.trans h'.configs_eq, h.options_eq.trans h'.options_eq⟩

theorem AgreeOff.refl (s : StreamId) (p : BaseVRSReaderStreamPlayer L) : AgreeOff s p p :=
  fun s' _ => .refl s' p

theorem AgreeOff.trans {s : StreamId} {p q r : BaseVRSReaderStreamPlayer L} (h : AgreeOff s p q)
    (h' : AgreeOff s q r) : AgreeOff s p r :=
  fun s' hs' => (h s' hs').trans (h' s' hs')

variable {record : CurrentRecord} {p q : BaseVRSReaderStreamPlayer L}

theorem agreeAt_captureNormalizeOptionsConfig (dl : L.DataLayout) :
    AgreeAt record.streamId (p.captureNormalizeOptionsConfig record dl)
      (q.captureNormalizeOptionsConfig record dl) := by
  unfold captureNormalizeOptionsConfig
  exact ⟨by simp only [Function.update_self], by simp only [Function.update_self]⟩

theorem agreeOff_captureNormalizeOptionsConfig (dl : L.DataLayout) :
    AgreeOff record.streamId p (p.captureNormalizeOptionsConfig record dl) := by
  intro s hs
  unfold captureNormalizeOptionsConfig
  exact ⟨(Function.update_of_ne hs _ _).symm, (Function.update_of_ne hs _ _).symm⟩

theorem normalizeOptions_agree {s : StreamId} (h : AgreeAt s p q) (pixelFormat : PixelFormat) :
    (p.normalizeOptions s pixelFormat).1 = (q.normalizeOptions s pixelFormat).1 ∧
      AgreeAt s (p.normalizeOptions s pixelFormat).2 (q.normalizeOptions s pixelFormat).2 := by
  have hcompute : p.computeNormalizeOptions s pixelFormat =
      q.computeNormalizeOptions s pixelFormat := by
    unfold computeNormalizeOptions
    rw [h.configs_eq]
  unfold normalizeOptions
  simp only [hcompute, h.options_eq]
  split
  · split
    · exact ⟨rfl, h⟩
    · exact ⟨rfl, h.configs_eq, by simp only [Function.update_self]⟩
  · exact ⟨rfl, h.configs_eq, by simp only [Function.update_self]⟩

theorem agreeOff_normalizeOptions (s : StreamId) (pixelFormat : PixelFormat) :
    AgreeOff s p (p.normalizeOptions s pixelFormat).2 := by
  intro s' hs'
  unfold normalizeOptions
  simp only
  split
  · split
    · exact .refl s' p
    · exact ⟨rfl, (Function.update_of_ne hs' _ _).symm⟩
  · exact ⟨rfl, (Function.update_of_ne hs' _ _).symm⟩

theorem readBlock_agree (h : AgreeAt record.streamId p q) (conversion : ImageConversion)
    (cb : ContentBlock L) (blockSize : ℕ) (reader : BlockReader) :
    (p.readBlock conversion record cb blockSize reader).1 =
        (q.readBlock conversion record cb blockSize reader).1 ∧
      AgreeAt record.streamId (p.readBlock conversion record cb blockSize reader).2
        (q.readBlock conversion record cb blockSize reader).2 := by
  unfold readBlock
  simp only
  split
  · exact ⟨rfl, h⟩
  split
  · exact ⟨rfl, h⟩
  split
  · exact ⟨rfl, h⟩
  split
  · exact ⟨rfl, h⟩
  · rename_i frame _
    split
    · obtain ⟨hoptions, hagree⟩ := normalizeOptions_agree h frame.getPixelFormat
      rw [hoptions]
      exact ⟨rfl, hagree⟩
    · exact ⟨rfl, h⟩

theorem agreeOff_readBlock (conversion : ImageConversion) (cb : ContentBlock L) (blockSize : ℕ)
    (reader : BlockReader) :
    AgreeOff record.streamId p (p.readBlock conversion record cb blockSize reader).2 := by
  unfold readBlock
  simp only
  split
  · exact .refl _ p
  split
  · exact .refl _ p
  split
  · exact .refl _ p
  split
  · exact .refl _ p
  · split
    · exact agreeOff_normalizeOptions _ _
    · exact .refl _ p

theorem setBlock_agree (h : AgreeAt record.streamId p q) (settings : PlayerSettings)
    (blocks : List (ContentBlockBuffer L)) (blockIndex : ℕ) (cb : ContentBlock L)
    (reader : BlockReader) :
    (p.setBlock settings blocks record blockIndex cb reader).1 =
        (q.setBlock settings blocks record blockIndex cb reader).1 ∧
      (p.setBlock settings blocks record blockIndex cb reader).2.1 =
        (q.setBlock settings blocks record blockIndex cb reader).2.1 ∧
      AgreeAt record.streamId (p.setBlock settings blocks record blockIndex cb reader).2.2
        (q.setBlock settings blocks record blockIndex cb reader).2.2 := by
  unfold setBlock
  rcases cb.blockSize with _ | _ | size
  · exact ⟨rfl, rfl, h⟩
  · exact ⟨rfl, rfl, h⟩
  · obtain ⟨hblock, hagree⟩ := readBlock_agree h settings.imageConversion cb (size + 1) reader
    simp only [hblock]
    exact ⟨trivial, trivial, hagree⟩

theorem agreeOff_setBlock (settings : PlayerSettings) (blocks : List (ContentBlockBuffer L))
    (blockIndex : ℕ) (cb : ContentBlock L) (reader : BlockReader) :
    AgreeOff record.streamId p (p.setBlock settings blocks record blockIndex cb reader).2.2 := by
  unfold setBlock
  rcases cb.blockSize with _ | _ | size
  · exact .refl _ p
  · exact .refl _ p
  · exact agreeOff_readBlock _ _ _ _

end BaseVRSReaderStreamPlayer

namespace Playing

open BaseVRSReaderStreamPlayer

variable (settings : PlayerSettings) {record : CurrentRecord} {st st' : Playing L}

/-- The same cache, and players that agree on the stream being read. -/
structure Alike (record : CurrentRecord) (st st' : Playing L) : Prop where
  cache_eq : st.cache = st'.cache
  agree : AgreeAt record.streamId st.player st'.player

theorem onCallback_alike (h : Alike record st st') (c : Callback L) :
    (st.onCallback settings record c).1 = (st'.onCallback settings record c).1 ∧
      Alike record (st.onCallback settings record c).2 (st'.onCallback settings record c).2 := by
  obtain ⟨cache, player⟩ := st
  obtain ⟨cache', player'⟩ := st'
  obtain ⟨hcache, hagree⟩ := h
  cases hcache
  cases c with
  | dataLayout i dl =>
    refine ⟨rfl, rfl, ?_⟩
    simp only [onCallback, onDataLayoutRead]
    split
    · exact agreeAt_captureNormalizeOptionsConfig dl
    · exact hagree
  | image i cb reader =>
    obtain ⟨h₁, h₂, h₃⟩ := setBlock_agree hagree settings cache.images i cb reader
    exact ⟨h₁, congrArg (fun blocks => { cache with images := blocks }) h₂, h₃⟩
  | audio i cb reader =>
    obtain ⟨h₁, h₂, h₃⟩ := setBlock_agree hagree settings cache.audioBlocks i cb reader
    exact ⟨h₁, congrArg (fun blocks => { cache with audioBlocks := blocks }) h₂, h₃⟩
  | custom i cb reader =>
    obtain ⟨h₁, h₂, h₃⟩ := setBlock_agree hagree settings cache.customBlocks i cb reader
    exact ⟨h₁, congrArg (fun blocks => { cache with customBlocks := blocks }) h₂, h₃⟩
  | unsupported i cb reader =>
    obtain ⟨h₁, h₂, h₃⟩ := setBlock_agree hagree settings cache.unsupportedBlocks i cb reader
    exact ⟨h₁, congrArg (fun blocks => { cache with unsupportedBlocks := blocks }) h₂, h₃⟩

theorem agreeOff_onCallback (st : Playing L) (c : Callback L) :
    AgreeOff record.streamId st.player (st.onCallback settings record c).2.player := by
  cases c with
  | dataLayout i dl =>
    simp only [onCallback, onDataLayoutRead]
    split
    · exact agreeOff_captureNormalizeOptionsConfig dl
    · exact .refl _ _
  | image i cb reader | audio i cb reader | custom i cb reader | unsupported i cb reader =>
    exact agreeOff_setBlock settings _ i cb reader

theorem onCallbacks_alike (h : Alike record st st') (cs : List (Callback L)) :
    Alike record (st.onCallbacks settings record cs) (st'.onCallbacks settings record cs) := by
  induction cs generalizing st st' with
  | nil => exact h
  | cons c cs ih =>
    obtain ⟨hmore, halike⟩ := onCallback_alike settings h c
    rw [onCallbacks_cons, onCallbacks_cons, ← hmore]
    split
    · exact ih halike
    · exact halike

theorem agreeOff_onCallbacks (st : Playing L) (cs : List (Callback L)) :
    AgreeOff record.streamId st.player (st.onCallbacks settings record cs).player := by
  induction cs generalizing st with
  | nil => exact .refl _ _
  | cons c cs ih =>
    have hc : AgreeOff record.streamId st.player (st.onCallback settings record c).2.player :=
      agreeOff_onCallback settings st c
    rw [onCallbacks_cons]
    split
    · exact hc.trans (ih _)
    · exact hc

/-- Playing depends on what the player holds for the stream being read only. -/
theorem play_alike (h : Alike record st st') (cs : List (Callback L)) :
    Alike record (st.play settings record cs) (st'.play settings record cs) := by
  have hheader : Alike record (st.processRecordHeader record) (st'.processRecordHeader record) :=
    ⟨congrArg (fun cache : RecordCache L =>
      { cache with recordFormatVersion := record.formatVersion }) h.cache_eq, h.agree⟩
  exact onCallbacks_alike settings hheader cs

theorem agreeOff_play (st : Playing L) (cs : List (Callback L)) :
    AgreeOff record.streamId st.player (st.play settings record cs).player :=
  agreeOff_onCallbacks settings (st.processRecordHeader record) cs

end Playing

end Pyvrs
