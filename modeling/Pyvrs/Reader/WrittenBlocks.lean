import Pyvrs.Reader.RandomAccess
import Pyvrs.Writer.PyRecordable

/-!
# What is read of a written record

vrs hands the chunks of a record that was written to the player, the datalayouts first and then the
bytes of each chunk as a block of some kind. A reader whose cache holds no blocks, which neither
converts images nor skips blocks, returns all of them, each in the list of its kind
(`readRecord_of_delivered`), unless the record begins with two blocks of one kind, of which the
first one is lost.
-/

namespace Pyvrs

open Foundations

variable {L : VrsLib}

/-! ## Blocks handed over -/

/-- What a callback for a block that is not metadata is made with. -/
def Callback.content? : Callback L → Option (BlockKind × ContentBlock L × BlockReader)
  | .dataLayout _ _ => none
  | .image _ cb reader => some (.image, cb, reader)
  | .audio _ cb reader => some (.audio, cb, reader)
  | .custom _ cb reader => some (.custom, cb, reader)
  | .unsupported _ cb reader => some (.unsupported, cb, reader)

/-- The callback hands over a datalayout, or a block of a kind that has the size of a chunk and
holds its bytes. -/
inductive Hands : L.DataLayout ⊕ BlockKind × List UInt8 → Callback L → Prop
  | dataLayout (i : ℕ) (dl : L.DataLayout) : Hands (.inl dl) (.dataLayout i dl)
  | chunk {c : Callback L} {kind : BlockKind} {chunk : List UInt8} {cb : ContentBlock L}
      {reader : BlockReader} (content_eq : c.content? = some (kind, cb, reader))
      (size_eq : cb.blockSize = some chunk.length) (read_eq : reader.read chunk.length = chunk) :
      Hands (.inr (kind, chunk)) c

/-- The datalayouts of a record, and its chunks with the kinds of the blocks that they are read
as. -/
def Record.handed (record : Record L) (kinds : List BlockKind) :
    List (L.DataLayout ⊕ BlockKind × List UInt8) :=
  record.dataSource.dataLayouts.map .inl ++ (kinds.zip record.dataSource.chunks).map .inr

/-- vrs delivers the record: all of its chunks, in order. -/
structure Record.Delivered (record : Record L) (kinds : List BlockKind) (delivery : Delivery L) :
    Prop where
  status_eq : delivery.status = 0
  formatVersion_eq : delivery.formatVersion = record.formatVersion
  inBlockOrder : InBlockOrder delivery.callbacks
  length_eq : kinds.length = record.dataSource.chunks.length
  handed : List.Forall₂ Hands (record.handed kinds) delivery.callbacks

/-- What is handed over begins with two blocks of one kind, of which the second one takes the place
of the first. -/
def BeginsAlike : List (L.DataLayout ⊕ BlockKind × List UInt8) → Prop
  | .inr a :: .inr b :: _ => a.1 = b.1
  | _ => False

/-- A record with metadata keeps its blocks. -/
theorem Record.not_beginsAlike (record : Record L) (h : record.dataSource.dataLayouts ≠ [])
    (kinds : List BlockKind) : ¬BeginsAlike (record.handed kinds) := by
  unfold handed
  cases hlayouts : record.dataSource.dataLayouts with
  | nil => exact absurd hlayouts h
  | cons dl dls => exact id

section Content

variable {c : Callback L} {kind : BlockKind} {cb : ContentBlock L} {reader : BlockReader}

theorem Callback.kind_of_content (h : c.content? = some (kind, cb, reader)) :
    c.kind = some kind := by
  cases c <;> cases h <;> rfl

theorem Callback.sizeKnown_of_content (h : c.content? = some (kind, cb, reader)) :
    c.sizeKnown = cb.blockSize.isSome := by
  cases c <;> cases h <;> rfl

theorem Callback.read_of_content (h : c.content? = some (kind, cb, reader))
    (player : BaseVRSReaderStreamPlayer L) (settings : PlayerSettings) (record : CurrentRecord) :
    (player.read settings record c).1 =
      .content c.blockIndex kind (player.readContent settings record cb reader).1 := by
  cases c <;> cases h <;> rfl

/-- Images that are not converted, and all other blocks, are read as they are. -/
theorem BaseVRSReaderStreamPlayer.bytes_readContent (player : BaseVRSReaderStreamPlayer L)
    {settings : PlayerSettings} (hconversion : settings.imageConversion = .off)
    (record : CurrentRecord) {chunk : List UInt8} (hsize : cb.blockSize = some chunk.length)
    (hread : reader.read chunk.length = chunk) :
    (player.readContent settings record cb reader).1.bytes = chunk := by
  unfold readContent
  rw [hsize]
  cases chunk with
  | nil => rfl
  | cons byte bytes =>
    rw [List.length_cons] at hread ⊢
    simp only [readBlock, hconversion, or_true, if_true]
    exact hread

end Content

variable {settings : PlayerSettings}
  {items : List (L.DataLayout ⊕ BlockKind × List UInt8)} {cs : List (Callback L)}

/-- The chunk of a block of one kind. -/
def chunkOfKind (kind : BlockKind) : L.DataLayout ⊕ BlockKind × List UInt8 → Option (List UInt8)
  | .inl _ => none
  | .inr (kind', chunk) => if kind' = kind then some chunk else none

theorem sizeKnown_of_hands (h : List.Forall₂ Hands items cs) : ∀ c ∈ cs, c.sizeKnown := by
  induction h with
  | nil => exact fun _ hc => absurd hc List.not_mem_nil
  | cons hhead _ ih =>
    refine List.forall_mem_cons.2 ⟨?_, ih⟩
    cases hhead with
    | dataLayout => rfl
    | chunk hcontent hsize _ =>
      rw [Callback.sizeKnown_of_content hcontent, hsize]
      rfl

theorem dataLayouts_of_hands (h : List.Forall₂ Hands items cs) :
    cs.filterMap Callback.dataLayout? = items.filterMap Sum.getLeft? := by
  induction h with
  | nil => rfl
  | @cons item c items cs hhead _ ih =>
    have hdl : c.dataLayout? = item.getLeft? := by
      cases hhead with
      | dataLayout => rfl
      | chunk hcontent _ _ => cases c <;> cases hcontent <;> rfl
    rw [List.filterMap_cons, List.filterMap_cons, hdl, ih]

/-- **The bytes read of the blocks of one kind** are those of their chunks. -/
theorem bytes_of_hands (h : List.Forall₂ Hands items cs)
    (hconversion : settings.imageConversion = .off) (player : BaseVRSReaderStreamPlayer L)
    (current : CurrentRecord) (kind : BlockKind) :
    ((player.readBlocks settings current cs).filterMap (ReadBlock.ofKind kind)).map
        (fun block => block.2.bytes) = items.filterMap (chunkOfKind kind) := by
  induction h generalizing player with
  | nil => rfl
  | @cons item c items cs hhead _ ih =>
    have hnext := ih (player.read settings current c).2
    rw [BaseVRSReaderStreamPlayer.readBlocks, List.filterMap_cons, List.filterMap_cons]
    cases hhead with
    | dataLayout i dl => exact hnext
    | @chunk c kind' chunk cb reader hcontent hsize hread =>
      rw [Callback.read_of_content hcontent]
      by_cases hkind : kind' = kind
      · have hbytes := player.bytes_readContent hconversion current hsize hread
        simp only [ReadBlock.ofKind, chunkOfKind, if_pos hkind, List.map_cons, hnext, hbytes]
      · simp only [ReadBlock.ofKind, chunkOfKind, if_neg hkind, hnext]

theorem beginsAlike_of_hands (h : List.Forall₂ Hands items cs) (halike : FirstTwoAlike cs) :
    BeginsAlike items := by
  cases h with
  | nil => exact halike.elim
  | cons ha hrest =>
    cases hrest with
    | nil => exact halike.elim
    | cons hb _ =>
      obtain ⟨hne, heq⟩ := halike
      cases ha with
      | dataLayout => exact absurd rfl hne
      | chunk ha _ _ =>
        cases hb with
        | dataLayout => exact absurd heq hne
        | chunk hb _ _ =>
          rw [Callback.kind_of_content ha, Callback.kind_of_content hb] at heq
          exact Option.some.inj heq

/-! ## The record returned -/

/-- The record returned shows what was written: its header, its datalayouts in the encoding of the
reader, and the bytes of its chunks, each in the list of its kind. -/
structure Record.ShownBy (record : Record L) (kinds : List BlockKind) (id : StreamId)
    (encoding : String) (r : PyRecord L) : Prop where
  timestamp_eq : r.recordTimestamp = record.timestamp
  recordType_eq : r.recordType = lowercaseTypeName L record.recordType
  streamId_eq : r.streamId = L.getNumericName id
  formatVersion_eq : r.recordFormatVersion = record.formatVersion
  datalayoutBlocks_eq : r.datalayoutBlocks =
    record.dataSource.dataLayouts.map fun dl => L.dataLayoutToPyDict dl encoding
  imageBlocks_eq : r.imageBlocks.map (·.bytes) =
    (record.handed kinds).filterMap (chunkOfKind .image)
  audioBlocks_eq : r.audioBlocks.map (·.bytes) =
    (record.handed kinds).filterMap (chunkOfKind .audio)
  customBlocks_eq : r.customBlocks.map (·.bytes) =
    (record.handed kinds).filterMap (chunkOfKind .custom)
  unsupportedBlocks_eq : r.unsupportedBlocks.map (·.bytes) =
    (record.handed kinds).filterMap (chunkOfKind .unsupported)

/-- The datalayouts among what is handed over. -/
theorem Record.getLeft_handed (record : Record L) (kinds : List BlockKind) :
    (record.handed kinds).filterMap Sum.getLeft? = record.dataSource.dataLayouts := by
  unfold handed
  rw [List.filterMap_append, List.filterMap_map, List.filterMap_map]
  have hleft : (Sum.getLeft? : L.DataLayout ⊕ BlockKind × List UInt8 → _) ∘ Sum.inl = some := rfl
  have hright : (Sum.getLeft? : L.DataLayout ⊕ BlockKind × List UInt8 → _) ∘ Sum.inr =
      fun _ => none := rfl
  rw [hleft, hright, List.filterMap_some, List.filterMap_none, List.append_nil]

/-- **Played into a cache without blocks, a written record is shown.** -/
theorem Record.Delivered.shownBy {record : Record L} {kinds : List BlockKind}
    {delivery : Delivery L} (h : record.Delivered kinds delivery)
    (hkeeps : ¬BeginsAlike (record.handed kinds)) (hconversion : settings.imageConversion = .off)
    (hlimit : settings.firstSkippedTrailingBlockIndex = none) {info : RecordInfo}
    (htimestamp : info.timestamp = record.timestamp) (htype : info.recordType = record.recordType)
    (i : ℕ) (st : Playing L) (hempty : st.cache.NoBlocks) :
    record.ShownBy kinds info.streamId settings.encoding (.ofCache info i
      (st.play settings ⟨info.streamId, info.recordType, delivery.formatVersion⟩
        delivery.callbacks).cache) := by
  have hcache : (st.play settings ⟨info.streamId, info.recordType, delivery.formatVersion⟩
      delivery.callbacks).cache = .ofBlocks delivery.formatVersion (st.player.readBlocks settings
        ⟨info.streamId, info.recordType, delivery.formatVersion⟩ delivery.callbacks) := by
    have hstart : { st.cache with recordFormatVersion := delivery.formatVersion } =
        RecordCache.empty delivery.formatVersion := by
      rw [hempty]
      rfl
    rw [Playing.cache_play, visited_eq_self hlimit (sizeKnown_of_hands h.handed), hstart]
    exact (addAll_eq_ofBlocks_iff st.player h.inBlockOrder _).2
      fun halike => hkeeps (beginsAlike_of_hands h.handed halike)
  rw [hcache]
  have hbytes := bytes_of_hands h.handed hconversion st.player
    ⟨info.streamId, info.recordType, delivery.formatVersion⟩
  refine ⟨htimestamp, congrArg (lowercaseTypeName L) htype, rfl, h.formatVersion_eq, ?_, ?_, ?_,
    ?_, ?_⟩
  · show List.filterMap ReadBlock.dict _ = _
    rw [dict_readBlocks, dataLayouts_of_hands h.handed, record.getLeft_handed]
  · rw [← hbytes]
    exact List.map_map
  · rw [← hbytes]
    exact List.map_map
  · rw [← hbytes]
    exact List.map_map
  · rw [← hbytes]
    exact List.map_map

/-! ## Reading it -/

namespace OssVRSReader

variable (F : RecordFileReader L) {D : Native L} (reader : OssVRSReader L)

section NoBlocks

variable (hD : ∀ reads i, (D reads i).status = 0)

include hD

theorem noBlocks_autoReadConfiguration (h : reader.lastRecord.NoBlocks) (record : RecordInfo) :
    (reader.autoReadConfiguration F D record).2.lastRecord.NoBlocks := by
  unfold autoReadConfiguration readConfigurationRecord
  split
  · simp only
    split
    · exact h
    · split
      · exact h
      · rw [readConfigurationAt_of_eq D _ _ _ _ (hD _ _)]
        rfl
  · exact h

/-- A read that succeeds leaves no blocks. -/
theorem noBlocks_readNextRecordInternal (h : reader.lastRecord.NoBlocks) :
    (reader.readNextRecordInternal F D).2.lastRecord.NoBlocks := by
  unfold readNextRecordInternal
  split
  · exact h
  · rename_i record _
    have hauto := reader.noBlocks_autoReadConfiguration F hD h record
    split
    · rename_i hfailed
      rwa [hfailed] at hauto
    · rename_i reader₁ _
      rw [readThisRecord_of_eq D reader₁ record (hD _ _)]
      rfl

theorem noBlocks_call (h : reader.lastRecord.NoBlocks) (c : Call) :
    (call F D reader c).2.lastRecord.NoBlocks := by
  cases htarget : reader.target F c with
  | none =>
    rw [(reader.unread_of_target_eq_none F D htarget).2.lastRecord_eq]
    exact h
  | some k =>
    rw [reader.call_of_target F D htarget]
    exact (reader.cursorAt k).noBlocks_readNextRecordInternal F hD h

/-- What a read comes down to where all native reads succeed. -/
theorem readRecord_of_succeeds (h : reader.lastRecord.NoBlocks) {k : ℕ} {info : RecordInfo}
    (hinfo : F.index[k]? = some info) :
    ∃ reader₁ : OssVRSReader L, SameSettings reader₁ reader ∧ reader₁.lastRecord.NoBlocks ∧
      reader.readRecord F D (.ofNat k) =
        (.ok (.ofCache info k (reader₁.nativeReadRecord D k info).2.lastRecord),
          (reader₁.nativeReadRecord D k info).2.recordRead) := by
  have hlt := (List.getElem?_eq_some_iff.1 hinfo).1
  have hcast : castUInt32 (.ofNat k) = k := castUInt32_ofNat (hlt.trans F.length_index_lt)
  have hok := (reader.cursorAt k).autoReadConfiguration_ok F D hD info
  have hframe := ((reader.cursorAt k).autoReadConfiguration_frame F D info).1
  have hsettings := (reader.cursorAt k).sameSettings_autoReadConfiguration F D info
  have hblocks := (reader.cursorAt k).noBlocks_autoReadConfiguration F hD h info
  rcases hauto : (reader.cursorAt k).autoReadConfiguration F D info with ⟨result, reader₁⟩
  rw [hauto] at hok hframe hsettings hblocks
  simp only at hok hframe hsettings hblocks
  subst hok
  refine ⟨reader₁, hsettings.trans ⟨rfl, rfl⟩, hblocks, ?_⟩
  have hcursor : reader₁.nextRecordIndex = k := hframe
  have hread := reader₁.readThisRecord_of_eq D info (hD _ _)
  rw [hcursor] at hread
  rw [← hread]
  unfold readRecord
  rw [hcast, if_neg (not_le.2 hlt)]
  show (reader.cursorAt k).readNextRecordInternal F D = _
  have hinfo' : F.index[(reader.cursorAt k).nextRecordIndex]? = some info := hinfo
  simp only [readNextRecordInternal, hinfo', hauto]

end NoBlocks

/-- The reader reads records as they are: every stream is enabled, images are not converted, and no
trailing blocks are skipped. -/
structure ReadsWhole : Prop where
  enabled : ∀ id ∈ F.streams, id ∈ reader.enabledStreams
  imageConversion_eq : ∀ info, (reader.playerSettings info).imageConversion = .off
  firstSkippedTrailingBlockIndex_eq : ∀ info,
    (reader.playerSettings info).firstSkippedTrailingBlockIndex = none

variable {F reader}

theorem ReadsWhole.congr {reader' : OssVRSReader L} (h : reader.ReadsWhole F)
    (hsettings : SameSettings reader' reader) : reader'.ReadsWhole F where
  enabled := by
    rw [hsettings.enabledStreams_eq]
    exact h.enabled
  imageConversion_eq := by
    rw [hsettings.playerSettings_eq]
    exact h.imageConversion_eq
  firstSkippedTrailingBlockIndex_eq := by
    rw [hsettings.playerSettings_eq]
    exact h.firstSkippedTrailingBlockIndex_eq

/-- **A written record is read.** -/
theorem readRecord_of_delivered (hD : ∀ reads i, (D reads i).status = 0)
    (h : reader.lastRecord.NoBlocks) (hwhole : reader.ReadsWhole F) {k : ℕ} {info : RecordInfo}
    (hinfo : F.index[k]? = some info) {record : Record L} {kinds : List BlockKind}
    (htimestamp : info.timestamp = record.timestamp) (htype : info.recordType = record.recordType)
    (hdelivered : ∀ reads, record.Delivered kinds (D reads k))
    (hkeeps : ¬BeginsAlike (record.handed kinds)) :
    ∃ r reader', reader.readRecord F D (.ofNat k) = (.ok r, reader') ∧
      record.ShownBy kinds info.streamId reader.encoding r ∧ SameSettings reader' reader ∧
      reader'.lastRecord.NoBlocks := by
  obtain ⟨reader₁, hsettings, hblocks, hread⟩ := reader.readRecord_of_succeeds F hD h hinfo
  have hwhole₁ := hwhole.congr hsettings
  have hen := hwhole₁.enabled _ (F.mem_streams info (List.mem_of_getElem? hinfo))
  have hencoding : (reader₁.playerSettings info).encoding = reader.encoding := by
    rw [hsettings.playerSettings_eq]
    rfl
  refine ⟨_, _, hread, ?_, ⟨hsettings.enabledStreams_eq, hsettings.playerSettings_eq⟩, rfl⟩
  have hshown := (hdelivered reader₁.nativeReads).shownBy hkeeps (hwhole₁.imageConversion_eq info)
    (hwhole₁.firstSkippedTrailingBlockIndex_eq info) htimestamp htype k
    ⟨reader₁.lastRecord, reader₁.streamPlayer⟩ hblocks
  rw [hencoding] at hshown
  unfold nativeReadRecord
  simp only [hen, decide_true, if_true]
  exact hshown

end OssVRSReader

end Pyvrs
