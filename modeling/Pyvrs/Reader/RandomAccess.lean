import Mathlib.Order.Lattice.Nat
import Pyvrs.Reader.ConfigInForce
import Pyvrs.Reader.Cursor
import Pyvrs.Reader.NormalizeCache

/-!
# Reading in any order

The reader keeps from one read to the next the configurations noted, the options to normalize
images, and what failed reads left in the cache of the record. None of it shows: where what vrs
delivers for a data record depends on the configuration record that its player was given last, and
the calls leave the configurations noted true to that (`KeepsCache`), every record of an enabled
stream is the one that a reader which has just opened the file returns for the same index
(`random_access`). So seeking, reading backwards or reading two streams in turn makes no difference.
-/

namespace Pyvrs

open Foundations

variable {L : VrsLib}

/-! ## Players that normalize alike -/

namespace BaseVRSReaderStreamPlayer

/-- The players hold the same configuration for the stream `s`, and options that agree with the
configurations that they hold. -/
structure AlikeAt (s : StreamId) (p q : BaseVRSReaderStreamPlayer L) : Prop where
  configs_eq : p.streamNormalizeConfigs s = q.streamNormalizeConfigs s
  left_coherent : p.Coherent
  right_coherent : q.Coherent

/-- The conversion computes normalization options. -/
def Normalizes (settings : PlayerSettings) : Prop :=
  settings.imageConversion = .normalize ∨ settings.imageConversion = .normalizeGrey8

variable {p q : BaseVRSReaderStreamPlayer L} {settings : PlayerSettings} {record : CurrentRecord}

theorem AlikeAt.normalizeOptions_fst (h : AlikeAt record.streamId p q) (pixelFormat : PixelFormat) :
    (p.normalizeOptions record.streamId pixelFormat).1 =
      (q.normalizeOptions record.streamId pixelFormat).1 := by
  rw [p.normalizeOptions_fst, q.normalizeOptions_fst, h.left_coherent.lookup,
    h.right_coherent.lookup]
  unfold computeNormalizeOptions
  rw [h.configs_eq]

/-- The block that is read depends on the player through its normalization options only. -/
theorem readContent_fst_congr
    (h : Normalizes settings → ∀ pixelFormat,
      (p.normalizeOptions record.streamId pixelFormat).1 =
        (q.normalizeOptions record.streamId pixelFormat).1)
    (contentBlock : ContentBlock L) (reader : BlockReader) :
    (p.readContent settings record contentBlock reader).1 =
      (q.readContent settings record contentBlock reader).1 := by
  unfold readContent
  split
  · rfl
  · rfl
  unfold readBlock
  simp only
  split
  · rfl
  split
  · rfl
  split
  · rfl
  split
  · rfl
  · rename_i frame _
    split
    · rename_i hnormalizes
      rw [h hnormalizes frame.getPixelFormat]
    · rfl

theorem read_fst_congr
    (h : Normalizes settings → ∀ pixelFormat,
      (p.normalizeOptions record.streamId pixelFormat).1 =
        (q.normalizeOptions record.streamId pixelFormat).1) (c : Callback L) :
    (p.read settings record c).1 = (q.read settings record c).1 := by
  cases c with
  | dataLayout i dl => rfl
  | image i cb reader =>
    exact congrArg (ReadBlock.content i .image) (readContent_fst_congr h cb reader)
  | audio i cb reader =>
    exact congrArg (ReadBlock.content i .audio) (readContent_fst_congr h cb reader)
  | custom i cb reader =>
    exact congrArg (ReadBlock.content i .custom) (readContent_fst_congr h cb reader)
  | unsupported i cb reader =>
    exact congrArg (ReadBlock.content i .unsupported) (readContent_fst_congr h cb reader)

/-- A block leaves alike players alike. -/
theorem AlikeAt.read (h : AlikeAt record.streamId p q) (settings : PlayerSettings)
    (c : Callback L) :
    (p.read settings record c).1 = (q.read settings record c).1 ∧
      AlikeAt record.streamId (p.read settings record c).2 (q.read settings record c).2 := by
  refine ⟨read_fst_congr (fun _ => h.normalizeOptions_fst) c, ?_,
    h.left_coherent.readGiven ⟨settings, record, c⟩,
    h.right_coherent.readGiven ⟨settings, record, c⟩⟩
  refine (p.streamNormalizeConfigs_readGiven ⟨settings, record, c⟩ record.streamId).trans
    (Eq.trans ?_ (q.streamNormalizeConfigs_readGiven ⟨settings, record, c⟩ record.streamId).symm)
  rw [h.configs_eq]

/-- Alike players read the same blocks. -/
theorem AlikeAt.readBlocks (h : AlikeAt record.streamId p q) (settings : PlayerSettings)
    (cs : List (Callback L)) :
    p.readBlocks settings record cs = q.readBlocks settings record cs := by
  induction cs generalizing p q with
  | nil => rfl
  | cons c cs ih =>
    obtain ⟨hblock, hnext⟩ := h.read settings c
    rw [BaseVRSReaderStreamPlayer.readBlocks, BaseVRSReaderStreamPlayer.readBlocks, hblock,
      ih hnext]

/-- Where nothing is normalized, any two players do. -/
theorem readBlocks_of_not_normalizes (h : ¬Normalizes settings) (p q : BaseVRSReaderStreamPlayer L)
    (cs : List (Callback L)) :
    p.readBlocks settings record cs = q.readBlocks settings record cs := by
  induction cs generalizing p q with
  | nil => rfl
  | cons c cs ih =>
    have hblock : (p.read settings record c).1 = (q.read settings record c).1 :=
      read_fst_congr (fun hnormalizes => absurd hnormalizes h) c
    rw [BaseVRSReaderStreamPlayer.readBlocks, BaseVRSReaderStreamPlayer.readBlocks, hblock, ih]

end BaseVRSReaderStreamPlayer

/-- Played into caches without blocks, a record that is read as the same blocks leaves the same
cache. -/
theorem Playing.cache_play_congr {settings : PlayerSettings} {record : CurrentRecord}
    {st st' : Playing L} (h : st.cache.NoBlocks) (h' : st'.cache.NoBlocks)
    {cs : List (Callback L)}
    (hblocks : st.player.readBlocks settings record (visited settings cs) =
      st'.player.readBlocks settings record (visited settings cs)) :
    (st.play settings record cs).cache = (st'.play settings record cs).cache := by
  rw [cache_play, cache_play, hblocks, h, h']
  rfl

/-! ## What vrs delivers -/

/-- Native reads succeed, and what they deliver of a record only depends on the reads before through
the configuration record of its stream handed to the player last, for data records. Configuration
records begin with their metadata, and have no other. -/
structure DecodesByConfiguration (F : RecordFileReader L) (D : Native L) : Prop where
  status_eq : ∀ reads i, (D reads i).status = 0
  delivery_eq : ∀ reads reads' i info, F.index[i]? = some info →
    (info.recordType = .data → OssVRSReader.lastConfigHanded F info.streamId reads =
      OssVRSReader.lastConfigHanded F info.streamId reads') → D reads i = D reads' i
  metadata : ∀ reads i info, F.index[i]? = some info → info.recordType = .configuration →
    ∃ k dl rest, (D reads i).callbacks = .dataLayout k dl :: rest ∧
      ∀ c ∈ rest, c.dataLayout? = none

namespace OssVRSReader

variable (F : RecordFileReader L) (D : Native L) (reader : OssVRSReader L)

/-- The configuration that is captured for the stream `s` from its configuration record at `t`. -/
def configurationAt (s : StreamId) (t : ℕ) : Option L.NormalizeOptionsConfig :=
  ((D [] t).callbacks.head?.bind Callback.dataLayout?).map (L.captureNormalizeOptionsConfig s)

variable {F D reader}

/-- A record that is not a configuration record of the stream, or is not handed to the player,
captures nothing for the stream. -/
theorem filter_captures_eq_nil {played : PlayedRecord L} {s : StreamId}
    (h : ¬(played.handed = true ∧ played.record.streamId = s ∧
      played.record.recordType = .configuration)) :
    played.blocks.filter (·.Captures s) = [] := by
  rw [List.filter_eq_nil_iff]
  intro block hblock hcaptures
  obtain ⟨c, hc, rfl⟩ := List.mem_map.1 hblock
  obtain ⟨hstream, htype, -⟩ := of_decide_eq_true hcaptures
  unfold PlayedRecord.delivered at hc
  split at hc
  · rename_i hhanded
    exact h ⟨hhanded, hstream, htype⟩
  · cases hc

/-- A record that begins with its metadata, and has no other, is captured by that. -/
theorem filter_captures_of_metadata (played : PlayedRecord L) {k : ℕ} {dl : L.DataLayout}
    {rest : List (Callback L)} (hhanded : played.handed = true)
    (htype : played.record.recordType = .configuration)
    (hcallbacks : played.delivery.callbacks = .dataLayout k dl :: rest)
    (hrest : ∀ c ∈ rest, c.dataLayout? = none) :
    played.blocks.filter (·.Captures played.record.streamId) =
      [⟨played.settings, played.current, .dataLayout k dl⟩] := by
  have hdelivered : ∃ later, played.delivered = .dataLayout k dl :: later ∧
      ∀ c ∈ later, c.dataLayout? = none := by
    unfold PlayedRecord.delivered
    rw [if_pos hhanded, hcallbacks, visited]
    refine ⟨_, rfl, fun c hc => ?_⟩
    split at hc
    · exact hrest c ((isPrefix_visited played.settings rest).subset hc)
    · cases hc
  obtain ⟨later, heq, hlater⟩ := hdelivered
  have hcaptures : GivenBlock.Captures played.record.streamId
      ⟨played.settings, played.current, .dataLayout k dl⟩ := ⟨rfl, htype, rfl⟩
  unfold PlayedRecord.blocks
  rw [heq, List.map_cons, List.filter_cons, if_pos (decide_eq_true hcaptures)]
  refine congrArg _ (List.filter_eq_nil_iff.2 fun block hblock hcaptures => ?_)
  obtain ⟨c, hc, rfl⟩ := List.mem_map.1 hblock
  have hmetadata := (of_decide_eq_true hcaptures).2.2
  rw [hlater c hc] at hmetadata
  cases hmetadata

/-- A configuration record of an enabled stream has its metadata captured, and other records change
no configuration. -/
theorem streamNormalizeConfigs_nativeReadRecord (hD : DecodesByConfiguration F D) {i : ℕ}
    {info : RecordInfo} (hinfo : F.index[i]? = some info) (s : StreamId) :
    (reader.nativeReadRecord D i info).2.streamPlayer.streamNormalizeConfigs s =
      if info.streamId ∈ reader.enabledStreams ∧ info.streamId = s ∧
          info.recordType = .configuration then configurationAt D s i
      else reader.streamPlayer.streamNormalizeConfigs s := by
  have hplayer := congrArg Playing.player (reader.nativeReadRecord_played D i info)
  rw [PlayedRecord.player_play] at hplayer
  have hconfigs := Machine.read_exec_of_covers
    (fun player : BaseVRSReaderStreamPlayer L => player.streamNormalizeConfigs s)
    (fun player block => player.streamNormalizeConfigs_readGiven block s) reader.streamPlayer
    (reader.playedRecord D i info).blocks
  rw [← hplayer] at hconfigs
  refine hconfigs.trans ?_
  by_cases hcaptures : info.streamId ∈ reader.enabledStreams ∧ info.streamId = s ∧
      info.recordType = .configuration
  · obtain ⟨hen, rfl, htype⟩ := hcaptures
    obtain ⟨k, dl, rest, hcallbacks, hrest⟩ := hD.metadata reader.nativeReads i info hinfo htype
    have hsame : D [] i = D reader.nativeReads i :=
      hD.delivery_eq _ _ i info hinfo fun hdata => absurd (htype.symm.trans hdata) nofun
    rw [if_pos ⟨hen, rfl, htype⟩, configurationAt, hsame, hcallbacks]
    have hfilter := filter_captures_of_metadata (reader.playedRecord D i info)
      (decide_eq_true hen) htype hcallbacks hrest
    exact congrArg (fun blocks => (List.getLast? blocks |>.map GivenBlock.captured).getD _) hfilter
  · rw [if_neg hcaptures, filter_captures_eq_nil fun h =>
      hcaptures ⟨of_decide_eq_true h.1, h.2.1, h.2.2⟩]
    rfl

variable (F D reader)

/-! ## Readers that differ in what they have read only -/

/-- What reads leave true: the configurations noted are those that the player was given last, its
configurations are those captured from them, and no block is left in the cache. -/
structure InTune : Prop extends CacheInForce F reader where
  noBlocks : reader.lastRecord.NoBlocks
  coherent : reader.streamPlayer.Coherent
  captured : ∀ s t, lastConfigHanded F s reader.nativeReads = some t →
    reader.streamPlayer.streamNormalizeConfigs s = configurationAt D s t

theorem inTune_open : InTune F D ((new true : OssVRSReader L).open F) where
  toCacheInForce := cacheInForce_open F
  noBlocks := rfl
  coherent := BaseVRSReaderStreamPlayer.coherent_new
  captured _ _ := nofun

/-- A reader that has just opened the file, with the settings of `reader`. -/
def reopened : OssVRSReader L :=
  { (new true : OssVRSReader L).open F with
    enabledStreams := reader.enabledStreams
    firstSkippedTrailingBlockIndex := reader.firstSkippedTrailingBlockIndex
    imageConversion := reader.imageConversion
    streamImageConversion := reader.streamImageConversion
    encoding := reader.encoding }

theorem inTune_reopened : InTune F D (reader.reopened F) where
  auto := rfl
  filled := (cacheInForce_open F).filled.congr F rfl
  cached s hs _ := .inl (by simp [reopened, «open», new, hs])
  noBlocks := rfl
  coherent := BaseVRSReaderStreamPlayer.coherent_new
  captured _ _ := nofun

/-- The record at `k` shows nothing of what was read before: it is of an enabled stream, has a
configuration record before it if it is a data record, and is not normalized otherwise. -/
structure ShowsNoHistory (record : RecordInfo) (k : ℕ) : Prop where
  enabled : record.streamId ∈ reader.enabledStreams
  configured : record.recordType = .data →
    (configsBelow (fun i => F.index[i]?) record.streamId k).Nonempty
  normalized : record.recordType ≠ .data →
    ¬BaseVRSReaderStreamPlayer.Normalizes (reader.playerSettings record)

/-- The record that a call returns, if it shows no history, is the one that a reader which has just
opened the file returns for its index. -/
def ReadsAsReopened (c : Call) : Prop :=
  ∀ record k info, recordOf (call F D reader c).1 = some record → reader.target F c = some k →
    F.index[k]? = some info → reader.ShowsNoHistory F info k →
    (call F D (reader.reopened F) (.readRecord (.ofNat k))).1 = .ok (.record record)

/-- The readers have the same settings. -/
structure SameSettings (reader reader' : OssVRSReader L) : Prop where
  enabledStreams_eq : reader.enabledStreams = reader'.enabledStreams
  playerSettings_eq : reader.playerSettings = reader'.playerSettings

theorem SameSettings.trans {reader reader' reader'' : OssVRSReader L}
    (h : SameSettings reader reader') (h' : SameSettings reader' reader'') :
    SameSettings reader reader'' :=
  ⟨h.enabledStreams_eq.trans h'.enabledStreams_eq, h.playerSettings_eq.trans h'.playerSettings_eq⟩

theorem SameSettings.symm {reader reader' : OssVRSReader L} (h : SameSettings reader reader') :
    SameSettings reader' reader :=
  ⟨h.enabledStreams_eq.symm, h.playerSettings_eq.symm⟩

theorem sameSettings_readConfigurationAt (s : StreamId) (it : ℕ) (record : RecordInfo) :
    SameSettings (reader.readConfigurationAt D s it record).2 reader := by
  by_cases hstatus : (D reader.nativeReads it).status = 0
  · rw [readConfigurationAt_of_eq D reader it record s hstatus]
    exact ⟨rfl, rfl⟩
  · rw [readConfigurationAt_of_ne D reader it record s hstatus]
    exact ⟨rfl, rfl⟩

theorem sameSettings_autoReadConfiguration (record : RecordInfo) :
    SameSettings (reader.autoReadConfiguration F D record).2 reader := by
  unfold autoReadConfiguration readConfigurationRecord
  split
  · simp only
    split
    · exact ⟨rfl, rfl⟩
    · split
      · exact ⟨rfl, rfl⟩
      · have hread := (reader.withConfigIndex F).sameSettings_readConfigurationAt D
        exact (hread _ _ _).trans ⟨rfl, rfl⟩
  · exact ⟨rfl, rfl⟩

variable {F D reader}

/-! ## One read -/

/-- What a native read captures stays in tune with the configuration records handed to the
player. -/
theorem InTune.captured_nativeReadRecord (hD : DecodesByConfiguration F D)
    (h : reader.InTune F D) {i : ℕ} {info : RecordInfo} (hinfo : F.index[i]? = some info)
    (s : StreamId) (t : ℕ)
    (hlast : lastConfigHanded F s (reader.nativeReadRecord D i info).2.nativeReads = some t) :
    (reader.nativeReadRecord D i info).2.streamPlayer.streamNormalizeConfigs s =
      configurationAt D s t := by
  rw [streamNormalizeConfigs_nativeReadRecord hD hinfo]
  rw [nativeReadRecord_nativeReads, lastConfigHanded_append] at hlast
  simp only [isConfigAt_iff hinfo, decide_eq_true_eq] at hlast
  split at hlast
  · rename_i hcaptures
    rw [if_pos hcaptures, Option.some.inj hlast]
  · rename_i hcaptures
    rw [if_neg hcaptures]
    exact h.captured s t hlast

theorem coherent_nativeReadRecord (h : reader.streamPlayer.Coherent) (i : ℕ) (info : RecordInfo) :
    (reader.nativeReadRecord D i info).2.streamPlayer.Coherent := by
  have hplayer := congrArg Playing.player (reader.nativeReadRecord_played D i info)
  rw [PlayedRecord.player_play] at hplayer
  rw [show (reader.nativeReadRecord D i info).2.streamPlayer = _ from hplayer]
  exact Machine.exec_of_invariant (I := BaseVRSReaderStreamPlayer.Coherent)
    (fun _ block h => h.readGiven block) h _

/-- The automatic configuration read keeps the reader in tune, and leaves the configuration in force
captured. -/
theorem InTune.autoReadConfiguration (hD : DecodesByConfiguration F D) (h : reader.InTune F D)
    {record : RecordInfo} (hrecord : F.index[reader.nextRecordIndex]? = some record)
    {reader' : OssVRSReader L}
    (hok : reader.autoReadConfiguration F D record = (.ok (), reader')) : reader'.InTune F D := by
  obtain ⟨hcache, -⟩ := h.toCacheInForce.autoReadConfiguration F D hrecord hok
  by_cases hdata : record.recordType = .data
  · have hle := (List.getElem?_eq_some_iff.1 hrecord).1.le
    rw [autoReadConfiguration_of_data F D _ h.auto hdata] at hok
    rcases reader.readConfigurationRecord_cases F D h.filled record.streamId hle with
      ⟨-, heq⟩ | ⟨t, info, -, -, hinfo, heq⟩
    · rw [heq] at hok
      cases hok
      exact ⟨hcache, h.noBlocks, h.coherent, h.captured⟩
    · obtain ⟨-, rfl⟩ := readConfigurationAt_eq_ok D _ t info (heq.symm.trans hok)
      have hfilled : (reader.withConfigIndex F).InTune F D :=
        ⟨⟨h.auto, h.filled.withConfigIndex, h.cached⟩, h.noBlocks, h.coherent, h.captured⟩
      exact ⟨hcache, rfl, coherent_nativeReadRecord hfilled.coherent t info,
        hfilled.captured_nativeReadRecord hD hinfo⟩
  · rw [autoReadConfiguration_of_ne F D _ hdata] at hok
    cases hok
    exact h

/-- What a read comes down to: a reader in tune, with the same settings and with the configuration
in force handed to the player, has the record read natively. -/
theorem InTune.readNextRecordInternal_eq (hD : DecodesByConfiguration F D) (h : reader.InTune F D)
    {record : RecordInfo} {k : ℕ} (hcursor : reader.nextRecordIndex = k)
    (hrecord : F.index[k]? = some record) :
    ∃ reader₁ : OssVRSReader L, reader₁.InTune F D ∧ SameSettings reader₁ reader ∧
      (record.recordType = .data → record.streamId ∈ reader.enabledStreams →
        ∀ t, IsGreatest (configsBelow (fun i => F.index[i]?) record.streamId k) t →
          lastConfigHanded F record.streamId reader₁.nativeReads = some t) ∧
      reader.readNextRecordInternal F D =
        (.ok (.ofCache record k (reader₁.nativeReadRecord D k record).2.lastRecord),
          (reader₁.nativeReadRecord D k record).2.recordRead) := by
  subst hcursor
  have hok := reader.autoReadConfiguration_ok F D hD.status_eq record
  have hframe := (reader.autoReadConfiguration_frame F D record).1
  have hsettings := reader.sameSettings_autoReadConfiguration F D record
  rcases hauto : reader.autoReadConfiguration F D record with ⟨result, reader₁⟩
  rw [hauto] at hok hframe hsettings
  simp only at hok hframe hsettings
  subst hok
  have hread := reader₁.readThisRecord_of_eq D record (hD.status_eq _ _)
  refine ⟨reader₁, h.autoReadConfiguration hD hrecord hauto, hsettings,
    (h.toCacheInForce.autoReadConfiguration F D hrecord hauto).2, ?_⟩
  rw [← hframe, ← hread]
  simp only [OssVRSReader.readNextRecordInternal, hrecord, hauto]

theorem exists_isGreatest_configsBelow {getRecord : ℕ → Option RecordInfo} {s : StreamId} {k : ℕ}
    (h : (configsBelow getRecord s k).Nonempty) :
    ∃ t, IsGreatest (configsBelow getRecord s k) t := by
  have hbdd : BddAbove (configsBelow getRecord s k) := ⟨k, fun t ht => ht.2.le⟩
  exact ⟨_, Nat.sSup_mem h hbdd, fun t ht => le_csSup hbdd ht⟩

/-- Readers in tune, with the same settings and with the configuration in force handed to their
players, leave the same in their caches. -/
theorem InTune.lastRecord_nativeReadRecord_eq (hD : DecodesByConfiguration F D)
    {reader reader' : OssVRSReader L} (h : reader.InTune F D) (h' : reader'.InTune F D)
    (hsettings : SameSettings reader reader') {record : RecordInfo} {k : ℕ}
    (hrecord : F.index[k]? = some record) (hshows : reader.ShowsNoHistory F record k)
    (hlast : record.recordType = .data → ∀ t,
      IsGreatest (configsBelow (fun i => F.index[i]?) record.streamId k) t →
      lastConfigHanded F record.streamId reader.nativeReads = some t ∧
        lastConfigHanded F record.streamId reader'.nativeReads = some t) :
    (reader.nativeReadRecord D k record).2.lastRecord =
      (reader'.nativeReadRecord D k record).2.lastRecord := by
  have hen := hshows.enabled
  have hen' := hsettings.enabledStreams_eq ▸ hshows.enabled
  have hdelivery : D reader.nativeReads k = D reader'.nativeReads k := by
    refine hD.delivery_eq _ _ k record hrecord fun hdata => ?_
    obtain ⟨t, ht⟩ := exists_isGreatest_configsBelow (hshows.configured hdata)
    exact (hlast hdata t ht).1.trans (hlast hdata t ht).2.symm
  unfold nativeReadRecord
  simp only [hen, hen', decide_true, if_true]
  rw [← hsettings.playerSettings_eq, ← hdelivery]
  refine Playing.cache_play_congr h.noBlocks h'.noBlocks ?_
  by_cases hdata : record.recordType = .data
  · -- the players hold the configuration that was captured from the same record
    obtain ⟨t, ht⟩ := exists_isGreatest_configsBelow (hshows.configured hdata)
    have hcaptured := h.captured _ t (hlast hdata t ht).1
    have hcaptured' := h'.captured _ t (hlast hdata t ht).2
    have halike : BaseVRSReaderStreamPlayer.AlikeAt record.streamId reader.streamPlayer
        reader'.streamPlayer := ⟨hcaptured.trans hcaptured'.symm, h.coherent, h'.coherent⟩
    exact halike.readBlocks _ _
  · exact BaseVRSReaderStreamPlayer.readBlocks_of_not_normalizes (hshows.normalized hdata) _ _ _

/-! ## Runs -/

/-- What a call that moves the cursor, enables streams or changes settings leaves. -/
theorem InTune.unread (h : reader.InTune F D) {c : Call} {reader' : OssVRSReader L}
    (hunread : Unread F c reader reader') (hkeeps : reader.KeepsCache F c) :
    reader'.InTune F D where
  auto := hunread.autoReadConfigurationRecord_eq.trans h.auto
  filled := h.filled.congr F hunread.configIndex_eq
  cached s hmem hen := by
    rw [hunread.lastReadConfigIndex_eq, hunread.nativeReads_eq]
    rw [hunread.enabledStreams_eq, Finset.mem_union, List.mem_toFinset] at hen
    by_cases hold : s ∈ reader.enabledStreams
    · exact h.cached s hmem hold
    · exact .inl (hkeeps.enable s hmem (hen.resolve_left hold) hold)
  noBlocks := by
    rw [hunread.lastRecord_eq]
    exact h.noBlocks
  coherent := by
    rw [hunread.streamPlayer_eq]
    exact h.coherent
  captured := by
    rw [hunread.streamPlayer_eq, hunread.nativeReads_eq]
    exact h.captured

/-- One call keeps a reader in tune, if it keeps the configurations noted. -/
theorem InTune.call (hD : DecodesByConfiguration F D) (h : reader.InTune F D) {c : Call}
    (hkeeps : reader.KeepsCache F c) :
    reader.ReadsAsReopened F D c ∧ (OssVRSReader.call F D reader c).2.InTune F D := by
  cases htarget : reader.target F c with
  | none =>
    obtain ⟨hnone, hunread⟩ := reader.unread_of_target_eq_none F D htarget
    exact ⟨fun record k info hrecord => absurd (hnone.symm.trans hrecord) nofun,
      h.unread hunread hkeeps⟩
  | some k =>
    have hstart : (reader.cursorAt k).InTune F D :=
      ⟨⟨h.auto, h.filled.congr F rfl, h.cached⟩, h.noBlocks, h.coherent, h.captured⟩
    have hcall := reader.call_of_target F D htarget
    cases hrecord : F.index[k]? with
    | none =>
      -- a search that has come to the end
      rw [readNextRecordInternal_of_none F D _ hrecord] at hcall
      rw [hcall]
      refine ⟨fun record _ _ hreply => ?_, hstart⟩
      rw [hcall] at hreply
      cases hreply
    | some record =>
      obtain ⟨reader₁, htune₁, hsettings₁, hlast₁, hread⟩ :=
        hstart.readNextRecordInternal_eq hD (k := k) rfl hrecord
      rw [hread] at hcall
      have hcache : (OssVRSReader.call F D reader c).2.CacheInForce F :=
        (h.toCacheInForce.call F D ⟨_, congrArg Prod.fst hcall⟩ hkeeps).2
      rw [hcall] at hcache
      rw [hcall]
      refine ⟨fun _ k' info hreply hk' hinfo hshows => ?_, hcache, rfl,
        coherent_nativeReadRecord htune₁.coherent k record,
        htune₁.captured_nativeReadRecord hD hrecord⟩
      cases htarget.symm.trans hk'
      cases hrecord.symm.trans hinfo
      rw [hcall] at hreply
      cases hreply
      -- the same read, by a reader that has just opened the file
      have hk := (List.getElem?_eq_some_iff.1 hrecord).1
      have hcast : castUInt32 (.ofNat k) = k := castUInt32_ofNat (hk.trans F.length_index_lt)
      have hfresh : ((reader.reopened F).cursorAt k).InTune F D :=
        have h := reader.inTune_reopened F D
        ⟨⟨h.auto, h.filled.congr F rfl, h.cached⟩, h.noBlocks, h.coherent, h.captured⟩
      obtain ⟨reader₂, htune₂, hsettings₂, hlast₂, hread₂⟩ :=
        hfresh.readNextRecordInternal_eq hD (k := k) rfl hrecord
      have hopened : SameSettings (reader.cursorAt k) ((reader.reopened F).cursorAt k) :=
        ⟨rfl, rfl⟩
      have hsame := hsettings₁.trans (hopened.trans hsettings₂.symm)
      have hshows₁ : reader₁.ShowsNoHistory F record k :=
        ⟨hsettings₁.enabledStreams_eq ▸ hshows.enabled, hshows.configured, fun hdata => by
          rw [hsettings₁.playerSettings_eq]
          exact hshows.normalized hdata⟩
      have heq := htune₁.lastRecord_nativeReadRecord_eq hD htune₂ hsame hrecord hshows₁
        fun hdata t ht => ⟨hlast₁ hdata hshows.enabled t ht, hlast₂ hdata hshows.enabled t ht⟩
      have hcall₂ := (reader.reopened F).call_readRecord F D (.ofNat k) (by rwa [hcast])
      rw [hcast, hread₂, ← heq] at hcall₂
      rw [hcall₂]
      rfl

/-- **Reading in any order.** On a newly opened file with automatic configuration reads, in every
run of calls that keep the configurations noted, each record returned that shows no history is the
one that a reader which has just opened the file, with the same settings, returns for its index. -/
theorem random_access (hD : DecodesByConfiguration F D) (cs : List Call)
    (hrun : (OssVRSReader.call F D).Along (fun reader c => reader.KeepsCache F c)
      ((new true).open F) cs) :
    (OssVRSReader.call F D).Along (fun reader c => reader.ReadsAsReopened F D c)
      ((new true).open F) cs :=
  Machine.along_of_invariant (I := InTune F D) (fun _ _ h hkeeps => h.call hD hkeeps) cs
    (inTune_open F D) hrun

end OssVRSReader

/-! ## A file whose images depend on its configuration -/

section

open BaseVRSReaderStreamPlayer OssVRSReader

/-- `reconfiguredFile`, with metadata that are numbers. -/
def numberedFile : RecordFileReader numberLib :=
  .ofIndex numberLib reconfiguredFile.index reconfiguredFile.length_index_lt

/-- The configuration records of `numberedFile` hold their index, and the data records an image that
is read as the index of the configuration record given last. -/
def numberedNative : Native numberLib := fun reads i =>
  if numberedFile.index[i]?.any fun info => info.recordType = .configuration then
    ⟨1, [.dataLayout 0 (i : ℕ)], 0⟩
  else
    ⟨1, [.image 0 (.ofImage _ greyFrame.spec (some 2))
      ⟨2, fun _ => [((lastConfigHanded numberedFile ⟨1201, 1⟩ reads).getD 0).toUInt8, 0],
        some greyFrame⟩], 0⟩

theorem decodesByConfiguration_numberedFile :
    DecodesByConfiguration numberedFile numberedNative where
  status_eq reads i := by
    unfold numberedNative
    split <;> rfl
  delivery_eq reads reads' i info hinfo hlast := by
    have hindex : ∀ info ∈ numberedFile.index, info.streamId = ⟨1201, 1⟩ ∧
        (info.recordType = .configuration ∨ info.recordType = .data) := by decide
    obtain ⟨hstream, htype⟩ := hindex info (List.mem_of_getElem? hinfo)
    unfold numberedNative
    rw [hinfo]
    rcases htype with htype | htype
    · rw [if_pos (by exact decide_eq_true htype), if_pos (by exact decide_eq_true htype)]
    · have hsame := hlast htype
      rw [hstream] at hsame
      rw [hsame]
  metadata reads i info hinfo htype := by
    have hany : numberedFile.index[i]?.any (fun info => info.recordType = .configuration) := by
      rw [hinfo]
      exact decide_eq_true htype
    unfold numberedNative
    rw [if_pos hany]
    exact ⟨0, _, [], rfl, fun _ hc => absurd hc List.not_mem_nil⟩

/-- The data records of `numberedFile`, the second one first. -/
theorem random_access_numberedFile :
    (call numberedFile numberedNative).Along
      (fun reader c => reader.ReadsAsReopened numberedFile numberedNative c)
      ((new true).open numberedFile)
      [.enableAllStreams, .setImageConversion .normalize, .readRecord 3, .readRecord 1,
        .readRecord 3] := by
  refine random_access decodesByConfiguration_numberedFile _
    ⟨⟨nofun, fun s hs _ _ => if_pos hs⟩, ⟨nofun, fun _ _ h => absurd h List.not_mem_nil⟩, ⟨?_, ?_⟩,
      ⟨?_, ?_⟩, ⟨?_, ?_⟩, trivial⟩
  all_goals first
    | exact fun _ _ h => absurd h List.not_mem_nil
    | rintro k info htarget hinfo htype -
      cases htarget
      cases hinfo
      cases htype

end

end Pyvrs
