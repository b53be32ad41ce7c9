import Pyvrs.Reader.ConfigRecords

/-!
# What one read leaves to the next

The cache `lastRecord_` is emptied by a successful read only. A native read that fails after the
player has received content blocks leaves them there, and the next record read gets them too,
unless an automatic configuration read clears the cache first; and the format version of the cache
is only set for the records of enabled streams. `no_leakage_iff` says when a record is the same as
on a reader that has read nothing before.
-/

namespace Pyvrs

open Foundations

/-! ## Playing into a cache -/

namespace Playing

variable {L : VrsLib} (settings : PlayerSettings) (record : CurrentRecord)

/-- `setBlock` tells vrs the same and leaves the player the same whatever blocks there are. -/
theorem setBlock_congr (player : BaseVRSReaderStreamPlayer L) (blocks blocks' : List _)
    (blockIndex : ℕ) (cb : ContentBlock L) (reader : BlockReader) :
    (player.setBlock settings blocks record blockIndex cb reader).1 =
        (player.setBlock settings blocks' record blockIndex cb reader).1 ∧
      (player.setBlock settings blocks record blockIndex cb reader).2.2 =
        (player.setBlock settings blocks' record blockIndex cb reader).2.2 := by
  unfold BaseVRSReaderStreamPlayer.setBlock
  rcases cb.blockSize with _ | _ | size <;> exact ⟨rfl, rfl⟩

theorem setBlock_ne_nil (player : BaseVRSReaderStreamPlayer L) (blocks : List _)
    (blockIndex : ℕ) (cb : ContentBlock L) (reader : BlockReader) :
    (player.setBlock settings blocks record blockIndex cb reader).2.1 ≠ [] := by
  unfold BaseVRSReaderStreamPlayer.setBlock
  rcases cb.blockSize with _ | _ | size <;> simp

/-- A callback tells vrs the same and leaves the player the same whatever the cache holds. -/
theorem onCallback_congr (c : Callback L) {st st' : Playing L} (h : st.player = st'.player) :
    (st.onCallback settings record c).1 = (st'.onCallback settings record c).1 ∧
      (st.onCallback settings record c).2.player =
        (st'.onCallback settings record c).2.player := by
  obtain ⟨cache, player⟩ := st
  obtain ⟨cache', player'⟩ := st'
  cases h
  cases c with
  | dataLayout i dl => exact ⟨rfl, rfl⟩
  | image i cb reader | audio i cb reader | custom i cb reader | unsupported i cb reader =>
    exact setBlock_congr settings record player _ _ i cb reader

theorem onCallbacks_player_congr (cs : List (Callback L)) {st st' : Playing L}
    (h : st.player = st'.player) :
    (st.onCallbacks settings record cs).player = (st'.onCallbacks settings record cs).player := by
  induction cs generalizing st st' with
  | nil => exact h
  | cons c cs ih =>
    obtain ⟨hmore, hplayer⟩ := onCallback_congr settings record c h
    rw [onCallbacks_cons, onCallbacks_cons, ← hmore]
    split
    · exact ih hplayer
    · exact hplayer

theorem play_player_congr (cs : List (Callback L)) {st st' : Playing L}
    (h : st.player = st'.player) :
    (st.play settings record cs).player = (st'.play settings record cs).player :=
  onCallbacks_player_congr settings record cs h

/-- Every callback leaves a block in the cache. -/
theorem not_noBlocks_onCallback (st : Playing L) (c : Callback L) :
    ¬(st.onCallback settings record c).2.cache.NoBlocks := by
  intro h
  cases c with
  | dataLayout i dl =>
    have hnil := congrArg RecordCache.datalayoutBlocks h
    simp [onCallback, onDataLayoutRead, RecordCache.empty] at hnil
  | image i cb reader =>
    exact setBlock_ne_nil settings record _ _ i cb reader (congrArg RecordCache.images h)
  | audio i cb reader =>
    exact setBlock_ne_nil settings record _ _ i cb reader (congrArg RecordCache.audioBlocks h)
  | custom i cb reader =>
    exact setBlock_ne_nil settings record _ _ i cb reader (congrArg RecordCache.customBlocks h)
  | unsupported i cb reader =>
    exact setBlock_ne_nil settings record _ _ i cb reader
      (congrArg RecordCache.unsupportedBlocks h)

theorem not_noBlocks_onCallbacks {st : Playing L} (h : ¬st.cache.NoBlocks)
    (cs : List (Callback L)) : ¬(st.onCallbacks settings record cs).cache.NoBlocks := by
  induction cs generalizing st with
  | nil => exact h
  | cons c cs ih =>
    have hc := not_noBlocks_onCallback settings record st c
    rw [onCallbacks_cons]
    split
    · exact ih hc
    · exact hc

/-- Playing leaves no block only where there was none and vrs delivers none. -/
theorem noBlocks_play_iff (st : Playing L) (cs : List (Callback L)) :
    (st.play settings record cs).cache.NoBlocks ↔ st.cache.NoBlocks ∧ cs = [] := by
  have hheader : (st.processRecordHeader record).cache.NoBlocks ↔ st.cache.NoBlocks := by
    simp [processRecordHeader, RecordCache.NoBlocks, RecordCache.empty, RecordCache.ext_iff]
  cases cs with
  | nil => simpa [play, onCallbacks] using hheader
  | cons c cs =>
    refine iff_of_false ?_ (fun h => List.cons_ne_nil _ _ h.2)
    have hc := not_noBlocks_onCallback settings record (st.processRecordHeader record) c
    rw [play, onCallbacks_cons]
    split
    · exact not_noBlocks_onCallbacks settings record hc cs
    · exact hc

/-- Played into a cache without blocks, a record leaves no trace of the version held before. -/
theorem play_congr_of_noBlocks (cs : List (Callback L)) {st : Playing L}
    (h : st.cache.NoBlocks) (version : ℕ) :
    st.play settings record cs =
      (⟨.empty version, st.player⟩ : Playing L).play settings record cs := by
  have hheader : st.processRecordHeader record =
      (⟨.empty version, st.player⟩ : Playing L).processRecordHeader record := by
    unfold processRecordHeader
    rw [h]
    rfl
  rw [play, play, hheader]

end Playing

namespace OssVRSReader

variable {L : VrsLib} (F : RecordFileReader L) (D : Native L) (reader : OssVRSReader L)

/-! ## What failed reads leave -/

/-- Since the last native read that succeeded, no failed one delivered content blocks to the
player. -/
def Clean (reads : List NativeRead) : Prop :=
  ∀ before read after, reads = before ++ read :: after →
    (∀ later ∈ read :: after, later.status ≠ 0) → read.handed = true →
    (D before read.index).callbacks = []

theorem clean_append (reads : List NativeRead) (read : NativeRead) :
    Clean D (reads ++ [read]) ↔
      read.status = 0 ∨
        Clean D reads ∧ (read.handed = true → (D reads read.index).callbacks = []) := by
  constructor
  · intro h
    rw [or_iff_not_imp_left]
    intro hstatus
    refine ⟨fun before read' after hreads hfailed => ?_,
      h reads read [] rfl (by simpa using hstatus)⟩
    refine h before read' (after ++ [read]) (by rw [hreads, List.append_assoc, List.cons_append]) ?_
    intro later hlater
    rw [← List.cons_append, List.mem_append, List.mem_singleton] at hlater
    rcases hlater with hlater | rfl
    · exact hfailed later hlater
    · exact hstatus
  · rintro h before read' after hreads hfailed hhanded
    rcases List.eq_nil_or_concat after with rfl | ⟨after, last, rfl⟩
    · obtain ⟨rfl, hread⟩ := List.append_inj' hreads rfl
      cases hread
      rcases h with h | h
      · exact absurd h (hfailed read List.mem_cons_self)
      · exact h.2 hhanded
    · rw [List.concat_eq_append, ← List.cons_append, ← List.append_assoc] at hreads
      obtain ⟨rfl, hread⟩ := List.append_inj' hreads rfl
      cases hread
      rw [List.concat_eq_append] at hfailed
      rcases h with h | h
      · exact absurd h (hfailed read (by simp))
      · refine h.1 before read' after rfl (fun later hlater => hfailed later ?_) hhanded
        rw [← List.cons_append, List.mem_append]
        exact .inl hlater

/-- What every call keeps track of: the cache has blocks exactly when failed reads left some. -/
structure Tracked : Prop where
  filled : reader.IndexFilled F
  noBlocks_iff : reader.lastRecord.NoBlocks ↔ Clean D reader.nativeReads

theorem tracked_open (autoReadConfigurationRecord : Bool) :
    Tracked F D ((new autoReadConfigurationRecord).open F) where
  filled := indexFilled_of_eq_none F _ rfl
  noBlocks_iff := iff_of_true rfl fun before read after h => by simp [«open», new] at h

theorem noBlocks_nativeReadRecord (i : ℕ) (record : RecordInfo) :
    (reader.nativeReadRecord D i record).2.lastRecord.NoBlocks ↔
      reader.lastRecord.NoBlocks ∧
        (record.streamId ∈ reader.enabledStreams → (D reader.nativeReads i).callbacks = []) := by
  unfold nativeReadRecord
  by_cases hen : record.streamId ∈ reader.enabledStreams
  · simp only [hen, decide_true, if_true, Playing.noBlocks_play_iff, true_imp_iff]
  · simp only [hen, decide_false, Bool.false_eq_true, if_false, false_imp_iff, and_true]

variable {F D reader}

/-- A failed native read keeps track of what it leaves. -/
theorem Tracked.nativeReadRecord (h : reader.Tracked F D) {i : ℕ} {record : RecordInfo}
    (hstatus : (D reader.nativeReads i).status ≠ 0) :
    (reader.nativeReadRecord D i record).2.Tracked F D where
  filled := h.filled.congr F rfl
  noBlocks_iff := by
    rw [noBlocks_nativeReadRecord, nativeReadRecord_nativeReads, clean_append, h.noBlocks_iff]
    simp only [hstatus, false_or, decide_eq_true_eq]

theorem Tracked.readConfigurationAt (h : reader.Tracked F D) (s : StreamId) (i : ℕ)
    (record : RecordInfo) : (reader.readConfigurationAt D s i record).2.Tracked F D := by
  by_cases hstatus : (D reader.nativeReads i).status = 0
  · rw [readConfigurationAt_of_eq D reader i record s hstatus]
    refine ⟨h.filled.congr F rfl, iff_of_true rfl ?_⟩
    exact (clean_append D _ _).2 (.inl hstatus)
  · rw [readConfigurationAt_of_ne D reader i record s hstatus]
    exact h.nativeReadRecord hstatus

theorem Tracked.withConfigIndex (h : reader.Tracked F D) :
    (reader.withConfigIndex F).Tracked F D :=
  ⟨h.filled.withConfigIndex, h.noBlocks_iff⟩

theorem Tracked.autoReadConfiguration (h : reader.Tracked F D) {record : RecordInfo}
    (hle : reader.nextRecordIndex ≤ F.index.length) :
    (reader.autoReadConfiguration F D record).2.Tracked F D := by
  unfold OssVRSReader.autoReadConfiguration
  split
  · rcases reader.readConfigurationRecord_cases F D h.filled record.streamId hle with
      ⟨-, heq⟩ | ⟨t, info, -, -, -, heq⟩
    · rw [heq]
      exact h.withConfigIndex
    · rw [heq]
      exact h.withConfigIndex.readConfigurationAt _ t info
  · exact h

theorem Tracked.readThisRecord (h : reader.Tracked F D) (record : RecordInfo) :
    (reader.readThisRecord D record).2.Tracked F D := by
  by_cases hstatus : (D reader.nativeReads reader.nextRecordIndex).status = 0
  · rw [readThisRecord_of_eq D reader record hstatus]
    refine ⟨h.filled.congr F rfl, iff_of_true rfl ?_⟩
    exact (clean_append D _ _).2 (.inl hstatus)
  · rw [readThisRecord_of_ne D reader record hstatus]
    exact h.nativeReadRecord hstatus

theorem Tracked.readNextRecordInternal (h : reader.Tracked F D) :
    (reader.readNextRecordInternal F D).2.Tracked F D := by
  unfold OssVRSReader.readNextRecordInternal
  split
  · exact h
  · rename_i record hrecord
    have hauto : (reader.autoReadConfiguration F D record).2.Tracked F D :=
      h.autoReadConfiguration (List.getElem?_eq_some_iff.1 hrecord).1.le
    split
    · rename_i heq
      rwa [heq] at hauto
    · rename_i reader₁ heq
      rw [heq] at hauto
      exact hauto.readThisRecord record

theorem Tracked.call (h : reader.Tracked F D) (c : Call) :
    (OssVRSReader.call F D reader c).2.Tracked F D := by
  cases htarget : reader.target F c with
  | none =>
    obtain ⟨-, hunread⟩ := reader.unread_of_target_eq_none F D htarget
    refine ⟨h.filled.congr F hunread.configIndex_eq, ?_⟩
    rw [hunread.lastRecord_eq, hunread.nativeReads_eq]
    exact h.noBlocks_iff
  | some k =>
    rw [reader.call_of_target F D htarget]
    have hstart : (reader.cursorAt k).Tracked F D := ⟨h.filled.congr F rfl, h.noBlocks_iff⟩
    exact hstart.readNextRecordInternal

/-! ## Two runs -/

variable (F D reader)

/-- The reader as if it had read nothing before: its cache is new, with an indeterminate format
version. What it decodes with is the same, so that it receives the same callbacks. -/
def withNewCache (version : ℕ) : OssVRSReader L := { reader with lastRecord := .empty version }

/-- Reading the record at `k` begins with an automatic configuration read. -/
def ReadsConfiguration (record : RecordInfo) (k : ℕ) : Prop :=
  reader.autoReadConfigurationRecord = true ∧ record.recordType = .data ∧
    ¬reader.UpToDate F record.streamId k

/-- The reader after an automatic configuration read that finds nothing to read. -/
def configured (record : RecordInfo) : OssVRSReader L :=
  if reader.autoReadConfigurationRecord ∧ record.recordType = .data then reader.withConfigIndex F
  else reader

theorem configured_withNewCache (record : RecordInfo) (version : ℕ) :
    (reader.withNewCache version).configured F record =
      (reader.configured F record).withNewCache version := by
  unfold configured withNewCache
  split <;> rfl

theorem streamPlayer_nativeReadRecord_withNewCache (i : ℕ) (record : RecordInfo) (version : ℕ) :
    ((reader.withNewCache version).nativeReadRecord D i record).2.streamPlayer =
      (reader.nativeReadRecord D i record).2.streamPlayer := by
  unfold nativeReadRecord withNewCache
  by_cases hen : record.streamId ∈ reader.enabledStreams
  · simp only [hen, decide_true, if_true]
    exact Playing.play_player_congr _ _ _ rfl
  · simp only [hen, decide_false, Bool.false_eq_true, if_false]

theorem configurationRead_withNewCache (s : StreamId) (i : ℕ) (record : RecordInfo)
    (version : ℕ) :
    ((reader.withNewCache version).nativeReadRecord D i record).2.configurationRead s i =
      (reader.nativeReadRecord D i record).2.configurationRead s i :=
  congrArg (fun player => { (reader.nativeReadRecord D i record).2.configurationRead s i with
    streamPlayer := player })
    (reader.streamPlayer_nativeReadRecord_withNewCache D i record version)

variable {F reader}

theorem autoReadConfiguration_of_not_reads (hfilled : reader.IndexFilled F) {record : RecordInfo}
    (hle : reader.nextRecordIndex ≤ F.index.length)
    (h : ¬reader.ReadsConfiguration F record reader.nextRecordIndex) :
    reader.autoReadConfiguration F D record = (.ok (), reader.configured F record) := by
  unfold autoReadConfiguration configured
  split
  · rename_i hauto
    rcases reader.readConfigurationRecord_cases F D hfilled record.streamId hle with
      ⟨-, heq⟩ | ⟨t, info, hgreatest, hne, -, -⟩
    · exact heq
    · exact absurd ⟨hauto.1, hauto.2, fun hup => hne (hup t hgreatest)⟩ h
  · rfl

/-- Once a configuration is read automatically, nothing of the cache before is left. -/
theorem autoReadConfiguration_withNewCache (hfilled : reader.IndexFilled F) {record : RecordInfo}
    (hle : reader.nextRecordIndex ≤ F.index.length)
    (h : reader.ReadsConfiguration F record reader.nextRecordIndex) (version : ℕ)
    {reader₁ : OssVRSReader L}
    (hok : reader.autoReadConfiguration F D record = (.ok (), reader₁)) :
    (reader.withNewCache version).autoReadConfiguration F D record = (.ok (), reader₁) := by
  obtain ⟨hauto, hdata, hnotup⟩ := h
  have hauto' : (reader.withNewCache version).autoReadConfigurationRecord = true := hauto
  have hfilled' : (reader.withNewCache version).IndexFilled F := hfilled.congr F rfl
  rw [autoReadConfiguration_of_data F D _ hauto hdata] at hok
  rw [autoReadConfiguration_of_data F D _ hauto' hdata]
  rcases reader.readConfigurationRecord_cases F D hfilled record.streamId hle with
    ⟨hup, -⟩ | ⟨t, info, ht, -, hinfo, heq⟩
  · exact absurd hup hnotup
  rcases (reader.withNewCache version).readConfigurationRecord_cases F D hfilled' record.streamId
    hle with ⟨hup, -⟩ | ⟨t', info', ht', -, hinfo', heq'⟩
  · exact absurd hup hnotup
  cases ht.unique ht'
  cases hinfo.symm.trans hinfo'
  obtain ⟨hstatus, rfl⟩ := readConfigurationAt_eq_ok D _ t info (heq.symm.trans hok)
  refine heq'.trans ((readConfigurationAt_of_eq D ((reader.withNewCache version).withConfigIndex F)
    t info _ hstatus).trans ?_)
  exact congrArg (Prod.mk _)
    ((reader.withConfigIndex F).configurationRead_withNewCache D record.streamId t info version)

/-- A record of an enabled stream is the same whatever version an empty cache held before. -/
theorem readThisRecord_withNewCache (hcache : reader.lastRecord.NoBlocks) {record : RecordInfo}
    (hen : record.streamId ∈ reader.enabledStreams) (version : ℕ) :
    (reader.withNewCache version).readThisRecord D record = reader.readThisRecord D record := by
  have hread : (reader.withNewCache version).nativeReadRecord D reader.nextRecordIndex record =
      reader.nativeReadRecord D reader.nextRecordIndex record := by
    have hplay : ∀ settings current callbacks,
        (⟨reader.lastRecord, reader.streamPlayer⟩ : Playing L).play settings current callbacks =
          (⟨.empty version, reader.streamPlayer⟩ : Playing L).play settings current callbacks :=
      fun settings current callbacks =>
        Playing.play_congr_of_noBlocks settings current callbacks hcache version
    unfold nativeReadRecord withNewCache
    simp only [hen, decide_true, if_true, hplay]
    rfl
  have hcursor : (reader.withNewCache version).nextRecordIndex = reader.nextRecordIndex := rfl
  simp only [readThisRecord, hcursor, hread]

theorem configured_lastRecord (record : RecordInfo) :
    (reader.configured F record).lastRecord = reader.lastRecord := by
  unfold configured
  split <;> rfl

theorem configured_enabledStreams (record : RecordInfo) :
    (reader.configured F record).enabledStreams = reader.enabledStreams := by
  unfold configured
  split <;> rfl

theorem configured_nextRecordIndex (record : RecordInfo) :
    (reader.configured F record).nextRecordIndex = reader.nextRecordIndex := by
  unfold configured
  split <;> rfl

theorem readNextRecordInternal_withNewCache (hfilled : reader.IndexFilled F)
    (h : ∀ info, F.index[reader.nextRecordIndex]? = some info →
      reader.ReadsConfiguration F info reader.nextRecordIndex ∨
        info.streamId ∈ reader.enabledStreams ∧ reader.lastRecord.NoBlocks)
    {record : PyRecord L} {reader' : OssVRSReader L} (version : ℕ)
    (hok : reader.readNextRecordInternal F D = (.ok record, reader')) :
    (reader.withNewCache version).readNextRecordInternal F D = (.ok record, reader') := by
  obtain ⟨info, reader₁, hinfo, hauto, hthis⟩ := reader.readNextRecordInternal_eq_ok F D hok
  have hle := (List.getElem?_eq_some_iff.1 hinfo).1.le
  have hinfo' : F.index[(reader.withNewCache version).nextRecordIndex]? = some info := hinfo
  by_cases hreads : reader.ReadsConfiguration F info reader.nextRecordIndex
  · have hauto' := autoReadConfiguration_withNewCache D hfilled hle hreads version hauto
    simp only [readNextRecordInternal, hinfo', hauto', hthis]
  · obtain ⟨hen, hcache⟩ := (h info hinfo).resolve_left hreads
    rw [autoReadConfiguration_of_not_reads D hfilled hle hreads] at hauto
    cases hauto
    have hfilled' : (reader.withNewCache version).IndexFilled F := hfilled.congr F rfl
    have hauto' := autoReadConfiguration_of_not_reads D hfilled' hle hreads
    have hcache' : (reader.configured F info).lastRecord.NoBlocks := by
      rwa [configured_lastRecord]
    have hen' : info.streamId ∈ (reader.configured F info).enabledStreams := by
      rwa [configured_enabledStreams]
    have hthis' := readThisRecord_withNewCache D hcache' hen' version
    rw [configured_withNewCache] at hauto'
    simp only [readNextRecordInternal, hinfo', hauto', hthis', hthis]

/-- A record for which vrs delivers nothing is returned with what the cache holds. -/
theorem readNextRecordInternal_blank (hfilled : reader.IndexFilled F) {info : RecordInfo}
    (hinfo : F.index[reader.nextRecordIndex]? = some info)
    (hreads : ¬reader.ReadsConfiguration F info reader.nextRecordIndex) :
    (reader.readNextRecordInternal F (.blank L)).1 =
      .ok (.ofCache info reader.nextRecordIndex
        (if info.streamId ∈ reader.enabledStreams then { reader.lastRecord with
          recordFormatVersion := 1 } else reader.lastRecord)) := by
  have hle := (List.getElem?_eq_some_iff.1 hinfo).1.le
  have hauto := autoReadConfiguration_of_not_reads (.blank L) hfilled hle hreads
  have hthis := (reader.configured F info).readThisRecord_of_eq (.blank L) info rfl
  have hcache : ((reader.configured F info).nativeReadRecord (.blank L)
      (reader.configured F info).nextRecordIndex info).2.lastRecord =
      if info.streamId ∈ reader.enabledStreams then { reader.lastRecord with
        recordFormatVersion := 1 } else reader.lastRecord := by
    unfold nativeReadRecord
    rw [configured_lastRecord, configured_enabledStreams]
    by_cases hen : info.streamId ∈ reader.enabledStreams
    · simp only [hen, decide_true, if_true]
      rfl
    · simp only [hen, decide_false, Bool.false_eq_true, if_false]
  rw [hcache, configured_nextRecordIndex] at hthis
  simp only [readNextRecordInternal, hinfo, hauto, hthis]

/-- **When no block leaks.** After any run, the record returned by a successful `readRecord` is, for
whatever the native reads to come deliver, the one that a reader with a new cache returns, exactly
when the call reads a configuration first, or the record is one of an enabled stream and no failed
read has left blocks since the last successful one. -/
theorem no_leakage_iff (F : RecordFileReader L) (D : Native L) (autoReadConfigurationRecord : Bool)
    (cs : List Call) (index : Int32) :
    let reader := (call F D).exec ((new autoReadConfigurationRecord).open F) cs
    (∀ (D' : Native L) (version : ℕ) (record : PyRecord L),
      (call F D' reader (.readRecord index)).1 = .ok (.record record) →
      (call F D' (reader.withNewCache version) (.readRecord index)).1 = .ok (.record record)) ↔
    ∀ info, F.index[castUInt32 index]? = some info →
      reader.ReadsConfiguration F info (castUInt32 index) ∨
        info.streamId ∈ reader.enabledStreams ∧ Clean D reader.nativeReads := by
  intro reader
  have htracked : reader.Tracked F D :=
    Machine.exec_of_invariant (I := Tracked F D) (fun _ c h => h.call c) (tracked_open F D _) cs
  have hfilled : (reader.cursorAt (castUInt32 index)).IndexFilled F := htracked.filled.congr F rfl
  constructor
  · intro h info hinfo
    rw [or_iff_not_imp_left]
    intro hreads
    have hlt := (List.getElem?_eq_some_iff.1 hinfo).1
    have hblank := readNextRecordInternal_blank hfilled hinfo hreads
    have hsame : ∀ version, _ := fun version => by
      have hcall := h (.blank L) version
      have hfilled' : ((reader.withNewCache version).cursorAt (castUInt32 index)).IndexFilled F :=
        hfilled.congr F rfl
      have hblank' := readNextRecordInternal_blank hfilled' hinfo hreads
      rw [call_readRecord _ _ _ _ hlt, call_readRecord _ _ _ _ hlt, answer, answer, hblank,
        hblank'] at hcall
      exact PyRecord.ofCache_inj.1 (Value.record.inj (Except.ok.inj (hcall _ rfl)))
    by_cases hen : info.streamId ∈ reader.enabledStreams
    · refine ⟨hen, htracked.noBlocks_iff.1 ?_⟩
      have hcache := (if_pos hen).symm.trans ((hsame 0).symm.trans (if_pos hen))
      obtain ⟨-, hmeta, himages, haudio, hcustom, hunsupported⟩ := RecordCache.ext_iff.1 hcache
      exact RecordCache.ext rfl hmeta himages haudio hcustom hunsupported
    · have hzero := (if_neg hen).symm.trans ((hsame 0).trans (if_neg hen))
      have hone := (if_neg hen).symm.trans ((hsame 1).trans (if_neg hen))
      have habsurd := congrArg RecordCache.recordFormatVersion (hzero.trans hone.symm)
      cases habsurd
  · intro h D' version record hcall
    have hlt := lt_length_of_call_readRecord F D' reader hcall
    rw [call_readRecord _ _ _ _ hlt] at hcall ⊢
    rcases hread : (reader.cursorAt (castUInt32 index)).readNextRecordInternal F D' with
      ⟨result, reader'⟩
    rw [hread] at hcall
    cases result with
    | error e => cases hcall
    | ok r =>
      have hnew := readNextRecordInternal_withNewCache D' hfilled
        (fun info hinfo => (h info hinfo).imp_right fun hclean =>
          ⟨hclean.1, htracked.noBlocks_iff.2 hclean.2⟩) version hread
      rw [← hcall]
      exact congrArg (fun result => (answer Value.record result).1) hnew

/-- A file with a state record and a data record of one stream. -/
def stateThenDataFile : RecordFileReader .bare :=
  .ofIndex .bare [⟨.ofRat 0, ⟨1201, 1⟩, .state⟩, ⟨.ofRat 1, ⟨1201, 1⟩, .data⟩] (by decide)

/-- Every record delivers one datalayout; reading the record at 0 then fails. -/
def failingStateRead : Native .bare := fun _ i => ⟨1, [.dataLayout 0 ()], if i = 0 then 1 else 0⟩

/-- The datalayout of a record that could not be read is returned with the next one. -/
theorem leakage_after_failed_read :
    ¬∀ (L : VrsLib) (F : RecordFileReader L) (D : Native L) (autoReadConfigurationRecord : Bool)
      (cs : List Call) (index : Int32) (version : ℕ) (record : PyRecord L),
      let reader := (call F D).exec ((new autoReadConfigurationRecord).open F) cs
      (call F D reader (.readRecord index)).1 = .ok (.record record) →
      (call F D (reader.withNewCache version) (.readRecord index)).1 = .ok (.record record) := by
  intro h
  have hsame := h .bare stateThenDataFile failingStateRead false [.enableAllStreams, .readRecord 0]
    1 0 _ rfl
  have hcount := congrArg (fun reply => (recordOf reply).map fun record =>
    record.datalayoutBlocks.length) hsame
  exact absurd hcount (by decide)

end OssVRSReader

end Pyvrs
