import Pyvrs.Reader.Calls

/-!
# The configuration records of a stream

`configIndex_` lists the positions of the configuration records of each stream in increasing order
(`mem_buildConfigIndex`, `pairwise_buildConfigIndex`), so the lookup of `readConfigurationRecord`
finds the greatest one below a position, the configuration in force there
(`lastBelow_buildConfigIndex`). The outcomes of an automatic configuration read follow.
-/

namespace Pyvrs

open Foundations

/-- The record at `k` is a configuration record of the stream `s`, the stream named as in the
record. -/
def IsConfigAt (getRecord : ℕ → Option RecordInfo) (s : StreamId) (k : ℕ) : Prop :=
  ∃ record, getRecord k = some record ∧ record.streamId = s ∧ record.recordType = .configuration

theorem isConfigAt_iff {getRecord : ℕ → Option RecordInfo} {k : ℕ} {record : RecordInfo}
    (h : getRecord k = some record) {s : StreamId} :
    IsConfigAt getRecord s k ↔ record.streamId = s ∧ record.recordType = .configuration :=
  ⟨fun ⟨_, hk, hrecord⟩ => by cases h.symm.trans hk; exact hrecord,
    fun hrecord => ⟨record, h, hrecord⟩⟩

theorem not_isConfigAt_of_eq_none {getRecord : ℕ → Option RecordInfo} {k : ℕ}
    (h : getRecord k = none) (s : StreamId) : ¬IsConfigAt getRecord s k :=
  fun ⟨_, hk, _⟩ => by simp [h] at hk

instance (getRecord : ℕ → Option RecordInfo) (s : StreamId) :
    DecidablePred (IsConfigAt getRecord s) := fun k =>
  match h : getRecord k with
  | none => .isFalse (not_isConfigAt_of_eq_none h s)
  | some _ => decidable_of_iff _ (isConfigAt_iff h).symm

section BuildConfigIndex

variable (getRecord : ℕ → Option RecordInfo) (recordCount : ℕ)

theorem addConfigIndex_apply (map : StreamId → List ℕ) (i : ℕ) (s : StreamId) :
    addConfigIndex getRecord map i s =
      map s ++ if IsConfigAt getRecord s i then [i] else [] := by
  cases hi : getRecord i with
  | none => simp [addConfigIndex, hi, not_isConfigAt_of_eq_none hi s]
  | some record =>
    by_cases htype : record.recordType = .configuration
    · by_cases hs : record.streamId = s
      · subst hs
        simp [addConfigIndex, hi, htype, isConfigAt_iff hi]
      · simp [addConfigIndex, hi, htype, isConfigAt_iff hi, hs, Function.update_of_ne (Ne.symm hs)]
    · simp [addConfigIndex, hi, htype, isConfigAt_iff hi]

theorem foldl_addConfigIndex (positions : List ℕ) (map : StreamId → List ℕ) (s : StreamId) :
    positions.foldl (addConfigIndex getRecord) map s =
      map s ++ positions.filter fun k => IsConfigAt getRecord s k := by
  induction positions generalizing map with
  | nil => simp
  | cons i positions ih =>
    rw [List.foldl_cons, ih, addConfigIndex_apply, List.filter_cons, List.append_assoc]
    by_cases h : IsConfigAt getRecord s i <;> simp [h]

theorem buildConfigIndex_eq (s : StreamId) :
    buildConfigIndex getRecord recordCount s =
      (List.range recordCount).filter fun k => IsConfigAt getRecord s k := by
  rw [buildConfigIndex, foldl_addConfigIndex, List.nil_append]

theorem pairwise_buildConfigIndex (s : StreamId) :
    (buildConfigIndex getRecord recordCount s).Pairwise (· < ·) := by
  rw [buildConfigIndex_eq]
  exact List.pairwise_lt_range.filter _

theorem mem_buildConfigIndex {s : StreamId} {k : ℕ} :
    k ∈ buildConfigIndex getRecord recordCount s ↔ k < recordCount ∧ IsConfigAt getRecord s k := by
  rw [buildConfigIndex_eq, List.mem_filter, List.mem_range, decide_eq_true_eq]

end BuildConfigIndex

/-- The positions below `i` of the configuration records of a stream. -/
def configsBelow (getRecord : ℕ → Option RecordInfo) (s : StreamId) (i : ℕ) : Set ℕ :=
  {k | IsConfigAt getRecord s k ∧ k < i}

/-- **The lookup in `configIndex_` finds the greatest configuration record below a position.** -/
theorem lastBelow_buildConfigIndex (getRecord : ℕ → Option RecordInfo) {recordCount i : ℕ}
    (hi : i ≤ recordCount) {s : StreamId} {t : ℕ} :
    lastBelow (buildConfigIndex getRecord recordCount s) i = some t ↔
      IsGreatest (configsBelow getRecord s i) t := by
  rw [lastBelow_eq_some_iff (pairwise_buildConfigIndex getRecord recordCount s)]
  have hset : {k | k ∈ buildConfigIndex getRecord recordCount s ∧ k < i} =
      configsBelow getRecord s i := by
    ext k
    simp only [Set.mem_ofPred_eq, mem_buildConfigIndex, configsBelow]
    constructor
    · rintro ⟨⟨-, h⟩, hk⟩
      exact ⟨h, hk⟩
    · rintro ⟨h, hk⟩
      exact ⟨⟨by omega, h⟩, hk⟩
  rw [hset]

/-- Nothing is to be read exactly when the configuration in force, if any, is the one noted. -/
theorem configurationToRead_eq_none_iff (getRecord : ℕ → Option RecordInfo) {recordCount i : ℕ}
    (hi : i ≤ recordCount) {lastReadConfigIndex : StreamId → ℕ} {s : StreamId} :
    configurationToRead (buildConfigIndex getRecord recordCount) lastReadConfigIndex s i = none ↔
      ∀ t, IsGreatest (configsBelow getRecord s i) t → lastReadConfigIndex s = t := by
  have hlookup := @lastBelow_buildConfigIndex getRecord recordCount i hi s
  unfold configurationToRead
  cases hlast : lastBelow (buildConfigIndex getRecord recordCount s) i with
  | none =>
    refine iff_of_true rfl fun t ht => ?_
    cases hlast.symm.trans (hlookup.2 ht)
  | some t =>
    have ht := hlookup.1 hlast
    simp only [ite_eq_left_iff, reduceCtorEq, imp_false, not_not]
    exact ⟨fun h t' ht' => h.trans (ht.unique ht'), fun h => h t ht⟩

theorem configurationToRead_eq_some_iff (getRecord : ℕ → Option RecordInfo) {recordCount i : ℕ}
    (hi : i ≤ recordCount) {lastReadConfigIndex : StreamId → ℕ} {s : StreamId} {t : ℕ} :
    configurationToRead (buildConfigIndex getRecord recordCount) lastReadConfigIndex s i = some t ↔
      IsGreatest (configsBelow getRecord s i) t ∧ lastReadConfigIndex s ≠ t := by
  have hlookup := @lastBelow_buildConfigIndex getRecord recordCount i hi s
  unfold configurationToRead
  cases hlast : lastBelow (buildConfigIndex getRecord recordCount s) i with
  | none =>
    refine iff_of_false nofun fun h => ?_
    cases hlast.symm.trans (hlookup.2 h.1)
  | some t' =>
    have ht' := hlookup.1 hlast
    by_cases hnoted : lastReadConfigIndex s = t'
    · simp only [if_pos hnoted]
      exact iff_of_false nofun fun h => h.2 (hnoted.trans (ht'.unique h.1))
    · simp only [if_neg hnoted, Option.some.injEq]
      constructor
      · rintro rfl
        exact ⟨ht', hnoted⟩
      · exact fun h => ht'.unique h.1

/-- A file with two configuration records of a stream, each with a data record after it. -/
def reconfiguredFile : RecordFileReader .bare :=
  .ofIndex .bare
    [⟨.ofRat 0, ⟨1201, 1⟩, .configuration⟩, ⟨.ofRat 1, ⟨1201, 1⟩, .data⟩,
      ⟨.ofRat 2, ⟨1201, 1⟩, .configuration⟩, ⟨.ofRat 3, ⟨1201, 1⟩, .data⟩] (by decide)

/-! ## The last read of a kind -/

/-- The position of the last native read of a kind. -/
def lastRead (p : NativeRead → Prop) [DecidablePred p] (reads : List NativeRead) : Option ℕ :=
  (reads.filter p).getLast?.map NativeRead.index

section LastRead

variable (p : NativeRead → Prop) [DecidablePred p]

theorem lastRead_append (reads : List NativeRead) (read : NativeRead) :
    lastRead p (reads ++ [read]) = if p read then some read.index else lastRead p reads := by
  unfold lastRead
  rw [List.filter_append, List.filter_singleton]
  split <;> rename_i h <;> simp [h]

/-- A last read that is also of a narrower kind is the last of that kind. -/
theorem lastRead_of_imp {q : NativeRead → Prop} [DecidablePred q] (himp : ∀ read, q read → p read)
    {t : ℕ} (ht : ∀ read, read.index = t → q read) {reads : List NativeRead}
    (h : lastRead p reads = some t) : lastRead q reads = some t := by
  induction reads using List.reverseRecOn with
  | nil => cases h
  | append_singleton reads read ih =>
    rw [lastRead_append] at h ⊢
    by_cases hp : p read
    · rw [if_pos hp, Option.some.injEq] at h
      rw [if_pos (ht read h), h]
    · rw [if_neg hp] at h
      rw [if_neg fun hq => hp (himp read hq)]
      exact ih h

end LastRead

theorem IsConfigAt.lt_length {L : VrsLib} {F : RecordFileReader L} {s : StreamId} {k : ℕ}
    (h : IsConfigAt (fun i => F.index[i]?) s k) : k < F.index.length := by
  obtain ⟨record, hrecord, -⟩ := h
  exact (List.getElem?_eq_some_iff.1 hrecord).1

/-- A position of the index is not the one `lastReadConfigIndex_` is opened with. -/
theorem IsConfigAt.ne_uint32Max {L : VrsLib} {F : RecordFileReader L} {s : StreamId} {k : ℕ}
    (h : IsConfigAt (fun i => F.index[i]?) s k) : k ≠ uint32Max := by
  have hlt := h.lt_length
  have hcount := F.length_index_lt
  unfold uint32Max
  omega

namespace OssVRSReader

variable {L : VrsLib} (F : RecordFileReader L) (D : Native L) (reader : OssVRSReader L)

/-- `configIndex_` is empty or filled from the index of the file. -/
def IndexFilled : Prop :=
  reader.filledConfigIndex F = buildConfigIndex (fun i => F.index[i]?) F.index.length

theorem indexFilled_of_eq_none (h : reader.configIndex = none) : reader.IndexFilled F := by
  simp only [IndexFilled, filledConfigIndex, h, Option.getD_none]

theorem IndexFilled.congr {reader reader' : OssVRSReader L} (h : reader.IndexFilled F)
    (he : reader'.configIndex = reader.configIndex) : reader'.IndexFilled F := by
  simpa only [IndexFilled, filledConfigIndex, he] using h

theorem IndexFilled.withConfigIndex (h : reader.IndexFilled F) :
    (reader.withConfigIndex F).IndexFilled F := by
  simpa only [IndexFilled, filledConfigIndex, OssVRSReader.withConfigIndex, Option.getD_some]
    using h

/-- The configuration in force at `i` in the stream `s`, if any, is the one noted as read last. -/
def UpToDate (s : StreamId) (i : ℕ) : Prop :=
  ∀ t, IsGreatest (configsBelow (fun k => F.index[k]?) s i) t → reader.lastReadConfigIndex s = t

/-- **The automatic configuration read**: either the configuration in force is noted as read, and
nothing is read, or it is read. -/
theorem readConfigurationRecord_cases (hfilled : reader.IndexFilled F) (s : StreamId) {i : ℕ}
    (hi : i ≤ F.index.length) :
    (reader.UpToDate F s i ∧
      reader.readConfigurationRecord F D s i = (.ok (), reader.withConfigIndex F)) ∨
    ∃ t record, IsGreatest (configsBelow (fun k => F.index[k]?) s i) t ∧
      reader.lastReadConfigIndex s ≠ t ∧ F.index[t]? = some record ∧
      reader.readConfigurationRecord F D s i =
        (reader.withConfigIndex F).readConfigurationAt D s t record := by
  unfold readConfigurationRecord
  cases htoRead :
      configurationToRead (reader.filledConfigIndex F) reader.lastReadConfigIndex s i with
  | none =>
    rw [hfilled, configurationToRead_eq_none_iff _ hi] at htoRead
    exact .inl ⟨htoRead, rfl⟩
  | some t =>
    rw [hfilled, configurationToRead_eq_some_iff _ hi] at htoRead
    obtain ⟨hgreatest, hne⟩ := htoRead
    obtain ⟨record, hrecord, -⟩ := hgreatest.1.1
    refine .inr ⟨t, record, hgreatest, hne, hrecord, ?_⟩
    simp only [hrecord]

theorem autoReadConfiguration_of_ne {record : RecordInfo} (h : record.recordType ≠ .data) :
    reader.autoReadConfiguration F D record = (.ok (), reader) :=
  if_neg fun hauto => h hauto.2

theorem autoReadConfiguration_of_data {record : RecordInfo}
    (hauto : reader.autoReadConfigurationRecord = true) (hdata : record.recordType = .data) :
    reader.autoReadConfiguration F D record =
      reader.readConfigurationRecord F D record.streamId reader.nextRecordIndex :=
  if_pos ⟨hauto, hdata⟩

/-! ## What an automatic configuration read leaves alone -/

section Frame

variable (s : StreamId) (i : ℕ) (record : RecordInfo)

@[simp] theorem readConfigurationAt_nextRecordIndex :
    (reader.readConfigurationAt D s i record).2.nextRecordIndex = reader.nextRecordIndex := by
  by_cases h : (D reader.nativeReads i).status = 0
  · rw [readConfigurationAt_of_eq D reader i record s h]
    rfl
  · rw [readConfigurationAt_of_ne D reader i record s h]
    rfl

@[simp] theorem readConfigurationAt_enabledStreams :
    (reader.readConfigurationAt D s i record).2.enabledStreams = reader.enabledStreams := by
  by_cases h : (D reader.nativeReads i).status = 0
  · rw [readConfigurationAt_of_eq D reader i record s h]
    rfl
  · rw [readConfigurationAt_of_ne D reader i record s h]
    rfl

theorem readConfigurationRecord_frame :
    (reader.readConfigurationRecord F D s i).2.nextRecordIndex = reader.nextRecordIndex ∧
      (reader.readConfigurationRecord F D s i).2.enabledStreams = reader.enabledStreams := by
  unfold readConfigurationRecord
  simp only
  split
  · exact ⟨rfl, rfl⟩
  · split
    · exact ⟨rfl, rfl⟩
    · simp only [readConfigurationAt_nextRecordIndex, readConfigurationAt_enabledStreams]
      exact ⟨rfl, rfl⟩

theorem autoReadConfiguration_frame :
    (reader.autoReadConfiguration F D record).2.nextRecordIndex = reader.nextRecordIndex ∧
      (reader.autoReadConfiguration F D record).2.enabledStreams = reader.enabledStreams := by
  unfold autoReadConfiguration
  split
  · exact reader.readConfigurationRecord_frame F D _ _
  · exact ⟨rfl, rfl⟩

end Frame

end OssVRSReader

end Pyvrs
