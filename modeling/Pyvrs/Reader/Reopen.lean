import Pyvrs.Reader.Leakage
import Pyvrs.Reader.RecordSummaries

/-!
# Reopening a reader

`open` puts the cursor back and forgets which configurations were read last, but leaves the
summaries and `configIndex_` as they are, and these are only filled while they are empty. What was
asked of a reader on one file thus decides what it answers on the next: its answers there are those
of a new reader exactly when every cache left filled holds what the new index gives
(`reopen_afresh_iff`).
-/

namespace Pyvrs

open Foundations

/-- `OssVRSReader` with its summaries. -/
structure SummarizedReader (L : VrsLib) where
  reader : OssVRSReader L
  summaries : RecordSummaries

/-- What is done with a reader on one file: calls and queries. -/
inductive HistoryCall
  | call (c : Call)
  | query (c : SummaryCall)
  deriving DecidableEq

/-- What is asked of a reader that was opened: the queries, and which configuration record
`readConfigurationRecord` selects for a DATA record. -/
inductive Question
  | query (c : SummaryCall)
  | configuration (idx : ℕ)
  deriving DecidableEq

/-- What is answered. -/
inductive Answer
  | summary (reply : Except PyError SummaryValue)
  | configuration (it : Option ℕ)

/-- The configuration record that `readConfigurationRecord` selects, to be read unless it is the one
noted as read last. -/
def OssVRSReader.selectedConfiguration {L : VrsLib} (F : RecordFileReader L)
    (reader : OssVRSReader L) (streamId : StreamId) (idx : ℕ) : Option ℕ :=
  lastBelow (reader.filledConfigIndex F streamId) idx

namespace SummarizedReader

variable {L : VrsLib}

/-- `OssVRSReader(autoReadConfigurationRecord)`. -/
def new (autoReadConfigurationRecord : Bool) : SummarizedReader L :=
  ⟨.new autoReadConfigurationRecord, .new⟩

variable (F : RecordFileReader L) (D : Native L) (r : SummarizedReader L)

/-- `open`: the summaries stay. -/
def «open» : SummarizedReader L := { r with reader := r.reader.open F }

/-- The reader after a query. -/
def query (c : SummaryCall) : Except PyError SummaryValue × SummarizedReader L :=
  let (reply, summaries) :=
    RecordSummaries.call L F.summarySource (OssVRSReader.getStreamId F) r.summaries c
  (reply, { r with summaries })

/-- One call or query on the file that is open. -/
def call : Machine (SummarizedReader L) HistoryCall (Reply L ⊕ Except PyError SummaryValue)
  | r, .call c =>
    let (reply, reader) := OssVRSReader.call F D r.reader c
    (.inl reply, { r with reader })
  | r, .query c =>
    let (reply, r) := r.query F c
    (.inr reply, r)

/-- One question on the file that is open. -/
def ask : Machine (SummarizedReader L) Question Answer
  | r, .query c =>
    let (reply, r) := r.query F c
    (.summary reply, r)
  | r, .configuration idx =>
    match F.index[idx]? with
    | none => (.configuration none, r)
    | some record =>
      if record.recordType = .data then
        (.configuration (r.reader.selectedConfiguration F record.streamId idx),
          { r with reader := (r.reader.readConfigurationRecord F D record.streamId idx).2 })
      else (.configuration none, r)

end SummarizedReader

/-! ## What the summaries hold -/

namespace RecordSummaries

variable {L : VrsLib} {source : SummarySource} {getStreamId : String → Except PyError StreamId}
  {summaries summaries' : RecordSummaries}

theorem counts_initRecordSummaries :
    (initRecordSummaries L source).counts = streamCounts L source := by
  funext id
  unfold counts initRecordSummaries
  by_cases h : source.streams = []
  · simp [h, streamCounts]
  · simp [h]

/-- A type other than the three counted has no count. -/
theorem streamCounts_eq_none {name : String}
    (hconfiguration : name ≠ lowercaseTypeName L .configuration)
    (hdata : name ≠ lowercaseTypeName L .data) (hstate : name ≠ lowercaseTypeName L .state)
    (id : StreamId) : streamCounts L source id name = none := by
  unfold streamCounts typeCounts
  split
  · simp [Function.update_of_ne, hconfiguration, hdata, hstate]
  · rfl

/-- A file without records has no types of record. -/
theorem typeNames_of_nil (h : source.entries = []) : typeNames L source = ∅ := by
  unfold typeNames countByRecordType
  simp [h]

/-- The counts a query works with: those held, or those filled in. -/
theorem counts_withCounts :
    (summaries.withCounts L source).counts =
      summaries.recordCountsByTypeAndStreamId.getD (streamCounts L source) := by
  unfold withCounts
  cases h : summaries.recordCountsByTypeAndStreamId with
  | none => exact counts_initRecordSummaries
  | some held =>
    funext id
    simp [counts, h]

theorem withCounts_withCounts :
    (summaries.withCounts L source).withCounts L source = summaries.withCounts L source := by
  unfold withCounts
  by_cases h : summaries.recordCountsByTypeAndStreamId.isNone = true
  · simp only [h, if_true, ite_self]
  · simp only [h, if_false, Bool.false_eq_true]

theorem counts_withCounts_initRecordSummaries :
    ((initRecordSummaries L source).withCounts L source).counts = streamCounts L source := by
  rw [counts_withCounts]
  unfold initRecordSummaries
  by_cases h : source.streams = []
  · simp [h]
  · simp [h]

theorem counts_withCounts_mk (names : Finset String) (counts : StreamId → TypeCounts) :
    ((⟨names, some counts⟩ : RecordSummaries).withCounts L source).counts = counts := by
  rw [counts_withCounts, Option.getD_some]

/-- The summaries were filled from the file. Without streams there are no counts to hold. -/
structure Filled (L : VrsLib) (source : SummarySource) (summaries : RecordSummaries) : Prop where
  types_eq : summaries.recordTypes = typeNames L source
  counts_ne_none : source.streams ≠ [] → summaries.recordCountsByTypeAndStreamId ≠ none

/-- The summaries were filled from the file, or not at all. -/
def FilledFrom (L : VrsLib) (source : SummarySource) (summaries : RecordSummaries) : Prop :=
  Filled L source summaries ∨ summaries = new

theorem filled_init : Filled L source (initRecordSummaries L source) where
  types_eq := rfl
  counts_ne_none h := by simp [initRecordSummaries, h]

theorem FilledFrom.withCounts (h : FilledFrom L source summaries) :
    Filled L source (summaries.withCounts L source) := by
  unfold RecordSummaries.withCounts
  split
  · exact filled_init
  · rename_i hfilled
    rcases h with h | rfl
    · exact h
    · exact absurd rfl hfilled

/-- Summaries filled that hold no counts are those of a new reader. -/
theorem FilledFrom.eq_new (h : FilledFrom L source summaries)
    (hnone : summaries.recordCountsByTypeAndStreamId = none) : summaries = new := by
  rcases h with h | h
  · have hstreams : source.streams = [] := by
      by_contra hne
      exact h.counts_ne_none hne hnone
    have hentries : source.entries = [] := by
      rw [List.eq_nil_iff_forall_not_mem]
      intro e he
      have hmem := source.mem_streams e he
      rw [hstreams] at hmem
      exact absurd hmem List.not_mem_nil
    have htypes : summaries.recordTypes = ∅ := h.types_eq.trans (typeNames_of_nil hentries)
    cases summaries
    simp only at htypes hnone
    rw [htypes, hnone]
    rfl
  · exact h

/-! ## One query -/

variable (L source) in
theorem call_getAvailableRecordTypes :
    call L source getStreamId summaries .getAvailableRecordTypes =
      (.ok (.types (summaries.getAvailableRecordTypes L source).1),
        (summaries.getAvailableRecordTypes L source).2) := rfl

variable (L source) in
/-- A query about a stream that cannot be named fills the counts at most. -/
theorem call_of_error {streamId : String} {e : PyError} (h : getStreamId streamId = .error e)
    {c : SummaryCall} (hc : (∃ recordType, c = .getRecordsCount streamId recordType) ∨
      c = .recordCountByTypeFromStreamId streamId) :
    call L source getStreamId summaries c = (.error e, summaries.withCounts L source) := by
  rcases hc with ⟨recordType, rfl⟩ | rfl
  · simp only [call, getRecordsCount, h]
    rfl
  · simp only [call, recordCountByTypeFromStreamId, h]
    rfl

/-- Counts with the count of a type, 0 if it has none. -/
def countOf (counts : StreamId → TypeCounts) (id : StreamId) (name : String) : Int32 :=
  (counts id name).getD 0

/-- Counts that hold the count of a type. -/
def holding (counts : StreamId → TypeCounts) (id : StreamId) (name : String) :
    StreamId → TypeCounts :=
  Function.update counts id (Function.update (counts id) name (some (countOf counts id name)))

variable (L source) in
theorem call_getRecordsCount {streamId : String} {id : StreamId}
    (h : getStreamId streamId = .ok id) (recordType : RecordType) :
    call L source getStreamId summaries (.getRecordsCount streamId recordType) =
      (.ok (.count (countOf (summaries.withCounts L source).counts id
          (lowercaseTypeName L recordType))),
        ⟨(summaries.withCounts L source).recordTypes,
          some (holding (summaries.withCounts L source).counts id
            (lowercaseTypeName L recordType))⟩) := by
  simp only [call, getRecordsCount, h]
  rfl

variable (L source) in
theorem call_recordCountByTypeFromStreamId {streamId : String} {id : StreamId}
    (h : getStreamId streamId = .ok id) :
    call L source getStreamId summaries (.recordCountByTypeFromStreamId streamId) =
      (.ok (.counts ((summaries.withCounts L source).counts id)),
        ⟨(summaries.withCounts L source).recordTypes,
          some (summaries.withCounts L source).counts⟩) := by
  simp only [call, recordCountByTypeFromStreamId, h]
  rfl

theorem FilledFrom.call (h : FilledFrom L source summaries) (c : SummaryCall) :
    FilledFrom L source (RecordSummaries.call L source getStreamId summaries c).2 := by
  have hcounts := h.withCounts
  cases c with
  | getAvailableRecordTypes =>
    rw [call_getAvailableRecordTypes]
    unfold RecordSummaries.getAvailableRecordTypes
    simp only
    split
    · exact .inl filled_init
    · exact h
  | getRecordsCount streamId recordType =>
    cases hid : getStreamId streamId with
    | error e =>
      rw [call_of_error L source hid (.inl ⟨recordType, rfl⟩)]
      exact .inl hcounts
    | ok id =>
      rw [call_getRecordsCount L source hid]
      exact .inl ⟨hcounts.types_eq, fun _ => Option.some_ne_none _⟩
  | recordCountByTypeFromStreamId streamId =>
    cases hid : getStreamId streamId with
    | error e =>
      rw [call_of_error L source hid (.inr rfl)]
      exact .inl hcounts
    | ok id =>
      rw [call_recordCountByTypeFromStreamId L source hid]
      exact .inl ⟨hcounts.types_eq, fun _ => Option.some_ne_none _⟩

/-- Summaries that answer alike on a file, for the streams that can be named. -/
structure Alike (L : VrsLib) (source : SummarySource)
    (getStreamId : String → Except PyError StreamId) (summaries summaries' : RecordSummaries) :
    Prop where
  filled : FilledFrom L source summaries
  filled' : FilledFrom L source summaries'
  counts_eq : ∀ name id, getStreamId name = .ok id →
    (summaries.withCounts L source).counts id = (summaries'.withCounts L source).counts id

theorem getAvailableRecordTypes_of_ne (h : summaries.recordTypes ≠ ∅) :
    summaries.getAvailableRecordTypes L source = (summaries.recordTypes, summaries) := by
  simp only [RecordSummaries.getAvailableRecordTypes, if_neg h]

theorem getAvailableRecordTypes_of_empty (h : summaries.recordTypes = ∅) :
    summaries.getAvailableRecordTypes L source =
      (typeNames L source, initRecordSummaries L source) := by
  simp only [RecordSummaries.getAvailableRecordTypes, if_pos h]
  rfl

theorem FilledFrom.getAvailableRecordTypes (h : FilledFrom L source summaries) :
    (summaries.getAvailableRecordTypes L source).1 = typeNames L source := by
  by_cases hempty : summaries.recordTypes = ∅
  · rw [getAvailableRecordTypes_of_empty hempty]
  · rw [getAvailableRecordTypes_of_ne hempty]
    rcases h with h | rfl
    · exact h.types_eq
    · exact absurd rfl hempty

theorem Alike.withCounts (h : Alike L source getStreamId summaries summaries') :
    Alike L source getStreamId (summaries.withCounts L source)
      (summaries'.withCounts L source) where
  filled := .inl h.filled.withCounts
  filled' := .inl h.filled'.withCounts
  counts_eq name id hid := by
    rw [withCounts_withCounts, withCounts_withCounts]
    exact h.counts_eq name id hid

theorem Alike.symm (h : Alike L source getStreamId summaries summaries') :
    Alike L source getStreamId summaries' summaries :=
  ⟨h.filled', h.filled, fun name id hid => (h.counts_eq name id hid).symm⟩

/-- The record types are filled again when they are empty, the counts along with them. -/
theorem counts_getAvailableRecordTypes :
    ((summaries.getAvailableRecordTypes L source).2.withCounts L source).counts =
      if summaries.recordTypes = ∅ then streamCounts L source
      else (summaries.withCounts L source).counts := by
  by_cases hempty : summaries.recordTypes = ∅
  · rw [getAvailableRecordTypes_of_empty hempty, if_pos hempty]
    exact counts_withCounts_initRecordSummaries
  · rw [getAvailableRecordTypes_of_ne hempty, if_neg hempty]

/-- Of summaries without types, whose file has some, nothing was filled. -/
theorem FilledFrom.counts_of_empty (h : FilledFrom L source summaries)
    (hempty : summaries.recordTypes = ∅) (hne : typeNames L source ≠ ∅) :
    (summaries.withCounts L source).counts = streamCounts L source := by
  rcases h with h | rfl
  · exact absurd (h.types_eq.symm.trans hempty) hne
  · exact counts_initRecordSummaries

theorem Alike.counts_getAvailableRecordTypes (h : Alike L source getStreamId summaries summaries')
    (hempty : summaries.recordTypes = ∅) {name : String} {id : StreamId}
    (hid : getStreamId name = .ok id) :
    ((summaries.getAvailableRecordTypes L source).2.withCounts L source).counts id =
      ((summaries'.getAvailableRecordTypes L source).2.withCounts L source).counts id := by
  rw [RecordSummaries.counts_getAvailableRecordTypes,
    RecordSummaries.counts_getAvailableRecordTypes, if_pos hempty]
  by_cases hempty' : summaries'.recordTypes = ∅
  · rw [if_pos hempty']
  · -- the other reader filled its types, so they are not empty
    have hne : typeNames L source ≠ ∅ := by
      rcases h.filled' with h' | rfl
      · exact h'.types_eq ▸ hempty'
      · exact absurd rfl hempty'
    rw [if_neg hempty', ← h.filled.counts_of_empty hempty hne]
    exact h.counts_eq name id hid

/-- **A query is answered alike, and the summaries stay alike.** -/
theorem Alike.call (h : Alike L source getStreamId summaries summaries') (c : SummaryCall) :
    (RecordSummaries.call L source getStreamId summaries c).1 =
        (RecordSummaries.call L source getStreamId summaries' c).1 ∧
      Alike L source getStreamId (RecordSummaries.call L source getStreamId summaries c).2
        (RecordSummaries.call L source getStreamId summaries' c).2 := by
  have hfilled : FilledFrom L source (RecordSummaries.call L source getStreamId summaries c).2 :=
    h.filled.call c
  have hfilled' : FilledFrom L source (RecordSummaries.call L source getStreamId summaries' c).2 :=
    h.filled'.call c
  cases c with
  | getAvailableRecordTypes =>
    rw [call_getAvailableRecordTypes] at hfilled ⊢
    rw [call_getAvailableRecordTypes] at hfilled' ⊢
    refine ⟨by rw [h.filled.getAvailableRecordTypes, h.filled'.getAvailableRecordTypes],
      hfilled, hfilled', fun name id hid => ?_⟩
    by_cases hempty : summaries.recordTypes = ∅
    · exact h.counts_getAvailableRecordTypes hempty hid
    by_cases hempty' : summaries'.recordTypes = ∅
    · exact (h.symm.counts_getAvailableRecordTypes hempty' hid).symm
    · rw [RecordSummaries.counts_getAvailableRecordTypes,
        RecordSummaries.counts_getAvailableRecordTypes, if_neg hempty, if_neg hempty']
      exact h.counts_eq name id hid
  | getRecordsCount streamId recordType =>
    cases hid : getStreamId streamId with
    | error e =>
      rw [call_of_error L source hid (.inl ⟨recordType, rfl⟩)] at hfilled ⊢
      rw [call_of_error L source hid (.inl ⟨recordType, rfl⟩)] at hfilled' ⊢
      exact ⟨rfl, h.withCounts⟩
    | ok id =>
      have hcounts := h.counts_eq streamId id hid
      rw [call_getRecordsCount L source hid] at hfilled ⊢
      rw [call_getRecordsCount L source hid] at hfilled' ⊢
      refine ⟨by simp only [countOf, hcounts], hfilled, hfilled', fun name id' hname => ?_⟩
      rw [counts_withCounts_mk, counts_withCounts_mk]
      unfold holding countOf
      rw [hcounts]
      by_cases hne : id' = id
      · rw [hne, Function.update_self, Function.update_self]
      · rw [Function.update_of_ne hne, Function.update_of_ne hne]
        exact h.counts_eq name id' hname
  | recordCountByTypeFromStreamId streamId =>
    cases hid : getStreamId streamId with
    | error e =>
      rw [call_of_error L source hid (.inr rfl)] at hfilled ⊢
      rw [call_of_error L source hid (.inr rfl)] at hfilled' ⊢
      exact ⟨rfl, h.withCounts⟩
    | ok id =>
      rw [call_recordCountByTypeFromStreamId L source hid] at hfilled ⊢
      rw [call_recordCountByTypeFromStreamId L source hid] at hfilled' ⊢
      refine ⟨by rw [h.counts_eq streamId id hid], hfilled, hfilled', fun name id' hname => ?_⟩
      rw [counts_withCounts_mk, counts_withCounts_mk]
      exact h.counts_eq name id' hname

/-- The counts of a stream after the count of another type was asked for, then the types. -/
theorem counts_probe {streamId : String} {id : StreamId} (h : getStreamId streamId = .ok id)
    (recordType : RecordType) :
    let summaries₁ :=
      (RecordSummaries.call L source getStreamId summaries (.getRecordsCount streamId recordType)).2
    let summaries₂ :=
      (RecordSummaries.call L source getStreamId summaries₁ .getAvailableRecordTypes).2
    (summaries₂.withCounts L source).counts =
      if (summaries.withCounts L source).recordTypes = ∅ then streamCounts L source
      else holding (summaries.withCounts L source).counts id (lowercaseTypeName L recordType) := by
  intro summaries₁ summaries₂
  have hfirst : summaries₁ = ⟨(summaries.withCounts L source).recordTypes,
      some (holding (summaries.withCounts L source).counts id
        (lowercaseTypeName L recordType))⟩ := by
    show (RecordSummaries.call L source getStreamId summaries _).2 = _
    rw [call_getRecordsCount L source h]
  show (((RecordSummaries.call L source getStreamId summaries₁ _).2).withCounts L source).counts = _
  rw [call_getAvailableRecordTypes, counts_getAvailableRecordTypes, hfirst, counts_withCounts_mk]

end RecordSummaries

/-! ## The configuration selected -/

namespace OssVRSReader

variable {L : VrsLib} (F : RecordFileReader L) (D : Native L) (reader : OssVRSReader L)

theorem readConfigurationRecord_configIndex (s : StreamId) (i : ℕ) :
    (reader.readConfigurationRecord F D s i).2.configIndex = some (reader.filledConfigIndex F) := by
  unfold readConfigurationRecord
  simp only
  split
  · rfl
  split
  · rfl
  · rename_i it _ _ record _
    by_cases h : (D (reader.withConfigIndex F).nativeReads it).status = 0
    · rw [readConfigurationAt_of_eq D _ it record s h]
      rfl
    · rw [readConfigurationAt_of_ne D _ it record s h]
      rfl

/-- Selecting a configuration leaves the selection as it is. -/
theorem selectedConfiguration_readConfigurationRecord (s s' : StreamId) (i i' : ℕ) :
    (reader.readConfigurationRecord F D s i).2.selectedConfiguration F s' i' =
      reader.selectedConfiguration F s' i' := by
  unfold selectedConfiguration filledConfigIndex
  rw [readConfigurationRecord_configIndex, Option.getD_some]
  rfl

/-- What is selected in the index of a file: the last configuration record of the stream below the
position, which may be past the end of the index. -/
theorem lastBelow_buildConfigIndex_of_file (s : StreamId) (i t : ℕ) :
    lastBelow (buildConfigIndex (fun k => F.index[k]?) F.index.length s) i = some t ↔
      IsGreatest (configsBelow (fun k => F.index[k]?) s i) t := by
  rw [lastBelow_eq_some_iff (pairwise_buildConfigIndex _ _ s)]
  have hset : {k | k ∈ buildConfigIndex (fun k => F.index[k]?) F.index.length s ∧ k < i} =
      configsBelow (fun k => F.index[k]?) s i := by
    ext k
    simp only [Set.mem_ofPred_eq, mem_buildConfigIndex, configsBelow]
    constructor
    · rintro ⟨⟨-, h⟩, hk⟩
      exact ⟨h, hk⟩
    · rintro ⟨h, hk⟩
      exact ⟨⟨h.lt_length, h⟩, hk⟩
  rw [hset]

/-- Once filled, `configIndex_` selects from the file it was filled from, whichever is opened. -/
theorem selectedConfiguration_open_eq_some_iff {A : RecordFileReader L}
    (hfilled : reader.IndexFilled A) (h : reader.configIndex ≠ none) {s : StreamId} {i t : ℕ} :
    (reader.open F).selectedConfiguration F s i = some t ↔
      IsGreatest (configsBelow (fun k => A.index[k]?) s i) t := by
  obtain ⟨configIndex, hconfig⟩ := Option.ne_none_iff_exists'.1 h
  unfold IndexFilled filledConfigIndex at hfilled
  rw [hconfig, Option.getD_some] at hfilled
  have hheld : (reader.open F).filledConfigIndex F = configIndex := by
    show reader.configIndex.getD _ = _
    rw [hconfig, Option.getD_some]
  unfold selectedConfiguration
  rw [hheld, hfilled, lastBelow_buildConfigIndex_of_file]

theorem selectedConfiguration_open_of_eq_none (h : reader.configIndex = none) {s : StreamId}
    {i t : ℕ} :
    (reader.open F).selectedConfiguration F s i = some t ↔
      IsGreatest (configsBelow (fun k => F.index[k]?) s i) t := by
  have hheld : (reader.open F).filledConfigIndex F = buildConfigIndex (fun k => F.index[k]?)
      F.index.length := by
    show reader.configIndex.getD _ = _
    rw [h, Option.getD_none]
  unfold selectedConfiguration
  rw [hheld, lastBelow_buildConfigIndex_of_file]

end OssVRSReader

/-! ## Reopening -/

/-- A file with one state record. -/
def stateFile : RecordFileReader .bare :=
  .ofIndex .bare [⟨.ofRat 0, ⟨1201, 1⟩, .state⟩] (by decide)

namespace SummarizedReader

variable {L : VrsLib} (A B : RecordFileReader L) {D D' : Native L} (r : SummarizedReader L)

/-- What was done on `A` left the caches filled from `A`, if at all. -/
structure FilledFrom (D : Native L) : Prop where
  summaries : RecordSummaries.FilledFrom L A.summarySource r.summaries
  reader : r.reader.Tracked A D

/-- Readers with `B` open that answer alike there. -/
structure Alike (r r' : SummarizedReader L) : Prop where
  summaries : RecordSummaries.Alike L B.summarySource (OssVRSReader.getStreamId B) r.summaries
    r'.summaries
  configs : ∀ i record, B.index[i]? = some record → record.recordType = .data →
    r.reader.selectedConfiguration B record.streamId i =
      r'.reader.selectedConfiguration B record.streamId i

/-- The caches left by what was asked before `B` is opened hold what the index of `B` gives: the
types of its records and the counts of the streams it names, if the counts are held; and, if
`configIndex_` is, the same configuration record of a stream before each DATA record. -/
structure Renewed : Prop where
  types_eq : r.summaries.recordCountsByTypeAndStreamId ≠ none →
    RecordSummaries.typeNames L A.summarySource = RecordSummaries.typeNames L B.summarySource
  counts_eq : ∀ counts, r.summaries.recordCountsByTypeAndStreamId = some counts →
    ∀ name id, B.getStreamForName name = some id →
      counts id = RecordSummaries.streamCounts L B.summarySource id
  configs_eq : r.reader.configIndex ≠ none →
    ∀ i record, B.index[i]? = some record → record.recordType = .data → ∀ t,
      IsGreatest (configsBelow (fun k => A.index[k]?) record.streamId i) t ↔
        IsGreatest (configsBelow (fun k => B.index[k]?) record.streamId i) t

theorem getStreamId_eq_ok_iff {F : RecordFileReader L} {name : String} {id : StreamId} :
    OssVRSReader.getStreamId F name = .ok id ↔ F.getStreamForName name = some id := by
  unfold OssVRSReader.getStreamId
  cases F.getStreamForName name with
  | none => simp
  | some id' => simp

variable {A B r}

theorem FilledFrom.call (h : r.FilledFrom A D) (c : HistoryCall) :
    (SummarizedReader.call A D r c).2.FilledFrom A D := by
  cases c with
  | call c => exact ⟨h.summaries, h.reader.call c⟩
  | query c => exact ⟨h.summaries.call c, h.reader⟩

theorem filledFrom_open (autoReadConfigurationRecord : Bool) :
    ((new autoReadConfigurationRecord : SummarizedReader L).open A).FilledFrom A D :=
  ⟨.inr rfl, OssVRSReader.tracked_open A D autoReadConfigurationRecord⟩

theorem FilledFrom.exec (h : r.FilledFrom A D) (history : List HistoryCall) :
    ((SummarizedReader.call A D).exec r history).FilledFrom A D :=
  Machine.exec_of_invariant (I := fun r : SummarizedReader L => r.FilledFrom A D)
    (fun _ c h => h.call c) h history

/-- **A question is answered alike, and the readers stay alike.** -/
theorem Alike.ask {r' : SummarizedReader L} (h : Alike B r r') (q : Question) :
    (SummarizedReader.ask B D' r q).1 = (SummarizedReader.ask B D' r' q).1 ∧
      Alike B (SummarizedReader.ask B D' r q).2 (SummarizedReader.ask B D' r' q).2 := by
  cases q with
  | query c =>
    obtain ⟨hreply, hsummaries⟩ := h.summaries.call c
    exact ⟨congrArg Answer.summary hreply, hsummaries, h.configs⟩
  | configuration idx =>
    cases hrecord : B.index[idx]? with
    | none =>
      simp only [SummarizedReader.ask, hrecord]
      exact ⟨trivial, h⟩
    | some record =>
      by_cases hdata : record.recordType = .data
      · simp only [SummarizedReader.ask, hrecord, if_pos hdata]
        refine ⟨congrArg Answer.configuration (h.configs idx record hrecord hdata), h.summaries,
          fun i info hinfo htype => ?_⟩
        rw [OssVRSReader.selectedConfiguration_readConfigurationRecord,
          OssVRSReader.selectedConfiguration_readConfigurationRecord]
        exact h.configs i info hinfo htype
      · simp only [SummarizedReader.ask, hrecord, if_neg hdata]
        exact ⟨trivial, h⟩

/-- A reader whose caches hold what the new index gives is like a new one. -/
theorem Renewed.alike (h : r.Renewed A B) (hfilled : r.FilledFrom A D)
    (autoReadConfigurationRecord : Bool) :
    Alike B (r.open B) ((new autoReadConfigurationRecord).open B) where
  summaries := by
    show RecordSummaries.Alike L _ _ r.summaries .new
    cases hcounts : r.summaries.recordCountsByTypeAndStreamId with
    | none =>
      rw [hfilled.summaries.eq_new hcounts]
      exact ⟨.inr rfl, .inr rfl, fun _ _ _ => rfl⟩
    | some counts =>
      have hne : r.summaries.recordCountsByTypeAndStreamId ≠ none := hcounts ▸ Option.some_ne_none _
      refine ⟨.inl ⟨?_, fun _ => hne⟩, .inr rfl, fun name id hid => ?_⟩
      · rcases hfilled.summaries with hA | hnew
        · exact hA.types_eq.trans (h.types_eq hne)
        · exact absurd (by rw [hnew]; rfl) hne
      · rw [RecordSummaries.counts_withCounts, RecordSummaries.counts_withCounts, hcounts]
        exact h.counts_eq counts hcounts name id (getStreamId_eq_ok_iff.1 hid)
  configs i record hrecord hdata := by
    refine Option.ext fun t => ?_
    have hnew := (OssVRSReader.new autoReadConfigurationRecord : OssVRSReader L)
      |>.selectedConfiguration_open_of_eq_none B rfl (s := record.streamId) (i := i) (t := t)
    refine Iff.trans ?_ hnew.symm
    by_cases hconfig : r.reader.configIndex = none
    · exact r.reader.selectedConfiguration_open_of_eq_none B hconfig
    · exact (r.reader.selectedConfiguration_open_eq_some_iff B hfilled.reader.filled hconfig).trans
        (h.configs_eq hconfig i record hrecord hdata t)

section Answers

variable (hfilled : r.FilledFrom A D) {autoReadConfigurationRecord : Bool}
  (hanswers : ∀ questions, (ask B D').replies (r.open B) questions =
    (ask B D').replies ((new autoReadConfigurationRecord).open B) questions)

include hanswers in
/-- Asked for the counts of a stream, the reader shows those it holds. -/
theorem counts_eq_of_answers {counts : StreamId → TypeCounts}
    (hcounts : r.summaries.recordCountsByTypeAndStreamId = some counts) {name : String}
    {id : StreamId} (hid : B.getStreamForName name = some id) :
    counts id = RecordSummaries.streamCounts L B.summarySource id := by
  have hid' := getStreamId_eq_ok_iff.2 hid
  have h := hanswers [.query (.recordCountByTypeFromStreamId name)]
  simp only [Machine.replies_cons, Machine.replies_nil, ask, query,
    RecordSummaries.call_recordCountByTypeFromStreamId _ _ hid', List.cons.injEq,
    Answer.summary.injEq, Except.ok.injEq, SummaryValue.counts.injEq, and_true] at h
  rw [RecordSummaries.counts_withCounts, RecordSummaries.counts_withCounts] at h
  have hheld : (r.open B).summaries.recordCountsByTypeAndStreamId = some counts := hcounts
  rw [hheld] at h
  exact h

include hanswers in
/-- Asked for the types of records, the reader shows those it holds. -/
theorem types_eq_of_answers (h : RecordSummaries.Filled L A.summarySource r.summaries)
    (hne : RecordSummaries.typeNames L A.summarySource ≠ ∅) :
    RecordSummaries.typeNames L A.summarySource = RecordSummaries.typeNames L B.summarySource := by
  have h' := hanswers [.query .getAvailableRecordTypes]
  simp only [Machine.replies_cons, Machine.replies_nil, ask, query,
    RecordSummaries.call_getAvailableRecordTypes, List.cons.injEq, Answer.summary.injEq,
    Except.ok.injEq, SummaryValue.types.injEq, and_true] at h'
  have hheld : (r.open B).summaries.recordTypes = RecordSummaries.typeNames L A.summarySource :=
    h.types_eq
  have hnew : RecordSummaries.FilledFrom L B.summarySource
      ((new autoReadConfigurationRecord : SummarizedReader L).open B).summaries := .inr rfl
  rw [hnew.getAvailableRecordTypes,
    RecordSummaries.getAvailableRecordTypes_of_ne (hheld ▸ hne)] at h'
  exact hheld.symm.trans h'

include hanswers in
/-- Summaries of a file without records are filled again when the types are asked for, which drops
a count added before; those of a new reader, with a record to show, are not. -/
theorem typeNames_eq_empty_of_answers
    (hundefined : ∀ type ∈ [RecordType.configuration, .data, .state],
      lowercaseTypeName L .undefined ≠ lowercaseTypeName L type)
    (hnames : ∀ id ∈ B.streams, B.getStreamForName (L.getNumericName id) = some id)
    (hcounts : r.summaries.recordCountsByTypeAndStreamId ≠ none)
    (hempty : r.summaries.recordTypes = ∅) :
    RecordSummaries.typeNames L B.summarySource = ∅ := by
  by_contra hne
  obtain ⟨e, he⟩ := List.exists_mem_of_ne_nil _
    (mt RecordSummaries.typeNames_of_nil hne)
  have hid := getStreamId_eq_ok_iff.2 (hnames e.1 (B.summarySource.mem_streams e he))
  have hnone : RecordSummaries.streamCounts L B.summarySource e.1
      (lowercaseTypeName L .undefined) = none :=
    RecordSummaries.streamCounts_eq_none (hundefined _ (by simp)) (hundefined _ (by simp))
      (hundefined _ (by simp)) e.1
  have h := hanswers [.query (.getRecordsCount (L.getNumericName e.1) .undefined),
    .query .getAvailableRecordTypes,
    .query (.recordCountByTypeFromStreamId (L.getNumericName e.1))]
  simp only [Machine.replies_cons, Machine.replies_nil, ask, query,
    RecordSummaries.call_recordCountByTypeFromStreamId _ _ hid, List.cons.injEq,
    Answer.summary.injEq, Except.ok.injEq, SummaryValue.counts.injEq, and_true] at h
  have hlast := congrFun h.2.2 (lowercaseTypeName L .undefined)
  rw [RecordSummaries.counts_probe hid, RecordSummaries.counts_probe hid] at hlast
  have hold : ((r.open B).summaries.withCounts L B.summarySource).recordTypes = ∅ := by
    show (r.summaries.withCounts L B.summarySource).recordTypes = ∅
    unfold RecordSummaries.withCounts
    rw [if_neg (by rwa [Option.isNone_iff_eq_none])]
    exact hempty
  have hnew : (((new autoReadConfigurationRecord : SummarizedReader L).open B).summaries.withCounts
      L B.summarySource).recordTypes ≠ ∅ := hne
  rw [if_pos hold, if_neg hnew, hnone] at hlast
  unfold RecordSummaries.holding at hlast
  rw [Function.update_self, Function.update_self] at hlast
  exact absurd hlast.symm (Option.some_ne_none _)

end Answers

/-- **Reopening starts afresh exactly when the caches agree.** After anything asked and read on `A`,
the reader opened on `B` answers every sequence of questions as a new reader on `B` does if and only
if the caches left hold what the index of `B` gives. -/
theorem reopen_afresh_iff (A B : RecordFileReader L) (D D' : Native L)
    (hundefined : ∀ type ∈ [RecordType.configuration, .data, .state],
      lowercaseTypeName L .undefined ≠ lowercaseTypeName L type)
    (hnames : ∀ id ∈ B.streams, B.getStreamForName (L.getNumericName id) = some id)
    (autoReadConfigurationRecord : Bool) (history : List HistoryCall) :
    let r := (call A D).exec ((new autoReadConfigurationRecord).open A) history
    (∀ questions, (ask B D').replies (r.open B) questions =
        (ask B D').replies ((new autoReadConfigurationRecord).open B) questions) ↔
      r.Renewed A B := by
  intro r
  have hfilled : r.FilledFrom A D := (filledFrom_open autoReadConfigurationRecord).exec history
  constructor
  · intro hanswers
    refine ⟨fun hcounts => ?_, fun counts hcounts name id hid =>
      counts_eq_of_answers hanswers hcounts hid, fun hconfig i record hrecord hdata t => ?_⟩
    · rcases hfilled.summaries with hA | hnew
      · by_cases hne : RecordSummaries.typeNames L A.summarySource = ∅
        · rw [hne, typeNames_eq_empty_of_answers hanswers hundefined hnames hcounts
            (hA.types_eq.trans hne)]
        · exact types_eq_of_answers hanswers hA hne
      · exact absurd (by rw [hnew]; rfl) hcounts
    · have h := hanswers [.configuration i]
      simp only [Machine.replies_cons, Machine.replies_nil, ask, hrecord, if_pos hdata,
        List.cons.injEq, Answer.configuration.injEq, and_true] at h
      have hold : (r.open B).reader.selectedConfiguration B record.streamId i = some t ↔ _ :=
        r.reader.selectedConfiguration_open_eq_some_iff B hfilled.reader.filled hconfig
      have hnew := (OssVRSReader.new autoReadConfigurationRecord : OssVRSReader L)
        |>.selectedConfiguration_open_of_eq_none B rfl (s := record.streamId) (i := i) (t := t)
      rw [h] at hold
      exact hold.symm.trans hnew
  · intro h questions
    exact Machine.replies_eq_of_simulation (fun _ _ q halike => halike.ask q) questions
      (h.alike hfilled autoReadConfigurationRecord)

theorem reopen_afresh_iff_of_stateFile :
    (∀ questions, (ask stateFile (.blank _)).replies
        (((call reconfiguredFile (.blank _)).exec ((new true).open reconfiguredFile)
          [.call .enableAllStreams, .call (.readRecord 3), .query .getAvailableRecordTypes]).open
            stateFile) questions =
      (ask stateFile (.blank _)).replies ((new true).open stateFile) questions) ↔
    Renewed reconfiguredFile stateFile
      ((call reconfiguredFile (.blank _)).exec ((new true).open reconfiguredFile)
        [.call .enableAllStreams, .call (.readRecord 3), .query .getAvailableRecordTypes]) :=
  reopen_afresh_iff reconfiguredFile stateFile (.blank _) (.blank _) (by decide +kernel)
    (by decide +kernel) true
    [.call .enableAllStreams, .call (.readRecord 3), .query .getAvailableRecordTypes]

/-- Asked for its record types on a file of configuration and data records, a reader gives the same
types for a file that has state records only. -/
theorem not_reopen_afresh :
    ¬∀ questions, (ask stateFile (.blank _)).replies
        (((call reconfiguredFile (.blank _)).exec ((new true).open reconfiguredFile)
          [.query .getAvailableRecordTypes]).open stateFile) questions =
      (ask stateFile (.blank _)).replies ((new true).open stateFile) questions := by
  intro h
  have htypes := h [.query .getAvailableRecordTypes]
  simp only [Machine.replies_cons, Machine.replies_nil, ask, query,
    RecordSummaries.call_getAvailableRecordTypes, List.cons.injEq, Answer.summary.injEq,
    Except.ok.injEq, SummaryValue.types.injEq, and_true] at htypes
  exact absurd htypes (by decide +kernel)

end SummarizedReader

end Pyvrs
