import Pyvrs.Foundations.Dict
import Pyvrs.Reader.Reopen

/-!
# Queries on the summaries

What is asked about the records of one open file: the types there are, and the number of records of
a stream, as a whole or by type. Looking up a type that no count is kept for adds it to the counts
of the stream, so the dictionary handed out later has more keys than the three kept. Every other
answer is exact and the one that a new reader gives as long as the counts it tells fit an `int`, and
this one is if moreover no such type was looked up before (`query_exact_iff`).
-/

namespace Pyvrs

open Foundations

/-- The types that the summaries keep a count for. -/
def RecordType.IsCounted (type : RecordType) : Prop :=
  type = .configuration ∨ type = .data ∨ type = .state

instance : DecidablePred RecordType.IsCounted := fun _ => inferInstanceAs (Decidable (_ ∨ _))

/-- The values of the dictionary that `getStreamInfo` returns. -/
inductive StreamInfoValue
  | count (n : Int32)
  | index (recordIndex : Int32)
  | timestamp (timestamp : Timestamp)
  | text (text : String)
  deriving DecidableEq

/-- The counters of `getStreamInfo`. -/
structure StreamRecordCounts where
  config : Int32
  state : Int32
  data : Int32

/-- The counters after an entry of the index. -/
def StreamRecordCounts.count (counts : StreamRecordCounts) (recordInfo : RecordInfo) :
    StreamRecordCounts :=
  match recordInfo.recordType with
  | .data => { counts with data := counts.data + 1 }
  | .configuration => { counts with config := counts.config + 1 }
  | .state => { counts with state := counts.state + 1 }
  | .undefined | .tags => counts

variable {L : VrsLib}

/-- What vrs makes known of the streams of a file besides their records. -/
structure StreamDetails (F : RecordFileReader L) where
  /-- `getOriginalRecordableTypeName`. -/
  getOriginalRecordableTypeName : StreamId → String
  /-- `getFlavor`. -/
  getFlavor : StreamId → String
  /-- `getLastRecord(streamId, recordType)`. -/
  getLastRecord : StreamId → RecordType → Option (Fin F.index.length)

/-- The details of a file known by its index alone. -/
def StreamDetails.ofIndex (F : RecordFileReader L) : StreamDetails F where
  getOriginalRecordableTypeName id := L.recordableTypeName id.typeId
  getFlavor _ := ""
  getLastRecord id type :=
    ((List.finRange F.index.length).filter fun i =>
      (F.index.get i).streamId = id ∧ (F.index.get i).recordType = type).getLast?

namespace RecordFileReader

variable (F : RecordFileReader L)

/-- `getIndex(streamId)`. -/
def getIndex (id : StreamId) : List RecordInfo :=
  F.index.filter fun record => record.streamId = id

/-- The number of entries of the index with a stream and a type. -/
def recordsOf (id : StreamId) (type : RecordType) : ℕ :=
  F.index.countP fun record => record.streamId = id ∧ record.recordType = type

/-- The number of entries of the index with a type. -/
def recordsOfType (type : RecordType) : ℕ :=
  F.index.countP fun record => record.recordType = type

theorem recordsOf_lt (id : StreamId) (type : RecordType) : F.recordsOf id type < 2 ^ 32 :=
  List.countP_le_length.trans_lt F.length_index_lt

theorem recordsOfType_lt (type : RecordType) : F.recordsOfType type < 2 ^ 32 :=
  List.countP_le_length.trans_lt F.length_index_lt

end RecordFileReader

/-- The queries about the records of a file. -/
inductive SummaryQuery
  | summary (c : SummaryCall)
  | getStreamInfo (streamId : String)
  deriving DecidableEq

/-- What they return. -/
inductive SummaryAnswer
  | summary (value : SummaryValue)
  | streamInfo (dic : Dict String StreamInfoValue)

namespace OssVRSReader

variable (F : RecordFileReader L) (details : StreamDetails F)

/-- `addRecordInfo`. -/
def addRecordInfo (dic : Dict String StreamInfoValue) (keyPrefix : String) (recordType : RecordType)
    (record : Option (Fin F.index.length)) : Dict String StreamInfoValue :=
  match record with
  | none => dic
  | some recordIndex =>
    let type := lowercaseTypeName L recordType
    let dic := dic.setItem (keyPrefix ++ type ++ "_record_index") (.index (.ofNat recordIndex))
    dic.setItem (keyPrefix ++ type ++ "_record_timestamp")
      (.timestamp (F.index.get recordIndex).timestamp)

variable {F} in
/-- `addStreamInfo`. -/
def addStreamInfo (dic : Dict String StreamInfoValue) (id : StreamId) (recordType : RecordType) :
    Dict String StreamInfoValue :=
  let dic := addRecordInfo F dic "first_" recordType (F.getRecordOfType id recordType 0)
  addRecordInfo F dic "last_" recordType (details.getLastRecord id recordType)

variable {F} in
/-- The dictionary that `getStreamInfo` fills for a stream. -/
def streamInfo (id : StreamId) : Dict String StreamInfoValue :=
  let counts := (F.getIndex id).foldl StreamRecordCounts.count ⟨0, 0, 0⟩
  let dic : Dict String StreamInfoValue := ∅
  let dic := dic.setItem "configuration_records_count" (.count counts.config)
  let dic := dic.setItem "state_records_count" (.count counts.state)
  let dic := dic.setItem "data_records_count" (.count counts.data)
  let dic := dic.setItem "device_name" (.text (details.getOriginalRecordableTypeName id))
  let dic := dic.setItem "serial_number" (.text (F.getSerialNumber id))
  let flavor := details.getFlavor id
  let dic := if flavor = "" then dic else dic.setItem "flavor" (.text flavor)
  let dic := addStreamInfo details dic id .configuration
  let dic := addStreamInfo details dic id .state
  addStreamInfo details dic id .data

variable {F} in
/-- `getStreamInfo`. -/
def getStreamInfo (streamId : String) : Except PyError (Dict String StreamInfoValue) := do
  let id ← getStreamId F streamId
  return streamInfo details id

variable {F} in
/-- One query. -/
def query : Machine RecordSummaries SummaryQuery (Except PyError SummaryAnswer)
  | summaries, .summary c =>
    let (reply, summaries) :=
      RecordSummaries.call L F.summarySource (getStreamId F) summaries c
    (reply.map .summary, summaries)
  | summaries, .getStreamInfo streamId =>
    ((getStreamInfo details streamId).map .streamInfo, summaries)

/-! ## What is asked of the answers -/

/-- An answer about the stream of a name; an unknown name is refused. -/
def AnswersAbout (streamId : String) (reply : Except PyError SummaryAnswer)
    (spec : StreamId → SummaryAnswer → Prop) : Prop :=
  (∀ e, getStreamId F streamId = .error e → reply = .error e) ∧
    ∀ id, getStreamId F streamId = .ok id → ∃ answer, reply = .ok answer ∧ spec id answer

/-- The three keys, with the number of records of the stream of each type. -/
def IsCountByType (id : StreamId) (counts : TypeCounts) : Prop :=
  ∀ name (n : ℤ), (counts name).map Int32.toInt = some n ↔
    ∃ type : RecordType, type.IsCounted ∧ name = lowercaseTypeName L type ∧ n = F.recordsOf id type

/-- A key of the dictionary has a number for its count. -/
def HasCount (dic : Dict String StreamInfoValue) (key : String) (n : ℕ) : Prop :=
  ∃ count : Int32, dic.lookup key = some (.count count) ∧ count.toInt = n

/-- The answer is what the index says. -/
def IsExact (reply : Except PyError SummaryAnswer) : SummaryQuery → Prop
  | .summary .getAvailableRecordTypes =>
    ∃ names, reply = .ok (.summary (.types names)) ∧
      ∀ name, name ∈ names ↔ ∃ record ∈ F.index, name = lowercaseTypeName L record.recordType
  | .summary (.getRecordsCount streamId recordType) =>
    AnswersAbout F streamId reply fun id answer =>
      ∃ count : Int32, answer = .summary (.count count) ∧ count.toInt = F.recordsOf id recordType
  | .summary (.recordCountByTypeFromStreamId streamId) =>
    AnswersAbout F streamId reply fun id answer =>
      ∃ counts, answer = .summary (.counts counts) ∧ IsCountByType F id counts
  | .getStreamInfo streamId =>
    AnswersAbout F streamId reply fun id answer =>
      ∃ dic, answer = .streamInfo dic ∧
        HasCount dic "configuration_records_count" (F.recordsOf id .configuration) ∧
        HasCount dic "state_records_count" (F.recordsOf id .state) ∧
        HasCount dic "data_records_count" (F.recordsOf id .data)

/-- No type shows in the summaries: the index has no records of it, or more than an `int` counts. -/
def NoTypeShows : Prop :=
  ∀ type, F.recordsOfType type = 0 ∨ 2 ^ 31 ≤ F.recordsOfType type

/-- The number of the records of a stream of a type that no count is kept for was asked for. In a
file of which no type shows the summaries are filled again whenever the types are asked for, which
must not have been done since. -/
def CountAdded (before : List SummaryQuery) (id : StreamId) : Prop :=
  ∃ asked streamId recordType since,
    before = asked ++ .summary (.getRecordsCount streamId recordType) :: since ∧
      getStreamId F streamId = .ok id ∧ ¬recordType.IsCounted ∧
      (NoTypeShows F → .summary .getAvailableRecordTypes ∉ since)

/-- The three counts of a stream fit an `int`. -/
def CountsFit (id : StreamId) : Prop :=
  ∀ type : RecordType, type.IsCounted → F.recordsOf id type < 2 ^ 31

/-- What a query asks for is kept: the type has a count, or no records to count, and no other count
was added to those of the stream before they are asked for; and an `int` holds each number that is
told. -/
def IsKept (before : List SummaryQuery) : SummaryQuery → Prop
  | .summary .getAvailableRecordTypes => ∀ type, F.recordsOfType type < 2 ^ 31
  | .summary (.getRecordsCount streamId recordType) =>
    ∀ id, getStreamId F streamId = .ok id →
      recordType.IsCounted ∧ F.recordsOf id recordType < 2 ^ 31 ∨ F.recordsOf id recordType = 0
  | .summary (.recordCountByTypeFromStreamId streamId) =>
    ∀ id, getStreamId F streamId = .ok id → ¬CountAdded F before id ∧ CountsFit F id
  | .getStreamInfo streamId => ∀ id, getStreamId F streamId = .ok id → CountsFit F id

/-! ## The counts of getStreamInfo -/

section StreamInfo

variable {F} {dic : Dict String StreamInfoValue} {key keyPrefix : String}

theorem foldl_count (records : List RecordInfo) (counts : StreamRecordCounts) :
    records.foldl StreamRecordCounts.count counts =
      ⟨counts.config + .ofNat (records.countP fun record => record.recordType = .configuration),
        counts.state + .ofNat (records.countP fun record => record.recordType = .state),
        counts.data + .ofNat (records.countP fun record => record.recordType = .data)⟩ := by
  induction records generalizing counts with
  | nil => simp
  | cons record records ih =>
    rw [List.foldl_cons, ih]
    unfold StreamRecordCounts.count
    cases htype : record.recordType <;> simp [htype, Int32.add_assoc, Int32.add_comm 1]

theorem countP_getIndex (id : StreamId) (type : RecordType) :
    (F.getIndex id).countP (fun record => record.recordType = type) = F.recordsOf id type := by
  unfold RecordFileReader.getIndex RecordFileReader.recordsOf
  rw [List.countP_filter]
  refine List.countP_congr fun record _ => ?_
  simp [and_comm]

/-- A key with another first letter is left alone. -/
theorem lookup_addRecordInfo (h : key.toList.head? ≠ keyPrefix.toList.head?)
    (hne : keyPrefix.toList ≠ []) (recordType : RecordType) (record : Option (Fin F.index.length)) :
    (addRecordInfo F dic keyPrefix recordType record).lookup key = dic.lookup key := by
  have hkey : ∀ rest, key ≠ keyPrefix ++ rest := by
    rintro rest rfl
    rw [String.toList_append, List.head?_append_of_ne_nil _ hne] at h
    exact h rfl
  unfold addRecordInfo
  cases record with
  | none => rfl
  | some recordIndex =>
    simp only
    rw [Dict.lookup_setItem, Dict.lookup_setItem, String.append_assoc, String.append_assoc,
      if_neg (hkey _), if_neg (hkey _)]

theorem lookup_addStreamInfo (hfirst : key.toList.head? ≠ some 'f')
    (hlast : key.toList.head? ≠ some 'l') (id : StreamId) (recordType : RecordType) :
    (addStreamInfo details dic id recordType).lookup key = dic.lookup key := by
  unfold addStreamInfo
  simp only
  rw [lookup_addRecordInfo (by simpa using hlast) (by decide),
    lookup_addRecordInfo (by simpa using hfirst) (by decide)]

/-- The flavor is set under a key of its own. -/
theorem lookup_setFlavor (h : key ≠ "flavor") (flavor : String) :
    (if flavor = "" then dic else dic.setItem "flavor" (.text flavor)).lookup key =
      dic.lookup key := by
  by_cases hflavor : flavor = ""
  · rw [if_pos hflavor]
  · rw [if_neg hflavor, Dict.lookup_setItem, if_neg h]

/-- What is set after the counts leaves them alone. -/
theorem lookup_streamInfo (hfirst : key.toList.head? ≠ some 'f')
    (hlast : key.toList.head? ≠ some 'l') (hname : key ≠ "device_name")
    (hserial : key ≠ "serial_number") (id : StreamId) :
    (streamInfo details id).lookup key =
      if key = "data_records_count" then some (.count (.ofNat (F.recordsOf id .data)))
      else if key = "state_records_count" then some (.count (.ofNat (F.recordsOf id .state)))
      else if key = "configuration_records_count" then
        some (.count (.ofNat (F.recordsOf id .configuration)))
      else none := by
  have hflavor : key ≠ "flavor" := by
    rintro rfl
    exact hfirst rfl
  unfold streamInfo
  simp only
  rw [lookup_addStreamInfo details hfirst hlast, lookup_addStreamInfo details hfirst hlast,
    lookup_addStreamInfo details hfirst hlast, lookup_setFlavor hflavor]
  simp only [Dict.lookup_setItem, if_neg hname, if_neg hserial, foldl_count, countP_getIndex,
    Int32.zero_add, AList.lookup_empty]

theorem hasCount_iff {id : StreamId} {type : RecordType}
    (h : dic.lookup key = some (.count (.ofNat (F.recordsOf id type)))) :
    HasCount dic key (F.recordsOf id type) ↔ F.recordsOf id type < 2 ^ 31 := by
  unfold HasCount
  rw [h]
  simp only [Option.some.injEq, StreamInfoValue.count.injEq, exists_eq_left']
  exact toInt_ofNat_eq_iff (F.recordsOf_lt id type)

theorem countsFit_iff {id : StreamId} :
    CountsFit F id ↔ F.recordsOf id .configuration < 2 ^ 31 ∧ F.recordsOf id .state < 2 ^ 31 ∧
      F.recordsOf id .data < 2 ^ 31 := by
  constructor
  · exact fun h => ⟨h _ (.inl rfl), h _ (.inr (.inr rfl)), h _ (.inr (.inl rfl))⟩
  · rintro ⟨hconfiguration, hstate, hdata⟩ type (rfl | rfl | rfl)
    · exact hconfiguration
    · exact hdata
    · exact hstate

end StreamInfo

/-! ## The types there are -/

section Types

variable {F}

theorem mem_typeNames {name : String} :
    name ∈ RecordSummaries.typeNames L F.summarySource ↔
      ∃ type, (0 < F.recordsOfType type ∧ F.recordsOfType type < 2 ^ 31) ∧
        lowercaseTypeName L type = name := by
  have hcount : ∀ type, RecordSummaries.countByRecordType F.summarySource type =
      .ofNat (F.recordsOfType type) := by
    intro type
    unfold RecordSummaries.countByRecordType RecordFileReader.summarySource
      RecordFileReader.recordsOfType
    rw [List.countP_map]
    rfl
  unfold RecordSummaries.typeNames
  simp only [List.mem_toFinset, List.mem_map, List.mem_filter, decide_eq_true_eq, hcount,
    ofNat_pos_iff (F.recordsOfType_lt _), RecordType.mem_values, true_and]

theorem typeNames_eq_empty_iff :
    RecordSummaries.typeNames L F.summarySource = ∅ ↔ NoTypeShows F := by
  rw [Finset.eq_empty_iff_forall_notMem]
  constructor
  · intro h type
    by_contra hshows
    exact h _ (mem_typeNames.2 ⟨type, by omega, rfl⟩)
  · intro h name hname
    obtain ⟨type, hshows, -⟩ := mem_typeNames.1 hname
    have := h type
    omega

/-- The types shown are those with a record, if their counts fit. -/
theorem typeNames_isExact_iff (htypes : Function.Injective (lowercaseTypeName L)) :
    (∀ name, name ∈ RecordSummaries.typeNames L F.summarySource ↔
        ∃ record ∈ F.index, name = lowercaseTypeName L record.recordType) ↔
      ∀ type, F.recordsOfType type < 2 ^ 31 := by
  have hpos : ∀ {type}, 0 < F.recordsOfType type ↔
      ∃ record ∈ F.index, record.recordType = type := by
    intro type
    unfold RecordFileReader.recordsOfType
    simp only [List.countP_pos_iff, decide_eq_true_eq]
  constructor
  · intro h type
    by_contra hlarge
    obtain ⟨record, hrecord, rfl⟩ := hpos.1 (by omega : 0 < F.recordsOfType type)
    obtain ⟨type, ⟨-, hsmall⟩, hname⟩ := mem_typeNames.1 ((h _).2 ⟨record, hrecord, rfl⟩)
    rw [htypes hname] at hsmall
    exact hlarge hsmall
  · intro hsmall name
    rw [mem_typeNames]
    constructor
    · rintro ⟨type, ⟨h, -⟩, rfl⟩
      obtain ⟨record, hrecord, rfl⟩ := hpos.1 h
      exact ⟨record, hrecord, rfl⟩
    · rintro ⟨record, hrecord, rfl⟩
      exact ⟨_, ⟨hpos.2 ⟨record, hrecord, rfl⟩, hsmall _⟩, rfl⟩

end Types

/-! ## The counts kept -/

section Counts

variable {F} {id : StreamId}

/-- The summaries are made from the records of the stream. -/
theorem count_entries_eq (id : StreamId) (type : RecordType) :
    F.summarySource.entries.count (id, type) = F.recordsOf id type := by
  unfold RecordFileReader.summarySource RecordFileReader.recordsOf
  rw [List.count, List.countP_map]
  refine List.countP_congr fun record _ => ?_
  simp

/-- No count is kept under another name. -/
theorem streamCounts_of_ne {name : String}
    (h : ∀ type : RecordType, type.IsCounted → name ≠ lowercaseTypeName L type) (id : StreamId) :
    RecordSummaries.streamCounts L F.summarySource id name = none :=
  RecordSummaries.streamCounts_eq_none (h _ (.inl rfl)) (h _ (.inr (.inl rfl)))
    (h _ (.inr (.inr rfl))) id

variable (htypes : Function.Injective (lowercaseTypeName L))

include htypes

theorem streamCounts_of_isCounted (hid : id ∈ F.streams) {type : RecordType}
    (htype : type.IsCounted) :
    RecordSummaries.streamCounts L F.summarySource id (lowercaseTypeName L type) =
      some (.ofNat (F.recordsOf id type)) := by
  have hne : ∀ {type' type : RecordType}, type' ≠ type →
      lowercaseTypeName L type' ≠ lowercaseTypeName L type := htypes.ne
  have hsource : id ∈ F.summarySource.streams := hid
  unfold RecordSummaries.streamCounts RecordSummaries.typeCounts
  rw [if_pos hsource]
  simp only [count_entries_eq]
  rcases htype with rfl | rfl | rfl
  · rw [Function.update_of_ne (hne (by decide)), Function.update_of_ne (hne (by decide)),
      Function.update_self]
  · rw [Function.update_of_ne (hne (by decide)), Function.update_self]
  · rw [Function.update_self]

theorem streamCounts_of_not_isCounted {type : RecordType} (htype : ¬type.IsCounted)
    (id : StreamId) :
    RecordSummaries.streamCounts L F.summarySource id (lowercaseTypeName L type) = none := by
  refine streamCounts_of_ne (fun type' htype' h => htype ?_) id
  rw [htypes h]
  exact htype'

/-- The counts kept are by the three types, if they fit. -/
theorem isCountByType_streamCounts_iff (hid : id ∈ F.streams) :
    IsCountByType F id (RecordSummaries.streamCounts L F.summarySource id) ↔ CountsFit F id := by
  constructor
  · intro h type htype
    have hn := (h (lowercaseTypeName L type) (F.recordsOf id type)).2 ⟨type, htype, rfl, rfl⟩
    rw [streamCounts_of_isCounted htypes hid htype, Option.map_some, Option.some.injEq] at hn
    exact (toInt_ofNat_eq_iff (F.recordsOf_lt id type)).1 hn
  · intro hfit
    have hkept : ∀ type : RecordType, type.IsCounted →
        (RecordSummaries.streamCounts L F.summarySource id (lowercaseTypeName L type)).map
          Int32.toInt = some (F.recordsOf id type : ℤ) := by
      intro type htype
      rw [streamCounts_of_isCounted htypes hid htype, Option.map_some,
        (toInt_ofNat_eq_iff (F.recordsOf_lt id type)).2 (hfit type htype)]
    intro name n
    constructor
    · intro h
      by_contra hnone
      have hne : ∀ type : RecordType, type.IsCounted → name ≠ lowercaseTypeName L type := by
        rintro type htype rfl
        rw [hkept type htype, Option.some.injEq] at h
        exact hnone ⟨type, htype, rfl, h.symm⟩
      rw [streamCounts_of_ne hne] at h
      cases h
    · rintro ⟨type, htype, rfl, rfl⟩
      exact hkept type htype

end Counts

/-! ## Runs of queries -/

section Runs

variable {F} {summaries : RecordSummaries} {before : List SummaryQuery} {id : StreamId}

theorem mem_streams_of_getStreamId
    (hnames : ∀ name id, F.getStreamForName name = some id → id ∈ F.streams) {streamId : String}
    (h : getStreamId F streamId = .ok id) : id ∈ F.streams :=
  hnames streamId id (SummarizedReader.getStreamId_eq_ok_iff.1 h)

/-- A query adds a count itself, or leaves one that was added unless it fills the summaries. -/
theorem countAdded_concat (c : SummaryQuery) :
    CountAdded F (before ++ [c]) id ↔
      (∃ streamId recordType, c = .summary (.getRecordsCount streamId recordType) ∧
        getStreamId F streamId = .ok id ∧ ¬recordType.IsCounted) ∨
      (CountAdded F before id ∧ (NoTypeShows F → c ≠ .summary .getAvailableRecordTypes)) := by
  constructor
  · rintro ⟨asked, streamId, recordType, since, hbefore, hid, htype, hsince⟩
    rcases since.eq_nil_or_concat with rfl | ⟨since, last, rfl⟩
    · obtain ⟨-, hc⟩ := List.append_inj' hbefore rfl
      exact .inl ⟨streamId, recordType, List.singleton_inj.1 hc, hid, htype⟩
    · rw [List.concat_eq_append, ← List.cons_append, ← List.append_assoc] at hbefore
      obtain ⟨hfront, hc⟩ := List.append_inj' hbefore rfl
      rw [List.singleton_inj] at hc
      subst hc
      simp only [List.concat_eq_append, List.mem_append, List.mem_singleton, not_or] at hsince
      exact .inr ⟨⟨asked, streamId, recordType, since, hfront, hid, htype,
        fun h => (hsince h).1⟩, fun h => Ne.symm (hsince h).2⟩
  · rintro (⟨streamId, recordType, rfl, hid, htype⟩ |
      ⟨⟨asked, streamId, recordType, since, rfl, hid, htype, hsince⟩, hc⟩)
    · exact ⟨before, streamId, recordType, [], rfl, hid, htype, fun _ => List.not_mem_nil⟩
    · refine ⟨asked, streamId, recordType, since ++ [c], by simp, hid, htype, fun h => ?_⟩
      rw [List.mem_append, List.mem_singleton, not_or]
      exact ⟨hsince h, Ne.symm (hc h)⟩

/-- A query that neither adds a count nor fills the summaries. -/
theorem countAdded_concat_of_keeps {c : SummaryQuery}
    (hasks : ∀ streamId recordType, c = .summary (.getRecordsCount streamId recordType) →
      getStreamId F streamId = .ok id → recordType.IsCounted)
    (hfills : NoTypeShows F → c ≠ .summary .getAvailableRecordTypes) :
    CountAdded F (before ++ [c]) id ↔ CountAdded F before id := by
  rw [countAdded_concat]
  constructor
  · rintro (⟨streamId, recordType, hc, hid, htype⟩ | ⟨hadded, -⟩)
    · exact absurd (hasks streamId recordType hc hid) htype
    · exact hadded
  · exact fun hadded => .inr ⟨hadded, hfills⟩

theorem not_countAdded_nil : ¬CountAdded F [] id := by
  rintro ⟨asked, streamId, recordType, since, h, -⟩
  simp at h

/-- The counts of a stream that a query works with. -/
abbrev countsOf (F : RecordFileReader L) (summaries : RecordSummaries) : StreamId → TypeCounts :=
  (summaries.withCounts L F.summarySource).counts

/-- What queries make of the summaries: counts of 0 are added to those kept, to the streams that
`CountAdded` tells. -/
structure Overlaid (F : RecordFileReader L) (before : List SummaryQuery)
    (summaries : RecordSummaries) : Prop where
  filled : RecordSummaries.FilledFrom L F.summarySource summaries
  counts_eq : ∀ id name,
    countsOf F summaries id name = RecordSummaries.streamCounts L F.summarySource id name ∨
      RecordSummaries.streamCounts L F.summarySource id name = none ∧
        countsOf F summaries id name = some 0
  added_iff : ∀ id ∈ F.streams,
    countsOf F summaries id ≠ RecordSummaries.streamCounts L F.summarySource id ↔
      CountAdded F before id

theorem overlaid_new : Overlaid F [] .new := by
  have hcounts : countsOf F .new = RecordSummaries.streamCounts L F.summarySource :=
    RecordSummaries.counts_initRecordSummaries
  refine ⟨.inr rfl, fun id name => .inl (by rw [hcounts]), fun id _ => ?_⟩
  rw [hcounts]
  exact iff_of_false (fun h => h rfl) not_countAdded_nil

/-- A query that leaves the counts alone. -/
theorem Overlaid.of_countsOf_eq (h : Overlaid F before summaries) {summaries' : RecordSummaries}
    (hfilled : RecordSummaries.FilledFrom L F.summarySource summaries')
    (hcounts : countsOf F summaries' = countsOf F summaries) {c : SummaryQuery}
    (hadded : ∀ id, CountAdded F (before ++ [c]) id ↔ CountAdded F before id) :
    Overlaid F (before ++ [c]) summaries' where
  filled := hfilled
  counts_eq id name := hcounts ▸ h.counts_eq id name
  added_iff id hid := by
    rw [hcounts, hadded]
    exact h.added_iff id hid

/-- The count of a type, as a number. -/
theorem Overlaid.countOf_eq (h : Overlaid F before summaries) (id : StreamId) (name : String) :
    RecordSummaries.countOf (countsOf F summaries) id name =
      RecordSummaries.countOf (RecordSummaries.streamCounts L F.summarySource) id name := by
  unfold RecordSummaries.countOf
  rcases h.counts_eq id name with hkept | ⟨hnone, hzero⟩
  · rw [hkept]
  · rw [hnone, hzero]
    rfl

/-- Counts that hold the count of a type already. -/
theorem holding_of_eq_some {counts : StreamId → TypeCounts} {name : String} {n : Int32}
    (h : counts id name = some n) : RecordSummaries.holding counts id name = counts := by
  unfold RecordSummaries.holding RecordSummaries.countOf
  rw [h, Option.getD_some, ← h, Function.update_eq_self, Function.update_eq_self]

/-- The types are filled again if there are none, which loses counts that were added only where
`CountAdded` tells. -/
theorem Overlaid.getAvailableRecordTypes (h : Overlaid F before summaries) :
    Overlaid F (before ++ [.summary .getAvailableRecordTypes])
      (RecordSummaries.call L F.summarySource (getStreamId F) summaries
        .getAvailableRecordTypes).2 := by
  have hfilled : RecordSummaries.FilledFrom L F.summarySource (RecordSummaries.call L
      F.summarySource (getStreamId F) summaries .getAvailableRecordTypes).2 := h.filled.call _
  have hcounts : countsOf F (RecordSummaries.call L F.summarySource (getStreamId F) summaries
      .getAvailableRecordTypes).2 =
      if summaries.recordTypes = ∅ then RecordSummaries.streamCounts L F.summarySource
      else countsOf F summaries := RecordSummaries.counts_getAvailableRecordTypes
  by_cases hnone : NoTypeShows F
  · -- the types filled are none, so the summaries are filled again
    have hempty : summaries.recordTypes = ∅ := by
      rcases h.filled with hfrom | rfl
      · exact hfrom.types_eq.trans (typeNames_eq_empty_iff.2 hnone)
      · rfl
    rw [if_pos hempty] at hcounts
    refine ⟨hfilled, fun id name => .inl (by rw [hcounts]), fun id _ => ?_⟩
    rw [hcounts, countAdded_concat]
    refine iff_of_false (fun hne => hne rfl) ?_
    rintro (⟨_, _, hc, -⟩ | ⟨-, hc⟩)
    · cases hc
    · exact hc hnone rfl
  · have hne : RecordSummaries.typeNames L F.summarySource ≠ ∅ :=
      mt typeNames_eq_empty_iff.1 hnone
    refine h.of_countsOf_eq hfilled ?_ fun id =>
      countAdded_concat_of_keeps (fun _ _ hc => nomatch hc) fun hnone' => absurd hnone' hnone
    rw [hcounts]
    split
    · rename_i hempty
      exact (h.filled.counts_of_empty hempty hne).symm
    · rfl

theorem holding_of_ne {counts : StreamId → TypeCounts} {id' : StreamId} {name name' : String}
    (h : ¬(id' = id ∧ name' = name)) :
    RecordSummaries.holding counts id name id' name' = counts id' name' := by
  unfold RecordSummaries.holding
  by_cases hid : id' = id
  · subst hid
    rw [Function.update_self, Function.update_of_ne fun hname => h ⟨rfl, hname⟩]
  · rw [Function.update_of_ne hid]

/-- A query about a stream that cannot be named leaves the counts alone. -/
theorem countsOf_of_error {streamId : String} {e : PyError}
    (h : getStreamId F streamId = .error e) {c : SummaryCall}
    (hc : (∃ recordType, c = .getRecordsCount streamId recordType) ∨
      c = .recordCountByTypeFromStreamId streamId) :
    countsOf F (RecordSummaries.call L F.summarySource (getStreamId F) summaries c).2 =
      countsOf F summaries := by
  rw [RecordSummaries.call_of_error L F.summarySource h hc]
  exact congrArg RecordSummaries.counts RecordSummaries.withCounts_withCounts

section GetRecordsCount

variable (htypes : Function.Injective (lowercaseTypeName L)) {streamId : String}
  {recordType : RecordType} (hname : getStreamId F streamId = .ok id)

include hname in
theorem countsOf_getRecordsCount :
    countsOf F (RecordSummaries.call L F.summarySource (getStreamId F) summaries
        (.getRecordsCount streamId recordType)).2 =
      RecordSummaries.holding (countsOf F summaries) id (lowercaseTypeName L recordType) := by
  rw [RecordSummaries.call_getRecordsCount L F.summarySource hname]
  exact RecordSummaries.counts_withCounts_mk _ _

include htypes hname

/-- A count that is kept is there already. -/
theorem Overlaid.getRecordsCount_of_isCounted (h : Overlaid F before summaries)
    (hid : id ∈ F.streams) (htype : recordType.IsCounted) :
    Overlaid F (before ++ [.summary (.getRecordsCount streamId recordType)])
      (RecordSummaries.call L F.summarySource (getStreamId F) summaries
        (.getRecordsCount streamId recordType)).2 := by
  have hkept := streamCounts_of_isCounted htypes hid htype
  have hheld : countsOf F summaries id (lowercaseTypeName L recordType) =
      some (.ofNat (F.recordsOf id recordType)) := by
    rcases h.counts_eq id (lowercaseTypeName L recordType) with heq | ⟨hnone, -⟩
    · rw [heq, hkept]
    · rw [hkept] at hnone
      cases hnone
  refine h.of_countsOf_eq (h.filled.call _) ?_ fun id' =>
    countAdded_concat_of_keeps (fun _ _ hc _ => ?_) fun _ => by simp
  · rw [countsOf_getRecordsCount hname, holding_of_eq_some hheld]
  · cases hc
    exact htype

/-- Another is added. -/
theorem Overlaid.getRecordsCount_of_not_isCounted (h : Overlaid F before summaries)
    (htype : ¬recordType.IsCounted) :
    Overlaid F (before ++ [.summary (.getRecordsCount streamId recordType)])
      (RecordSummaries.call L F.summarySource (getStreamId F) summaries
        (.getRecordsCount streamId recordType)).2 := by
  have hcounts : countsOf F (RecordSummaries.call L F.summarySource (getStreamId F) summaries
      (.getRecordsCount streamId recordType)).2 = _ := countsOf_getRecordsCount hname
  have hnone := streamCounts_of_not_isCounted htypes htype (F := F) id
  have hself : RecordSummaries.holding (countsOf F summaries) id (lowercaseTypeName L recordType)
      id (lowercaseTypeName L recordType) = some 0 := by
    rw [RecordSummaries.holding, Function.update_self, Function.update_self, h.countOf_eq,
      RecordSummaries.countOf, hnone]
    rfl
  refine ⟨h.filled.call _, fun id' name => ?_, fun id' hid' => ?_⟩
  · rw [hcounts]
    by_cases hkey : id' = id ∧ name = lowercaseTypeName L recordType
    · obtain ⟨rfl, rfl⟩ := hkey
      exact .inr ⟨hnone, hself⟩
    · rw [holding_of_ne hkey]
      exact h.counts_eq id' name
  · rw [hcounts]
    by_cases heq : id' = id
    · subst heq
      refine iff_of_true (fun hcontra => ?_)
        ((countAdded_concat _).2 (.inl ⟨_, _, rfl, hname, htype⟩))
      rw [hcontra, hnone] at hself
      cases hself
    · have hother : RecordSummaries.holding (countsOf F summaries) id
          (lowercaseTypeName L recordType) id' = countsOf F summaries id' :=
        funext fun name => holding_of_ne fun hkey => heq hkey.1
      rw [hother, h.added_iff id' hid']
      symm
      refine countAdded_concat_of_keeps (fun _ _ hc hname' => ?_) fun _ => by simp
      cases hc
      rw [hname, Except.ok.injEq] at hname'
      exact absurd hname'.symm heq

end GetRecordsCount

/-- **What a query makes of the summaries.** -/
theorem Overlaid.query (htypes : Function.Injective (lowercaseTypeName L))
    (hnames : ∀ name id, F.getStreamForName name = some id → id ∈ F.streams)
    (h : Overlaid F before summaries) (c : SummaryQuery) :
    Overlaid F (before ++ [c]) (query details summaries c).2 := by
  cases c with
  | getStreamInfo streamId =>
    exact h.of_countsOf_eq h.filled rfl fun id =>
      countAdded_concat_of_keeps (fun _ _ hc => nomatch hc) fun _ => by simp
  | summary c =>
    show Overlaid F _ (RecordSummaries.call L F.summarySource (getStreamId F) summaries c).2
    cases c with
    | getAvailableRecordTypes => exact h.getAvailableRecordTypes
    | getRecordsCount streamId recordType =>
      cases hname : getStreamId F streamId with
      | error e =>
        refine h.of_countsOf_eq (h.filled.call _) ?_ fun id =>
          countAdded_concat_of_keeps (fun _ _ hc hid => ?_) fun _ => by simp
        · rw [countsOf_of_error hname (.inl ⟨_, rfl⟩)]
        · cases hc
          rw [hname] at hid
          cases hid
      | ok id =>
        have hid := mem_streams_of_getStreamId hnames hname
        by_cases htype : recordType.IsCounted
        · exact h.getRecordsCount_of_isCounted htypes hname hid htype
        · exact h.getRecordsCount_of_not_isCounted htypes hname htype
    | recordCountByTypeFromStreamId streamId =>
      refine h.of_countsOf_eq (h.filled.call _) ?_ fun id =>
        countAdded_concat_of_keeps (fun _ _ hc => nomatch hc) fun _ => by simp
      cases hname : getStreamId F streamId with
      | error e => rw [countsOf_of_error hname (.inr rfl)]
      | ok id =>
        rw [RecordSummaries.call_recordCountByTypeFromStreamId L F.summarySource hname]
        exact RecordSummaries.counts_withCounts_mk _ _

/-- The counts of a stream are the three kept as long as none was added and they fit. -/
theorem Overlaid.isCountByType_iff (htypes : Function.Injective (lowercaseTypeName L))
    (h : Overlaid F before summaries) (hid : id ∈ F.streams) :
    IsCountByType F id (countsOf F summaries id) ↔
      ¬CountAdded F before id ∧ CountsFit F id := by
  by_cases hkept : countsOf F summaries id = RecordSummaries.streamCounts L F.summarySource id
  · rw [hkept, isCountByType_streamCounts_iff htypes hid, ← h.added_iff id hid]
    exact (and_iff_right (not_not.2 hkept)).symm
  · refine iff_of_false (fun hcounts => ?_) fun hnot => hnot.1 ((h.added_iff id hid).1 hkept)
    obtain ⟨name, hname⟩ := Function.ne_iff.1 hkept
    rcases h.counts_eq id name with heq | ⟨hnone, hzero⟩
    · exact hname heq
    · -- a count that was added is none of the three
      obtain ⟨type, htype, rfl, -⟩ := (hcounts name 0).1 (by rw [hzero]; rfl)
      rw [streamCounts_of_isCounted htypes hid htype] at hnone
      cases hnone

theorem overlaid_exec (htypes : Function.Injective (lowercaseTypeName L))
    (hnames : ∀ name id, F.getStreamForName name = some id → id ∈ F.streams)
    (before : List SummaryQuery) : Overlaid F before ((query details).exec .new before) :=
  Machine.exec_of_history (I := fun summaries before => Overlaid F before summaries)
    (fun _ _ c h => h.query details htypes hnames c) overlaid_new before

end Runs

/-! ## The answers -/

section Answers

variable {F} {summaries : RecordSummaries} {before : List SummaryQuery} {id : StreamId}

theorem query_getAvailableRecordTypes (h : Overlaid F before summaries) :
    (query details summaries (.summary .getAvailableRecordTypes)).1 =
      .ok (.summary (.types (RecordSummaries.typeNames L F.summarySource))) :=
  congrArg (fun names => Except.ok (SummaryAnswer.summary (.types names)))
    h.filled.getAvailableRecordTypes

theorem getAvailableRecordTypes_isExact_iff (htypes : Function.Injective (lowercaseTypeName L))
    (h : Overlaid F before summaries) :
    IsExact F (query details summaries (.summary .getAvailableRecordTypes)).1
        (.summary .getAvailableRecordTypes) ↔
      IsKept F before (.summary .getAvailableRecordTypes) := by
  rw [query_getAvailableRecordTypes details h]
  unfold IsExact IsKept
  simp only [Except.ok.injEq, SummaryAnswer.summary.injEq, SummaryValue.types.injEq,
    exists_eq_left']
  exact typeNames_isExact_iff htypes

/-- What is answered about a stream that can be named. -/
theorem answersAbout_iff {streamId : String} (hname : getStreamId F streamId = .ok id)
    {answer : SummaryAnswer} {spec : StreamId → SummaryAnswer → Prop} :
    AnswersAbout F streamId (.ok answer) spec ↔ spec id answer := by
  unfold AnswersAbout
  rw [hname]
  simp

theorem answersAbout_of_error {streamId : String} {e : PyError}
    (hname : getStreamId F streamId = .error e) {spec : StreamId → SummaryAnswer → Prop} :
    AnswersAbout F streamId (.error e) spec := by
  unfold AnswersAbout
  rw [hname]
  simp

theorem query_of_error {streamId : String} {e : PyError} (hname : getStreamId F streamId = .error e)
    {c : SummaryCall} (hc : (∃ recordType, c = .getRecordsCount streamId recordType) ∨
      c = .recordCountByTypeFromStreamId streamId) :
    (query details summaries (.summary c)).1 = .error e := by
  unfold query
  simp only
  rw [RecordSummaries.call_of_error L F.summarySource hname hc]
  rfl

theorem query_getRecordsCount {streamId : String} (hname : getStreamId F streamId = .ok id)
    (recordType : RecordType) :
    (query details summaries (.summary (.getRecordsCount streamId recordType))).1 =
      .ok (.summary (.count (RecordSummaries.countOf (countsOf F summaries) id
        (lowercaseTypeName L recordType)))) := by
  unfold query
  simp only
  rw [RecordSummaries.call_getRecordsCount L F.summarySource hname]
  rfl

theorem query_recordCountByTypeFromStreamId {streamId : String}
    (hname : getStreamId F streamId = .ok id) :
    (query details summaries (.summary (.recordCountByTypeFromStreamId streamId))).1 =
      .ok (.summary (.counts (countsOf F summaries id))) := by
  unfold query
  simp only
  rw [RecordSummaries.call_recordCountByTypeFromStreamId L F.summarySource hname]
  rfl

/-- A type without a count is answered with 0, whether it has records or not. -/
theorem countOf_streamCounts (htypes : Function.Injective (lowercaseTypeName L))
    (hid : id ∈ F.streams) (recordType : RecordType) :
    RecordSummaries.countOf (RecordSummaries.streamCounts L F.summarySource) id
        (lowercaseTypeName L recordType) =
      if recordType.IsCounted then .ofNat (F.recordsOf id recordType) else 0 := by
  unfold RecordSummaries.countOf
  by_cases htype : recordType.IsCounted
  · rw [if_pos htype, streamCounts_of_isCounted htypes hid htype]
    rfl
  · rw [if_neg htype, streamCounts_of_not_isCounted htypes htype]
    rfl

section

variable (htypes : Function.Injective (lowercaseTypeName L))
  (hnames : ∀ name id, F.getStreamForName name = some id → id ∈ F.streams)

include htypes hnames

theorem getRecordsCount_isExact_iff (h : Overlaid F before summaries) (streamId : String)
    (recordType : RecordType) :
    IsExact F (query details summaries (.summary (.getRecordsCount streamId recordType))).1
        (.summary (.getRecordsCount streamId recordType)) ↔
      IsKept F before (.summary (.getRecordsCount streamId recordType)) := by
  show AnswersAbout F streamId _ _ ↔ ∀ id, getStreamId F streamId = .ok id → _
  cases hname : getStreamId F streamId with
  | error e =>
    rw [query_of_error details hname (.inl ⟨_, rfl⟩)]
    exact iff_of_true (answersAbout_of_error hname) (by simp)
  | ok id =>
    have hid := mem_streams_of_getStreamId hnames hname
    rw [query_getRecordsCount details hname, answersAbout_iff hname, h.countOf_eq,
      countOf_streamCounts htypes hid]
    simp only [SummaryAnswer.summary.injEq, SummaryValue.count.injEq, exists_eq_left',
      Except.ok.injEq, forall_eq']
    by_cases htype : recordType.IsCounted
    · rw [if_pos htype, toInt_ofNat_eq_iff (F.recordsOf_lt id recordType)]
      simp only [htype, true_and]
      omega
    · simp only [htype, if_false, false_and, false_or, Int32.toInt_zero]
      omega

theorem recordCountByTypeFromStreamId_isExact_iff (h : Overlaid F before summaries)
    (streamId : String) :
    IsExact F (query details summaries (.summary (.recordCountByTypeFromStreamId streamId))).1
        (.summary (.recordCountByTypeFromStreamId streamId)) ↔
      IsKept F before (.summary (.recordCountByTypeFromStreamId streamId)) := by
  show AnswersAbout F streamId _ _ ↔ ∀ id, getStreamId F streamId = .ok id → _
  cases hname : getStreamId F streamId with
  | error e =>
    rw [query_of_error details hname (.inr rfl)]
    exact iff_of_true (answersAbout_of_error hname) (by simp)
  | ok id =>
    have hid := mem_streams_of_getStreamId hnames hname
    rw [query_recordCountByTypeFromStreamId details hname, answersAbout_iff hname]
    simp only [SummaryAnswer.summary.injEq, SummaryValue.counts.injEq, Except.ok.injEq,
      forall_eq', exists_eq_left']
    exact h.isCountByType_iff htypes hid

end

theorem getStreamInfo_isExact_iff (streamId : String) :
    IsExact F (query details summaries (.getStreamInfo streamId)).1 (.getStreamInfo streamId) ↔
      IsKept F before (.getStreamInfo streamId) := by
  show AnswersAbout F streamId ((getStreamInfo details streamId).map .streamInfo) _ ↔
    ∀ id, getStreamId F streamId = .ok id → _
  unfold getStreamInfo
  cases hname : getStreamId F streamId with
  | error e => exact iff_of_true (answersAbout_of_error hname) (by simp)
  | ok id =>
    have hlookup : ∀ {key type}, (streamInfo details id).lookup key =
        some (.count (.ofNat (F.recordsOf id type))) →
        (HasCount (streamInfo details id) key (F.recordsOf id type) ↔
          F.recordsOf id type < 2 ^ 31) := hasCount_iff
    show AnswersAbout F streamId (.ok (.streamInfo (streamInfo details id))) _ ↔ _
    rw [answersAbout_iff hname]
    simp only [SummaryAnswer.streamInfo.injEq, exists_eq_left', Except.ok.injEq, forall_eq']
    rw [countsFit_iff, hlookup, hlookup, hlookup]
    all_goals
      rw [lookup_streamInfo details (by decide) (by decide) (by decide) (by decide)]
      rfl

/-- **When an answer is exact.** -/
theorem isExact_iff (htypes : Function.Injective (lowercaseTypeName L))
    (hnames : ∀ name id, F.getStreamForName name = some id → id ∈ F.streams)
    (h : Overlaid F before summaries) (c : SummaryQuery) :
    IsExact F (query details summaries c).1 c ↔ IsKept F before c := by
  cases c with
  | getStreamInfo streamId => exact getStreamInfo_isExact_iff details streamId
  | summary c =>
    cases c with
    | getAvailableRecordTypes => exact getAvailableRecordTypes_isExact_iff details htypes h
    | getRecordsCount streamId recordType =>
      exact getRecordsCount_isExact_iff details htypes hnames h streamId recordType
    | recordCountByTypeFromStreamId streamId =>
      exact recordCountByTypeFromStreamId_isExact_iff details htypes hnames h streamId

/-- **Which answers are those of a new reader**: only the counts by type can differ. -/
theorem query_eq_new (hnames : ∀ name id, F.getStreamForName name = some id → id ∈ F.streams)
    (h : Overlaid F before summaries) {c : SummaryQuery} (hc : IsKept F before c) :
    (query details summaries c).1 = (query details .new c).1 := by
  cases c with
  | getStreamInfo streamId => rfl
  | summary c =>
    cases c with
    | getAvailableRecordTypes =>
      rw [query_getAvailableRecordTypes details h,
        query_getAvailableRecordTypes details overlaid_new]
    | getRecordsCount streamId recordType =>
      cases hname : getStreamId F streamId with
      | error e =>
        rw [query_of_error details hname (.inl ⟨_, rfl⟩),
          query_of_error details hname (.inl ⟨_, rfl⟩)]
      | ok id =>
        rw [query_getRecordsCount details hname, query_getRecordsCount details hname,
          h.countOf_eq, overlaid_new.countOf_eq]
    | recordCountByTypeFromStreamId streamId =>
      cases hname : getStreamId F streamId with
      | error e =>
        rw [query_of_error details hname (.inr rfl), query_of_error details hname (.inr rfl)]
      | ok id =>
        have hid := mem_streams_of_getStreamId hnames hname
        have hkept : countsOf F summaries id =
            RecordSummaries.streamCounts L F.summarySource id :=
          not_not.1 (mt (h.added_iff id hid).1 (hc id hname).1)
        rw [query_recordCountByTypeFromStreamId details hname,
          query_recordCountByTypeFromStreamId details hname, hkept]
        exact congrArg (fun counts => Except.ok (SummaryAnswer.summary (.counts (counts id))))
          RecordSummaries.counts_initRecordSummaries.symm

end Answers

/-- **Queries are exact and leave each other alone, the added counts apart.** After any queries
on an open file, an answer is what the index says and what a new reader answers if and only if what
it asks for is kept. -/
theorem query_exact_iff (F : RecordFileReader L) (details : StreamDetails F)
    (htypes : Function.Injective (lowercaseTypeName L))
    (hnames : ∀ name id, F.getStreamForName name = some id → id ∈ F.streams)
    (before : List SummaryQuery) (c : SummaryQuery) :
    let reply := (query details ((query details).exec .new before) c).1
    (IsExact F reply c ∧ reply = (query details .new c).1) ↔ IsKept F before c := by
  intro reply
  have h := overlaid_exec details htypes hnames before
  have hexact : IsExact F reply c ↔ IsKept F before c := isExact_iff details htypes hnames h c
  exact ⟨fun hboth => hexact.1 hboth.1,
    fun hkept => ⟨hexact.2 hkept, query_eq_new details hnames h hkept⟩⟩

/-- The counts of 1201-1 after all kinds of queries, of which one added a count to those of
1202-1. -/
theorem query_exact_iff_of_twoStreamsFile :
    let before : List SummaryQuery :=
      [.summary (.getRecordsCount "1202-1" .undefined), .summary .getAvailableRecordTypes,
        .getStreamInfo "1201-1", .summary (.getRecordsCount "1201-1" .data)]
    let c : SummaryQuery := .summary (.recordCountByTypeFromStreamId "1201-1")
    let reply := (query (.ofIndex twoStreamsFile)
      ((query (.ofIndex twoStreamsFile)).exec .new before) c).1
    (IsExact twoStreamsFile reply c ∧
        reply = (query (.ofIndex twoStreamsFile) .new c).1) ↔ IsKept twoStreamsFile before c :=
  query_exact_iff twoStreamsFile (.ofIndex twoStreamsFile)
    (fun type type' h => by revert h; cases type <;> cases type' <;> decide +kernel)
    (fun name _ h => List.mem_of_find?_eq_some
      (p := fun id => VrsLib.bare.getNumericName id = name) h)
    [.summary (.getRecordsCount "1202-1" .undefined), .summary .getAvailableRecordTypes,
      .getStreamInfo "1201-1", .summary (.getRecordsCount "1201-1" .data)]
    (.summary (.recordCountByTypeFromStreamId "1201-1"))

/-- Once the number of its undefined records was asked for, the counts of a stream have a fourth
key. -/
theorem not_query_exact :
    ¬∀ (before : List SummaryQuery) (c : SummaryQuery),
      let reply := (query (.ofIndex stateFile) ((query (.ofIndex stateFile)).exec .new before) c).1
      IsExact stateFile reply c ∧ reply = (query (.ofIndex stateFile) .new c).1 := by
  intro h
  have hreply := (h [.summary (.getRecordsCount "1201-1" .undefined)]
    (.summary (.recordCountByTypeFromStreamId "1201-1"))).2
  have hname : getStreamId stateFile "1201-1" = .ok ⟨1201, 1⟩ :=
    SummarizedReader.getStreamId_eq_ok_iff.2 (by decide +kernel)
  rw [query_recordCountByTypeFromStreamId _ hname, query_recordCountByTypeFromStreamId _ hname,
    Except.ok.injEq, SummaryAnswer.summary.injEq, SummaryValue.counts.injEq] at hreply
  exact absurd (congrFun hreply "undefined") (by decide +kernel)

end OssVRSReader

end Pyvrs
