import Mathlib.Data.Finset.Image
import Mathlib.Logic.Function.Basic
import Pyvrs.Reader.MultiVRSReader

/-!
# Record summaries

Both readers keep a summary of the records of their file, filled when it is first asked for: the
names of the types of record there are, and for every stream the number of its records of each type.
The two maps are guarded by being empty, each on its own, and looking a stream or a type up in the
counts adds it to them. Records are counted in an `int`, which wraps around.
-/

namespace Pyvrs

open Foundations

/-- The values of `Record::Type` below `COUNT`. -/
def RecordType.values : List RecordType := [.undefined, .state, .configuration, .data, .tags]

theorem RecordType.mem_values (type : RecordType) : type ∈ RecordType.values := by
  cases type <;> decide

/-- What the summaries are made from: the streams, and the stream and type of each record. -/
structure SummarySource where
  streams : List StreamId
  entries : List (StreamId × RecordType)
  mem_streams : ∀ e ∈ entries, e.1 ∈ streams

/-- The records of one file. -/
def RecordFileReader.summarySource {L : VrsLib} (F : RecordFileReader L) : SummarySource where
  streams := F.streams
  entries := F.index.map fun record => (record.streamId, record.recordType)
  mem_streams e he := by
    obtain ⟨record, hrecord, rfl⟩ := List.mem_map.1 he
    exact F.mem_streams record hrecord

/-- The records of several files, by their unique streams. -/
def MultiRecordFileReader.summarySource {L : VrsLib} (F : MultiRecordFileReader L) :
    SummarySource where
  streams := F.streams
  entries := F.records.mapIdx fun i record => (F.getUniqueStreamId i, record.recordType)
  mem_streams e he := by
    obtain ⟨i, hi, rfl⟩ := List.mem_mapIdx.1 he
    exact F.mem_streams i hi

/-- `map<string, int>`, the counts of a stream by the name of a type. -/
abbrev TypeCounts := String → Option Int32

/-- `recordTypes_` and `recordCountsByTypeAndStreamIdMap_`. -/
structure RecordSummaries where
  recordTypes : Finset String
  /-- The counts of the streams, empty for those not held; `none` while the map is empty. -/
  recordCountsByTypeAndStreamId : Option (StreamId → TypeCounts)

namespace RecordSummaries

/-- The summaries of a new reader. -/
def new : RecordSummaries := ⟨∅, none⟩

variable (L : VrsLib) (source : SummarySource)

/-- `countsByRecordType`. -/
def countByRecordType (type : RecordType) : Int32 :=
  .ofNat (source.entries.countP fun e => e.2 = type)

/-- The names of the types whose count is positive. -/
def typeNames : Finset String :=
  ((RecordType.values.filter fun type =>
    0 < countByRecordType source type).map (lowercaseTypeName L)).toFinset

/-- The three counts kept for a stream. -/
def typeCounts (id : StreamId) : TypeCounts :=
  let counts : TypeCounts := fun _ => none
  let counts := Function.update counts (lowercaseTypeName L .configuration)
    (some (.ofNat (source.entries.count (id, .configuration))))
  let counts := Function.update counts (lowercaseTypeName L .data)
    (some (.ofNat (source.entries.count (id, .data))))
  Function.update counts (lowercaseTypeName L .state)
    (some (.ofNat (source.entries.count (id, .state))))

/-- The counts of every stream. -/
def streamCounts (id : StreamId) : TypeCounts :=
  if id ∈ source.streams then typeCounts L source id else fun _ => none

/-- `initRecordSummaries`. -/
def initRecordSummaries : RecordSummaries where
  recordTypes := typeNames L source
  recordCountsByTypeAndStreamId :=
    if source.streams = [] then none else some (streamCounts L source)

variable (getStreamId : String → Except PyError StreamId) (summaries : RecordSummaries)

/-- `getAvailableRecordTypes`. -/
def getAvailableRecordTypes : Finset String × RecordSummaries :=
  let summaries :=
    if summaries.recordTypes = ∅ then initRecordSummaries L source else summaries
  (summaries.recordTypes, summaries)

/-- The summaries once the counts are filled. -/
def withCounts : RecordSummaries :=
  if summaries.recordCountsByTypeAndStreamId.isNone then initRecordSummaries L source
  else summaries

/-- The counts held, none while the map is empty. -/
def counts (id : StreamId) : TypeCounts :=
  summaries.recordCountsByTypeAndStreamId.getD (fun _ _ => none) id

/-- `recordCountByTypeFromStreamId`. -/
def recordCountByTypeFromStreamId (streamId : String) :
    Except PyError TypeCounts × RecordSummaries :=
  let summaries := summaries.withCounts L source
  match getStreamId streamId with
  | .error e => (.error e, summaries)
  | .ok id =>
    (.ok (summaries.counts id),
      { summaries with recordCountsByTypeAndStreamId := some summaries.counts })

/-- `getRecordsCount`: a type that has no count yet gets the count 0. -/
def getRecordsCount (streamId : String) (recordType : RecordType) :
    Except PyError Int32 × RecordSummaries :=
  let summaries := summaries.withCounts L source
  match getStreamId streamId with
  | .error e => (.error e, summaries)
  | .ok id =>
    let name := lowercaseTypeName L recordType
    let count := (summaries.counts id name).getD 0
    (.ok count, { summaries with
      recordCountsByTypeAndStreamId := some (Function.update summaries.counts id
        (Function.update (summaries.counts id) name (some count))) })

end RecordSummaries

/-- The queries on the summaries. -/
inductive SummaryCall
  | getAvailableRecordTypes
  | getRecordsCount (streamId : String) (recordType : RecordType)
  | recordCountByTypeFromStreamId (streamId : String)
  deriving DecidableEq

/-- What they return. -/
inductive SummaryValue
  | types (names : Finset String)
  | count (n : Int32)
  | counts (counts : TypeCounts)

namespace RecordSummaries

variable (L : VrsLib) (source : SummarySource) (getStreamId : String → Except PyError StreamId)

/-- One query. -/
def call : Machine RecordSummaries SummaryCall (Except PyError SummaryValue)
  | summaries, .getAvailableRecordTypes =>
    let (names, summaries) := summaries.getAvailableRecordTypes L source
    (.ok (.types names), summaries)
  | summaries, .getRecordsCount streamId recordType =>
    let (count, summaries) := summaries.getRecordsCount L source getStreamId streamId recordType
    (count.map .count, summaries)
  | summaries, .recordCountByTypeFromStreamId streamId =>
    let (counts, summaries) :=
      summaries.recordCountByTypeFromStreamId L source getStreamId streamId
    (counts.map .counts, summaries)

end RecordSummaries

end Pyvrs
