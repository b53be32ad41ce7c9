import Mathlib.Data.Finset.Sort
import Mathlib.Data.String.Basic
import Pyvrs.Reader.RecordSummaries
import Pyvrs.Reader.Refinement

/-!
# The Python readers

`VRSReader` of `reader.py` opens a `Reader` or a `MultiReader` and asks it once for what its file
holds. `filtered_by_fields` fills in the arguments that are omitted, matches them with what there
is, and makes a `FilteredVRSReader` of the records that the native reader finds for the filter. Sets
are handed to C++ as `std::set<string>`, in order.
-/

namespace Pyvrs

open Foundations

variable {L : VrsLib}

/-! ## What is asked of the native readers -/

namespace OssVRSReader

variable (F : RecordFileReader L)

/-- `getMaxAvailableTimestamp`. -/
def getMaxAvailableTimestamp : Timestamp :=
  match F.index.getLast? with
  | none => .ofRat 0
  | some record => record.timestamp

/-- `getMinAvailableTimestamp`. -/
def getMinAvailableTimestamp : Timestamp :=
  match F.index.head? with
  | none => .ofRat 0
  | some record => record.timestamp

/-- `getAvailableRecordsSize`. -/
def getAvailableRecordsSize : ℕ := F.index.length

/-- `getAvailableStreamIds`. -/
def getAvailableStreamIds : Finset String := (F.streams.map L.getNumericName).toFinset

end OssVRSReader

namespace OssMultiVRSReader

variable (F : MultiRecordFileReader L)

/-- `getMaxAvailableTimestamp`. -/
def getMaxAvailableTimestamp : Timestamp :=
  if F.getRecordCount = 0 then .ofRat 0
  else ((F.getRecord (F.getRecordCount - 1)).map RecordInfo.timestamp).getD .nan

/-- `getMinAvailableTimestamp`. -/
def getMinAvailableTimestamp : Timestamp :=
  if F.getRecordCount = 0 then .ofRat 0
  else ((F.getRecord 0).map RecordInfo.timestamp).getD .nan

/-- `getAvailableRecordsSize`. -/
def getAvailableRecordsSize : ℕ := F.getRecordCount

/-- `getAvailableStreamIds`. -/
def getAvailableStreamIds : Finset String := (F.streams.map L.getNumericName).toFinset

end OssMultiVRSReader

/-- `Reader` and `MultiReader`, with their files open. -/
inductive NativeReader (L : VrsLib)
  | reader (F : RecordFileReader L)
  | multiReader (F : MultiRecordFileReader L)

namespace NativeReader

/-- `get_available_records_size`. -/
def getAvailableRecordsSize : NativeReader L → ℕ
  | reader F => OssVRSReader.getAvailableRecordsSize F
  | multiReader F => OssMultiVRSReader.getAvailableRecordsSize F

/-- `get_available_record_types`, of a reader that was not asked before. -/
def getAvailableRecordTypes : NativeReader L → Finset String
  | reader F => (RecordSummaries.new.getAvailableRecordTypes L F.summarySource).1
  | multiReader F => (RecordSummaries.new.getAvailableRecordTypes L F.summarySource).1

/-- `get_available_stream_ids`. -/
def getAvailableStreamIds : NativeReader L → Finset String
  | reader F => OssVRSReader.getAvailableStreamIds F
  | multiReader F => OssMultiVRSReader.getAvailableStreamIds F

/-- `get_min_available_timestamp`. -/
def getMinAvailableTimestamp : NativeReader L → Timestamp
  | reader F => OssVRSReader.getMinAvailableTimestamp F
  | multiReader F => OssMultiVRSReader.getMinAvailableTimestamp F

/-- `get_max_available_timestamp`. -/
def getMaxAvailableTimestamp : NativeReader L → Timestamp
  | reader F => OssVRSReader.getMaxAvailableTimestamp F
  | multiReader F => OssMultiVRSReader.getMaxAvailableTimestamp F

/-- `get_timestamp_for_index`. -/
def getTimestampForIndex : NativeReader L → Int32 → Except PyError Timestamp
  | reader F => OssVRSReader.getTimestampForIndex F
  | multiReader F => OssMultiVRSReader.getTimestampForIndex F

/-- `regenerate_enabled_indices`. -/
def regenerateEnabledIndices : NativeReader L → Finset String → Finset String → Timestamp →
    Timestamp → Except PyError (List Int32)
  | reader F, recordTypes, streamIds, minEnabledTimestamp, maxEnabledTimestamp =>
    OssVRSReader.regenerateEnabledIndices F recordTypes.sort streamIds.sort minEnabledTimestamp
      maxEnabledTimestamp
  | multiReader F, recordTypes, streamIds, minEnabledTimestamp, maxEnabledTimestamp =>
    OssMultiVRSReader.regenerateEnabledIndices F recordTypes.sort streamIds.sort
      minEnabledTimestamp maxEnabledTimestamp

end NativeReader

/-! ## Filters -/

/-- `_filter_set_on_condition`. -/
def filterSetOnCondition (s : Finset String) (items : List String)
    (condFunc : String → String → Bool) : Finset String :=
  s.filter fun a => items.any fun b => condFunc a b

/-- `filter_by_stream_ids`, with Python's `fnmatch`. -/
def filterByStreamIds (fnmatch : String → String → Bool) (availableStreamIds : Finset String)
    (regexStreamIds : List String) : Finset String :=
  filterSetOnCondition availableStreamIds regexStreamIds fun a b => fnmatch a b

/-- `filter_by_record_type`. -/
def filterByRecordType (availableRecordTypes : Finset String)
    (requestedRecordTypes : List String) : Finset String :=
  filterSetOnCondition availableRecordTypes requestedRecordTypes fun a b => a = b

/-- `RecordFilter`. -/
structure RecordFilter where
  recordTypes : Finset String
  streamIds : Finset String
  minTimestamp : Timestamp
  maxTimestamp : Timestamp

/-- A value of type `Iterable[str] | str | None`. -/
inductive Texts
  | none
  | str (text : String)
  | iterable (texts : List String)

/-- The items, where the default is a set. -/
def Texts.items (default : Finset String) : Texts → List String
  | none => default.sort
  | str text => [text]
  | iterable texts => texts

/-- The arguments of `filtered_by_fields`. -/
structure FilterFields where
  streamIds : Texts
  recordTypes : Texts
  minTimestamp : Option Timestamp
  maxTimestamp : Option Timestamp

/-- No argument of `filtered_by_fields` is given. -/
def FilterFields.omitted : FilterFields := ⟨.none, .none, none, none⟩

/-! ## Readers -/

/-- `VRSReader`, with what it asked its reader for. -/
structure VRSReader (L : VrsLib) where
  reader : NativeReader L
  nRecords : ℕ
  recordTypes : Finset String
  streamIds : Finset String
  minTimestamp : Timestamp
  maxTimestamp : Timestamp

/-- `FilteredVRSReader`. -/
structure FilteredVRSReader (L : VrsLib) where
  reader : VRSReader L
  recordFilter : RecordFilter
  filteredIndices : List Int32
  minTimestamp : Timestamp
  maxTimestamp : Timestamp

namespace VRSReader

/-- `VRSReader.__init__`, once the files are open. -/
def init (reader : NativeReader L) : VRSReader L where
  reader
  nRecords := reader.getAvailableRecordsSize
  recordTypes := reader.getAvailableRecordTypes
  streamIds := reader.getAvailableStreamIds
  minTimestamp := reader.getMinAvailableTimestamp
  maxTimestamp := reader.getMaxAvailableTimestamp

variable (self : VRSReader L)

/-- `get_timestamp_for_index`. -/
def getTimestampForIndex (index : Int32) : Except PyError Timestamp :=
  if self.nRecords ≤ index.toInt then
    .error (.indexError ("Index " ++ toString index ++ " is out of range."))
  else self.reader.getTimestampForIndex index

/-- `_generate_filtered_indices`. -/
def generateFilteredIndices (recordFilter : RecordFilter) : Except PyError (List Int32) :=
  self.reader.regenerateEnabledIndices recordFilter.recordTypes recordFilter.streamIds
    recordFilter.minTimestamp recordFilter.maxTimestamp

/-- The filter that `filtered_by_fields` makes of its arguments. -/
def recordFilter (fnmatch : String → String → Bool) (fields : FilterFields) : RecordFilter where
  recordTypes := filterByRecordType self.recordTypes (fields.recordTypes.items self.recordTypes)
  streamIds := filterByStreamIds fnmatch self.streamIds (fields.streamIds.items self.streamIds)
  minTimestamp := fields.minTimestamp.getD self.minTimestamp
  maxTimestamp := fields.maxTimestamp.getD self.maxTimestamp

end VRSReader

namespace FilteredVRSReader

/-- The timestamp of a filtered reader at one of its indices, 0 when it has none. -/
def timestampAt (reader : VRSReader L) : Option Int32 → Except PyError Timestamp
  | none => .ok (.ofRat 0)
  | some index => reader.getTimestampForIndex index

/-- `FilteredVRSReader.__init__`. -/
def init (reader : VRSReader L) (recordFilter : RecordFilter) :
    Except PyError (FilteredVRSReader L) :=
  match reader.generateFilteredIndices recordFilter with
  | .error e => .error e
  | .ok filteredIndices =>
    match timestampAt reader filteredIndices.head? with
    | .error e => .error e
    | .ok minTimestamp =>
      match timestampAt reader filteredIndices.getLast? with
      | .error e => .error e
      | .ok maxTimestamp =>
        .ok ⟨reader, recordFilter, filteredIndices, minTimestamp, maxTimestamp⟩

/-- `n_records`. -/
def nRecords (self : FilteredVRSReader L) : ℕ := self.filteredIndices.length

end FilteredVRSReader

/-- `filtered_by_fields`. -/
def VRSReader.filteredByFields (self : VRSReader L) (fnmatch : String → String → Bool)
    (fields : FilterFields) : Except PyError (FilteredVRSReader L) :=
  FilteredVRSReader.init self (self.recordFilter fnmatch fields)

end Pyvrs
