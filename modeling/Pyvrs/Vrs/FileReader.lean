import Mathlib.Data.List.FinRange
import Pyvrs.Vrs.Library
import Pyvrs.Reader.StreamPlayer
import Pyvrs.Utils.PyExceptions

/-!
# The native readers

`RecordFileReader` is what vrs makes known of one open file: its index, its streams, and the ways to
name streams and records. A pointer to an index entry is a position in the index. What reading a
record delivers is kept apart, in `Native`, since it may depend on the reads made before.
-/

namespace Pyvrs

/-- `RecordFormat`: the types of its content blocks. -/
abbrev RecordFormat := List ContentType

/-- `RecordFormat::getBlocksOfTypeCount`. -/
def RecordFormat.getBlocksOfTypeCount (format : RecordFormat) (type : ContentType) : ℕ :=
  format.count type

/-- `vrs::RecordFileReader` with a file open. -/
structure RecordFileReader (L : VrsLib) where
  /-- `getIndex`. -/
  index : List RecordInfo
  /-- `getRecordCount` is a `uint32_t`. -/
  length_index_lt : index.length < 2 ^ 32
  /-- `getStreams`, in the order of the set. -/
  streams : List StreamId
  /-- The records of the index belong to the streams of the file. -/
  mem_streams : ∀ record ∈ index, record.streamId ∈ streams
  /-- `getStreamForName`, `none` for an invalid id. -/
  getStreamForName : String → Option StreamId
  /-- `getStreams(typeId, flavor)`. -/
  getStreamsOf : RecordableTypeId → String → List StreamId
  /-- `getRecordFormats`, the formats found. -/
  getRecordFormats : StreamId → List RecordFormat
  /-- `getRecord(streamId, indexNumber)`. -/
  getRecordOfStream : StreamId → ℕ → Option (Fin index.length)
  /-- `getRecord(streamId, recordType, indexNumber)`. -/
  getRecordOfType : StreamId → RecordType → ℕ → Option (Fin index.length)
  /-- `getSerialNumber`. -/
  getSerialNumber : StreamId → String

/-- A file known by its index alone: its streams are those of its records, and go by their numeric
names. -/
def RecordFileReader.ofIndex (L : VrsLib) (index : List RecordInfo)
    (length_index_lt : index.length < 2 ^ 32) : RecordFileReader L where
  index
  length_index_lt
  streams := index.map RecordInfo.streamId
  mem_streams _ hrecord := List.mem_map_of_mem hrecord
  getStreamForName name :=
    (index.map RecordInfo.streamId).find? fun id => L.getNumericName id = name
  getStreamsOf typeId _ := (index.map RecordInfo.streamId).filter fun id => id.typeId = typeId
  getRecordFormats _ := []
  getRecordOfStream id n :=
    ((List.finRange index.length).filter fun i => (index.get i).streamId = id)[n]?
  getRecordOfType id type n :=
    ((List.finRange index.length).filter fun i =>
      (index.get i).streamId = id ∧ (index.get i).recordType = type)[n]?
  getSerialNumber _ := ""

/-- A file of two streams, whose records come at the same times. -/
def twoStreamsFile : RecordFileReader .bare :=
  .ofIndex .bare
    [⟨.ofRat 0, ⟨1201, 1⟩, .configuration⟩, ⟨.ofRat 0, ⟨1202, 1⟩, .configuration⟩,
      ⟨.ofRat 1, ⟨1201, 1⟩, .data⟩, ⟨.ofRat 1, ⟨1202, 1⟩, .data⟩, ⟨.ofRat 2, ⟨1201, 1⟩, .state⟩]
    (by decide)

/-- A native `readRecord` call: the record, whether its stream has a player that it is handed to,
and the status returned. -/
structure NativeRead where
  index : ℕ
  handed : Bool
  status : ℤ
  deriving DecidableEq, Repr

/-- What native record reads deliver: that of the record at an index, after the reads made so
far. -/
abbrev Native (L : VrsLib) := List NativeRead → ℕ → Delivery L

/-- Native reads that succeed and deliver no content blocks. -/
def Native.blank (L : VrsLib) : Native L := fun _ _ => ⟨1, [], 0⟩

/-- The record information handed to Python. -/
structure RecordInfoDict where
  recordIndex : Int32
  recordType : String
  recordTimestamp : Timestamp
  streamId : String
  recordableId : String
  serialNumber : String
  deriving DecidableEq

/-- The calls of the interface that the readers share. The overloads of `readNextRecord`,
`readRecord` and `setImageConversion` are told apart by what they select records or streams by. -/
inductive Call
  | enableStream (streamId : String)
  | enableStreams (typeId : RecordableTypeId) (flavor : String)
  | enableStreamsByIndexes (indexes : List Int32)
  | enableAllStreams
  | gotoRecord (index : Int32)
  | readNextRecord
  | readNextRecordOfStream (streamId : String)
  | readNextRecordOfStreamAndType (streamId recordType : String)
  | readNextRecordOfRecordable (typeId : RecordableTypeId)
  | readNextRecordOfRecordableAndType (typeId : RecordableTypeId) (recordType : String)
  | readRecord (index : Int32)
  | readRecordOfStreamAndType (streamId recordType : String) (index : Int32)
  | regenerateEnabledIndices (recordTypes streamIds : List String)
      (minEnabledTimestamp maxEnabledTimestamp : Timestamp)
  | getTimestampForIndex (index : Int32)
  | getTimestampListForIndices (indices : List Int32)
  | getStreamIdForIndex (index : Int32)
  | setEncoding (encoding : String)
  | setImageConversion (conversion : ImageConversion)
  | setImageConversionOfStream (streamId : String) (conversion : ImageConversion)
  | setImageConversionOfRecordable (typeId : RecordableTypeId) (conversion : ImageConversion)
  | skipTrailingBlocks (typeId : RecordableTypeId) (recordType : RecordType)
      (firstTrailingContentBlockIndex : ℕ)
  deriving DecidableEq

/-- The calls that put the cursor somewhere of their own. -/
def Call.IsSeek : Call → Prop
  | .gotoRecord _ | .readRecord _ | .readRecordOfStreamAndType .. => True
  | _ => False

/-- `readNextRecord`, in any of its forms. -/
def Call.IsSearch : Call → Prop
  | .readNextRecord | .readNextRecordOfStream _ | .readNextRecordOfStreamAndType ..
  | .readNextRecordOfRecordable _ | .readNextRecordOfRecordableAndType .. => True
  | _ => False

/-- The values the calls return. -/
inductive Value (L : VrsLib)
  | unit
  | count (n : ℕ)
  | info (dict : RecordInfoDict)
  | record (record : PyRecord L)
  | indices (indices : List Int32)
  | timestamp (timestamp : Timestamp)
  | timestamps (timestamps : List Timestamp)
  | name (name : String)

/-- What a call answers: a value or an exception. -/
abbrev Reply (L : VrsLib) := Except PyError (Value L)

/-- The record that a call returned. -/
def recordOf {L : VrsLib} : Reply L → Option (PyRecord L)
  | .ok (.record record) => some record
  | _ => none

end Pyvrs
