import Mathlib.Data.List.Sort
import Mathlib.Data.Prod.Lex
import Pyvrs.Foundations.BatchQueue
import Pyvrs.Utils.PyExceptions
import Pyvrs.Vrs.Library

/-!
# Streams and record formats of the writer

A stream of the writer is a `PyStream`: one record format for each type of record that it creates.
The native class `VRSWriter` makes streams from the names registered with the `StreamFactory`, and
its `RecordFileWriter` keeps the records created in a queue. What numpy, the vrs library and the
file system do to arrays and files are the fields of `WriterLib`.
-/

namespace Pyvrs

open Foundations

/-- The types of the records that a stream creates, the keys of `recordFormatMap_`. -/
inductive CreatedType
  | configuration
  | data
  | state
  deriving DecidableEq, Repr

/-- The `Record::Type` it is. -/
def CreatedType.recordType : CreatedType → RecordType
  | .configuration => .configuration
  | .data => .data
  | .state => .state

/-- `RECORD_TYPE_TO_STR`. -/
def CreatedType.toStr : CreatedType → String
  | .configuration => "Configuration"
  | .data => "Data"
  | .state => "State"

theorem CreatedType.recordType_injective : Function.Injective CreatedType.recordType := by
  intro a b h
  cases a <;> cases b <;> first | rfl | cases h

/-! ## Record formats -/

/-- `DataSource`: the datalayouts of a record, and the chunks that follow them. -/
structure DataSource (L : VrsLib) where
  dataLayouts : List L.DataLayout
  chunks : List (List UInt8)

/-- `PyRecordFormat`. -/
structure PyRecordFormat (L : VrsLib) where
  recordType : RecordType
  formatVersion : ℕ := 0
  dataLayouts : List L.DataLayout := []
  additionalContentBlocks : List (ContentBlock L) := []

/-- `PyRecordFormat::getDataSource`. -/
def PyRecordFormat.getDataSource {L : VrsLib} (format : PyRecordFormat L)
    (chunks : List (List UInt8)) : DataSource L :=
  match format.dataLayouts with
  | [dataLayout] => ⟨[dataLayout], chunks⟩
  | [dataLayout₁, dataLayout₂] => ⟨[dataLayout₁, dataLayout₂], chunks⟩
  | _ => ⟨[], chunks⟩

/-- `PyStream`: its record formats, each under its own type. -/
structure PyStream (L : VrsLib) where
  deviceFlavor : String
  recordFormat : CreatedType → PyRecordFormat L
  recordFormat_recordType : ∀ type, (recordFormat type).recordType = type.recordType

/-- `PyStream::init`: a format that is not given has no content. -/
def PyStream.init {L : VrsLib} (deviceFlavor : String)
    (format : CreatedType → Option (PyRecordFormat L))
    (htype : ∀ type, ∀ f ∈ format type, f.recordType = type.recordType) : PyStream L where
  deviceFlavor := deviceFlavor
  recordFormat type := (format type).getD { recordType := type.recordType }
  recordFormat_recordType type := by
    cases hformat : format type with
    | none => rfl
    | some f => exact htype type f hformat

/-! ## The streams there are -/

/-- `StreamFactory`. -/
structure StreamFactory (L : VrsLib) where
  streamCreationFunctions : List (String × PyStream L) := []
  flavoredStreamCreationFunctions : List (String × (String → PyStream L)) := []

namespace StreamFactory

variable {L : VrsLib} (factory : StreamFactory L) (name flavor : String)

/-- `registerStreamCreationFunction`. -/
def registerStreamCreationFunction (stream : PyStream L) : StreamFactory L :=
  { factory with streamCreationFunctions := (name, stream) :: factory.streamCreationFunctions }

/-- `registerFlavoredStreamCreationFunction`. -/
def registerFlavoredStreamCreationFunction (func : String → PyStream L) : StreamFactory L :=
  { factory with
    flavoredStreamCreationFunctions := (name, func) :: factory.flavoredStreamCreationFunctions }

/-- `createStream`. -/
def createStream : Option (PyStream L) := factory.streamCreationFunctions.lookup name

/-- `createFlavoredStream`. -/
def createFlavoredStream : Option (PyStream L) :=
  (factory.flavoredStreamCreationFunctions.lookup name).map (· flavor)

end StreamFactory

section Samples

variable {L : VrsLib} (myConfiguration myMetadata : L.DataLayout)

/-- The record formats of the sample streams: one datalayout for a configuration, and what is
given for data. -/
def sampleFormat (dataLayouts : List L.DataLayout) (blocks : List (ContentBlock L)) :
    CreatedType → Option (PyRecordFormat L)
  | .configuration => some ⟨.configuration, 1, [myConfiguration], []⟩
  | .data => some ⟨.data, 1, dataLayouts, blocks⟩
  | .state => none

theorem sampleFormat_recordType (dataLayouts : List L.DataLayout) (blocks : List (ContentBlock L)) :
    ∀ type, ∀ f ∈ sampleFormat myConfiguration dataLayouts blocks type,
      f.recordType = type.recordType := by
  intro type f hf
  cases type with
  | configuration =>
    cases hf
    rfl
  | data =>
    cases hf
    rfl
  | state => cases hf

/-- `ContentBlock(ImageFormat::RAW)`. -/
def rawImageContentBlock (L : VrsLib) : ContentBlock L := .ofImage L ⟨.raw, .undefined, 0, 0⟩ none

/-- `createSampleStream`. -/
def createSampleStream (flavor : String) : PyStream L :=
  .init flavor (sampleFormat myConfiguration [myMetadata] [])
    (sampleFormat_recordType myConfiguration [myMetadata] [])

/-- `createSampleStreamWithImage`. -/
def createSampleStreamWithImage : PyStream L :=
  .init "" (sampleFormat myConfiguration [myMetadata] [rawImageContentBlock L])
    (sampleFormat_recordType myConfiguration [myMetadata] [rawImageContentBlock L])

/-- `createSampleStreamWithMultipleDataLayout`. -/
def createSampleStreamWithMultipleDataLayout : PyStream L :=
  .init "" (sampleFormat myConfiguration [myMetadata, myMetadata] [rawImageContentBlock L])
    (sampleFormat_recordType myConfiguration [myMetadata, myMetadata] [rawImageContentBlock L])

/-- The streams that `VRSWriter::init` registers. -/
def openSourceStreams : StreamFactory L :=
  ({} : StreamFactory L)
    |>.registerStreamCreationFunction "sample" (createSampleStream myConfiguration myMetadata "")
    |>.registerStreamCreationFunction "sample_with_flavor_1"
      (createSampleStream myConfiguration myMetadata "flavor_1")
    |>.registerStreamCreationFunction "sample_with_flavor_2"
      (createSampleStream myConfiguration myMetadata "flavor_2")
    |>.registerFlavoredStreamCreationFunction "flavored_sample"
      (createSampleStream myConfiguration myMetadata)
    |>.registerStreamCreationFunction "sample_with_image"
      (createSampleStreamWithImage myConfiguration myMetadata)
    |>.registerStreamCreationFunction "sample_with_multiple_data_layout"
      (createSampleStreamWithMultipleDataLayout myConfiguration myMetadata)

end Samples

/-! ## Records and the file -/

/-- `Record`, as it waits to be written: `stream` tells which recordable created it, and
`creationOrder` counts the records created before it. -/
structure Record (L : VrsLib) where
  stream : ℕ
  timestamp : Timestamp
  recordType : RecordType
  formatVersion : ℕ
  dataSource : DataSource L
  creationOrder : ℕ

/-- The order in a file: by timestamp, and by creation when the stream and the timestamp are the
same. -/
def Record.WrittenBefore {L : VrsLib} (a b : Record L) : Prop :=
  a.timestamp ≤ b.timestamp ∧
    (a.stream = b.stream → b.timestamp ≤ a.timestamp → a.creationOrder ≤ b.creationOrder)

/-- The record is written up to `maxTimestamp`. -/
def Record.due {L : VrsLib} (maxTimestamp : Timestamp) (record : Record L) : Bool :=
  decide (record.timestamp ≤ maxTimestamp)

/-- `py::buffer_info`. -/
structure BufferInfo where
  /-- The bytes from `ptr` on. -/
  ptr : ℕ → UInt8
  itemsize : ℕ
  shape : List ℕ

/-- `size`, as `createRecord` computes it. -/
def BufferInfo.size (info : BufferInfo) : ℕ := info.shape.foldl (· * ·) info.itemsize

/-- `DataSourceChunk(info.ptr, size)`. -/
def BufferInfo.chunk (info : BufferInfo) : List UInt8 := (List.range info.size).map info.ptr

/-- What the writer takes from numpy, the vrs library and the file system. -/
structure WriterLib (L : VrsLib) where
  /-- `np.ndarray` and `np.generic`. -/
  NdArray : Type
  /-- The conversion of an argument to `py::array`, and its `request()`. -/
  request : NdArray → Except PyError BufferInfo
  /-- A native `Recordable`. -/
  Recordable : Type
  /-- The streams registered. -/
  factory : StreamFactory L
  /-- The status of `RecordFileWriter::createFileAsync`, after the statuses of the attempts made so
  far. -/
  createFileAsync : List ℤ → String → ℤ
  /-- The status of `RecordFileWriter::writeRecordsAsync`, for what it writes. -/
  writeRecordsAsync : List (Record L) → ℤ
  /-- The status of `RecordFileWriter::waitForFileClosed`, for what it writes. -/
  waitForFileClosed : List (Record L) → ℤ
  /-- The order in which the records taken are written. -/
  sortRecords : List (Record L) → List (Record L)
  /-- Exactly the records taken are written. -/
  sortRecords_perm : ∀ records, (sortRecords records).Perm records
  /-- They are written sorted, when their timestamps are numbers. -/
  sortRecords_sorted : ∀ records, (∀ r ∈ records, r.timestamp.IsNum) →
    (sortRecords records).Pairwise Record.WrittenBefore

/-! ## A library to run the writer with -/

section Bare

/-- The key to sort by. -/
def Record.sortKey {L : VrsLib} (r : Record L) : WithBot (WithBot (WithTop ℚ)) ×ₗ ℕ :=
  toLex (r.timestamp.toWithBot, r.creationOrder)

theorem Record.writtenBefore_of_sortKey_le {L : VrsLib} {a b : Record L} (ha : a.timestamp.IsNum)
    (hb : b.timestamp.IsNum) (h : a.sortKey ≤ b.sortKey) : a.WrittenBefore b := by
  rcases Prod.Lex.toLex_le_toLex.1 h with hlt | ⟨heq, horder⟩
  · refine ⟨(WithNaN.toWithBot_le_iff ha hb).1 hlt.le, fun _ hle => ?_⟩
    exact absurd ((WithNaN.toWithBot_le_iff hb ha).2 hle) (not_le_of_gt hlt)
  · exact ⟨(WithNaN.toWithBot_le_iff ha hb).1 heq.le, fun _ _ => horder⟩

instance {L : VrsLib} : Std.Total fun a b : Record L => a.sortKey ≤ b.sortKey :=
  ⟨fun a b => le_total a.sortKey b.sortKey⟩

instance {L : VrsLib} : IsTrans (Record L) fun a b => a.sortKey ≤ b.sortKey :=
  ⟨fun _ _ _ => le_trans⟩

/-- A library whose arrays hold one byte, and where every file can be written. -/
def WriterLib.bare : WriterLib VrsLib.bare where
  NdArray := UInt8
  request byte := .ok ⟨fun _ => byte, 1, []⟩
  Recordable := Unit
  factory := openSourceStreams () ()
  createFileAsync _ _ := 0
  writeRecordsAsync _ := 0
  waitForFileClosed _ := 0
  sortRecords := List.insertionSort fun a b => a.sortKey ≤ b.sortKey
  sortRecords_perm records := List.perm_insertionSort _ records
  sortRecords_sorted records hnum := by
    have hsorted := List.pairwise_insertionSort (fun a b : Record VrsLib.bare =>
      a.sortKey ≤ b.sortKey) records
    refine hsorted.imp_of_mem fun {a b} ha hb hle => ?_
    rw [List.mem_insertionSort] at ha hb
    exact Record.writtenBefore_of_sortKey_le (hnum a ha) (hnum b hb) hle

end Bare

/-! ## The native writer -/

/-- `RecordFileWriter`, with the recordables added to it. -/
structure RecordFileWriter {L : VrsLib} (N : WriterLib L) where
  records : BatchQueue (Record L) := {}
  nextCreationOrder : ℕ := 0
  recordables : List N.Recordable := []
  tags : List (String × String) := []
  /-- The statuses of `createFileAsync`, in the order of its calls. -/
  createStatuses : List ℤ := []
  /-- `createFileAsync` succeeded. -/
  isWriting : Bool := false

namespace RecordFileWriter

variable {L : VrsLib} {N : WriterLib L} (writer : RecordFileWriter N)

/-- `Recordable::createRecord`, of the recordable of a stream. -/
def createRecord (stream : ℕ) (timestamp : Timestamp) (recordType : RecordType) (formatVersion : ℕ)
    (dataSource : DataSource L) : RecordFileWriter N :=
  { writer with
    records := writer.records.push
      ⟨stream, timestamp, recordType, formatVersion, dataSource, writer.nextCreationOrder⟩
    nextCreationOrder := writer.nextCreationOrder + 1 }

/-- `createFileAsync`. -/
def createFileAsync (filePath : String) : ℤ × RecordFileWriter N :=
  let status := N.createFileAsync writer.createStatuses filePath
  (status, { writer with
    createStatuses := writer.createStatuses ++ [status]
    isWriting := status = 0 })

/-- `writeRecordsAsync`: the records queued up to `maxTimestamp` are written. -/
def writeRecordsAsync (maxTimestamp : Timestamp) : ℤ × RecordFileWriter N :=
  (N.writeRecordsAsync (writer.records.queue.filter (Record.due maxTimestamp)),
    { writer with records := writer.records.drain N.sortRecords (Record.due maxTimestamp) })

/-- `waitForFileClosed`: the records left are written. -/
def waitForFileClosed : ℤ × RecordFileWriter N :=
  (N.waitForFileClosed writer.records.queue,
    { writer with
      records := writer.records.drain N.sortRecords fun _ => true
      isWriting := false })

/-- `setTag`. -/
def setTag (tagName tagValue : String) : RecordFileWriter N :=
  { writer with tags := writer.tags ++ [(tagName, tagValue)] }

/-- `addRecordable`. -/
def addRecordable (recordable : N.Recordable) : RecordFileWriter N :=
  { writer with recordables := writer.recordables ++ [recordable] }

end RecordFileWriter

end Pyvrs
