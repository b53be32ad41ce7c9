import Pyvrs.Filter.RecordFilterCopier
import Pyvrs.Foundations.OrderedMap
import Pyvrs.Foundations.Run
import Pyvrs.Vrs.FileReader

/-!
# The asynchronous image filter

`OssAsyncImageFilter`, function by function: it copies the records that a filtered reader selects to
an output file, handing out the images on the way, to be given back in any order. What it does to
the output file is recorded, in order, in `output`.
-/

namespace Pyvrs

open Foundations

/-- `vrs::utils::FilteredFileReader`, open: the streams and records that its filter selects. -/
structure FilteredFileReader (L : VrsLib) where
  reader : RecordFileReader L
  /-- `filter.streams`. -/
  streams : List StreamId
  /-- `reader.mightContainImages`. -/
  mightContainImages : StreamId → Bool
  /-- The records that `preRollConfigAndState` reads. -/
  preRoll : List (Fin reader.index.length)
  /-- The records that `iterateAdvanced` visits. -/
  selected : List (Fin reader.index.length)
  /-- The records visited are of the streams selected. -/
  mem_streams : ∀ i ∈ selected, (reader.index.get i).streamId ∈ streams

/-- What vrs does while a file is filtered: the statuses of opening the input and of creating and
closing the output, what the records read first deliver, by their index, and what the records of
`records_` deliver, by their position there: they are read in order and once. -/
structure FilterNative (L : VrsLib) where
  openFile : ℤ
  createFileAsync : ℤ
  closeFile : ℤ
  readPreRoll : ℕ → CopyDelivery L
  readRecord : ℕ → CopyDelivery L

/-- The stream players that copy records. -/
inductive CopierKind
  | copier
  | asyncRecordFilterCopier
  deriving DecidableEq, Repr

/-- What is done to the output file. -/
inductive OutputEvent (L : VrsLib)
  /-- A copier creates the record it is given, one of `records_` unless it is read before them. -/
  | copied (recordIndex : Option ℕ) (record : OutputRecord L)
  /-- `processPendingRecords` creates a record. -/
  | processed (recordIndex : ℕ) (record : OutputRecord L)
  /-- `throttledWriter_.onRecordDecoded`. -/
  | recordDecoded (timestamp : Timestamp)

/-- `OssAsyncImageFilter`. -/
structure OssAsyncImageFilter (L : VrsLib) where
  /-- `copiers_`, by stream. -/
  copiers : StreamId → Option CopierKind
  /-- `fileHelper_.fileCreated_`. -/
  fileCreated : Bool
  records : List RecordInfo
  nextRecordIndex : ℕ
  pendingRecord : OssPendingRecord L
  pendingRecords : OrderedMap ℕ (OssPendingRecord L)
  output : List (OutputEvent L)

/-- The calls made between creating and closing the output file. -/
inductive FilterCall
  | getNextImage
  | writeProcessedImage (recordIndex : ℕ) (processedImage : List UInt8)
  | discardRecord (recordIndex : ℕ)
  deriving DecidableEq

/-- What they return: `getNextImage` an image, with the index of its record, or none. -/
inductive FilterReply
  | image (recordIndex : ℕ) (spec : ImageContentBlockSpec) (frame : List UInt8)
  | noImage
  | accepted (found : Bool)
  deriving DecidableEq

namespace OssAsyncImageFilter

variable {L : VrsLib}

/-- `OssAsyncImageFilter(filteredReader)`. -/
def new : OssAsyncImageFilter L where
  copiers := fun _ => none
  fileCreated := false
  records := []
  nextRecordIndex := 0
  pendingRecord := .new
  pendingRecords := .empty
  output := []

variable (F : FilteredFileReader L) (N : FilterNative L) (filter : OssAsyncImageFilter L)

/-! ## Reading and copying -/

/-- The output file after one more event. -/
def emit (event : OutputEvent L) : OssAsyncImageFilter L :=
  { filter with output := filter.output ++ [event] }

/-- `processChunkedRecord`. -/
def processChunkedRecord (writer : StreamId) (formatVersion : ℕ)
    (copier : OssAsyncRecordFilterCopier L) : OssAsyncImageFilter L :=
  { filter with pendingRecord := ⟨copier.chunks, copier.imageChunk, some writer, formatVersion⟩ }

/-- `createRecord`, with the header of the record being read. -/
def createRecord (recordIndex : Option ℕ) (info : RecordInfo) (formatVersion : ℕ)
    (content : RecordContent L) : OssAsyncImageFilter L :=
  filter.emit (.copied recordIndex
    ⟨info.streamId, info.timestamp, info.recordType, formatVersion, content⟩)

/-- `OssAsyncRecordFilterCopier::finishRecordProcessing`. -/
def finishRecordProcessing (recordIndex : Option ℕ) (info : RecordInfo)
    (delivery : CopyDelivery L) : OssAsyncImageFilter L :=
  if delivery.copyVerbatim then
    filter.createRecord recordIndex info delivery.formatVersion
      (.verbatim delivery.verbatimRecordData)
  else
    let copier := OssAsyncRecordFilterCopier.start.onBlocks delivery.blocks
    if copier.imageChunk.isSome then
      filter.processChunkedRecord info.streamId delivery.formatVersion copier
    else
      filter.createRecord recordIndex info delivery.formatVersion (.chunks copier.chunks)

/-- `filteredReader_.reader.readRecord(record)`: the record is given to the copier of its stream,
and a plain `Copier` creates it verbatim. -/
def readRecord (recordIndex : Option ℕ) (info : RecordInfo) (delivery : CopyDelivery L) :
    OssAsyncImageFilter L :=
  if delivery.finished then
    match filter.copiers info.streamId with
    | none => filter
    | some .copier =>
      filter.createRecord recordIndex info delivery.formatVersion
        (.verbatim delivery.verbatimRecordData)
    | some .asyncRecordFilterCopier => filter.finishRecordProcessing recordIndex info delivery
  else filter

/-! ## Creating and closing the output file -/

/-- `shouldFilterImageStream`, as `OssAsyncImageFilter` has it. -/
def shouldFilterImageStream (id : StreamId) : Bool := F.mightContainImages id

/-- The copier made for a stream. -/
def copierFor (id : StreamId) : CopierKind :=
  if F.mightContainImages id ∧ shouldFilterImageStream F id then .asyncRecordFilterCopier
  else .copier

/-- The copiers of the streams selected. -/
def withCopiers : OssAsyncImageFilter L :=
  { filter with
    copiers := F.streams.foldl (fun copiers id => Function.update copiers id
      (some (copierFor F id))) filter.copiers }

/-- `preRollConfigAndState`. -/
def preRollConfigAndState : OssAsyncImageFilter L :=
  F.preRoll.foldl (fun filter i => filter.readRecord none (F.reader.index.get i) (N.readPreRoll i))
    filter

/-- `createOutputFile`. -/
def createOutputFile : ℤ × OssAsyncImageFilter L :=
  if N.openFile ≠ 0 then (N.openFile, filter)
  else
    let filter := filter.withCopiers F
    if N.createFileAsync = 0 then
      let filter := { filter with fileCreated := true }.preRollConfigAndState F N
      (0, { filter with
        records := filter.records ++ F.selected.map F.reader.index.get
        nextRecordIndex := 0 })
    else (N.createFileAsync, { filter with nextRecordIndex := 0 })

/-- `closeFile`. -/
def closeFile : ℤ × OssAsyncImageFilter L :=
  if filter.pendingRecords.entries ≠ [] then (L.failure, filter)
  else if filter.fileCreated then
    (N.closeFile, { filter with fileCreated := false, copiers := fun _ => none })
  else (L.failure, { filter with copiers := fun _ => none })

/-! ## Images -/

/-- `*records_[recordIndex]`, of a position that there is. -/
def recordAt (recordIndex : ℕ) : RecordInfo :=
  filter.records.getD recordIndex ⟨.nan, ⟨0, 0⟩, .undefined⟩

/-- The record at the cursor is read into an empty `pendingRecord_`, and the cursor moves on. -/
def readNextRecord : OssAsyncImageFilter L :=
  let i := filter.nextRecordIndex
  let filter := { filter with pendingRecord := .new }
  let filter := filter.readRecord (some i) (filter.recordAt i) (N.readRecord i)
  { filter with nextRecordIndex := i + 1 }

/-- `pendingRecords_[recordIndex] = std::move(pendingRecord_)`, once its image was moved out. -/
def parkRecord (recordIndex : ℕ) : OssAsyncImageFilter L :=
  { filter with
    pendingRecord := filter.pendingRecord.moved
    pendingRecords :=
      filter.pendingRecords.insert recordIndex (filter.pendingRecord.withBuffer []) }

/-- The loop of `getNextImage`, over the records left. -/
def getNextImageLoop : ℕ → OssAsyncImageFilter L → FilterReply × OssAsyncImageFilter L
  | 0, filter => (.noImage, filter)
  | left + 1, filter =>
    let outRecordIndex := filter.nextRecordIndex
    let filter := filter.readNextRecord N
    if filter.pendingRecord.needsImageProcessing then
      let (outImageSpec, outFrame) := filter.pendingRecord.image
      (.image outRecordIndex outImageSpec outFrame, filter.parkRecord outRecordIndex)
    else getNextImageLoop left filter

/-- `getNextImage`. -/
def getNextImage : FilterReply × OssAsyncImageFilter L :=
  getNextImageLoop N (filter.records.length - filter.nextRecordIndex) filter

/-- The record needs no processing (any more). -/
def ready (pending : OssPendingRecord L) : Bool := !pending.needsImageProcessing

/-- The record that `processPendingRecords` creates. -/
def processedRecord (recordIndex : ℕ) (pending : OssPendingRecord L) : OutputRecord L :=
  let record := filter.recordAt recordIndex
  ⟨pending.writer.getD ⟨0, 0⟩, record.timestamp, record.recordType, pending.formatVersion,
    .chunks pending.recordChunks⟩

/-- `processPendingRecords`: the records that are ready leave from the front, and the timestamp of
the last one, NaN at first, is reported. -/
def processPendingRecords : OssAsyncImageFilter L :=
  let done := filter.pendingRecords.frontWhile ready
  let timestamp := done.foldl (fun _ entry => (filter.recordAt entry.1).timestamp) WithNaN.nan
  let created := done.map fun entry =>
    .processed entry.1 (filter.processedRecord entry.1 entry.2)
  let decoded := if timestamp.IsNum then [.recordDecoded timestamp] else []
  { filter with
    pendingRecords := filter.pendingRecords.dropWhile ready
    output := filter.output ++ created ++ decoded }

/-- The image of a record of which one awaits an answer. -/
def awaiting (recordIndex : ℕ) : Option (OssPendingRecord L) :=
  (filter.pendingRecords.find? recordIndex).filter OssPendingRecord.needsImageProcessing

/-- `writeProcessedImage`. -/
def writeProcessedImage (recordIndex : ℕ) (processedImage : List UInt8) :
    Bool × OssAsyncImageFilter L :=
  match filter.awaiting recordIndex with
  | none => (false, filter)
  | some pending => (true, { filter with
      pendingRecords := filter.pendingRecords.insert recordIndex
        (pending.setBuffer processedImage) }.processPendingRecords)

/-- `discardRecord`. -/
def discardRecord (recordIndex : ℕ) : Bool × OssAsyncImageFilter L :=
  match filter.awaiting recordIndex with
  | none => (false, filter)
  | some _ => (true, { filter with
      pendingRecords := filter.pendingRecords.erase recordIndex }.processPendingRecords)

/-- One call. -/
def call : Machine (OssAsyncImageFilter L) FilterCall FilterReply
  | filter, .getNextImage => filter.getNextImage N
  | filter, .writeProcessedImage recordIndex processedImage =>
    let (found, filter) := filter.writeProcessedImage recordIndex processedImage
    (.accepted found, filter)
  | filter, .discardRecord recordIndex =>
    let (found, filter) := filter.discardRecord recordIndex
    (.accepted found, filter)

end OssAsyncImageFilter

end Pyvrs
