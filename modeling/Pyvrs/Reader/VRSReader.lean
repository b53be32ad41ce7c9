import Mathlib.Data.Finset.Basic
import Pyvrs.Foundations.Run
import Pyvrs.Foundations.Scan
import Pyvrs.Vrs.FileReader

/-!
# The single-file reader

`OssVRSReader`, function by function. A reader is a value; an operation takes it, with the native
file `F` and what native reads deliver `D`, to its result or exception and the reader afterwards:
an exception leaves the reader as it was when thrown. The list `nativeReads` records the native
record reads made, in order.
-/

namespace Pyvrs

open Foundations

/-- `OssVRSReader`. -/
structure OssVRSReader (L : VrsLib) where
  nextRecordIndex : ℕ
  enabledStreams : Finset StreamId
  lastRecord : RecordCache L
  streamPlayer : BaseVRSReaderStreamPlayer L
  firstSkippedTrailingBlockIndex : RecordableTypeId × RecordType → Option ℕ
  imageConversion : ImageConversion
  streamImageConversion : StreamId → Option ImageConversion
  encoding : String
  /-- `configIndex_`, `none` while the map is empty. -/
  configIndex : Option (StreamId → List ℕ)
  /-- `lastReadConfigIndex_`, with the default of the streams it does not hold. -/
  lastReadConfigIndex : StreamId → ℕ
  autoReadConfigurationRecord : Bool
  nativeReads : List NativeRead

/-- `numeric_limits<uint32_t>::max()`. -/
def uint32Max : ℕ := 2 ^ 32 - 1

/-- One step of the loop that fills `configIndex_`: position `i` is added to the list of its
stream if its record is a configuration record. -/
def addConfigIndex (getRecord : ℕ → Option RecordInfo) (map : StreamId → List ℕ) (i : ℕ) :
    StreamId → List ℕ :=
  match getRecord i with
  | some record =>
    if record.recordType = .configuration then
      Function.update map record.streamId (map record.streamId ++ [i])
    else map
  | none => map

/-- The loop of `readConfigurationRecord` that fills `configIndex_`. -/
def buildConfigIndex (getRecord : ℕ → Option RecordInfo) (recordCount : ℕ) :
    StreamId → List ℕ :=
  (List.range recordCount).foldl (addConfigIndex getRecord) fun _ => []

/-- The configuration record that `readConfigurationRecord` goes on to read: the one before `idx` in
`configIndex_`, unless there is none or it is the one noted in `lastReadConfigIndex_`. -/
def configurationToRead (configIndex : StreamId → List ℕ) (lastReadConfigIndex : StreamId → ℕ)
    (streamId : StreamId) (idx : ℕ) : Option ℕ :=
  match lastBelow (configIndex streamId) idx with
  | none => none
  | some it => if lastReadConfigIndex streamId = it then none else some it

namespace OssVRSReader

variable {L : VrsLib}

/-- `OssVRSReader(autoReadConfigurationRecord)`. The format version of a new cache is
indeterminate. -/
def new (autoReadConfigurationRecord : Bool) : OssVRSReader L where
  nextRecordIndex := 0
  enabledStreams := ∅
  lastRecord := .empty 0
  streamPlayer := .new
  firstSkippedTrailingBlockIndex := fun _ => none
  imageConversion := .off
  streamImageConversion := fun _ => none
  encoding := "utf-8"
  configIndex := none
  lastReadConfigIndex := fun _ => 0
  autoReadConfigurationRecord := autoReadConfigurationRecord
  nativeReads := []

variable (F : RecordFileReader L) (D : Native L) (reader : OssVRSReader L)

/-- `open`, when the native `openFile` succeeds with the file `F`. -/
def «open» : OssVRSReader L :=
  { reader with
    nextRecordIndex := 0
    lastReadConfigIndex :=
      if reader.autoReadConfigurationRecord then
        fun streamId => if streamId ∈ F.streams then uint32Max
          else reader.lastReadConfigIndex streamId
      else reader.lastReadConfigIndex }

/-! ## Streams -/

/-- `getStreamId`. -/
def getStreamId (streamId : String) : Except PyError StreamId :=
  match F.getStreamForName streamId with
  | some id => .ok id
  | none => .error (streamNotFoundError L streamId F.streams)

/-- `enableStream(const StreamId&)`. -/
def enableStreamId (id : StreamId) : OssVRSReader L :=
  { reader with enabledStreams := insert id reader.enabledStreams }

/-- `enableStream(const string&)`. -/
def enableStream (streamId : String) : Except PyError Unit × OssVRSReader L :=
  match getStreamId F streamId with
  | .ok id => (.ok (), reader.enableStreamId id)
  | .error e => (.error e, reader)

/-- `enableStreams`, with the number of streams enabled. -/
def enableStreams (typeId : RecordableTypeId) (flavor : String) : ℕ × OssVRSReader L :=
  let streams := F.getStreamsOf typeId flavor
  (streams.length, streams.foldl enableStreamId reader)

/-- The streams of a file with a record format that has images. -/
def playableStreams : List StreamId :=
  F.streams.filter fun id =>
    (F.getRecordFormats id).any fun format => 0 < format.getBlocksOfTypeCount .image

/-- The streams at the given positions of a list, the other positions ignored. -/
def streamsAt (streams : List StreamId) (indexes : List Int32) : List StreamId :=
  indexes.filterMap fun index =>
    if index.toInt < 0 then none else streams[index.toInt.toNat]?

/-- `enableStreamsByIndexes`. -/
def enableStreamsByIndexes (indexes : List Int32) : ℕ × OssVRSReader L :=
  let streams := streamsAt (playableStreams F) indexes
  (streams.length, streams.foldl enableStreamId reader)

/-- `enableAllStreams`. -/
def enableAllStreams : ℕ × OssVRSReader L :=
  (F.streams.length, F.streams.foldl enableStreamId reader)

/-! ## Settings -/

/-- `getImageConversion`. -/
def getImageConversion (id : StreamId) : ImageConversion :=
  (reader.streamImageConversion id).getD reader.imageConversion

/-- `setImageConversion(conversion)`: also drops the policies of single streams. -/
def setImageConversion (conversion : ImageConversion) : OssVRSReader L :=
  { reader with imageConversion := conversion, streamImageConversion := fun _ => none }

/-- `setImageConversion(const StreamId&, conversion)`, for a valid id. -/
def setImageConversionOfId (conversion : ImageConversion) (id : StreamId) : OssVRSReader L :=
  { reader with
    streamImageConversion := Function.update reader.streamImageConversion id (some conversion) }

/-- `setImageConversion(const string&, conversion)`. -/
def setImageConversionOfStream (streamId : String) (conversion : ImageConversion) :
    Except PyError Unit × OssVRSReader L :=
  match getStreamId F streamId with
  | .ok id => (.ok (), reader.setImageConversionOfId conversion id)
  | .error e => (.error e, reader)

/-- `setImageConversion(RecordableTypeId, conversion)`, with the number of streams of the type. -/
def setImageConversionOfRecordable (typeId : RecordableTypeId) (conversion : ImageConversion) :
    ℕ × OssVRSReader L :=
  let streams := F.streams.filter fun id => id.typeId = typeId
  (streams.length, streams.foldl (fun reader id => reader.setImageConversionOfId conversion id)
    reader)

/-- `skipTrailingBlocks`: an `UNDEFINED` type stands for every type of record, and the index 0
removes the limit. -/
def skipTrailingBlocks (typeId : RecordableTypeId) (recordType : RecordType)
    (firstTrailingContentBlockIndex : ℕ) : OssVRSReader L :=
  let types := if recordType ≠ .undefined then [recordType]
    else [.state, .data, .configuration, .tags]
  let first := if firstTrailingContentBlockIndex ≠ 0 then some firstTrailingContentBlockIndex
    else none
  { reader with
    firstSkippedTrailingBlockIndex :=
      types.foldl (fun map t => Function.update map (typeId, t) first)
        reader.firstSkippedTrailingBlockIndex }

/-! ## Reading records natively -/

/-- What the stream player asks of the reader while a record is read. -/
def playerSettings (record : RecordInfo) : PlayerSettings where
  encoding := reader.encoding
  imageConversion := reader.getImageConversion record.streamId
  firstSkippedTrailingBlockIndex :=
    reader.firstSkippedTrailingBlockIndex (record.streamId.typeId, record.recordType)

/-- `reader_.readRecord(record)`, for the record at index `i`: it is handed to the stream player if
its stream has one. -/
def nativeReadRecord (i : ℕ) (record : RecordInfo) : ℤ × OssVRSReader L :=
  let delivery := D reader.nativeReads i
  let handed : Bool := record.streamId ∈ reader.enabledStreams
  let before : Playing L := ⟨reader.lastRecord, reader.streamPlayer⟩
  let after := if handed then
    before.play (reader.playerSettings record)
      ⟨record.streamId, record.recordType, delivery.formatVersion⟩ delivery.callbacks
    else before
  (delivery.status, { reader with
    lastRecord := after.cache
    streamPlayer := after.player
    nativeReads := reader.nativeReads ++ [⟨i, handed, delivery.status⟩] })

/-- `configIndex_`, filled if it was empty. -/
def filledConfigIndex : StreamId → List ℕ :=
  reader.configIndex.getD (buildConfigIndex (fun i => F.index[i]?) F.index.length)

/-- The reader once `configIndex_` is filled. -/
def withConfigIndex : OssVRSReader L :=
  { reader with configIndex := some (reader.filledConfigIndex F) }

/-- What a successful configuration read leaves: its position is noted and the cache cleared. -/
def configurationRead (streamId : StreamId) (it : ℕ) : OssVRSReader L :=
  { reader with
    lastReadConfigIndex := Function.update reader.lastReadConfigIndex streamId it
    lastRecord := reader.lastRecord.clear }

/-- The end of `readConfigurationRecord`, that reads the record it found. -/
def readConfigurationAt (streamId : StreamId) (it : ℕ) (record : RecordInfo) :
    Except PyError Unit × OssVRSReader L :=
  let (status, reader) := reader.nativeReadRecord D it record
  if status ≠ 0 then
    (.error (.indexError "Failed to read prior configuration record."), reader)
  else (.ok (), reader.configurationRead streamId it)

/-- `readConfigurationRecord`. -/
def readConfigurationRecord (streamId : StreamId) (idx : ℕ) :
    Except PyError Unit × OssVRSReader L :=
  let toRead := configurationToRead (reader.filledConfigIndex F) reader.lastReadConfigIndex
    streamId idx
  let reader := reader.withConfigIndex F
  match toRead with
  | none => (.ok (), reader)
  | some it =>
    match F.index[it]? with
    -- the entries of the map are positions of the index
    | none => (.ok (), reader)
    | some record => reader.readConfigurationAt D streamId it record

/-- What a successful read leaves: the cursor one further and the cache moved out. -/
def recordRead : OssVRSReader L :=
  { reader with
    nextRecordIndex := reader.nextRecordIndex + 1
    lastRecord := reader.lastRecord.moved }

/-- The part of `readNextRecordInternal` that follows the automatic configuration read. -/
def readThisRecord (record : RecordInfo) : Except PyError (PyRecord L) × OssVRSReader L :=
  let (status, reader) := reader.nativeReadRecord D reader.nextRecordIndex record
  if status ≠ 0 then
    (.error (.runtimeError ("Read error: " ++ L.errorCodeToMessageWithCode status)), reader)
  else (.ok (.ofCache record reader.nextRecordIndex reader.lastRecord), reader.recordRead)

/-- The automatic configuration read of `readNextRecordInternal`. -/
def autoReadConfiguration (record : RecordInfo) : Except PyError Unit × OssVRSReader L :=
  if reader.autoReadConfigurationRecord ∧ record.recordType = .data then
    reader.readConfigurationRecord F D record.streamId reader.nextRecordIndex
  else (.ok (), reader)

/-- `readNextRecordInternal`. -/
def readNextRecordInternal : Except PyError (PyRecord L) × OssVRSReader L :=
  match F.index[reader.nextRecordIndex]? with
  | none => (.error (.stopIteration "No more records"), reader)
  | some record =>
    match reader.autoReadConfiguration F D record with
    | (.error e, reader) => (.error e, reader)
    | (.ok (), reader) => reader.readThisRecord D record

/-! ## Moving the cursor -/

/-- `getRecordInfo`. -/
def getRecordInfo (record : RecordInfo) (recordIndex : ℕ) : RecordInfoDict where
  recordIndex := .ofNat recordIndex
  recordType := lowercaseTypeName L record.recordType
  recordTimestamp := record.timestamp
  streamId := L.getNumericName record.streamId
  recordableId := L.getNumericName record.streamId
  serialNumber := F.getSerialNumber record.streamId

/-- `getNextRecordInfo`. -/
def getNextRecordInfo (errorMessage : String) : Except PyError RecordInfoDict × OssVRSReader L :=
  match F.index[reader.nextRecordIndex]? with
  | none => (.error (.indexError errorMessage), { reader with nextRecordIndex := F.index.length })
  | some record => (.ok (getRecordInfo F record reader.nextRecordIndex), reader)

/-- `gotoRecord`. -/
def gotoRecord (index : Int32) : Except PyError RecordInfoDict × OssVRSReader L :=
  getNextRecordInfo F { reader with nextRecordIndex := castUInt32 index } "Invalid record index"

/-- `match`, by stream. -/
def matchStream (record : RecordInfo) (id : StreamId) (recordType : RecordType) : Bool :=
  record.streamId = id ∧ id ∈ reader.enabledStreams ∧
    (recordType = .undefined ∨ record.recordType = recordType)

/-- `match`, by device type. -/
def matchRecordable (record : RecordInfo) (typeId : RecordableTypeId) (recordType : RecordType) :
    Bool :=
  record.streamId.typeId = typeId ∧ record.streamId ∈ reader.enabledStreams ∧
    (recordType = .undefined ∨ record.recordType = recordType)

/-- The cursor moved forward to the first record that satisfies a test, or the end. -/
def skipTo (p : RecordInfo → Bool) : OssVRSReader L :=
  { reader with
    nextRecordIndex :=
      firstFrom (fun i => F.index[i]?.any p) F.index.length reader.nextRecordIndex }

/-- `skipIgnoredRecords`. -/
def skipIgnoredRecords : OssVRSReader L :=
  reader.skipTo F fun record => record.streamId ∈ reader.enabledStreams

/-- `readNextRecord()`. -/
def readNextRecord : Except PyError (PyRecord L) × OssVRSReader L :=
  (reader.skipIgnoredRecords F).readNextRecordInternal F D

/-- The check of a record type filter: the type it names, `UNDEFINED` for any. -/
def recordTypeFilter (L : VrsLib) (recordType : String) : Except PyError RecordType :=
  let type := L.toRecordType recordType
  if type = .undefined ∧ L.strcasecmp recordType "any" ≠ 0 then
    .error (.valueError ("Unsupported record type filter: " ++ recordType))
  else .ok type

/-- The check that a stream is enabled. -/
def enabledStreamId (streamId : String) : Except PyError StreamId :=
  match getStreamId F streamId with
  | .error e => .error e
  | .ok id =>
    if id ∈ reader.enabledStreams then .ok id
    else .error (.valueError
      ("Stream " ++ streamId ++ " is not enabled. To read record you need to enable it first."))

/-- `readNextRecord(streamId, recordType)`. -/
def readNextRecordOfStreamAndType (streamId recordType : String) :
    Except PyError (PyRecord L) × OssVRSReader L :=
  match reader.enabledStreamId F streamId with
  | .error e => (.error e, reader)
  | .ok id =>
    match recordTypeFilter L recordType with
    | .error e => (.error e, reader)
    | .ok type =>
      (reader.skipTo F fun record => reader.matchStream record id type).readNextRecordInternal F D

/-- `readNextRecord(streamId)`. -/
def readNextRecordOfStream (streamId : String) : Except PyError (PyRecord L) × OssVRSReader L :=
  reader.readNextRecordOfStreamAndType F D streamId "any"

/-- `readNextRecord(typeId, recordType)`. -/
def readNextRecordOfRecordableAndType (typeId : RecordableTypeId) (recordType : String) :
    Except PyError (PyRecord L) × OssVRSReader L :=
  match recordTypeFilter L recordType with
  | .error e => (.error e, reader)
  | .ok type =>
    if ∃ id ∈ reader.enabledStreams, id.typeId = typeId then
      (reader.skipTo F fun record =>
        reader.matchRecordable record typeId type).readNextRecordInternal F D
    else (.error (streamNotFoundError L (L.recordableTypeName typeId) F.streams), reader)

/-- `readNextRecord(typeId)`. -/
def readNextRecordOfRecordable (typeId : RecordableTypeId) :
    Except PyError (PyRecord L) × OssVRSReader L :=
  reader.readNextRecordOfRecordableAndType F D typeId "any"

/-- `readRecord(index)`. -/
def readRecord (index : Int32) : Except PyError (PyRecord L) × OssVRSReader L :=
  if F.index.length ≤ castUInt32 index then
    (.error (.indexError ("No record at index: " ++ toString index)), reader)
  else
    { reader with nextRecordIndex := castUInt32 index }.readNextRecordInternal F D

/-- `readRecord(streamId, recordType, index)`. -/
def readRecordOfStreamAndType (streamId recordType : String) (index : Int32) :
    Except PyError (PyRecord L) × OssVRSReader L :=
  match reader.enabledStreamId F streamId with
  | .error e => (.error e, reader)
  | .ok id =>
    match recordTypeFilter L recordType with
    | .error e => (.error e, reader)
    | .ok type =>
      let record := if L.strcasecmp recordType "any" = 0 then
        F.getRecordOfStream id (castUInt32 index) else F.getRecordOfType id type (castUInt32 index)
      match record with
      | none => (.error (.indexError "Invalid record index"),
          { reader with nextRecordIndex := F.index.length })
      | some record => { reader with nextRecordIndex := record.val }.readNextRecordInternal F D

/-! ## Queries on the index -/

/-- The streams named, or the exception for the first name that is not one of a stream. -/
def streamIdSet : List String → Except PyError (List StreamId)
  | [] => .ok []
  | streamId :: rest =>
    match getStreamId F streamId with
    | .error e => .error e
    | .ok id =>
      match streamIdSet rest with
      | .error e => .error e
      | .ok ids => .ok (id :: ids)

/-- The loop of `regenerateEnabledIndices` from the record at `recordIndex` on; it stops at the
first record past the last timestamp. The positions are `int32_t`, and so is the counter, which goes
on with every record; from 2^31 records on it overflows in the source, and wraps here. -/
def enabledIndices (types : List RecordType) (ids : List StreamId)
    (minEnabledTimestamp maxEnabledTimestamp : Timestamp) : List RecordInfo → ℕ → List Int32
  | [], _ => []
  | record :: rest, recordIndex =>
    if maxEnabledTimestamp < record.timestamp then []
    else
      let later :=
        enabledIndices types ids minEnabledTimestamp maxEnabledTimestamp rest (recordIndex + 1)
      if minEnabledTimestamp ≤ record.timestamp ∧ record.recordType ∈ types ∧
          record.streamId ∈ ids then .ofNat recordIndex :: later
      else later

/-- `regenerateEnabledIndices`. -/
def regenerateEnabledIndices (recordTypes streamIds : List String)
    (minEnabledTimestamp maxEnabledTimestamp : Timestamp) : Except PyError (List Int32) :=
  match streamIdSet F streamIds with
  | .error e => .error e
  | .ok ids => .ok (enabledIndices (recordTypes.map L.toRecordType) ids minEnabledTimestamp
      maxEnabledTimestamp F.index 0)

/-- `getTimestampForIndex`. -/
def getTimestampForIndex (idx : Int32) : Except PyError Timestamp :=
  if idx.toInt < 0 then .error (.indexError "Index out of range.")
  else
    match F.index[idx.toInt.toNat]? with
    | none => .error (.indexError "Index out of range.")
    | some record => .ok record.timestamp

/-- `getTimestampListForIndices`. -/
def getTimestampListForIndices : List Int32 → Except PyError (List Timestamp)
  | [] => .ok []
  | idx :: rest =>
    match getTimestampForIndex F idx with
    | .error e => .error e
    | .ok timestamp =>
      match getTimestampListForIndices rest with
      | .error e => .error e
      | .ok timestamps => .ok (timestamp :: timestamps)

/-- `getStreamIdForIndex`. -/
def getStreamIdForIndex (recordIndex : Int32) : Except PyError String :=
  if recordIndex.toInt < 0 then .error (.indexError "Index out of range.")
  else
    match F.index[recordIndex.toInt.toNat]? with
    | none => .error (.indexError "Index out of range.")
    | some record => .ok (L.getNumericName record.streamId)

/-! ## The interface -/

/-- The result of an operation, as a reply. -/
def answer {α : Type} (value : α → Value L) (result : Except PyError α × OssVRSReader L) :
    Reply L × OssVRSReader L :=
  (result.1.map value, result.2)

/-- The number of streams an operation is about, as a reply. -/
def answerCount (result : ℕ × OssVRSReader L) : Reply L × OssVRSReader L :=
  (.ok (.count result.1), result.2)

/-- One call of the interface. -/
def call : Machine (OssVRSReader L) Call (Reply L)
  | reader, .enableStream streamId => answer (fun _ => .unit) (reader.enableStream F streamId)
  | reader, .enableStreams typeId flavor => answerCount (reader.enableStreams F typeId flavor)
  | reader, .enableStreamsByIndexes indexes =>
    answerCount (reader.enableStreamsByIndexes F indexes)
  | reader, .enableAllStreams => answerCount (reader.enableAllStreams F)
  | reader, .gotoRecord index => answer .info (reader.gotoRecord F index)
  | reader, .readNextRecord => answer .record (reader.readNextRecord F D)
  | reader, .readNextRecordOfStream streamId =>
    answer .record (reader.readNextRecordOfStream F D streamId)
  | reader, .readNextRecordOfStreamAndType streamId recordType =>
    answer .record (reader.readNextRecordOfStreamAndType F D streamId recordType)
  | reader, .readNextRecordOfRecordable typeId =>
    answer .record (reader.readNextRecordOfRecordable F D typeId)
  | reader, .readNextRecordOfRecordableAndType typeId recordType =>
    answer .record (reader.readNextRecordOfRecordableAndType F D typeId recordType)
  | reader, .readRecord index => answer .record (reader.readRecord F D index)
  | reader, .readRecordOfStreamAndType streamId recordType index =>
    answer .record (reader.readRecordOfStreamAndType F D streamId recordType index)
  | reader, .regenerateEnabledIndices recordTypes streamIds minT maxT =>
    answer .indices (regenerateEnabledIndices F recordTypes streamIds minT maxT, reader)
  | reader, .getTimestampForIndex index =>
    answer .timestamp (getTimestampForIndex F index, reader)
  | reader, .getTimestampListForIndices indices =>
    answer .timestamps (getTimestampListForIndices F indices, reader)
  | reader, .getStreamIdForIndex index => answer .name (getStreamIdForIndex F index, reader)
  | reader, .setEncoding encoding => (.ok .unit, { reader with encoding })
  | reader, .setImageConversion conversion => (.ok .unit, reader.setImageConversion conversion)
  | reader, .setImageConversionOfStream streamId conversion =>
    answer (fun _ => .unit) (reader.setImageConversionOfStream F streamId conversion)
  | reader, .setImageConversionOfRecordable typeId conversion =>
    answerCount (reader.setImageConversionOfRecordable F typeId conversion)
  | reader, .skipTrailingBlocks typeId recordType first =>
    (.ok .unit, reader.skipTrailingBlocks typeId recordType first)

end OssVRSReader

end Pyvrs
