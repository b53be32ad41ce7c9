import Pyvrs.Reader.VRSReader

/-!
# The multi-file reader

`OssMultiVRSReader`, function by function, over the merged index of the files that
`MultiRecordFileReader` opens together. A record keeps the id its stream has in its own file; the
streams of different files are told apart by their unique ids, by which streams are enabled and
named. Each stream enabled has a player of its own.
-/

namespace Pyvrs

open Foundations

/-- `vrs::MultiRecordFileReader` with files open. -/
structure MultiRecordFileReader (L : VrsLib) where
  /-- The records of all the files in their merged order. -/
  records : List RecordInfo
  /-- `getRecordCount` is a `uint32_t`. -/
  length_records_lt : records.length < 2 ^ 32
  /-- `getUniqueStreamId`, of the record at a position. -/
  getUniqueStreamId : ℕ → StreamId
  /-- A unique stream is a stream of one file. -/
  streamId_eq : ∀ i j record record', records[i]? = some record → records[j]? = some record' →
    getUniqueStreamId i = getUniqueStreamId j → record.streamId = record'.streamId
  /-- `getStreams`, the unique ids. -/
  streams : List StreamId
  /-- The records belong to these streams. -/
  mem_streams : ∀ i < records.length, getUniqueStreamId i ∈ streams
  /-- `getStreamForName`, `none` for an invalid id. -/
  getStreamForName : String → Option StreamId
  /-- `getStreams(typeId, flavor)`. -/
  getStreamsOf : RecordableTypeId → String → List StreamId
  /-- `getRecordFormats`, the formats found. -/
  getRecordFormats : StreamId → List RecordFormat
  /-- `getRecord(streamId, indexNumber)`, as its position. -/
  getRecordOfStream : StreamId → ℕ → Option (Fin records.length)
  /-- `getRecord(streamId, recordType, indexNumber)`, as its position. -/
  getRecordOfType : StreamId → RecordType → ℕ → Option (Fin records.length)
  /-- `getSerialNumber`. -/
  getSerialNumber : StreamId → String

namespace MultiRecordFileReader

variable {L : VrsLib} (F : MultiRecordFileReader L)

/-- `getRecord(globalIndex)`, null past the end. -/
def getRecord (i : ℕ) : Option RecordInfo := F.records[i]?

/-- `getRecordCount`. -/
def getRecordCount : ℕ := F.records.length

/-- One file opened on its own: its records in the order of its index, and its streams under their
own ids. -/
def ofFile (F : RecordFileReader L) : MultiRecordFileReader L where
  records := F.index
  length_records_lt := F.length_index_lt
  getUniqueStreamId i := (F.index[i]?.map RecordInfo.streamId).getD ⟨0, 0⟩
  streamId_eq i j record record' hi hj h := by simpa [hi, hj] using h
  streams := F.streams
  mem_streams i hi := by
    rw [List.getElem?_eq_getElem hi]
    exact F.mem_streams _ (List.getElem_mem hi)
  getStreamForName := F.getStreamForName
  getStreamsOf := F.getStreamsOf
  getRecordFormats := F.getRecordFormats
  getRecordOfStream := F.getRecordOfStream
  getRecordOfType := F.getRecordOfType
  getSerialNumber := F.getSerialNumber

end MultiRecordFileReader

/-- `OssMultiVRSReader`. -/
structure OssMultiVRSReader (L : VrsLib) where
  nextRecordIndex : ℕ
  enabledStreams : Finset StreamId
  lastRecord : RecordCache L
  /-- `playerByStreamIdMap_`, with a new player for the streams it does not hold yet. -/
  playerByStreamIdMap : StreamId → BaseVRSReaderStreamPlayer L
  firstSkippedTrailingBlockIndex : RecordableTypeId × RecordType → Option ℕ
  imageConversion : ImageConversion
  streamImageConversion : StreamId → Option ImageConversion
  encoding : String
  /-- `configIndex_`, `none` while the map is empty. -/
  configIndex : Option (StreamId → List ℕ)
  /-- `lastReadConfigIndex_`, with the default of the streams it does not hold. -/
  lastReadConfigIndex : StreamId → ℕ
  autoReadConfigurationRecord : Bool
  nativeReads : List NativeRead

namespace OssMultiVRSReader

variable {L : VrsLib}

/-- `OssMultiVRSReader(autoReadConfigurationRecord)`. The format version of a new cache is
indeterminate. -/
def new (autoReadConfigurationRecord : Bool) : OssMultiVRSReader L where
  nextRecordIndex := 0
  enabledStreams := ∅
  lastRecord := .empty 0
  playerByStreamIdMap := fun _ => .new
  firstSkippedTrailingBlockIndex := fun _ => none
  imageConversion := .off
  streamImageConversion := fun _ => none
  encoding := "utf-8"
  configIndex := none
  lastReadConfigIndex := fun _ => 0
  autoReadConfigurationRecord := autoReadConfigurationRecord
  nativeReads := []

variable (F : MultiRecordFileReader L) (D : Native L) (reader : OssMultiVRSReader L)

/-- `open`, when the native `open` succeeds with the files `F`. -/
def «open» : OssMultiVRSReader L :=
  { reader with
    nextRecordIndex := 0
    lastReadConfigIndex :=
      if reader.autoReadConfigurationRecord then
        fun streamId => if streamId ∈ F.streams then uint32Max
          else reader.lastReadConfigIndex streamId
      else reader.lastReadConfigIndex }

/-- `getUniqueStreamIdForRecordIndex`. -/
def getUniqueStreamIdForRecordIndex (recordIndex : ℕ) : StreamId := F.getUniqueStreamId recordIndex

/-! ## Streams -/

/-- `getStreamId`. -/
def getStreamId (streamId : String) : Except PyError StreamId :=
  match F.getStreamForName streamId with
  | some id => .ok id
  | none => .error (streamNotFoundError L streamId F.streams)

/-- `enableStream(const StreamId&)`. -/
def enableStreamId (id : StreamId) : OssMultiVRSReader L :=
  { reader with enabledStreams := insert id reader.enabledStreams }

/-- `enableStream(const string&)`. -/
def enableStream (streamId : String) : Except PyError Unit × OssMultiVRSReader L :=
  match getStreamId F streamId with
  | .ok id => (.ok (), reader.enableStreamId id)
  | .error e => (.error e, reader)

/-- `enableStreams`, with the number of streams enabled. -/
def enableStreams (typeId : RecordableTypeId) (flavor : String) : ℕ × OssMultiVRSReader L :=
  let streams := F.getStreamsOf typeId flavor
  (streams.length, streams.foldl enableStreamId reader)

/-- The streams with a record format that has images. -/
def playableStreams : List StreamId :=
  F.streams.filter fun id =>
    (F.getRecordFormats id).any fun format => 0 < format.getBlocksOfTypeCount .image

/-- `enableStreamsByIndexes`. -/
def enableStreamsByIndexes (indexes : List Int32) : ℕ × OssMultiVRSReader L :=
  let streams := OssVRSReader.streamsAt (playableStreams F) indexes
  (streams.length, streams.foldl enableStreamId reader)

/-- `enableAllStreams`. -/
def enableAllStreams : ℕ × OssMultiVRSReader L :=
  (F.streams.length, F.streams.foldl enableStreamId reader)

/-! ## Settings -/

/-- `getImageConversion`. -/
def getImageConversion (id : StreamId) : ImageConversion :=
  (reader.streamImageConversion id).getD reader.imageConversion

/-- `setImageConversion(conversion)`: also drops the policies of single streams. -/
def setImageConversion (conversion : ImageConversion) : OssMultiVRSReader L :=
  { reader with imageConversion := conversion, streamImageConversion := fun _ => none }

/-- `setImageConversion(const StreamId&, conversion)`, for a valid id. -/
def setImageConversionOfId (conversion : ImageConversion) (id : StreamId) :
    OssMultiVRSReader L :=
  { reader with
    streamImageConversion := Function.update reader.streamImageConversion id (some conversion) }

/-- `setImageConversion(const string&, conversion)`. -/
def setImageConversionOfStream (streamId : String) (conversion : ImageConversion) :
    Except PyError Unit × OssMultiVRSReader L :=
  match getStreamId F streamId with
  | .ok id => (.ok (), reader.setImageConversionOfId conversion id)
  | .error e => (.error e, reader)

/-- `setImageConversion(RecordableTypeId, conversion)`, with the number of streams of the type. -/
def setImageConversionOfRecordable (typeId : RecordableTypeId) (conversion : ImageConversion) :
    ℕ × OssMultiVRSReader L :=
  let streams := F.streams.filter fun id => id.typeId = typeId
  (streams.length, streams.foldl (fun reader id => reader.setImageConversionOfId conversion id)
    reader)

/-- `skipTrailingBlocks`: an `UNDEFINED` type stands for every type of record, and the index 0
removes the limit. -/
def skipTrailingBlocks (typeId : RecordableTypeId) (recordType : RecordType)
    (firstTrailingContentBlockIndex : ℕ) : OssMultiVRSReader L :=
  let types := if recordType ≠ .undefined then [recordType]
    else [.state, .data, .configuration, .tags]
  let first := if firstTrailingContentBlockIndex ≠ 0 then some firstTrailingContentBlockIndex
    else none
  { reader with
    firstSkippedTrailingBlockIndex :=
      types.foldl (fun map t => Function.update map (typeId, t) first)
        reader.firstSkippedTrailingBlockIndex }

/-! ## Reading records natively -/

/-- What the stream player asks of the reader while a record of the given type is read: the stream
is that of the record at the cursor, whichever record is read. -/
def playerSettings (recordType : RecordType) : PlayerSettings :=
  let streamId := getUniqueStreamIdForRecordIndex F reader.nextRecordIndex
  { encoding := reader.encoding
    imageConversion := reader.getImageConversion streamId
    firstSkippedTrailingBlockIndex :=
      reader.firstSkippedTrailingBlockIndex (streamId.typeId, recordType) }

/-- `reader_.readRecord(record)`, for the record at index `i`: it is handed to the player of its
unique stream if that has one. -/
def nativeReadRecord (i : ℕ) (record : RecordInfo) : ℤ × OssMultiVRSReader L :=
  let delivery := D reader.nativeReads i
  let uniqueStreamId := F.getUniqueStreamId i
  let handed : Bool := uniqueStreamId ∈ reader.enabledStreams
  let before : Playing L := ⟨reader.lastRecord, reader.playerByStreamIdMap uniqueStreamId⟩
  let after := if handed then
    before.play (reader.playerSettings F record.recordType)
      ⟨record.streamId, record.recordType, delivery.formatVersion⟩ delivery.callbacks
    else before
  (delivery.status, { reader with
    lastRecord := after.cache
    playerByStreamIdMap :=
      Function.update reader.playerByStreamIdMap uniqueStreamId after.player
    nativeReads := reader.nativeReads ++ [⟨i, handed, delivery.status⟩] })

/-- `configIndex_`, filled if it was empty. -/
def filledConfigIndex : StreamId → List ℕ :=
  reader.configIndex.getD (buildConfigIndex F.getRecord F.getRecordCount)

/-- The reader once `configIndex_` is filled. -/
def withConfigIndex : OssMultiVRSReader L :=
  { reader with configIndex := some (reader.filledConfigIndex F) }

/-- What a successful configuration read leaves: its position is noted and the cache cleared. -/
def configurationRead (streamId : StreamId) (it : ℕ) : OssMultiVRSReader L :=
  { reader with
    lastReadConfigIndex := Function.update reader.lastReadConfigIndex streamId it
    lastRecord := reader.lastRecord.clear }

/-- The end of `readConfigurationRecord`, that reads the record it found. -/
def readConfigurationAt (streamId : StreamId) (it : ℕ) (record : RecordInfo) :
    Except PyError Unit × OssMultiVRSReader L :=
  let (status, reader) := reader.nativeReadRecord F D it record
  if status ≠ 0 then
    (.error (.indexError "Failed to read prior configuration record."), reader)
  else (.ok (), reader.configurationRead streamId it)

/-- `readConfigurationRecord`. -/
def readConfigurationRecord (streamId : StreamId) (idx : ℕ) :
    Except PyError Unit × OssMultiVRSReader L :=
  let toRead := configurationToRead (reader.filledConfigIndex F) reader.lastReadConfigIndex
    streamId idx
  let reader := reader.withConfigIndex F
  match toRead with
  | none => (.ok (), reader)
  | some it =>
    match F.getRecord it with
    -- the entries of the map are positions of the index
    | none => (.ok (), reader)
    | some record => reader.readConfigurationAt F D streamId it record

/-- The automatic configuration read of `readNextRecordInternal`: the stream is looked up under the
id it has in its own file. -/
def autoReadConfiguration (record : RecordInfo) : Except PyError Unit × OssMultiVRSReader L :=
  if reader.autoReadConfigurationRecord ∧ record.recordType = .data then
    reader.readConfigurationRecord F D record.streamId reader.nextRecordIndex
  else (.ok (), reader)

/-- What a successful read leaves: the cursor one further and the cache moved out. -/
def recordRead : OssMultiVRSReader L :=
  { reader with
    nextRecordIndex := reader.nextRecordIndex + 1
    lastRecord := reader.lastRecord.moved }

/-- The record returned: its stream is named by its unique id. -/
def pyRecord (record : RecordInfo) : PyRecord L :=
  { PyRecord.ofCache record reader.nextRecordIndex reader.lastRecord with
    streamId := L.getNumericName (F.getUniqueStreamId reader.nextRecordIndex) }

/-- The part of `readNextRecordInternal` that follows the automatic configuration read. -/
def readThisRecord (record : RecordInfo) : Except PyError (PyRecord L) × OssMultiVRSReader L :=
  let (status, reader) := reader.nativeReadRecord F D reader.nextRecordIndex record
  if status ≠ 0 then
    (.error (.runtimeError ("Read error: " ++ L.errorCodeToMessageWithCode status)), reader)
  else (.ok (reader.pyRecord F record), reader.recordRead)

/-- `readNextRecordInternal`. -/
def readNextRecordInternal : Except PyError (PyRecord L) × OssMultiVRSReader L :=
  if F.getRecordCount ≤ reader.nextRecordIndex then
    (.error (.stopIteration "No more records"), reader)
  else
    match F.getRecord reader.nextRecordIndex with
    -- excluded by the bound just checked
    | none => (.error (.stopIteration "No more records"), reader)
    | some record =>
      match reader.autoReadConfiguration F D record with
      | (.error e, reader) => (.error e, reader)
      | (.ok (), reader) => reader.readThisRecord F D record

/-! ## Moving the cursor -/

/-- `getRecordInfo`, of the record at `recordIndex`. -/
def getRecordInfo (record : RecordInfo) (recordIndex : ℕ) : RecordInfoDict where
  recordIndex := .ofNat recordIndex
  recordType := lowercaseTypeName L record.recordType
  recordTimestamp := record.timestamp
  streamId := L.getNumericName (F.getUniqueStreamId recordIndex)
  recordableId := L.getNumericName (F.getUniqueStreamId recordIndex)
  serialNumber := F.getSerialNumber (F.getUniqueStreamId recordIndex)

/-- `getNextRecordInfo`. -/
def getNextRecordInfo (errorMessage : String) :
    Except PyError RecordInfoDict × OssMultiVRSReader L :=
  if F.getRecordCount ≤ reader.nextRecordIndex then
    (.error (.indexError errorMessage), { reader with nextRecordIndex := F.getRecordCount })
  else
    match F.getRecord reader.nextRecordIndex with
    | none => (.error (.indexError errorMessage), reader)
    | some record => (.ok (getRecordInfo F record reader.nextRecordIndex), reader)

/-- `gotoRecord`. -/
def gotoRecord (index : Int32) : Except PyError RecordInfoDict × OssMultiVRSReader L :=
  getNextRecordInfo F { reader with nextRecordIndex := castUInt32 index } "Invalid record index"

/-- `match`, by stream, for the record at `i`. -/
def matchStream (i : ℕ) (record : RecordInfo) (id : StreamId) (recordType : RecordType) : Bool :=
  F.getUniqueStreamId i = id ∧ id ∈ reader.enabledStreams ∧
    (recordType = .undefined ∨ record.recordType = recordType)

/-- `match`, by device type, for the record at `i`. -/
def matchRecordable (i : ℕ) (record : RecordInfo) (typeId : RecordableTypeId)
    (recordType : RecordType) : Bool :=
  (F.getUniqueStreamId i).typeId = typeId ∧ F.getUniqueStreamId i ∈ reader.enabledStreams ∧
    (recordType = .undefined ∨ record.recordType = recordType)

/-- The cursor moved forward to the first position whose record satisfies a test, or the end. -/
def skipTo (p : ℕ → RecordInfo → Bool) : OssMultiVRSReader L :=
  { reader with
    nextRecordIndex :=
      firstFrom (fun i => (F.getRecord i).any (p i)) F.getRecordCount reader.nextRecordIndex }

/-- `skipIgnoredRecords`. -/
def skipIgnoredRecords : OssMultiVRSReader L :=
  reader.skipTo F fun i _ => getUniqueStreamIdForRecordIndex F i ∈ reader.enabledStreams

/-- `readNextRecord()`. -/
def readNextRecord : Except PyError (PyRecord L) × OssMultiVRSReader L :=
  (reader.skipIgnoredRecords F).readNextRecordInternal F D

/-- The check that a stream is enabled. -/
def enabledStreamId (streamId : String) : Except PyError StreamId :=
  match getStreamId F streamId with
  | .error e => .error e
  | .ok id =>
    if id ∈ reader.enabledStreams then .ok id
    else .error (.valueError
      ("Stream " ++ streamId ++ " is not enabled. To read record you need to enable it first."))

/-- `readNextRecord(streamId, recordType)`. -/
def readNextRecordOfStreamAndType (streamId recordType : String) :
    Except PyError (PyRecord L) × OssMultiVRSReader L :=
  match reader.enabledStreamId F streamId with
  | .error e => (.error e, reader)
  | .ok id =>
    match OssVRSReader.recordTypeFilter L recordType with
    | .error e => (.error e, reader)
    | .ok type =>
      (reader.skipTo F fun i record =>
        reader.matchStream F i record id type).readNextRecordInternal F D

/-- `readNextRecord(streamId)`. -/
def readNextRecordOfStream (streamId : String) :
    Except PyError (PyRecord L) × OssMultiVRSReader L :=
  reader.readNextRecordOfStreamAndType F D streamId "any"

/-- `readNextRecord(typeId, recordType)`. -/
def readNextRecordOfRecordableAndType (typeId : RecordableTypeId) (recordType : String) :
    Except PyError (PyRecord L) × OssMultiVRSReader L :=
  match OssVRSReader.recordTypeFilter L recordType with
  | .error e => (.error e, reader)
  | .ok type =>
    if ∃ id ∈ reader.enabledStreams, id.typeId = typeId then
      (reader.skipTo F fun i record =>
        reader.matchRecordable F i record typeId type).readNextRecordInternal F D
    else (.error (streamNotFoundError L (L.recordableTypeName typeId) F.streams), reader)

/-- `readNextRecord(typeId)`. -/
def readNextRecordOfRecordable (typeId : RecordableTypeId) :
    Except PyError (PyRecord L) × OssMultiVRSReader L :=
  reader.readNextRecordOfRecordableAndType F D typeId "any"

/-- `readRecord(streamId, recordType, index)`. -/
def readRecordOfStreamAndType (streamId recordType : String) (index : Int32) :
    Except PyError (PyRecord L) × OssMultiVRSReader L :=
  match reader.enabledStreamId F streamId with
  | .error e => (.error e, reader)
  | .ok id =>
    match OssVRSReader.recordTypeFilter L recordType with
    | .error e => (.error e, reader)
    | .ok type =>
      let record := if L.strcasecmp recordType "any" = 0 then
        F.getRecordOfStream id (castUInt32 index) else F.getRecordOfType id type (castUInt32 index)
      match record with
      | none => (.error (.indexError "Invalid record index"),
          { reader with nextRecordIndex := F.getRecordCount })
      | some record => { reader with nextRecordIndex := record.val }.readNextRecordInternal F D

/-- `readRecord(index)`. -/
def readRecord (index : Int32) : Except PyError (PyRecord L) × OssMultiVRSReader L :=
  if index.toInt < 0 ∨ F.getRecordCount ≤ castUInt32 index then
    (.error (.indexError ("No record at index: " ++ toString index)), reader)
  else
    { reader with nextRecordIndex := castUInt32 index }.readNextRecordInternal F D

/-! ## Queries on the index -/

/-- The streams named, or the exception for the first name that is not one of a stream. -/
def streamIdSet : List String → Except PyError (List StreamId)
  | [] => .ok []
  | streamId :: rest =>
    match getStreamId F streamId with
    | .error e => .error e
    | .ok id =>
      match streamIdSet rest with
      | .error e => .error e
      | .ok ids => .ok (id :: ids)

/-- The loop of `regenerateEnabledIndices`, over `fuel` records from the one at `recordIndex` on; it
stops at the first record past the last timestamp. The counter is a `uint32_t` here, and wraps when
it becomes an `int32_t` position. -/
def enabledIndices (types : List RecordType) (ids : List StreamId)
    (minEnabledTimestamp maxEnabledTimestamp : Timestamp) : ℕ → ℕ → List Int32
  | 0, _ => []
  | fuel + 1, recordIndex =>
    match F.getRecord recordIndex with
    | none => []
    | some record =>
      if maxEnabledTimestamp < record.timestamp then []
      else
        let later :=
          enabledIndices types ids minEnabledTimestamp maxEnabledTimestamp fuel (recordIndex + 1)
        if minEnabledTimestamp ≤ record.timestamp ∧ record.recordType ∈ types ∧
            F.getUniqueStreamId recordIndex ∈ ids then .ofNat recordIndex :: later
        else later

/-- `regenerateEnabledIndices`. -/
def regenerateEnabledIndices (recordTypes streamIds : List String)
    (minEnabledTimestamp maxEnabledTimestamp : Timestamp) : Except PyError (List Int32) :=
  match streamIdSet F streamIds with
  | .error e => .error e
  | .ok ids => .ok (enabledIndices F (recordTypes.map L.toRecordType) ids minEnabledTimestamp
      maxEnabledTimestamp F.getRecordCount 0)

/-- `getTimestampForIndex`. -/
def getTimestampForIndex (idx : Int32) : Except PyError Timestamp :=
  match F.getRecord (castUInt32 idx) with
  | none => .error (.indexError "Index out of range.")
  | some record => .ok record.timestamp

/-- `getTimestampListForIndices`. -/
def getTimestampListForIndices : List Int32 → Except PyError (List Timestamp)
  | [] => .ok []
  | idx :: rest =>
    match F.getRecord (castUInt32 idx) with
    | none => .error (.indexError "Index out of range.")
    | some record =>
      match getTimestampListForIndices rest with
      | .error e => .error e
      | .ok timestamps => .ok (record.timestamp :: timestamps)

/-- `getStreamIdForIndex`. -/
def getStreamIdForIndex (recordIndex : Int32) : Except PyError String :=
  if recordIndex.toInt < 0 ∨ F.getRecordCount ≤ castUInt32 recordIndex then
    .error (.indexError "Index out of range.")
  else .ok (L.getNumericName (getUniqueStreamIdForRecordIndex F (castUInt32 recordIndex)))

/-! ## The interface -/

/-- The result of an operation, as a reply. -/
def answer {α : Type} (value : α → Value L) (result : Except PyError α × OssMultiVRSReader L) :
    Reply L × OssMultiVRSReader L :=
  (result.1.map value, result.2)

/-- The number of streams an operation is about, as a reply. -/
def answerCount (result : ℕ × OssMultiVRSReader L) : Reply L × OssMultiVRSReader L :=
  (.ok (.count result.1), result.2)

/-- One call of the interface. -/
def call : Machine (OssMultiVRSReader L) Call (Reply L)
  | reader, .enableStream streamId => answer (fun _ => .unit) (reader.enableStream F streamId)
  | reader, .enableStreams typeId flavor => answerCount (reader.enableStreams F typeId flavor)
  | reader, .enableStreamsByIndexes indexes =>
    answerCount (reader.enableStreamsByIndexes F indexes)
  | reader, .enableAllStreams => answerCount (reader.enableAllStreams F)
  | reader, .gotoRecord index => answer .info (reader.gotoRecord F index)
  | reader, .readNextRecord => answer .record (reader.readNextRecord F D)
  | reader, .readNextRecordOfStream streamId =>
    answer .record (reader.readNextRecordOfStream F D streamId)
  | reader, .readNextRecordOfStreamAndType streamId recordType =>
    answer .record (reader.readNextRecordOfStreamAndType F D streamId recordType)
  | reader, .readNextRecordOfRecordable typeId =>
    answer .record (reader.readNextRecordOfRecordable F D typeId)
  | reader, .readNextRecordOfRecordableAndType typeId recordType =>
    answer .record (reader.readNextRecordOfRecordableAndType F D typeId recordType)
  | reader, .readRecord index => answer .record (reader.readRecord F D index)
  | reader, .readRecordOfStreamAndType streamId recordType index =>
    answer .record (reader.readRecordOfStreamAndType F D streamId recordType index)
  | reader, .regenerateEnabledIndices recordTypes streamIds minT maxT =>
    answer .indices (regenerateEnabledIndices F recordTypes streamIds minT maxT, reader)
  | reader, .getTimestampForIndex index =>
    answer .timestamp (getTimestampForIndex F index, reader)
  | reader, .getTimestampListForIndices indices =>
    answer .timestamps (getTimestampListForIndices F indices, reader)
  | reader, .getStreamIdForIndex index => answer .name (getStreamIdForIndex F index, reader)
  | reader, .setEncoding encoding => (.ok .unit, { reader with encoding })
  | reader, .setImageConversion conversion => (.ok .unit, reader.setImageConversion conversion)
  | reader, .setImageConversionOfStream streamId conversion =>
    answer (fun _ => .unit) (reader.setImageConversionOfStream F streamId conversion)
  | reader, .setImageConversionOfRecordable typeId conversion =>
    answerCount (reader.setImageConversionOfRecordable F typeId conversion)
  | reader, .skipTrailingBlocks typeId recordType first =>
    (.ok .unit, reader.skipTrailingBlocks typeId recordType first)

/-! ## After a native read -/

section NativeRead

variable (i : ℕ) (record : RecordInfo)

theorem readConfigurationAt_of_ne (s : StreamId) (h : (D reader.nativeReads i).status ≠ 0) :
    reader.readConfigurationAt F D s i record =
      (.error (.indexError "Failed to read prior configuration record."),
        (reader.nativeReadRecord F D i record).2) :=
  if_pos h

theorem readConfigurationAt_of_eq (s : StreamId) (h : (D reader.nativeReads i).status = 0) :
    reader.readConfigurationAt F D s i record =
      (.ok (), (reader.nativeReadRecord F D i record).2.configurationRead s i) :=
  if_neg (not_not.2 h)

theorem readThisRecord_of_ne (h : (D reader.nativeReads reader.nextRecordIndex).status ≠ 0) :
    reader.readThisRecord F D record =
      (.error (.runtimeError ("Read error: " ++ L.errorCodeToMessageWithCode
        (D reader.nativeReads reader.nextRecordIndex).status)),
        (reader.nativeReadRecord F D reader.nextRecordIndex record).2) :=
  if_pos h

theorem readThisRecord_of_eq (h : (D reader.nativeReads reader.nextRecordIndex).status = 0) :
    reader.readThisRecord F D record =
      (.ok ((reader.nativeReadRecord F D reader.nextRecordIndex record).2.pyRecord F record),
        (reader.nativeReadRecord F D reader.nextRecordIndex record).2.recordRead) :=
  if_neg (not_not.2 h)

end NativeRead

end OssMultiVRSReader

end Pyvrs
