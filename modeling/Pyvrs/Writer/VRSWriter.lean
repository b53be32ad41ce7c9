import Pyvrs.Foundations.Run
import Pyvrs.Writer.PyRecordable

/-!
# The Python writer

`VRSWriter` and `VRSStream`. A writer gives out streams, which create records at any timestamp not
before the last flush; a flush creates the file if it is the first, and writes the records up to its
timestamp. A stream takes data records once it has taken a configuration record.
-/

namespace Pyvrs

open Foundations

/-- A `VRSDataLayout`, which is one of a record format of a stream. -/
structure DataLayoutId where
  stream : ℕ
  dataLayoutType : CreatedType
  index : ℕ
  deriving DecidableEq, Repr

/-- An argument of `create_*_record` after the timestamp. -/
inductive Source {L : VrsLib} (N : WriterLib L)
  | dataLayout (id : DataLayoutId)
  | array (array : N.NdArray)
  | other

/-- `VRSStream`, with the tags of its recordable. -/
structure VRSStream (L : VrsLib) where
  stream : PyStream L
  configRecordCreated : Bool := false
  tags : List (String × String) := []

/-- `VRSWriter`, with the streams it has given out. -/
structure VRSWriter {L : VrsLib} (N : WriterLib L) where
  writer : RecordFileWriter N := {}
  filepath : String
  fileCreated : Bool := false
  lastFlushedTimestamp : Timestamp := .negInf
  streams : List (VRSStream L) := []

/-- The calls to a writer and to its streams. -/
inductive WriterCall {L : VrsLib} (N : WriterLib L)
  | createStream (name flavor : String)
  | createConfigRecord (stream : ℕ) (timestamp : Timestamp) (srcs : List (Source N))
  | createDataRecord (stream : ℕ) (timestamp : Timestamp) (srcs : List (Source N))
  | createStateRecord (stream : ℕ) (timestamp : Timestamp) (srcs : List (Source N))
  | flushRecords (timestamp : Timestamp)
  | setTag (tagName tagValue : String)
  | setStreamTag (stream : ℕ) (tagName tagValue : String)
  | addRecordable (recordable : N.Recordable)

/-- What they return: `create_stream` a stream, `flush_records` a status. -/
inductive WriterValue
  | stream (stream : ℕ)
  | status (status : ℤ)
  | none
  deriving DecidableEq, Repr

section Sources

variable {L : VrsLib} {N : WriterLib L}

/-- The datalayout that the argument is. -/
def Source.dataLayout? : Source N → Option DataLayoutId
  | .dataLayout id => some id
  | _ => none

/-- The array that the argument is. -/
def Source.array? : Source N → Option N.NdArray
  | .array a => some a
  | _ => none

/-- The datalayouts of `record_formats[record_type]`, of the stream with the number `stream`. -/
def VRSStream.dataLayouts (s : VRSStream L) (stream : ℕ) (recordType : CreatedType) :
    List DataLayoutId :=
  (List.range (s.stream.recordFormat recordType).dataLayouts.length).map (⟨stream, recordType, ·⟩)

/-- A datalayout, in the messages. -/
def DataLayoutId.describe (id : DataLayoutId) : String :=
  "DataLayout for " ++ id.dataLayoutType.toStr ++ " Record[" ++ toString id.index ++ "]"

/-- `parse_create_record_params`. -/
def VRSStream.parseCreateRecordParams (s : VRSStream L) (stream : ℕ) (recordType : CreatedType)
    (srcs : List (Source N)) : Except PyError (List N.NdArray) :=
  let dataLayouts := srcs.filterMap Source.dataLayout?
  let dataSrcs := srcs.filterMap Source.array?
  let formatDataLayouts := s.dataLayouts stream recordType
  if dataLayouts.length ≠ formatDataLayouts.length then
    .error (.typeError ("Number of DataLayouts you provided doesn't match: " ++
      toString dataLayouts.length ++ " != " ++ toString formatDataLayouts.length))
  else
    match (dataLayouts.zip formatDataLayouts).find? fun (dlParam, dl) => dlParam ≠ dl with
    | some (dlParam, dl) =>
      .error (.typeError ("Order or type of the DataLayout doesn't match: \n" ++
        dlParam.describe ++ " vs " ++ dl.describe))
    | none =>
      if 3 < dataSrcs.length then
        .error (.typeError ("You provide " ++ toString dataSrcs.length ++
          " but you are allowed toput up to 3 sources."))
      else .ok dataSrcs

end Sources

namespace VRSWriter

variable {L : VrsLib} {N : WriterLib L} (w : VRSWriter N)

/-- `VRSWriter(filepath)`. -/
def new (N : WriterLib L) (filepath : String) : VRSWriter N := { filepath := filepath }

/-- `create_stream`. -/
def createStream (name flavor : String) : Except PyError ℕ × VRSWriter N :=
  let created :=
    if 0 < flavor.length then N.factory.createFlavoredStream name flavor
    else N.factory.createStream name
  match created with
  | none => (.error (.valueError ("Unsupported stream name " ++ name)), w)
  | some stream => (.ok w.streams.length, { w with streams := w.streams ++ [{ stream }] })

/-- `set_tag` of the writer. -/
def setTag (tagName tagValue : String) : Except PyError Unit × VRSWriter N :=
  if w.fileCreated then
    (.error (.exception "Tags should be set before file is created."), w)
  else (.ok (), { w with writer := w.writer.setTag tagName tagValue })

/-- `add_recordable`. -/
def addRecordable (recordable : N.Recordable) : Except PyError Unit × VRSWriter N :=
  if w.fileCreated then
    (.error (.runtimeError "Recordables must be added before file creation."), w)
  else (.ok (), { w with writer := w.writer.addRecordable recordable })

/-- `assert_timestamp`. -/
def assertTimestamp (timestamp : Timestamp) : Except PyError Unit :=
  if timestamp < w.lastFlushedTimestamp then
    .error (.timestampOrderWriteException w.lastFlushedTimestamp timestamp)
  else .ok ()

/-- `_create`. -/
def create : Except PyError Unit × VRSWriter N :=
  if w.fileCreated then (.ok (), w)
  else
    let (status, writer) := w.writer.createFileAsync w.filepath
    let w := { w with fileCreated := true, writer := writer }
    if status ≠ 0 then (.error (.exception ("Failed to create file at " ++ w.filepath)), w)
    else (.ok (), w)

/-- `flush_records`. -/
def flushRecords (timestamp : Timestamp) : Except PyError ℤ × VRSWriter N :=
  match w.assertTimestamp timestamp with
  | .error e => (.error e, w)
  | .ok () =>
    match w.create with
    | (.error e, w) => (.error e, w)
    | (.ok (), w) =>
      let (status, writer) := w.writer.writeRecordsAsync timestamp
      (.ok status, { w with lastFlushedTimestamp := timestamp, writer := writer })

/-- `close`. -/
def close : ℤ × VRSWriter N :=
  let (status, writer) := w.writer.waitForFileClosed
  (status, { w with writer := writer })

/-! ## Records -/

/-- An exception when the name of a stream stands for nothing. -/
def noSuchStream (stream : ℕ) : PyError :=
  .nameError ("name 'stream" ++ toString stream ++ "' is not defined")

/-- The checks before a record is created, `check` being the one of its type, and the buffers of
the arrays among the arguments. -/
def checkRecord (recordType : CreatedType) (check : VRSStream L → Except PyError Unit)
    (stream : ℕ) (s : VRSStream L) (timestamp : Timestamp) (srcs : List (Source N)) :
    Except PyError (List BufferInfo) := do
  w.assertTimestamp timestamp
  check s
  let dataSrcs ← s.parseCreateRecordParams stream recordType srcs
  dataSrcs.mapM N.request

/-- `PyStream::createRecord`, for each number of buffers. -/
def createNativeRecord (stream : ℕ) (timestamp : Timestamp) (recordFormat : PyRecordFormat L)
    (buffers : List BufferInfo) : VRSWriter N :=
  { w with
    writer := w.writer.createRecord stream timestamp recordFormat.recordType
      recordFormat.formatVersion (recordFormat.getDataSource (buffers.map BufferInfo.chunk)) }

/-- What `create_config_record`, `create_data_record` and `create_state_record` share: the checks,
and the record. -/
def createRecord (recordType : CreatedType) (check : VRSStream L → Except PyError Unit)
    (stream : ℕ) (timestamp : Timestamp) (srcs : List (Source N)) :
    Except PyError Unit × VRSWriter N :=
  match w.streams[stream]? with
  | none => (.error (noSuchStream stream), w)
  | some s =>
    match w.checkRecord recordType check stream s timestamp srcs with
    | .error e => (.error e, w)
    | .ok buffers =>
      (.ok (), w.createNativeRecord stream timestamp (s.stream.recordFormat recordType) buffers)

/-- `config_record_created = True`. -/
def setConfigRecordCreated (stream : ℕ) : VRSWriter N :=
  { w with streams := w.streams.modify stream fun s => { s with configRecordCreated := true } }

/-- `create_config_record`. -/
def createConfigRecord (stream : ℕ) (timestamp : Timestamp) (srcs : List (Source N)) :
    Except PyError Unit × VRSWriter N :=
  match w.createRecord .configuration (fun _ => .ok ()) stream timestamp srcs with
  | (.error e, w) => (.error e, w)
  | (.ok (), w) => (.ok (), w.setConfigRecordCreated stream)

/-- The check of `create_data_record`. -/
def checkConfigRecordCreated (s : VRSStream L) : Except PyError Unit :=
  if s.configRecordCreated then .ok ()
  else .error (.exception "Configuration record is not created yet.")

/-- `create_data_record`. -/
def createDataRecord (stream : ℕ) (timestamp : Timestamp) (srcs : List (Source N)) :
    Except PyError Unit × VRSWriter N :=
  w.createRecord .data checkConfigRecordCreated stream timestamp srcs

/-- `create_state_record`. -/
def createStateRecord (stream : ℕ) (timestamp : Timestamp) (srcs : List (Source N)) :
    Except PyError Unit × VRSWriter N :=
  w.createRecord .state (fun _ => .ok ()) stream timestamp srcs

/-- `set_tag` of a stream. -/
def setStreamTag (stream : ℕ) (tagName tagValue : String) : Except PyError Unit × VRSWriter N :=
  if w.streams.length ≤ stream then (.error (noSuchStream stream), w)
  else if w.fileCreated then
    (.error (.exception "Tags should be set before file is created."), w)
  else
    (.ok (), { w with
      streams := w.streams.modify stream fun s =>
        { s with tags := s.tags ++ [(tagName, tagValue)] } })

/-- The reply of a call, from the value it returns. -/
def answer {α : Type} (value : α → WriterValue) (result : Except PyError α × VRSWriter N) :
    Except PyError WriterValue × VRSWriter N :=
  (result.1.map value, result.2)

/-- One call. -/
def call : Machine (VRSWriter N) (WriterCall N) (Except PyError WriterValue)
  | w, .createStream name flavor => answer .stream (w.createStream name flavor)
  | w, .createConfigRecord stream timestamp srcs =>
    answer (fun _ => .none) (w.createConfigRecord stream timestamp srcs)
  | w, .createDataRecord stream timestamp srcs =>
    answer (fun _ => .none) (w.createDataRecord stream timestamp srcs)
  | w, .createStateRecord stream timestamp srcs =>
    answer (fun _ => .none) (w.createStateRecord stream timestamp srcs)
  | w, .flushRecords timestamp => answer .status (w.flushRecords timestamp)
  | w, .setTag tagName tagValue => answer (fun _ => .none) (w.setTag tagName tagValue)
  | w, .setStreamTag stream tagName tagValue =>
    answer (fun _ => .none) (w.setStreamTag stream tagName tagValue)
  | w, .addRecordable recordable => answer (fun _ => .none) (w.addRecordable recordable)

end VRSWriter

end Pyvrs
