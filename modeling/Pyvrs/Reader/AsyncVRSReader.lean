import Pyvrs.Reader.ConfigRecords
import Pyvrs.Reader.MultiConfig

/-!
# Asynchronous reads

`OssAsyncVRSReader` and `OssAsyncMultiVRSReader` hand out awaitable records. Awaiting one creates a
future of the event loop and queues a job for the background thread, which reads the record and asks
the loop to set the future's result. The event loop, the queue and the thread are the parts of an
`AsyncReading`, which the steps of either side move, in any interleaving. What is done with the
interpreter's lock held is one step; the thread takes a job from the queue without it.
-/

namespace Pyvrs

open Foundations

/-- The record read is the one that the information is about. -/
structure RecordInfoDict.IsOf {L : VrsLib} (info : RecordInfoDict) (record : PyRecord L) :
    Prop where
  recordIndex_eq : record.recordIndex = info.recordIndex
  recordType_eq : record.recordType = info.recordType
  recordTimestamp_eq : record.recordTimestamp = info.recordTimestamp
  streamId_eq : record.streamId = info.streamId

/-- `VRSReaderBase`: a reader whose records are read by index, with what is known of a record
beforehand. A record that is read is the one of its index. -/
structure VRSReaderBase (L : VrsLib) where
  Reader : Type
  readRecord : Reader → Int32 → Except PyError (PyRecord L) × Reader
  getRecordInfo : Int32 → Option RecordInfoDict
  readRecord_eq_ok : ∀ reader index record reader',
    readRecord reader index = (.ok record, reader') →
    ∃ info, getRecordInfo index = some info ∧ info.IsOf record

/-! ## Awaitable records -/

namespace OssVRSReader

variable {L : VrsLib} (F : RecordFileReader L) (reader : OssVRSReader L)

/-- `OssAsyncVRSReader::asyncReadRecord(index)`, the index of the awaitable record. A negative index
is a `size_t` past the end. -/
def asyncReadRecord (index : Int32) : Except PyError ℕ :=
  if index.toInt < 0 ∨ F.index.length ≤ castUInt32 index then
    .error (.indexError "No record for this index")
  else .ok (castUInt32 index)

/-- `OssAsyncVRSReader::asyncReadRecord(streamId, recordType, index)`. -/
def asyncReadRecordOfStreamAndType (streamId recordType : String) (index : Int32) :
    Except PyError ℕ × OssVRSReader L :=
  match getStreamId F streamId with
  | .error e => (.error e, reader)
  | .ok id =>
    if id ∉ reader.enabledStreams then
      (.error (.valueError "Stream not setup for reading"), reader)
    else
      let type := L.toRecordType recordType
      let any := L.strcasecmp recordType "any" = 0
      if type = .undefined ∧ ¬any then
        (.error (.valueError "Unsupported record type filter"), reader)
      else
        match if any then F.getRecordOfStream id (castUInt32 index)
          else F.getRecordOfType id type (castUInt32 index) with
        | none => (.error (.indexError "Invalid record index"),
            { reader with nextRecordIndex := F.index.length })
        | some record => (.ok record.val, reader)

end OssVRSReader

namespace OssMultiVRSReader

variable {L : VrsLib} (F : MultiRecordFileReader L) (reader : OssMultiVRSReader L)

/-- `OssAsyncMultiVRSReader::asyncReadRecord(index)`. -/
def asyncReadRecord (index : Int32) : Except PyError ℕ :=
  if F.getRecordCount ≤ castUInt32 index then .error (.indexError "No record for this index")
  else .ok (castUInt32 index)

/-- `OssAsyncMultiVRSReader::asyncReadRecord(streamId, recordType, index)`. -/
def asyncReadRecordOfStreamAndType (streamId recordType : String) (index : Int32) :
    Except PyError ℕ × OssMultiVRSReader L :=
  match getStreamId F streamId with
  | .error e => (.error e, reader)
  | .ok id =>
    if id ∉ reader.enabledStreams then
      (.error (.valueError "Stream not setup for reading"), reader)
    else
      let type := L.toRecordType recordType
      let any := L.strcasecmp recordType "any" = 0
      if type = .undefined ∧ ¬any then
        (.error (.valueError "Unsupported record type filter"), reader)
      else
        match if any then F.getRecordOfStream id (castUInt32 index)
          else F.getRecordOfType id type (castUInt32 index) with
        | none => (.error (.indexError ("Invalid record index: " ++ toString index)),
            { reader with nextRecordIndex := F.getRecordCount })
        | some record => (.ok record.val, reader)

end OssMultiVRSReader

/-! ## Jobs -/

/-- `AsyncReadJob`: the number of its future, in the order in which they were created, and the index
of its record. -/
structure AsyncReadJob where
  future : ℕ
  index : ℕ
  deriving DecidableEq, Repr

/-- The background thread, in `asyncThreadActivity`. -/
inductive AsyncThread (L : VrsLib)
  /-- In `waitForJob`. -/
  | waiting
  /-- `waitForJob` returned a job. -/
  | taken (job : AsyncReadJob)
  /-- In `performJob`, once the record is read. -/
  | read (job : AsyncReadJob) (record : PyRecord L)

/-- An event loop and the background thread of a reader that stays open. -/
structure AsyncReading {L : VrsLib} (base : VRSReaderBase L) where
  reader : base.Reader
  /-- The jobs created so far. -/
  awaited : List AsyncReadJob
  workerQueue : List AsyncReadJob
  thread : AsyncThread L
  /-- The calls of `set_result` that the event loop was asked to make. -/
  callbacks : List (AsyncReadJob × PyRecord L)
  /-- The results that futures were given, in order. -/
  completed : List (AsyncReadJob × Except PyError (PyRecord L))
  /-- An exception left the thread's function, upon which `std::terminate` ends the process: the job
  it was thrown in, and the exception. -/
  terminated : Option (AsyncReadJob × PyError)

/-- The steps of the event loop and of the thread. -/
inductive AsyncStep
  /-- `AwaitableRecord::await`, of the record at an index. -/
  | await (index : ℕ)
  /-- The event loop makes a call it was asked to make. -/
  | runCallback
  /-- `waitForJob` returns a job. -/
  | waitForJob
  /-- `performJob` reads the record. -/
  | readRecord
  /-- `performJob` calls `call_soon_threadsafe`. -/
  | callSoonThreadsafe
  deriving DecidableEq, Repr

namespace AsyncReading

variable {L : VrsLib} {base : VRSReaderBase L}

/-- A reader before anything is awaited. -/
def new (reader : base.Reader) : AsyncReading base where
  reader
  awaited := []
  workerQueue := []
  thread := .waiting
  callbacks := []
  completed := []
  terminated := none

variable (s : AsyncReading base)

/-- `AwaitableRecord::await`. -/
def await (index : ℕ) : AsyncReading base :=
  let job : AsyncReadJob := ⟨s.awaited.length, index⟩
  { s with awaited := s.awaited ++ [job], workerQueue := s.workerQueue ++ [job] }

/-- The event loop calls `future.set_result(record)`. -/
def runCallback : AsyncReading base :=
  match s.callbacks with
  | [] => s
  | (job, record) :: callbacks =>
    { s with callbacks, completed := s.completed ++ [(job, .ok record)] }

/-- `waitForJob`, when it returns a job. -/
def waitForJob : AsyncReading base :=
  match s.thread, s.workerQueue with
  | .waiting, job :: workerQueue => { s with thread := .taken job, workerQueue }
  | _, _ => s

/-- The first half of `performJob`: an exception is not caught, neither there nor in
`asyncThreadActivity`. -/
def readRecord : AsyncReading base :=
  match s.thread with
  | .taken job =>
    match base.readRecord s.reader (.ofNat job.index) with
    | (.ok record, reader) => { s with reader, thread := .read job record }
    | (.error e, reader) => { s with reader, terminated := some (job, e) }
  | _ => s

/-- The second half of `performJob`. -/
def callSoonThreadsafe : AsyncReading base :=
  match s.thread with
  | .read job record =>
    { s with thread := .waiting, callbacks := s.callbacks ++ [(job, record)] }
  | _ => s

/-- One step; a process that was terminated makes none. -/
def step : Machine (AsyncReading base) AsyncStep Unit := fun s event =>
  ((), match s.terminated, event with
    | some _, _ => s
    | none, .await index => s.await index
    | none, .runCallback => s.runCallback
    | none, .waitForJob => s.waitForJob
    | none, .readRecord => s.readRecord
    | none, .callSoonThreadsafe => s.callSoonThreadsafe)

end AsyncReading

/-! ## The readers -/

namespace OssVRSReader

variable {L : VrsLib} {F : RecordFileReader L} {D : Native L} {reader reader' : OssVRSReader L}

/-- A record returned is that of the index asked for. -/
theorem readRecord_eq_ok {index : Int32} {r : PyRecord L}
    (h : reader.readRecord F D index = (.ok r, reader')) :
    ∃ record cache, F.index[castUInt32 index]? = some record ∧
      r = .ofCache record (castUInt32 index) cache := by
  unfold readRecord at h
  split at h
  · cases h
  obtain ⟨record, reader₁, hrecord, hauto, hthis⟩ := readNextRecordInternal_eq_ok F D _ h
  have hcursor : reader₁.nextRecordIndex = castUInt32 index := by
    have hframe := (autoReadConfiguration_frame F D
      { reader with nextRecordIndex := castUInt32 index } record).1
    rwa [hauto] at hframe
  obtain ⟨-, hr, -⟩ := readThisRecord_eq_ok D reader₁ record hthis
  rw [hcursor] at hr
  exact ⟨record, _, hrecord, hr⟩

/-- The single-file reader with a file open. -/
def base (F : RecordFileReader L) (D : Native L) : VRSReaderBase L where
  Reader := OssVRSReader L
  readRecord reader index := reader.readRecord F D index
  getRecordInfo index := (F.index[castUInt32 index]?).map fun record =>
    getRecordInfo F record (castUInt32 index)
  readRecord_eq_ok reader index r reader' h := by
    obtain ⟨record, cache, hrecord, rfl⟩ := readRecord_eq_ok h
    exact ⟨_, by rw [hrecord]; rfl, rfl, rfl, rfl, rfl⟩

end OssVRSReader

namespace OssMultiVRSReader

variable {L : VrsLib} {F : MultiRecordFileReader L} {D : Native L}
  {reader reader' : OssMultiVRSReader L}

/-- A record returned is that of the index asked for. -/
theorem readRecord_eq_ok {index : Int32} {r : PyRecord L}
    (h : reader.readRecord F D index = (.ok r, reader')) :
    ∃ record cache, F.getRecord (castUInt32 index) = some record ∧
      r = { PyRecord.ofCache record (castUInt32 index) cache with
        streamId := L.getNumericName (F.getUniqueStreamId (castUInt32 index)) } := by
  unfold readRecord at h
  split at h
  · cases h
  unfold readNextRecordInternal at h
  split at h
  · cases h
  split at h
  · cases h
  rename_i record hrecord
  split at h
  · cases h
  rename_i reader₁ hauto
  have hcursor : reader₁.nextRecordIndex = castUInt32 index := by
    have hframe := (autoReadConfiguration_frame F D
      { reader with nextRecordIndex := castUInt32 index } record).1
    rwa [hauto] at hframe
  obtain ⟨hstatus, -⟩ := readThisRecord_eq_ok F D reader₁ h
  rw [readThisRecord_of_eq F D reader₁ record hstatus] at h
  cases h
  exact ⟨record, _, hrecord, by rw [← hcursor]; rfl⟩

/-- The multi-file reader with files open. -/
def base (F : MultiRecordFileReader L) (D : Native L) : VRSReaderBase L where
  Reader := OssMultiVRSReader L
  readRecord reader index := reader.readRecord F D index
  getRecordInfo index := (F.getRecord (castUInt32 index)).map fun record =>
    getRecordInfo F record (castUInt32 index)
  readRecord_eq_ok reader index r reader' h := by
    obtain ⟨record, cache, hrecord, rfl⟩ := readRecord_eq_ok h
    exact ⟨_, by rw [hrecord]; rfl, rfl, rfl, rfl, rfl⟩

end OssMultiVRSReader

end Pyvrs
