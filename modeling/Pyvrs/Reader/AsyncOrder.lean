import Pyvrs.Reader.AsyncReads
import Pyvrs.Reader.RandomAccess

/-!
# What asynchronous reads return

However awaits, the background thread and the event loop take turns, the futures get what the reader
returns when it is asked, on its own, for the same records in the order in which they were awaited;
and the process ends at the first of these reads that raises (`read_in_sequence`). While records are
awaited and read, the reader may be called, and enabled streams or settings change between an await
and the read. A record is then the one that a reader which has just opened the file returns, with
the settings that are in force when the thread gets to read it (`read_as_reopened`).
-/

namespace Pyvrs

open Foundations

variable {L : VrsLib}

/-! ## The order of the reads -/

/-- What the thread has read, until it has handed it over. -/
def AsyncThread.done : AsyncThread L → List (AsyncReadJob × Except PyError (PyRecord L))
  | .read job record => [(job, .ok record)]
  | _ => []

/-- The job that the thread has yet to read. -/
def AsyncThread.toRead : AsyncThread L → List AsyncReadJob
  | .taken job => [job]
  | _ => []

namespace AsyncReading

variable {base : VRSReaderBase L}

/-- The reader on its own, asked for one record after the other. -/
def alone (base : VRSReaderBase L) :
    Machine base.Reader AsyncReadJob (Except PyError (PyRecord L)) :=
  fun reader job => base.readRecord reader (.ofNat job.index)

/-- The jobs that were read, with what was read. -/
def done (s : AsyncReading base) : List (AsyncReadJob × Except PyError (PyRecord L)) :=
  s.completed ++ s.callbacks.map (fun c => (c.1, .ok c.2)) ++ s.thread.done

/-- What was read is what the reader alone returns, asked for the jobs that were read, and the jobs
awaited are those, the one in the thread's hands and those in the queue. -/
structure InSequence (s : AsyncReading base) (reader : base.Reader) : Prop where
  awaited_eq : s.awaited = s.done.map Prod.fst ++ s.thread.toRead ++ s.workerQueue
  done_eq : s.done = (alone base).trace reader (s.done.map Prod.fst)
  ok : ∀ c ∈ s.done, ∃ record, c.2 = .ok record
  reader_eq : s.terminated = none → s.reader = (alone base).exec reader (s.done.map Prod.fst)
  terminated : ∀ job e, s.terminated = some (job, e) → s.thread = .taken job ∧
    (alone base ((alone base).exec reader (s.done.map Prod.fst)) job).1 = .error e

theorem inSequence_new (reader : base.Reader) :
    (new reader : AsyncReading base).InSequence reader where
  awaited_eq := rfl
  done_eq := rfl
  ok _ h := absurd h List.not_mem_nil
  reader_eq _ := rfl
  terminated _ _ h := nomatch h

section Step

variable (s : AsyncReading base)

theorem runCallback_frame :
    s.runCallback.awaited = s.awaited ∧ s.runCallback.reader = s.reader := by
  unfold runCallback
  split <;> exact ⟨rfl, rfl⟩

theorem reader_waitForJob : s.waitForJob.reader = s.reader := by
  unfold waitForJob
  split <;> rfl

theorem reader_callSoonThreadsafe : s.callSoonThreadsafe.reader = s.reader := by
  unfold callSoonThreadsafe
  split <;> rfl

theorem done_runCallback : s.runCallback.done = s.done := by
  unfold runCallback
  split
  · rfl
  · rename_i job record callbacks hcallbacks
    simp [done, hcallbacks]

theorem done_waitForJob : s.waitForJob.done = s.done := by
  unfold waitForJob
  split
  · rename_i job workerQueue hthread hqueue
    simp [done, hthread, AsyncThread.done]
  · rfl

theorem done_callSoonThreadsafe : s.callSoonThreadsafe.done = s.done := by
  unfold callSoonThreadsafe
  split
  · rename_i job record hthread
    simp [done, hthread, AsyncThread.done]
  · rfl

/-- A read adds what it has read, if it has. -/
theorem readRecord_cases : s.readRecord = s ∨ ∃ job, s.thread = .taken job ∧
    ((∃ record reader, base.readRecord s.reader (.ofNat job.index) = (.ok record, reader) ∧
      s.readRecord = { s with reader, thread := .read job record } ∧
      s.readRecord.done = s.done ++ [(job, .ok record)]) ∨
    ∃ e reader, base.readRecord s.reader (.ofNat job.index) = (.error e, reader) ∧
      s.readRecord = { s with reader, terminated := some (job, e) } ∧
      s.readRecord.done = s.done) := by
  unfold readRecord
  split
  · rename_i job hthread
    refine .inr ⟨job, hthread, ?_⟩
    split
    · rename_i record reader hread
      refine .inl ⟨record, reader, hread, rfl, ?_⟩
      simp [done, hthread, AsyncThread.done]
    · rename_i e reader hread
      exact .inr ⟨e, reader, hread, rfl, rfl⟩
  · exact .inl rfl

end Step

variable {s : AsyncReading base} {reader : base.Reader}

/-- A step that reads nothing keeps the order, if it keeps the jobs that are left. -/
theorem InSequence.congr (h : s.InSequence reader) {s' : AsyncReading base}
    (hdone : s'.done = s.done)
    (hawaited : s'.awaited = s'.done.map Prod.fst ++ s'.thread.toRead ++ s'.workerQueue)
    (hreader : s'.reader = s.reader) (hterminated : s.terminated = none)
    (hterminated' : s'.terminated = none) : s'.InSequence reader where
  awaited_eq := hawaited
  done_eq := by
    rw [hdone]
    exact h.done_eq
  ok := hdone ▸ h.ok
  reader_eq _ := by
    rw [hreader, hdone]
    exact h.reader_eq hterminated
  terminated job e he := by
    rw [hterminated'] at he
    cases he

theorem InSequence.readRecord (h : s.InSequence reader) (hterminated : s.terminated = none) :
    s.readRecord.InSequence reader := by
  have hreader := h.reader_eq hterminated
  rcases s.readRecord_cases with hsame | ⟨job, hthread, ⟨record, reader', hread, heq, hdone⟩ |
    ⟨e, reader', hread, heq, hdone⟩⟩
  · rw [hsame]
    exact h
  · rw [hreader] at hread
    have hjobs : s.readRecord.done.map Prod.fst = s.done.map Prod.fst ++ [job] := by
      rw [hdone, List.map_append]
      rfl
    refine ⟨?_, ?_, ?_, fun _ => ?_, fun job' e he => ?_⟩
    · rw [hjobs, heq]
      show s.awaited = _ ++ [] ++ s.workerQueue
      rw [h.awaited_eq, hthread, List.append_nil]
      rfl
    · rw [hjobs, Machine.trace_append, ← h.done_eq, hdone]
      exact congrArg (fun reply => s.done ++ [(job, reply)]) (congrArg Prod.fst hread).symm
    · rw [hdone, List.forall_mem_append, List.forall_mem_singleton]
      exact ⟨h.ok, record, rfl⟩
    · rw [hjobs, Machine.exec_append, heq]
      exact (congrArg Prod.snd hread).symm
    · rw [heq, hterminated] at he
      cases he
  · rw [hreader] at hread
    refine ⟨?_, ?_, ?_, fun hnone => ?_, fun job' e' he => ?_⟩
    · rw [hdone, heq]
      exact h.awaited_eq
    · rw [hdone]
      exact h.done_eq
    · rw [hdone]
      exact h.ok
    · rw [heq] at hnone
      cases hnone
    · rw [heq] at he
      cases he
      rw [hdone, heq]
      exact ⟨hthread, congrArg Prod.fst hread⟩

theorem InSequence.await (h : s.InSequence reader) (hterminated : s.terminated = none)
    (index : ℕ) : (s.await index).InSequence reader := by
  refine h.congr rfl ?_ rfl hterminated hterminated
  show s.awaited ++ [_] = _ ++ (s.workerQueue ++ [_])
  rw [← List.append_assoc]
  exact congrArg (· ++ _) h.awaited_eq

theorem InSequence.runCallback (h : s.InSequence reader) (hterminated : s.terminated = none) :
    s.runCallback.InSequence reader := by
  refine h.congr s.done_runCallback ?_ s.runCallback_frame.2 hterminated
    (s.runCallback_terminated.trans hterminated)
  rw [done_runCallback]
  unfold AsyncReading.runCallback
  split <;> exact h.awaited_eq

theorem InSequence.waitForJob (h : s.InSequence reader) (hterminated : s.terminated = none) :
    s.waitForJob.InSequence reader := by
  refine h.congr s.done_waitForJob ?_ s.reader_waitForJob hterminated
    (s.waitForJob_frame.2.2.trans hterminated)
  rw [done_waitForJob, s.waitForJob_frame.1, h.awaited_eq]
  unfold AsyncReading.waitForJob
  split
  · rename_i job workerQueue hthread hqueue
    simp [hthread, hqueue, AsyncThread.toRead]
  · rfl

theorem InSequence.callSoonThreadsafe (h : s.InSequence reader)
    (hterminated : s.terminated = none) : s.callSoonThreadsafe.InSequence reader := by
  refine h.congr s.done_callSoonThreadsafe ?_ s.reader_callSoonThreadsafe hterminated
    (s.callSoonThreadsafe_frame.2.2.trans hterminated)
  rw [done_callSoonThreadsafe, s.callSoonThreadsafe_frame.1, h.awaited_eq]
  unfold AsyncReading.callSoonThreadsafe
  split
  · rename_i job record hthread
    simp [hthread, AsyncThread.toRead]
  · rfl

/-- **Every step keeps the order of the reads.** -/
theorem InSequence.step (h : s.InSequence reader) (event : AsyncStep) :
    (AsyncReading.step s event).2.InSequence reader := by
  unfold AsyncReading.step
  cases hterminated : s.terminated with
  | some e => exact h
  | none =>
    cases event with
    | await index => exact h.await hterminated index
    | runCallback => exact h.runCallback hterminated
    | waitForJob => exact h.waitForJob hterminated
    | readRecord => exact h.readRecord hterminated
    | callSoonThreadsafe => exact h.callSoonThreadsafe hterminated

/-- The results that futures were given are, in the order in which records were awaited, what the
reader alone returns. -/
structure ReadInSequence (s : AsyncReading base) (reader : base.Reader) : Prop where
  completed : s.completed <+: (alone base).trace reader s.awaited
  /-- Nothing is left to do once every future has its result. -/
  all : s.terminated = none → s.pending = 0 →
    s.completed = (alone base).trace reader s.awaited
  /-- The process has ended at the first read that raises. -/
  terminated : ∀ job e, s.terminated = some (job, e) → ∃ before after,
    s.awaited = before ++ job :: after ∧
      (∀ c ∈ (alone base).trace reader before, ∃ record, c.2 = .ok record) ∧
      (alone base ((alone base).exec reader before) job).1 = .error e

theorem InSequence.readInSequence (h : s.InSequence reader) : s.ReadInSequence reader := by
  have htrace : s.done <+: (alone base).trace reader s.awaited := by
    rw [h.awaited_eq, List.append_assoc, Machine.trace_append, ← h.done_eq]
    exact List.prefix_append _ _
  refine ⟨?_, fun hterminated hpending => ?_, fun job e he => ?_⟩
  · refine List.IsPrefix.trans ?_ htrace
    unfold done
    rw [List.append_assoc]
    exact List.prefix_append _ _
  · unfold pending at hpending
    have hqueue : s.workerQueue = [] := List.length_eq_zero_iff.1 (by omega)
    have hcallbacks : s.callbacks = [] := List.length_eq_zero_iff.1 (by omega)
    have hthread : s.thread.done = [] ∧ s.thread.toRead = [] := by
      cases hthread : s.thread with
      | waiting => exact ⟨rfl, rfl⟩
      | taken job => simp [hthread, AsyncThread.pending] at hpending
      | read job record => simp [hthread, AsyncThread.pending] at hpending
    have hcompleted : s.done = s.completed := by
      simp [done, hcallbacks, hthread.1]
    have hawaited := h.awaited_eq
    rw [hthread.2, hqueue, List.append_nil, List.append_nil] at hawaited
    rw [hawaited, ← h.done_eq, hcompleted]
  · obtain ⟨hthread, herror⟩ := h.terminated job e he
    refine ⟨s.done.map Prod.fst, s.workerQueue, ?_, ?_, herror⟩
    · rw [h.awaited_eq, hthread, List.append_assoc]
      rfl
    · rw [← h.done_eq]
      exact h.ok

/-- **Asynchronous reads are reads in the order of the awaits**, whatever the interleaving of awaits
with the steps of the thread and of the event loop. -/
theorem read_in_sequence (reader : base.Reader) (events : List AsyncStep) :
    (step.exec (new reader) events).ReadInSequence reader :=
  (Machine.exec_of_invariant (I := fun s : AsyncReading base => s.InSequence reader)
    (fun _ event h => h.step event) (inSequence_new reader) events).readInSequence

end AsyncReading

/-! ## A reader that is called in between -/

namespace OssVRSReader

variable {F : RecordFileReader L} {D : Native L} {reader : OssVRSReader L}

/-- A reader with its cursor elsewhere is in tune. -/
theorem InTune.cursorAt (h : reader.InTune F D) (k : ℕ) : (reader.cursorAt k).InTune F D :=
  ⟨⟨h.auto, h.filled.congr F rfl, h.cached⟩, h.noBlocks, h.coherent, h.captured⟩

/-- A reader in tune reads every record of the file, as one does that has just opened it. -/
theorem InTune.readRecord (hD : DecodesByConfiguration F D) (h : reader.InTune F D) {k : ℕ}
    (hk : k < F.index.length) (hkeeps : reader.KeepsCache F (.readRecord (.ofNat k))) :
    ∃ record reader', reader.readRecord F D (.ofNat k) = (.ok record, reader') ∧
      reader'.InTune F D ∧ ∀ info, F.index[k]? = some info → reader.ShowsNoHistory F info k →
        (OssVRSReader.call F D (reader.reopened F) (.readRecord (.ofNat k))).1 =
          .ok (.record record) := by
  have hcast : castUInt32 (.ofNat k) = k := castUInt32_ofNat (hk.trans F.length_index_lt)
  have hnot : ¬F.index.length ≤ castUInt32 (.ofNat k) := by
    rw [hcast]
    exact not_le.2 hk
  have htarget : reader.target F (.readRecord (.ofNat k)) = some k := by
    rw [reader.target_of_sought F rfl]
    show (if _ then none else some (castUInt32 (.ofNat k))) = _
    rw [if_neg hnot, hcast]
  obtain ⟨reader₁, -, -, -, hread⟩ := (h.cursorAt k).readNextRecordInternal_eq hD (k := k) rfl
    (List.getElem?_eq_getElem hk)
  have heq : reader.readRecord F D (.ofNat k) =
      (reader.cursorAt k).readNextRecordInternal F D := by
    unfold OssVRSReader.readRecord
    rw [if_neg hnot, hcast]
    rfl
  obtain ⟨hreads, htune⟩ := h.call hD hkeeps
  rw [hread] at heq
  have hcall : OssVRSReader.call F D reader (.readRecord (.ofNat k)) =
      answer .record (reader.readRecord F D (.ofNat k)) := rfl
  rw [heq] at hcall
  rw [hcall] at htune
  refine ⟨_, _, heq, htune, fun info hinfo hshows => hreads _ k info ?_ htarget hinfo hshows⟩
  rw [hcall]
  rfl

/-- Asking for an awaitable record at most moves the cursor, and what it hands out is a record of
the file. -/
theorem asyncReadRecordOfStreamAndType_cases (streamId recordType : String) (index : Int32) :
    let asked := reader.asyncReadRecordOfStreamAndType F streamId recordType index
    (asked.2 = reader ∨ ∃ k, asked.2 = reader.cursorAt k) ∧
      ∀ k, asked.1 = .ok k → k < F.index.length := by
  intro asked
  have hasked : asked = reader.asyncReadRecordOfStreamAndType F streamId recordType index := rfl
  unfold asyncReadRecordOfStreamAndType at hasked
  split at hasked
  · rw [hasked]
    exact ⟨.inl rfl, nofun⟩
  · split at hasked
    · rw [hasked]
      exact ⟨.inl rfl, nofun⟩
    · simp only at hasked
      split at hasked
      · rw [hasked]
        exact ⟨.inl rfl, nofun⟩
      · split at hasked
        · rw [hasked]
          exact ⟨.inr ⟨_, rfl⟩, nofun⟩
        · rename_i record hrecord
          rw [hasked]
          refine ⟨.inl rfl, fun k hk => ?_⟩
          cases hk
          exact record.isLt

theorem lt_of_asyncReadRecord {index : Int32} {k : ℕ} (h : asyncReadRecord F index = .ok k) :
    k < F.index.length := by
  unfold asyncReadRecord at h
  split at h
  · cases h
  · rename_i hnot
    cases h
    exact not_le.1 fun hle => hnot (.inr hle)

end OssVRSReader

/-- What is done with an asynchronous reader. -/
inductive AsyncUse
  | asyncReadRecord (index : Int32)
  | asyncReadRecordOfStreamAndType (streamId recordType : String) (index : Int32)
  /-- The `k`-th awaitable record is awaited. -/
  | await (k : ℕ)
  /-- A call of the reader. The bindings have those that read no record. -/
  | call (c : Call)
  | runCallback
  | waitForJob
  | readRecord
  | callSoonThreadsafe

/-- `OssAsyncVRSReader`, with a file open: its reads, and the records that the awaitable records
handed out are of. -/
structure OssAsyncVRSReader {L : VrsLib} (F : RecordFileReader L) (D : Native L) where
  reading : AsyncReading (OssVRSReader.base F D)
  awaitables : List ℕ

/-- What a use returns or raises. -/
inductive AsyncUseReply (L : VrsLib)
  | awaitable (result : Except PyError ℕ)
  | answer (reply : Reply L)
  | none

namespace OssAsyncVRSReader

variable {F : RecordFileReader L} {D : Native L}

/-- The reader that it extends. -/
def reader (s : OssAsyncVRSReader F D) : OssVRSReader L := s.reading.reader

/-- The reader that it extends has been called. -/
def withReader (s : OssAsyncVRSReader F D) (reader : OssVRSReader L) : OssAsyncVRSReader F D :=
  { s with reading := { s.reading with reader } }

/-- An awaitable record is handed out, unless there is none. -/
def handOut (s : OssAsyncVRSReader F D) (result : Except PyError ℕ) : OssAsyncVRSReader F D :=
  { s with awaitables := s.awaitables ++ result.toOption.toList }

/-- One use; a process that was terminated makes none. -/
def use : Machine (OssAsyncVRSReader F D) AsyncUse (AsyncUseReply L) := fun s u =>
  match s.reading.terminated, u with
  | some _, _ => (.none, s)
  | none, .asyncReadRecord index =>
    let result := OssVRSReader.asyncReadRecord F index
    (.awaitable result, s.handOut result)
  | none, .asyncReadRecordOfStreamAndType streamId recordType index =>
    let (result, reader) :=
      s.reader.asyncReadRecordOfStreamAndType F streamId recordType index
    (.awaitable result, (s.withReader reader).handOut result)
  | none, .await k =>
    match s.awaitables[k]? with
    | some index => (.none, { s with reading := s.reading.await index })
    | none => (.none, s)
  | none, .call c =>
    let (reply, reader) := OssVRSReader.call F D s.reader c
    (.answer reply, s.withReader reader)
  | none, .runCallback => (.none, { s with reading := s.reading.runCallback })
  | none, .waitForJob => (.none, { s with reading := s.reading.waitForJob })
  | none, .readRecord => (.none, { s with reading := s.reading.readRecord })
  | none, .callSoonThreadsafe => (.none, { s with reading := s.reading.callSoonThreadsafe })

variable (F D) in
/-- A reader that has opened the file. -/
def opened : OssAsyncVRSReader F D := ⟨.new ((OssVRSReader.new true).open F), []⟩

/-- The use keeps the configurations noted. -/
def KeepsCache (s : OssAsyncVRSReader F D) : AsyncUse → Prop
  | .call c => s.reader.KeepsCache F c
  | .readRecord => ∀ job, s.reading.thread = .taken job →
    s.reader.KeepsCache F (.readRecord (.ofNat job.index))
  | _ => True

/-- After some of the uses the thread read the record for the job, and it is the one that a reader
which has just opened the file, with the settings of that moment, returns for its index, if it shows
no history. -/
def ReadAsReopened (F : RecordFileReader L) (D : Native L) (uses : List AsyncUse)
    (job : AsyncReadJob) (record : PyRecord L) : Prop :=
  ∃ before after, uses = before ++ .readRecord :: after ∧
    let s := use.exec (opened F D) before
    s.reading.thread = .taken job ∧ ∀ info, F.index[job.index]? = some info →
      s.reader.ShowsNoHistory F info job.index →
        (OssVRSReader.call F D (s.reader.reopened F) (.readRecord (.ofNat job.index))).1 =
          .ok (.record record)

theorem ReadAsReopened.append {uses : List AsyncUse} {job : AsyncReadJob} {record : PyRecord L}
    (h : ReadAsReopened F D uses job record) (u : AsyncUse) :
    ReadAsReopened F D (uses ++ [u]) job record := by
  obtain ⟨before, after, rfl, hread⟩ := h
  exact ⟨before, after ++ [u], by rw [List.append_assoc, List.cons_append], hread⟩

/-- What a run keeps: the reader is in tune, the records awaited are in the file, the jobs are
accounted for, and what was read for them was read as by a reader that has just opened the file. -/
structure Kept (s : OssAsyncVRSReader F D) (uses : List AsyncUse) : Prop where
  inTune : s.reader.InTune F D
  accounted : s.reading.Accounted
  awaitables : ∀ index ∈ s.awaitables, index < F.index.length
  awaited : ∀ job ∈ s.reading.awaited, job.index < F.index.length
  read : ∀ c ∈ s.reading.done, ∃ record, c.2 = .ok record ∧ ReadAsReopened F D uses c.1 record

theorem kept_opened : Kept (opened F D) [] where
  inTune := OssVRSReader.inTune_open F D
  accounted := AsyncReading.accounted_new _
  awaitables _ h := absurd h List.not_mem_nil
  awaited _ h := absurd h List.not_mem_nil
  read _ h := absurd h List.not_mem_nil

variable {s : OssAsyncVRSReader F D} {uses : List AsyncUse}

/-- A use that reads nothing. -/
theorem Kept.congr (h : Kept s uses) {s' : OssAsyncVRSReader F D} (u : AsyncUse)
    (htune : s'.reader.InTune F D) (haccounted : s'.reading.Accounted)
    (hawaitables : ∀ index ∈ s'.awaitables, index < F.index.length)
    (hawaited : ∀ job ∈ s'.reading.awaited, job.index < F.index.length)
    (hdone : s'.reading.done = s.reading.done) : Kept s' (uses ++ [u]) where
  inTune := htune
  accounted := haccounted
  awaitables := hawaitables
  awaited := hawaited
  read c hc := by
    rw [hdone] at hc
    obtain ⟨record, hok, hread⟩ := h.read c hc
    exact ⟨record, hok, hread.append u⟩

/-- A step of the thread or of the event loop that reads nothing. -/
theorem Kept.moved (h : Kept s uses) (u : AsyncUse) {reading : AsyncReading (OssVRSReader.base F D)}
    (haccounted : reading.Accounted) (hreader : reading.reader = s.reading.reader)
    (hawaited : reading.awaited = s.reading.awaited) (hdone : reading.done = s.reading.done) :
    Kept { s with reading } (uses ++ [u]) :=
  h.congr u (by rw [reader, hreader]; exact h.inTune) haccounted h.awaitables
    (hawaited ▸ h.awaited) hdone

/-- An awaitable record is one of the file. -/
theorem Kept.handOut (h : Kept s uses) (u : AsyncUse) {reader : OssVRSReader L}
    (htune : reader.InTune F D) {result : Except PyError ℕ}
    (hresult : ∀ k, result = .ok k → k < F.index.length) :
    Kept ((s.withReader reader).handOut result) (uses ++ [u]) := by
  refine h.congr u htune ⟨h.accounted.terminated_eq, h.accounted.awaited_eq, h.accounted.future_eq,
    h.accounted.completed, h.accounted.callbacks, h.accounted.thread⟩ ?_ h.awaited rfl
  intro index hindex
  rcases List.mem_append.1 hindex with hindex | hindex
  · exact h.awaitables index hindex
  · cases result with
    | error e => cases hindex
    | ok k =>
      cases List.mem_singleton.1 hindex
      exact hresult _ rfl

theorem Kept.await (h : Kept s uses) (u : AsyncUse) {index : ℕ} (hindex : index < F.index.length) :
    Kept { s with reading := s.reading.await index } (uses ++ [u]) := by
  refine h.congr u h.inTune (h.accounted.await index) h.awaitables ?_ rfl
  intro job hjob
  rcases List.mem_append.1 hjob with hjob | hjob
  · exact h.awaited job hjob
  · cases List.mem_singleton.1 hjob
    exact hindex

/-- **The thread reads a record** as a reader does that has just opened the file. -/
theorem Kept.readRecord (hD : DecodesByConfiguration F D) (h : Kept s uses)
    (hexec : s = use.exec (opened F D) uses) (hkeeps : s.KeepsCache .readRecord) :
    Kept { s with reading := s.reading.readRecord } (uses ++ [.readRecord]) := by
  rcases s.reading.readRecord_cases with hsame | ⟨job, hthread, hcase⟩
  · rw [hsame]
    exact h.congr .readRecord h.inTune h.accounted h.awaitables h.awaited rfl
  · have hmem : job ∈ s.reading.awaited := by
      rw [h.accounted.awaited_eq, hthread]
      simp [AsyncThread.jobs]
    obtain ⟨record, reader', hread, htune, hreopened⟩ :=
      h.inTune.readRecord hD (h.awaited job hmem) (hkeeps job hthread)
    have hnot : ¬s.reading.Raises .readRecord := by
      rintro ⟨-, -, job', e, reader'', hthread', hraises⟩
      cases hthread.symm.trans hthread'
      cases hread.symm.trans hraises
    have haccounted := h.accounted.readRecord hnot
    rcases hcase with ⟨record', reader'', hread', heq, hdone⟩ | ⟨e, reader'', hread', -, -⟩
    · cases hread.symm.trans hread'
      rw [heq] at haccounted hdone ⊢
      refine ⟨htune, haccounted, h.awaitables, h.awaited, fun c hc => ?_⟩
      rw [hdone, List.mem_append, List.mem_singleton] at hc
      rcases hc with hc | rfl
      · obtain ⟨record', hok, hread'⟩ := h.read c hc
        exact ⟨record', hok, hread'.append _⟩
      · refine ⟨record, rfl, uses, [], rfl, ?_⟩
        rw [← hexec]
        exact ⟨hthread, hreopened⟩
    · cases hread.symm.trans hread'

/-- **Every use keeps this**, if it keeps the configurations noted. -/
theorem Kept.use (hD : DecodesByConfiguration F D) (h : Kept s uses)
    (hexec : s = use.exec (opened F D) uses) {u : AsyncUse} (hkeeps : s.KeepsCache u) :
    Kept (use s u).2 (uses ++ [u]) := by
  unfold OssAsyncVRSReader.use
  rw [h.accounted.terminated_eq]
  cases u with
  | asyncReadRecord index =>
    exact h.handOut _ h.inTune fun k hk => OssVRSReader.lt_of_asyncReadRecord hk
  | asyncReadRecordOfStreamAndType streamId recordType index =>
    obtain ⟨hreader, hresult⟩ := s.reader.asyncReadRecordOfStreamAndType_cases (F := F)
      streamId recordType index
    refine h.handOut _ ?_ hresult
    rcases hreader with hsame | ⟨k, hmoved⟩
    · rw [hsame]
      exact h.inTune
    · rw [hmoved]
      exact h.inTune.cursorAt k
  | await k =>
    cases hk : s.awaitables[k]? with
    | none =>
      simp only [hk]
      exact h.congr _ h.inTune h.accounted h.awaitables h.awaited rfl
    | some index =>
      simp only [hk]
      exact h.await _ (h.awaitables index (List.mem_of_getElem? hk))
  | call c =>
    exact h.congr _ (h.inTune.call hD hkeeps).2 ⟨h.accounted.terminated_eq, h.accounted.awaited_eq,
      h.accounted.future_eq, h.accounted.completed, h.accounted.callbacks, h.accounted.thread⟩
      h.awaitables h.awaited rfl
  | runCallback =>
    exact h.moved _ h.accounted.runCallback s.reading.runCallback_frame.2
      s.reading.runCallback_frame.1 s.reading.done_runCallback
  | waitForJob =>
    exact h.moved _ h.accounted.waitForJob s.reading.reader_waitForJob
      s.reading.waitForJob_frame.1 s.reading.done_waitForJob
  | readRecord => exact h.readRecord hD hexec hkeeps
  | callSoonThreadsafe =>
    exact h.moved _ h.accounted.callSoonThreadsafe s.reading.reader_callSoonThreadsafe
      s.reading.callSoonThreadsafe_frame.1 s.reading.done_callSoonThreadsafe

/-- **Asynchronous reads are those of a reader that has just opened the file**, with the settings in
force when the record is read: in every interleaving of awaits and calls that keep the
configurations noted with the steps of the thread and of the event loop, every record awaited is
read, and each that shows no history is the one such a reader returns. -/
theorem read_as_reopened (hD : DecodesByConfiguration F D) (uses : List AsyncUse)
    (hrun : use.Along (fun s u => s.KeepsCache u) (opened F D) uses) :
    (use.exec (opened F D) uses).reading.Complete ∧
      ∀ c ∈ (use.exec (opened F D) uses).reading.completed, ∃ record, c.2 = .ok record ∧
        ReadAsReopened F D uses c.1 record := by
  have hstart : opened F D = use.exec (opened F D) [] ∧ Kept (opened F D) [] := ⟨rfl, kept_opened⟩
  have h := (Machine.exec_of_along_history (m := use)
    (I := fun s before => s = use.exec (opened F D) before ∧ Kept s before)
    (fun s before u hkeeps ⟨hexec, h⟩ =>
      ⟨by rw [Machine.exec_append, ← hexec]; rfl, h.use hD hexec hkeeps⟩) hstart hrun).2
  refine ⟨h.accounted.complete, fun c hc => h.read c ?_⟩
  exact List.mem_append_left _ (List.mem_append_left _ hc)

/-- Two data records of `numberedFile` are awaited, the first one again while the second one is
read, and images are set to be normalized after the first await. -/
theorem read_as_reopened_numberedFile :
    let uses := [.call .enableAllStreams, .asyncReadRecord 3, .asyncReadRecord 1, .await 0,
      .call (.setImageConversion .normalize), .waitForJob, .await 1, .readRecord,
      .callSoonThreadsafe, .waitForJob, .await 0, .readRecord, .runCallback, .callSoonThreadsafe,
      .runCallback]
    (use.exec (opened numberedFile numberedNative) uses).reading.Complete ∧
      ∀ c ∈ (use.exec (opened numberedFile numberedNative) uses).reading.completed,
        ∃ record, c.2 = .ok record ∧
          ReadAsReopened numberedFile numberedNative uses c.1 record := by
  refine read_as_reopened decodesByConfiguration_numberedFile _
    ⟨⟨nofun, fun s hs _ _ => if_pos hs⟩, trivial, trivial, trivial,
      ⟨nofun, fun _ _ h => absurd h List.not_mem_nil⟩, trivial, trivial, ?_, trivial, trivial,
      trivial, ?_, trivial, trivial, trivial, trivial⟩
  all_goals
    rintro job hjob
    cases hjob
    refine ⟨?_, fun _ _ h => absurd h List.not_mem_nil⟩
    rintro k info htarget hinfo htype -
    cases htarget
    cases hinfo
    cases htype

end OssAsyncVRSReader

end Pyvrs
