import Pyvrs.Python.RecordPages
import Pyvrs.Reader.AsyncReads

/-!
# Loops over an asynchronous reader

An `async for` loop over an `AsyncVRSReader`, an `AsyncFilteredVRSReader` or an
`AsyncVRSReaderSlice` gets its records from `__anext__` of that object, whose `_index` is the
position of every loop over it: `__aiter__` sets it to 0, and `__anext__` moves it on once the
record awaited is there. Where a loop asks for its next record at its own position, that of the
records it received (`InTurn`), each loop is as it would be alone (`independent_of_inTurn`). That
is so for a loop alone and for loops one after the other (`along_inTurn_of_latest`), but not for two
loops at a time (`not_independent_twoLoops`). The iteration of a synchronous reader,
`BaseVRSReader.__iter__`, counts on its own.
-/

namespace Pyvrs

open Foundations

variable {L : VrsLib}

/-- `AsyncReader` and `AsyncMultiReader`: a reader whose records are awaited. An awaitable record is
that of the index asked for. -/
structure AsyncReaderBase (L : VrsLib) extends VRSReaderBase L where
  asyncReadRecord : Int32 → Except PyError ℕ
  asyncReadRecord_eq_ok : ∀ index i, asyncReadRecord index = .ok i → Int32.ofNat i = index

theorem ofNat_castUInt32 (index : Int32) : Int32.ofNat (castUInt32 index) = index := by
  apply Int32.toInt_inj.1
  rw [castUInt32, Int32.toInt_ofNat']
  exact (BitVec.toInt_eq_toNat_bmod index.toBitVec).symm

/-- The asynchronous single-file reader with a file open. -/
def OssVRSReader.asyncBase (F : RecordFileReader L) (D : Native L) : AsyncReaderBase L where
  toVRSReaderBase := base F D
  asyncReadRecord := asyncReadRecord F
  asyncReadRecord_eq_ok index i h := by
    unfold asyncReadRecord at h
    split at h
    · cases h
    · cases h
      exact ofNat_castUInt32 index

/-- The asynchronous multi-file reader with files open. -/
def OssMultiVRSReader.asyncBase (F : MultiRecordFileReader L) (D : Native L) :
    AsyncReaderBase L where
  toVRSReaderBase := base F D
  asyncReadRecord := asyncReadRecord F
  asyncReadRecord_eq_ok index i h := by
    unfold asyncReadRecord at h
    split at h
    · cases h
    · cases h
      exact ofNat_castUInt32 index

/-- `async_read_record`, of a Python integer. -/
def AsyncReaderBase.asyncReadRecordOfInt (base : AsyncReaderBase L) (index : ℤ) :
    Except PyError ℕ :=
  if Int32.minValue.toInt ≤ index ∧ index ≤ Int32.maxValue.toInt then
    base.asyncReadRecord (.ofInt index)
  else .error (.typeError "async_read_record(): incompatible function arguments.")

theorem AsyncReaderBase.asyncReadRecordOfInt_eq_ok {base : AsyncReaderBase L} {index : ℤ} {i : ℕ}
    (h : base.asyncReadRecordOfInt index = .ok i) : Int32.ofNat i = Int32.ofInt index := by
  unfold asyncReadRecordOfInt at h
  split at h
  · exact base.asyncReadRecord_eq_ok _ _ h
  · cases h

/-! ## The sequences that are iterated -/

/-- The Python type of a sequence of indices. -/
inductive SequenceType
  | range
  | list
  deriving DecidableEq, Repr

/-- The exception of a position past the end. -/
def SequenceType.outOfRange : SequenceType → PyError
  | range => .indexError "range object index out of range"
  | list => .indexError "list index out of range"

/-- The indices in the file of the records of an `AsyncVRSReader`, an `AsyncFilteredVRSReader` or an
`AsyncVRSReaderSlice`, by position. -/
structure AsyncSequence where
  type : SequenceType
  indices : List ℤ

/-- The records of an `AsyncVRSReader`. -/
def VRSReader.asyncSequence (self : VRSReader L) : AsyncSequence :=
  ⟨.range, (List.range self.nRecords).map Nat.cast⟩

/-- The records of an `AsyncFilteredVRSReader`. -/
def FilteredVRSReader.asyncSequence (self : FilteredVRSReader L) : AsyncSequence :=
  ⟨.list, self.filteredIndices.map Int32.toInt⟩

/-- `vrs_indices[i]`, at a position that is not negative. -/
def AsyncSequence.getItem (sequence : AsyncSequence) (i : ℕ) : Except PyError ℤ :=
  match sequence.indices[i]? with
  | some index => .ok index
  | none => .error sequence.type.outOfRange

/-! ## Loops -/

/-- Where an `async for` loop is. -/
inductive LoopPhase
  /-- `__anext__` awaits a record. -/
  | waiting (job : AsyncReadJob)
  /-- The body has a record, or was left. -/
  | body
  /-- `__anext__` raised `StopAsyncIteration`. -/
  | finished
  /-- `__anext__` raised another exception. -/
  | raised (e : PyError)
  deriving DecidableEq

/-- An `async for` loop, with the records it received. -/
structure AsyncLoop (L : VrsLib) where
  received : List (PyRecord L)
  phase : LoopPhase

/-- An object whose records are iterated, with its loops in the order of their start. -/
structure AsyncLoops (base : AsyncReaderBase L) where
  reading : AsyncReading base.toVRSReaderBase
  /-- `_index`. -/
  index : ℕ
  loops : List (AsyncLoop L)

/-- The steps of the loops, and those of the reader and of everything else that awaits records. -/
inductive LoopStep
  /-- A loop starts: `__aiter__`, then `__anext__` up to its `await`. -/
  | start
  /-- The body of a loop ends: `__anext__` up to its `await`. -/
  | next (loop : ℕ)
  /-- The rest of `__anext__`, once the future awaited has a result. -/
  | resume (loop : ℕ)
  | other (event : AsyncStep)
  deriving DecidableEq, Repr

/-- The result that a job's future was given. -/
def AsyncReading.resultOf {base : VRSReaderBase L} (s : AsyncReading base) (job : AsyncReadJob) :
    Option (Except PyError (PyRecord L)) :=
  (s.completed.find? fun c => c.1 = job).map Prod.snd

namespace AsyncLoops

variable {base : AsyncReaderBase L}

/-- An object that was not iterated yet, of a reader that awaits nothing. -/
def new (reader : base.Reader) : AsyncLoops base := ⟨.new reader, 0, []⟩

/-- `__anext__` up to its `await`, with what becomes of the loop. -/
def anext (sequence : AsyncSequence) (s : AsyncLoops base) : LoopPhase × AsyncLoops base :=
  if s.index = sequence.indices.length then (.finished, s)
  else
    match sequence.getItem s.index >>= base.asyncReadRecordOfInt with
    | .error e => (.raised e, s)
    | .ok index =>
      (.waiting ⟨s.reading.awaited.length, index⟩, { s with reading := s.reading.await index })

/-- `__aiter__`, and `__anext__` up to its `await`. -/
def start (sequence : AsyncSequence) (s : AsyncLoops base) : AsyncLoops base :=
  let (phase, s) := anext sequence { s with index := 0 }
  { s with loops := s.loops ++ [⟨[], phase⟩] }

/-- `__anext__` up to its `await`, for a loop whose body ends. -/
def next (sequence : AsyncSequence) (s : AsyncLoops base) (k : ℕ) : AsyncLoops base :=
  match s.loops[k]? with
  | some ⟨received, .body⟩ =>
    let (phase, s) := anext sequence s
    { s with loops := s.loops.set k ⟨received, phase⟩ }
  | _ => s

/-- The rest of `__anext__`. -/
def resume (s : AsyncLoops base) (k : ℕ) : AsyncLoops base :=
  match s.loops[k]? with
  | some ⟨received, .waiting job⟩ =>
    match s.reading.resultOf job with
    | some (.ok record) =>
      { s with index := s.index + 1, loops := s.loops.set k ⟨received ++ [record], .body⟩ }
    | some (.error e) => { s with loops := s.loops.set k ⟨received, .raised e⟩ }
    | none => s
  | _ => s

/-- One step; a process that was terminated makes none. -/
def step (sequence : AsyncSequence) : Machine (AsyncLoops base) LoopStep Unit := fun s event =>
  ((), match s.reading.terminated, event with
    | some _, _ => s
    | none, .start => s.start sequence
    | none, .next k => s.next sequence k
    | none, .resume k => s.resume k
    | none, .other event => { s with reading := (AsyncReading.step s.reading event).2 })

end AsyncLoops

/-! ## What futures are given -/

namespace AsyncReading

variable {base : VRSReaderBase L} {s : AsyncReading base}

/-- Futures are given the records of their jobs, and no exceptions. -/
structure Delivers (s : AsyncReading base) : Prop where
  completed : ∀ c ∈ s.completed, ∃ record, c.2 = .ok record ∧ Outcome base c.1 (.ok record)
  callbacks : ∀ c ∈ s.callbacks, Outcome base c.1 (.ok c.2)
  thread : ∀ job record, s.thread = .read job record → Outcome base job (.ok record)

theorem delivers_new (reader : base.Reader) : (new reader : AsyncReading base).Delivers where
  completed _ h := absurd h List.not_mem_nil
  callbacks _ h := absurd h List.not_mem_nil
  thread _ _ h := nomatch h

theorem Delivers.await (h : s.Delivers) (index : ℕ) : (s.await index).Delivers :=
  ⟨h.completed, h.callbacks, h.thread⟩

theorem Delivers.runCallback (h : s.Delivers) : s.runCallback.Delivers := by
  unfold AsyncReading.runCallback
  split
  · exact h
  · rename_i job record callbacks hcallbacks
    have hown := h.callbacks
    rw [hcallbacks, List.forall_mem_cons] at hown
    refine ⟨?_, hown.2, h.thread⟩
    intro c hc
    rcases List.mem_append.1 hc with hc | hc
    · exact h.completed c hc
    · rw [List.mem_singleton.1 hc]
      exact ⟨record, rfl, hown.1⟩

theorem Delivers.waitForJob (h : s.Delivers) : s.waitForJob.Delivers := by
  unfold AsyncReading.waitForJob
  split
  · exact ⟨h.completed, h.callbacks, nofun⟩
  · exact h

theorem Delivers.readRecord (h : s.Delivers) : s.readRecord.Delivers := by
  unfold AsyncReading.readRecord
  split
  · split
    · rename_i record reader hread
      refine ⟨h.completed, h.callbacks, ?_⟩
      rintro job' record' ⟨⟩
      exact base.readRecord_eq_ok _ _ _ _ hread
    · exact ⟨h.completed, h.callbacks, h.thread⟩
  · exact h

theorem Delivers.callSoonThreadsafe (h : s.Delivers) : s.callSoonThreadsafe.Delivers := by
  unfold AsyncReading.callSoonThreadsafe
  split
  · rename_i job record hthread
    refine ⟨h.completed, ?_, nofun⟩
    intro c hc
    rcases List.mem_append.1 hc with hc | hc
    · exact h.callbacks c hc
    · rw [List.mem_singleton.1 hc]
      exact h.thread job record hthread
  · exact h

theorem Delivers.step (h : s.Delivers) (event : AsyncStep) :
    (AsyncReading.step s event).2.Delivers := by
  unfold AsyncReading.step
  cases s.terminated with
  | some e => exact h
  | none =>
    cases event with
    | await index => exact h.await index
    | runCallback => exact h.runCallback
    | waitForJob => exact h.waitForJob
    | readRecord => exact h.readRecord
    | callSoonThreadsafe => exact h.callSoonThreadsafe

/-- The result of a job is the record of its index. -/
theorem Delivers.resultOf (h : s.Delivers) {job : AsyncReadJob}
    {result : Except PyError (PyRecord L)} (hresult : s.resultOf job = some result) :
    ∃ record, result = .ok record ∧ Outcome base job (.ok record) := by
  unfold AsyncReading.resultOf at hresult
  obtain ⟨c, hfind, rfl⟩ := Option.map_eq_some_iff.1 hresult
  have hjob : c.1 = job := by simpa using List.find?_some hfind
  obtain ⟨record, hrecord, houtcome⟩ := h.completed c (List.mem_of_find?_eq_some hfind)
  exact ⟨record, hrecord, hjob ▸ houtcome⟩

end AsyncReading

/-! ## A loop alone -/

/-- The record is that of an index. -/
def AsyncReaderBase.RecordAt (base : AsyncReaderBase L) (index : ℤ) (record : PyRecord L) : Prop :=
  ∃ info, base.getRecordInfo (.ofInt index) = some info ∧ info.IsOf record

/-- **The loop is as it would be alone**: it received the records of the first positions, each once
and in order, and all of them if it ended; it waits for the record of the next position, and an
exception is that of a record there that cannot be asked for. -/
structure AsyncSequence.AsAlone (base : AsyncReaderBase L) (sequence : AsyncSequence)
    (loop : AsyncLoop L) : Prop where
  in_order : List.Forall₂ base.RecordAt (sequence.indices.take loop.received.length) loop.received
  finished : loop.phase = .finished → List.Forall₂ base.RecordAt sequence.indices loop.received
  waiting : ∀ job, loop.phase = .waiting job →
    ∃ index, sequence.indices[loop.received.length]? = some index ∧
      base.asyncReadRecordOfInt index = .ok job.index
  raised : ∀ e, loop.phase = .raised e →
    ∃ index, sequence.indices[loop.received.length]? = some index ∧
      base.asyncReadRecordOfInt index = .error e

namespace AsyncLoops

variable {base : AsyncReaderBase L} {sequence : AsyncSequence} {s : AsyncLoops base}

/-- The loops are independent: each is as it would be alone. -/
def Independent (sequence : AsyncSequence) (s : AsyncLoops base) : Prop :=
  ∀ loop ∈ s.loops, sequence.AsAlone base loop

/-- A loop that asks for its next record does so at its own position. -/
def InTurn (s : AsyncLoops base) : LoopStep → Prop
  | .next k => ∀ loop ∈ s.loops[k]?, loop.phase = .body → s.index = loop.received.length
  | _ => True

instance (s : AsyncLoops base) : ∀ event, Decidable (s.InTurn event)
  | .next k => inferInstanceAs (Decidable (∀ loop ∈ s.loops[k]?, _ → _))
  | .start | .resume _ | .other _ => isTrue trivial

section Anext

theorem anext_loops : (anext sequence s).2.loops = s.loops := by
  unfold anext
  split
  · rfl
  · split <;> rfl

theorem anext_index : (anext sequence s).2.index = s.index := by
  unfold anext
  split
  · rfl
  · split <;> rfl

theorem delivers_anext (h : s.reading.Delivers) : (anext sequence s).2.reading.Delivers := by
  unfold anext
  split
  · exact h
  · split
    · exact h
    · exact h.await _

/-- **A loop that asks at its own position goes on as it would alone.** -/
theorem asAlone_anext {received : List (PyRecord L)} (hindex : s.index = received.length)
    (h : List.Forall₂ base.RecordAt (sequence.indices.take received.length) received) :
    sequence.AsAlone base ⟨received, (anext sequence s).1⟩ := by
  unfold anext
  split
  · rename_i hend
    rw [← hindex, hend, List.take_length] at h
    exact ⟨by rwa [← hindex, hend, List.take_length], fun _ => h, nofun, nofun⟩
  · rename_i hend
    -- The records received are those of positions of the sequence, so that there is one more.
    have hlt : received.length < sequence.indices.length := by
      have hlength := h.length_eq
      rw [List.length_take] at hlength
      omega
    have hposition := List.getElem?_eq_getElem hlt
    have hget : (sequence.getItem s.index >>= base.asyncReadRecordOfInt) =
        base.asyncReadRecordOfInt sequence.indices[received.length] := by
      unfold AsyncSequence.getItem
      rw [hindex, hposition]
      rfl
    rw [hget]
    split
    · rename_i e herror
      refine ⟨h, nofun, nofun, ?_⟩
      rintro e' ⟨⟩
      exact ⟨_, hposition, herror⟩
    · rename_i index hok
      refine ⟨h, nofun, ?_, nofun⟩
      rintro job ⟨⟩
      exact ⟨_, hposition, hok⟩

end Anext

/-! ## Steps -/

section Step

/-- The loops are independent, and futures are given their records. -/
structure Sound (sequence : AsyncSequence) (s : AsyncLoops base) : Prop where
  independent : s.Independent sequence
  delivers : s.reading.Delivers

theorem sound_new (reader : base.Reader) : (new reader : AsyncLoops base).Sound sequence :=
  ⟨fun _ h => absurd h List.not_mem_nil, AsyncReading.delivers_new reader⟩

/-- What becomes of one loop is all that changes of them. -/
theorem Independent.set (h : s.Independent sequence) (k : ℕ) {loop : AsyncLoop L}
    (hloop : sequence.AsAlone base loop) : ∀ l ∈ s.loops.set k loop, sequence.AsAlone base l := by
  intro l hl
  rcases List.mem_or_eq_of_mem_set hl with hl | rfl
  · exact h l hl
  · exact hloop

theorem start_loops : (s.start sequence).loops =
    s.loops ++ [⟨[], (anext sequence { s with index := 0 }).1⟩] :=
  congrArg (· ++ _) anext_loops

theorem Sound.start (h : s.Sound sequence) : (s.start sequence).Sound sequence := by
  refine ⟨?_, delivers_anext (s := { s with index := 0 }) h.delivers⟩
  intro loop hloop
  rw [start_loops] at hloop
  rcases List.mem_append.1 hloop with hold | hnew
  · exact h.independent loop hold
  · rw [List.mem_singleton.1 hnew]
    exact asAlone_anext rfl List.Forall₂.nil

theorem Sound.next (h : s.Sound sequence) {k : ℕ} (hturn : s.InTurn (.next k)) :
    (s.next sequence k).Sound sequence := by
  unfold AsyncLoops.next
  split
  · rename_i received hloop
    refine ⟨?_, delivers_anext h.delivers⟩
    have hown := h.independent _ (List.mem_of_getElem? hloop)
    show ∀ l ∈ (anext sequence s).2.loops.set k _, _
    rw [anext_loops]
    exact h.independent.set k (asAlone_anext (hturn _ hloop rfl) hown.in_order)
  · exact h

theorem Sound.resume (h : s.Sound sequence) (k : ℕ) : (s.resume k).Sound sequence := by
  unfold AsyncLoops.resume
  split
  · rename_i received job hloop
    have hown := h.independent _ (List.mem_of_getElem? hloop)
    obtain ⟨index, hposition, hjob⟩ := hown.waiting job rfl
    split
    · rename_i record hresult
      obtain ⟨_, ⟨⟩, info, hinfo, hisOf⟩ := h.delivers.resultOf hresult
      refine ⟨h.independent.set k ⟨?_, nofun, nofun, nofun⟩, h.delivers⟩
      -- The record received is that of the next position.
      rw [base.asyncReadRecordOfInt_eq_ok hjob] at hinfo
      obtain ⟨hlt, rfl⟩ := List.getElem?_eq_some_iff.1 hposition
      rw [List.length_append, List.length_singleton, List.take_succ_eq_append_getElem hlt]
      exact List.rel_append hown.in_order (.cons ⟨info, hinfo, hisOf⟩ .nil)
    · rename_i e hresult
      obtain ⟨_, hok, -⟩ := h.delivers.resultOf hresult
      cases hok
    · exact h
  · exact h

/-- **Loops that ask in turn stay independent.** -/
theorem Sound.step (h : s.Sound sequence) {event : LoopStep} (hturn : s.InTurn event) :
    (AsyncLoops.step sequence s event).2.Sound sequence := by
  unfold AsyncLoops.step
  cases s.reading.terminated with
  | some e => exact h
  | none =>
    cases event with
    | start => exact h.start
    | next k => exact h.next hturn
    | resume k => exact h.resume k
    | other event => exact ⟨h.independent, h.delivers.step event⟩

end Step

/-! ## A run -/

section Run

/-- **Loops are independent in every run in which they ask in turn.** -/
theorem independent_of_inTurn (sequence : AsyncSequence) (reader : base.Reader)
    (steps : List LoopStep)
    (hturn : (step sequence).Along InTurn (new reader : AsyncLoops base) steps) :
    (step sequence).Along (fun s event => (step sequence s event).2.Independent sequence)
      (new reader) steps :=
  Machine.along_of_invariant
    (fun _ _ (h : Sound sequence _) hturn => ⟨(h.step hturn).independent, h.step hturn⟩)
    steps (sound_new reader) hturn

/-- Only the loop that was started last makes a step. -/
def Latest (s : AsyncLoops base) : LoopStep → Prop
  | .next k => k + 1 = s.loops.length
  | .resume k => k + 1 = s.loops.length
  | _ => True

/-- `_index` is the position of the loop that was started last. -/
def FollowsLatest (s : AsyncLoops base) : Prop :=
  ∀ k loop, k + 1 = s.loops.length → s.loops[k]? = some loop → s.index = loop.received.length

theorem FollowsLatest.inTurn (h : s.FollowsLatest) {event : LoopStep} (hlatest : s.Latest event) :
    s.InTurn event := by
  cases event with
  | next k => exact fun loop hloop _ => h k loop hlatest hloop
  | _ => trivial

theorem followsLatest_start : (s.start sequence).FollowsLatest := by
  intro k loop hk hloop
  have hindex : (s.start sequence).index = 0 := anext_index
  rw [start_loops] at hk hloop
  rw [List.length_append, List.length_singleton] at hk
  rw [List.getElem?_append_right (by omega), show k - s.loops.length = 0 by omega] at hloop
  cases hloop
  exact hindex

/-- What becomes of the loop that was started last is all that counts. -/
theorem followsLatest_of_set {k : ℕ} {loop : AsyncLoop L} {s' : AsyncLoops base}
    (hk : k + 1 = s.loops.length) (hloops : s'.loops = s.loops.set k loop)
    (hindex : s'.index = loop.received.length) : s'.FollowsLatest := by
  intro k' loop' hk' hloop'
  rw [hloops] at hk' hloop'
  rw [List.length_set] at hk'
  rw [show k' = k by omega, List.getElem?_set_self (by omega)] at hloop'
  cases hloop'
  exact hindex

theorem FollowsLatest.step (h : s.FollowsLatest) {event : LoopStep} (hlatest : s.Latest event) :
    (AsyncLoops.step sequence s event).2.FollowsLatest := by
  unfold AsyncLoops.step
  cases s.reading.terminated with
  | some e => exact h
  | none =>
    cases event with
    | start => exact followsLatest_start
    | next k =>
      show (s.next sequence k).FollowsLatest
      unfold AsyncLoops.next
      split
      · rename_i received hloop
        have hindex := h k _ hlatest hloop
        exact followsLatest_of_set hlatest (congrArg (List.set · k _) anext_loops)
          (anext_index.trans hindex)
      · exact h
    | resume k =>
      show (s.resume k).FollowsLatest
      unfold AsyncLoops.resume
      split
      · rename_i received job hloop
        have hindex := h k _ hlatest hloop
        split
        · rename_i record hresult
          refine followsLatest_of_set hlatest rfl ?_
          rw [List.length_append, List.length_singleton, ← hindex]
        · exact followsLatest_of_set hlatest rfl hindex
        · exact h
      · exact h
    | other event => exact h

/-- **A loop alone, and loops one after the other, ask in turn.** -/
theorem along_inTurn_of_latest (sequence : AsyncSequence) (reader : base.Reader)
    (steps : List LoopStep)
    (hlatest : (step sequence).Along Latest (new reader : AsyncLoops base) steps) :
    (step sequence).Along InTurn (new reader) steps :=
  Machine.along_of_invariant
    (fun _ _ (h : FollowsLatest _) hlatest => ⟨h.inTurn hlatest, h.step hlatest⟩)
    steps (fun _ _ _ h => nomatch h) hlatest

/-- The steps by which the record awaited first is read, and the result of its future set. -/
def readSteps : List LoopStep := AsyncReading.readSteps.map .other

/-- The records of a file of two. -/
def twoRecords : AsyncSequence := (VRSReader.init (.reader twoRecordFile)).asyncSequence

/-- The reader of that file, before anything is awaited. -/
def twoRecordReader : AsyncLoops (OssVRSReader.asyncBase twoRecordFile AsyncReading.emptyRead) :=
  new (.new false)

/-- Two loops over the two records: the second one is started in the body of the first one, which it
leaves at its first record. -/
def loopInBody : List LoopStep :=
  [.start] ++ readSteps ++ [.resume 0, .start] ++ readSteps ++ [.resume 1, .next 0] ++ readSteps ++
    [.resume 0, .next 0]

/-- A loop that is not disturbed by another one, since `_index` is back at its position. -/
theorem independent_loopInBody :
    (step twoRecords).Along
      (fun s event => (step twoRecords s event).2.Independent twoRecords) twoRecordReader
      loopInBody :=
  independent_of_inTurn twoRecords _ loopInBody (by decide +kernel)

/-- Two loops, each of which starts before the other has received its first record. -/
def twoLoops : List LoopStep :=
  [.start, .start] ++ readSteps ++ readSteps ++ [.resume 0, .resume 1, .next 0, .next 1]

/-- **Two loops over two records** both end with the first one alone. -/
theorem not_independent_twoLoops :
    ((step twoRecords).exec twoRecordReader twoLoops).loops.map
        (fun loop => (loop.received.map PyRecord.recordIndex, loop.phase)) =
      [([0], .finished), ([0], .finished)] ∧
      ¬(step twoRecords).Along
        (fun s event => (step twoRecords s event).2.Independent twoRecords) twoRecordReader
        twoLoops := by
  have hloops : ((step twoRecords).exec twoRecordReader twoLoops).loops.map
      (fun loop => (loop.received.map PyRecord.recordIndex, loop.phase)) =
        [([0], .finished), ([0], .finished)] := by decide +kernel
  refine ⟨hloops, fun halong => ?_⟩
  have hindependent : ((step twoRecords).exec twoRecordReader twoLoops).Independent twoRecords :=
    (((step twoRecords).along_append _ _ (twoLoops.take 13) [.next 1]).1 halong).2.1
  have hmem : ([0], LoopPhase.finished) ∈
      ((step twoRecords).exec twoRecordReader twoLoops).loops.map
        (fun loop => (loop.received.map PyRecord.recordIndex, loop.phase)) := by
    rw [hloops]
    exact List.mem_cons_self
  obtain ⟨loop, hloop, hsame⟩ := List.mem_map.1 hmem
  obtain ⟨hreceived, hphase⟩ := Prod.mk.inj hsame
  -- The loop ended, with one record.
  have hlength := ((hindependent loop hloop).finished hphase).length_eq
  rw [← List.length_map PyRecord.recordIndex, hreceived] at hlength
  exact absurd hlength (by decide)

end Run

end AsyncLoops

end Pyvrs
