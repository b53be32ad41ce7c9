import Pyvrs.Python.FilteredReader
import Pyvrs.Reader.Cursor
import Pyvrs.Reader.PlayedRecords

/-!
# Loops over readers and slices

A `for` loop over a `SyncVRSReader` or a `SyncFilteredVRSReader` is the generator of
`BaseVRSReader.__iter__`, and one over a `VRSReaderSlice` that of `Sequence.__iter__`, that goes on
until indexing raises an `IndexError`. The loops, the readers and their slices all read with one
native reader, and each read moves its cursor. Still each loop receives the records of its own
sequence, in order, whatever else goes on (`received_exec`), those that it receives when nothing
else does (`sameHeaders_exec`). One thing differs: where a prior configuration record cannot be
read, the native reader raises an `IndexError`, so that the loop over a slice ends as if there were
no more records, and that over a reader raises.
-/

namespace Pyvrs

open Foundations

variable {L : VrsLib}

/-! ## Reads that fail -/

/-- A native read that failed. -/
def NativeRead.Failed (read : NativeRead) : Prop := read.status ≠ 0

/-- Native reads are made, and the result is an exception only if one of them has failed. -/
structure ReadsOrFails {α : Type} (reads reads' : List NativeRead) (result : Except PyError α) :
    Prop where
  isPrefix : reads <+: reads'
  failed : ∀ e, result = .error e → e.kind ≠ .stopIteration ∧ ∃ read ∈ reads', read.Failed

namespace ReadsOrFails

variable {α β : Type} {reads reads' reads'' : List NativeRead} {result : Except PyError α}

theorem refl (reads : List NativeRead) (a : α) : ReadsOrFails reads reads (.ok a) where
  isPrefix := List.prefix_rfl
  failed _ h := by cases h

/-- One native read, with what becomes of its status. -/
theorem of_read (reads : List NativeRead) (read : NativeRead)
    (h : ∀ e, result = .error e → e.kind ≠ .stopIteration ∧ read.status ≠ 0) :
    ReadsOrFails reads (reads ++ [read]) result where
  isPrefix := List.prefix_append _ _
  failed e he :=
    ⟨(h e he).1, read, List.mem_append_right _ (List.mem_singleton_self _), (h e he).2⟩

theorem trans {a : β} (h : ReadsOrFails reads reads' (.ok a))
    (h' : ReadsOrFails reads' reads'' result) : ReadsOrFails reads reads'' result :=
  ⟨h.isPrefix.trans h'.isPrefix, h'.failed⟩

theorem of_error {e : PyError} (h : ReadsOrFails (α := β) reads reads' (.error e)) :
    ReadsOrFails (α := α) reads reads' (.error e) where
  isPrefix := h.isPrefix
  failed := by
    rintro _ ⟨⟩
    exact h.failed e rfl

end ReadsOrFails

section Reads

variable (D : Native L)

namespace OssVRSReader

variable (F : RecordFileReader L) (reader : OssVRSReader L) (record : RecordInfo)

theorem readsOrFails_autoReadConfiguration :
    ReadsOrFails reader.nativeReads (reader.autoReadConfiguration F D record).2.nativeReads
      (reader.autoReadConfiguration F D record).1 := by
  unfold autoReadConfiguration readConfigurationRecord
  split
  swap
  · exact .refl _ _
  simp only
  split
  · exact .refl _ _
  · split
    · exact .refl _ _
    · rename_i it _ _ configuration _
      by_cases hstatus : (D (reader.withConfigIndex F).nativeReads it).status = 0
      · rw [readConfigurationAt_of_eq D _ it configuration _ hstatus]
        exact .of_read _ _ fun e he => by cases he
      · rw [readConfigurationAt_of_ne D _ it configuration _ hstatus]
        refine .of_read _ _ ?_
        rintro e ⟨⟩
        exact ⟨by decide, hstatus⟩

theorem readsOrFails_readThisRecord :
    ReadsOrFails reader.nativeReads (reader.readThisRecord D record).2.nativeReads
      (reader.readThisRecord D record).1 := by
  by_cases hstatus : (D reader.nativeReads reader.nextRecordIndex).status = 0
  · rw [reader.readThisRecord_of_eq D record hstatus]
    exact .of_read _ _ fun e he => by cases he
  · rw [reader.readThisRecord_of_ne D record hstatus]
    refine .of_read _ _ ?_
    rintro e ⟨⟩
    exact ⟨by simp [PyError.kind], hstatus⟩

/-- At a record, `readNextRecordInternal` raises only if a native read failed. -/
theorem readsOrFails_readNextRecordInternal {record : RecordInfo}
    (h : F.index[reader.nextRecordIndex]? = some record) :
    ReadsOrFails reader.nativeReads (reader.readNextRecordInternal F D).2.nativeReads
      (reader.readNextRecordInternal F D).1 := by
  have hauto := reader.readsOrFails_autoReadConfiguration D F record
  unfold readNextRecordInternal
  rw [h]
  simp only
  rcases hread : reader.autoReadConfiguration F D record with ⟨result, reader₁⟩
  rw [hread] at hauto
  cases result with
  | error e => exact hauto.of_error
  | ok => exact hauto.trans (reader₁.readsOrFails_readThisRecord D record)

theorem nativeReads_prefix_call (c : Call) :
    reader.nativeReads <+: (call F D reader c).2.nativeReads := by
  cases htarget : reader.target F c with
  | none =>
    rw [(reader.unread_of_target_eq_none F D htarget).2.nativeReads_eq]
  | some k =>
    rw [reader.call_of_target F D htarget]
    cases hrecord : F.index[(reader.cursorAt k).nextRecordIndex]? with
    | none =>
      rw [(reader.cursorAt k).readNextRecordInternal_of_none F D hrecord]
      exact List.prefix_rfl
    | some record =>
      exact ((reader.cursorAt k).readsOrFails_readNextRecordInternal D F hrecord).isPrefix

end OssVRSReader

namespace OssMultiVRSReader

variable (F : MultiRecordFileReader L) (reader : OssMultiVRSReader L) (record : RecordInfo)

theorem readsOrFails_autoReadConfiguration :
    ReadsOrFails reader.nativeReads (reader.autoReadConfiguration F D record).2.nativeReads
      (reader.autoReadConfiguration F D record).1 := by
  unfold autoReadConfiguration readConfigurationRecord
  split
  swap
  · exact .refl _ _
  simp only
  split
  · exact .refl _ _
  · split
    · exact .refl _ _
    · rename_i it _ _ configuration _
      by_cases hstatus : (D (reader.withConfigIndex F).nativeReads it).status = 0
      · rw [readConfigurationAt_of_eq F D _ it configuration _ hstatus]
        exact .of_read _ _ fun e he => by cases he
      · rw [readConfigurationAt_of_ne F D _ it configuration _ hstatus]
        refine .of_read _ _ ?_
        rintro e ⟨⟩
        exact ⟨by decide, hstatus⟩

theorem readsOrFails_readThisRecord :
    ReadsOrFails reader.nativeReads (reader.readThisRecord F D record).2.nativeReads
      (reader.readThisRecord F D record).1 := by
  by_cases hstatus : (D reader.nativeReads reader.nextRecordIndex).status = 0
  · rw [readThisRecord_of_eq F D reader record hstatus]
    exact .of_read _ _ fun e he => by cases he
  · rw [readThisRecord_of_ne F D reader record hstatus]
    refine .of_read _ _ ?_
    rintro e ⟨⟩
    exact ⟨by simp [PyError.kind], hstatus⟩

/-- At a record, `readNextRecordInternal` raises only if a native read failed. -/
theorem readsOrFails_readNextRecordInternal {record : RecordInfo}
    (h : F.getRecord reader.nextRecordIndex = some record) :
    ReadsOrFails reader.nativeReads (reader.readNextRecordInternal F D).2.nativeReads
      (reader.readNextRecordInternal F D).1 := by
  have hauto := reader.readsOrFails_autoReadConfiguration D F record
  unfold readNextRecordInternal
  rw [if_neg (not_le.2 (MultiRecordFileReader.lt_of_getRecord h)), h]
  simp only
  rcases hread : reader.autoReadConfiguration F D record with ⟨result, reader₁⟩
  rw [hread] at hauto
  cases result with
  | error e => exact hauto.of_error
  | ok => exact hauto.trans (reader₁.readsOrFails_readThisRecord D F record)

theorem nativeReads_prefix_call (c : Call) :
    reader.nativeReads <+: (call F D reader c).2.nativeReads := by
  rcases reader.nativeReads_call F D c with heq | ⟨k, -, heq⟩
  · rw [heq]
  · rw [heq]
    exact List.prefix_append _ _

end OssMultiVRSReader

end Reads

namespace OpenReader

/-- The native reads made so far. -/
def nativeReads : OpenReader L → List NativeRead
  | reader _ _ native => native.nativeReads
  | multiReader _ _ native => native.nativeReads

/-- One call of the native reader. -/
def call (self : OpenReader L) (c : Call) : OpenReader L :=
  match self with
  | reader F D native => .reader F D (native.call F D c).2
  | multiReader F D native => .multiReader F D (native.call F D c).2

/-- The same file is open, and native reads were made at most. -/
structure Continues (reader reader' : OpenReader L) : Prop where
  native_eq : reader'.native = reader.native
  isPrefix : reader.nativeReads <+: reader'.nativeReads

variable (self : OpenReader L)

theorem Continues.refl : Continues self self := ⟨rfl, List.prefix_rfl⟩

theorem continues_call (c : Call) : self.Continues (self.call c) := by
  cases self with
  | reader F D native => exact ⟨rfl, native.nativeReads_prefix_call D F c⟩
  | multiReader F D native => exact ⟨rfl, native.nativeReads_prefix_call D F c⟩

theorem readRecord_snd (index : Int32) :
    (self.readRecord index).2 = self.call (.readRecord index) := by
  cases self <;> rfl

theorem continues_getItem (vrsIndices : VrsIndices) (i : ℤ) :
    self.Continues (self.getItem vrsIndices i).2 := by
  unfold getItem readRecordOfInt
  split
  · exact .refl self
  · split
    · rw [self.readRecord_snd]
      exact self.continues_call _
    · exact .refl self

/-- **At a position of the file**, `read_record` raises only if a native read failed. -/
theorem readsOrFails_readRecord {i : ℕ} {id : StreamId} {record : RecordInfo}
    (hrecord : self.native.record i = some (id, record)) (hi : i < 2 ^ 31) :
    ReadsOrFails self.nativeReads (self.readRecord (.ofNat i)).2.nativeReads
      (self.readRecord (.ofNat i)).1 := by
  have hcast := castUInt32_ofNat (show i < 2 ^ 32 by omega)
  cases self with
  | reader F D native =>
    obtain ⟨record', hrecord', -⟩ := Option.map_eq_some_iff.1 hrecord
    have hread : native.readRecord F D (.ofNat i) =
        (native.cursorAt i).readNextRecordInternal F D := by
      unfold OssVRSReader.readRecord
      rw [hcast, if_neg (not_le.2 (List.getElem?_eq_some_iff.1 hrecord').1)]
      rfl
    have h := (native.cursorAt i).readsOrFails_readNextRecordInternal D F hrecord'
    rw [← hread] at h
    exact h
  | multiReader F D native =>
    obtain ⟨record', hrecord', -⟩ := Option.map_eq_some_iff.1 hrecord
    have hint : (Int32.ofNat i).toInt = i := Int32.toInt_ofNat_of_lt hi
    have hread : native.readRecord F D (.ofNat i) =
        (native.cursorAt i).readNextRecordInternal F D := by
      unfold OssMultiVRSReader.readRecord
      rw [hcast, if_neg]
      · rfl
      · rintro (hneg | hle)
        · omega
        · exact absurd hle (not_le.2 (MultiRecordFileReader.lt_of_getRecord hrecord'))
    have h := (native.cursorAt i).readsOrFails_readNextRecordInternal D F hrecord'
    rw [← hread] at h
    exact h

end OpenReader

/-! ## Sequences and loops -/

/-- What is indexed, sliced and iterated, by the indices in the file of its records. -/
inductive RecordSequence
  /-- A `SyncVRSReader` or a `SyncFilteredVRSReader`. -/
  | reader (vrsIndices : VrsIndices)
  /-- A `VRSReaderSlice`. -/
  | slice (vrsIndices : VrsIndices)

/-- The indices in the file of the records. -/
def RecordSequence.vrsIndices : RecordSequence → VrsIndices
  | reader vrsIndices => vrsIndices
  | slice vrsIndices => vrsIndices

/-- Where a `for` loop is. -/
inductive RecordLoopPhase
  | running
  /-- The generator has ended. -/
  | finished
  /-- The generator raised an exception. -/
  | raised (e : PyError)

/-- A `for` loop over a sequence of records, with the records it received. -/
structure RecordLoop (L : VrsLib) where
  sequence : RecordSequence
  /-- The `i` of the generator. -/
  index : ℕ
  received : List (PyRecord L)
  phase : RecordLoopPhase

/-- What an exception in a generator is outside. -/
def generatorError (e : PyError) : PyError :=
  if e.kind = .stopIteration then .runtimeError "generator raised StopIteration" else e

namespace RecordLoop

/-- The generator yields a record and is asked for the next one. -/
def receive (loop : RecordLoop L) (record : PyRecord L) : RecordLoop L :=
  { loop with index := loop.index + 1, received := loop.received ++ [record] }

/-- The generator goes on to its next `yield`: `BaseVRSReader.__iter__` counts up to `n_records`,
and `Sequence.__iter__` goes on until there is an `IndexError`. -/
def next (loop : RecordLoop L) (self : OpenReader L) : RecordLoop L × OpenReader L :=
  match loop.phase, loop.sequence with
  | .running, .reader vrsIndices =>
    if loop.index < vrsIndices.length then
      match self.getItem vrsIndices loop.index with
      | (.ok record, self) => (loop.receive record, self)
      | (.error e, self) => ({ loop with phase := .raised (generatorError e) }, self)
    else ({ loop with phase := .finished }, self)
  | .running, .slice vrsIndices =>
    match self.getItem vrsIndices loop.index with
    | (.ok record, self) => (loop.receive record, self)
    | (.error e, self) =>
      if e.kind = .indexError then ({ loop with phase := .finished }, self)
      else ({ loop with phase := .raised (generatorError e) }, self)
  | _, _ => (loop, self)

end RecordLoop

/-- A native reader, and what is indexed, sliced and iterated with it. -/
structure ReadingSession (L : VrsLib) where
  reader : OpenReader L
  sequences : List RecordSequence
  loops : List (RecordLoop L)

/-- The operations on a reader and on what was made from it. -/
inductive SessionStep
  /-- `filtered_by_fields`, on the reader. -/
  | filter (fields : FilterFields)
  /-- `x[s]`, of a slice. -/
  | slice (sequence : ℕ) (s : Slice)
  /-- `x[i]`, of an integer. -/
  | getItem (sequence : ℕ) (i : ℤ)
  /-- A loop starts. -/
  | iter (sequence : ℕ)
  /-- A loop asks for its next record. -/
  | next (loop : ℕ)
  /-- Any other call of the native reader. -/
  | call (c : Call)

/-- A loop asks for its next record. -/
def SessionStep.isNext (k : ℕ) : SessionStep → Bool
  | next j => j = k
  | _ => false

namespace ReadingSession

/-- A `SyncVRSReader` just made. -/
def new (reader : OpenReader L) : ReadingSession L :=
  ⟨reader, [.reader (VRSReader.init reader.native).vrsIndices], []⟩

section Step

variable (fnmatch : String → String → Bool) (s : ReadingSession L)

/-- `filtered_by_fields`, on the reader. An operation that raises an exception makes nothing. -/
def filter (fields : FilterFields) : ReadingSession L :=
  match (VRSReader.init s.reader.native).filteredByFields fnmatch fields with
  | .error _ => s
  | .ok filtered => { s with sequences := s.sequences ++ [.reader filtered.vrsIndices] }

/-- `x[s]`, of a slice. -/
def slice (k : ℕ) (slice : Slice) : ReadingSession L :=
  match s.sequences[k]? with
  | none => s
  | some sequence =>
    match sequence.vrsIndices.slice slice with
    | .error _ => s
    | .ok vrsIndices => { s with sequences := s.sequences ++ [.slice vrsIndices] }

/-- `x[i]`, of an integer. -/
def getItem (k : ℕ) (i : ℤ) : ReadingSession L :=
  match s.sequences[k]? with
  | none => s
  | some sequence => { s with reader := (s.reader.getItem sequence.vrsIndices i).2 }

/-- A loop starts. -/
def iter (k : ℕ) : ReadingSession L :=
  match s.sequences[k]? with
  | none => s
  | some sequence => { s with loops := s.loops ++ [⟨sequence, 0, [], .running⟩] }

/-- A loop asks for its next record. -/
def next (k : ℕ) : ReadingSession L :=
  match s.loops[k]? with
  | none => s
  | some loop =>
    { s with reader := (loop.next s.reader).2, loops := s.loops.set k (loop.next s.reader).1 }

/-- One operation. -/
def step : Machine (ReadingSession L) SessionStep Unit := fun s event =>
  ((), match event with
    | .filter fields => s.filter fnmatch fields
    | .slice k slice => s.slice k slice
    | .getItem k i => s.getItem k i
    | .iter k => s.iter k
    | .next k => s.next k
    | .call c => { s with reader := s.reader.call c })

end Step

end ReadingSession

/-! ## One record -/

section Next

theorem VrsIndices.HoldPositions.length_eq {vrsIndices : VrsIndices} {positions : List ℕ}
    (h : vrsIndices.HoldPositions positions) : vrsIndices.length = positions.length := by
  rw [← vrsIndices.length_toList, h.toList_eq, List.length_map]

/-- Past the end there is an `IndexError`. -/
theorem OpenReader.getItem_length (self : OpenReader L) {vrsIndices : VrsIndices}
    {positions : List ℕ} (h : vrsIndices.HoldPositions positions) :
    self.getItem vrsIndices positions.length = (.error vrsIndices.type.outOfRange, self) := by
  have hposition : position vrsIndices.length positions.length = none := by
    have hnonneg : ¬(positions.length : ℤ) < 0 := by omega
    have houtside : ¬(0 ≤ (positions.length : ℤ) ∧ (positions.length : ℤ) < positions.length) := by
      omega
    unfold position
    simp only [h.length_eq, if_neg hnonneg, if_neg houtside]
  unfold OpenReader.getItem VrsIndices.getItem
  rw [hposition]
  rfl

/-- The positions are those of records of a file. -/
def NativeReader.HasRecords (reader : NativeReader L) (positions : List ℕ) : Prop :=
  ∀ i ∈ positions, i < 2 ^ 31 ∧ ∃ id record, reader.record i = some (id, record)

/-- The index, the type, the timestamp and the stream of a record. -/
def PyRecord.header (r : PyRecord L) : Int32 × String × Timestamp × String :=
  (r.recordIndex, r.recordType, r.recordTimestamp, r.streamId)

/-- The headers of the records of a loop. -/
def RecordLoop.headers (loop : RecordLoop L) : List (Int32 × String × Timestamp × String) :=
  loop.received.map PyRecord.header

theorem NativeReader.IsRecordAt.header_eq {reader : NativeReader L} {i : ℕ} {r r' : PyRecord L}
    (h : reader.IsRecordAt i r) (h' : reader.IsRecordAt i r') : r.header = r'.header := by
  obtain ⟨id, record, hrecord, hindex, htype, htime, hstream⟩ := h
  obtain ⟨id', record', hrecord', hindex', htype', htime', hstream'⟩ := h'
  cases hrecord.symm.trans hrecord'
  unfold PyRecord.header
  rw [hindex, htype, htime, hstream, hindex', htype', htime', hstream']

theorem NativeReader.map_header_eq {reader : NativeReader L} {positions : List ℕ}
    {records records' : List (PyRecord L)} (h : List.Forall₂ reader.IsRecordAt positions records)
    (h' : List.Forall₂ reader.IsRecordAt positions records') :
    records.map PyRecord.header = records'.map PyRecord.header := by
  induction h generalizing records' with
  | nil =>
    cases h'
    rfl
  | cons hrecord _ ih =>
    cases h' with
    | cons hrecord' hrest => rw [List.map_cons, List.map_cons, hrecord.header_eq hrecord', ih hrest]

/-- A native read has failed. -/
def OpenReader.HasFailed (self : OpenReader L) : Prop := ∃ read ∈ self.nativeReads, read.Failed

theorem OpenReader.HasFailed.mono {self self' : OpenReader L} (hself : self.Continues self')
    (h : self.HasFailed) : self'.HasFailed := by
  obtain ⟨read, hread, hfailed⟩ := h
  exact ⟨read, hself.isPrefix.subset hread, hfailed⟩

/-- **The loop is as it would be alone**: it received the records of the first positions of its
sequence, in order; it ended with all of them, or was cut short after a native read had failed. What
is in the records is left open. -/
structure RecordLoop.AsAlone (loop : RecordLoop L) (reader : OpenReader L) (positions : List ℕ) :
    Prop where
  holds : loop.sequence.vrsIndices.HoldPositions positions
  hasRecords : reader.native.HasRecords positions
  index_eq : loop.index = loop.received.length
  in_order : List.Forall₂ reader.native.IsRecordAt (positions.take loop.received.length)
    loop.received
  finished : loop.phase = .finished → loop.received.length = positions.length ∨
    (∃ vrsIndices, loop.sequence = .slice vrsIndices) ∧ reader.HasFailed
  raised : ∀ e, loop.phase = .raised e → reader.HasFailed

namespace RecordLoop

variable {loop : RecordLoop L} {self : OpenReader L} {positions : List ℕ}

theorem AsAlone.length_le (h : loop.AsAlone self positions) :
    loop.received.length ≤ positions.length := by
  have hlength := h.in_order.length_eq
  rw [List.length_take] at hlength
  omega

/-- Of two loops over the same positions, the one that received fewer records received the first of
those of the other. -/
theorem AsAlone.headers_isPrefix {loop' : RecordLoop L} {self' : OpenReader L}
    (h : loop.AsAlone self positions) (h' : loop'.AsAlone self' positions)
    (hnative : self'.native = self.native)
    (hle : loop.received.length ≤ loop'.received.length) : loop.headers <+: loop'.headers := by
  have htaken := List.forall₂_take loop.received.length h'.in_order
  rw [List.take_take, min_eq_left hle, hnative] at htaken
  have heq : loop.headers = loop'.headers.take loop.received.length := by
    unfold headers
    rw [← List.map_take]
    exact NativeReader.map_header_eq h.in_order htaken
  rw [heq]
  exact List.take_prefix _ _

/-- Native reads made since change nothing. -/
theorem AsAlone.mono {self' : OpenReader L} (h : loop.AsAlone self positions)
    (hself : self.Continues self') : loop.AsAlone self' positions where
  holds := h.holds
  hasRecords := by
    rw [hself.native_eq]
    exact h.hasRecords
  index_eq := h.index_eq
  in_order := by
    rw [hself.native_eq]
    exact h.in_order
  finished hphase := (h.finished hphase).imp_right fun hcut => ⟨hcut.1, hcut.2.mono hself⟩
  raised e hphase := (h.raised e hphase).mono hself

theorem continues_next (loop : RecordLoop L) (self : OpenReader L) :
    self.Continues (loop.next self).2 := by
  unfold RecordLoop.next
  split
  · rename_i vrsIndices _ _
    split
    · have hitem := self.continues_getItem vrsIndices loop.index
      split
      · rename_i hread
        rwa [hread] at hitem
      · rename_i hread
        rwa [hread] at hitem
    · exact .refl self
  · rename_i vrsIndices _ _
    have hitem := self.continues_getItem vrsIndices loop.index
    split
    · rename_i hread
      rwa [hread] at hitem
    · rename_i hread
      rw [hread] at hitem
      split <;> exact hitem
  · exact .refl self

theorem next_of_not_running (self : OpenReader L) (h : loop.phase ≠ .running) :
    loop.next self = (loop, self) := by
  unfold RecordLoop.next
  split
  · exact absurd ‹_› h
  · exact absurd ‹_› h
  · rfl

/-- **What the generator does next**: it yields the record of the next position, it ends after the
last one, or a native read has failed, upon which a slice ends the loop or the exception goes on. -/
theorem AsAlone.next_cases (h : loop.AsAlone self positions) (hrunning : loop.phase = .running) :
    (∃ i record, positions[loop.received.length]? = some i ∧ self.native.IsRecordAt i record ∧
      loop.next self = (loop.receive record, self.call (.readRecord (.ofNat i)))) ∨
    loop.received.length = positions.length ∧
      loop.next self = ({ loop with phase := .finished }, self) ∨
    ∃ i phase, loop.received.length < positions.length ∧
      (self.call (.readRecord (.ofNat i))).HasFailed ∧
      ((∃ e, phase = .raised e) ∨
        phase = .finished ∧ ∃ vrsIndices, loop.sequence = .slice vrsIndices) ∧
      loop.next self = ({ loop with phase := phase }, self.call (.readRecord (.ofNat i))) := by
  have hlength := h.holds.length_eq
  have hindex := h.index_eq
  by_cases hend : loop.received.length = positions.length
  · -- after the last position, a reader has counted to the end, and a slice raises `IndexError`
    refine .inr (.inl ⟨hend, ?_⟩)
    have hitem := self.getItem_length h.holds
    unfold next
    rw [hrunning]
    cases hsequence : loop.sequence with
    | reader vrsIndices =>
      rw [hsequence] at hlength
      have hnot : ¬loop.index < vrsIndices.length := by
        rw [show vrsIndices.length = positions.length from hlength]
        omega
      exact if_neg hnot
    | slice vrsIndices =>
      rw [hsequence] at hitem
      have hitem' : self.getItem vrsIndices loop.index =
          (.error vrsIndices.type.outOfRange, self) := by
        rw [hindex, hend]
        exact hitem
      simp only [hitem']
      exact if_pos (by cases vrsIndices <;> rfl)
  · have hlt : loop.received.length < positions.length := lt_of_le_of_ne h.length_le hend
    obtain ⟨i, hi⟩ : ∃ i, positions[loop.received.length]? = some i :=
      ⟨_, List.getElem?_eq_getElem hlt⟩
    obtain ⟨hsmall, id, record, hrecord⟩ := h.hasRecords i (List.mem_of_getElem? hi)
    have hitem := self.getItem_natCast h.holds hi hsmall
    rw [← hindex] at hitem
    have hreads := self.readsOrFails_readRecord hrecord hsmall
    have hcall := self.readRecord_snd (.ofNat i)
    rcases hread : self.readRecord (.ofNat i) with ⟨result, self'⟩
    rw [hread] at hitem hreads hcall
    obtain rfl : self' = self.call (.readRecord (.ofNat i)) := hcall
    unfold next
    rw [hrunning]
    cases result with
    | ok record =>
      refine .inl ⟨i, record, hi, self.isRecordAt_of_readRecord (by omega) hread, ?_⟩
      cases hsequence : loop.sequence with
      | reader vrsIndices =>
        rw [hsequence] at hitem hlength
        have hinside : loop.index < vrsIndices.length := by
          rw [show vrsIndices.length = positions.length from hlength]
          omega
        have hitem' : self.getItem vrsIndices loop.index = (.ok record, _) := hitem
        simp only [if_pos hinside, hitem']
      | slice vrsIndices =>
        rw [hsequence] at hitem
        have hitem' : self.getItem vrsIndices loop.index = (.ok record, _) := hitem
        simp only [hitem']
    | error e =>
      have hfailed : (self.call (.readRecord (.ofNat i))).HasFailed := (hreads.failed e rfl).2
      cases hsequence : loop.sequence with
      | reader vrsIndices =>
        rw [hsequence] at hitem hlength
        have hinside : loop.index < vrsIndices.length := by
          rw [show vrsIndices.length = positions.length from hlength]
          omega
        have hitem' : self.getItem vrsIndices loop.index = (.error e, _) := hitem
        refine .inr (.inr ⟨i, .raised (generatorError e), hlt, hfailed, .inl ⟨_, rfl⟩, ?_⟩)
        simp only [if_pos hinside, hitem']
      | slice vrsIndices =>
        rw [hsequence] at hitem
        have hitem' : self.getItem vrsIndices loop.index = (.error e, _) := hitem
        by_cases hkind : e.kind = .indexError
        · refine .inr (.inr ⟨i, .finished, hlt, hfailed, .inr ⟨rfl, _, rfl⟩, ?_⟩)
          simp only [hitem', if_pos hkind]
        · refine .inr (.inr ⟨i, .raised (generatorError e), hlt, hfailed, .inl ⟨_, rfl⟩, ?_⟩)
          simp only [hitem', if_neg hkind]

/-- **The loop stays as it would be alone.** -/
theorem AsAlone.next (h : loop.AsAlone self positions) :
    (loop.next self).1.AsAlone (loop.next self).2 positions := by
  by_cases hphase : loop.phase = .running
  swap
  · rw [loop.next_of_not_running self hphase]
    exact h
  have hmono := h.mono (loop.continues_next self)
  rcases h.next_cases hphase with ⟨i, record, hi, hrecord, hnext⟩ | ⟨hend, hnext⟩ |
    ⟨i, phase, -, hfailed, hcut, hnext⟩
  · rw [hnext] at hmono ⊢
    refine ⟨hmono.holds, hmono.hasRecords, ?_, ?_, ?_, ?_⟩
    · show loop.index + 1 = (loop.received ++ [record]).length
      rw [h.index_eq, List.length_append, List.length_singleton]
    · -- the record yielded is that of the next position
      show List.Forall₂ _ (positions.take (loop.received ++ [record]).length)
        (loop.received ++ [record])
      obtain ⟨hlt, rfl⟩ := List.getElem?_eq_some_iff.1 hi
      rw [List.length_append, List.length_singleton, List.take_succ_eq_append_getElem hlt,
        (self.continues_call _).native_eq]
      exact List.rel_append h.in_order (.cons hrecord .nil)
    · intro hfinished
      exact absurd (hphase.symm.trans hfinished) (by simp)
    · intro e hraised
      exact absurd (hphase.symm.trans hraised) (by simp)
  · rw [hnext]
    refine ⟨h.holds, h.hasRecords, h.index_eq, h.in_order, fun _ => .inl hend, fun e hraised => ?_⟩
    cases hraised
  · rw [hnext] at hmono ⊢
    refine ⟨hmono.holds, hmono.hasRecords, hmono.index_eq, hmono.in_order, fun hfinished => ?_,
      fun _ _ => hfailed⟩
    rcases hcut with ⟨e, rfl⟩ | ⟨-, hslice⟩
    · cases hfinished
    · exact .inr ⟨hslice, hfailed⟩

theorem sequence_next (loop : RecordLoop L) (self : OpenReader L) :
    (loop.next self).1.sequence = loop.sequence := by
  unfold RecordLoop.next
  split
  · split
    · split <;> rfl
    · rfl
  · split
    · rfl
    · split <;> rfl
  · rfl

/-- The loop has asked for `m` records: where no native read failed, it received the first `m`, or
all of them and has ended. -/
def HasAsked (loop : RecordLoop L) (reader : OpenReader L) (positions : List ℕ) (m : ℕ) : Prop :=
  ¬reader.HasFailed →
    loop.phase = .running ∧ loop.received.length = m ∧ m ≤ positions.length ∨
    loop.phase = .finished ∧ loop.received.length = positions.length ∧ positions.length < m

theorem HasAsked.mono {self' : OpenReader L} {m : ℕ} (h : loop.HasAsked self positions m)
    (hself : self.Continues self') : loop.HasAsked self' positions m :=
  fun hnot => h fun hfailed => hnot (hfailed.mono hself)

/-- **A loop that asks for one record more.** -/
theorem HasAsked.next {m : ℕ} (h : loop.HasAsked self positions m)
    (halone : loop.AsAlone self positions) :
    (loop.next self).1.HasAsked (loop.next self).2 positions (m + 1) := by
  intro hnot
  rcases h fun hfailed => hnot (hfailed.mono (loop.continues_next self)) with
    ⟨hphase, hlength, hle⟩ | ⟨hphase, hlength, hlt⟩
  · rcases halone.next_cases hphase with ⟨i, record, hi, -, hnext⟩ | ⟨hend, hnext⟩ |
      ⟨i, phase, -, hfailed, -, hnext⟩
    · rw [hnext]
      have hinside := (List.getElem?_eq_some_iff.1 hi).1
      refine .inl ⟨hphase, ?_, by omega⟩
      show (loop.received ++ [record]).length = m + 1
      rw [List.length_append, List.length_singleton, hlength]
    · rw [hnext]
      exact .inr ⟨rfl, hend, by omega⟩
    · rw [hnext] at hnot
      exact absurd hfailed hnot
  · rw [loop.next_of_not_running self (by rw [hphase]; simp)]
    exact .inr ⟨hphase, hlength, by omega⟩

end RecordLoop

end Next

/-! ## One operation -/

namespace ReadingSession

variable {fnmatch : String → String → Bool} {reader : NativeReader L} {s : ReadingSession L}

/-- The sequence holds records of the file. -/
def Holds (reader : NativeReader L) (sequence : RecordSequence) : Prop :=
  ∃ positions, sequence.vrsIndices.HoldPositions positions ∧ reader.HasRecords positions

/-- Every sequence holds records of the file, and every loop is as it would be alone. -/
structure Sound (reader : NativeReader L) (s : ReadingSession L) : Prop where
  native_eq : s.reader.native = reader
  sequences : ∀ sequence ∈ s.sequences, Holds reader sequence
  loops : ∀ loop ∈ s.loops, ∃ positions, loop.AsAlone s.reader positions

theorem hasRecords_init (h : reader.Filterable fnmatch) :
    Holds reader (.reader (VRSReader.init reader).vrsIndices) := by
  refine ⟨List.range reader.getAvailableRecordsSize, ⟨VRSReader.toList_vrsIndices _,
    .inl List.pairwise_lt_range⟩, fun i hi => ?_⟩
  have hlt := List.mem_range.1 hi
  have hsize := h.size_lt
  exact ⟨by omega, reader.exists_record hlt⟩

/-- A session begins with all records, and without loops. -/
theorem sound_new {reader : OpenReader L} (h : reader.native.Filterable fnmatch) :
    (new reader).Sound reader.native where
  native_eq := rfl
  sequences := by
    rintro sequence hsequence
    rw [List.mem_singleton.1 hsequence]
    exact hasRecords_init h
  loops _ h := absurd h List.not_mem_nil

theorem Holds.slice {sequence : RecordSequence} (h : Holds reader sequence) {slice : Slice}
    {vrsIndices : VrsIndices} (hslice : sequence.vrsIndices.slice slice = .ok vrsIndices) :
    Holds reader (.slice vrsIndices) := by
  obtain ⟨positions, hpositions, hrecords⟩ := h
  have hslices : sequence.vrsIndices.slices [slice] = .ok vrsIndices := by
    unfold VrsIndices.slices
    rw [hslice]
    rfl
  obtain ⟨picked, -, hpicked, hsubset⟩ := hpositions.slices hslices
  exact ⟨picked, hpicked, fun i hi => hrecords i (hsubset i hi)⟩

theorem Holds.filtered {filtered : FilteredVRSReader L} {fields : FilterFields}
    (hfile : reader.Filterable fnmatch)
    (hfiltered : (VRSReader.init reader).filteredByFields fnmatch fields = .ok filtered) :
    Holds reader (.reader filtered.vrsIndices) := by
  obtain ⟨filtered', positions, hfiltered', h⟩ := hfile.exists_holds fields
  cases hfiltered.symm.trans hfiltered'
  refine ⟨positions, h.holdPositions hfile, fun i hi => ⟨h.lt hfile hi, ?_⟩⟩
  obtain ⟨id, record, hrecord, -⟩ := (h.mem_iff i).1 hi
  exact ⟨id, record, hrecord⟩

/-- More native reads change nothing. -/
theorem Sound.mono (h : s.Sound reader) {self : OpenReader L} (hself : s.reader.Continues self) :
    { s with reader := self }.Sound reader where
  native_eq := hself.native_eq.trans h.native_eq
  sequences := h.sequences
  loops loop hloop := by
    obtain ⟨positions, halone⟩ := h.loops loop hloop
    exact ⟨positions, halone.mono hself⟩

theorem Sound.addSequence (h : s.Sound reader) {sequence : RecordSequence}
    (hsequence : Holds reader sequence) :
    { s with sequences := s.sequences ++ [sequence] }.Sound reader where
  native_eq := h.native_eq
  sequences sequence' hmem := by
    rcases List.mem_append.1 hmem with hold | hnew
    · exact h.sequences sequence' hold
    · rw [List.mem_singleton.1 hnew]
      exact hsequence
  loops := h.loops

theorem asAlone_iter (hnative : s.reader.native = reader) {sequence : RecordSequence}
    {positions : List ℕ} (hpositions : sequence.vrsIndices.HoldPositions positions)
    (hrecords : reader.HasRecords positions) :
    RecordLoop.AsAlone ⟨sequence, 0, [], .running⟩ s.reader positions where
  holds := hpositions
  hasRecords := by rwa [hnative]
  index_eq := rfl
  in_order := .nil
  finished h := by cases h
  raised e h := by cases h

/-- **Every operation keeps the loops as they would be alone.** -/
theorem Sound.step (hfile : reader.Filterable fnmatch) (h : s.Sound reader) (event : SessionStep) :
    (ReadingSession.step fnmatch s event).2.Sound reader := by
  cases event with
  | filter fields =>
    show (s.filter fnmatch fields).Sound reader
    unfold ReadingSession.filter
    split
    · exact h
    · rename_i filtered hfiltered
      rw [h.native_eq] at hfiltered
      exact h.addSequence (Holds.filtered hfile hfiltered)
  | slice k slice =>
    show (s.slice k slice).Sound reader
    unfold ReadingSession.slice
    split
    · exact h
    · rename_i sequence hsequence
      split
      · exact h
      · rename_i vrsIndices hslice
        exact h.addSequence ((h.sequences sequence (List.mem_of_getElem? hsequence)).slice hslice)
  | getItem k i =>
    show (s.getItem k i).Sound reader
    unfold ReadingSession.getItem
    split
    · exact h
    · exact h.mono (s.reader.continues_getItem _ i)
  | iter k =>
    show (s.iter k).Sound reader
    unfold ReadingSession.iter
    split
    · exact h
    · rename_i sequence hsequence
      obtain ⟨positions, hpositions, hrecords⟩ :=
        h.sequences sequence (List.mem_of_getElem? hsequence)
      refine ⟨h.native_eq, h.sequences, fun loop hloop => ?_⟩
      rcases List.mem_append.1 hloop with hold | hnew
      · exact h.loops loop hold
      · rw [List.mem_singleton.1 hnew]
        exact ⟨positions, asAlone_iter h.native_eq hpositions hrecords⟩
  | next k =>
    show (s.next k).Sound reader
    unfold ReadingSession.next
    split
    · exact h
    · rename_i loop hloop
      obtain ⟨positions, halone⟩ := h.loops loop (List.mem_of_getElem? hloop)
      have hothers := h.mono (loop.continues_next s.reader)
      refine ⟨hothers.native_eq, h.sequences, fun loop' hloop' => ?_⟩
      rcases List.mem_or_eq_of_mem_set hloop' with hold | rfl
      · exact hothers.loops loop' hold
      · exact ⟨positions, halone.next⟩
  | call c => exact h.mono (s.reader.continues_call c)

/-! ## A run -/

theorem sound_exec {reader : OpenReader L} (hfile : reader.native.Filterable fnmatch)
    (steps : List SessionStep) :
    ((ReadingSession.step fnmatch).exec (new reader) steps).Sound reader.native :=
  Machine.exec_of_invariant (I := Sound reader.native) (fun _ event h => h.step hfile event)
    (sound_new hfile) steps

/-- The loop `k` is one over a sequence, is as it would be alone and has asked for `m` records. -/
def Follows (s : ReadingSession L) (k : ℕ) (sequence : RecordSequence) (positions : List ℕ)
    (m : ℕ) : Prop :=
  ∃ loop, s.loops[k]? = some loop ∧ loop.sequence = sequence ∧
    loop.AsAlone s.reader positions ∧ loop.HasAsked s.reader positions m

section Follows

variable {k m : ℕ} {sequence : RecordSequence} {positions : List ℕ}

/-- Every operation goes on with the same file and leaves the loops that it does not move. -/
theorem step_frame (fnmatch : String → String → Bool) (s : ReadingSession L) (event : SessionStep) :
    s.reader.Continues (ReadingSession.step fnmatch s event).2.reader ∧
      ∀ k < s.loops.length, event.isNext k = false →
        (ReadingSession.step fnmatch s event).2.loops[k]? = s.loops[k]? := by
  cases event with
  | filter fields =>
    show s.reader.Continues (s.filter fnmatch fields).reader ∧ ∀ k < _, _ →
      (s.filter fnmatch fields).loops[k]? = _
    unfold ReadingSession.filter
    split <;> exact ⟨.refl _, fun _ _ _ => rfl⟩
  | slice j slice =>
    show s.reader.Continues (s.slice j slice).reader ∧ ∀ k < _, _ → (s.slice j slice).loops[k]? = _
    unfold ReadingSession.slice
    split
    · exact ⟨.refl _, fun _ _ _ => rfl⟩
    · split <;> exact ⟨.refl _, fun _ _ _ => rfl⟩
  | getItem j i =>
    show s.reader.Continues (s.getItem j i).reader ∧ ∀ k < _, _ → (s.getItem j i).loops[k]? = _
    unfold ReadingSession.getItem
    split
    · exact ⟨.refl _, fun _ _ _ => rfl⟩
    · exact ⟨s.reader.continues_getItem _ i, fun _ _ _ => rfl⟩
  | iter j =>
    show s.reader.Continues (s.iter j).reader ∧ ∀ k < _, _ → (s.iter j).loops[k]? = _
    unfold ReadingSession.iter
    split
    · exact ⟨.refl _, fun _ _ _ => rfl⟩
    · exact ⟨.refl _, fun k hk _ => List.getElem?_append_left hk⟩
  | next j =>
    show s.reader.Continues (s.next j).reader ∧ ∀ k < _, decide (j = k) = false →
      (s.next j).loops[k]? = _
    unfold ReadingSession.next
    split
    · exact ⟨.refl _, fun _ _ _ => rfl⟩
    · rename_i loop hloop
      exact ⟨loop.continues_next s.reader, fun k _ hnot =>
        List.getElem?_set_ne (of_decide_eq_false hnot)⟩
  | call c => exact ⟨s.reader.continues_call c, fun _ _ _ => rfl⟩

/-- A loop starts. -/
theorem Sound.follows_iter (h : s.Sound reader) {j : ℕ}
    (hsequence : s.sequences[j]? = some sequence)
    (hpositions : sequence.vrsIndices.HoldPositions positions)
    (hrecords : reader.HasRecords positions) :
    (s.iter j).Follows s.loops.length sequence positions 0 := by
  unfold ReadingSession.iter
  rw [hsequence]
  exact ⟨_, List.getElem?_concat_length, rfl, asAlone_iter h.native_eq hpositions hrecords,
    fun _ => .inl ⟨rfl, rfl, Nat.zero_le _⟩⟩

theorem Follows.step_of_not_isNext (h : s.Follows k sequence positions m) {event : SessionStep}
    (hevent : event.isNext k = false) :
    (ReadingSession.step fnmatch s event).2.Follows k sequence positions m := by
  obtain ⟨loop, hloop, hsequence, halone, hasked⟩ := h
  obtain ⟨hreader, hloops⟩ := step_frame fnmatch s event
  have hlt := (List.getElem?_eq_some_iff.1 hloop).1
  exact ⟨loop, (hloops k hlt hevent).trans hloop, hsequence, halone.mono hreader,
    hasked.mono hreader⟩

theorem Follows.step_of_isNext (h : s.Follows k sequence positions m) {event : SessionStep}
    (hevent : event.isNext k = true) :
    (ReadingSession.step fnmatch s event).2.Follows k sequence positions (m + 1) := by
  cases event with
  | next j =>
    obtain rfl : j = k := of_decide_eq_true hevent
    obtain ⟨loop, hloop, hsequence, halone, hasked⟩ := h
    have hlt := (List.getElem?_eq_some_iff.1 hloop).1
    show (s.next j).Follows j sequence positions (m + 1)
    unfold ReadingSession.next
    rw [hloop]
    exact ⟨_, List.getElem?_set_self hlt, (loop.sequence_next s.reader).trans hsequence,
      halone.next, hasked.next halone⟩
  | _ => cases hevent

/-- **A loop goes on when it asks for its next record**, and only then. -/
theorem Follows.exec (h : s.Follows k sequence positions m) (steps : List SessionStep) :
    ((ReadingSession.step fnmatch).exec s steps).Follows k sequence positions
      (m + steps.countP (SessionStep.isNext k)) := by
  induction steps generalizing s m with
  | nil => exact h
  | cons event steps ih =>
    cases hevent : event.isNext k with
    | false =>
      rw [List.countP_cons_of_neg (by simpa using hevent)]
      exact ih (h.step_of_not_isNext hevent)
    | true =>
      rw [List.countP_cons_of_pos hevent, Nat.add_comm (steps.countP _), ← Nat.add_assoc]
      exact ih (h.step_of_isNext hevent)

end Follows

/-- A loop that is begun has asked for as many records since as it was moved. -/
theorem follows_exec {reader : OpenReader L} (hfile : reader.native.Filterable fnmatch)
    (before : List SessionStep) {j : ℕ} {sequence : RecordSequence}
    (hsequence : ((ReadingSession.step fnmatch).exec (new reader) before).sequences[j]? =
      some sequence) :
    let k := ((ReadingSession.step fnmatch).exec (new reader) before).loops.length
    ∃ positions, sequence.vrsIndices.HoldPositions positions ∧ ∀ after,
      ((ReadingSession.step fnmatch).exec (new reader) (before ++ .iter j :: after)).Follows k
        sequence positions (after.countP (SessionStep.isNext k)) := by
  intro k
  have hsound := sound_exec hfile before
  obtain ⟨positions, hpositions, hrecords⟩ :=
    hsound.sequences sequence (List.mem_of_getElem? hsequence)
  refine ⟨positions, hpositions, fun after => ?_⟩
  have hexec : ((ReadingSession.step fnmatch).exec
      (((ReadingSession.step fnmatch).exec (new reader) before).iter j) after).Follows k sequence
        positions (0 + after.countP (SessionStep.isNext k)) :=
    (hsound.follows_iter hsequence hpositions hrecords).exec after
  rw [Nat.zero_add] at hexec
  rw [Machine.exec_append]
  exact hexec

/-- **Each loop receives the records of its own sequence**, one for each time it asks, whatever else
is done with the reader, and ends when it asks once more than there are, as long as no native read
fails. -/
theorem received_exec {reader : OpenReader L} (hfile : reader.native.Filterable fnmatch)
    (before after : List SessionStep) {j : ℕ} {sequence : RecordSequence}
    (hsequence : ((ReadingSession.step fnmatch).exec (new reader) before).sequences[j]? =
      some sequence)
    (hreads : ¬((ReadingSession.step fnmatch).exec (new reader)
      (before ++ .iter j :: after)).reader.HasFailed) :
    ∃ loop positions,
      ((ReadingSession.step fnmatch).exec (new reader) (before ++ .iter j :: after)).loops[
        ((ReadingSession.step fnmatch).exec (new reader) before).loops.length]? = some loop ∧
      sequence.vrsIndices.HoldPositions positions ∧
      List.Forall₂ reader.native.IsRecordAt (positions.take (after.countP (SessionStep.isNext
        ((ReadingSession.step fnmatch).exec (new reader) before).loops.length))) loop.received ∧
      (loop.phase = .finished ↔ positions.length < after.countP (SessionStep.isNext
        ((ReadingSession.step fnmatch).exec (new reader) before).loops.length)) := by
  obtain ⟨positions, hpositions, hfollows⟩ := follows_exec hfile before hsequence
  obtain ⟨loop, hloop, rfl, halone, hasked⟩ := hfollows after
  refine ⟨loop, positions, hloop, hpositions, ?_⟩
  have hnative := (sound_exec hfile (before ++ .iter j :: after)).native_eq
  have hin_order : List.Forall₂ reader.native.IsRecordAt (positions.take loop.received.length)
      loop.received := by
    rw [← hnative]
    exact halone.in_order
  rcases hasked hreads with ⟨hphase, hlength, hle⟩ | ⟨hphase, hlength, hlt⟩
  · rw [hlength] at hin_order
    refine ⟨hin_order, iff_of_false ?_ (not_lt.2 hle)⟩
    rw [hphase]
    simp
  · rw [hlength, List.take_length] at hin_order
    rw [List.take_of_length_le hlt.le]
    exact ⟨hin_order, iff_of_true hphase hlt⟩

/-- **A loop receives what it would alone.** The headers of the records that it receives among
whatever is done with the reader are those that it receives in the run in which only its own
requests are made, and it ends in both or in none, unless a native read fails, and one has received
the first ones of the other even then. -/
theorem sameHeaders_exec {reader : OpenReader L} (hfile : reader.native.Filterable fnmatch)
    (before after : List SessionStep) {j : ℕ} {sequence : RecordSequence}
    (hsequence : ((ReadingSession.step fnmatch).exec (new reader) before).sequences[j]? =
      some sequence) :
    let k := ((ReadingSession.step fnmatch).exec (new reader) before).loops.length
    let among := (ReadingSession.step fnmatch).exec (new reader) (before ++ .iter j :: after)
    let alone := (ReadingSession.step fnmatch).exec (new reader)
      (before ++ .iter j :: after.filter (SessionStep.isNext k))
    ∃ loop loop', among.loops[k]? = some loop ∧ alone.loops[k]? = some loop' ∧
      (loop.headers <+: loop'.headers ∨ loop'.headers <+: loop.headers) ∧
      (¬among.reader.HasFailed → ¬alone.reader.HasFailed →
        loop.headers = loop'.headers ∧ loop.phase = loop'.phase) := by
  intro k among alone
  obtain ⟨positions, -, hfollows⟩ := follows_exec hfile before hsequence
  have hnative : alone.reader.native = among.reader.native :=
    (sound_exec hfile _).native_eq.trans (sound_exec hfile _).native_eq.symm
  obtain ⟨loop, hloop, -, halone, hasked⟩ :
    among.Follows k sequence positions (after.countP (SessionStep.isNext k)) := hfollows after
  obtain ⟨loop', hloop', -, halone', hasked'⟩ := hfollows (after.filter (SessionStep.isNext k))
  have hcount : (after.filter (SessionStep.isNext k)).countP (SessionStep.isNext k) =
      after.countP (SessionStep.isNext k) := by
    rw [List.countP_filter]
    simp
  rw [hcount] at hasked'
  refine ⟨loop, loop', hloop, hloop', ?_, fun hreads hreads' => ?_⟩
  · rcases Nat.le_total loop.received.length loop'.received.length with hle | hle
    · exact .inl (halone.headers_isPrefix halone' hnative hle)
    · exact .inr (halone'.headers_isPrefix halone hnative.symm hle)
  · -- both received as many records as were asked for, or all of them
    have hsame : loop.received.length = loop'.received.length ∧ loop.phase = loop'.phase := by
      rcases hasked hreads with ⟨hphase, hlength, hle⟩ | ⟨hphase, hlength, hlt⟩
      · rcases hasked' hreads' with ⟨hphase', hlength', -⟩ | ⟨-, -, hlt'⟩
        · exact ⟨hlength.trans hlength'.symm, hphase.trans hphase'.symm⟩
        · omega
      · rcases hasked' hreads' with ⟨-, -, hle'⟩ | ⟨hphase', hlength', -⟩
        · omega
        · exact ⟨hlength.trans hlength'.symm, hphase.trans hphase'.symm⟩
    refine ⟨?_, hsame.2⟩
    refine (halone.headers_isPrefix halone' hnative hsame.1.le).eq_of_length ?_
    unfold RecordLoop.headers
    rw [List.length_map, List.length_map, hsame.1]

/-- The filtered reader is sliced, and there is a loop over the slice, among reads and another
loop. -/
theorem sameHeaders_loopOverSlice :
    let s := (step fun name pattern => name = pattern).exec (new reconfiguredOpen)
      [.filter dataBetween, .slice 1 ⟨none, none, some (-1)⟩, .iter 0]
    let k := s.loops.length
    let among := (step fun name pattern => name = pattern).exec (new reconfiguredOpen)
      ([.filter dataBetween, .slice 1 ⟨none, none, some (-1)⟩, .iter 0] ++
        .iter 2 :: [.next 0, .next 1, .getItem 0 2, .next 0, .next 1])
    let alone := (step fun name pattern => name = pattern).exec (new reconfiguredOpen)
      ([.filter dataBetween, .slice 1 ⟨none, none, some (-1)⟩, .iter 0] ++
        .iter 2 :: [SessionStep.next 0, .next 1, .getItem 0 2, .next 0, .next 1].filter
          (SessionStep.isNext k))
    ∃ loop loop', among.loops[k]? = some loop ∧ alone.loops[k]? = some loop' ∧
      (loop.headers <+: loop'.headers ∨ loop'.headers <+: loop.headers) ∧
      (¬among.reader.HasFailed → ¬alone.reader.HasFailed →
        loop.headers = loop'.headers ∧ loop.phase = loop'.phase) := by
  obtain ⟨sequence, hsequence⟩ : ∃ sequence, ((step fun name pattern => name = pattern).exec
      (new reconfiguredOpen) [.filter dataBetween, .slice 1 ⟨none, none, some (-1)⟩,
        .iter 0]).sequences[2]? = some sequence :=
    Option.isSome_iff_exists.1 (by decide +kernel)
  exact sameHeaders_exec filterable_reconfiguredOpen _ _ hsequence

instance (reader : OpenReader L) : Decidable reader.HasFailed :=
  inferInstanceAs (Decidable (∃ read ∈ reader.nativeReads, read.status ≠ 0))

/-- A loop over all records, in which another one is started and left. -/
theorem received_twoLoops :
    ∃ loop positions,
      ((step fun name pattern => name = pattern).exec (new reconfiguredOpen)
        ([.iter 0, .next 0] ++ .iter 0 :: [.next 0, .next 1, .next 0])).loops[1]? = some loop ∧
      (VRSReader.init reconfiguredOpen.native).vrsIndices.HoldPositions positions ∧
      List.Forall₂ reconfiguredOpen.native.IsRecordAt (positions.take 1) loop.received ∧
      (loop.phase = .finished ↔ positions.length < 1) :=
  received_exec filterable_reconfiguredOpen [.iter 0, .next 0] [.next 0, .next 1, .next 0]
    (j := 0) rfl (by decide +kernel)

end ReadingSession

end Pyvrs
