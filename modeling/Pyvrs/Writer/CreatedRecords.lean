import Pyvrs.Writer.FileOrder
import Pyvrs.Writer.RecordContents

/-!
# The records that a run creates

A call that creates a record makes it of its sources: the datalayouts of the record format of the
stream, and the bytes of the arrays among the arguments (`exists_made`). Streams are only added to a
writer, and no call changes their formats (`streams_call`).
-/

namespace Pyvrs

open Foundations Machine

variable {L : VrsLib} {N : WriterLib L}

/-- The call, if it has created a record. -/
def creatorOf (e : WriterCall N × Except PyError WriterValue) : Option (WriterCall N) :=
  (acceptedOf e).map fun _ => e.1

/-- The native stream that `create_stream` takes from the factory. -/
def streamFor (N : WriterLib L) (name flavor : String) : Option (PyStream L) :=
  if 0 < flavor.length then N.factory.createFlavoredStream name flavor
  else N.factory.createStream name

/-- The native stream that a call has given out. -/
def givenBy : WriterCall N × Except PyError WriterValue → Option (PyStream L)
  | (.createStream name flavor, .ok _) => streamFor N name flavor
  | _ => none

/-- The calls that create records are those with a stream, a timestamp and sources. -/
theorem WriterCall.exists_createRecord {c : WriterCall N} {creation : Creation}
    (h : c.creation? = some creation) :
    ∃ recordType srcs, c = .createRecord creation.stream creation.timestamp srcs recordType ∧
      creation.recordType = recordType.recordType := by
  cases c with
  | createConfigRecord stream timestamp srcs =>
    cases h
    exact ⟨.configuration, srcs, rfl, rfl⟩
  | createDataRecord stream timestamp srcs =>
    cases h
    exact ⟨.data, srcs, rfl, rfl⟩
  | createStateRecord stream timestamp srcs =>
    cases h
    exact ⟨.state, srcs, rfl, rfl⟩
  | _ => cases h

namespace VRSWriter

/-! ## The streams given out -/

variable {w w' : VRSWriter N}

theorem stream_modify (streams : List (VRSStream L)) (k : ℕ) {f : VRSStream L → VRSStream L}
    (hf : ∀ s, (f s).stream = s.stream) :
    (streams.modify k f).map VRSStream.stream = streams.map VRSStream.stream := by
  refine List.ext_getElem? fun i => ?_
  rw [List.getElem?_map, List.getElem?_map, List.getElem?_modify]
  cases streams[i]? with
  | none => rfl
  | some s =>
    show some (VRSStream.stream (if k = i then f s else s)) = some s.stream
    split
    · rw [hf]
    · rfl

/-- What is given to a stream is a record or a flag. -/
theorem streams_createRecord (w : VRSWriter N) (recordType : CreatedType)
    (check : VRSStream L → Except PyError Unit) (stream : ℕ) (timestamp : Timestamp)
    (srcs : List (Source N)) :
    (w.createRecord recordType check stream timestamp srcs).2.streams = w.streams := by
  rcases createRecord_cases w recordType check stream timestamp srcs with
    ⟨e, he⟩ | ⟨s, -, buffers, -, -, hcreated⟩
  · rw [he]
  · rw [hcreated]
    rfl

theorem streams_createConfigRecord (w : VRSWriter N) (stream : ℕ) (timestamp : Timestamp)
    (srcs : List (Source N)) :
    (w.createConfigRecord stream timestamp srcs).2.streams.map VRSStream.stream =
      w.streams.map VRSStream.stream := by
  have hstreams := streams_createRecord w .configuration (fun _ => .ok ()) stream timestamp srcs
  unfold createConfigRecord
  split
  · rename_i hraised
    rw [hraised] at hstreams
    exact congrArg _ hstreams
  · rename_i w₁ hcreated
    rw [hcreated] at hstreams
    rw [← show w₁.streams = w.streams from hstreams]
    exact stream_modify _ _ fun _ => rfl

theorem streams_create (w : VRSWriter N) : w.create.2.streams = w.streams := by
  unfold create
  split
  · rfl
  · simp only
    split <;> rfl

theorem streams_flushRecords (w : VRSWriter N) (timestamp : Timestamp) :
    (w.flushRecords timestamp).2.streams = w.streams := by
  have hcreate := w.streams_create
  unfold flushRecords
  split
  · rfl
  · split
    · rename_i hraised
      rwa [hraised] at hcreate
    · rename_i hcreated
      rw [hcreated] at hcreate
      exact hcreate

/-- **A call gives out a stream, or leaves the streams there are.** -/
theorem streams_call (w : VRSWriter N) (c : WriterCall N) :
    (call w c).2.streams.map VRSStream.stream =
      w.streams.map VRSStream.stream ++ (givenBy (c, (call w c).1)).toList := by
  have hsame : ∀ w' : VRSWriter N, w'.streams = w.streams →
      w'.streams.map VRSStream.stream = w.streams.map VRSStream.stream ++ [] := by
    intro w' hw'
    rw [hw', List.append_nil]
  cases c with
  | createStream name flavor =>
    show (w.createStream name flavor).2.streams.map VRSStream.stream = _ ++
      (givenBy (.createStream name flavor, (w.createStream name flavor).1.map .stream)).toList
    unfold createStream
    simp only
    split
    · exact hsame w rfl
    · rename_i stream hcreated
      have hgiven : streamFor N name flavor = some stream := hcreated
      show _ = _ ++ (streamFor N name flavor).toList
      rw [hgiven, List.map_append]
      rfl
  | createConfigRecord stream timestamp srcs =>
    exact (w.streams_createConfigRecord stream timestamp srcs).trans (List.append_nil _).symm
  | createDataRecord stream timestamp srcs =>
    exact hsame _ (streams_createRecord w .data _ stream timestamp srcs)
  | createStateRecord stream timestamp srcs =>
    exact hsame _ (streams_createRecord w .state _ stream timestamp srcs)
  | flushRecords timestamp => exact hsame _ (w.streams_flushRecords timestamp)
  | setTag tagName tagValue =>
    refine hsame _ ?_
    show (w.setTag tagName tagValue).2.streams = _
    unfold setTag
    split <;> rfl
  | setStreamTag stream tagName tagValue =>
    show (w.setStreamTag stream tagName tagValue).2.streams.map VRSStream.stream = _
    unfold setStreamTag
    split
    · exact hsame w rfl
    · split
      · exact hsame w rfl
      · exact (stream_modify w.streams stream
          (f := fun s => { s with tags := s.tags ++ [(tagName, tagValue)] }) fun _ => rfl).trans
            (List.append_nil _).symm
  | addRecordable recordable =>
    refine hsame _ ?_
    show (w.addRecordable recordable).2.streams = _
    unfold addRecordable
    split <;> rfl

/-! ## One call -/

/-- The record is made of the sources of a call, by the record format of its stream. -/
inductive Made (w : VRSWriter N) : WriterCall N → Record L → Prop
  | intro (recordType : CreatedType) (stream : ℕ) (timestamp : Timestamp) (srcs : List (Source N))
      (s : VRSStream L) (buffers : List BufferInfo) (creationOrder : ℕ)
      (stream_eq : w.streams[stream]? = some s)
      (request_eq : (srcs.filterMap Source.array?).mapM N.request = .ok buffers) :
      Made w (.createRecord stream timestamp srcs recordType)
        ⟨stream, timestamp, recordType.recordType, (s.stream.recordFormat recordType).formatVersion,
          (s.stream.recordFormat recordType).getDataSource (buffers.map BufferInfo.chunk),
          creationOrder⟩

/-- **A call that creates a record makes it of its sources.** -/
theorem exists_made {c : WriterCall N} {value : WriterValue} {creation : Creation}
    (hcreation : c.creation? = some creation) (hcall : call w c = (.ok value, w')) :
    ∃ record, Made w c record ∧ w'.writer.records = w.writer.records.push record := by
  obtain ⟨recordType, srcs, rfl, -⟩ := WriterCall.exists_createRecord hcreation
  cases hs : w.streams[creation.stream]? with
  | none => exact nomatch (call_createRecord_of_none hs).symm.trans hcall
  | some s =>
    cases hchecked : w.checkRecord recordType (recordCheck recordType) creation.stream s
      creation.timestamp srcs with
    | error e => exact nomatch (call_createRecord_of_error hs hchecked).symm.trans hcall
    | ok buffers =>
      obtain ⟨w'', hcall', hwriter⟩ := call_createRecord_of_ok hs hchecked
      cases hcall.symm.trans hcall'
      have hrequest := (checkRecord_eq_ok_iff.1 hchecked).2.2.2.2
      have hmade := Made.intro recordType creation.stream creation.timestamp srcs s buffers
        w.writer.nextCreationOrder hs hrequest
      rw [← s.stream.recordFormat_recordType recordType] at hmade
      exact ⟨_, hmade, by rw [hwriter]; rfl⟩

theorem record_unique {records : BatchQueue (Record L)} {record record' : Record L}
    (h : records.push record = records.push record') : record = record' := by
  have hqueue := congrArg BatchQueue.queue h
  simp only [BatchQueue.queue_push] at hqueue
  exact List.singleton_inj.1 (List.append_inj' hqueue rfl).2

end VRSWriter

end Pyvrs
