import Pyvrs.Writer.VRSWriter

/-!
# What a call to the writer does

Of all the calls, only those that create a record add to the queue, and only a flush takes from it.
`call_effect` says so once for every call; what is said about runs is derived from it. The records
that a run creates are read off its calls and replies (`accepted`).
-/

namespace Pyvrs

open Foundations

/-- A record, as the call that creates it describes it. -/
structure Creation where
  stream : ℕ
  recordType : RecordType
  timestamp : Timestamp
  deriving DecidableEq

/-- The description of a record. -/
def Record.creation {L : VrsLib} (r : Record L) : Creation := ⟨r.stream, r.recordType, r.timestamp⟩

section Calls

variable {L : VrsLib} {N : WriterLib L}

/-- The record that the call creates, unless it raises. -/
def WriterCall.creation? : WriterCall N → Option Creation
  | .createConfigRecord stream timestamp _ => some ⟨stream, .configuration, timestamp⟩
  | .createDataRecord stream timestamp _ => some ⟨stream, .data, timestamp⟩
  | .createStateRecord stream timestamp _ => some ⟨stream, .state, timestamp⟩
  | _ => none

/-- The timestamp given in the call. -/
def WriterCall.timestamp? : WriterCall N → Option Timestamp
  | .createConfigRecord _ timestamp _ => some timestamp
  | .createDataRecord _ timestamp _ => some timestamp
  | .createStateRecord _ timestamp _ => some timestamp
  | .flushRecords timestamp => some timestamp
  | _ => none

/-- The timestamp of the call, if there is one, is a number. -/
def WriterCall.Numeric (c : WriterCall N) : Prop := ∀ t ∈ c.timestamp?, t.IsNum

/-- The timestamp of the call, if there is one, is finite. -/
def WriterCall.Finite (c : WriterCall N) : Prop := ∀ t ∈ c.timestamp?, t.IsFinite

theorem WriterCall.Finite.numeric {c : WriterCall N} (h : c.Finite) : c.Numeric :=
  fun t ht => (h t ht).isNum

theorem WriterCall.timestamp?_of_creation? {c : WriterCall N} {creation : Creation}
    (h : c.creation? = some creation) : c.timestamp? = some creation.timestamp := by
  cases c <;> cases h <;> rfl

/-- The record that a call answered so has created. -/
def acceptedOf (e : WriterCall N × Except PyError WriterValue) : Option Creation :=
  match e.2 with
  | .ok _ => e.1.creation?
  | .error _ => none

/-- The records created by the calls of a run that did not raise, in the order of the calls. -/
def accepted (t : List (WriterCall N × Except PyError WriterValue)) : List Creation :=
  t.filterMap acceptedOf

theorem accepted_concat (t : List (WriterCall N × Except PyError WriterValue))
    (e : WriterCall N × Except PyError WriterValue) :
    accepted (t ++ [e]) = accepted t ++ (acceptedOf e).toList := by
  unfold accepted
  rw [List.filterMap_append]
  cases he : acceptedOf e with
  | none => rw [List.filterMap_cons_none he, List.filterMap_nil, Option.toList_none]
  | some creation => rw [List.filterMap_cons_some he, List.filterMap_nil, Option.toList_some]

end Calls

namespace VRSWriter

variable {L : VrsLib} {N : WriterLib L}

/-- The flag `config_record_created` of a stream. -/
def configRecordCreated (w : VRSWriter N) (stream : ℕ) : Prop :=
  ∃ s ∈ w.streams[stream]?, s.configRecordCreated = true

/-- What a call may do, with the reply it gives: nothing to the records and the last flush, create
one record, or flush. -/
inductive Effect (w : VRSWriter N) :
    WriterCall N → Except PyError WriterValue → VRSWriter N → Prop
  | unchanged {c reply w'} (hnone : acceptedOf (c, reply) = none)
      (hrecords : w'.writer.records = w.writer.records)
      (horder : w'.writer.nextCreationOrder = w.writer.nextCreationOrder)
      (hlast : w'.lastFlushedTimestamp = w.lastFlushedTimestamp)
      (hconfig : ∀ i, w'.configRecordCreated i → w.configRecordCreated i) : Effect w c reply w'
  | recorded {c value w'} (record : Record L) (hcreation : c.creation? = some record.creation)
      (htimestamp : ¬record.timestamp < w.lastFlushedTimestamp)
      (hcount : record.creationOrder = w.writer.nextCreationOrder)
      (hdata : record.recordType = .data → w.configRecordCreated record.stream)
      (hrecords : w'.writer.records = w.writer.records.push record)
      (horder : w'.writer.nextCreationOrder = w.writer.nextCreationOrder + 1)
      (hlast : w'.lastFlushedTimestamp = w.lastFlushedTimestamp)
      (hconfig : ∀ i, w'.configRecordCreated i →
        w.configRecordCreated i ∨ record.recordType = .configuration ∧ record.stream = i) :
      Effect w c (.ok value) w'
  | flushed {value w'} (timestamp : Timestamp) (htimestamp : ¬timestamp < w.lastFlushedTimestamp)
      (hrecords : w'.writer.records = w.writer.records.drain N.sortRecords (Record.due timestamp))
      (horder : w'.writer.nextCreationOrder = w.writer.nextCreationOrder)
      (hlast : w'.lastFlushedTimestamp = timestamp)
      (hconfig : ∀ i, w'.configRecordCreated i → w.configRecordCreated i) :
      Effect w (.flushRecords timestamp) (.ok value) w'

/-! ## The checks -/

theorem assertTimestamp_eq_ok {w : VRSWriter N} {timestamp : Timestamp}
    (h : w.assertTimestamp timestamp = .ok ()) : ¬timestamp < w.lastFlushedTimestamp := by
  unfold assertTimestamp at h
  split at h
  · cases h
  · assumption

theorem checkRecord_eq_ok {w : VRSWriter N} {recordType : CreatedType}
    {check : VRSStream L → Except PyError Unit} {stream : ℕ} {s : VRSStream L}
    {timestamp : Timestamp} {srcs : List (Source N)} {buffers : List BufferInfo}
    (h : w.checkRecord recordType check stream s timestamp srcs = .ok buffers) :
    ¬timestamp < w.lastFlushedTimestamp ∧ check s = .ok () := by
  unfold checkRecord at h
  cases htimestamp : w.assertTimestamp timestamp with
  | error e =>
    rw [htimestamp] at h
    cases h
  | ok =>
    cases hcheck : check s with
    | error e =>
      rw [htimestamp, hcheck] at h
      cases h
    | ok => exact ⟨assertTimestamp_eq_ok htimestamp, rfl⟩

theorem checkConfigRecordCreated_eq_ok {s : VRSStream L}
    (h : checkConfigRecordCreated s = .ok ()) : s.configRecordCreated = true := by
  unfold checkConfigRecordCreated at h
  split at h
  · assumption
  · cases h

/-! ## Each call -/

section Effects

variable {w : VRSWriter N} {stream : ℕ} {timestamp : Timestamp} {srcs : List (Source N)}

/-- A call that creates no record and leaves the records alone. -/
theorem Effect.same {c : WriterCall N} {reply : Except PyError WriterValue}
    (hnone : acceptedOf (c, reply) = none) : Effect w c reply w :=
  .unchanged hnone rfl rfl rfl fun _ => id

/-- The three calls that create records raise, or create a record of a stream there is. -/
theorem createRecord_cases (w : VRSWriter N) (recordType : CreatedType)
    (check : VRSStream L → Except PyError Unit) (stream : ℕ) (timestamp : Timestamp)
    (srcs : List (Source N)) :
    (∃ e, w.createRecord recordType check stream timestamp srcs = (.error e, w)) ∨
      ∃ s ∈ w.streams[stream]?, ∃ buffers, ¬timestamp < w.lastFlushedTimestamp ∧ check s = .ok () ∧
        w.createRecord recordType check stream timestamp srcs = (.ok (),
          w.createNativeRecord stream timestamp (s.stream.recordFormat recordType) buffers) := by
  unfold createRecord
  cases hs : w.streams[stream]? with
  | none => exact .inl ⟨_, rfl⟩
  | some s =>
    dsimp only
    cases hbuffers : w.checkRecord recordType check stream s timestamp srcs with
    | error e => exact .inl ⟨e, rfl⟩
    | ok buffers =>
      obtain ⟨htimestamp, hcheck⟩ := checkRecord_eq_ok hbuffers
      exact .inr ⟨s, rfl, buffers, htimestamp, hcheck, rfl⟩

/-- The record of a stream is recorded. -/
theorem Effect.createNativeRecord {c : WriterCall N} (recordType : CreatedType) (s : VRSStream L)
    {buffers : List BufferInfo} {w' : VRSWriter N}
    (hc : c.creation? = some ⟨stream, recordType.recordType, timestamp⟩)
    (htimestamp : ¬timestamp < w.lastFlushedTimestamp)
    (hdata : recordType = .data → w.configRecordCreated stream)
    (hwriter : w'.writer = (w.createNativeRecord stream timestamp
      (s.stream.recordFormat recordType) buffers).writer)
    (hlast : w'.lastFlushedTimestamp = w.lastFlushedTimestamp)
    (hconfig : ∀ i, w'.configRecordCreated i →
      w.configRecordCreated i ∨ recordType = .configuration ∧ stream = i) :
    Effect w c (.ok .none) w' := by
  have htype := s.stream.recordFormat_recordType recordType
  refine .recorded _ ?_ htimestamp rfl ?_ (by rw [hwriter]; rfl) (by rw [hwriter]; rfl) hlast ?_
  · rw [hc, Record.creation, htype]
  · intro hdata'
    rw [htype] at hdata'
    exact hdata (CreatedType.recordType_injective hdata')
  · intro i hi
    rcases hconfig i hi with hi | ⟨rfl, rfl⟩
    · exact .inl hi
    · exact .inr ⟨htype, rfl⟩

theorem configRecordCreated_setConfigRecordCreated {i : ℕ}
    (h : (w.setConfigRecordCreated stream).configRecordCreated i) :
    w.configRecordCreated i ∨ stream = i := by
  obtain ⟨s, hs, hcreated⟩ := h
  by_cases hi : stream = i
  · exact .inr hi
  · refine .inl ⟨s, ?_, hcreated⟩
    dsimp only [setConfigRecordCreated] at hs
    rwa [List.getElem?_modify_ne _ _ hi] at hs

theorem createConfigRecord_effect :
    Effect w (.createConfigRecord stream timestamp srcs)
      (call w (.createConfigRecord stream timestamp srcs)).1
      (call w (.createConfigRecord stream timestamp srcs)).2 := by
  dsimp only [call, createConfigRecord, answer]
  rcases createRecord_cases w .configuration (fun _ => .ok ()) stream timestamp srcs with
    ⟨e, he⟩ | ⟨s, hs, buffers, htimestamp, -, hcreated⟩
  · rw [he]
    exact .same rfl
  · rw [hcreated]
    refine .createNativeRecord .configuration s rfl htimestamp
      (fun h => nomatch h) rfl rfl fun i hi => ?_
    exact (configRecordCreated_setConfigRecordCreated hi).imp_right fun hi => ⟨rfl, hi⟩

theorem createDataRecord_effect :
    Effect w (.createDataRecord stream timestamp srcs)
      (call w (.createDataRecord stream timestamp srcs)).1
      (call w (.createDataRecord stream timestamp srcs)).2 := by
  dsimp only [call, createDataRecord, answer]
  rcases createRecord_cases w .data checkConfigRecordCreated stream timestamp srcs with
    ⟨e, he⟩ | ⟨s, hs, buffers, htimestamp, hcheck, hcreated⟩
  · rw [he]
    exact .same rfl
  · rw [hcreated]
    exact .createNativeRecord .data s rfl htimestamp
      (fun _ => ⟨s, hs, checkConfigRecordCreated_eq_ok hcheck⟩) rfl rfl fun _ => .inl

theorem createStateRecord_effect :
    Effect w (.createStateRecord stream timestamp srcs)
      (call w (.createStateRecord stream timestamp srcs)).1
      (call w (.createStateRecord stream timestamp srcs)).2 := by
  dsimp only [call, createStateRecord, answer]
  rcases createRecord_cases w .state (fun _ => .ok ()) stream timestamp srcs with
    ⟨e, he⟩ | ⟨s, hs, buffers, htimestamp, -, hcreated⟩
  · rw [he]
    exact .same rfl
  · rw [hcreated]
    exact .createNativeRecord .state s rfl htimestamp (fun h => nomatch h) rfl rfl fun _ => .inl

theorem createStream_effect (name flavor : String) :
    Effect w (.createStream name flavor) (call w (.createStream name flavor)).1
      (call w (.createStream name flavor)).2 := by
  dsimp only [call, createStream, answer]
  split
  · exact .same rfl
  · refine .unchanged rfl rfl rfl rfl fun i hi => ?_
    obtain ⟨s, hs, hcreated⟩ := hi
    dsimp only at hs
    rw [List.getElem?_append] at hs
    split at hs
    · exact ⟨s, hs, hcreated⟩
    · -- the new stream has no configuration record yet
      obtain ⟨-, rfl⟩ : _ ∧ _ = s := by
        simpa [List.getElem?_singleton] using hs
      cases hcreated

theorem flushRecords_effect :
    Effect w (.flushRecords timestamp) (call w (.flushRecords timestamp)).1
      (call w (.flushRecords timestamp)).2 := by
  dsimp only [call, flushRecords, answer]
  cases htimestamp : w.assertTimestamp timestamp with
  | error e => exact .same rfl
  | ok =>
    have hafter := assertTimestamp_eq_ok htimestamp
    dsimp only [create]
    by_cases hcreated : w.fileCreated
    · rw [if_pos hcreated]
      exact .flushed timestamp hafter rfl rfl rfl fun _ => id
    · rw [if_neg hcreated]
      by_cases hstatus : (w.writer.createFileAsync w.filepath).1 = 0
      · rw [if_neg (not_not.2 hstatus)]
        exact .flushed timestamp hafter rfl rfl rfl fun _ => id
      · rw [if_pos hstatus]
        exact .unchanged rfl rfl rfl rfl fun _ => id

theorem setTag_effect (tagName tagValue : String) :
    Effect w (.setTag tagName tagValue) (call w (.setTag tagName tagValue)).1
      (call w (.setTag tagName tagValue)).2 := by
  dsimp only [call, setTag, answer]
  split
  · exact .same rfl
  · exact .unchanged rfl rfl rfl rfl fun _ => id

theorem setStreamTag_effect (tagName tagValue : String) :
    Effect w (.setStreamTag stream tagName tagValue)
      (call w (.setStreamTag stream tagName tagValue)).1
      (call w (.setStreamTag stream tagName tagValue)).2 := by
  dsimp only [call, setStreamTag, answer]
  split
  · exact .same rfl
  · split
    · exact .same rfl
    · refine .unchanged rfl rfl rfl rfl fun i hi => ?_
      obtain ⟨s, hs, hcreated⟩ := hi
      dsimp only at hs
      rw [List.getElem?_modify, Option.mem_def, Option.map_eq_map, Option.map_eq_some_iff] at hs
      obtain ⟨s', hs', rfl⟩ := hs
      refine ⟨s', hs', ?_⟩
      split at hcreated
      · exact hcreated
      · exact hcreated

theorem addRecordable_effect (recordable : N.Recordable) :
    Effect w (.addRecordable recordable) (call w (.addRecordable recordable)).1
      (call w (.addRecordable recordable)).2 := by
  dsimp only [call, addRecordable, answer]
  split
  · exact .same rfl
  · exact .unchanged rfl rfl rfl rfl fun _ => id

end Effects

/-- **What a call does.** -/
theorem call_effect (w : VRSWriter N) (c : WriterCall N) :
    Effect w c (call w c).1 (call w c).2 := by
  cases c with
  | createStream name flavor => exact createStream_effect name flavor
  | createConfigRecord stream timestamp srcs => exact createConfigRecord_effect
  | createDataRecord stream timestamp srcs => exact createDataRecord_effect
  | createStateRecord stream timestamp srcs => exact createStateRecord_effect
  | flushRecords timestamp => exact flushRecords_effect
  | setTag tagName tagValue => exact setTag_effect tagName tagValue
  | setStreamTag stream tagName tagValue => exact setStreamTag_effect tagName tagValue
  | addRecordable recordable => exact addRecordable_effect recordable

end VRSWriter

end Pyvrs
