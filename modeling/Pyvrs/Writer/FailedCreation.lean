import Pyvrs.Writer.Runs

/-!
# A file that cannot be created

The first flush of a writer creates the file: `_create` sets `file_created` and only then asks the
native writer, whose status may be an error. From then on the writer takes the file for created,
though it is not. Until a native creation fails, in any run, the flag tells the truth and everything
that it guards is right; the flush whose creation fails is wrong about it
(`created_iff_no_failure`).
-/

namespace Pyvrs

open Foundations Machine

variable {L : VrsLib} {N : WriterLib L}

/-- The calls to a writer and its streams, and to `close`. -/
inductive LifeCall (N : WriterLib L)
  | call (c : WriterCall N)
  | close

namespace VRSWriter

/-- One call of a writer's life. -/
def lifeCall : Machine (VRSWriter N) (LifeCall N) (Except PyError WriterValue)
  | w, .call c => call w c
  | w, .close =>
    let (status, w) := w.close
    (.ok (.status status), w)

variable (w : VRSWriter N)

/-- A native creation succeeded. -/
def Created : Prop := 0 ∈ w.writer.createStatuses

/-- The status of a native creation, when it is the next one. -/
def nextCreateStatus : ℤ := N.createFileAsync w.writer.createStatuses w.filepath

/-- The call is a flush, in time, that goes on to create the file and fails. -/
def FailsToCreate (c : LifeCall N) : Prop :=
  ∃ timestamp, c = .call (.flushRecords timestamp) ∧ w.assertTimestamp timestamp = .ok () ∧
    w.fileCreated = false ∧ w.nextCreateStatus ≠ 0

/-- **The writer knows whether there is a file**: a flush that raises changes neither the flag nor
the last flush, the flag is set only after a native creation succeeded, until which a flush tries
again, tags and recordables can be added and no records are written. -/
structure KnowsFile (c : LifeCall N) : Prop where
  raised : ∀ timestamp e, c = .call (.flushRecords timestamp) → (lifeCall w c).1 = .error e →
    (lifeCall w c).2.fileCreated = w.fileCreated ∧
      (lifeCall w c).2.lastFlushedTimestamp = w.lastFlushedTimestamp
  created : (lifeCall w c).2.fileCreated = true → (lifeCall w c).2.Created
  retried : ∀ timestamp, c = .call (.flushRecords timestamp) →
    w.assertTimestamp timestamp = .ok () → ¬w.Created →
      (lifeCall w c).2.writer.createStatuses = w.writer.createStatuses ++ [w.nextCreateStatus]
  tagged : ∀ tagName tagValue, c = .call (.setTag tagName tagValue) → ¬w.Created →
    (lifeCall w c).1 = .ok .none
  streamTagged : ∀ stream tagName tagValue, c = .call (.setStreamTag stream tagName tagValue) →
    stream < w.streams.length → ¬w.Created → (lifeCall w c).1 = .ok .none
  added : ∀ recordable, c = .call (.addRecordable recordable) → ¬w.Created →
    (lifeCall w c).1 = .ok .none
  written : ∀ timestamp value, c = .call (.flushRecords timestamp) →
    (lifeCall w c).1 = .ok value → (lifeCall w c).2.Created

/-! ## One call -/

section Call

variable {w}

/-- A flush comes too late, writes to a file, or creates it first. -/
theorem call_flushRecords_cases (w : VRSWriter N) (timestamp : Timestamp) :
    (∃ e, w.assertTimestamp timestamp = .error e ∧
      call w (.flushRecords timestamp) = (.error e, w)) ∨
    w.assertTimestamp timestamp = .ok () ∧
      ((w.fileCreated = true ∧ ∃ value w', call w (.flushRecords timestamp) = (.ok value, w') ∧
          w'.fileCreated = true ∧ w'.writer.createStatuses = w.writer.createStatuses) ∨
        (w.fileCreated = false ∧ w.nextCreateStatus = 0 ∧
          ∃ value w', call w (.flushRecords timestamp) = (.ok value, w') ∧
            w'.writer.createStatuses = w.writer.createStatuses ++ [w.nextCreateStatus]) ∨
        (w.FailsToCreate (.call (.flushRecords timestamp)) ∧
          ∃ e w', call w (.flushRecords timestamp) = (.error e, w') ∧ w'.fileCreated = true)) := by
  dsimp only [call, flushRecords, answer]
  cases htimestamp : w.assertTimestamp timestamp with
  | error e => exact .inl ⟨e, rfl, rfl⟩
  | ok =>
    refine .inr ⟨rfl, ?_⟩
    dsimp only [create]
    cases hcreated : w.fileCreated with
    | true => exact .inl ⟨rfl, _, _, rfl, hcreated, rfl⟩
    | false =>
      by_cases hstatus : w.nextCreateStatus = 0
      · refine .inr (.inl ⟨rfl, hstatus, ?_⟩)
        have hstatus' : ¬(w.writer.createFileAsync w.filepath).1 ≠ 0 := not_not.2 hstatus
        simp only [Bool.false_eq_true, if_false, if_neg hstatus']
        exact ⟨_, _, rfl, rfl⟩
      · refine .inr (.inr ⟨⟨timestamp, rfl, htimestamp, hcreated, hstatus⟩, ?_⟩)
        have hstatus' : (w.writer.createFileAsync w.filepath).1 ≠ 0 := hstatus
        simp only [Bool.false_eq_true, if_false, if_pos hstatus']
        exact ⟨_, _, rfl, rfl⟩

/-- Records are created without a look at the file. -/
theorem createRecord_frame (w : VRSWriter N) (recordType : CreatedType)
    (check : VRSStream L → Except PyError Unit) (stream : ℕ) (timestamp : Timestamp)
    (srcs : List (Source N)) :
    (w.createRecord recordType check stream timestamp srcs).2.fileCreated = w.fileCreated ∧
      (w.createRecord recordType check stream timestamp srcs).2.writer.createStatuses =
        w.writer.createStatuses := by
  rcases createRecord_cases w recordType check stream timestamp srcs with
    ⟨e, he⟩ | ⟨s, -, buffers, -, -, hcreated⟩
  · rw [he]
    exact ⟨rfl, rfl⟩
  · rw [hcreated]
    exact ⟨rfl, rfl⟩

/-- **Only a flush creates the file.** -/
theorem lifeCall_frame {c : LifeCall N} (hc : ∀ timestamp, c ≠ .call (.flushRecords timestamp)) :
    (lifeCall w c).2.fileCreated = w.fileCreated ∧
      (lifeCall w c).2.writer.createStatuses = w.writer.createStatuses := by
  cases c with
  | close => exact ⟨rfl, rfl⟩
  | call c =>
    cases c with
    | flushRecords timestamp => exact absurd rfl (hc timestamp)
    | createStream name flavor =>
      simp only [lifeCall, call, answer, createStream]
      split <;> exact ⟨rfl, rfl⟩
    | createConfigRecord stream timestamp srcs =>
      have hframe := createRecord_frame w .configuration (fun _ => .ok ()) stream timestamp srcs
      simp only [lifeCall, call, answer, createConfigRecord]
      split
      · rename_i heq
        rwa [heq] at hframe
      · rename_i heq
        rwa [heq] at hframe
    | createDataRecord stream timestamp srcs => exact createRecord_frame w _ _ _ _ _
    | createStateRecord stream timestamp srcs => exact createRecord_frame w _ _ _ _ _
    | setTag tagName tagValue =>
      simp only [lifeCall, call, answer, setTag]
      split <;> exact ⟨rfl, rfl⟩
    | setStreamTag stream tagName tagValue =>
      simp only [lifeCall, call, answer, setStreamTag]
      split
      · exact ⟨rfl, rfl⟩
      · split <;> exact ⟨rfl, rfl⟩
    | addRecordable recordable =>
      simp only [lifeCall, call, answer, addRecordable]
      split <;> exact ⟨rfl, rfl⟩

/-- What is guarded by the flag is let through while it is not set. -/
theorem guarded_of_not_fileCreated (h : w.fileCreated = false) :
    (∀ tagName tagValue, (call w (.setTag tagName tagValue)).1 = .ok .none) ∧
      (∀ stream tagName tagValue, stream < w.streams.length →
        (call w (.setStreamTag stream tagName tagValue)).1 = .ok .none) ∧
      ∀ recordable, (call w (.addRecordable recordable)).1 = .ok .none := by
  refine ⟨fun tagName tagValue => ?_, fun stream tagName tagValue hlt => ?_, fun recordable => ?_⟩
  · simp [call, answer, setTag, h]
    rfl
  · simp [call, answer, setStreamTag, h, not_le.2 hlt]
    rfl
  · simp [call, answer, addRecordable, h]
    rfl

/-- Where the flag tells the truth, a call that does not fail to create the file keeps it so. -/
theorem created_of_not_fails {c : LifeCall N} (h : w.fileCreated = true → w.Created)
    (hc : ¬w.FailsToCreate c) :
    (lifeCall w c).2.fileCreated = true → (lifeCall w c).2.Created := by
  by_cases hflush : ∃ timestamp, c = .call (.flushRecords timestamp)
  · obtain ⟨timestamp, rfl⟩ := hflush
    unfold Created
    simp only [lifeCall]
    obtain ⟨e, -, hcall⟩ | ⟨-, ⟨hcreated, value, w', hcall, -, hstatuses⟩ |
      ⟨-, hstatus, value, w', hcall, hstatuses⟩ | ⟨hfails, -⟩⟩ :=
      call_flushRecords_cases w timestamp
    · rw [hcall]
      exact h
    · rw [hcall, hstatuses]
      exact fun _ => h hcreated
    · rw [hcall, hstatuses, hstatus]
      exact fun _ => List.mem_append_right _ List.mem_cons_self
    · exact absurd hfails hc
  · obtain ⟨hcreated, hstatuses⟩ := lifeCall_frame (w := w) (not_exists.1 hflush)
    unfold Created
    rw [hcreated, hstatuses]
    exact h

/-- A flush that fails to create the file sets the flag all the same. -/
theorem FailsToCreate.not_knowsFile {c : LifeCall N} (hfails : w.FailsToCreate c) :
    ¬w.KnowsFile c := by
  obtain ⟨timestamp, rfl, htimestamp, hcreated, hstatus⟩ := hfails
  intro hknows
  obtain ⟨e, he, -⟩ | ⟨-, ⟨hcreated', -⟩ | ⟨-, hstatus', -⟩ |
    ⟨-, e, w', hcall, hcreated'⟩⟩ := call_flushRecords_cases w timestamp
  · exact nomatch he.symm.trans htimestamp
  · exact nomatch hcreated.symm.trans hcreated'
  · exact hstatus hstatus'
  · have hraised := (hknows.raised timestamp e rfl (congrArg Prod.fst hcall)).1
    have hafter : (lifeCall w (.call (.flushRecords timestamp))).2.fileCreated = true :=
      (congrArg (fun r => r.2.fileCreated) hcall).trans hcreated'
    exact nomatch hafter.symm.trans (hraised.trans hcreated)

/-- Any other call does right. -/
theorem knowsFile_of_not_fails {c : LifeCall N} (h : w.fileCreated = true → w.Created)
    (hc : ¬w.FailsToCreate c) : w.KnowsFile c := by
  have hkeeps := created_of_not_fails h hc
  have hnot : ¬w.Created → w.fileCreated = false := fun hcreated =>
    Bool.eq_false_iff.2 fun hset => hcreated (h hset)
  refine ⟨?_, hkeeps, ?_, ?_, ?_, ?_, ?_⟩
  · rintro timestamp e rfl herror
    simp only [lifeCall] at herror ⊢
    obtain ⟨e', -, hcall⟩ | ⟨-, ⟨-, value, w', hcall, -⟩ | ⟨-, -, value, w', hcall, -⟩ |
      ⟨hfails, -⟩⟩ := call_flushRecords_cases w timestamp
    · rw [hcall]
      exact ⟨rfl, rfl⟩
    · exact nomatch (congrArg Prod.fst hcall).symm.trans herror
    · exact nomatch (congrArg Prod.fst hcall).symm.trans herror
    · exact absurd hfails hc
  · rintro timestamp rfl htimestamp hcreated
    simp only [lifeCall]
    obtain ⟨e, he, -⟩ | ⟨-, ⟨hset, -⟩ | ⟨-, -, value, w', hcall, hstatuses⟩ | ⟨hfails, -⟩⟩ :=
      call_flushRecords_cases w timestamp
    · exact nomatch he.symm.trans htimestamp
    · exact absurd (h hset) hcreated
    · rw [hcall, hstatuses]
    · exact absurd hfails hc
  · rintro tagName tagValue rfl hcreated
    exact (guarded_of_not_fileCreated (hnot hcreated)).1 tagName tagValue
  · rintro stream tagName tagValue rfl hlt hcreated
    exact (guarded_of_not_fileCreated (hnot hcreated)).2.1 stream tagName tagValue hlt
  · rintro recordable rfl hcreated
    exact (guarded_of_not_fileCreated (hnot hcreated)).2.2 recordable
  · rintro timestamp value rfl hvalue
    simp only [lifeCall] at hvalue hkeeps ⊢
    obtain ⟨e, -, hcall⟩ | ⟨-, ⟨-, value', w', hcall, hset, -⟩ |
      ⟨-, hstatus, value', w', hcall, hstatuses⟩ | ⟨hfails, -⟩⟩ :=
      call_flushRecords_cases w timestamp
    · exact nomatch (congrArg Prod.fst hcall).symm.trans hvalue
    · exact hkeeps (hcall ▸ hset)
    · unfold Created
      rw [hcall, hstatuses, hstatus]
      exact List.mem_append_right _ List.mem_cons_self
    · exact absurd hfails hc

/-- **The step lemma**: where the flag tells the truth, only a call that fails to create the file
does wrong. -/
theorem knowsFile_iff {c : LifeCall N} (h : w.fileCreated = true → w.Created) :
    w.KnowsFile c ↔ ¬w.FailsToCreate c :=
  ⟨fun hknows hfails => hfails.not_knowsFile hknows, knowsFile_of_not_fails h⟩

end Call

/-- **A run in which the writer knows whether there is a file** is one in which no flush fails to
create it. -/
theorem created_iff_no_failure (filepath : String) (calls : List (LifeCall N)) :
    Along lifeCall KnowsFile (new N filepath) calls ↔
      Along lifeCall (fun w c => ¬w.FailsToCreate c) (new N filepath) calls :=
  along_iff_of_invariant (I := fun w => w.fileCreated = true → w.Created)
    (fun _ _ h => knowsFile_iff h) (fun _ _ => created_of_not_fails) calls nofun

/-- A library where a file cannot be created at first. -/
def lateDirectory : WriterLib .bare :=
  { WriterLib.bare with createFileAsync := fun statuses _ => if statuses = [] then 1 else 0 }

/-- **After a flush that could not create the file**, the next one does not try again, but writes,
and tags are refused. -/
theorem not_knowsFile_lateDirectory :
    ¬(new lateDirectory "late.vrs").KnowsFile (.call (.flushRecords (.ofRat 1))) ∧
      replies lifeCall (new lateDirectory "late.vrs")
        [.call (.flushRecords (.ofRat 1)), .call (.flushRecords (.ofRat 1)),
          .call (.setTag "key" "value")] =
        [.error (.exception "Failed to create file at late.vrs"), .ok (.status 0),
          .error (.exception "Tags should be set before file is created.")] ∧
      (exec lifeCall (new lateDirectory "late.vrs")
        [.call (.flushRecords (.ofRat 1)),
          .call (.flushRecords (.ofRat 1))]).writer.createStatuses = [1] := by
  refine ⟨fun h => ?_, by decide +kernel, by decide +kernel⟩
  have hraised := (h.raised _ (.exception "Failed to create file at late.vrs") rfl
    (by decide +kernel)).1
  exact absurd hraised (by decide +kernel)

end VRSWriter

end Pyvrs
