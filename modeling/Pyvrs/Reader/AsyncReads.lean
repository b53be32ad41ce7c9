import Mathlib.Data.List.Nodup
import Pyvrs.Reader.AsyncVRSReader

/-!
# Asynchronous reads complete

As long as no read raises, every job is in one place, from the queue to the completed futures, and
the places are in the order in which the jobs were queued (`Accounted`); every step of the thread or
of the event loop that moves a job brings it nearer to the end (`pending_step`). A read that raises
ends the process, with its job and those behind it left where they are, so that the jobs of a run
are completed exactly when no read of the run raised (`reads_complete_iff`).
-/

namespace Pyvrs

open Foundations

variable {L : VrsLib}

/-- The job that the thread holds. -/
def AsyncThread.jobs : AsyncThread L → List AsyncReadJob
  | .waiting => []
  | .taken job => [job]
  | .read job _ => [job]

/-- The steps left for the job that the thread holds. -/
def AsyncThread.pending : AsyncThread L → ℕ
  | .waiting => 0
  | .taken _ => 3
  | .read _ _ => 2

/-- The step is one of the thread, or one by which the event loop moves a job on. -/
def AsyncStep.IsInternal : AsyncStep → Prop
  | .await _ => False
  | _ => True

namespace AsyncReading

variable {base : VRSReaderBase L}

/-- The steps left until every job is completed. -/
def pending (s : AsyncReading base) : ℕ :=
  4 * s.workerQueue.length + s.thread.pending + s.callbacks.length

/-- The step is a read that raises. -/
def Raises (s : AsyncReading base) (event : AsyncStep) : Prop :=
  s.terminated = none ∧ event = .readRecord ∧ ∃ job e reader,
    s.thread = .taken job ∧ base.readRecord s.reader (.ofNat job.index) = (.error e, reader)

/-- The outcome of a job: the record of its index, or the exception that a read of it raised. -/
def Outcome (base : VRSReaderBase L) (job : AsyncReadJob) : Except PyError (PyRecord L) → Prop
  | .ok record => ∃ info, base.getRecordInfo (.ofNat job.index) = some info ∧ info.IsOf record
  | .error e => ∃ reader, (base.readRecord reader (.ofNat job.index)).1 = .error e

/-- **The jobs are completed**: in the order in which they were queued, each once and with its own
outcome, all of them once nothing is left to do; and until then the thread or the event loop can
make a step, after finitely many of which nothing is left, however they are interleaved, unless a
read raises. -/
structure Complete (s : AsyncReading base) : Prop where
  in_order : s.completed.map Prod.fst <+: s.awaited
  once : (s.completed.map fun c => c.1.future).Nodup
  outcome : ∀ c ∈ s.completed, Outcome base c.1 c.2
  all : s.pending = 0 → s.completed.map Prod.fst = s.awaited
  progress : s.pending ≠ 0 → ∃ event : AsyncStep, event.IsInternal ∧ (step s event).2 ≠ s
  bounded : ∀ events : List AsyncStep, (∀ event ∈ events, event.IsInternal) →
    step.Along (fun s event => ¬s.Raises event ∧ (step s event).2 ≠ s) s events →
    events.length ≤ s.pending

/-! ## One step -/

section Step

variable (s : AsyncReading base)

theorem runCallback_terminated : s.runCallback.terminated = s.terminated := by
  unfold runCallback
  split <;> rfl

theorem waitForJob_frame : s.waitForJob.awaited = s.awaited ∧
    s.waitForJob.completed = s.completed ∧ s.waitForJob.terminated = s.terminated := by
  unfold waitForJob
  split <;> exact ⟨rfl, rfl, rfl⟩

theorem readRecord_frame :
    s.readRecord.awaited = s.awaited ∧ s.readRecord.completed = s.completed := by
  unfold readRecord
  split
  · split <;> exact ⟨rfl, rfl⟩
  · exact ⟨rfl, rfl⟩

theorem callSoonThreadsafe_frame : s.callSoonThreadsafe.awaited = s.awaited ∧
    s.callSoonThreadsafe.completed = s.completed ∧
    s.callSoonThreadsafe.terminated = s.terminated := by
  unfold callSoonThreadsafe
  split <;> exact ⟨rfl, rfl, rfl⟩

theorem step_of_terminated {e : AsyncReadJob × PyError} (h : s.terminated = some e)
    (event : AsyncStep) : (step s event).2 = s := by
  unfold step
  rw [h]

/-- The process has not ended, and every job awaited is in one place. -/
structure Accounted : Prop where
  terminated_eq : s.terminated = none
  awaited_eq : s.awaited = s.completed.map Prod.fst ++ s.callbacks.map Prod.fst ++ s.thread.jobs ++
    s.workerQueue
  future_eq : s.awaited.map AsyncReadJob.future = List.range s.awaited.length
  completed : ∀ c ∈ s.completed, Outcome base c.1 c.2
  callbacks : ∀ c ∈ s.callbacks, Outcome base c.1 (.ok c.2)
  thread : ∀ job record, s.thread = .read job record → Outcome base job (.ok record)

theorem accounted_new (reader : base.Reader) : (new reader : AsyncReading base).Accounted where
  terminated_eq := rfl
  awaited_eq := rfl
  future_eq := rfl
  completed _ h := absurd h List.not_mem_nil
  callbacks _ h := absurd h List.not_mem_nil
  thread _ _ h := nomatch h

variable {s}

theorem Accounted.await (h : s.Accounted) (index : ℕ) : (s.await index).Accounted where
  terminated_eq := h.terminated_eq
  awaited_eq := by
    show s.awaited ++ [_] = _ ++ (s.workerQueue ++ [_])
    rw [← List.append_assoc]
    exact congrArg (· ++ _) h.awaited_eq
  future_eq := by
    show (s.awaited ++ [_]).map _ = List.range (s.awaited ++ [_]).length
    rw [List.map_append, List.length_append, List.length_singleton, List.range_succ, h.future_eq]
    rfl
  completed := h.completed
  callbacks := h.callbacks
  thread := h.thread

theorem Accounted.runCallback (h : s.Accounted) : s.runCallback.Accounted := by
  unfold AsyncReading.runCallback
  split
  · exact h
  · rename_i job record callbacks hcallbacks
    have hown := h.callbacks
    rw [hcallbacks, List.forall_mem_cons] at hown
    refine ⟨h.terminated_eq, ?_, h.future_eq, ?_, hown.2, h.thread⟩
    · rw [h.awaited_eq, hcallbacks]
      simp
    · intro c hc
      rcases List.mem_append.1 hc with hc | hc
      · exact h.completed c hc
      · rw [List.mem_singleton.1 hc]
        exact hown.1

theorem Accounted.waitForJob (h : s.Accounted) : s.waitForJob.Accounted := by
  unfold AsyncReading.waitForJob
  split
  · rename_i job workerQueue hthread hqueue
    refine ⟨h.terminated_eq, ?_, h.future_eq, h.completed, h.callbacks, nofun⟩
    rw [h.awaited_eq, hthread, hqueue]
    simp [AsyncThread.jobs]
  · exact h

theorem Accounted.readRecord (h : s.Accounted) (hraises : ¬s.Raises .readRecord) :
    s.readRecord.Accounted := by
  unfold AsyncReading.readRecord
  split
  · rename_i job hthread
    split
    · rename_i record reader hread
      refine ⟨h.terminated_eq, ?_, h.future_eq, h.completed, h.callbacks, ?_⟩
      · rw [h.awaited_eq, hthread]
        rfl
      · rintro job' record' ⟨⟩
        exact base.readRecord_eq_ok _ _ _ _ hread
    · rename_i e reader hread
      exact absurd ⟨h.terminated_eq, rfl, job, e, reader, hthread, hread⟩ hraises
  · exact h

theorem Accounted.callSoonThreadsafe (h : s.Accounted) : s.callSoonThreadsafe.Accounted := by
  unfold AsyncReading.callSoonThreadsafe
  split
  · rename_i job record hthread
    refine ⟨h.terminated_eq, ?_, h.future_eq, h.completed, ?_, nofun⟩
    · rw [h.awaited_eq, hthread]
      simp [AsyncThread.jobs]
    · intro c hc
      rcases List.mem_append.1 hc with hc | hc
      · exact h.callbacks c hc
      · rw [List.mem_singleton.1 hc]
        exact h.thread job record hthread
  · exact h

theorem Accounted.step_eq (h : s.Accounted) (event : AsyncStep) :
    (step s event).2 = match event with
      | .await index => s.await index
      | .runCallback => s.runCallback
      | .waitForJob => s.waitForJob
      | .readRecord => s.readRecord
      | .callSoonThreadsafe => s.callSoonThreadsafe := by
  unfold AsyncReading.step
  rw [h.terminated_eq]
  cases event <;> rfl

/-- **A step that does not raise keeps every job accounted for.** -/
theorem Accounted.step (h : s.Accounted) {event : AsyncStep} (hraises : ¬s.Raises event) :
    (AsyncReading.step s event).2.Accounted := by
  rw [h.step_eq]
  cases event with
  | await index => exact h.await index
  | runCallback => exact h.runCallback
  | waitForJob => exact h.waitForJob
  | readRecord => exact h.readRecord hraises
  | callSoonThreadsafe => exact h.callSoonThreadsafe

/-- **A step that moves a job brings it nearer to the end.** -/
theorem Accounted.pending_step (h : s.Accounted) {event : AsyncStep} (hint : event.IsInternal)
    (hraises : ¬s.Raises event) (hmoves : (AsyncReading.step s event).2 ≠ s) :
    (AsyncReading.step s event).2.pending < s.pending := by
  rw [h.step_eq] at hmoves ⊢
  cases event with
  | await index => exact hint.elim
  | runCallback =>
    simp only [AsyncReading.runCallback] at hmoves ⊢
    split
    · rename_i hnil
      simp [hnil] at hmoves
    · rename_i job record callbacks hcallbacks
      simp only [pending, hcallbacks, List.length_cons]
      omega
  | waitForJob =>
    simp only [AsyncReading.waitForJob] at hmoves ⊢
    split
    · rename_i job workerQueue hthread hqueue
      simp only [pending, hthread, hqueue, AsyncThread.pending, List.length_cons]
      omega
    · simp at hmoves
  | readRecord =>
    simp only [AsyncReading.readRecord] at hmoves ⊢
    split
    · rename_i job hthread
      split
      · simp only [pending, hthread, AsyncThread.pending]
        omega
      · rename_i e reader hread
        exact absurd ⟨h.terminated_eq, rfl, job, e, reader, hthread, hread⟩ hraises
    · simp at hmoves
  | callSoonThreadsafe =>
    simp only [AsyncReading.callSoonThreadsafe] at hmoves ⊢
    split
    · rename_i job record hthread
      simp only [pending, hthread, AsyncThread.pending, List.length_append, List.length_singleton]
      omega
    · simp at hmoves

/-- **Until every job is completed, the thread or the event loop can make a step.** -/
theorem Accounted.progress (h : s.Accounted) (hpending : s.pending ≠ 0) :
    ∃ event : AsyncStep, event.IsInternal ∧ (AsyncReading.step s event).2 ≠ s := by
  simp only [h.step_eq]
  cases hthread : s.thread with
  | taken job =>
    refine ⟨.readRecord, trivial, fun hsame => ?_⟩
    cases hread : base.readRecord s.reader (.ofNat job.index) with
    | mk result reader =>
      cases result with
      | ok record =>
        have := congrArg AsyncReading.thread hsame
        simp [AsyncReading.readRecord, hthread, hread] at this
      | error e =>
        have := congrArg AsyncReading.terminated hsame
        simp [AsyncReading.readRecord, hthread, hread, h.terminated_eq] at this
  | read job record =>
    refine ⟨.callSoonThreadsafe, trivial, fun hsame => ?_⟩
    have := congrArg AsyncReading.thread hsame
    simp [AsyncReading.callSoonThreadsafe, hthread] at this
  | waiting =>
    cases hqueue : s.workerQueue with
    | cons job workerQueue =>
      refine ⟨.waitForJob, trivial, fun hsame => ?_⟩
      have := congrArg AsyncReading.thread hsame
      simp [AsyncReading.waitForJob, hthread, hqueue] at this
    | nil =>
      cases hcallbacks : s.callbacks with
      | cons callback callbacks =>
        refine ⟨.runCallback, trivial, fun hsame => ?_⟩
        have := congrArg AsyncReading.completed hsame
        simp [AsyncReading.runCallback, hcallbacks] at this
      | nil => simp [pending, hthread, hqueue, hcallbacks, AsyncThread.pending] at hpending

/-- **After finitely many steps that move a job, nothing is left to do.** -/
theorem Accounted.bounded {events : List AsyncStep} (h : s.Accounted)
    (hint : ∀ event ∈ events, event.IsInternal)
    (halong : AsyncReading.step.Along
      (fun s event => ¬s.Raises event ∧ (AsyncReading.step s event).2 ≠ s) s events) :
    events.length ≤ s.pending := by
  induction events generalizing s with
  | nil => exact Nat.zero_le _
  | cons event events ih =>
    rw [List.forall_mem_cons] at hint
    obtain ⟨⟨hraises, hmoves⟩, hrest⟩ := halong
    have hnext := ih (h.step hraises) hint.2 hrest
    have hless := h.pending_step hint.1 hraises hmoves
    rw [List.length_cons]
    omega

/-- **Jobs that are accounted for are completed.** -/
theorem Accounted.complete (h : s.Accounted) : s.Complete := by
  have hinitial : s.completed.map Prod.fst <+: s.awaited := by
    rw [h.awaited_eq, List.append_assoc, List.append_assoc]
    exact List.prefix_append _ _
  refine ⟨hinitial, ?_, h.completed, ?_, h.progress, fun events => h.bounded⟩
  · -- The futures are numbered in the order of their creation.
    have hfutures := hinitial.map AsyncReadJob.future
    rw [h.future_eq, List.map_map] at hfutures
    exact hfutures.sublist.nodup List.nodup_range
  · intro hpending
    have hqueue : s.workerQueue = [] := by
      rw [← List.length_eq_zero_iff]
      unfold pending at hpending
      omega
    have hcallbacks : s.callbacks = [] := by
      rw [← List.length_eq_zero_iff]
      unfold pending at hpending
      omega
    have hthread : s.thread.jobs = [] := by
      cases hthread : s.thread with
      | waiting => rfl
      | taken job => simp [pending, hthread, AsyncThread.pending] at hpending
      | read job record => simp [pending, hthread, AsyncThread.pending] at hpending
    rw [h.awaited_eq, hqueue, hcallbacks, hthread]
    simp

end Step

/-! ## A run -/

section Run

variable {s : AsyncReading base}

theorem exec_of_terminated {e : AsyncReadJob × PyError} (h : s.terminated = some e)
    (events : List AsyncStep) : step.exec s events = s := by
  induction events with
  | nil => rfl
  | cons event events ih => rw [Machine.exec_cons, step_of_terminated s h, ih]

/-- **A read that raises ends the process, with its job in the thread's hands.** -/
theorem Raises.step {event : AsyncStep} (h : s.Raises event) :
    ∃ e job, (step s event).2.terminated = some e ∧ (step s event).2.thread = .taken job := by
  obtain ⟨hterminated, rfl, job, e, reader, hthread, hread⟩ := h
  refine ⟨(job, e), job, ?_, ?_⟩ <;>
    simp [AsyncReading.step, hterminated, AsyncReading.readRecord, hthread, hread]

theorem raises_iff (s : AsyncReading base) (event : AsyncStep) :
    s.Raises event ↔ s.terminated = none ∧ (step s event).2.terminated.isSome := by
  constructor
  · intro h
    obtain ⟨e, job, hterminated, -⟩ := h.step
    exact ⟨h.1, by rw [hterminated]; rfl⟩
  · rintro ⟨hnone, hsome⟩
    simp only [AsyncReading.step, hnone] at hsome
    -- Only a read ends the process.
    have hnot {t : AsyncReading base} (hsome : t.terminated.isSome)
        (hsame : t.terminated = s.terminated) : False := by
      rw [hsame, hnone] at hsome
      cases hsome
    cases event with
    | await index => exact (hnot hsome rfl).elim
    | runCallback => exact (hnot hsome s.runCallback_terminated).elim
    | waitForJob => exact (hnot hsome s.waitForJob_frame.2.2).elim
    | callSoonThreadsafe => exact (hnot hsome s.callSoonThreadsafe_frame.2.2).elim
    | readRecord =>
      simp only [AsyncReading.readRecord] at hsome
      split at hsome
      · rename_i job hthread
        split at hsome
        · exact (hnot hsome rfl).elim
        · rename_i e reader hread
          exact ⟨hnone, rfl, job, e, reader, hthread, hread⟩
      · exact (hnot hsome rfl).elim

instance (s : AsyncReading base) (event : AsyncStep) : Decidable (s.Raises event) :=
  decidable_of_iff _ (raises_iff s event).symm

/-- Nothing is completed any more once the process has ended. -/
theorem not_complete_of_terminated {e : AsyncReadJob × PyError} {job : AsyncReadJob}
    (h : s.terminated = some e) (hthread : s.thread = .taken job) : ¬s.Complete := by
  intro hcomplete
  have hpending : s.pending ≠ 0 := by
    simp [pending, hthread, AsyncThread.pending]
  obtain ⟨event, -, hmoves⟩ := hcomplete.progress hpending
  exact hmoves (step_of_terminated s h event)

theorem Accounted.complete_exec_iff (h : s.Accounted) (events : List AsyncStep) :
    (AsyncReading.step.exec s events).Complete ↔
      AsyncReading.step.Along (fun s event => ¬s.Raises event) s events := by
  induction events generalizing s with
  | nil => exact iff_of_true h.complete trivial
  | cons event events ih =>
    rw [Machine.exec_cons, Machine.along_cons]
    by_cases hraises : s.Raises event
    · obtain ⟨e, job, hterminated, hthread⟩ := hraises.step
      rw [exec_of_terminated hterminated]
      exact iff_of_false (not_complete_of_terminated hterminated hthread)
        fun halong => halong.1 hraises
    · rw [ih (h.step hraises)]
      exact (and_iff_right hraises).symm

/-- **Asynchronous reads complete as long as none raises**: in every interleaving of awaits with the
steps of the thread and of the event loop, the jobs are completed exactly when no read made in it
raised. -/
theorem reads_complete_iff (reader : base.Reader) (events : List AsyncStep) :
    (step.exec (new reader) events).Complete ↔
      step.Along (fun s event => ¬s.Raises event) (new reader) events :=
  (accounted_new reader).complete_exec_iff events

/-- The native layer fails to read any record. -/
def failingRead : Native .bare := fun _ _ => ⟨1, [], 1⟩

/-- The native layer reads records without contents. -/
def emptyRead : Native .bare := fun _ _ => ⟨0, [], 0⟩

/-- The steps by which the record awaited first is read, and the result of its future set. -/
def readSteps : List AsyncStep := [.waitForJob, .readRecord, .callSoonThreadsafe, .runCallback]

/-- Two records are awaited, and the read of the first one raises: neither future is ever given a
result. -/
theorem not_complete_of_failingRead :
    ¬∃ events : List AsyncStep,
      (step.exec (new (.new true) : AsyncReading (OssVRSReader.base reconfiguredFile failingRead))
        ([.await 1, .await 3, .waitForJob, .readRecord] ++ events)).Complete := by
  rintro ⟨events, hcomplete⟩
  rw [Machine.exec_append, exec_of_terminated (e := (⟨0, 1⟩, _)) rfl] at hcomplete
  exact not_complete_of_terminated rfl rfl hcomplete

end Run

end AsyncReading

end Pyvrs
