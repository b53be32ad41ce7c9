import Pyvrs.Reader.AsyncReads

/-!
# Cancelled reads

A task that awaits a record can be cancelled, by a timeout for instance, and then the future that it
waits for is cancelled. `AsyncReadJob::performJob` never looks at the state of its future, and the
callback that it schedules calls `set_result` anyway, which raises `InvalidStateError` in the event
loop on a future that is not pending. As long as no pending future is cancelled, every future is
pending when its callback runs; and once every callback has run, that is the only way to have raised
nothing (`setsPending_iff`). Other futures are given their results in either case.
-/

namespace Pyvrs

open Foundations

variable {L : VrsLib}

/-- A future of the event loop. -/
inductive FutureState (L : VrsLib)
  | pending
  | cancelled
  | finished (result : PyRecord L)

/-- `not future.done()`. -/
def FutureState.isPending : FutureState L → Bool
  | pending => true
  | _ => false

/-- An `AsyncReading` whose futures can be cancelled. The calls of `set_result` are those that
`reading` has completed. -/
structure CancellableReading {L : VrsLib} (base : VRSReaderBase L) where
  reading : AsyncReading base
  /-- The futures, in the order in which they were created. -/
  futures : List (FutureState L)
  /-- The jobs whose callback raised `InvalidStateError`. -/
  invalidStateErrors : List AsyncReadJob

/-- The steps of the reading, and cancellations. -/
inductive CancellableStep
  | cancel (future : ℕ)
  | reading (event : AsyncStep)
  deriving DecidableEq, Repr

/-- The step, unless it is a cancellation. -/
def CancellableStep.reading? : CancellableStep → Option AsyncStep
  | cancel _ => none
  | reading event => some event

namespace CancellableReading

variable {base : VRSReaderBase L}

/-- A reader before anything is awaited. -/
def new (reader : base.Reader) : CancellableReading base := ⟨.new reader, [], []⟩

/-- `future.cancel()`, of which a future that is done takes no notice. -/
def cancel (s : CancellableReading base) (future : ℕ) : CancellableReading base :=
  match s.futures[future]? with
  | some .pending => { s with futures := s.futures.set future .cancelled }
  | _ => s

/-- `future.set_result(record)`. -/
def setResult (s : CancellableReading base) (job : AsyncReadJob) (record : PyRecord L) :
    CancellableReading base :=
  match s.futures[job.future]? with
  | some .pending => { s with futures := s.futures.set job.future (.finished record) }
  | _ => { s with invalidStateErrors := s.invalidStateErrors ++ [job] }

/-- What becomes of the futures in a step of the reading. -/
def onEvent (s : CancellableReading base) : AsyncStep → CancellableReading base
  | .await _ => { s with futures := s.futures ++ [.pending] }
  | .runCallback =>
    match s.reading.callbacks with
    | [] => s
    | (job, record) :: _ => s.setResult job record
  | _ => s

/-- One step; a process that was terminated makes none. -/
def step : Machine (CancellableReading base) CancellableStep Unit := fun s event =>
  ((), match s.reading.terminated, event with
    | some _, _ => s
    | none, .cancel future => s.cancel future
    | none, .reading event =>
      { s.onEvent event with reading := (AsyncReading.step s.reading event).2 })

/-- The read of the step, if it makes one, succeeds. -/
def ReadSucceeds (s : CancellableReading base) : CancellableStep → Prop
  | .cancel _ => True
  | .reading event => ¬s.reading.Raises event

/-- The step cancels no pending future. -/
def CancelsNone (s : CancellableReading base) : CancellableStep → Prop
  | .cancel future => ∀ state ∈ s.futures[future]?, state.isPending = false
  | .reading _ => True

/-- A callback that runs in the step sets the result of a pending future. -/
def SetsPending (s : CancellableReading base) : CancellableStep → Prop
  | .reading .runCallback => ∀ callback ∈ s.reading.callbacks.head?,
    s.futures[callback.1.future]? = some .pending
  | _ => True

/-- A future that is not cancelled has the result that `set_result` was called with, if it was. -/
def GivesResults (s : CancellableReading base) : Prop :=
  ∀ c ∈ s.reading.completed, s.futures[c.1.future]? = some .cancelled ∨
    ∃ record, c.2 = .ok record ∧ s.futures[c.1.future]? = some (.finished record)

/-! ## One step -/

section Step

variable {s : CancellableReading base}

/-- Every job is accounted for, and each future is as its job. -/
structure Coherent (s : CancellableReading base) : Prop where
  accounted : s.reading.Accounted
  length_eq : s.futures.length = s.reading.awaited.length
  finished : ∀ k record, s.futures[k]? = some (.finished record) →
    k ∈ s.reading.completed.map fun c => c.1.future
  gives : s.GivesResults

theorem coherent_new (reader : base.Reader) : (new reader : CancellableReading base).Coherent where
  accounted := AsyncReading.accounted_new reader
  length_eq := rfl
  finished _ _ h := nomatch h
  gives _ h := absurd h List.not_mem_nil

/-- The job whose callback runs next is one of those awaited, and was not completed. -/
theorem Coherent.callback (h : s.Coherent) {job : AsyncReadJob} {record : PyRecord L}
    {callbacks : List (AsyncReadJob × PyRecord L)}
    (hcallbacks : s.reading.callbacks = (job, record) :: callbacks) :
    job.future < s.futures.length ∧
      job.future ∉ s.reading.completed.map fun c => c.1.future := by
  have hjobs := h.accounted.future_eq
  have hawaited := h.accounted.awaited_eq
  rw [hcallbacks] at hawaited
  constructor
  · have hmem : job.future ∈ s.reading.awaited.map AsyncReadJob.future := by
      rw [hawaited]
      simp
    rw [hjobs, List.mem_range] at hmem
    rwa [h.length_eq]
  · have hnodup : (s.reading.awaited.map AsyncReadJob.future).Nodup := by
      rw [hjobs]
      exact List.nodup_range
    rw [hawaited, List.append_assoc, List.append_assoc, List.map_append, List.map_map] at hnodup
    intro hcompleted
    exact (List.disjoint_of_nodup_append hnodup) hcompleted (by simp)

/-- The future of that job is pending or cancelled. -/
theorem Coherent.future_callback (h : s.Coherent) {job : AsyncReadJob} {record : PyRecord L}
    {callbacks : List (AsyncReadJob × PyRecord L)}
    (hcallbacks : s.reading.callbacks = (job, record) :: callbacks) :
    s.futures[job.future]? = some .pending ∨ s.futures[job.future]? = some .cancelled := by
  obtain ⟨hlt, hcompleted⟩ := h.callback hcallbacks
  cases hfuture : s.futures[job.future]? with
  | none => exact absurd (List.getElem?_eq_none_iff.1 hfuture) (not_le.2 hlt)
  | some state =>
    cases state with
    | pending => exact .inl rfl
    | cancelled => exact .inr rfl
    | finished record => exact absurd (h.finished _ _ hfuture) hcompleted

theorem Coherent.cancel (h : s.Coherent) (k : ℕ) : (s.cancel k).Coherent := by
  unfold CancellableReading.cancel
  split
  · refine ⟨h.accounted, List.length_set.trans h.length_eq, ?_, ?_⟩
    · intro k' record hfinished
      rw [List.getElem?_set] at hfinished
      split at hfinished
      · split at hfinished <;> cases hfinished
      · exact h.finished k' record hfinished
    · intro c hc
      show (s.futures.set k .cancelled)[c.1.future]? = _ ∨ _
      rw [List.getElem?_set]
      split
      · rename_i hfuture hk
        rw [hk] at hfuture
        rcases h.gives c hc with hc | ⟨record, -, hc⟩ <;> rw [hfuture] at hc <;> cases hc
      · exact h.gives c hc
  · exact h

/-- A step of the reading that neither creates futures nor runs a callback. -/
theorem Coherent.of_eq (h : s.Coherent) {reading : AsyncReading base}
    (haccounted : reading.Accounted) (hawaited : reading.awaited = s.reading.awaited)
    (hcompleted : reading.completed = s.reading.completed) :
    Coherent { s with reading } where
  accounted := haccounted
  length_eq := h.length_eq.trans (congrArg List.length hawaited.symm)
  finished k record hfinished := by
    show k ∈ reading.completed.map _
    rw [hcompleted]
    exact h.finished k record hfinished
  gives c hc := h.gives c (hcompleted ▸ hc)

theorem Coherent.await (h : s.Coherent) (index : ℕ) :
    Coherent ⟨s.reading.await index, s.futures ++ [.pending], s.invalidStateErrors⟩ where
  accounted := h.accounted.await index
  length_eq := by
    show (s.futures ++ [_]).length = (s.reading.awaited ++ [_]).length
    rw [List.length_append, List.length_append, h.length_eq, List.length_singleton,
      List.length_singleton]
  finished k record hfinished := by
    rw [List.getElem?_append] at hfinished
    split at hfinished
    · exact h.finished k record hfinished
    · rw [List.getElem?_singleton] at hfinished
      split at hfinished <;> cases hfinished
  gives c hc := by
    -- The new future is behind those that were given their results.
    have hold := h.gives c hc
    have hlt : c.1.future < s.futures.length := by
      rcases hold with hc | ⟨_, -, hc⟩ <;> exact (List.getElem?_eq_some_iff.1 hc).1
    show (s.futures ++ [_])[c.1.future]? = _ ∨ _
    rwa [List.getElem?_append_left hlt]

theorem Coherent.runCallback (h : s.Coherent) :
    Coherent { s.onEvent .runCallback with reading := s.reading.runCallback } := by
  have haccounted := h.accounted.runCallback
  unfold AsyncReading.runCallback at haccounted ⊢
  unfold onEvent
  cases hcallbacks : s.reading.callbacks with
  | nil =>
    simp only [hcallbacks] at haccounted ⊢
    exact h
  | cons callback callbacks =>
    obtain ⟨job, record⟩ := callback
    obtain ⟨hlt, hcompleted⟩ := h.callback hcallbacks
    simp only [hcallbacks] at haccounted ⊢
    unfold setResult
    rcases h.future_callback hcallbacks with hfuture | hfuture
    · simp only [hfuture]
      refine ⟨haccounted, List.length_set.trans h.length_eq, ?_, ?_⟩
      · intro k record' hfinished
        rw [List.map_append]
        rw [List.getElem?_set] at hfinished
        split at hfinished
        · rename_i hk
          exact List.mem_append_right _ (by simp [hk])
        · exact List.mem_append_left _ (h.finished k record' hfinished)
      · intro c hc
        show (s.futures.set job.future _)[c.1.future]? = _ ∨ _
        rcases List.mem_append.1 hc with hc | hc
        · have hne : job.future ≠ c.1.future := fun heq =>
            hcompleted (heq ▸ List.mem_map_of_mem hc)
          rw [List.getElem?_set_ne hne]
          exact h.gives c hc
        · rw [List.mem_singleton.1 hc]
          exact .inr ⟨record, rfl, List.getElem?_set_self hlt⟩
    · simp only [hfuture]
      refine ⟨haccounted, h.length_eq, ?_, ?_⟩
      · intro k record' hfinished
        rw [List.map_append]
        exact List.mem_append_left _ (h.finished k record' hfinished)
      · intro c hc
        rcases List.mem_append.1 hc with hc | hc
        · exact h.gives c hc
        · rw [List.mem_singleton.1 hc]
          exact .inl hfuture

/-- **A step whose read succeeds keeps each future as its job.** -/
theorem Coherent.step (h : s.Coherent) {event : CancellableStep} (hreads : s.ReadSucceeds event) :
    (CancellableReading.step s event).2.Coherent := by
  unfold CancellableReading.step
  rw [h.accounted.terminated_eq]
  cases event with
  | cancel k => exact h.cancel k
  | reading event =>
    have haccounted := h.accounted.step hreads
    simp only [h.accounted.step_eq] at haccounted ⊢
    cases event with
    | await index => exact h.await index
    | runCallback => exact h.runCallback
    | waitForJob =>
      obtain ⟨hawaited, hcompleted, -⟩ := s.reading.waitForJob_frame
      exact h.of_eq haccounted hawaited hcompleted
    | readRecord =>
      obtain ⟨hawaited, hcompleted⟩ := s.reading.readRecord_frame
      exact h.of_eq haccounted hawaited hcompleted
    | callSoonThreadsafe =>
      obtain ⟨hawaited, hcompleted, -⟩ := s.reading.callSoonThreadsafe_frame
      exact h.of_eq haccounted hawaited hcompleted

end Step

/-! ## Futures that are cancelled -/

section Cancelled

variable {s : CancellableReading base}

/-- **What a step does to the futures**: it cancels one that is pending, creates one, or finishes
one that is pending, if it does anything. -/
theorem step_futures_cases (s : CancellableReading base) (event : CancellableStep) :
    (step s event).2.futures = s.futures ∨
      (∃ k, event = .cancel k ∧ s.futures[k]? = some .pending ∧
        (step s event).2.futures = s.futures.set k .cancelled) ∨
      (step s event).2.futures = s.futures ++ [.pending] ∨
      ∃ k record, s.futures[k]? = some .pending ∧
        (step s event).2.futures = s.futures.set k (.finished record) := by
  unfold step
  cases s.reading.terminated with
  | some e => exact .inl rfl
  | none =>
    cases event with
    | cancel k =>
      simp only [CancellableReading.cancel]
      split
      · rename_i hpending
        exact .inr (.inl ⟨k, rfl, hpending, rfl⟩)
      · exact .inl rfl
    | reading event =>
      cases event with
      | await index => exact .inr (.inr (.inl rfl))
      | runCallback =>
        simp only [onEvent]
        split
        · exact .inl rfl
        · rename_i job record callbacks hcallbacks
          simp only [setResult]
          split
          · rename_i hpending
            exact .inr (.inr (.inr ⟨job.future, record, hpending, rfl⟩))
          · exact .inl rfl
      | _ => exact .inl rfl

/-- No future is cancelled. -/
def NoneCancelled (s : CancellableReading base) : Prop :=
  ∀ k : ℕ, s.futures[k]? ≠ some .cancelled

theorem noneCancelled_step (hnone : s.NoneCancelled) {event : CancellableStep}
    (hcancels : s.CancelsNone event) : (step s event).2.NoneCancelled := by
  intro k
  rcases step_futures_cases s event with hsame | ⟨k', rfl, hpending, -⟩ | hnew |
    ⟨k', record, hpending, hset⟩
  · rw [hsame]
    exact hnone k
  · exact nomatch hcancels _ hpending
  · rw [hnew, List.getElem?_append]
    split
    · exact hnone k
    · rw [List.getElem?_singleton]
      split <;> exact nofun
  · rw [hset, List.getElem?_set]
    split
    · split <;> exact nofun
    · exact hnone k

/-- A future that is cancelled stays so. -/
theorem cancelled_step {k : ℕ} (hcancelled : s.futures[k]? = some .cancelled)
    (event : CancellableStep) : (step s event).2.futures[k]? = some .cancelled := by
  have hne {k' : ℕ} (hpending : s.futures[k']? = some .pending) : k' ≠ k := by
    rintro rfl
    cases hpending.symm.trans hcancelled
  rcases step_futures_cases s event with hsame | ⟨k', -, hpending, hset⟩ | hnew |
    ⟨k', record, hpending, hset⟩
  · rwa [hsame]
  · rwa [hset, List.getElem?_set_ne (hne hpending)]
  · rwa [hnew, List.getElem?_append_left (List.getElem?_eq_some_iff.1 hcancelled).1]
  · rwa [hset, List.getElem?_set_ne (hne hpending)]

/-- A step that is not one that cancels no pending future leaves one cancelled. -/
theorem Coherent.cancelled_of_not_cancelsNone (h : s.Coherent) {event : CancellableStep}
    (hcancels : ¬s.CancelsNone event) : ¬(CancellableReading.step s event).2.NoneCancelled := by
  cases event with
  | cancel k =>
    simp only [CancelsNone, not_forall] at hcancels
    obtain ⟨state, hpending, hstate⟩ := hcancels
    obtain rfl : state = .pending := by
      cases state with
      | pending => rfl
      | _ => exact absurd rfl hstate
    intro hnone
    apply hnone k
    unfold CancellableReading.step CancellableReading.cancel
    rw [h.accounted.terminated_eq]
    simp only [Option.mem_def.1 hpending]
    exact List.getElem?_set_self (List.getElem?_eq_some_iff.1 hpending).1
  | reading event => exact absurd trivial hcancels

/-- **Where no future is cancelled, callbacks set the results of pending futures.** -/
theorem Coherent.setsPending (h : s.Coherent) (hnone : s.NoneCancelled) (event : CancellableStep) :
    s.SetsPending event := by
  cases event with
  | cancel k => trivial
  | reading event =>
    cases event with
    | runCallback =>
      rintro ⟨job, record⟩ hcallback
      obtain ⟨callbacks, hcallbacks⟩ := List.head?_eq_some_iff.1 hcallback
      exact (h.future_callback hcallbacks).resolve_right (hnone _)
    | _ => trivial

/-- The callbacks of cancelled futures have not run. -/
def CancelledOpen (s : CancellableReading base) : Prop :=
  ∀ k, s.futures[k]? = some .cancelled → k ∉ s.reading.completed.map fun c => c.1.future

/-- A future that is pending has not been completed. -/
theorem Coherent.not_mem_completed (h : s.Coherent) {k : ℕ}
    (hpending : s.futures[k]? = some .pending) :
    k ∉ s.reading.completed.map fun c => c.1.future := by
  intro hk
  obtain ⟨c, hc, rfl⟩ := List.mem_map.1 hk
  rcases h.gives c hc with hgiven | ⟨record, -, hgiven⟩ <;> cases hpending.symm.trans hgiven

theorem Coherent.cancelledOpen_cancel (h : s.Coherent) (hopen : s.CancelledOpen) (future : ℕ) :
    (s.cancel future).CancelledOpen := by
  intro k hk
  simp only [CancellableReading.cancel] at hk ⊢
  split at hk
  · rename_i hpending
    rw [List.getElem?_set] at hk
    split at hk
    · rename_i heq
      exact heq ▸ h.not_mem_completed hpending
    · exact hopen k hk
  · exact hopen k hk

/-- A callback that sets a pending future is not that of a cancelled one. -/
theorem CancelledOpen.runCallback (hopen : s.CancelledOpen)
    (hsets : s.SetsPending (.reading .runCallback)) :
    ({ s.onEvent .runCallback with reading := s.reading.runCallback } :
      CancellableReading base).CancelledOpen := by
  intro k hk
  simp only [AsyncReading.runCallback, onEvent] at hk ⊢
  cases hcallbacks : s.reading.callbacks with
  | nil =>
    simp only [hcallbacks] at hk ⊢
    exact hopen k hk
  | cons callback callbacks =>
    have hpending := hsets callback (by rw [hcallbacks]; rfl)
    simp only [hcallbacks, setResult, hpending] at hk ⊢
    rw [List.getElem?_set] at hk
    split at hk
    · split at hk <;> cases hk
    · rename_i hne
      rw [List.map_append, List.mem_append, not_or]
      exact ⟨hopen k hk, fun hmem => hne (List.mem_singleton.1 hmem).symm⟩

theorem Coherent.cancelledOpen_step (h : s.Coherent) (hopen : s.CancelledOpen)
    {event : CancellableStep} (hsets : s.SetsPending event) :
    (CancellableReading.step s event).2.CancelledOpen := by
  unfold CancellableReading.step
  rw [h.accounted.terminated_eq]
  cases event with
  | cancel future => exact h.cancelledOpen_cancel hopen future
  | reading event =>
    simp only [h.accounted.step_eq]
    cases event with
    | await index =>
      intro k hk
      simp only [onEvent, List.getElem?_append] at hk
      split at hk
      · exact hopen k hk
      · rw [List.getElem?_singleton] at hk
        split at hk <;> cases hk
    | runCallback => exact hopen.runCallback hsets
    | waitForJob =>
      intro k hk
      simp only [s.reading.waitForJob_frame.2.1]
      exact hopen k hk
    | readRecord =>
      intro k hk
      simp only [s.reading.readRecord_frame.2]
      exact hopen k hk
    | callSoonThreadsafe =>
      intro k hk
      simp only [s.reading.callSoonThreadsafe_frame.2.1]
      exact hopen k hk

/-- **An error is raised exactly where a future is not pending.** -/
theorem Coherent.step_invalidStateErrors (h : s.Coherent) (event : CancellableStep) :
    ∃ raised, (CancellableReading.step s event).2.invalidStateErrors =
      s.invalidStateErrors ++ raised ∧ (raised = [] ↔ s.SetsPending event) := by
  unfold CancellableReading.step
  rw [h.accounted.terminated_eq]
  cases event with
  | cancel k =>
    refine ⟨[], ?_, iff_of_true rfl trivial⟩
    simp only [CancellableReading.cancel]
    split <;> exact (List.append_nil _).symm
  | reading event =>
    cases event with
    | runCallback =>
      simp only [onEvent, SetsPending]
      cases hcallbacks : s.reading.callbacks with
      | nil => exact ⟨[], (List.append_nil _).symm, by simp⟩
      | cons callback callbacks =>
        simp only [setResult]
        rcases h.future_callback hcallbacks with hfuture | hfuture
        · refine ⟨[], ?_, ?_⟩ <;> simp [hfuture]
        · refine ⟨[callback.1], ?_, ?_⟩ <;> simp [hfuture]
    | _ => exact ⟨[], (List.append_nil _).symm, iff_of_true rfl trivial⟩

end Cancelled

/-! ## A run -/

section Run

variable {s : CancellableReading base}

theorem Coherent.exec (h : s.Coherent) {events : List CancellableStep}
    (hreads : CancellableReading.step.Along ReadSucceeds s events) :
    (CancellableReading.step.exec s events).Coherent :=
  Machine.exec_of_along (fun _ _ h hreads => h.step hreads) events h hreads

theorem Coherent.exec_invalidStateErrors (h : s.Coherent) {events : List CancellableStep}
    (hreads : CancellableReading.step.Along ReadSucceeds s events) :
    ∃ raised, (CancellableReading.step.exec s events).invalidStateErrors =
      s.invalidStateErrors ++ raised ∧
      (raised = [] ↔ CancellableReading.step.Along SetsPending s events) := by
  induction events generalizing s with
  | nil => exact ⟨[], (List.append_nil _).symm, iff_of_true rfl trivial⟩
  | cons event events ih =>
    obtain ⟨raised, hfirst, hraised⟩ := h.step_invalidStateErrors event
    obtain ⟨rest, hrest, hlater⟩ := ih (h.step hreads.1) hreads.2
    refine ⟨raised ++ rest, ?_, ?_⟩
    · rw [Machine.exec_cons, hrest, hfirst, List.append_assoc]
    · rw [List.append_eq_nil_iff, hraised, hlater]
      exact Iff.rfl

/-- Where no future is left cancelled, none that was pending was cancelled. -/
theorem Coherent.along_cancelsNone (h : s.Coherent) {events : List CancellableStep}
    (hreads : CancellableReading.step.Along ReadSucceeds s events)
    (hnone : (CancellableReading.step.exec s events).NoneCancelled) :
    CancellableReading.step.Along CancelsNone s events := by
  induction events generalizing s with
  | nil => trivial
  | cons event events ih =>
    refine ⟨?_, ih (h.step hreads.1) hreads.2 hnone⟩
    by_contra hcancels
    have hcancelled := h.cancelled_of_not_cancelsNone hcancels
    simp only [NoneCancelled, not_forall, not_not] at hcancelled
    obtain ⟨k, hk⟩ := hcancelled
    have hstays : (CancellableReading.step.exec (CancellableReading.step s event).2
        events).futures[k]? = some .cancelled :=
      Machine.exec_of_invariant
        (I := fun s : CancellableReading base => s.futures[k]? = some .cancelled)
        (fun _ event hk => cancelled_step hk event) hk events
    exact hnone k hstays

/-- The reading is not affected by cancellations. -/
theorem exec_reading (s : CancellableReading base) (events : List CancellableStep) :
    (step.exec s events).reading =
      AsyncReading.step.exec s.reading (events.filterMap CancellableStep.reading?) := by
  induction events generalizing s with
  | nil => rfl
  | cons event events ih =>
    rw [Machine.exec_cons, ih]
    cases event with
    | cancel k =>
      have hsame : (step s (.cancel k)).2.reading = s.reading := by
        unfold step CancellableReading.cancel
        cases s.reading.terminated with
        | some e => rfl
        | none =>
          simp only
          split <;> rfl
      rw [hsame]
      rfl
    | reading event =>
      have hstep : (step s (.reading event)).2.reading = (AsyncReading.step s.reading event).2 := by
        cases hterminated : s.reading.terminated with
        | some e =>
          rw [AsyncReading.step_of_terminated _ hterminated]
          unfold step
          rw [hterminated]
        | none =>
          unfold step
          rw [hterminated]
      rw [hstep]
      rfl

/-- Where every callback has run, those of the cancelled futures have. -/
theorem Coherent.noneCancelled_of_pending_eq_zero (h : s.Coherent) (hopen : s.CancelledOpen)
    (hdone : s.reading.pending = 0) : s.NoneCancelled := by
  intro k hk
  have hlt := (List.getElem?_eq_some_iff.1 hk).1
  have hmem : k ∈ s.reading.awaited.map AsyncReadJob.future := by
    rw [h.accounted.future_eq, List.mem_range]
    rwa [← h.length_eq]
  rw [← h.accounted.complete.all hdone, List.map_map] at hmem
  exact hopen k hk hmem

/-- **Results are set on pending futures**, and no error is raised, in every run that cancels no
pending future, and in no other run after which every callback was made; whether or not one is
cancelled, the reading goes on as without it, and the other futures are given their results. -/
theorem setsPending_iff (reader : base.Reader) (events : List CancellableStep)
    (hreads : step.Along ReadSucceeds (new reader : CancellableReading base) events) :
    (step.Along CancelsNone (new reader : CancellableReading base) events →
      step.Along SetsPending (new reader : CancellableReading base) events) ∧
    ((step.exec (new reader : CancellableReading base) events).reading.pending = 0 →
      step.Along SetsPending (new reader : CancellableReading base) events →
      step.Along CancelsNone (new reader : CancellableReading base) events) ∧
    ((step.exec (new reader : CancellableReading base) events).invalidStateErrors = [] ↔
      step.Along SetsPending (new reader : CancellableReading base) events) ∧
    (step.exec (new reader : CancellableReading base) events).reading =
      AsyncReading.step.exec (.new reader) (events.filterMap CancellableStep.reading?) ∧
    (step.exec (new reader : CancellableReading base) events).GivesResults := by
  have hnew : (new reader : CancellableReading base).Coherent := coherent_new reader
  have hend := hnew.exec hreads
  refine ⟨fun hcancels => ?_, fun hdone hsets => ?_, ?_, exec_reading _ events, hend.gives⟩
  · have hboth := (step.along_and _ _ _ _).2 ⟨hreads, hcancels⟩
    exact Machine.along_of_invariant (I := fun s => s.Coherent ∧ s.NoneCancelled)
      (fun _ event h hstep =>
        ⟨h.1.setsPending h.2 event, h.1.step hstep.1, noneCancelled_step h.2 hstep.2⟩)
      events ⟨hnew, nofun⟩ hboth
  · have hboth := (step.along_and _ _ _ _).2 ⟨hreads, hsets⟩
    have hopen := Machine.exec_of_along (I := fun s => s.Coherent ∧ s.CancelledOpen)
      (fun _ _ h hstep => ⟨h.1.step hstep.1, h.1.cancelledOpen_step h.2 hstep.2⟩)
      events ⟨hnew, nofun⟩ hboth
    exact hnew.along_cancelsNone hreads (hend.noneCancelled_of_pending_eq_zero hopen.2 hdone)
  · obtain ⟨raised, herrors, hraised⟩ := hnew.exec_invalidStateErrors hreads
    rw [herrors]
    exact hraised

/-- The reader of a file whose records are read, before anything is awaited. -/
def fileReader : CancellableReading (OssVRSReader.base reconfiguredFile AsyncReading.emptyRead) :=
  new (.new false)

instance (s : CancellableReading base) : ∀ event, Decidable (s.ReadSucceeds event)
  | .cancel _ => isTrue trivial
  | .reading event => inferInstanceAs (Decidable ¬s.reading.Raises event)

instance (s : CancellableReading base) : ∀ event, Decidable (s.CancelsNone event)
  | .cancel future => inferInstanceAs (Decidable (∀ state ∈ s.futures[future]?, _ = _))
  | .reading _ => isTrue trivial

/-- A record is awaited and read; what is awaited is cancelled once its result is set. -/
def lateCancellation : List CancellableStep :=
  .reading (.await 1) :: (AsyncReading.readSteps.map .reading ++ [.cancel 0])

/-- A cancellation that comes too late does no harm. -/
theorem setsPending_lateCancellation :
    step.Along SetsPending fileReader lateCancellation ∧
      (step.exec fileReader lateCancellation).invalidStateErrors = [] := by
  have hreads : step.Along ReadSucceeds fileReader lateCancellation := by decide +kernel
  have hcancels : step.Along CancelsNone fileReader lateCancellation := by decide +kernel
  obtain ⟨hsets, -, herrors, -⟩ := setsPending_iff _ lateCancellation hreads
  exact ⟨hsets hcancels, herrors.2 (hsets hcancels)⟩

/-- A record is awaited and read, and what is awaited is cancelled before the callback runs. -/
def cancelledRun : List CancellableStep :=
  [.reading (.await 1), .reading .waitForJob, .reading .readRecord, .reading .callSoonThreadsafe,
    .cancel 0, .reading .runCallback]

/-- **A future cancelled between the read and the callback**: the callback raises. -/
theorem not_setsPending_cancelledRun :
    step.Along ReadSucceeds fileReader cancelledRun ∧
      (step.exec fileReader cancelledRun).invalidStateErrors = [⟨0, 1⟩] ∧
      ¬step.Along SetsPending fileReader cancelledRun := by
  have hreads : step.Along ReadSucceeds fileReader cancelledRun := by decide +kernel
  have herrors : (step.exec fileReader cancelledRun).invalidStateErrors = [⟨0, 1⟩] := by
    decide +kernel
  refine ⟨hreads, herrors, fun hsets => ?_⟩
  obtain ⟨raised, hraised, hiff⟩ := Coherent.exec_invalidStateErrors (coherent_new _) hreads
  have hsame : [⟨0, 1⟩] = ([] : List AsyncReadJob) ++ raised := herrors.symm.trans hraised
  rw [hiff.2 hsets] at hsame
  cases hsame

end Run

end CancellableReading

end Pyvrs
