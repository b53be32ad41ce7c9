import Pyvrs.Writer.Runs

/-!
# The file is in time order

The queue of the writer is drained in batches, and no record is taken that would have to go into an
earlier batch: what is queued is never before the last flush. `Filed` is this invariant, with the
records created so far; it holds along every run whose timestamps are numbers (`Filed.run`), and
closing such a writer leaves a file in order (`Filed.file`). What the contract of the writer says of
the last flush, the order of the file and its content follows (`file_in_time_order`).
-/

namespace Pyvrs

open Foundations Machine

namespace VRSWriter

variable {L : VrsLib} {N : WriterLib L}

/-- What is written until the writer is closed, to the file if one was created: the batches of the
flushes, and the last one. -/
def file (w : VRSWriter N) : List (Record L) := w.close.2.writer.records.batches.flatten

/-- The writer has created the records `created`, one after the other; it has written in order
those that it has flushed, and no others may go before the last flush. -/
structure Filed (w : VRSWriter N) (created : List (Record L)) : Prop where
  last_isNum : w.lastFlushedTimestamp.IsNum
  queue_isNum : ∀ r ∈ w.writer.records.queue, r.timestamp.IsNum
  flushed : ∀ r ∈ w.writer.records.written, r.timestamp ≤ w.lastFlushedTimestamp
  ordered : w.writer.records.Ordered Record.WrittenBefore
  perm : w.writer.records.contents.Perm created
  counted : created.Pairwise fun a b => a.creationOrder < b.creationOrder
  count : ∀ r ∈ created, r.creationOrder < w.writer.nextCreationOrder

theorem filed_new (N : WriterLib L) (filepath : String) : (new N filepath).Filed [] where
  last_isNum := trivial
  queue_isNum _ hr := absurd hr List.not_mem_nil
  flushed _ hr := absurd hr List.not_mem_nil
  ordered := .empty
  perm := .refl _
  counted := .nil
  count _ hr := absurd hr List.not_mem_nil

variable {w w' : VRSWriter N} {created : List (Record L)}

/-! ## One call -/

/-- What is created now goes after all that was written. -/
theorem Filed.writtenBefore (h : w.Filed created) {record : Record L}
    (hnum : record.timestamp.IsNum) (htimestamp : ¬record.timestamp < w.lastFlushedTimestamp)
    (hcount : record.creationOrder = w.writer.nextCreationOrder) :
    ∀ r ∈ w.writer.records.written, r.WrittenBefore record := by
  intro r hr
  have hlast : w.lastFlushedTimestamp ≤ record.timestamp :=
    WithNaN.le_of_not_lt hnum h.last_isNum htimestamp
  have hmem : r ∈ created := h.perm.mem_iff.1 (List.mem_append_left _ hr)
  refine ⟨WithNaN.le_trans (h.flushed r hr) hlast, fun _ _ => ?_⟩
  rw [hcount]
  exact (h.count r hmem).le

theorem Filed.record (h : w.Filed created) {record : Record L}
    (hnum : record.timestamp.IsNum) (htimestamp : ¬record.timestamp < w.lastFlushedTimestamp)
    (hcount : record.creationOrder = w.writer.nextCreationOrder)
    (hrecords : w'.writer.records = w.writer.records.push record)
    (horder : w'.writer.nextCreationOrder = w.writer.nextCreationOrder + 1)
    (hlast : w'.lastFlushedTimestamp = w.lastFlushedTimestamp) :
    w'.Filed (created ++ [record]) where
  last_isNum := hlast ▸ h.last_isNum
  queue_isNum := by
    rw [hrecords, BatchQueue.queue_push, List.forall_mem_append, List.forall_mem_singleton]
    exact ⟨h.queue_isNum, hnum⟩
  flushed := by
    rw [hrecords, BatchQueue.written_push, hlast]
    exact h.flushed
  ordered := by
    rw [hrecords]
    exact h.ordered.push (h.writtenBefore hnum htimestamp hcount)
  perm := by
    rw [hrecords, BatchQueue.contents_push]
    exact h.perm.append_right _
  counted := by
    rw [List.pairwise_append]
    refine ⟨h.counted, List.pairwise_singleton _ _, fun a ha b hb => ?_⟩
    rw [List.mem_singleton.1 hb, hcount]
    exact h.count a ha
  count := by
    rw [horder, List.forall_mem_append, List.forall_mem_singleton]
    refine ⟨fun r hr => (h.count r hr).trans (Nat.lt_succ_self _), ?_⟩
    omega

/-- Draining up to a timestamp that is a number keeps the batches in order. -/
theorem Filed.ordered_drain (h : w.Filed created) {timestamp : Timestamp}
    (hnum : timestamp.IsNum) :
    (w.writer.records.drain N.sortRecords (Record.due timestamp)).Ordered Record.WrittenBefore := by
  refine h.ordered.drain N.sortRecords_perm ?_ fun a ha hdue b hb hleft => ?_
  · exact N.sortRecords_sorted _ fun r hr => h.queue_isNum r (List.mem_of_mem_filter hr)
  · have ha' : a.timestamp ≤ timestamp := of_decide_eq_true hdue
    have hb' : timestamp < b.timestamp :=
      WithNaN.lt_of_not_le (h.queue_isNum b hb) hnum (of_decide_eq_false hleft)
    refine ⟨WithNaN.le_trans ha' (WithNaN.le_of_lt hb'), fun _ hle => ?_⟩
    exact absurd (WithNaN.le_trans hle ha') (WithNaN.not_le_of_lt hb')

theorem Filed.flush (h : w.Filed created) {timestamp : Timestamp} (hnum : timestamp.IsNum)
    (htimestamp : ¬timestamp < w.lastFlushedTimestamp)
    (hrecords : w'.writer.records = w.writer.records.drain N.sortRecords (Record.due timestamp))
    (horder : w'.writer.nextCreationOrder = w.writer.nextCreationOrder)
    (hlast : w'.lastFlushedTimestamp = timestamp) : w'.Filed created where
  last_isNum := hlast ▸ hnum
  queue_isNum := by
    rw [hrecords, BatchQueue.queue_drain]
    exact fun r hr => h.queue_isNum r (List.mem_of_mem_filter hr)
  flushed r hr := by
    rw [hrecords, BatchQueue.mem_written_drain N.sortRecords_perm] at hr
    rw [hlast]
    rcases hr with hr | ⟨-, hdue⟩
    · exact WithNaN.le_trans (h.flushed r hr)
        (WithNaN.le_of_not_lt hnum h.last_isNum htimestamp)
    · exact of_decide_eq_true hdue
  ordered := by
    rw [hrecords]
    exact h.ordered_drain hnum
  perm := by
    rw [hrecords]
    exact (BatchQueue.contents_drain N.sortRecords_perm).trans h.perm
  counted := h.counted
  count := by
    rw [horder]
    exact h.count

theorem Filed.unchanged (h : w.Filed created) (hrecords : w'.writer.records = w.writer.records)
    (horder : w'.writer.nextCreationOrder = w.writer.nextCreationOrder)
    (hlast : w'.lastFlushedTimestamp = w.lastFlushedTimestamp) : w'.Filed created where
  last_isNum := hlast ▸ h.last_isNum
  queue_isNum := hrecords ▸ h.queue_isNum
  flushed := by
    rw [hrecords, hlast]
    exact h.flushed
  ordered := hrecords ▸ h.ordered
  perm := hrecords ▸ h.perm
  counted := h.counted
  count := horder ▸ h.count

/-- **The step lemma**: a call adds the record it has created, if any, and the last flush stays or
moves on. -/
theorem Filed.effect (h : w.Filed created) {c : WriterCall N} (hc : c.Numeric)
    {reply : Except PyError WriterValue} (heffect : Effect w c reply w') :
    (∃ created', w'.Filed created' ∧ created'.map Record.creation =
      created.map Record.creation ++ (acceptedOf (c, reply)).toList) ∧
      w.lastFlushedTimestamp ≤ w'.lastFlushedTimestamp := by
  have hrefl : w.lastFlushedTimestamp ≤ w.lastFlushedTimestamp :=
    WithNaN.le_refl_of_isNum h.last_isNum
  cases heffect with
  | unchanged hnone hrecords horder hlast =>
    refine ⟨⟨created, h.unchanged hrecords horder hlast, ?_⟩, hlast ▸ hrefl⟩
    rw [hnone, Option.toList_none, List.append_nil]
  | recorded record hcreation htimestamp hcount _ hrecords horder hlast =>
    have hnum : record.timestamp.IsNum := hc _ (WriterCall.timestamp?_of_creation? hcreation)
    refine ⟨⟨_, h.record hnum htimestamp hcount hrecords horder hlast, ?_⟩, hlast ▸ hrefl⟩
    rw [acceptedOf, hcreation, List.map_append, List.map_singleton, Option.toList_some]
  | flushed timestamp htimestamp hrecords horder hlast =>
    have hnum : timestamp.IsNum := hc timestamp rfl
    refine ⟨⟨created, h.flush hnum htimestamp hrecords horder hlast, ?_⟩, ?_⟩
    · exact (List.append_nil _).symm
    · rw [hlast]
      exact WithNaN.le_of_not_lt hnum h.last_isNum htimestamp

/-! ## Runs -/

/-- **The run lemma**: after a run whose timestamps are numbers, the writer has created the records
of the calls that did not raise. -/
theorem Filed.run {calls : List (WriterCall N)} (hcalls : ∀ c ∈ calls, c.Numeric)
    (filepath : String) :
    ∃ created, (exec call (new N filepath) calls).Filed created ∧
      created.map Record.creation = accepted (trace call (new N filepath) calls) := by
  have hstep : ∀ (w : VRSWriter N) t (c : WriterCall N), c.Numeric →
      (∃ created, w.Filed created ∧ created.map Record.creation = accepted t) →
      ∃ created, (call w c).2.Filed created ∧
        created.map Record.creation = accepted (t ++ [(c, (call w c).1)]) := by
    rintro w t c hc ⟨created, hfiled, hcreated⟩
    obtain ⟨⟨created', hfiled', hcreated'⟩, -⟩ := hfiled.effect hc (call_effect w c)
    refine ⟨created', hfiled', ?_⟩
    rw [hcreated', hcreated, accepted_concat]
  have hrun := exec_trace_of_calls hstep hcalls (t := []) ⟨[], filed_new N filepath, rfl⟩
  rwa [List.nil_append] at hrun

/-- Closing the writer completes the file. -/
theorem Filed.file (h : w.Filed created) :
    w.file.Pairwise Record.WrittenBefore ∧ w.file.Perm created := by
  have hordered : (w.writer.records.drain N.sortRecords fun _ => true).Ordered
      Record.WrittenBefore := by
    refine h.ordered.drain N.sortRecords_perm ?_ fun _ _ _ _ _ hleft => nomatch hleft
    exact N.sortRecords_sorted _ fun r hr => h.queue_isNum r (List.mem_of_mem_filter hr)
  have hperm := BatchQueue.contents_drain (q := w.writer.records) (p := fun _ => true)
    N.sortRecords_perm
  rw [BatchQueue.contents_drain_true] at hperm
  exact ⟨hordered.written, hperm.trans h.perm⟩

/-- **The output of the writer is in time order.** Whatever the calls, the last flush never moves
back, the batches of the flushes and of the close are sorted by timestamp one after the other, and
they hold each record of a call that did not raise exactly once. -/
theorem file_in_time_order (filepath : String) (calls : List (WriterCall N))
    (hcalls : ∀ c ∈ calls, c.Finite) :
    Along call (fun w c => w.lastFlushedTimestamp ≤ (call w c).2.lastFlushedTimestamp)
        (new N filepath) calls ∧
      (exec call (new N filepath) calls).file.Pairwise (fun a b => a.timestamp ≤ b.timestamp) ∧
      ((exec call (new N filepath) calls).file.map Record.creation).Perm
        (accepted (trace call (new N filepath) calls)) := by
  have hnumeric : ∀ c ∈ calls, c.Numeric := fun c hc => (hcalls c hc).numeric
  refine ⟨?_, ?_⟩
  · refine along_of_invariant (I := fun w => ∃ created, w.Filed created)
      (fun w c ⟨created, hfiled⟩ hc => ?_) calls ⟨[], filed_new N filepath⟩
      (along_of_forall hnumeric _)
    obtain ⟨⟨created', hfiled', -⟩, hlast⟩ := hfiled.effect hc (call_effect w c)
    exact ⟨hlast, created', hfiled'⟩
  · obtain ⟨created, hfiled, hcreated⟩ := Filed.run hnumeric filepath
    obtain ⟨hordered, hperm⟩ := hfiled.file
    refine ⟨hordered.imp And.left, ?_⟩
    rw [← hcreated]
    exact hperm.map _

/-- Two streams, of which the second one is late: the record it creates before the flush raises. -/
def twoStreams : List (WriterCall WriterLib.bare) :=
  [.createStream "sample" "", .createStream "sample" "",
    .createConfigRecord 0 (.ofRat 2) [.dataLayout ⟨0, .configuration, 0⟩],
    .createConfigRecord 1 (.ofRat 1) [.dataLayout ⟨1, .configuration, 0⟩],
    .createDataRecord 0 (.ofRat 3) [.dataLayout ⟨0, .data, 0⟩], .flushRecords (.ofRat 2),
    .createDataRecord 1 (.ofRat 1) [.dataLayout ⟨1, .data, 0⟩],
    .createDataRecord 1 (.ofRat 2) [.dataLayout ⟨1, .data, 0⟩], .flushRecords (.ofRat 3)]

theorem finite_twoStreams : ∀ c ∈ twoStreams, c.Finite := by
  simp [twoStreams, WriterCall.Finite, WriterCall.timestamp?]

/-- The file of the two streams. -/
theorem file_in_time_order_twoStreams :
    (Along call (fun w c => w.lastFlushedTimestamp ≤ (call w c).2.lastFlushedTimestamp)
        (new WriterLib.bare "two.vrs") twoStreams ∧
      (exec call (new WriterLib.bare "two.vrs") twoStreams).file.Pairwise
        (fun a b => a.timestamp ≤ b.timestamp) ∧
      ((exec call (new WriterLib.bare "two.vrs") twoStreams).file.map Record.creation).Perm
        (accepted (trace call (new WriterLib.bare "two.vrs") twoStreams))) ∧
      (exec call (new WriterLib.bare "two.vrs") twoStreams).file.map Record.creation =
        [⟨1, .configuration, .ofRat 1⟩, ⟨0, .configuration, .ofRat 2⟩, ⟨1, .data, .ofRat 2⟩,
          ⟨0, .data, .ofRat 3⟩] :=
  ⟨file_in_time_order "two.vrs" twoStreams finite_twoStreams, by decide +kernel⟩

end VRSWriter

end Pyvrs
