import Pyvrs.Filter.InOrder

/-!
# What a closed output file lacks

`closeFile` only looks at `pendingRecords_`. When it succeeds, the records read to the end are all
in the output file, unless the caller discarded them (`Covered`); but the records that
`getNextImage` did not get to are not, nor those whose read failed, whose status nobody looks at.
So nothing is lost exactly when every record was read with success (`nothing_lost_iff`).
-/

namespace Pyvrs

open Foundations FilterHistory

namespace OssAsyncImageFilter

variable {L : VrsLib}

/-- The record of `records_` at `i` is in the output file. -/
def IsCreated (output : List (OutputEvent L)) (i : ℕ) : Prop :=
  ∃ record, .copied (some i) record ∈ output ∨ .processed i record ∈ output

variable (N : FilterNative L) (filter₀ filter : OssAsyncImageFilter L)

/-- Every record of `records_` was read, and is created or was handed out and discarded. -/
def NothingLost (t : List (FilterCall × FilterReply)) : Prop :=
  ∀ i < filter.records.length, i < filter.nextRecordIndex ∧ (N.readRecord i).status = 0 ∧
    (IsCreated filter.output i ∨ i ∈ handedOut t ∧ i ∈ discarded t)

/-- The cursor is at the end of `records_`, and every read of one of them succeeded and got to the
end of the record. -/
def AllRead : Prop :=
  filter.nextRecordIndex = filter.records.length ∧ ∀ i < filter.records.length,
    (N.readRecord i).status = 0 ∧ (N.readRecord i).finished = true

/-- What every call preserves: the records before the cursor whose read got to the end are created
by their copiers or were handed out, and no others are created by copiers. -/
structure Covered (t : List (FilterCall × FilterReply)) : Prop where
  covered : ∀ i < filter.nextRecordIndex, (N.readRecord i).finished = true →
    (∃ record, .copied (some i) record ∈ filter.output) ∨ i ∈ handedOut t
  finished : ∀ i record, .copied (some i) record ∈ filter.output →
    (N.readRecord i).finished = true

variable {N} {filter₀} {filter} {t : List (FilterCall × FilterReply)}

theorem Started.covered {F : FilteredFileReader L} (h : Started filter₀ F) :
    Covered N filter₀ [] := by
  obtain ⟨records, houtput⟩ := h.output_eq
  constructor
  · intro i hi
    rw [h.nextRecordIndex_eq] at hi
    exact absurd hi (Nat.not_lt_zero i)
  · intro i record hmem
    rw [houtput] at hmem
    obtain ⟨_, -, hevent⟩ := List.mem_map.1 hmem
    cases hevent

theorem finished_of_asideAt {i : ℕ} (h : ∃ pending, filter₀.asideAt N i = some pending) :
    (N.readRecord i).finished = true := by
  obtain ⟨pending, h⟩ := h
  unfold asideAt setAside at h
  simp only at h
  split at h
  · rename_i hcase
    exact hcase.1
  · cases h

/-- A record read to the end that is not set aside is created. -/
theorem Covered.copyNext (h : Covered N filter t)
    (hcopier : filter.copiers (filter.recordAt filter.nextRecordIndex).streamId ≠ none)
    (haside : filter.asideAt N filter.nextRecordIndex = none) :
    Covered N (filter.copyNext N) t := by
  constructor
  · intro i hi hfinished
    rcases Nat.lt_succ_iff_lt_or_eq.1 hi with hi | rfl
    · rcases h.covered i hi hfinished with ⟨record, hmem⟩ | hmem
      · exact .inl ⟨record, List.mem_append_left _ hmem⟩
      · exact .inr hmem
    · have hcontent := filter.copiedContent_ne_none hcopier hfinished haside
      obtain ⟨content, hcontent⟩ := Option.ne_none_iff_exists'.1 hcontent
      refine .inl ⟨_, List.mem_append_right _ (List.mem_map.2 ⟨content, ?_, rfl⟩)⟩
      rw [hcontent]
      exact List.mem_singleton_self _
  · intro i record hmem
    rcases List.mem_append.1 hmem with hmem | hmem
    · exact h.finished i record hmem
    · obtain ⟨content, hcontent, hevent⟩ := List.mem_map.1 hmem
      cases hevent
      rw [Option.mem_toList] at hcontent
      by_contra hnot
      unfold copiedContent at hcontent
      rw [if_neg hnot] at hcontent
      cases hcontent

theorem Covered.parkNext (h : Covered N filter t) {pending : OssPendingRecord L} :
    Covered N (filter.parkNext pending) (t ++ [(.getNextImage,
      .image filter.nextRecordIndex pending.image.1 pending.image.2)]) := by
  refine ⟨fun i hi hfinished => ?_, h.finished⟩
  rw [handedOut_image, List.mem_append]
  rcases Nat.lt_succ_iff_lt_or_eq.1 hi with hi | rfl
  · exact (h.covered i hi hfinished).imp_right .inl
  · exact .inr (.inr (List.mem_singleton_self _))

/-- Writing out what is ready adds no record of a copier and takes none away. -/
theorem copied_mem_answer (filter : OssAsyncImageFilter L) (i : ℕ)
    (pending : Option (OssPendingRecord L)) {recordIndex : Option ℕ} {record : OutputRecord L} :
    .copied recordIndex record ∈ (filter.answer i pending).output ↔
      .copied recordIndex record ∈ filter.output := by
  show _ ∈ filter.output ++ _ ++ _ ↔ _
  rw [List.append_assoc, List.mem_append]
  refine or_iff_left fun hmem => ?_
  rcases List.mem_append.1 hmem with hmem | hmem
  · obtain ⟨_, -, hevent⟩ := List.mem_map.1 hmem
    cases hevent
  · split at hmem
    · cases List.mem_singleton.1 hmem
    · cases hmem

theorem Covered.answer (h : Covered N filter t) (i : ℕ) (pending : Option (OssPendingRecord L))
    {t' : List (FilterCall × FilterReply)} (hhanded : handedOut t' = handedOut t) :
    Covered N (filter.answer i pending) t' := by
  constructor
  · intro j hj hfinished
    rw [hhanded]
    rcases h.covered j hj hfinished with ⟨record, hmem⟩ | hmem
    · exact .inl ⟨record, (filter.copied_mem_answer i pending).2 hmem⟩
    · exact .inr hmem
  · intro j record hmem
    exact h.finished j record ((filter.copied_mem_answer i pending).1 hmem)

/-- **Every call keeps the records covered.** -/
theorem Covered.call (h : Covered N filter t) (hbuffered : Buffered N filter₀ filter t)
    (hcopiers : ∀ info ∈ filter₀.records, filter₀.copiers info.streamId ≠ none)
    (c : FilterCall) :
    Covered N (call N filter c).2 (t ++ [(c, (OssAsyncImageFilter.call N filter c).1)]) := by
  have hsame : ∀ (filter : OssAsyncImageFilter L) c reply, handedOut [(c, reply)] = [] →
      Covered N filter t → Covered N filter (t ++ [(c, reply)]) := by
    intro filter c reply hnone h
    refine ⟨fun i hi hfinished => ?_, h.finished⟩
    rw [handedOut_append, hnone, List.append_nil]
    exact h.covered i hi hfinished
  cases c with
  | getNextImage =>
    refine filter.getNextImage_rule N
      (I := fun filter => Covered N filter t ∧ SameSource filter filter₀)
      (Q := fun reply filter => Covered N filter (t ++ [(.getNextImage, reply)])) ?_ ?_ ?_
      ⟨h, hbuffered.toSameSource⟩
    · rintro filter ⟨h, hsource⟩ hlt haside
      refine ⟨h.copyNext ?_ haside, hsource.records_eq, hsource.copiers_eq⟩
      rw [hsource.copiers_eq, recordAt, List.getD_eq_getElem?_getD,
        List.getElem?_eq_getElem hlt]
      exact hcopiers _ (hsource.records_eq ▸ List.getElem_mem hlt)
    · rintro filter pending ⟨h, -⟩ - -
      exact h.parkNext
    · rintro filter ⟨h, -⟩
      exact hsame filter _ _ rfl h
  | writeProcessedImage i processedImage =>
    cases hawaiting : filter.awaiting i with
    | none =>
      rw [filter.call_writeProcessedImage_of_none N hawaiting]
      exact hsame filter _ _ rfl h
    | some pending =>
      rw [filter.call_writeProcessedImage_of_some N hawaiting]
      exact h.answer i _ (handedOut_writeProcessedImage t i processedImage)
  | discardRecord i =>
    cases hawaiting : filter.awaiting i with
    | none =>
      rw [filter.call_discardRecord_of_none N hawaiting]
      exact hsame filter _ _ rfl h
    | some pending =>
      rw [filter.call_discardRecord_of_some N hawaiting]
      exact h.answer i none (handedOut_discardRecord t i)

/-! ## Closing -/

theorem pendingRecords_eq_nil_of_closeFile (h : (filter.closeFile N).1 = 0) :
    filter.pendingRecords.entries = [] := by
  unfold closeFile at h
  split at h
  · exact absurd h L.failure_ne_zero
  · rename_i hempty
    exact not_not.1 hempty

/-- With nothing pending, a record handed out is created or was discarded. -/
theorem Buffered.created_or_discarded (h : Buffered N filter₀ filter t)
    (hempty : filter.pendingRecords.entries = []) {i : ℕ} (hi : i ∈ handedOut t) :
    IsCreated filter.output i ∨ i ∈ discarded t := by
  rw [or_iff_not_imp_right]
  intro hdiscarded
  obtain ⟨pending, hvalue⟩ : ∃ pending, value N filter₀ t i = some pending := by
    unfold value
    rw [if_neg hdiscarded]
    split
    · exact ⟨_, rfl⟩
    · exact ⟨_, rfl⟩
  have hentry : (i, pending) ∈ (handedOut t).filterMap
      (ReorderBuffer.entry (value N filter₀ t)) :=
    ReorderBuffer.mem_filterMap_entry.2 ⟨hi, hvalue⟩
  rw [← ReorderBuffer.released_append_held ready, ← h.holds, hempty,
    List.append_nil] at hentry
  have hprocessed : (i, filter₀.processedRecord i pending) ∈ processed filter.output := by
    rw [h.processed_eq]
    exact List.mem_map.2 ⟨_, hentry, rfl⟩
  obtain ⟨event, hevent, heq⟩ := List.mem_filterMap.1 hprocessed
  cases event with
  | processed j record =>
    cases heq
    exact ⟨_, .inr hevent⟩
  | copied | recordDecoded => cases heq

theorem Buffered.finished_of_mem (h : Buffered N filter₀ filter t) {i : ℕ}
    (hi : i ∈ handedOut t) : (N.readRecord i).finished = true :=
  finished_of_asideAt (h.handedOut_aside i hi)

theorem Buffered.handedOut_of_processed (h : Buffered N filter₀ filter t) {i : ℕ}
    {record : OutputRecord L} (hmem : .processed i record ∈ filter.output) : i ∈ handedOut t := by
  have hprocessed : (i, record) ∈ processed filter.output :=
    List.mem_filterMap.2 ⟨_, hmem, rfl⟩
  exact (h.inOrder.once i record hprocessed).1

/-- **When nothing is lost**: a file closed with success has every selected record, but those
discarded, exactly when every selected record was read with success. -/
theorem nothing_lost_iff (F : FilteredFileReader L) (N : FilterNative L)
    (calls : List FilterCall) :
    let created := ((new : OssAsyncImageFilter L).createOutputFile F N).2
    let filter := Machine.exec (call N) created calls
    (filter.closeFile N).1 = 0 →
      (NothingLost N filter (Machine.trace (call N) created calls) ↔ AllRead N filter) := by
  intro created filter hclose
  have hstarted : Started created F := started_createOutputFile N F
  obtain ⟨hcovered, hbuffered⟩ : Covered N filter (Machine.trace (call N) created calls) ∧
      Buffered N created filter (Machine.trace (call N) created calls) :=
    Machine.exec_trace_of_invariant (m := call N)
      (I := fun filter t => Covered N filter t ∧ Buffered N created filter t)
      (fun filter t c h => ⟨h.1.call h.2 hstarted.copiers_ne_none c, h.2.call c⟩)
      ⟨hstarted.covered, hstarted.buffered⟩ calls
  have hempty := pendingRecords_eq_nil_of_closeFile hclose
  constructor
  · intro hnothing
    refine ⟨le_antisymm hbuffered.next_le ?_, fun i hi => ⟨(hnothing i hi).2.1, ?_⟩⟩
    · by_contra hlt
      exact absurd (hnothing _ (not_le.1 hlt)).1 (lt_irrefl _)
    · rcases (hnothing i hi).2.2 with ⟨record, hmem | hmem⟩ | ⟨hmem, -⟩
      · exact hcovered.finished i record hmem
      · exact hbuffered.finished_of_mem (hbuffered.handedOut_of_processed hmem)
      · exact hbuffered.finished_of_mem hmem
  · rintro ⟨hend, hall⟩ i hi
    obtain ⟨hstatus, hfinished⟩ := hall i hi
    have hlt : i < filter.nextRecordIndex := hend.symm ▸ hi
    refine ⟨hlt, hstatus, ?_⟩
    rcases hcovered.covered i hlt hfinished with ⟨record, hmem⟩ | hmem
    · exact .inl ⟨record, .inl hmem⟩
    · exact (hbuffered.created_or_discarded hempty hmem).imp_right fun hdiscarded =>
        ⟨hmem, hdiscarded⟩

theorem nothing_lost_iff_of_twoImages :
    let created := ((new : OssAsyncImageFilter .bare).createOutputFile twoImages twoImagesNative).2
    let calls := [.getNextImage, .getNextImage, .discardRecord 1, .writeProcessedImage 0 [9]]
    let filter := Machine.exec (call twoImagesNative) created calls
    (filter.closeFile twoImagesNative).1 = 0 ∧
      (NothingLost twoImagesNative filter (Machine.trace (call twoImagesNative) created calls) ↔
        AllRead twoImagesNative filter) :=
  ⟨by decide, nothing_lost_iff twoImages twoImagesNative
    [.getNextImage, .getNextImage, .discardRecord 1, .writeProcessedImage 0 [9]] (by decide)⟩

/-- A file closed before anything was read is empty. -/
theorem not_nothingLost :
    ¬∀ (L : VrsLib) (F : FilteredFileReader L) (N : FilterNative L) (calls : List FilterCall),
      let created := ((new : OssAsyncImageFilter L).createOutputFile F N).2
      let filter := Machine.exec (call N) created calls
      (filter.closeFile N).1 = 0 →
        NothingLost N filter (Machine.trace (call N) created calls) := by
  intro h
  have hlost := h .bare twoImages twoImagesNative [] (by decide) 0 (by decide)
  exact absurd hlost.1 (by decide)

end OssAsyncImageFilter

end Pyvrs
