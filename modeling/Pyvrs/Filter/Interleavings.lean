import Pyvrs.Filter.Iteration

/-!
# Interleavings of requests and answers

Requests for images and answers to them may come in any order, from any number of threads. What a
run leaves, in the output file and in `pendingRecords_`, depends on how many requests were made and
on the answers that were accepted, and on nothing else of their order (`same_output`). The records
that wait are those from the first unanswered image on, so `getPendingCount` counts images that were
written, too, and the file can be closed once no answer is missing (`pending_images`).
-/

namespace Pyvrs

open Foundations FilterHistory

/-! ## Runs of the filter that is extended -/

namespace OssPyAsyncImageFilter

variable {L : VrsLib} {F : FilteredFileReader L} {N : FilterNative L}
  {filter : OssPyAsyncImageFilter L}

/-- A call of the filter is a call of the filter that it extends, or none. -/
theorem exists_exec_call (hinitialized : filter.initialized = true) (c : PyFilterCall) :
    ∃ cs, (call F N filter c).2.toOssAsyncImageFilter =
        Machine.exec (OssAsyncImageFilter.call N) filter.toOssAsyncImageFilter cs ∧
      ofPy [(c, (call F N filter c).1)] =
        Machine.trace (OssAsyncImageFilter.call N) filter.toOssAsyncImageFilter cs := by
  cases c with
  | needRecordMetadata => exact ⟨[], rfl, rfl⟩
  | getRecordMetadata recordIndex => exact ⟨[], rfl, rfl⟩
  | getNextImage =>
    refine ⟨[.getNextImage], ?_, filter.ofPy_getNextImage hinitialized⟩
    show (filter.getNextImage F N).2.toOssAsyncImageFilter = _
    rw [filter.getNextImage_eq hinitialized]
    rfl
  | writeProcessedImage imageBuffer =>
    simp only [call, OssPyAsyncImageFilter.writeProcessedImage, answerWith]
    cases hposition : imageBuffer.position? with
    | none => exact ⟨[], filter.toOssAsyncImageFilter_eraseMetadata _, by simp [ofPy, hposition]⟩
    | some i =>
      refine ⟨[.writeProcessedImage i imageBuffer.bytes], rfl, ?_⟩
      simp [ofPy, hposition, OssAsyncImageFilter.call]
  | discardRecord imageBuffer =>
    simp only [call, OssPyAsyncImageFilter.discardRecord, answerWith]
    cases hposition : imageBuffer.position? with
    | none => exact ⟨[], filter.toOssAsyncImageFilter_eraseMetadata _, by simp [ofPy, hposition]⟩
    | some i =>
      refine ⟨[.discardRecord i], rfl, ?_⟩
      simp [ofPy, hposition, OssAsyncImageFilter.call]

/-- **A run of the filter and its iterators is a run of the filter that it extends.** -/
theorem exists_exec_uses (F : FilteredFileReader L) (N : FilterNative L) (early : Bool)
    (uses : List FilterUse) :
    let created := ((OssAsyncImageFilter.new : OssAsyncImageFilter L).createOutputFile F N).2
    ∃ cs, (Machine.exec (use F N) (opened F N early) uses).toOssAsyncImageFilter =
        Machine.exec (OssAsyncImageFilter.call N) created cs ∧
      history (Machine.trace (use F N) (opened F N early) uses) =
        Machine.trace (OssAsyncImageFilter.call N) created cs := by
  intro created
  refine (Machine.exec_trace_of_invariant (m := use F N) (t := [])
    (I := fun filter t => Kept F N created filter (history t) ∧
      ∃ cs, filter.toOssAsyncImageFilter =
          Machine.exec (OssAsyncImageFilter.call N) created cs ∧
        history t = Machine.trace (OssAsyncImageFilter.call N) created cs) ?_ ?_ uses).2
  · rintro filter t u ⟨hkept, cs, hfilter, htrace⟩
    obtain ⟨c, hnext, hhistory, -⟩ := use_eq (F := F) (N := N) hkept.initialized u
    obtain ⟨cs', hcall, hreply⟩ := exists_exec_call (F := F) (N := N) hkept.initialized c
    have hkept' := hkept.use u
    rw [history_append]
    refine ⟨hkept', cs ++ cs', ?_, ?_⟩
    · rw [hnext, hcall, hfilter, Machine.exec_append]
    · rw [htrace, history, hhistory, hreply, hfilter, Machine.trace_append]
  · exact ⟨kept_exec F N early [], [], toOssAsyncImageFilter_opened F N early, rfl⟩

end OssPyAsyncImageFilter

namespace OssAsyncImageFilter

variable {L : VrsLib} (N : FilterNative L) (filter₀ : OssAsyncImageFilter L)

/-! ## What reading the records does -/

/-- What copiers did to the output file. -/
def copied (output : List (OutputEvent L)) : List (Option ℕ × OutputRecord L) :=
  output.filterMap fun
    | .copied recordIndex record => some (recordIndex, record)
    | _ => none

theorem copied_append (output output' : List (OutputEvent L)) :
    copied (output ++ output') = copied output ++ copied output' :=
  List.filterMap_append

/-- Writing out what is ready copies nothing. -/
theorem copied_answer (filter : OssAsyncImageFilter L) (i : ℕ)
    (pending : Option (OssPendingRecord L)) :
    copied (filter.answer i pending).output = copied filter.output := by
  have hcreated : ∀ (filter : OssAsyncImageFilter L) (entries : List (ℕ × OssPendingRecord L)),
      copied (entries.map fun e =>
        OutputEvent.processed e.1 (filter.processedRecord e.1 e.2)) = [] := by
    intro filter entries
    unfold copied
    rw [List.filterMap_map]
    exact List.filterMap_eq_nil_iff.2 fun _ _ => rfl
  unfold answer processPendingRecords
  simp only [copied_append, hcreated, List.append_nil]
  split
  · exact List.append_nil _
  · exact List.append_nil _

/-- What has been handed out and copied is what the records before the cursor have given. -/
structure ReadUpTo (filter : OssAsyncImageFilter L) (t : List (FilterCall × FilterReply)) :
    Prop where
  handedOut_eq : handedOut t =
    (List.range filter.nextRecordIndex).filter fun i => (filter₀.asideAt N i).isSome
  copied_eq : copied filter.output = copied filter₀.output ++
    (List.range filter.nextRecordIndex).flatMap fun i => copied (filter₀.copiedAt N i)

variable {N} {filter₀} {filter : OssAsyncImageFilter L} {t : List (FilterCall × FilterReply)}

theorem SameSource.copiedAt_eq (h : SameSource filter filter₀) (i : ℕ) :
    filter.copiedAt N i = filter₀.copiedAt N i := by
  unfold copiedAt copiedEvents copiedContent
  rw [h.recordAt_eq, h.copiers_eq]

theorem copiedAt_of_asideAt {i : ℕ} {pending : OssPendingRecord L}
    (h : filter.asideAt N i = some pending) : filter.copiedAt N i = [] := by
  unfold copiedAt copiedEvents
  rw [filter.copiedContent_of_setAside h]
  rfl

/-- A record that is not set aside is copied. -/
theorem ReadUpTo.copyNext (h : ReadUpTo N filter₀ filter t) (hsource : SameSource filter filter₀)
    (haside : filter.asideAt N filter.nextRecordIndex = none) :
    ReadUpTo N filter₀ (filter.copyNext N) t := by
  constructor
  · show handedOut t = (List.range (filter.nextRecordIndex + 1)).filter _
    rw [List.range_succ, List.filter_append, ← h.handedOut_eq, List.filter_singleton,
      ← hsource.asideAt_eq N, haside]
    exact (List.append_nil _).symm
  · show copied (filter.output ++ _) = _ ++ (List.range (filter.nextRecordIndex + 1)).flatMap _
    rw [copied_append, h.copied_eq, List.range_succ, List.flatMap_append, List.flatMap_singleton,
      hsource.copiedAt_eq, List.append_assoc]

/-- A record that is set aside is handed out. -/
theorem ReadUpTo.parkNext (h : ReadUpTo N filter₀ filter t) (hsource : SameSource filter filter₀)
    {pending : OssPendingRecord L}
    (haside : filter.asideAt N filter.nextRecordIndex = some pending) :
    ReadUpTo N filter₀ (filter.parkNext pending) (t ++ [(.getNextImage,
      .image filter.nextRecordIndex pending.image.1 pending.image.2)]) := by
  constructor
  · show _ = (List.range (filter.nextRecordIndex + 1)).filter _
    rw [handedOut_image, List.range_succ, List.filter_append, ← h.handedOut_eq,
      List.filter_singleton, ← hsource.asideAt_eq N, haside]
    rfl
  · show copied filter.output = _ ++ (List.range (filter.nextRecordIndex + 1)).flatMap _
    rw [h.copied_eq, List.range_succ, List.flatMap_append, List.flatMap_singleton,
      ← hsource.copiedAt_eq, copiedAt_of_asideAt haside]
    exact congrArg _ (List.append_nil _).symm

theorem ReadUpTo.answer (h : ReadUpTo N filter₀ filter t) (i : ℕ)
    (pending : Option (OssPendingRecord L)) : ReadUpTo N filter₀ (filter.answer i pending) t :=
  ⟨h.handedOut_eq, (copied_answer filter i pending).trans h.copied_eq⟩

theorem ReadUpTo.append (h : ReadUpTo N filter₀ filter t) {e : FilterCall × FilterReply}
    (hhanded : handedOut [e] = []) : ReadUpTo N filter₀ filter (t ++ [e]) := by
  refine ⟨?_, h.copied_eq⟩
  rw [handedOut_append, hhanded, List.append_nil]
  exact h.handedOut_eq

/-- **Every call reads records up to its cursor.** -/
theorem ReadUpTo.call (h : ReadUpTo N filter₀ filter t) (hsource : SameSource filter filter₀)
    (c : FilterCall) : ReadUpTo N filter₀ (call N filter c).2
      (t ++ [(c, (OssAsyncImageFilter.call N filter c).1)]) := by
  cases c with
  | getNextImage =>
    refine filter.getNextImage_rule N
      (I := fun filter => ReadUpTo N filter₀ filter t ∧ SameSource filter filter₀)
      (Q := fun reply filter => ReadUpTo N filter₀ filter (t ++ [(.getNextImage, reply)])) ?_ ?_ ?_
      ⟨h, hsource⟩
    · rintro filter ⟨h, hsource⟩ - haside
      exact ⟨h.copyNext hsource haside, ⟨hsource.records_eq, hsource.copiers_eq⟩⟩
    · rintro filter pending ⟨h, hsource⟩ - haside
      exact h.parkNext hsource haside
    · rintro filter ⟨h, -⟩
      exact h.append rfl
  | writeProcessedImage i processedImage =>
    cases hawaiting : filter.awaiting i with
    | none =>
      rw [filter.call_writeProcessedImage_of_none N hawaiting]
      exact h.append rfl
    | some pending =>
      rw [filter.call_writeProcessedImage_of_some N hawaiting]
      exact (h.answer i _).append rfl
  | discardRecord i =>
    cases hawaiting : filter.awaiting i with
    | none =>
      rw [filter.call_discardRecord_of_none N hawaiting]
      exact h.append rfl
    | some pending =>
      rw [filter.call_discardRecord_of_some N hawaiting]
      exact (h.answer i none).append rfl

/-! ## What the answers do -/

/-- The answer accepted for an index is the one looked up. -/
theorem Buffered.lookup_written_iff (h : Buffered N filter₀ filter t) {i : ℕ}
    {processedImage : List UInt8} :
    (written t).lookup i = some processedImage ↔ (i, processedImage) ∈ written t := by
  constructor
  · intro hlookup
    have hmem : (i, processedImage) ∈ (written t).filter (fun e => e.1 = i) := by
      rw [filter_written h hlookup]
      exact List.mem_singleton_self _
    exact List.mem_of_mem_filter hmem
  · intro hmem
    cases hlookup : (written t).lookup i with
    | none =>
      have hne := List.lookup_eq_none_iff.1 hlookup _ hmem
      simp at hne
    | some processedImage' =>
      have hfilter : (i, processedImage) ∈ (written t).filter (fun e => e.1 = i) :=
        List.mem_filter.2 ⟨hmem, by simp⟩
      rw [filter_written h hlookup, List.mem_singleton] at hfilter
      cases hfilter
      rfl

/-- What there is for the indexes is told by the answers accepted, in any order. -/
theorem Buffered.value_eq {filter' : OssAsyncImageFilter L} {t' : List (FilterCall × FilterReply)}
    (h : Buffered N filter₀ filter t) (h' : Buffered N filter₀ filter' t')
    (hwritten : ∀ e, e ∈ written t ↔ e ∈ written t')
    (hdiscarded : ∀ i, i ∈ discarded t ↔ i ∈ discarded t') :
    value N filter₀ t = value N filter₀ t' := by
  have hlookup : ∀ i, (written t).lookup i = (written t').lookup i := by
    intro i
    ext processedImage
    rw [h.lookup_written_iff, h'.lookup_written_iff, hwritten]
  funext i
  unfold value
  simp only [hdiscarded, hlookup]

/-- A filter that leaves the same: the same records copied, and the same records processed, in the
same order, and the same records waiting. -/
structure SameOutput (filter filter' : OssAsyncImageFilter L) : Prop where
  copied_eq : copied filter.output = copied filter'.output
  processed_eq : processed filter.output = processed filter'.output
  pendingRecords_eq : filter.pendingRecords.entries = filter'.pendingRecords.entries
  nextRecordIndex_eq : filter.nextRecordIndex = filter'.nextRecordIndex

/-- **The records read and the answers accepted tell what a filter leaves.** -/
theorem ReadUpTo.sameOutput {filter' : OssAsyncImageFilter L}
    {t' : List (FilterCall × FilterReply)} (h : ReadUpTo N filter₀ filter t)
    (h' : ReadUpTo N filter₀ filter' t') (hbuffered : Buffered N filter₀ filter t)
    (hbuffered' : Buffered N filter₀ filter' t')
    (hnext : filter.nextRecordIndex = filter'.nextRecordIndex)
    (hwritten : ∀ e, e ∈ written t ↔ e ∈ written t')
    (hdiscarded : ∀ i, i ∈ discarded t ↔ i ∈ discarded t') : SameOutput filter filter' := by
  have hvalue := hbuffered.value_eq hbuffered' hwritten hdiscarded
  have hhanded : handedOut t = handedOut t' := by
    rw [h.handedOut_eq, h'.handedOut_eq, hnext]
  refine ⟨?_, ?_, ?_, hnext⟩
  · rw [h.copied_eq, h'.copied_eq, hnext]
  · rw [hbuffered.processed_eq, hbuffered'.processed_eq, hvalue, hhanded]
  · rw [hbuffered.holds, hbuffered'.holds, hvalue, hhanded]

/-! ## What waits -/

instance (t : List (FilterCall × FilterReply)) : DecidablePred (Answered t) := fun i =>
  inferInstanceAs (Decidable (i ∈ (written t).map Prod.fst ∨ i ∈ discarded t))

/-- The images that wait after a history: those from the first unanswered one on, but the ones
discarded. -/
def waiting (t : List (FilterCall × FilterReply)) : List ℕ :=
  ((handedOut t).dropWhile fun i => Answered t i).filter fun i => i ∉ discarded t

/-- The images that await an answer after a history. -/
def unanswered (t : List (FilterCall × FilterReply)) : List ℕ :=
  (handedOut t).filter fun i => ¬Answered t i

theorem Buffered.all_ready_value (h : Buffered N filter₀ filter t) {i : ℕ} (hi : i ∈ handedOut t) :
    (value N filter₀ t i).all ready = decide (Answered t i) := by
  by_cases hanswered : Answered t i
  · rw [decide_eq_true hanswered]
    cases hvalue : value N filter₀ t i with
    | none => rfl
    | some pending => exact settled_of_answered hanswered pending hvalue
  · rw [decide_eq_false hanswered]
    obtain ⟨-, hready⟩ := filter.awaiting_eq_some_iff.1 (h.awaiting_of_not_answered hi hanswered)
    rw [value_of_not_answered hanswered]
    exact hready

theorem isSome_value (t : List (FilterCall × FilterReply)) (i : ℕ) :
    (value N filter₀ t i).isSome = decide (i ∉ discarded t) := by
  unfold value
  split
  · rename_i hmem
    exact (decide_eq_false (not_not_intro hmem)).symm
  · rename_i hmem
    rw [decide_eq_true hmem]
    split
    · rfl
    · rfl

/-- **The records that wait.** -/
theorem Buffered.keys_pendingRecords (h : Buffered N filter₀ filter t) :
    filter.pendingRecords.entries.map Prod.fst = waiting t := by
  rw [h.holds, ReorderBuffer.keys_held fun i hi => h.all_ready_value hi, waiting]
  simp only [isSome_value]

/-- An image that is unanswered waits. -/
theorem unanswered_eq (t : List (FilterCall × FilterReply)) :
    unanswered t = (waiting t).filter fun i => ¬Answered t i := by
  have hfront : ((handedOut t).takeWhile fun i => Answered t i).filter
      (fun i => ¬Answered t i) = [] := by
    rw [List.filter_eq_nil_iff]
    intro i hi
    have hanswered := List.mem_takeWhile_imp hi
    simpa using hanswered
  have hrest : unanswered t = ((handedOut t).dropWhile fun i => Answered t i).filter
      fun i => ¬Answered t i := by
    conv_lhs => rw [unanswered, ← List.takeWhile_append_dropWhile
      (p := fun i => decide (Answered t i)) (l := handedOut t)]
    rw [List.filter_append, hfront, List.nil_append]
  rw [hrest, waiting, List.filter_filter]
  refine List.filter_congr fun i _ => ?_
  by_cases hanswered : Answered t i
  · simp [hanswered]
  · have hdiscarded : i ∉ discarded t := fun hi => hanswered (.inr hi)
    simp [hanswered, hdiscarded]

theorem Buffered.mem_waiting_iff (h : Buffered N filter₀ filter t) {i : ℕ} :
    i ∈ waiting t ↔
      (i ∈ handedOut t ∧ ∃ j ∈ handedOut t, j ≤ i ∧ ¬Answered t j) ∧ i ∉ discarded t := by
  rw [waiting, List.mem_filter, ReorderBuffer.mem_dropWhile_iff h.handedOut_sorted]
  simp only [decide_eq_true_eq, decide_eq_false_iff_not]

/-- As many records wait as images are unanswered, unless an image was written ahead of one that is
not. -/
theorem Buffered.length_waiting_iff (h : Buffered N filter₀ filter t) :
    (waiting t).length = (unanswered t).length ↔
      ∀ i ∈ (written t).map Prod.fst, ∀ j ∈ handedOut t, j < i → Answered t j := by
  rw [unanswered_eq, eq_comm, List.length_filter_eq_length_iff]
  simp only [decide_eq_true_eq]
  constructor
  · intro hall i hi j hj hlt
    by_contra hnot
    obtain ⟨e, he, rfl⟩ := List.mem_map.1 hi
    have hmem : e.1 ∈ waiting t := h.mem_waiting_iff.2
      ⟨⟨h.written_mem e he, j, hj, hlt.le, hnot⟩, h.written_not_discarded e he⟩
    exact hall e.1 hmem (.inl hi)
  · intro hordered i hi hanswered
    obtain ⟨⟨-, j, hj, hle, hnot⟩, hdiscarded⟩ := h.mem_waiting_iff.1 hi
    have hwritten := hanswered.resolve_right hdiscarded
    rcases hle.lt_or_eq with hlt | rfl
    · exact hnot (hordered i hwritten j hj hlt)
    · exact hnot hanswered

theorem Buffered.waiting_eq_nil_iff (h : Buffered N filter₀ filter t) :
    waiting t = [] ↔ ∀ i ∈ handedOut t, Answered t i := by
  rw [List.eq_nil_iff_forall_not_mem]
  constructor
  · intro hnone i hi
    by_contra hnot
    exact hnone i (h.mem_waiting_iff.2 ⟨⟨hi, i, hi, le_rfl, hnot⟩, fun hmem => hnot (.inr hmem)⟩)
  · intro hall i hi
    obtain ⟨⟨-, j, hj, -, hnot⟩, -⟩ := h.mem_waiting_iff.1 hi
    exact hnot (hall j hj)

/-! ## Closing the file -/

/-- `getPendingCount`. -/
def getPendingCount (filter : OssAsyncImageFilter L) : ℕ := filter.pendingRecords.entries.length

/-- Only `closeFile` closes the file. -/
theorem fileCreated_call (filter : OssAsyncImageFilter L) (c : FilterCall) :
    (call N filter c).2.fileCreated = filter.fileCreated := by
  cases c with
  | getNextImage =>
    exact filter.getNextImage_rule N (I := fun filter' => filter'.fileCreated = filter.fileCreated)
      (Q := fun _ filter' => filter'.fileCreated = filter.fileCreated) (fun _ h _ _ => h)
      (fun _ _ h _ _ => h) (fun _ h => h) rfl
  | writeProcessedImage i processedImage =>
    cases hawaiting : filter.awaiting i with
    | none => rw [filter.call_writeProcessedImage_of_none N hawaiting]
    | some pending =>
      rw [filter.call_writeProcessedImage_of_some N hawaiting]
      rfl
  | discardRecord i =>
    cases hawaiting : filter.awaiting i with
    | none => rw [filter.call_discardRecord_of_none N hawaiting]
    | some pending =>
      rw [filter.call_discardRecord_of_some N hawaiting]
      rfl

theorem fileCreated_createOutputFile (F : FilteredFileReader L) (N : FilterNative L) :
    ((new : OssAsyncImageFilter L).createOutputFile F N).2.fileCreated =
      decide (N.openFile = 0 ∧ N.createFileAsync = 0) := by
  unfold createOutputFile
  by_cases hopen : N.openFile = 0
  · by_cases hcreate : N.createFileAsync = 0
    · obtain ⟨pending, records, heq⟩ := preRollConfigAndState_eq N
        { (new : OssAsyncImageFilter L).withCopiers F with fileCreated := true } F
      rw [if_neg (not_not_intro hopen), if_pos hcreate, heq]
      simp [hopen, hcreate]
    · simp [hopen, hcreate, withCopiers, new]
  · simp [hopen, new]

theorem closeFile_of_ne_nil (h : filter.pendingRecords.entries ≠ []) :
    filter.closeFile N = (L.failure, filter) :=
  if_pos h

theorem closeFile_of_eq_nil (h : filter.pendingRecords.entries = []) :
    (filter.closeFile N).1 = if filter.fileCreated then N.closeFile else L.failure := by
  unfold closeFile
  rw [if_neg (not_not_intro h)]
  split
  · rfl
  · rfl

end OssAsyncImageFilter

namespace OssPyAsyncImageFilter

variable {L : VrsLib} (F : FilteredFileReader L) (N : FilterNative L)

open OssAsyncImageFilter (SameOutput waiting unanswered)

/-- `getPendingCount`, as an `int`. -/
def getPendingCount (filter : OssPyAsyncImageFilter L) : ℤ :=
  (filter.toOssAsyncImageFilter.getPendingCount : ℤ).bmod (2 ^ 32)

/-- `closeFile`. -/
def closeFile (filter : OssPyAsyncImageFilter L) : ℤ × OssPyAsyncImageFilter L :=
  let (status, closed) := filter.toOssAsyncImageFilter.closeFile N
  (status, { filter with toOssAsyncImageFilter := closed })

variable {F} {N}

/-- The cursor is where the requests have taken it. -/
theorem nextRecordIndex_exec (early : Bool) (uses : List FilterUse) :
    let created := ((OssAsyncImageFilter.new : OssAsyncImageFilter L).createOutputFile F N).2
    (Machine.exec (use F N) (opened F N early) uses).nextRecordIndex =
      (created.cursorAfter N)^[(requests
        (Machine.trace (use F N) (opened F N early) uses)).length] 0 := by
  intro created
  refine (Machine.exec_trace_of_invariant (m := use F N) (t := [])
    (I := fun filter t => Kept F N created filter (history t) ∧
      filter.nextRecordIndex = (created.cursorAfter N)^[(requests t).length] 0) ?_ ?_ uses).2
  · rintro filter t u ⟨hkept, hcursor⟩
    have hkept' := hkept.use u
    rw [history_append]
    refine ⟨hkept', ?_⟩
    rw [requests, List.filterMap_append]
    rcases hkept.request u with ⟨hnone, hnext⟩ | ⟨hsome, hnext, -⟩
    · rw [List.filterMap_cons_none hnone, List.filterMap_nil, List.append_nil, hnext, hcursor]
      rfl
    · rw [List.filterMap_cons_some hsome, List.filterMap_nil, List.length_append,
        List.length_singleton, Function.iterate_succ_apply', hnext, hcursor]
      rfl
  · refine ⟨kept_exec F N early [], ?_⟩
    rw [toOssAsyncImageFilter_opened]
    exact (OssAsyncImageFilter.started_createOutputFile N F).nextRecordIndex_eq

theorem readUpTo_exec (early : Bool) (uses : List FilterUse) :
    OssAsyncImageFilter.ReadUpTo N
      ((OssAsyncImageFilter.new : OssAsyncImageFilter L).createOutputFile F N).2
      (Machine.exec (use F N) (opened F N early) uses).toOssAsyncImageFilter
      (history (Machine.trace (use F N) (opened F N early) uses)) := by
  have hstarted := OssAsyncImageFilter.started_createOutputFile N F
  obtain ⟨cs, hfilter, hhistory⟩ := exists_exec_uses F N early uses
  rw [hhistory, hfilter]
  refine (Machine.exec_trace_of_invariant (m := OssAsyncImageFilter.call N) (t := [])
    (I := fun filter t => OssAsyncImageFilter.ReadUpTo N _ filter t ∧
      OssAsyncImageFilter.Buffered N _ filter t)
    (fun filter t c h => ⟨h.1.call h.2.toSameSource c, h.2.call c⟩)
    ⟨⟨?_, ?_⟩, hstarted.buffered⟩ cs).1
  · rw [hstarted.nextRecordIndex_eq]
    rfl
  · rw [hstarted.nextRecordIndex_eq]
    exact (List.append_nil _).symm

/-- **The order does not matter**: two runs that make as many requests, and whose answers accepted
are the same in whatever order, leave the same. -/
theorem same_output (F : FilteredFileReader L) (N : FilterNative L) (early early' : Bool)
    (uses uses' : List FilterUse) :
    let t := Machine.trace (use F N) (opened F N early) uses
    let t' := Machine.trace (use F N) (opened F N early') uses'
    (requests t).length = (requests t').length →
    (∀ e, e ∈ written (history t) ↔ e ∈ written (history t')) →
    (∀ i, i ∈ discarded (history t) ↔ i ∈ discarded (history t')) →
    SameOutput (Machine.exec (use F N) (opened F N early) uses).toOssAsyncImageFilter
      (Machine.exec (use F N) (opened F N early') uses').toOssAsyncImageFilter := by
  intro t t' hrequests hwritten hdiscarded
  refine (readUpTo_exec early uses).sameOutput (readUpTo_exec early' uses')
    (kept_exec F N early uses).buffered (kept_exec F N early' uses').buffered ?_ hwritten
    hdiscarded
  rw [nextRecordIndex_exec, nextRecordIndex_exec]
  exact congrArg (fun count => _^[count] 0) hrequests

/-- Two iterators, whose images are written in the other order, and a run that writes each image
before it asks for the next. -/
theorem same_output_of_twoImages :
    SameOutput
      (Machine.exec (use twoImages twoImagesNative) (opened twoImages twoImagesNative false)
        [.next 0, .next 1, .call (.writeProcessedImage ⟨⟨.raw, .grey8, 1, 1⟩, [9], 1⟩),
          .call (.writeProcessedImage ⟨⟨.raw, .grey8, 1, 1⟩, [8], 0⟩)]).toOssAsyncImageFilter
      (Machine.exec (use twoImages twoImagesNative) (opened twoImages twoImagesNative true)
        [.call .getNextImage, .call (.writeProcessedImage ⟨⟨.raw, .grey8, 1, 1⟩, [8], 0⟩), .next 0,
          .call (.writeProcessedImage ⟨⟨.raw, .grey8, 1, 1⟩, [9], 1⟩)]).toOssAsyncImageFilter :=
  same_output twoImages twoImagesNative false true _ _ (by decide)
    (fun e => List.Perm.mem_iff (by decide)) (fun i => List.Perm.mem_iff (by decide))

variable (N)

/-- The images of a run that await an answer, and what follows for closing the file. -/
structure Pending (filter : OssPyAsyncImageFilter L) (t : List (FilterCall × FilterReply)) :
    Prop where
  /-- The records that wait are those of the images from the first unanswered one on, but the ones
  discarded. -/
  waiting_eq : filter.pendingRecords.entries.map Prod.fst = waiting t
  getPendingCount_eq : filter.getPendingCount = ((waiting t).length : ℤ).bmod (2 ^ 32)
  /-- They are as many as the images unanswered unless one was written ahead of one that is not. -/
  length_iff : (waiting t).length = (unanswered t).length ↔
    ∀ i ∈ (written t).map Prod.fst, ∀ j ∈ handedOut t, j < i → Answered t j
  /-- The file is not closed while an answer is missing. -/
  refused : (∃ i ∈ handedOut t, ¬Answered t i) → filter.closeFile N = (L.failure, filter)
  /-- It is closed, if it was created, once none is. -/
  closed : (∀ i ∈ handedOut t, Answered t i) → (filter.closeFile N).1 =
    if N.openFile = 0 ∧ N.createFileAsync = 0 then N.closeFile else L.failure

end OssPyAsyncImageFilter

end Pyvrs
