import Mathlib.Data.List.Sort
import Pyvrs.Filter.EveryImage
import Pyvrs.Filter.Interleavings
import Pyvrs.Filter.NothingLost
import Pyvrs.Filter.Watermark
import Pyvrs.Foundations.BatchQueue

/-!
# The output file of a filter

Records that are created in the output file wait in its writer until a watermark lets the throttled
writer write some of them out, or the file is closed. As no record is below a watermark, the file is
in time order wherever the throttled writer chose to write (`ThrottledWriter.filed_file`). And what
is in it is told record by record: each record read is copied, or has its image replaced by the one
written for it, or is left out if it was discarded (`filteredRecord`). So a run of the filter, up to
the close that ends it, maps the records of its input (`closed_file`).
-/

namespace Pyvrs

open Foundations FilterHistory

variable {L : VrsLib}

/-! ## The throttled writer -/

/-- `ThrottledWriter` of vrs, whose grace window the filter has set to 0, and the `RecordFileWriter`
that it writes with. -/
structure ThrottledWriter (L : VrsLib) where
  /-- The order in which the records taken together are written. -/
  sortRecords : List (OutputRecord L) → List (OutputRecord L)
  sortRecords_perm : ∀ records, (sortRecords records).Perm records
  sortRecords_sorted : ∀ records, (∀ record ∈ records, record.timestamp.IsNum) →
    (sortRecords records).Pairwise fun a b => a.timestamp ≤ b.timestamp
  /-- Up to when `onRecordDecoded` writes records, if it does, at the `k`-th event of the output. -/
  writeUpTo : ℕ → Timestamp → Option Timestamp
  writeUpTo_le : ∀ k t time, writeUpTo k t = some time → time ≤ t

namespace ThrottledWriter

variable (W : ThrottledWriter L)

/-- What an event does to the records written and to those that wait. -/
def onEvent (k : ℕ) (q : BatchQueue (OutputRecord L)) :
    OutputEvent L → BatchQueue (OutputRecord L)
  | .copied _ record | .processed _ record => q.push record
  | .recordDecoded t =>
    match W.writeUpTo k t with
    | some time => q.drain W.sortRecords fun record => record.timestamp ≤ time
    | none => q

/-- What the events from the `k`-th one on do. -/
def onEvents : ℕ → BatchQueue (OutputRecord L) → List (OutputEvent L) →
    BatchQueue (OutputRecord L)
  | _, q, [] => q
  | k, q, event :: events => onEvents (k + 1) (W.onEvent k q event) events

/-- The records of the file once it is closed, in their order. -/
def file (output : List (OutputEvent L)) : List (OutputRecord L) :=
  ((W.onEvents 0 {} output).drain W.sortRecords fun _ => true).written

/-- The events have created the records written and those that wait; what is written is in time
order, before all that waits and not past the watermarks. -/
structure Filed (q : BatchQueue (OutputRecord L)) (output : List (OutputEvent L)) : Prop where
  ordered : q.Ordered fun a b => a.timestamp ≤ b.timestamp
  perm : q.contents.Perm (output.filterMap OutputEvent.created)
  behind : ∀ record ∈ q.written, ∃ t, .recordDecoded t ∈ output ∧ record.timestamp ≤ t

/-- A watermark creates nothing. -/
theorem filterMap_created_recordDecoded (output : List (OutputEvent L)) (t : Timestamp) :
    (output ++ [OutputEvent.recordDecoded t]).filterMap OutputEvent.created =
      output.filterMap OutputEvent.created :=
  List.filterMap_append.trans (List.append_nil _)

theorem filed_nil : Filed ({} : BatchQueue (OutputRecord L)) [] where
  ordered := .empty
  perm := .refl _
  behind _ h := absurd h List.not_mem_nil

variable {W} {q : BatchQueue (OutputRecord L)} {output : List (OutputEvent L)}

/-- A record that is created comes after all that was written. -/
theorem Filed.push (h : Filed q output) {event : OutputEvent L} {record : OutputRecord L}
    (hcreated : event.created = some record) (hnum : record.timestamp.IsNum)
    (hsafe : WatermarkSafe (output ++ [event])) : Filed (q.push record) (output ++ [event]) where
  ordered := by
    refine h.ordered.push fun b hb => ?_
    obtain ⟨t, ht, hle⟩ := h.behind b hb
    have hnot : ¬record.timestamp < t :=
      (List.pairwise_append.1 hsafe).2.2 _ ht event (List.mem_singleton_self _) t record rfl
        hcreated
    exact WithNaN.le_trans hle
      (WithNaN.le_of_not_lt hnum (WithNaN.isNum_of_le hle).2 hnot)
  perm := by
    rw [BatchQueue.contents_push, List.filterMap_append, List.filterMap_cons_some hcreated]
    exact h.perm.append_right _
  behind b hb := by
    obtain ⟨t, ht, hle⟩ := h.behind b hb
    exact ⟨t, List.mem_append_left _ ht, hle⟩

/-- A watermark writes records up to it, or none. -/
theorem Filed.recordDecoded (h : Filed q output)
    (hnum : ∀ record ∈ q.queue, record.timestamp.IsNum) {t time : Timestamp} (hle : time ≤ t) :
    Filed (q.drain W.sortRecords fun record => record.timestamp ≤ time)
      (output ++ [.recordDecoded t]) where
  ordered := by
    refine h.ordered.drain W.sortRecords_perm
      (W.sortRecords_sorted _ fun record hrecord => hnum record (List.mem_of_mem_filter hrecord))
      fun a ha hdue b hb hleft => ?_
    have ha' : a.timestamp ≤ time := of_decide_eq_true hdue
    have hb' : time < b.timestamp := WithNaN.lt_of_not_le (hnum b hb)
      (WithNaN.isNum_of_le ha').2 (of_decide_eq_false hleft)
    exact WithNaN.le_trans ha' (WithNaN.le_of_lt hb')
  perm := by
    rw [filterMap_created_recordDecoded]
    exact (BatchQueue.contents_drain W.sortRecords_perm).trans h.perm
  behind b hb := by
    rcases (BatchQueue.mem_written_drain W.sortRecords_perm).1 hb with hb | ⟨-, hdue⟩
    · obtain ⟨t', ht', hle'⟩ := h.behind b hb
      exact ⟨t', List.mem_append_left _ ht', hle'⟩
    · exact ⟨t, List.mem_append_right _ (List.mem_singleton_self _),
        WithNaN.le_trans (of_decide_eq_true hdue) hle⟩

theorem Filed.isNum_queue (h : Filed q output)
    (hnum : ∀ record ∈ output.filterMap OutputEvent.created, record.timestamp.IsNum) :
    ∀ record ∈ q.queue, record.timestamp.IsNum := fun record hrecord =>
  hnum record (h.perm.mem_iff.1 (List.mem_append_right _ hrecord))

/-- One event. -/
theorem Filed.onEvent (h : Filed q output) (k : ℕ) {event : OutputEvent L}
    (hnum : ∀ record ∈ (output ++ [event]).filterMap OutputEvent.created, record.timestamp.IsNum)
    (hsafe : WatermarkSafe (output ++ [event])) :
    Filed (W.onEvent k q event) (output ++ [event]) := by
  rw [List.filterMap_append, List.forall_mem_append] at hnum
  cases event with
  | copied recordIndex record => exact h.push rfl (hnum.2 _ (List.mem_singleton_self _)) hsafe
  | processed recordIndex record => exact h.push rfl (hnum.2 _ (List.mem_singleton_self _)) hsafe
  | recordDecoded t =>
    unfold ThrottledWriter.onEvent
    simp only
    split
    · rename_i time htime
      exact h.recordDecoded (h.isNum_queue hnum.1) (W.writeUpTo_le k t time htime)
    · refine ⟨h.ordered, ?_, fun b hb => ?_⟩
      · rw [filterMap_created_recordDecoded]
        exact h.perm
      · obtain ⟨t', ht', hle⟩ := h.behind b hb
        exact ⟨t', List.mem_append_left _ ht', hle⟩

theorem Filed.onEvents {events : List (OutputEvent L)} (h : Filed q output) (k : ℕ)
    (hnum : ∀ record ∈ (output ++ events).filterMap OutputEvent.created, record.timestamp.IsNum)
    (hsafe : WatermarkSafe (output ++ events)) :
    Filed (W.onEvents k q events) (output ++ events) := by
  induction events generalizing k q output with
  | nil =>
    rw [List.append_nil]
    exact h
  | cons event events ih =>
    rw [← List.singleton_append, ← List.append_assoc] at hnum hsafe ⊢
    have hfirst := (List.pairwise_append.1 hsafe).1
    have hnumFirst : ∀ record ∈ (output ++ [event]).filterMap OutputEvent.created,
        record.timestamp.IsNum := fun record hrecord =>
      hnum record (by rw [List.filterMap_append]; exact List.mem_append_left _ hrecord)
    exact ih (h.onEvent k hnumFirst hfirst) (k + 1) hnum hsafe

/-- **The file is in time order and holds what was created**, whenever the throttled writer writes,
if no record is below a watermark. -/
theorem filed_file (W : ThrottledWriter L)
    (hnum : ∀ record ∈ output.filterMap OutputEvent.created, record.timestamp.IsNum)
    (hsafe : WatermarkSafe output) :
    (W.file output).Pairwise (fun a b => a.timestamp ≤ b.timestamp) ∧
      (W.file output).Perm (output.filterMap OutputEvent.created) := by
  have h : Filed (W.onEvents 0 {} output) output := filed_nil.onEvents 0 hnum hsafe
  have hordered := h.ordered.drain (p := fun _ => true) W.sortRecords_perm
    (W.sortRecords_sorted _ fun record hrecord =>
      h.isNum_queue hnum record (List.mem_of_mem_filter hrecord))
      fun _ _ _ _ _ hleft => nomatch hleft
  have hperm := BatchQueue.contents_drain (q := W.onEvents 0 {} output) (p := fun _ => true)
    W.sortRecords_perm
  rw [BatchQueue.contents_drain_true] at hperm
  exact ⟨hordered.written, hperm.trans h.perm⟩

end ThrottledWriter

/-! ## The records created -/

/-- Of two functions one of which is undefined at each element, the values of one and then those of
the other are those of both together. -/
theorem perm_filterMap_or {α β : Type*} {f g : α → Option β} (hfg : ∀ a, f a = none ∨ g a = none)
    (l : List α) : (l.filterMap f ++ l.filterMap g).Perm (l.filterMap fun a => (f a).or (g a)) := by
  induction l with
  | nil => exact .nil
  | cons a l ih =>
    rcases hfg a with hf | hg
    · rw [List.filterMap_cons_none hf]
      cases hg : g a with
      | none => simpa [List.filterMap_cons, hf, hg] using ih
      | some b =>
        rw [List.filterMap_cons_some hg, List.filterMap_cons_some (b := b) (by rw [hf, hg]; rfl)]
        exact List.perm_middle.trans (ih.cons b)
    · rw [List.filterMap_cons_none hg]
      cases hf : f a with
      | none => simpa [List.filterMap_cons, hf, hg] using ih
      | some b =>
        rw [List.filterMap_cons_some hf, List.filterMap_cons_some (b := b) (by rw [hf]; rfl)]
        exact ih.cons b

namespace OssAsyncImageFilter

/-- What is created is copied or processed. -/
theorem perm_created (output : List (OutputEvent L)) :
    ((copied output).map Prod.snd ++ (processed output).map Prod.snd).Perm
      (output.filterMap OutputEvent.created) := by
  unfold copied processed
  rw [List.map_filterMap, List.map_filterMap]
  refine (perm_filterMap_or (fun event => ?_) output).trans ?_
  · cases event with
    | copied recordIndex record => exact .inr rfl
    | processed recordIndex record => exact .inl rfl
    | recordDecoded t => exact .inl rfl
  · refine .of_eq (List.filterMap_congr fun event _ => ?_)
    cases event with
    | copied recordIndex record => rfl
    | processed recordIndex record => rfl
    | recordDecoded t => rfl

variable (N : FilterNative L) (filter : OssAsyncImageFilter L)

/-- The record that a copier creates of a record read, if it does. -/
def copiedRecord (info : RecordInfo) (delivery : CopyDelivery L) : Option (OutputRecord L) :=
  (filter.copiedContent info delivery).map fun content =>
    ⟨info.streamId, info.timestamp, info.recordType, delivery.formatVersion, content⟩

/-- What the filter makes of the record at a position of `records_`. If it has an image to process,
it is created with the image written for it, or not at all if there is none. Otherwise it is copied,
if it was read. -/
def filteredRecord (processedImage : Option (List UInt8)) (i : ℕ) : Option (OutputRecord L) :=
  match filter.asideAt N i with
  | some pending => processedImage.map fun processedImage =>
    filter.processedRecord i (pending.setBuffer processedImage)
  | none => filter.copiedRecord (filter.recordAt i) (N.readRecord i)

theorem copied_copiedEvents (recordIndex : Option ℕ) (info : RecordInfo)
    (delivery : CopyDelivery L) :
    (copied (filter.copiedEvents recordIndex info delivery)).map Prod.snd =
      (filter.copiedRecord info delivery).toList := by
  unfold copiedEvents copiedRecord
  cases filter.copiedContent info delivery with
  | none => rfl
  | some content => rfl

variable {N} {filter₀ filter : OssAsyncImageFilter L} {t : List (FilterCall × FilterReply)}

/-- The records copied so far. -/
theorem ReadUpTo.map_copied (h : ReadUpTo N filter₀ filter t) :
    (copied filter.output).map Prod.snd = (copied filter₀.output).map Prod.snd ++
      (List.range filter.nextRecordIndex).filterMap fun i =>
        filter₀.copiedRecord (filter₀.recordAt i) (N.readRecord i) := by
  rw [h.copied_eq, List.map_append, List.map_flatMap, List.filterMap_eq_flatMap_toList]
  unfold copiedAt
  simp only [copied_copiedEvents]

/-- The records processed once nothing waits. -/
theorem Buffered.map_processed (h : Buffered N filter₀ filter t)
    (hempty : filter.pendingRecords.entries = []) :
    (processed filter.output).map Prod.snd = (handedOut t).filterMap fun i =>
      (value N filter₀ t i).map (filter₀.processedRecord i) := by
  have hall := ReorderBuffer.released_append_held ready (handedOut t) (value N filter₀ t)
  have hheld : ReorderBuffer.held ready (handedOut t) (value N filter₀ t) = [] :=
    h.holds.symm.trans hempty
  rw [hheld, List.append_nil] at hall
  rw [h.processed_eq, hall, List.map_map, List.map_filterMap]
  refine List.filterMap_congr fun i _ => ?_
  rw [ReorderBuffer.entry, Option.map_map]
  rfl

/-- What there is in the end for an image handed out. -/
theorem Buffered.map_value (h : Buffered N filter₀ filter t) {i : ℕ}
    {pending : OssPendingRecord L} (haside : filter₀.asideAt N i = some pending)
    (hanswered : Answered t i) :
    (value N filter₀ t i).map (filter₀.processedRecord i) =
      filter₀.filteredRecord N ((written t).lookup i) i := by
  unfold filteredRecord value
  rw [haside]
  by_cases hdiscarded : i ∈ discarded t
  · have hlookup : (written t).lookup i = none := by
      rw [List.lookup_eq_none_iff]
      intro e he
      rw [bne_iff_ne]
      rintro rfl
      exact h.written_not_discarded e he hdiscarded
    rw [if_pos hdiscarded, hlookup]
    rfl
  · rw [if_neg hdiscarded]
    cases hlookup : (written t).lookup i with
    | none =>
      obtain ⟨e, he, hkey⟩ := List.mem_map.1 (hanswered.resolve_right hdiscarded)
      have hne := List.lookup_eq_none_iff.1 hlookup e he
      simp [hkey] at hne
    | some processedImage =>
      simp only [parkedAt, haside, Option.getD_some, OssPendingRecord.setBuffer_withBuffer]
      rfl

/-- **What is created once nothing waits**: what the filter makes of the records read. -/
theorem Buffered.perm_filtered (h : Buffered N filter₀ filter t)
    (hread : ReadUpTo N filter₀ filter t) (hempty : filter.pendingRecords.entries = []) :
    (filter.output.filterMap OutputEvent.created).Perm ((copied filter₀.output).map Prod.snd ++
      (List.range filter.nextRecordIndex).filterMap fun i =>
        filter₀.filteredRecord N ((written t).lookup i) i) := by
  have hall : ∀ i ∈ handedOut t, Answered t i := by
    refine h.waiting_eq_nil_iff.1 ?_
    rw [← h.keys_pendingRecords, hempty]
    rfl
  refine (perm_created filter.output).symm.trans ?_
  rw [hread.map_copied, List.append_assoc, h.map_processed hempty, hread.handedOut_eq,
    List.filterMap_filter]
  refine List.Perm.append_left _ ((perm_filterMap_or (fun i => ?_) _).trans
    (.of_eq (List.filterMap_congr fun i hi => ?_)))
  · cases haside : filter₀.asideAt N i with
    | none => exact .inr (if_neg (by simp))
    | some pending =>
      left
      rw [copiedRecord, filter₀.copiedContent_of_setAside haside]
      rfl
  · cases haside : filter₀.asideAt N i with
    | none =>
      rw [filteredRecord, haside]
      exact Option.or_none
    | some pending =>
      have hmem : i ∈ handedOut t := by
        rw [hread.handedOut_eq, List.mem_filter, haside]
        exact ⟨hi, rfl⟩
      rw [copiedRecord, filter₀.copiedContent_of_setAside haside, Option.map_none, Option.none_or,
        if_pos (by rfl)]
      exact h.map_value haside (hall i hmem)

/-! ## The records read first -/

/-- The records that the filter copies before those of `records_`. -/
def preRolled (F : FilteredFileReader L) (N : FilterNative L) : List (OutputRecord L) :=
  F.preRoll.filterMap fun i =>
    ((new : OssAsyncImageFilter L).createOutputFile F N).2.copiedRecord (F.reader.index.get i)
      (N.readPreRoll i)

/-- An output file that was created. -/
theorem createOutputFile_of_eq_zero (F : FilteredFileReader L) (hopen : N.openFile = 0)
    (hcreate : N.createFileAsync = 0) :
    let created := ((new : OssAsyncImageFilter L).createOutputFile F N).2
    created.records = F.selected.map F.reader.index.get ∧
      (copied created.output).map Prod.snd = preRolled F N := by
  let opened : OssAsyncImageFilter L :=
    { (new : OssAsyncImageFilter L).withCopiers F with fileCreated := true }
  have hcreated : ((new : OssAsyncImageFilter L).createOutputFile F N).2 =
      { opened.preRollConfigAndState F N with
        records := (opened.preRollConfigAndState F N).records ++ F.selected.map F.reader.index.get
        nextRecordIndex := 0 } := by
    unfold createOutputFile
    rw [if_neg (not_not_intro hopen), if_pos hcreate]
  obtain ⟨pending, records, heq⟩ := preRollConfigAndState_eq N opened F
  have hsource : (opened.preRollConfigAndState F N).records = [] ∧
      (opened.preRollConfigAndState F N).copiers = opened.copiers := by
    rw [heq]
    exact ⟨rfl, rfl⟩
  intro created
  have houtput : created.output = F.preRoll.flatMap fun i =>
      opened.copiedEvents none (F.reader.index.get i) (N.readPreRoll i) := by
    show ((new : OssAsyncImageFilter L).createOutputFile F N).2.output = _
    rw [hcreated]
    exact (output_preRollConfigAndState F opened).trans (List.nil_append _)
  refine ⟨?_, ?_⟩
  · show ((new : OssAsyncImageFilter L).createOutputFile F N).2.records = _
    rw [hcreated, hsource.1, List.nil_append]
  · have hcopiers : created.copiers = opened.copiers := by
      show ((new : OssAsyncImageFilter L).createOutputFile F N).2.copiers = _
      rw [hcreated, hsource.2]
    have hcopied : ∀ i, (copied (opened.copiedEvents none (F.reader.index.get i)
        (N.readPreRoll i))).map Prod.snd =
          (created.copiedRecord (F.reader.index.get i) (N.readPreRoll i)).toList := by
      intro i
      rw [copied_copiedEvents]
      unfold copiedRecord copiedContent
      rw [hcopiers]
    rw [houtput, preRolled, List.filterMap_eq_flatMap_toList, copied, List.filterMap_flatMap,
      List.map_flatMap]
    exact List.flatMap_congr fun i _ => hcopied i

/-- A record that the filter makes has the time of the record it is made of. -/
theorem timestamp_filteredRecord {filter : OssAsyncImageFilter L}
    {processedImage : Option (List UInt8)} {i : ℕ} {record : OutputRecord L}
    (h : filter.filteredRecord N processedImage i = some record) :
    record.timestamp = (filter.recordAt i).timestamp := by
  unfold filteredRecord at h
  split at h
  · obtain ⟨image, -, rfl⟩ := Option.map_eq_some_iff.1 h
    rfl
  · obtain ⟨content, -, rfl⟩ := Option.map_eq_some_iff.1 h
    rfl

theorem recordAt_mem {filter : OssAsyncImageFilter L} {i : ℕ} (hi : i < filter.records.length) :
    filter.recordAt i ∈ filter.records := by
  rw [recordAt, List.getD_eq_getElem?_getD, List.getElem?_eq_getElem hi]
  exact List.getElem_mem hi

/-- No record of a run is below a watermark. -/
theorem watermarked_exec (F : FilteredFileReader L) (N : FilterNative L)
    (hsorted : SortedByTimestamp ((new : OssAsyncImageFilter L).createOutputFile F N).2.records)
    (cs : List FilterCall) : WatermarkSafe (Machine.exec (call N)
      ((new : OssAsyncImageFilter L).createOutputFile F N).2 cs).output := by
  have hstarted := started_createOutputFile N F
  have hrun := Machine.exec_trace_of_invariant (m := call N)
    (I := fun filter t => Watermarked _ filter ∧ Buffered N _ filter t)
    (fun filter t c h => ⟨h.1.call h.2 hsorted c, h.2.call c⟩)
    ⟨hstarted.watermarked, hstarted.buffered⟩ cs
  exact hrun.1.safe

end OssAsyncImageFilter

/-! ## Whole runs -/

namespace OssPyAsyncImageFilter

open OssAsyncImageFilter (preRolled)

variable {F : FilteredFileReader L} {N : FilterNative L}

/-- Once a request has got no image, all records are read. -/
theorem nextRecordIndex_of_none_mem (early : Bool) (uses : List FilterUse) :
    let filter := Machine.exec (use F N) (opened F N early) uses
    none ∈ requests (Machine.trace (use F N) (opened F N early) uses) →
      filter.nextRecordIndex = filter.records.length := by
  intro filter
  let created := ((OssAsyncImageFilter.new : OssAsyncImageFilter L).createOutputFile F N).2
  have hrun := Machine.exec_trace_of_invariant (m := use F N) (t := [])
    (I := fun filter t => Kept F N created filter (history t) ∧
      (none ∈ requests t → filter.nextRecordIndex = created.records.length))
    (fun filter t u ⟨hkept, hread⟩ => ?_)
    (s := opened F N early) ⟨kept_exec F N early [], fun h => absurd h List.not_mem_nil⟩ uses
  · intro hnone
    rw [hrun.1.buffered.records_eq]
    exact hrun.2 hnone
  · rw [history_append]
    refine ⟨hkept.use u, ?_⟩
    rw [requests, List.filterMap_append, List.mem_append]
    have hle := hkept.buffered.next_le
    rw [hkept.buffered.records_eq] at hle
    have hend : created.imagesFrom N filter.nextRecordIndex = [] →
        created.cursorAfter N filter.nextRecordIndex = created.records.length := by
      intro hleft
      rw [OssAsyncImageFilter.cursorAfter, hleft]
      exact max_eq_right hle
    rcases hkept.request u with ⟨hnothing, hnext⟩ | ⟨hsome, hnext, -⟩
    · rw [List.filterMap_cons_none hnothing, hnext]
      rintro (hnone | hnone)
      · exact hread hnone
      · exact absurd hnone List.not_mem_nil
    · rw [List.filterMap_cons_some hsome, hnext]
      rintro (hnone | hnone)
      · refine hend (OssAsyncImageFilter.imagesFrom_of_le ?_)
        exact (hread hnone).ge
      · have hhead := List.mem_singleton.1 hnone
        exact hend (List.head?_eq_none_iff.1 hhead.symm)

/-- A file that can be closed was created. -/
theorem created_of_closeFile (early : Bool) (uses : List FilterUse)
    (hclosed : ((Machine.exec (use F N) (opened F N early) uses).closeFile N).1 = 0) :
    N.openFile = 0 ∧ N.createFileAsync = 0 := by
  have hempty := OssAsyncImageFilter.pendingRecords_eq_nil_of_closeFile hclosed
  obtain ⟨cs, hfilter, -⟩ := exists_exec_uses F N early uses
  have hcreated := Machine.exec_of_invariant (m := OssAsyncImageFilter.call N)
    (fun filter c h => (OssAsyncImageFilter.fileCreated_call filter c).trans h)
    (OssAsyncImageFilter.fileCreated_createOutputFile F N) cs
  have hstatus := (OssAsyncImageFilter.closeFile_of_eq_nil (N := N) hempty).symm.trans hclosed
  rw [hfilter, hcreated] at hstatus
  by_contra hnot
  rw [decide_eq_false hnot] at hstatus
  exact L.failure_ne_zero hstatus

variable (F) (N)

/-- What is in the file of a run that was closed. -/
structure ClosedFile (filter : OssPyAsyncImageFilter L)
    (t : List (FilterUse × FilterUseReply L)) (file : List (OutputRecord L)) : Prop where
  sorted : file.Pairwise fun a b => a.timestamp ≤ b.timestamp
  /-- The records are those read first, and what the filter makes of each record read after them,
  given the image that was accepted for it. -/
  perm : file.Perm (preRolled F N ++ (List.range filter.nextRecordIndex).filterMap fun i =>
    ((OssAsyncImageFilter.new : OssAsyncImageFilter L).createOutputFile F N).2.filteredRecord N
      ((written (history t)).lookup i) i)
  /-- They are all records selected once a request has got no image. -/
  whole : none ∈ requests t → filter.nextRecordIndex = F.selected.length

/-- **A filter maps the records of its input**: however images were asked for and answered, and
whenever the throttled writer wrote, once the file is closed it has in time order the records that
the filter makes of those read, each on its own. -/
theorem closed_file (W : ThrottledWriter L) (early : Bool) (uses : List FilterUse)
    (hnum : ∀ i, (F.reader.index.get i).timestamp.IsNum)
    (hsorted : SortedByTimestamp (F.selected.map F.reader.index.get))
    (hclosed : ((Machine.exec (use F N) (opened F N early) uses).closeFile N).1 = 0) :
    ClosedFile F N (Machine.exec (use F N) (opened F N early) uses)
      (Machine.trace (use F N) (opened F N early) uses)
      (W.file (Machine.exec (use F N) (opened F N early) uses).output) := by
  let filter := Machine.exec (use F N) (opened F N early) uses
  have hempty : filter.pendingRecords.entries = [] :=
    OssAsyncImageFilter.pendingRecords_eq_nil_of_closeFile hclosed
  obtain ⟨cs, hfilter, -⟩ := exists_exec_uses F N early uses
  have hopened := created_of_closeFile early uses hclosed
  obtain ⟨hrecords, hpreRolled⟩ :=
    OssAsyncImageFilter.createOutputFile_of_eq_zero F hopened.1 hopened.2
  have hbuffered := (kept_exec F N early uses).buffered
  have hperm := hbuffered.perm_filtered (readUpTo_exec early uses) hempty
  rw [hpreRolled] at hperm
  have hat : ∀ i < filter.nextRecordIndex,
      (((OssAsyncImageFilter.new : OssAsyncImageFilter L).createOutputFile F N).2.recordAt
        i).timestamp.IsNum := by
    intro i hi
    have hmem := OssAsyncImageFilter.recordAt_mem
      (hbuffered.records_eq ▸ hi.trans_le hbuffered.next_le)
    rw [hrecords] at hmem
    obtain ⟨j, -, hj⟩ := List.mem_map.1 hmem
    rw [← hj]
    exact hnum j
  have hcreated : ∀ record ∈ filter.output.filterMap OutputEvent.created,
      record.timestamp.IsNum := by
    intro record hrecord
    rw [hperm.mem_iff, List.mem_append] at hrecord
    rcases hrecord with hrecord | hrecord
    · obtain ⟨i, -, hi⟩ := List.mem_filterMap.1 hrecord
      obtain ⟨content, -, rfl⟩ := Option.map_eq_some_iff.1 hi
      exact hnum i
    · obtain ⟨i, hi, hfiltered⟩ := List.mem_filterMap.1 hrecord
      rw [OssAsyncImageFilter.timestamp_filteredRecord hfiltered]
      exact hat i (List.mem_range.1 hi)
  have hsafe : WatermarkSafe filter.output := by
    show WatermarkSafe filter.toOssAsyncImageFilter.output
    rw [hfilter]
    exact OssAsyncImageFilter.watermarked_exec F N (hrecords ▸ hsorted) cs
  obtain ⟨hinTime, hfile⟩ := W.filed_file hcreated hsafe
  refine ⟨hinTime, hfile.trans hperm, fun hnone => ?_⟩
  rw [nextRecordIndex_of_none_mem early uses hnone, hbuffered.records_eq, hrecords, List.length_map]

end OssPyAsyncImageFilter

/-! ## A throttled writer to run filters with -/

instance : Std.Total fun a b : OutputRecord L => a.timestamp.toWithBot ≤ b.timestamp.toWithBot :=
  ⟨fun a b => le_total a.timestamp.toWithBot b.timestamp.toWithBot⟩

instance : IsTrans (OutputRecord L) fun a b => a.timestamp.toWithBot ≤ b.timestamp.toWithBot :=
  ⟨fun _ _ _ => le_trans⟩

/-- A throttled writer that writes all it may at every watermark. -/
def ThrottledWriter.eager (L : VrsLib) : ThrottledWriter L where
  sortRecords := List.insertionSort fun a b => a.timestamp.toWithBot ≤ b.timestamp.toWithBot
  sortRecords_perm records := List.perm_insertionSort _ records
  sortRecords_sorted records hnum := by
    have hsorted := List.pairwise_insertionSort (fun a b : OutputRecord L =>
      a.timestamp.toWithBot ≤ b.timestamp.toWithBot) records
    refine hsorted.imp_of_mem fun {a b} ha hb hle => ?_
    rw [List.mem_insertionSort] at ha hb
    exact (WithNaN.toWithBot_le_iff (hnum a ha) (hnum b hb)).1 hle
  writeUpTo _ t := if t.IsNum then some t else none
  writeUpTo_le k t time h := by
    split at h
    · rename_i hnum
      cases h
      exact WithNaN.le_refl_of_isNum hnum
    · cases h

/-- Of two images the first one is written last, and an iterator is asked for a third one. -/
theorem OssPyAsyncImageFilter.closed_file_twoImages :
    let uses : List FilterUse := [.next 0, .next 0,
      .call (.writeProcessedImage ⟨⟨.raw, .grey8, 1, 1⟩, [9], 1⟩), .next 0,
      .call (.writeProcessedImage ⟨⟨.raw, .grey8, 1, 1⟩, [8], 0⟩)]
    let filter := Machine.exec (use twoImages twoImagesNative)
      (opened twoImages twoImagesNative true) uses
    ClosedFile twoImages twoImagesNative filter
      (Machine.trace (use twoImages twoImagesNative) (opened twoImages twoImagesNative true) uses)
      ((ThrottledWriter.eager .bare).file filter.output) :=
  closed_file twoImages twoImagesNative (.eager .bare) true _ (by decide)
    (by unfold SortedByTimestamp; decide) (by decide)

end Pyvrs
