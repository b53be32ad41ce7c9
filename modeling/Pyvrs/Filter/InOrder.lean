import Pyvrs.Filter.Runs
import Pyvrs.Foundations.ReorderBuffer

/-!
# Images are written in order and once

`pendingRecords_` is a reorder buffer whose tickets are the indexes handed out: whatever the order
of the answers, it holds and has released what its history says (`Buffered.call`). What the contract
of the filter promises about a run follows (`in_order`).
-/

namespace Pyvrs

open Foundations FilterHistory

namespace OssPendingRecord

variable {L : VrsLib} (pending : OssPendingRecord L) (buffer processedImage : List UInt8)

theorem needsImageProcessing_withBuffer :
    (pending.withBuffer buffer).needsImageProcessing = pending.needsImageProcessing := by
  unfold withBuffer
  split
  · rfl
  · rfl

/-- The bytes moved out do not matter for the image put in. -/
theorem setBuffer_withBuffer :
    (pending.withBuffer buffer).setBuffer processedImage = pending.setBuffer processedImage := by
  have hset : ContentChunk.setBuffer processedImage ∘ ContentChunk.setBuffer buffer =
      (ContentChunk.setBuffer processedImage : ContentChunk L → ContentChunk L) := by
    funext chunk
    cases chunk with
    | dataLayout dl => rfl
    | contentBlock cb content => rfl
  unfold setBuffer withBuffer
  cases himage : pending.imageChunk with
  | none => simp only [himage]
  | some position => simp only [List.modify_modify_eq, hset]

end OssPendingRecord

namespace OssAsyncImageFilter

variable {L : VrsLib} (N : FilterNative L) (filter₀ : OssAsyncImageFilter L)

/-! ## The reorder buffer of a history -/

/-- The record of an index handed out, its image moved out. -/
def parkedAt (i : ℕ) : OssPendingRecord L := ((filter₀.asideAt N i).getD .new).withBuffer []

/-- What there is for an index after a history: the record with the image given for it, nothing once
it was discarded. -/
def value (t : List (FilterCall × FilterReply)) (i : ℕ) : Option (OssPendingRecord L) :=
  if i ∈ discarded t then none
  else match (written t).lookup i with
    | some processedImage => some ((filter₀.parkedAt N i).setBuffer processedImage)
    | none => some (filter₀.parkedAt N i)

variable {N} {filter₀} {t : List (FilterCall × FilterReply)} {i : ℕ}

/-- What there is depends on the answers only. -/
theorem value_congr {t' : List (FilterCall × FilterReply)} (hwritten : written t' = written t)
    (hdiscarded : discarded t' = discarded t) : value N filter₀ t' = value N filter₀ t := by
  funext i
  unfold value
  rw [hwritten, hdiscarded]

theorem lookup_written_eq_none (h : ¬Answered t i) : (written t).lookup i = none := by
  rw [List.lookup_eq_none_iff]
  intro e he
  rw [bne_iff_ne]
  intro hkey
  exact h (.inl (List.mem_map.2 ⟨e, he, hkey.symm⟩))

theorem value_of_not_answered (h : ¬Answered t i) :
    value N filter₀ t i = some (filter₀.parkedAt N i) := by
  rw [value, if_neg fun hi => h (.inr hi), lookup_written_eq_none h]

theorem settled_of_answered (h : Answered t i) :
    ReorderBuffer.Settled ready (value N filter₀ t) i := by
  intro pending hvalue
  unfold value at hvalue
  split at hvalue
  · cases hvalue
  · rename_i hdiscarded
    have hwritten := h.resolve_right hdiscarded
    obtain ⟨e, he, hkey⟩ := List.mem_map.1 hwritten
    cases hlookup : (written t).lookup i with
    | none =>
      rw [List.lookup_eq_none_iff] at hlookup
      have hne := hlookup e he
      simp [hkey] at hne
    | some processedImage =>
      rw [hlookup] at hvalue
      cases hvalue
      rfl

/-- A value that is ready is a record with the image written for it. -/
theorem value_eq_some_of_ready (haside : ∃ pending, filter₀.asideAt N i = some pending)
    {pending : OssPendingRecord L} (hvalue : value N filter₀ t i = some pending)
    (hready : ready pending = true) :
    i ∉ discarded t ∧ ∃ processedImage, (written t).lookup i = some processedImage ∧
      pending = (filter₀.parkedAt N i).setBuffer processedImage := by
  unfold value at hvalue
  split at hvalue
  · cases hvalue
  · rename_i hdiscarded
    refine ⟨hdiscarded, ?_⟩
    split at hvalue
    · rename_i processedImage hlookup
      exact ⟨processedImage, hlookup, (Option.some.inj hvalue).symm⟩
    · cases hvalue
      obtain ⟨aside, haside⟩ := haside
      have hneeds := filter₀.needsImageProcessing_of_setAside haside
      rw [ready, parkedAt, haside, OssPendingRecord.needsImageProcessing_withBuffer,
        Option.getD_some, hneeds] at hready
      cases hready

/-- A value that is not ready is a record that awaits an answer. -/
theorem value_eq_some_of_not_ready {pending : OssPendingRecord L}
    (hvalue : value N filter₀ t i = some pending) (hready : ready pending = false) :
    ¬Answered t i ∧ pending = filter₀.parkedAt N i := by
  have hnot : ¬Answered t i := by
    intro hanswered
    rw [settled_of_answered hanswered pending hvalue] at hready
    cases hready
  rw [value_of_not_answered hnot] at hvalue
  exact ⟨hnot, (Option.some.inj hvalue).symm⟩

theorem value_append_written (h : ¬Answered t i) (processedImage : List UInt8) :
    value N filter₀ (t ++ [(.writeProcessedImage i processedImage, .accepted true)]) =
      Function.update (value N filter₀ t) i
        (some ((filter₀.parkedAt N i).setBuffer processedImage)) := by
  funext j
  unfold value
  rw [written_writeProcessedImage, discarded_writeProcessedImage, List.lookup_append]
  by_cases hj : j = i
  · subst hj
    rw [Function.update_self, if_neg fun hi => h (.inr hi), lookup_written_eq_none h,
      Option.none_or, List.lookup_cons_self]
  · have hsingle : [(i, processedImage)].lookup j = none := by
      rw [List.lookup_cons, beq_eq_false_iff_ne.2 hj]
      rfl
    rw [Function.update_of_ne hj, hsingle, Option.or_none]

theorem value_append_discarded (t : List (FilterCall × FilterReply)) (i : ℕ) :
    value N filter₀ (t ++ [(.discardRecord i, .accepted true)]) =
      Function.update (value N filter₀ t) i none := by
  funext j
  unfold value
  rw [written_discardRecord, discarded_discardRecord]
  by_cases hj : j = i
  · subst hj
    rw [Function.update_self, if_pos (List.mem_append_right _ (List.mem_singleton_self _))]
  · have hiff : j ∈ discarded t ++ [i] ↔ j ∈ discarded t := by
      rw [List.mem_append, List.mem_singleton]
      exact or_iff_left hj
    rw [Function.update_of_ne hj]
    simp only [hiff]

variable (N) (filter₀)

/-- What every call preserves: the answers are to indexes handed out, one at most for each, and
`pendingRecords_` and the output are those of the reorder buffer of the history. -/
structure Buffered (filter : OssAsyncImageFilter L) (t : List (FilterCall × FilterReply)) : Prop
    extends SameSource filter filter₀ where
  next_le : filter.nextRecordIndex ≤ filter.records.length
  handedOut_sorted : (handedOut t).Pairwise (· < ·)
  handedOut_lt : ∀ i ∈ handedOut t, i < filter.nextRecordIndex
  handedOut_aside : ∀ i ∈ handedOut t, ∃ pending, filter₀.asideAt N i = some pending
  written_mem : ∀ e ∈ written t, e.1 ∈ handedOut t
  written_nodup : ((written t).map Prod.fst).Nodup
  discarded_mem : ∀ i ∈ discarded t, i ∈ handedOut t
  written_not_discarded : ∀ e ∈ written t, e.1 ∉ discarded t
  holds : ReorderBuffer.Holds ready filter.pendingRecords (handedOut t) (value N filter₀ t)
  processed_eq : processed filter.output =
    (ReorderBuffer.released ready (handedOut t) (value N filter₀ t)).map fun e =>
      (e.1, filter₀.processedRecord e.1 e.2)

variable {N} {filter₀} {filter : OssAsyncImageFilter L}

/-! ## One call -/

theorem Buffered.congr {t' : List (FilterCall × FilterReply)} (h : Buffered N filter₀ filter t)
    (hhanded : handedOut t' = handedOut t) (hwritten : written t' = written t)
    (hdiscarded : discarded t' = discarded t) : Buffered N filter₀ filter t' := by
  have hvalue : value N filter₀ t' = value N filter₀ t := value_congr hwritten hdiscarded
  obtain ⟨hsource, h₁, h₂, h₃, h₄, h₅, h₆, h₇, h₈, h₉, h₁₀⟩ := h
  refine ⟨hsource, h₁, ?_, ?_, ?_, ?_, ?_, ?_, ?_, ?_, ?_⟩ <;>
    simpa only [hhanded, hwritten, hdiscarded, hvalue]

theorem Buffered.copyNext (h : Buffered N filter₀ filter t)
    (hlt : filter.nextRecordIndex < filter.records.length) :
    Buffered N filter₀ (filter.copyNext N) t := by
  obtain ⟨hsource, h₁, h₂, h₃, h₄, h₅, h₆, h₇, h₈, h₉, h₁₀⟩ := h
  refine ⟨⟨hsource.records_eq, hsource.copiers_eq⟩, hlt, h₂, fun i hi => (h₃ i hi).trans
    (Nat.lt_succ_self _), h₄, h₅, h₆, h₇, h₈, h₉, ?_⟩
  show processed (filter.output ++ filter.copiedAt N filter.nextRecordIndex) = _
  rw [processed_append, copiedAt, processed_copiedEvents, List.append_nil, h₁₀]

/-- A record handed out is a new ticket. -/
theorem Buffered.parkNext (h : Buffered N filter₀ filter t) {pending : OssPendingRecord L}
    (hlt : filter.nextRecordIndex < filter.records.length)
    (haside : filter.asideAt N filter.nextRecordIndex = some pending) :
    Buffered N filter₀ (filter.parkNext pending)
      (t ++ [(.getNextImage,
        .image filter.nextRecordIndex pending.image.1 pending.image.2)]) := by
  have haside₀ : filter₀.asideAt N filter.nextRecordIndex = some pending :=
    h.toSameSource.asideAt_eq N ▸ haside
  have hnew : ∀ i, Answered t i → i ≠ filter.nextRecordIndex := by
    rintro i (hi | hi) rfl
    · obtain ⟨e, he, hkey⟩ := List.mem_map.1 hi
      exact absurd (h.handedOut_lt _ (h.written_mem e he)) (hkey ▸ lt_irrefl _)
    · exact absurd (h.handedOut_lt _ (h.discarded_mem _ hi)) (lt_irrefl _)
  have hvalue : value N filter₀ t filter.nextRecordIndex = some (pending.withBuffer []) := by
    rw [value_of_not_answered fun hanswered => hnew _ hanswered rfl, parkedAt, haside₀]
    rfl
  have hready : ready (pending.withBuffer []) = false := by
    rw [ready, OssPendingRecord.needsImageProcessing_withBuffer,
      filter₀.needsImageProcessing_of_setAside haside₀]
    rfl
  obtain ⟨hholds, hreleased⟩ := h.holds.issue h.handedOut_lt hvalue hready
  refine ⟨⟨h.records_eq, h.copiers_eq⟩, hlt, ?_, ?_, ?_, ?_, ?_, ?_, ?_, ?_, ?_⟩
  · rw [handedOut_image, List.pairwise_append]
    exact ⟨h.handedOut_sorted, List.pairwise_singleton _ _, fun i hi j hj =>
      List.mem_singleton.1 hj ▸ h.handedOut_lt i hi⟩
  · intro i hi
    rw [handedOut_image, List.mem_append, List.mem_singleton] at hi
    rcases hi with hi | rfl
    · exact (h.handedOut_lt i hi).trans (Nat.lt_succ_self _)
    · exact Nat.lt_succ_self _
  · intro i hi
    rw [handedOut_image, List.mem_append, List.mem_singleton] at hi
    rcases hi with hi | rfl
    · exact h.handedOut_aside i hi
    · exact ⟨pending, haside₀⟩
  · rw [written_image, handedOut_image]
    exact fun e he => List.mem_append_left _ (h.written_mem e he)
  · rw [written_image]
    exact h.written_nodup
  · rw [discarded_image, handedOut_image]
    exact fun i hi => List.mem_append_left _ (h.discarded_mem i hi)
  · rw [written_image, discarded_image]
    exact h.written_not_discarded
  · rw [handedOut_image, value_congr (written_image t _ _ _) (discarded_image t _ _ _)]
    exact hholds
  · rw [handedOut_image, value_congr (written_image t _ _ _) (discarded_image t _ _ _), hreleased]
    exact h.processed_eq

/-- What an answer to a record that awaits one does to the buffer. -/
theorem Buffered.answer (h : Buffered N filter₀ filter t) {pending : OssPendingRecord L}
    (hawaiting : filter.awaiting i = some pending) (pending' : Option (OssPendingRecord L)) :
    ReorderBuffer.Holds ready (filter.answer i pending').pendingRecords (handedOut t)
        (Function.update (value N filter₀ t) i pending') ∧
      processed (filter.answer i pending').output =
        (ReorderBuffer.released ready (handedOut t)
          (Function.update (value N filter₀ t) i pending')).map fun e =>
            (e.1, filter₀.processedRecord e.1 e.2) := by
  obtain ⟨hfind, hready⟩ := filter.awaiting_eq_some_iff.1 hawaiting
  obtain ⟨hreleased, hholds⟩ := h.holds.settle hfind hready pending'
  refine ⟨hholds, ?_⟩
  have hrecord : ∀ e : ℕ × OssPendingRecord L,
      { filter with pendingRecords := filter.pendingRecords.alter i pending' }.processedRecord
        e.1 e.2 = filter₀.processedRecord e.1 e.2 := by
    intro e
    have hsource : SameSource { filter with
        pendingRecords := filter.pendingRecords.alter i pending' } filter₀ :=
      ⟨h.records_eq, h.copiers_eq⟩
    unfold processedRecord
    rw [hsource.recordAt_eq]
  show processed ({ filter with
    pendingRecords := filter.pendingRecords.alter i pending' }.processPendingRecords).output = _
  rw [processed_processPendingRecords, hreleased, List.map_append, ← h.processed_eq]
  simp only [hrecord]

/-- A record that awaits an answer was handed out and not answered. -/
theorem Buffered.awaiting_eq (h : Buffered N filter₀ filter t) {pending : OssPendingRecord L}
    (hawaiting : filter.awaiting i = some pending) :
    i ∈ handedOut t ∧ ¬Answered t i ∧ pending = filter₀.parkedAt N i := by
  obtain ⟨hfind, hready⟩ := filter.awaiting_eq_some_iff.1 hawaiting
  have hentry := filter.pendingRecords.find?_eq_some_iff.1 hfind
  rw [h.holds] at hentry
  obtain ⟨hmem, hvalue⟩ := ReorderBuffer.mem_of_mem_held hentry
  exact ⟨hmem, value_eq_some_of_not_ready hvalue hready⟩

theorem Buffered.awaiting_of_not_answered (h : Buffered N filter₀ filter t)
    (hmem : i ∈ handedOut t) (hnot : ¬Answered t i) :
    filter.awaiting i = some (filter₀.parkedAt N i) := by
  have hready : ready (filter₀.parkedAt N i) = false := by
    obtain ⟨aside, haside⟩ := h.handedOut_aside i hmem
    rw [ready, parkedAt, haside, OssPendingRecord.needsImageProcessing_withBuffer,
      Option.getD_some, filter₀.needsImageProcessing_of_setAside haside]
    rfl
  have hheld := ReorderBuffer.mem_held_of_not_ready hmem (value_of_not_answered hnot) hready
  rw [← h.holds] at hheld
  exact filter.awaiting_eq_some_iff.2 ⟨filter.pendingRecords.find?_eq_some_iff.2 hheld, hready⟩

theorem Buffered.writeProcessedImage (h : Buffered N filter₀ filter t)
    {pending : OssPendingRecord L} (hawaiting : filter.awaiting i = some pending)
    (processedImage : List UInt8) :
    Buffered N filter₀ (filter.answer i (some (pending.setBuffer processedImage)))
      (t ++ [(.writeProcessedImage i processedImage, .accepted true)]) := by
  obtain ⟨hmem, hnot, rfl⟩ := h.awaiting_eq hawaiting
  obtain ⟨hholds, hprocessed⟩ := h.answer hawaiting
    (some ((filter₀.parkedAt N i).setBuffer processedImage))
  rw [← value_append_written hnot] at hholds hprocessed
  rw [← handedOut_writeProcessedImage t i processedImage] at hholds hprocessed
  refine ⟨⟨h.records_eq, h.copiers_eq⟩, h.next_le, ?_, ?_, ?_, ?_, ?_, ?_, ?_, hholds, hprocessed⟩
  · rw [handedOut_writeProcessedImage]
    exact h.handedOut_sorted
  · rw [handedOut_writeProcessedImage]
    exact h.handedOut_lt
  · rw [handedOut_writeProcessedImage]
    exact h.handedOut_aside
  · intro e he
    rw [written_writeProcessedImage, List.mem_append, List.mem_singleton] at he
    rw [handedOut_writeProcessedImage]
    rcases he with he | rfl
    · exact h.written_mem e he
    · exact hmem
  · rw [written_writeProcessedImage, List.map_append, List.nodup_append]
    refine ⟨h.written_nodup, List.nodup_singleton _, fun j hj j' hj' hne => ?_⟩
    rw [hne, List.mem_singleton.1 hj'] at hj
    exact hnot (.inl hj)
  · rw [handedOut_writeProcessedImage, discarded_writeProcessedImage]
    exact h.discarded_mem
  · intro e he
    rw [written_writeProcessedImage, List.mem_append, List.mem_singleton] at he
    rw [discarded_writeProcessedImage]
    rcases he with he | rfl
    · exact h.written_not_discarded e he
    · exact fun hdiscarded => hnot (.inr hdiscarded)

theorem Buffered.discardRecord (h : Buffered N filter₀ filter t) {pending : OssPendingRecord L}
    (hawaiting : filter.awaiting i = some pending) :
    Buffered N filter₀ (filter.answer i none) (t ++ [(.discardRecord i, .accepted true)]) := by
  obtain ⟨hmem, hnot, -⟩ := h.awaiting_eq hawaiting
  obtain ⟨hholds, hprocessed⟩ := h.answer hawaiting none
  rw [← value_append_discarded] at hholds hprocessed
  rw [← handedOut_discardRecord t i] at hholds hprocessed
  refine ⟨⟨h.records_eq, h.copiers_eq⟩, h.next_le, ?_, ?_, ?_, ?_, ?_, ?_, ?_, hholds, hprocessed⟩
  · rw [handedOut_discardRecord]
    exact h.handedOut_sorted
  · rw [handedOut_discardRecord]
    exact h.handedOut_lt
  · rw [handedOut_discardRecord]
    exact h.handedOut_aside
  · rw [handedOut_discardRecord, written_discardRecord]
    exact h.written_mem
  · rw [written_discardRecord]
    exact h.written_nodup
  · intro j hj
    rw [discarded_discardRecord, List.mem_append, List.mem_singleton] at hj
    rw [handedOut_discardRecord]
    rcases hj with hj | rfl
    · exact h.discarded_mem j hj
    · exact hmem
  · intro e he
    rw [written_discardRecord] at he
    rw [discarded_discardRecord, List.mem_append, List.mem_singleton]
    rintro (hj | hj)
    · exact h.written_not_discarded e he hj
    · exact hnot (.inl (List.mem_map.2 ⟨e, he, hj⟩))

/-- **Every call keeps the buffer.** -/
theorem Buffered.call (h : Buffered N filter₀ filter t) (c : FilterCall) :
    Buffered N filter₀ (call N filter c).2 (t ++ [(c, (call N filter c).1)]) := by
  have hrejected : ∀ c, handedOut [(c, .accepted false)] = [] ∧
      written [(c, .accepted false)] = [] ∧ discarded [(c, .accepted false)] = [] := by
    intro c
    cases c with
    | getNextImage | writeProcessedImage | discardRecord => exact ⟨rfl, rfl, rfl⟩
  have hsame : ∀ c, Buffered N filter₀ filter (t ++ [(c, .accepted false)]) := by
    intro c
    obtain ⟨hhanded, hwritten, hdiscarded⟩ := hrejected c
    refine h.congr ?_ ?_ ?_
    · rw [handedOut_append, hhanded, List.append_nil]
    · rw [written_append, hwritten, List.append_nil]
    · rw [discarded_append, hdiscarded, List.append_nil]
  cases c with
  | getNextImage =>
    refine filter.getNextImage_rule N
      (I := fun filter => Buffered N filter₀ filter t)
      (Q := fun reply filter => Buffered N filter₀ filter (t ++ [(.getNextImage, reply)]))
      (fun filter h hlt _ => h.copyNext hlt) (fun filter pending h hlt haside =>
        h.parkNext hlt haside) (fun filter h => ?_) h
    refine h.congr ?_ ?_ ?_
    · rw [handedOut_append]
      exact List.append_nil _
    · rw [written_append]
      exact List.append_nil _
    · rw [discarded_append]
      exact List.append_nil _
  | writeProcessedImage i processedImage =>
    cases hawaiting : filter.awaiting i with
    | none =>
      rw [filter.call_writeProcessedImage_of_none N hawaiting]
      exact hsame _
    | some pending =>
      rw [filter.call_writeProcessedImage_of_some N hawaiting]
      exact h.writeProcessedImage hawaiting processedImage
  | discardRecord i =>
    cases hawaiting : filter.awaiting i with
    | none =>
      rw [filter.call_discardRecord_of_none N hawaiting]
      exact hsame _
    | some pending =>
      rw [filter.call_discardRecord_of_some N hawaiting]
      exact h.discardRecord hawaiting

theorem Started.buffered {F : FilteredFileReader L} (h : Started filter₀ F) :
    Buffered N filter₀ filter₀ [] := by
  obtain ⟨records, houtput⟩ := h.output_eq
  have hprocessed : processed filter₀.output = [] := by
    rw [houtput, processed, List.filterMap_map]
    exact List.filterMap_eq_nil_iff.2 fun _ _ => rfl
  refine ⟨⟨rfl, rfl⟩, ?_, List.Pairwise.nil, nofun, nofun, nofun, List.nodup_nil, nofun, nofun, ?_,
    hprocessed⟩
  · rw [h.nextRecordIndex_eq]
    exact Nat.zero_le _
  · rw [h.pendingRecords_eq]
    rfl

/-! ## Whole runs -/

variable (N) (filter₀)

/-- The record created for an image given back: that of `records_[i]` as its copier left it, with
the bytes given in place of those of its image. -/
structure CreatedWith (i : ℕ) (processedImage : List UInt8) (record : OutputRecord L) : Prop where
  writer_eq : record.writer = (filter₀.recordAt i).streamId
  timestamp_eq : record.timestamp = (filter₀.recordAt i).timestamp
  recordType_eq : record.recordType = (filter₀.recordAt i).recordType
  formatVersion_eq : record.formatVersion = (N.readRecord i).formatVersion
  content_eq : ∃ position cb content,
    (OssAsyncRecordFilterCopier.start.onBlocks (N.readRecord i).blocks).imageChunk =
      some position ∧
    (OssAsyncRecordFilterCopier.start.onBlocks (N.readRecord i).blocks).chunks[position]? =
      some (.contentBlock cb content) ∧
    record.content = .chunks
      ((OssAsyncRecordFilterCopier.start.onBlocks (N.readRecord i).blocks).chunks.set position
        (.contentBlock cb processedImage))

variable {N} {filter₀}

theorem createdWith_processedRecord (haside : ∃ pending, filter₀.asideAt N i = some pending)
    (processedImage : List UInt8) :
    CreatedWith N filter₀ i processedImage
      (filter₀.processedRecord i ((filter₀.parkedAt N i).setBuffer processedImage)) := by
  obtain ⟨pending, haside⟩ := haside
  have hparked : (filter₀.parkedAt N i).setBuffer processedImage =
      pending.setBuffer processedImage := by
    rw [parkedAt, haside, OssPendingRecord.setBuffer_withBuffer]
    rfl
  rw [hparked]
  unfold asideAt setAside at haside
  simp only at haside
  split at haside
  · rename_i hcase
    cases haside
    obtain ⟨position, himage⟩ := Option.isSome_iff_exists.1 hcase.2.2.2
    obtain ⟨cb, content, hchunk⟩ := OssAsyncRecordFilterCopier.valid_start.onBlocks
      (N.readRecord i).blocks position himage
    have hset : ∀ imageChunk : Option ℕ, imageChunk = some position →
        (OssPendingRecord.setBuffer
          ⟨(OssAsyncRecordFilterCopier.start.onBlocks (N.readRecord i).blocks).chunks, imageChunk,
            some (filter₀.recordAt i).streamId, (N.readRecord i).formatVersion⟩
          processedImage).recordChunks =
        (OssAsyncRecordFilterCopier.start.onBlocks (N.readRecord i).blocks).chunks.set position
          (.contentBlock cb processedImage) := by
      rintro imageChunk rfl
      show List.modify _ position _ = _
      rw [List.modify_eq_set_getElem?, hchunk]
      rfl
    have hwriter : ∀ buffer (pending : OssPendingRecord L),
        (pending.withBuffer buffer).writer = pending.writer ∧
          (pending.withBuffer buffer).formatVersion = pending.formatVersion := by
      intro buffer pending
      unfold OssPendingRecord.withBuffer
      split
      · exact ⟨rfl, rfl⟩
      · exact ⟨rfl, rfl⟩
    refine ⟨?_, rfl, rfl, (hwriter _ _).2, position, cb, content, himage, hchunk,
      congrArg RecordContent.chunks (hset _ himage)⟩
    show Option.getD (OssPendingRecord.withBuffer _ _).writer _ = _
    rw [(hwriter _ _).1]
    rfl
  · cases haside

variable (N) (filter₀)

/-- What the filter promises of a run that leads to `filter`, with the history `t`. -/
structure InOrder (filter : OssAsyncImageFilter L) (t : List (FilterCall × FilterReply)) :
    Prop where
  /-- The records are created in increasing order of their indexes. -/
  increasing : ((processed filter.output).map Prod.fst).Pairwise (· < ·)
  /-- Each was handed out, written by one accepted answer and not discarded, and is made of that
  answer. -/
  once : ∀ i record, (i, record) ∈ processed filter.output →
    i ∈ handedOut t ∧ i ∉ discarded t ∧ ∃ processedImage,
      (written t).filter (fun e => e.1 = i) = [(i, processedImage)] ∧
        CreatedWith N filter₀ i processedImage record
  /-- A record that was written is created once all before it are answered. -/
  prompt : ∀ i ∈ (written t).map Prod.fst, (∀ j ∈ handedOut t, j < i → Answered t j) →
    i ∈ (processed filter.output).map Prod.fst
  /-- Nothing is pending once all are answered. -/
  drained : (∀ j ∈ handedOut t, Answered t j) → filter.pendingRecords.entries = []
  /-- A record that awaits an answer takes one, of either kind. -/
  accepted : ∀ i ∈ handedOut t, ¬Answered t i → ∀ processedImage,
    (call N filter (.writeProcessedImage i processedImage)).1 = .accepted true ∧
      (call N filter (.discardRecord i)).1 = .accepted true
  /-- An answer to anything else changes nothing. -/
  rejected : ∀ i, ¬(i ∈ handedOut t ∧ ¬Answered t i) → ∀ processedImage,
    call N filter (.writeProcessedImage i processedImage) = (.accepted false, filter) ∧
      call N filter (.discardRecord i) = (.accepted false, filter)

variable {N} {filter₀}

/-- The only answer accepted for an index is the one looked up. -/
theorem filter_written (h : Buffered N filter₀ filter t) {processedImage : List UInt8}
    (hlookup : (written t).lookup i = some processedImage) :
    (written t).filter (fun e => e.1 = i) = [(i, processedImage)] := by
  have hnodup := h.written_nodup
  revert hlookup hnodup
  generalize written t = answers
  intro hlookup hnodup
  induction answers with
  | nil => cases hlookup
  | cons e answers ih =>
    rw [List.map_cons, List.nodup_cons] at hnodup
    rw [List.lookup_cons] at hlookup
    by_cases he : e.1 = i
    · have hrest : answers.filter (fun e => e.1 = i) = [] := by
        rw [List.filter_eq_nil_iff]
        intro e' he' hkey
        rw [decide_eq_true_eq] at hkey
        exact hnodup.1 (List.mem_map.2 ⟨e', he', hkey.trans he.symm⟩)
      rw [List.filter_cons_of_pos (by simpa using he), hrest]
      rw [show (i == e.1) = true from beq_iff_eq.2 he.symm] at hlookup
      cases hlookup
      rw [← he]
    · rw [show (i == e.1) = false from beq_eq_false_iff_ne.2 fun hkey => he hkey.symm] at hlookup
      rw [List.filter_cons_of_neg (by simpa using he)]
      exact ih hlookup hnodup.2

theorem Buffered.inOrder (h : Buffered N filter₀ filter t) : InOrder N filter₀ filter t := by
  have hfst : (processed filter.output).map Prod.fst =
      (ReorderBuffer.released ready (handedOut t) (value N filter₀ t)).map Prod.fst := by
    rw [h.processed_eq, List.map_map]
    rfl
  constructor
  · rw [hfst, List.pairwise_map]
    exact ReorderBuffer.pairwise_released h.handedOut_sorted
  · intro i record hmem
    rw [h.processed_eq] at hmem
    obtain ⟨⟨j, pending⟩, hreleased, hpair⟩ := List.mem_map.1 hmem
    cases hpair
    obtain ⟨hhanded, hvalue⟩ := ReorderBuffer.mem_of_mem_released hreleased
    obtain ⟨hdiscarded, processedImage, hlookup, rfl⟩ :=
      value_eq_some_of_ready (h.handedOut_aside _ hhanded) hvalue
        (ReorderBuffer.ready_of_mem_released hreleased)
    exact ⟨hhanded, hdiscarded, processedImage, filter_written h hlookup,
      createdWith_processedRecord (h.handedOut_aside _ hhanded) processedImage⟩
  · intro i hi hbefore
    obtain ⟨e, he, rfl⟩ := List.mem_map.1 hi
    have hhanded := h.written_mem e he
    have hdiscarded := h.written_not_discarded e he
    cases hvalue : value N filter₀ t e.1 with
    | none =>
      unfold value at hvalue
      rw [if_neg hdiscarded] at hvalue
      split at hvalue
      · cases hvalue
      · cases hvalue
    | some pending =>
      have hready := settled_of_answered (.inl hi) pending hvalue
      have hreleased := ReorderBuffer.mem_released h.handedOut_sorted hhanded hvalue hready
        fun j hj hlt => settled_of_answered (hbefore j hj hlt)
      rw [hfst]
      exact List.mem_map.2 ⟨_, hreleased, rfl⟩
  · intro hall
    rw [h.holds]
    exact ReorderBuffer.held_eq_nil fun j hj => settled_of_answered (hall j hj)
  · intro i hi hnot processedImage
    have hawaiting := h.awaiting_of_not_answered hi hnot
    rw [filter.call_writeProcessedImage_of_some N hawaiting,
      filter.call_discardRecord_of_some N hawaiting]
    exact ⟨rfl, rfl⟩
  · intro i hi processedImage
    have hnone : filter.awaiting i = none := by
      cases hawaiting : filter.awaiting i with
      | none => rfl
      | some pending =>
        obtain ⟨hmem, hnot, -⟩ := h.awaiting_eq hawaiting
        exact absurd ⟨hmem, hnot⟩ hi
    exact ⟨filter.call_writeProcessedImage_of_none N hnone processedImage,
      filter.call_discardRecord_of_none N hnone⟩

/-- **Images are written in order and once**, whatever the order of the answers. -/
theorem in_order (F : FilteredFileReader L) (N : FilterNative L) (calls : List FilterCall) :
    let created := ((new : OssAsyncImageFilter L).createOutputFile F N).2
    InOrder N created (Machine.exec (call N) created calls)
      (Machine.trace (call N) created calls) := by
  intro created
  have hstart : Buffered N created created [] := (started_createOutputFile N F).buffered
  have hrun := Machine.exec_trace_of_invariant (m := call N) (I := Buffered N created)
    (fun filter t c h => h.call c) hstart calls
  exact hrun.inOrder

end OssAsyncImageFilter

end Pyvrs
