import Pyvrs.Filter.AsyncImageFilter

/-!
# Runs of the asynchronous image filter

What the calls of the filter do, once: reading a record either sets it aside or copies it
(`readRecord_eq`), `getNextImage` does so until a record is set aside (`getNextImage_rule`), and the
two answers are accepted exactly for a record that awaits one. The history of a run is the list of
its calls and replies.
-/

namespace Pyvrs

open Foundations

/-! ## The history of a run -/

namespace FilterHistory

variable (t : List (FilterCall × FilterReply))

/-- The indexes that `getNextImage` returned. -/
def handedOut : List ℕ :=
  t.filterMap fun
    | (.getNextImage, .image recordIndex _ _) => some recordIndex
    | _ => none

/-- The answers that `writeProcessedImage` accepted. -/
def written : List (ℕ × List UInt8) :=
  t.filterMap fun
    | (.writeProcessedImage recordIndex processedImage, .accepted true) =>
      some (recordIndex, processedImage)
    | _ => none

/-- The indexes that `discardRecord` accepted. -/
def discarded : List ℕ :=
  t.filterMap fun
    | (.discardRecord recordIndex, .accepted true) => some recordIndex
    | _ => none

/-- The record was written or discarded. -/
def Answered (i : ℕ) : Prop := i ∈ (written t).map Prod.fst ∨ i ∈ discarded t

@[simp] theorem handedOut_append (t' : List (FilterCall × FilterReply)) :
    handedOut (t ++ t') = handedOut t ++ handedOut t' :=
  List.filterMap_append

@[simp] theorem written_append (t' : List (FilterCall × FilterReply)) :
    written (t ++ t') = written t ++ written t' :=
  List.filterMap_append

@[simp] theorem discarded_append (t' : List (FilterCall × FilterReply)) :
    discarded (t ++ t') = discarded t ++ discarded t' :=
  List.filterMap_append

section OneMoreCall

variable (i : ℕ) (spec : ImageContentBlockSpec) (frame processedImage : List UInt8)

@[simp] theorem handedOut_image :
    handedOut (t ++ [(.getNextImage, .image i spec frame)]) = handedOut t ++ [i] :=
  handedOut_append t _

@[simp] theorem written_image :
    written (t ++ [(.getNextImage, .image i spec frame)]) = written t :=
  (written_append t _).trans (List.append_nil _)

@[simp] theorem discarded_image :
    discarded (t ++ [(.getNextImage, .image i spec frame)]) = discarded t :=
  (discarded_append t _).trans (List.append_nil _)

@[simp] theorem handedOut_writeProcessedImage :
    handedOut (t ++ [(.writeProcessedImage i processedImage, .accepted true)]) = handedOut t :=
  (handedOut_append t _).trans (List.append_nil _)

@[simp] theorem written_writeProcessedImage :
    written (t ++ [(.writeProcessedImage i processedImage, .accepted true)]) =
      written t ++ [(i, processedImage)] :=
  written_append t _

@[simp] theorem discarded_writeProcessedImage :
    discarded (t ++ [(.writeProcessedImage i processedImage, .accepted true)]) = discarded t :=
  (discarded_append t _).trans (List.append_nil _)

@[simp] theorem handedOut_discardRecord :
    handedOut (t ++ [(.discardRecord i, .accepted true)]) = handedOut t :=
  (handedOut_append t _).trans (List.append_nil _)

@[simp] theorem written_discardRecord :
    written (t ++ [(.discardRecord i, .accepted true)]) = written t :=
  (written_append t _).trans (List.append_nil _)

@[simp] theorem discarded_discardRecord :
    discarded (t ++ [(.discardRecord i, .accepted true)]) = discarded t ++ [i] :=
  discarded_append t _

end OneMoreCall

end FilterHistory

namespace OssAsyncImageFilter

variable {L : VrsLib} (N : FilterNative L) (filter : OssAsyncImageFilter L)

/-! ## Reading a record -/

/-- The record that the copier sets aside, if it does. -/
def setAside (info : RecordInfo) (delivery : CopyDelivery L) : Option (OssPendingRecord L) :=
  let copier := OssAsyncRecordFilterCopier.start.onBlocks delivery.blocks
  if delivery.finished = true ∧ filter.copiers info.streamId = some .asyncRecordFilterCopier ∧
      delivery.copyVerbatim = false ∧ copier.imageChunk.isSome = true then
    some ⟨copier.chunks, copier.imageChunk, some info.streamId, delivery.formatVersion⟩
  else none

/-- What the copier creates the record from, if it creates it at once. -/
def copiedContent (info : RecordInfo) (delivery : CopyDelivery L) : Option (RecordContent L) :=
  if delivery.finished = true then
    match filter.copiers info.streamId with
    | none => none
    | some .copier => some (.verbatim delivery.verbatimRecordData)
    | some .asyncRecordFilterCopier =>
      if delivery.copyVerbatim = true then some (.verbatim delivery.verbatimRecordData)
      else
        let copier := OssAsyncRecordFilterCopier.start.onBlocks delivery.blocks
        if copier.imageChunk.isSome = true then none else some (.chunks copier.chunks)
  else none

/-- What reading the record adds to the output. -/
def copiedEvents (recordIndex : Option ℕ) (info : RecordInfo) (delivery : CopyDelivery L) :
    List (OutputEvent L) :=
  (filter.copiedContent info delivery).toList.map fun content =>
    .copied recordIndex ⟨info.streamId, info.timestamp, info.recordType, delivery.formatVersion,
      content⟩

/-- **Reading a record**: it is set aside, or what is created of it is created at once. -/
theorem readRecord_eq (recordIndex : Option ℕ) (info : RecordInfo) (delivery : CopyDelivery L) :
    filter.readRecord recordIndex info delivery =
      { filter with
        pendingRecord := (filter.setAside info delivery).getD filter.pendingRecord
        output := filter.output ++ filter.copiedEvents recordIndex info delivery } := by
  unfold readRecord copiedEvents copiedContent setAside
  cases delivery.finished with
  | false => simp
  | true =>
    cases hcopier : filter.copiers info.streamId with
    | none => simp
    | some kind =>
      cases kind with
      | copier => simp [createRecord, emit]
      | asyncRecordFilterCopier =>
        cases hverbatim : delivery.copyVerbatim with
        | true => simp [finishRecordProcessing, hverbatim, createRecord, emit]
        | false =>
          by_cases himage :
              (OssAsyncRecordFilterCopier.start.onBlocks delivery.blocks).imageChunk.isSome = true
          · simp [finishRecordProcessing, hverbatim, himage, processChunkedRecord]
          · simp [finishRecordProcessing, hverbatim, himage, createRecord, emit]

/-- A record set aside awaits the processing of its image. -/
theorem needsImageProcessing_of_setAside {info : RecordInfo} {delivery : CopyDelivery L}
    {pending : OssPendingRecord L} (h : filter.setAside info delivery = some pending) :
    pending.needsImageProcessing = true := by
  unfold setAside at h
  simp only at h
  split at h
  · rename_i hcase
    cases h
    exact hcase.2.2.2
  · cases h

/-- A record set aside is not copied. -/
theorem copiedContent_of_setAside {info : RecordInfo} {delivery : CopyDelivery L}
    {pending : OssPendingRecord L} (h : filter.setAside info delivery = some pending) :
    filter.copiedContent info delivery = none := by
  unfold setAside at h
  simp only at h
  split at h
  · rename_i hcase
    obtain ⟨hfinished, hcopier, hverbatim, himage⟩ := hcase
    simp [copiedContent, hfinished, hcopier, hverbatim, himage]
  · cases h

/-- A record of a stream with a copier that gets to the end is copied or set aside. -/
theorem copiedContent_ne_none {info : RecordInfo} {delivery : CopyDelivery L}
    (hcopier : filter.copiers info.streamId ≠ none) (hfinished : delivery.finished = true)
    (h : filter.setAside info delivery = none) : filter.copiedContent info delivery ≠ none := by
  unfold setAside at h
  unfold copiedContent
  simp only [hfinished, true_and, if_true, ite_eq_right_iff, reduceCtorEq, imp_false] at h ⊢
  cases hkind : filter.copiers info.streamId with
  | none => exact absurd hkind hcopier
  | some kind =>
    cases kind with
    | copier => simp
    | asyncRecordFilterCopier =>
      rw [hkind] at h
      simp only
      split
      · simp
      · rename_i hverbatim
        have himage := fun himage => h ⟨rfl, Bool.not_eq_true _ ▸ hverbatim, himage⟩
        rw [if_neg himage]
        simp

/-- The filter with the same records and copiers. -/
structure SameSource (filter filter₀ : OssAsyncImageFilter L) : Prop where
  records_eq : filter.records = filter₀.records
  copiers_eq : filter.copiers = filter₀.copiers

theorem SameSource.setAside_eq {filter filter₀ : OssAsyncImageFilter L}
    (h : SameSource filter filter₀) (info : RecordInfo) (delivery : CopyDelivery L) :
    filter.setAside info delivery = filter₀.setAside info delivery := by
  unfold setAside
  rw [h.copiers_eq]

theorem SameSource.recordAt_eq {filter filter₀ : OssAsyncImageFilter L}
    (h : SameSource filter filter₀) (i : ℕ) : filter.recordAt i = filter₀.recordAt i := by
  unfold recordAt
  rw [h.records_eq]

/-! ## The records in order -/

/-- The record of `records_` at a position, set aside if its copier does so. -/
def asideAt (i : ℕ) : Option (OssPendingRecord L) :=
  filter.setAside (filter.recordAt i) (N.readRecord i)

/-- What reading the record at a position adds to the output. -/
def copiedAt (i : ℕ) : List (OutputEvent L) :=
  filter.copiedEvents (some i) (filter.recordAt i) (N.readRecord i)

theorem SameSource.asideAt_eq {filter filter₀ : OssAsyncImageFilter L}
    (h : SameSource filter filter₀) {i : ℕ} : filter.asideAt N i = filter₀.asideAt N i := by
  unfold asideAt
  rw [h.setAside_eq, h.recordAt_eq]

theorem readNextRecord_eq :
    filter.readNextRecord N =
      { filter with
        pendingRecord := (filter.asideAt N filter.nextRecordIndex).getD .new
        output := filter.output ++ filter.copiedAt N filter.nextRecordIndex
        nextRecordIndex := filter.nextRecordIndex + 1 } := by
  unfold readNextRecord
  simp only [readRecord_eq]
  rfl

theorem needsImageProcessing_readNextRecord :
    (filter.readNextRecord N).pendingRecord.needsImageProcessing =
      (filter.asideAt N filter.nextRecordIndex).isSome := by
  rw [readNextRecord_eq]
  cases haside : filter.asideAt N filter.nextRecordIndex with
  | none => rfl
  | some pending => exact filter.needsImageProcessing_of_setAside haside

/-- The filter after the record at the cursor was read, when it is not set aside. -/
def copyNext : OssAsyncImageFilter L :=
  { filter with
    pendingRecord := .new
    output := filter.output ++ filter.copiedAt N filter.nextRecordIndex
    nextRecordIndex := filter.nextRecordIndex + 1 }

/-- The filter after the record at the cursor was read and set aside as `pending`. -/
def parkNext (pending : OssPendingRecord L) : OssAsyncImageFilter L :=
  { filter with
    pendingRecord := pending.moved
    pendingRecords := filter.pendingRecords.insert filter.nextRecordIndex (pending.withBuffer [])
    nextRecordIndex := filter.nextRecordIndex + 1 }

/-- **The rule for `getNextImage`**: an invariant of the records copied, from which a property of
the reply and the filter follows when a record is set aside and when there is none left. -/
theorem getNextImage_rule {I : OssAsyncImageFilter L → Prop}
    {Q : FilterReply → OssAsyncImageFilter L → Prop}
    (copy : ∀ filter, I filter → filter.nextRecordIndex < filter.records.length →
      filter.asideAt N filter.nextRecordIndex = none → I (filter.copyNext N))
    (park : ∀ filter pending, I filter → filter.nextRecordIndex < filter.records.length →
      filter.asideAt N filter.nextRecordIndex = some pending →
      Q (.image filter.nextRecordIndex pending.image.1 pending.image.2) (filter.parkNext pending))
    (stop : ∀ filter, I filter → Q .noImage filter) (h : I filter) :
    Q (filter.getNextImage N).1 (filter.getNextImage N).2 := by
  have hloop : ∀ left filter, I filter → left ≤ filter.records.length - filter.nextRecordIndex →
      Q (getNextImageLoop N left filter).1 (getNextImageLoop N left filter).2 := by
    intro left
    induction left with
    | zero => exact fun filter h _ => stop filter h
    | succ left ih =>
      intro filter h hleft
      have hlt : filter.nextRecordIndex < filter.records.length := by omega
      unfold getNextImageLoop
      simp only [needsImageProcessing_readNextRecord]
      cases haside : filter.asideAt N filter.nextRecordIndex with
      | none =>
        have hcopy : filter.readNextRecord N = filter.copyNext N := by
          rw [readNextRecord_eq, haside]
          rfl
        rw [if_neg (by simp), hcopy]
        refine ih _ (copy filter h hlt haside) ?_
        show left ≤ filter.records.length - (filter.nextRecordIndex + 1)
        omega
      | some pending =>
        have hevents : filter.copiedAt N filter.nextRecordIndex = [] := by
          unfold copiedAt copiedEvents
          rw [filter.copiedContent_of_setAside haside]
          rfl
        have hpark : filter.readNextRecord N = { filter with
            pendingRecord := pending
            nextRecordIndex := filter.nextRecordIndex + 1 } := by
          rw [readNextRecord_eq, haside, hevents, List.append_nil]
          rfl
        rw [if_pos (by simp), hpark]
        exact park filter pending h hlt haside
  exact hloop _ filter h le_rfl

/-! ## The output -/

/-- The records created by `processPendingRecords`, with their indexes. -/
def processed (output : List (OutputEvent L)) : List (ℕ × OutputRecord L) :=
  output.filterMap fun
    | .processed recordIndex record => some (recordIndex, record)
    | _ => none

theorem processed_append (output output' : List (OutputEvent L)) :
    processed (output ++ output') = processed output ++ processed output' :=
  List.filterMap_append

theorem processed_copiedEvents (recordIndex : Option ℕ) (info : RecordInfo)
    (delivery : CopyDelivery L) :
    processed (filter.copiedEvents recordIndex info delivery) = [] := by
  unfold processed copiedEvents
  rw [List.filterMap_map]
  exact List.filterMap_eq_nil_iff.2 fun _ _ => rfl

theorem processed_processPendingRecords :
    processed filter.processPendingRecords.output = processed filter.output ++
      (filter.pendingRecords.frontWhile ready).map fun e =>
        (e.1, filter.processedRecord e.1 e.2) := by
  unfold processPendingRecords
  simp only [processed_append]
  have hcreated : ∀ entries : List (ℕ × OssPendingRecord L),
      processed (entries.map fun e =>
        OutputEvent.processed e.1 (filter.processedRecord e.1 e.2)) =
      entries.map fun e => (e.1, filter.processedRecord e.1 e.2) := by
    intro entries
    unfold processed
    rw [List.filterMap_map, ← List.filterMap_eq_map]
    rfl
  rw [hcreated]
  split
  · exact List.append_nil _
  · exact List.append_nil _

/-! ## Answers -/

/-- An answer to a record that awaits one: its entry is changed, and what is ready leaves. -/
def answer (i : ℕ) (pending : Option (OssPendingRecord L)) : OssAsyncImageFilter L :=
  { filter with
    pendingRecords := filter.pendingRecords.alter i pending }.processPendingRecords

theorem awaiting_eq_some_iff {i : ℕ} {pending : OssPendingRecord L} :
    filter.awaiting i = some pending ↔
      filter.pendingRecords.find? i = some pending ∧ ready pending = false := by
  unfold awaiting ready
  rw [Option.filter_eq_some_iff, Bool.not_eq_false']

theorem call_writeProcessedImage_of_none {i : ℕ} (h : filter.awaiting i = none)
    (processedImage : List UInt8) :
    call N filter (.writeProcessedImage i processedImage) = (.accepted false, filter) := by
  simp only [call, writeProcessedImage, h]

theorem call_discardRecord_of_none {i : ℕ} (h : filter.awaiting i = none) :
    call N filter (.discardRecord i) = (.accepted false, filter) := by
  simp only [call, discardRecord, h]

theorem call_writeProcessedImage_of_some {i : ℕ} {pending : OssPendingRecord L}
    (h : filter.awaiting i = some pending) (processedImage : List UInt8) :
    call N filter (.writeProcessedImage i processedImage) =
      (.accepted true, filter.answer i (some (pending.setBuffer processedImage))) := by
  simp only [call, writeProcessedImage, h]
  rfl

theorem call_discardRecord_of_some {i : ℕ} {pending : OssPendingRecord L}
    (h : filter.awaiting i = some pending) :
    call N filter (.discardRecord i) = (.accepted true, filter.answer i none) := by
  simp only [call, discardRecord, h]
  rfl

/-! ## The start of a run -/

/-- The records read first are copied or set aside for good. -/
theorem preRollConfigAndState_eq (F : FilteredFileReader L) :
    ∃ (pending : OssPendingRecord L) (records : List (OutputRecord L)),
      filter.preRollConfigAndState F N = { filter with
        pendingRecord := pending
        output := filter.output ++ records.map (.copied none) } := by
  unfold preRollConfigAndState
  induction F.preRoll generalizing filter with
  | nil => exact ⟨filter.pendingRecord, [], by rw [List.map_nil, List.append_nil]; rfl⟩
  | cons i preRoll ih =>
    obtain ⟨pending, records, hrest⟩ :=
      ih (filter.readRecord none (F.reader.index.get i) (N.readPreRoll i))
    rw [List.foldl_cons, hrest, readRecord_eq]
    let info := F.reader.index.get i
    let delivery := N.readPreRoll i
    refine ⟨pending, (filter.copiedContent info delivery).toList.map (fun content =>
      ⟨info.streamId, info.timestamp, info.recordType, delivery.formatVersion, content⟩) ++
        records, ?_⟩
    simp only [copiedEvents, List.map_append, List.map_map, List.append_assoc]
    rfl

/-- A filter whose output file was created, or could not be. -/
structure Started (F : FilteredFileReader L) : Prop where
  nextRecordIndex_eq : filter.nextRecordIndex = 0
  pendingRecords_eq : filter.pendingRecords = .empty
  output_eq : ∃ records : List (OutputRecord L), filter.output = records.map (.copied none)
  copiers_ne_none : ∀ info ∈ filter.records, filter.copiers info.streamId ≠ none
  records_sublist : filter.records = F.selected.map F.reader.index.get ∨ filter.records = []

theorem copiers_withCopiers (F : FilteredFileReader L) {id : StreamId} (h : id ∈ F.streams) :
    (filter.withCopiers F).copiers id = some (copierFor F id) := by
  have hfold : ∀ (streams : List StreamId) (copiers : StreamId → Option CopierKind),
      streams.foldl (fun copiers id => Function.update copiers id (some (copierFor F id)))
        copiers id = if id ∈ streams then some (copierFor F id) else copiers id := by
    intro streams
    induction streams with
    | nil => exact fun copiers => rfl
    | cons s streams ih =>
      intro copiers
      rw [List.foldl_cons, ih]
      by_cases hs : id = s
      · subst hs
        simp
      · simp [hs]
  exact (hfold F.streams filter.copiers).trans (if_pos h)

theorem started_createOutputFile (F : FilteredFileReader L) :
    Started ((new : OssAsyncImageFilter L).createOutputFile F N).2 F := by
  unfold createOutputFile
  split
  · exact ⟨rfl, rfl, ⟨[], rfl⟩, fun _ h => absurd h List.not_mem_nil, .inr rfl⟩
  simp only
  split
  · obtain ⟨pending, records, heq⟩ := preRollConfigAndState_eq N
      { (new : OssAsyncImageFilter L).withCopiers F with fileCreated := true } F
    rw [heq]
    refine ⟨rfl, rfl, ⟨records, rfl⟩, fun info hinfo => ?_, .inl rfl⟩
    obtain ⟨i, hi, rfl⟩ := List.mem_map.1 hinfo
    have hcopier := (new : OssAsyncImageFilter L).copiers_withCopiers F (F.mem_streams i hi)
    exact fun hnone => Option.some_ne_none _ (hcopier.symm.trans hnone)
  · exact ⟨rfl, rfl, ⟨[], rfl⟩, fun _ h => absurd h List.not_mem_nil, .inr rfl⟩

end OssAsyncImageFilter

/-- A file of two data records with an image each, all selected. -/
def twoImages : FilteredFileReader .bare where
  reader := .ofIndex .bare
    [⟨.ofRat 0, ⟨214, 1⟩, .data⟩, ⟨.ofRat 1, ⟨214, 1⟩, .data⟩] (by decide)
  streams := [⟨214, 1⟩]
  mightContainImages _ := true
  preRoll := []
  selected := List.finRange _
  mem_streams := by decide

/-- Every record is read, with one image of a byte. -/
def twoImagesNative : FilterNative .bare where
  openFile := 0
  createFileAsync := 0
  closeFile := 0
  readPreRoll _ := ⟨1, false, [], [], true, 0⟩
  readRecord _ :=
    ⟨1, false, [], [.image 0 (.ofImage .bare ⟨.raw, .grey8, 1, 1⟩ (some 1)) [7]], true, 0⟩

end Pyvrs
