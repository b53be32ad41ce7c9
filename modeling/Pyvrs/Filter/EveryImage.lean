import Mathlib.Data.List.Perm.Basic
import Pyvrs.Filter.NothingLost

/-!
# Which images are offered for filtering

While a record is copied, `OssAsyncRecordFilterCopier` keeps a pointer to the last image chunk only
(`offered_onBlocks`), and that image is the one `getNextImage` returns with the index of the record.
A record that is read when the file is created is not set aside for it at all. So the images of the
records that are filtered are offered, all of them, exactly when none of these records has two, and
none of those read first has any (`offered_iff`).
-/

namespace Pyvrs

open Foundations FilterHistory

/-! ## The images of a record -/

section Images

variable {L : VrsLib}

/-- The spec and the bytes of an image block of known size. -/
def CopiedBlock.image? : CopiedBlock L → Option (ImageContentBlockSpec × List UInt8)
  | .image _ cb content => cb.blockSize.map fun _ => (cb.image, content)
  | .dataLayout _ _ => none
  | .other _ _ _ => none

/-- The images of a record, in the order of its blocks. -/
def CopyDelivery.images (delivery : CopyDelivery L) : List (ImageContentBlockSpec × List UInt8) :=
  delivery.blocks.filterMap CopiedBlock.image?

/-- The record is copied block by block, unless it has no content: `shouldCopyVerbatim` returns
false, and vrs asks it of every record that has one. -/
def CopyDelivery.BlockByBlock (delivery : CopyDelivery L) : Prop :=
  delivery.copyVerbatim = true → delivery.blocks = []

namespace OssAsyncRecordFilterCopier

/-- The spec and the bytes that the image pointer leads to. -/
def offered (copier : OssAsyncRecordFilterCopier L) :
    Option (ImageContentBlockSpec × List UInt8) :=
  match copier.imageChunk.bind fun position => copier.chunks[position]? with
  | some (.contentBlock cb content) => some (cb.image, content)
  | _ => none

variable {copier : OssAsyncRecordFilterCopier L}

/-- A chunk that is added stays out of the way of the pointer. -/
theorem Valid.offered_append (h : copier.Valid) (chunk : ContentChunk L) :
    offered { copier with chunks := copier.chunks ++ [chunk] } = copier.offered := by
  unfold offered
  cases himage : copier.imageChunk with
  | none => rfl
  | some position =>
    obtain ⟨cb, content, hchunk⟩ := h position himage
    have hlt := (List.getElem?_eq_some_iff.1 hchunk).1
    simp only [Option.bind_some, List.getElem?_append_left hlt]

/-- An image of known size takes the pointer, whatever it led to. -/
theorem Valid.offered_onBlock (h : copier.Valid) (block : CopiedBlock L) :
    (copier.onBlock block).offered = block.image?.or copier.offered := by
  cases block with
  | dataLayout i dl => exact h.offered_append _
  | other i cb content => exact h.offered_append _
  | image i cb content =>
    show (copier.onImageRead cb content).offered =
      (cb.blockSize.map fun _ => (cb.image, content)).or copier.offered
    unfold onImageRead
    cases cb.blockSize with
    | none => exact h.offered_append _
    | some size => simp [offered]

/-- **The last image is the one offered.** -/
theorem Valid.offered_onBlocks (h : copier.Valid) (blocks : List (CopiedBlock L)) :
    (copier.onBlocks blocks).offered =
      (blocks.filterMap CopiedBlock.image?).getLast?.or copier.offered := by
  induction blocks generalizing copier with
  | nil => rfl
  | cons block blocks ih =>
    have hrest : (copier.onBlocks (block :: blocks)).offered =
        (blocks.filterMap CopiedBlock.image?).getLast?.or (copier.onBlock block).offered :=
      ih (h.onBlock block)
    rw [hrest, h.offered_onBlock, List.filterMap_cons]
    cases block.image? with
    | none => rfl
    | some image =>
      cases hlast : (blocks.filterMap CopiedBlock.image?).getLast? with
      | none => simp [List.getLast?_cons, hlast]
      | some last => simp [List.getLast?_cons, hlast]

theorem Valid.imageChunk_eq_none_iff (h : copier.Valid) :
    copier.imageChunk = none ↔ copier.offered = none := by
  unfold offered
  cases himage : copier.imageChunk with
  | none => simp
  | some position =>
    obtain ⟨cb, content, hchunk⟩ := h position himage
    simp [hchunk]

end OssAsyncRecordFilterCopier

end Images

/-! ## What a run offers -/

/-- The images that `getNextImage` returned with an index. -/
def FilterHistory.imagesOf (t : List (FilterCall × FilterReply)) (i : ℕ) :
    List (ImageContentBlockSpec × List UInt8) :=
  t.filterMap fun
    | (.getNextImage, .image recordIndex spec frame) =>
      if recordIndex = i then some (spec, frame) else none
    | _ => none

theorem FilterHistory.imagesOf_append (t t' : List (FilterCall × FilterReply)) (i : ℕ) :
    imagesOf (t ++ t') i = imagesOf t i ++ imagesOf t' i :=
  List.filterMap_append

/-- The images that `getNextImage` returned. -/
def FilterHistory.returned (t : List (FilterCall × FilterReply)) :
    List (ImageContentBlockSpec × List UInt8) :=
  t.filterMap fun
    | (.getNextImage, .image _ spec frame) => some (spec, frame)
    | _ => none

theorem flatMap_range_ite {α : Type} {i n : ℕ} (h : i < n) (a : α) :
    (List.range n).flatMap (fun j => if i = j then [a] else []) = [a] := by
  induction n with
  | zero => omega
  | succ n ih =>
    rw [List.range_succ, List.flatMap_append, List.flatMap_singleton]
    by_cases hlast : i = n
    · have hnone : (List.range n).flatMap (fun j => if i = j then [a] else []) = [] := by
        refine List.flatMap_eq_nil_iff.2 fun j hj => if_neg ?_
        have hlt := List.mem_range.1 hj
        omega
      rw [hnone, if_pos hlast, List.nil_append]
    · rw [ih (by omega), if_neg hlast, List.append_nil]

/-- The images returned are those returned with the indexes there are. -/
theorem FilterHistory.returned_perm {t : List (FilterCall × FilterReply)} {n : ℕ}
    (h : ∀ i ∈ handedOut t, i < n) : (returned t).Perm ((List.range n).flatMap (imagesOf t)) := by
  induction t with
  | nil => simp [returned, imagesOf]
  | cons e t ih =>
    have hrest : ∀ i ∈ handedOut t, i < n := fun i hi =>
      h i (by rw [← List.singleton_append, handedOut_append]; exact List.mem_append_right _ hi)
    have hhead : (List.range n).flatMap (imagesOf [e]) = returned [e] := by
      match e with
      | (.getNextImage, .image i spec frame) =>
        have hi : i < n := h i (List.mem_filterMap.2 ⟨_, List.mem_cons_self, rfl⟩)
        refine Eq.trans (congrArg (List.range n).flatMap (funext fun j => ?_))
          (flatMap_range_ite hi (spec, frame))
        by_cases hj : i = j <;> simp [imagesOf, hj]
      | (.getNextImage, .noImage) | (.getNextImage, .accepted _) | (.writeProcessedImage _ _, _)
      | (.discardRecord _, _) => exact List.flatMap_eq_nil_iff.2 fun _ _ => rfl
    have hsplit : imagesOf (e :: t) = fun i => imagesOf [e] i ++ imagesOf t i :=
      funext fun i => imagesOf_append [e] t i
    have htail : returned (e :: t) = returned [e] ++ returned t :=
      List.filterMap_append (l := [e])
    rw [hsplit, htail]
    refine List.Perm.trans ?_ (List.flatMap_append_perm _ _ _)
    rw [hhead]
    exact (ih hrest).append_left _

namespace OssAsyncImageFilter

variable {L : VrsLib} (F : FilteredFileReader L) (N : FilterNative L)
  (filter₀ filter : OssAsyncImageFilter L)

/-- The images of a record of a stream that `OssAsyncRecordFilterCopier` handles, if the record is
read to its end. -/
def filteredImages (info : RecordInfo) (delivery : CopyDelivery L) :
    List (ImageContentBlockSpec × List UInt8) :=
  if filter.copiers info.streamId = some .asyncRecordFilterCopier ∧ delivery.finished = true then
    delivery.images
  else []

/-- The images of the records that are read when the file is created. -/
def preRollImages : List (ImageContentBlockSpec × List UInt8) :=
  if N.openFile = 0 ∧ N.createFileAsync = 0 then
    F.preRoll.flatMap fun i => filter.filteredImages (F.reader.index.get i) (N.readPreRoll i)
  else []

/-- The images of the first records of `records_`. -/
def readImages (n : ℕ) : List (ImageContentBlockSpec × List UInt8) :=
  (List.range n).flatMap fun i => filter.filteredImages (filter.recordAt i) (N.readRecord i)

/-- The record of `records_` at `i` is of a stream that `OssAsyncRecordFilterCopier` handles. -/
def Filtered (i : ℕ) : Prop :=
  filter.copiers (filter.recordAt i).streamId = some .asyncRecordFilterCopier

/-- **Every image of a filtered stream is offered**, in a run of the filter. -/
structure Offered (calls : List FilterCall) : Prop where
  /-- `getNextImage` returned every image of the records that were read, once. -/
  read : let created := ((new : OssAsyncImageFilter L).createOutputFile F N).2
    ∀ i < (Machine.exec (call N) created calls).nextRecordIndex, created.Filtered i →
      (N.readRecord i).finished = true →
        imagesOf (Machine.trace (call N) created calls) i = (N.readRecord i).images
  /-- It did so before the call that creates the record. -/
  before : let created := ((new : OssAsyncImageFilter L).createOutputFile F N).2
    ∀ (earlier : List FilterCall) (c : FilterCall) (later : List FilterCall),
      calls = earlier ++ c :: later → ∀ i, created.Filtered i →
        ¬IsCreated (Machine.exec (call N) created earlier).output i →
        IsCreated (Machine.exec (call N) created (earlier ++ [c])).output i →
          imagesOf (Machine.trace (call N) created earlier) i = (N.readRecord i).images
  /-- It returned every image of a record once, those of the records read first as well. -/
  returned : let created := ((new : OssAsyncImageFilter L).createOutputFile F N).2
    (FilterHistory.returned (Machine.trace (call N) created calls)).Perm
      (created.preRollImages F N ++
        created.readImages N (Machine.exec (call N) created calls).nextRecordIndex)
  /-- The other records in the output have been read before the first call, and have no image. -/
  preRoll : let created := ((new : OssAsyncImageFilter L).createOutputFile F N).2
    ∀ record, .copied none record ∈ (Machine.exec (call N) created calls).output →
      created.copiers record.writer = some .asyncRecordFilterCopier →
        ∃ i ∈ F.preRoll, .copied none record ∈
            created.copiedEvents none (F.reader.index.get i) (N.readPreRoll i) ∧
          (N.readPreRoll i).images = []

/-! ## Reading a record with images -/

variable {N} {filter₀} {filter} {info : RecordInfo} {delivery : CopyDelivery L}

/-- A record set aside is offered with its last image. -/
theorem getLast?_images_of_setAside {pending : OssPendingRecord L}
    (h : filter.setAside info delivery = some pending) :
    delivery.images.getLast? = some pending.image := by
  have hvalid := OssAsyncRecordFilterCopier.valid_start.onBlocks delivery.blocks
  have hlast := OssAsyncRecordFilterCopier.valid_start.offered_onBlocks delivery.blocks
  rw [show OssAsyncRecordFilterCopier.start.offered = none from rfl, Option.or_none] at hlast
  unfold setAside at h
  simp only at h
  split at h
  · rename_i hcase
    cases h
    obtain ⟨position, himage⟩ := Option.isSome_iff_exists.1 hcase.2.2.2
    obtain ⟨cb, content, hchunk⟩ := hvalid position himage
    rw [CopyDelivery.images, ← hlast]
    simp only [OssAsyncRecordFilterCopier.offered, OssPendingRecord.image, himage,
      Option.bind_some, hchunk]
  · cases h

/-- What is set aside was read to its end, by a copier that filters. -/
theorem filtered_of_setAside {pending : OssPendingRecord L}
    (h : filter.setAside info delivery = some pending) :
    filter.copiers info.streamId = some .asyncRecordFilterCopier ∧ delivery.finished = true := by
  unfold setAside at h
  simp only at h
  split at h
  · rename_i hcase
    exact ⟨hcase.2.1, hcase.1⟩
  · cases h

/-- A record that is read to the end and not set aside has no image. -/
theorem images_eq_nil_of_setAside
    (hcopier : filter.copiers info.streamId = some .asyncRecordFilterCopier)
    (hblocks : delivery.BlockByBlock) (hfinished : delivery.finished = true)
    (h : filter.setAside info delivery = none) : delivery.images = [] := by
  have hvalid := OssAsyncRecordFilterCopier.valid_start.onBlocks delivery.blocks
  have hlast := OssAsyncRecordFilterCopier.valid_start.offered_onBlocks delivery.blocks
  rw [show OssAsyncRecordFilterCopier.start.offered = none from rfl, Option.or_none] at hlast
  cases hverbatim : delivery.copyVerbatim with
  | true =>
    rw [CopyDelivery.images, hblocks hverbatim]
    rfl
  | false =>
    have hnone : (OssAsyncRecordFilterCopier.start.onBlocks delivery.blocks).imageChunk = none := by
      unfold setAside at h
      simpa [hfinished, hcopier, hverbatim] using h
    rw [hvalid.imageChunk_eq_none_iff, hlast] at hnone
    exact List.getLast?_eq_none_iff.1 hnone

/-- A record that its copier creates has no image. -/
theorem images_eq_nil_of_copiedContent
    (hcopier : filter.copiers info.streamId = some .asyncRecordFilterCopier)
    (hblocks : delivery.BlockByBlock) (h : filter.copiedContent info delivery ≠ none) :
    delivery.images = [] := by
  have hfinished : delivery.finished = true := by
    by_contra hnot
    exact h (if_neg hnot)
  refine images_eq_nil_of_setAside hcopier hblocks hfinished ?_
  cases haside : filter.setAside info delivery with
  | none => rfl
  | some pending => exact absurd (filter.copiedContent_of_setAside haside) h

/-- What the records read first add to the output. -/
theorem output_preRollConfigAndState (F : FilteredFileReader L)
    (filter : OssAsyncImageFilter L) :
    (filter.preRollConfigAndState F N).output = filter.output ++ F.preRoll.flatMap fun i =>
      filter.copiedEvents none (F.reader.index.get i) (N.readPreRoll i) := by
  unfold preRollConfigAndState
  induction F.preRoll generalizing filter with
  | nil => exact (List.append_nil _).symm
  | cons i preRoll ih =>
    rw [List.foldl_cons, ih, readRecord_eq, List.flatMap_cons, ← List.append_assoc]
    rfl

/-- A new output file has what its copiers created of the records read first. -/
theorem mem_preRoll_of_copied {record : OutputRecord L}
    (h : .copied none record ∈ ((new : OssAsyncImageFilter L).createOutputFile F N).2.output) :
    ∃ i ∈ F.preRoll, .copied none record ∈
      ((new : OssAsyncImageFilter L).createOutputFile F N).2.copiedEvents none
        (F.reader.index.get i) (N.readPreRoll i) := by
  unfold createOutputFile at h ⊢
  split at h
  · cases h
  · rename_i hopen
    rw [if_neg hopen]
    simp only at h ⊢
    split at h
    · rename_i hcreate
      rw [if_pos hcreate]
      obtain ⟨pending, records, heq⟩ := preRollConfigAndState_eq N
        { (new : OssAsyncImageFilter L).withCopiers F with fileCreated := true } F
      rw [output_preRollConfigAndState] at h
      obtain ⟨i, hi, hmem⟩ := List.mem_flatMap.1 ((List.mem_append.1 h).resolve_left nofun)
      rw [heq]
      exact ⟨i, hi, hmem⟩
    · cases h

/-! ## The images of a history -/

variable (N) (filter₀)

/-- What every call preserves: an index handed out came with the image set aside for it, the records
created by copiers were not set aside, and no call reads records of the pre-roll. -/
structure HandedOut (filter : OssAsyncImageFilter L) (t : List (FilterCall × FilterReply)) :
    Prop where
  imagesOf_eq : ∀ i, imagesOf t i =
    if i ∈ handedOut t then [((filter₀.asideAt N i).getD .new).image] else []
  copied_aside : ∀ i record, .copied (some i) record ∈ filter.output → filter₀.asideAt N i = none
  copied_none : ∀ record, .copied none record ∈ filter.output →
    .copied none record ∈ filter₀.output

variable {N} {filter₀} {t : List (FilterCall × FilterReply)}

theorem Started.handedOut (h : Started filter₀ F) : HandedOut N filter₀ filter₀ [] := by
  obtain ⟨records, houtput⟩ := h.output_eq
  refine ⟨fun _ => rfl, fun i record hmem => ?_, fun _ => id⟩
  rw [houtput] at hmem
  obtain ⟨_, -, hevent⟩ := List.mem_map.1 hmem
  cases hevent

/-- A reply without an image changes nothing. -/
theorem HandedOut.append (h : HandedOut N filter₀ filter t) {e : FilterCall × FilterReply}
    (himages : ∀ i, imagesOf [e] i = []) (hhanded : FilterHistory.handedOut [e] = []) :
    HandedOut N filter₀ filter (t ++ [e]) := by
  refine ⟨fun i => ?_, h.copied_aside, h.copied_none⟩
  rw [imagesOf_append, handedOut_append, himages, hhanded, List.append_nil, List.append_nil]
  exact h.imagesOf_eq i

theorem HandedOut.copyNext (h : HandedOut N filter₀ filter t) (hsource : SameSource filter filter₀)
    (haside : filter.asideAt N filter.nextRecordIndex = none) :
    HandedOut N filter₀ (filter.copyNext N) t := by
  have hevent : ∀ recordIndex record,
      .copied recordIndex record ∈ filter.copiedAt N filter.nextRecordIndex →
        recordIndex = some filter.nextRecordIndex := by
    intro recordIndex record hmem
    obtain ⟨_, -, hevent⟩ := List.mem_map.1 hmem
    cases hevent
    rfl
  refine ⟨h.imagesOf_eq, fun i record hmem => ?_, fun record hmem => ?_⟩
  · rcases List.mem_append.1 hmem with hmem | hmem
    · exact h.copied_aside i record hmem
    · cases hevent _ _ hmem
      exact hsource.asideAt_eq N ▸ haside
  · rcases List.mem_append.1 hmem with hmem | hmem
    · exact h.copied_none record hmem
    · cases hevent _ _ hmem

/-- An index handed out for the first time comes with the image of its record. -/
theorem HandedOut.parkNext (h : HandedOut N filter₀ filter t) (hsource : SameSource filter filter₀)
    (hlt : ∀ i ∈ FilterHistory.handedOut t, i < filter.nextRecordIndex)
    {pending : OssPendingRecord L}
    (haside : filter.asideAt N filter.nextRecordIndex = some pending) :
    HandedOut N filter₀ (filter.parkNext pending) (t ++ [(.getNextImage,
      .image filter.nextRecordIndex pending.image.1 pending.image.2)]) := by
  refine ⟨fun i => ?_, h.copied_aside, h.copied_none⟩
  rw [imagesOf_append, h.imagesOf_eq, handedOut_image]
  simp only [List.mem_append, List.mem_singleton]
  by_cases hi : i = filter.nextRecordIndex
  · subst hi
    have hnew : filter.nextRecordIndex ∉ FilterHistory.handedOut t := fun hmem =>
      absurd (hlt _ hmem) (lt_irrefl _)
    rw [if_neg hnew, if_pos (.inr rfl), ← hsource.asideAt_eq N, haside]
    simp [imagesOf]
  · have hnone : imagesOf [(.getNextImage,
        .image filter.nextRecordIndex pending.image.1 pending.image.2)] i = [] := by
      simp [imagesOf, Ne.symm hi]
    rw [hnone, List.append_nil]
    simp only [hi, or_false]

theorem HandedOut.answer (h : HandedOut N filter₀ filter t) (i : ℕ)
    (pending : Option (OssPendingRecord L)) : HandedOut N filter₀ (filter.answer i pending) t :=
  ⟨h.imagesOf_eq, fun j record hmem => h.copied_aside j record
      ((filter.copied_mem_answer i pending).1 hmem),
    fun record hmem => h.copied_none record ((filter.copied_mem_answer i pending).1 hmem)⟩

/-- **Every call hands out the images of the records it sets aside.** -/
theorem HandedOut.call (h : HandedOut N filter₀ filter t) (hbuffered : Buffered N filter₀ filter t)
    (c : FilterCall) : HandedOut N filter₀ (call N filter c).2
      (t ++ [(c, (OssAsyncImageFilter.call N filter c).1)]) := by
  cases c with
  | getNextImage =>
    refine filter.getNextImage_rule N
      (I := fun filter => HandedOut N filter₀ filter t ∧ SameSource filter filter₀ ∧
        ∀ i ∈ FilterHistory.handedOut t, i < filter.nextRecordIndex)
      (Q := fun reply filter => HandedOut N filter₀ filter (t ++ [(.getNextImage, reply)])) ?_ ?_ ?_
      ⟨h, hbuffered.toSameSource, hbuffered.handedOut_lt⟩
    · rintro filter ⟨h, hsource, hlt⟩ - haside
      exact ⟨h.copyNext hsource haside, ⟨hsource.records_eq, hsource.copiers_eq⟩,
        fun i hi => (hlt i hi).trans (Nat.lt_succ_self _)⟩
    · rintro filter pending ⟨h, hsource, hlt⟩ - haside
      exact h.parkNext hsource hlt haside
    · rintro filter ⟨h, -, -⟩
      exact h.append (fun _ => rfl) rfl
  | writeProcessedImage i processedImage =>
    cases hawaiting : filter.awaiting i with
    | none =>
      rw [filter.call_writeProcessedImage_of_none N hawaiting]
      exact h.append (fun _ => rfl) rfl
    | some pending =>
      rw [filter.call_writeProcessedImage_of_some N hawaiting]
      exact (h.answer i _).append (fun _ => rfl) rfl
  | discardRecord i =>
    cases hawaiting : filter.awaiting i with
    | none =>
      rw [filter.call_discardRecord_of_none N hawaiting]
      exact h.append (fun _ => rfl) rfl
    | some pending =>
      rw [filter.call_discardRecord_of_some N hawaiting]
      exact (h.answer i none).append (fun _ => rfl) rfl

theorem HandedOut.length_imagesOf_le (h : HandedOut N filter₀ filter t) (i : ℕ) :
    (imagesOf t i).length ≤ 1 := by
  rw [h.imagesOf_eq]
  split
  · exact le_rfl
  · exact Nat.zero_le 1

/-- The image of an index handed out is the last of its record, and all of them if it has but
one. -/
theorem HandedOut.imagesOf_of_handedOut (h : HandedOut N filter₀ filter t)
    (hbuffered : Buffered N filter₀ filter t) {i : ℕ} (hi : i ∈ FilterHistory.handedOut t)
    (hone : (N.readRecord i).images.length ≤ 1) : imagesOf t i = (N.readRecord i).images := by
  obtain ⟨pending, haside⟩ := hbuffered.handedOut_aside i hi
  have hlast : (N.readRecord i).images.getLast? = some pending.image :=
    getLast?_images_of_setAside haside
  rw [h.imagesOf_eq, if_pos hi, haside, Option.getD_some]
  cases himages : (N.readRecord i).images with
  | nil =>
    rw [himages] at hlast
    cases hlast
  | cons image rest =>
    have hrest : rest = [] := by
      rw [himages, List.length_cons] at hone
      exact List.eq_nil_of_length_eq_zero (by omega)
    subst hrest
    rw [himages] at hlast
    cases hlast
    rfl

/-- A record that is not set aside is not handed out, and has no image. -/
theorem HandedOut.imagesOf_of_copied (h : HandedOut N filter₀ filter t)
    (hbuffered : Buffered N filter₀ filter t) (hread : ∀ i, (N.readRecord i).BlockByBlock) {i : ℕ}
    (hfiltered : filter₀.Filtered i) (hfinished : (N.readRecord i).finished = true)
    (haside : filter₀.asideAt N i = none) : imagesOf t i = (N.readRecord i).images := by
  have hnot : i ∉ FilterHistory.handedOut t := by
    intro hi
    obtain ⟨pending, hpending⟩ := hbuffered.handedOut_aside i hi
    rw [haside] at hpending
    cases hpending
  rw [h.imagesOf_eq, if_neg hnot]
  exact (images_eq_nil_of_setAside hfiltered (hread i) hfinished haside).symm

/-- `getNextImage` leaves what was processed as it is. -/
theorem processed_getNextImage (filter : OssAsyncImageFilter L) :
    processed (filter.getNextImage N).2.output = processed filter.output := by
  refine filter.getNextImage_rule N
    (I := fun filter' => processed filter'.output = processed filter.output)
    (Q := fun _ filter' => processed filter'.output = processed filter.output) ?_ ?_ ?_ rfl
  · intro filter' h _ _
    show processed (filter'.output ++ filter'.copiedAt N filter'.nextRecordIndex) = _
    rw [processed_append, copiedAt, processed_copiedEvents, List.append_nil, h]
  · exact fun filter' pending h _ _ => h
  · exact fun filter' h => h

/-- A call that creates a record handed out does not hand it out. -/
theorem handedOut_of_created {c : FilterCall} (hbuffered : Buffered N filter₀ (call N filter c).2
      (t ++ [(c, (call N filter c).1)])) {i : ℕ} {record : OutputRecord L}
    (hbefore : ¬IsCreated filter.output i)
    (hmem : .processed i record ∈ (call N filter c).2.output) :
    i ∈ FilterHistory.handedOut t := by
  have hi := hbuffered.handedOut_of_processed hmem
  rw [handedOut_append, List.mem_append] at hi
  refine hi.resolve_right fun hnew => ?_
  cases c with
  | getNextImage =>
    refine hbefore ⟨record, .inr ?_⟩
    have hprocessed : (i, record) ∈ processed (filter.getNextImage N).2.output :=
      List.mem_filterMap.2 ⟨_, hmem, rfl⟩
    rw [processed_getNextImage] at hprocessed
    obtain ⟨event, hevent, heq⟩ := List.mem_filterMap.1 hprocessed
    cases event with
    | processed j record' =>
      cases heq
      exact hevent
    | copied | recordDecoded => cases heq
  | writeProcessedImage j processedImage => cases hnew
  | discardRecord j => cases hnew

/-- What was returned are the images handed out, of records of filtered streams. -/
theorem HandedOut.returned_perm (h : HandedOut N filter₀ filter t)
    (hbuffered : Buffered N filter₀ filter t)
    (hread : ∀ i < filter.nextRecordIndex, filter₀.Filtered i → (N.readRecord i).finished = true →
      imagesOf t i = (N.readRecord i).images) :
    (FilterHistory.returned t).Perm (filter₀.readImages N filter.nextRecordIndex) := by
  have himages : (List.range filter.nextRecordIndex).flatMap (imagesOf t) =
      filter₀.readImages N filter.nextRecordIndex := by
    refine List.flatMap_congr fun i hi => ?_
    unfold filteredImages
    split
    · rename_i hfiltered
      exact hread i (List.mem_range.1 hi) hfiltered.1 hfiltered.2
    · rename_i hnot
      rw [h.imagesOf_eq, if_neg fun hmem => ?_]
      obtain ⟨pending, haside⟩ := hbuffered.handedOut_aside i hmem
      exact hnot (filtered_of_setAside haside)
  rw [← himages]
  exact FilterHistory.returned_perm hbuffered.handedOut_lt

/-! ## When every image is offered -/

theorem preRollImages_eq_nil_iff :
    filter.preRollImages F N = [] ↔
      (N.openFile = 0 → N.createFileAsync = 0 → ∀ i ∈ F.preRoll,
        filter.copiers (F.reader.index.get i).streamId = some .asyncRecordFilterCopier →
          (N.readPreRoll i).finished = true → (N.readPreRoll i).images = []) := by
  unfold preRollImages filteredImages
  by_cases hcreated : N.openFile = 0 ∧ N.createFileAsync = 0
  · rw [if_pos hcreated, List.flatMap_eq_nil_iff]
    simp [hcreated]
  · rw [if_neg hcreated]
    exact iff_of_true rfl fun hopen hcreate => absurd ⟨hopen, hcreate⟩ hcreated

/-- **What every run keeps** of the images handed out, the records covered and those pending. -/
theorem inHand_exec (F : FilteredFileReader L) (N : FilterNative L) (calls : List FilterCall) :
    let created := ((new : OssAsyncImageFilter L).createOutputFile F N).2
    HandedOut N created (Machine.exec (call N) created calls)
        (Machine.trace (call N) created calls) ∧
      Covered N (Machine.exec (call N) created calls) (Machine.trace (call N) created calls) ∧
      Buffered N created (Machine.exec (call N) created calls)
        (Machine.trace (call N) created calls) := by
  intro created
  have hstarted : Started created F := started_createOutputFile N F
  exact Machine.exec_trace_of_invariant (m := call N)
    (I := fun filter t => HandedOut N created filter t ∧ Covered N filter t ∧
      Buffered N created filter t)
    (fun filter t c h => ⟨h.1.call h.2.2 c, h.2.1.call h.2.2 hstarted.copiers_ne_none c,
      h.2.2.call c⟩)
    ⟨hstarted.handedOut, hstarted.covered, hstarted.buffered⟩ calls

/-- Where no record has two images, the images of the records read are handed out. -/
theorem HandedOut.imagesOf_of_read (h : HandedOut N filter₀ filter t) (hcovered : Covered N filter t)
    (hbuffered : Buffered N filter₀ filter t) (hread : ∀ i, (N.readRecord i).BlockByBlock)
    (hone : ∀ i < filter.nextRecordIndex, filter₀.Filtered i → (N.readRecord i).finished = true →
      (N.readRecord i).images.length ≤ 1) :
    ∀ i < filter.nextRecordIndex, filter₀.Filtered i → (N.readRecord i).finished = true →
      imagesOf t i = (N.readRecord i).images := by
  intro i hi hfiltered hfinished
  rcases hcovered.covered i hi hfinished with ⟨record, hmem⟩ | hmem
  · exact h.imagesOf_of_copied hbuffered hread hfiltered hfinished (h.copied_aside i record hmem)
  · exact h.imagesOf_of_handedOut hbuffered hmem (hone i hi hfiltered hfinished)

/-- What is copied of a record read first, by a copier that filters, has no image. -/
theorem images_of_mem_preRolled (hpreRoll : ∀ i, (N.readPreRoll i).BlockByBlock)
    {record : OutputRecord L}
    (hmem : .copied none record ∈ ((new : OssAsyncImageFilter L).createOutputFile F N).2.output)
    (hcopier : ((new : OssAsyncImageFilter L).createOutputFile F N).2.copiers record.writer =
      some .asyncRecordFilterCopier) :
    ∃ i ∈ F.preRoll, .copied none record ∈
        ((new : OssAsyncImageFilter L).createOutputFile F N).2.copiedEvents none
          (F.reader.index.get i) (N.readPreRoll i) ∧
      (N.readPreRoll i).images = [] := by
  obtain ⟨i, hi, hevent⟩ := mem_preRoll_of_copied F hmem
  refine ⟨i, hi, hevent, ?_⟩
  obtain ⟨content, hcontent, heq⟩ := List.mem_map.1 hevent
  cases heq
  rw [Option.mem_toList] at hcontent
  exact images_eq_nil_of_copiedContent hcopier (hpreRoll i) (hcontent ▸ Option.some_ne_none content)

/-- **When every image is offered**: exactly when no record of a filtered stream that was read to
the end has two images, and none of those read to the end when the file was created has one. -/
theorem offered_iff (F : FilteredFileReader L) (N : FilterNative L)
    (hread : ∀ i, (N.readRecord i).BlockByBlock) (hpreRoll : ∀ i, (N.readPreRoll i).BlockByBlock)
    (calls : List FilterCall) :
    let created := ((new : OssAsyncImageFilter L).createOutputFile F N).2
    Offered F N calls ↔
      (∀ i < (Machine.exec (call N) created calls).nextRecordIndex, created.Filtered i →
        (N.readRecord i).finished = true → (N.readRecord i).images.length ≤ 1) ∧
      (N.openFile = 0 → N.createFileAsync = 0 → ∀ i ∈ F.preRoll,
        created.copiers (F.reader.index.get i).streamId = some .asyncRecordFilterCopier →
          (N.readPreRoll i).finished = true → (N.readPreRoll i).images = []) := by
  intro created
  rw [← preRollImages_eq_nil_iff]
  obtain ⟨hhanded, hcovered, hbuffered⟩ := inHand_exec F N calls
  constructor
  · intro hoffered
    refine ⟨fun i hi hfiltered hfinished => ?_, ?_⟩
    · rw [← hoffered.read i hi hfiltered hfinished]
      exact hhanded.length_imagesOf_le i
    · -- what was returned is already made up of the images of `records_`
      have hread := (hhanded.returned_perm hbuffered hoffered.read).length_eq
      have hboth := hoffered.returned.length_eq
      rw [List.length_append] at hboth
      exact List.eq_nil_of_length_eq_zero (right_eq_add.1 (hread.symm.trans hboth))
  · rintro ⟨hone, hnone⟩
    have hall := hhanded.imagesOf_of_read hcovered hbuffered hread hone
    refine ⟨hall, ?_, ?_, ?_⟩
    · rintro created earlier c later rfl i hfiltered hbefore ⟨record, hmem⟩
      obtain ⟨hhanded', -, hbuffered'⟩ := inHand_exec F N earlier
      obtain ⟨hhandedc, hcoveredc, hbufferedc⟩ := inHand_exec F N (earlier ++ [c])
      rcases hmem with hmem | hmem
      · exact hhanded'.imagesOf_of_copied hbuffered' hread hfiltered
          (hcoveredc.finished i record hmem) (hhandedc.copied_aside i record hmem)
      · rw [Machine.exec_append] at hmem
        rw [Machine.exec_append, Machine.trace_append] at hbufferedc
        have hi := handedOut_of_created hbufferedc hbefore hmem
        have hlast : i ∈ FilterHistory.handedOut
            (Machine.trace (call N) created (earlier ++ c :: later)) := by
          rw [Machine.trace_append, handedOut_append]
          exact List.mem_append_left _ hi
        exact hhanded'.imagesOf_of_handedOut hbuffered' hi (hone i (hbuffered.handedOut_lt i hlast)
          hfiltered (hbuffered.finished_of_mem hlast))
    · intro created
      rw [hnone, List.nil_append]
      exact hhanded.returned_perm hbuffered hall
    · intro created record hmem hcopier
      exact images_of_mem_preRolled F hpreRoll (hhanded.copied_none record hmem) hcopier

/-- A file with two data records, selected after their configuration. -/
def configuredImages : FilteredFileReader .bare where
  reader := .ofIndex .bare
    [⟨.ofRat 0, ⟨214, 1⟩, .configuration⟩, ⟨.ofRat 1, ⟨214, 1⟩, .data⟩,
      ⟨.ofRat 2, ⟨214, 1⟩, .data⟩] (by decide)
  streams := [⟨214, 1⟩]
  mightContainImages _ := true
  preRoll := [⟨0, by decide⟩]
  selected := [⟨1, by decide⟩, ⟨2, by decide⟩]
  mem_streams := by decide

theorem offered_iff_of_configuredImages :
    let created :=
      ((new : OssAsyncImageFilter .bare).createOutputFile configuredImages twoImagesNative).2
    let calls := [.getNextImage, .getNextImage, .discardRecord 1, .writeProcessedImage 0 [9]]
    Offered configuredImages twoImagesNative calls ↔
      (∀ i < (Machine.exec (call twoImagesNative) created calls).nextRecordIndex,
        created.Filtered i → (twoImagesNative.readRecord i).finished = true →
          (twoImagesNative.readRecord i).images.length ≤ 1) ∧
      (twoImagesNative.openFile = 0 → twoImagesNative.createFileAsync = 0 →
        ∀ i ∈ configuredImages.preRoll,
          created.copiers (configuredImages.reader.index.get i).streamId =
              some .asyncRecordFilterCopier →
            (twoImagesNative.readPreRoll i).finished = true →
              (twoImagesNative.readPreRoll i).images = []) :=
  offered_iff configuredImages twoImagesNative (fun _ => nofun) (fun _ => nofun)
    [.getNextImage, .getNextImage, .discardRecord 1, .writeProcessedImage 0 [9]]

/-- The records of `twoImages`, each of them with two images of a byte. -/
def stereoNative : FilterNative .bare where
  openFile := 0
  createFileAsync := 0
  closeFile := 0
  readPreRoll _ := ⟨1, false, [], [], true, 0⟩
  readRecord _ := ⟨1, false, [], [.image 0 (.ofImage .bare ⟨.raw, .grey8, 1, 1⟩ (some 1)) [7],
    .image 1 (.ofImage .bare ⟨.raw, .grey8, 1, 1⟩ (some 1)) [8]], true, 0⟩

/-- The first image of the record is created as it is, once the second one was written. -/
theorem not_offered :
    ¬∀ (L : VrsLib) (F : FilteredFileReader L) (N : FilterNative L) (calls : List FilterCall),
      (∀ i, (N.readRecord i).BlockByBlock) → (∀ i, (N.readPreRoll i).BlockByBlock) →
        Offered F N calls := by
  intro h
  have hoffered := h .bare twoImages stereoNative [.getNextImage, .writeProcessedImage 0 [9]]
    (fun _ => nofun) (fun _ => nofun)
  have himages := hoffered.before [.getNextImage] (.writeProcessedImage 0 [9]) [] rfl 0
    (by unfold Filtered; decide)
    (by rintro ⟨record, hmem | hmem⟩ <;> cases hmem) ⟨_, .inr (List.Mem.head _)⟩
  exact absurd himages (by decide)

end OssAsyncImageFilter

end Pyvrs
