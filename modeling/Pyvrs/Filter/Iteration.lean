import Pyvrs.Filter.Metadata

/-!
# Iterating over the images of a filter

`for image in image_filter` asks an iterator for one image after the other, and any number of
iterators, on any number of threads, may ask for them next to direct calls of the filter. An
iterator has no position of its own: what a request gets depends only on how many were made before,
by whomever (`images_in_turn`).
-/

namespace Pyvrs

open Foundations FilterHistory

/-- `ImageRecordInfo`. -/
structure ImageRecordInfo where
  timestamp : Timestamp
  streamId : StreamId
  deriving DecidableEq

/-- `ImageRecordInfo()`, of an undefined stream. -/
def ImageRecordInfo.new : ImageRecordInfo := ⟨.num 0, ⟨65535, 0⟩⟩

/-- What is called: `__next__` of one of the iterators, or the filter. -/
inductive FilterUse
  | next (iterator : ℕ)
  | call (c : PyFilterCall)
  deriving DecidableEq

/-- What it returns or raises. -/
inductive FilterUseReply (L : VrsLib)
  | image (imageBuffer : ImageBuffer)
  | stopIteration
  | reply (reply : PyFilterReply L)

namespace OssPyAsyncImageFilter

variable {L : VrsLib} (F : FilteredFileReader L) (N : FilterNative L)
  (filter : OssPyAsyncImageFilter L)

/-- `OssPyAsyncImageFilterIterator::next`: all that an iterator has is a reference to the filter. -/
def next : FilterUseReply L × OssPyAsyncImageFilter L :=
  match filter.getNextImage F N with
  | (.image imageBuffer, filter) =>
    if imageBuffer.recordIndex = -1 then (.stopIteration, filter) else (.image imageBuffer, filter)
  | (reply, filter) => (.reply reply, filter)

/-- `getImageRecordInfo`. -/
def getImageRecordInfo (recordIndex : ℤ) : ImageRecordInfo :=
  match recordIndex.toNat?.bind fun i => filter.records[i]? with
  | some record => ⟨record.timestamp, record.streamId⟩
  | none => .new

/-- One call, of an iterator or of the filter. -/
def use : Machine (OssPyAsyncImageFilter L) FilterUse (FilterUseReply L)
  | filter, .next _ => filter.next F N
  | filter, .call c =>
    let (reply, filter) := call F N filter c
    (.reply reply, filter)

/-- The filter once its output file was created, whether metadata was asked for before or not. -/
def opened (early : Bool) : OssPyAsyncImageFilter L :=
  ((if early then new.needRecordMetadata else new : OssPyAsyncImageFilter L).createOutputFile
    F N).2

end OssPyAsyncImageFilter

/-! ## Histories -/

namespace FilterHistory

variable {L : VrsLib}

/-- The image that a call asked for and got, none if there was no more. -/
def request? : FilterUse × FilterUseReply L → Option (Option ImageBuffer)
  | (.next _, .image imageBuffer) => some (some imageBuffer)
  | (.next _, .stopIteration) => some none
  | (.call .getNextImage, .reply (.image imageBuffer)) =>
    some (if imageBuffer.recordIndex = -1 then none else some imageBuffer)
  | _ => none

/-- What the requests got, in the order they were made. -/
def requests (t : List (FilterUse × FilterUseReply L)) : List (Option ImageBuffer) :=
  t.filterMap request?

/-- The history of the filter alone. -/
def ofUse (t : List (FilterUse × FilterUseReply L)) : List (PyFilterCall × PyFilterReply L) :=
  t.filterMap fun
    | (.next _, .image imageBuffer) => some (.getNextImage, .image imageBuffer)
    | (.next _, .stopIteration) => some (.getNextImage, .image .new)
    | (.next _, .reply reply) => some (.getNextImage, reply)
    | (.call c, .reply reply) => some (c, reply)
    | (.call _, _) => none

/-- The history of the filter that it extends. -/
def history (t : List (FilterUse × FilterUseReply L)) : List (FilterCall × FilterReply) :=
  ofPy (ofUse t)

theorem history_append (t t' : List (FilterUse × FilterUseReply L)) :
    history (t ++ t') = history t ++ history t' := by
  rw [history, ofUse, List.filterMap_append, ofPy_append]
  rfl

end FilterHistory

/-! ## The images left -/

/-- The image of a reply. -/
def FilterReply.image? : FilterReply → Option ImageBuffer
  | .image recordIndex spec frame => some ⟨spec, frame, recordIndex⟩
  | _ => none

namespace OssAsyncImageFilter

variable {L : VrsLib} (N : FilterNative L) (filter : OssAsyncImageFilter L)

/-- The image of the record at a position of `records_`, if its copier sets the record aside. -/
def imageAt (i : ℕ) : Option ImageBuffer :=
  (filter.asideAt N i).map fun pending => ⟨pending.image.1, pending.image.2, i⟩

/-- The images from a position of `records_` on. -/
def imagesFrom (position : ℕ) : List ImageBuffer :=
  (List.range' position (filter.records.length - position)).filterMap (filter.imageAt N)

/-- The images of the records that are not read yet. -/
def imagesLeft : List ImageBuffer := filter.imagesFrom N filter.nextRecordIndex

/-- The cursor once the next image is handed out. -/
def cursorAfter (position : ℕ) : ℕ :=
  match (filter.imagesFrom N position).head? with
  | some imageBuffer => imageBuffer.recordIndex.toNat + 1
  | none => max position filter.records.length

variable {N} {filter}

theorem recordIndex_of_imageAt {i : ℕ} {imageBuffer : ImageBuffer}
    (h : filter.imageAt N i = some imageBuffer) : imageBuffer.recordIndex = i := by
  obtain ⟨pending, -, rfl⟩ := Option.map_eq_some_iff.1 h
  rfl

theorem exists_of_mem_imagesFrom {position : ℕ} {imageBuffer : ImageBuffer}
    (h : imageBuffer ∈ filter.imagesFrom N position) :
    ∃ i < filter.records.length, imageBuffer.recordIndex = i := by
  obtain ⟨i, hi, himage⟩ := List.mem_filterMap.1 h
  refine ⟨i, ?_, recordIndex_of_imageAt himage⟩
  obtain ⟨hle, hlt⟩ := List.mem_range'_1.1 hi
  omega

theorem imagesFrom_of_le {position : ℕ} (h : filter.records.length ≤ position) :
    filter.imagesFrom N position = [] := by
  rw [imagesFrom, Nat.sub_eq_zero_of_le h]
  rfl

theorem imagesFrom_of_lt {position : ℕ} (h : position < filter.records.length) :
    filter.imagesFrom N position =
      (filter.imageAt N position).toList ++ filter.imagesFrom N (position + 1) := by
  obtain ⟨count, hcount⟩ : ∃ count, filter.records.length - position = count + 1 :=
    ⟨filter.records.length - position - 1, by omega⟩
  have hrest : filter.records.length - (position + 1) = count := by omega
  rw [imagesFrom, imagesFrom, hcount, hrest, List.range'_succ, List.filterMap_cons]
  cases filter.imageAt N position with
  | none => rfl
  | some imageBuffer => rfl

variable (N)

/-- What a request for an image gets, does to the images left, and does to the cursor. -/
structure ServesNext (filter : OssAsyncImageFilter L)
    (served : FilterReply × OssAsyncImageFilter L) : Prop extends SameSource served.2 filter where
  image?_eq : served.1.image? = (filter.imagesLeft N).head?
  imagesLeft_eq : served.2.imagesLeft N = (filter.imagesLeft N).tail
  nextRecordIndex_eq : served.2.nextRecordIndex = filter.cursorAfter N filter.nextRecordIndex

theorem servesNext_getNextImageLoop (left : ℕ) (filter : OssAsyncImageFilter L)
    (hleft : left = filter.records.length - filter.nextRecordIndex) :
    ServesNext N filter (getNextImageLoop N left filter) := by
  induction left generalizing filter with
  | zero =>
    have hle : filter.records.length ≤ filter.nextRecordIndex := by omega
    have hnone : filter.imagesFrom N filter.nextRecordIndex = [] := imagesFrom_of_le hle
    refine ⟨⟨rfl, rfl⟩, ?_, ?_, ?_⟩
    · rw [imagesLeft, hnone]
      rfl
    · show filter.imagesLeft N = _
      rw [imagesLeft, hnone]
      rfl
    · rw [cursorAfter, hnone]
      exact (max_eq_left hle).symm
  | succ left ih =>
    have hlt : filter.nextRecordIndex < filter.records.length := by omega
    have hfrom := imagesFrom_of_lt (N := N) hlt
    unfold getNextImageLoop
    simp only [needsImageProcessing_readNextRecord]
    cases haside : filter.asideAt N filter.nextRecordIndex with
    | none =>
      have hcopy : filter.readNextRecord N = filter.copyNext N := by
        rw [readNextRecord_eq, haside]
        rfl
      have himage : filter.imageAt N filter.nextRecordIndex = none := by
        rw [imageAt, haside]
        rfl
      rw [himage] at hfrom
      have hcursor : filter.cursorAfter N (filter.nextRecordIndex + 1) =
          filter.cursorAfter N filter.nextRecordIndex := by
        rw [cursorAfter, cursorAfter, hfrom, Option.toList_none, List.nil_append]
        cases (filter.imagesFrom N (filter.nextRecordIndex + 1)).head? with
        | none => exact (max_eq_right hlt).trans (max_eq_right hlt.le).symm
        | some imageBuffer => rfl
      rw [if_neg (by simp), hcopy]
      obtain ⟨hsource, hreply, himages, hnext⟩ := ih (filter.copyNext N) (by
        show left = filter.records.length - (filter.nextRecordIndex + 1)
        omega)
      have hleft : (filter.copyNext N).imagesLeft N = filter.imagesLeft N := hfrom.symm
      exact ⟨⟨hsource.records_eq, hsource.copiers_eq⟩, hreply.trans (congrArg _ hleft),
        himages.trans (congrArg _ hleft), hnext.trans hcursor⟩
    | some pending =>
      have hpark : filter.readNextRecord N = { filter with
          pendingRecord := pending
          output := filter.output ++ filter.copiedAt N filter.nextRecordIndex
          nextRecordIndex := filter.nextRecordIndex + 1 } := by
        rw [readNextRecord_eq, haside]
        rfl
      have himage : filter.imageAt N filter.nextRecordIndex =
          some ⟨pending.image.1, pending.image.2, filter.nextRecordIndex⟩ := by
        rw [imageAt, haside]
        rfl
      rw [himage, Option.toList_some, List.singleton_append] at hfrom
      have hleft : filter.imagesLeft N = ⟨pending.image.1, pending.image.2,
          filter.nextRecordIndex⟩ :: filter.imagesFrom N (filter.nextRecordIndex + 1) := hfrom
      rw [if_pos (by simp), hpark]
      refine ⟨⟨rfl, rfl⟩, ?_, ?_, ?_⟩
      · rw [hleft]
        rfl
      · rw [hleft]
        rfl
      · rw [cursorAfter, hfrom]
        rfl

/-- **A request gets the first image left.** -/
theorem servesNext_getNextImage (filter : OssAsyncImageFilter L) :
    ServesNext N filter (filter.getNextImage N) :=
  servesNext_getNextImageLoop N _ filter rfl

theorem SameSource.imagesFrom_eq {filter filter₀ : OssAsyncImageFilter L}
    (h : SameSource filter filter₀) (position : ℕ) :
    filter.imagesFrom N position = filter₀.imagesFrom N position := by
  have himage : filter.imageAt N = filter₀.imageAt N := by
    funext i
    rw [imageAt, imageAt, h.asideAt_eq]
  rw [imagesFrom, imagesFrom, h.records_eq, himage]

theorem SameSource.cursorAfter_eq {filter filter₀ : OssAsyncImageFilter L}
    (h : SameSource filter filter₀) (position : ℕ) :
    filter.cursorAfter N position = filter₀.cursorAfter N position := by
  rw [cursorAfter, cursorAfter, h.imagesFrom_eq, h.records_eq]

end OssAsyncImageFilter

/-! ## Runs -/

namespace OssPyAsyncImageFilter

variable {L : VrsLib} {F : FilteredFileReader L} {N : FilterNative L}
  {filter₀ : OssAsyncImageFilter L} {filter : OssPyAsyncImageFilter L}
  {t : List (FilterCall × FilterReply)}

/-- `getNextImage` shows the first image left, or no image. -/
theorem getNextImage_reply (filter : OssPyAsyncImageFilter L)
    (hinitialized : filter.initialized = true) :
    (filter.getNextImage F N).1 =
      .image ((filter.toOssAsyncImageFilter.imagesLeft N).head?.getD .new) := by
  have hserves := OssAsyncImageFilter.servesNext_getNextImage N filter.toOssAsyncImageFilter
  rw [filter.getNextImage_eq hinitialized, ← hserves.image?_eq]
  cases (filter.toOssAsyncImageFilter.getNextImage N).1 with
  | image i spec frame => rfl
  | noImage => rfl
  | accepted found => rfl

/-- An image is told from none by its index. -/
theorem recordIndex_head_imagesLeft (filter : OssAsyncImageFilter L) :
    (if ((filter.imagesLeft N).head?.getD .new).recordIndex = -1 then none
      else some ((filter.imagesLeft N).head?.getD .new)) = (filter.imagesLeft N).head? := by
  cases hhead : (filter.imagesLeft N).head? with
  | none => rfl
  | some imageBuffer =>
    obtain ⟨i, -, hindex⟩ :=
      OssAsyncImageFilter.exists_of_mem_imagesFrom (List.mem_of_mem_head? hhead)
    rw [Option.getD_some, hindex, if_neg (by omega)]

/-- A use is a call of the filter. -/
theorem use_eq (hinitialized : filter.initialized = true) (u : FilterUse) :
    ∃ c, (use F N filter u).2 = (call F N filter c).2 ∧
      ofUse [(u, (use F N filter u).1)] = [(c, (call F N filter c).1)] ∧
      request? (u, (use F N filter u).1) =
        if c = .getNextImage then some (filter.toOssAsyncImageFilter.imagesLeft N).head?
        else none := by
  have hreply := getNextImage_reply (F := F) (N := N) filter hinitialized
  have hindex := recordIndex_head_imagesLeft (N := N) filter.toOssAsyncImageFilter
  cases u with
  | next iterator =>
    refine ⟨.getNextImage, ?_⟩
    show (filter.next F N).2 = (filter.getNextImage F N).2 ∧
      ofUse [(.next iterator, (filter.next F N).1)] =
        [(.getNextImage, (filter.getNextImage F N).1)] ∧
      request? (.next iterator, (filter.next F N).1) = some _
    unfold next
    revert hreply
    generalize filter.getNextImage F N = served
    obtain ⟨reply, filter'⟩ := served
    rintro rfl
    simp only
    split
    · rename_i hnone
      rw [if_pos hnone] at hindex
      rw [← hindex]
      exact ⟨rfl, rfl, rfl⟩
    · rename_i hsome
      rw [if_neg hsome] at hindex
      exact ⟨rfl, rfl, congrArg some hindex⟩
  | call c =>
    refine ⟨c, rfl, rfl, ?_⟩
    cases c with
    | getNextImage =>
      show request? (.call .getNextImage, .reply (filter.getNextImage F N).1) = some _
      rw [hreply]
      exact congrArg some hindex
    | needRecordMetadata => rfl
    | getRecordMetadata recordIndex => rfl
    | writeProcessedImage imageBuffer => rfl
    | discardRecord imageBuffer => rfl

/-- Every use keeps what the filter keeps. -/
theorem Kept.use (h : Kept F N filter₀ filter t) (u : FilterUse) :
    Kept F N filter₀ (use F N filter u).2
      (t ++ history [(u, (OssPyAsyncImageFilter.use F N filter u).1)]) := by
  obtain ⟨c, hnext, hhistory, -⟩ := use_eq (F := F) (N := N) h.initialized u
  rw [hnext, history, hhistory]
  exact h.call c

/-- **A request takes the first image left**, and any other call leaves the images as they are. -/
theorem Kept.request (h : Kept F N filter₀ filter t) (u : FilterUse) :
    let left := filter₀.imagesFrom N filter.nextRecordIndex
    let reply := (OssPyAsyncImageFilter.use F N filter u).1
    let next := (OssPyAsyncImageFilter.use F N filter u).2.nextRecordIndex
    request? (u, reply) = none ∧ next = filter.nextRecordIndex ∨
      request? (u, reply) = some left.head? ∧ next = filter₀.cursorAfter N filter.nextRecordIndex ∧
        filter₀.imagesFrom N next = left.tail := by
  obtain ⟨c, hnext, -, hrequest⟩ := use_eq (F := F) (N := N) h.initialized u
  have hsource := h.buffered.toSameSource
  simp only [hnext, hrequest]
  by_cases hc : c = .getNextImage
  · right
    subst hc
    obtain ⟨hserved, -, himages, hcursor⟩ :=
      OssAsyncImageFilter.servesNext_getNextImage N filter.toOssAsyncImageFilter
    have hcall : (OssPyAsyncImageFilter.call F N filter .getNextImage).2.nextRecordIndex =
        (filter.toOssAsyncImageFilter.getNextImage N).2.nextRecordIndex := by
      show (filter.getNextImage F N).2.nextRecordIndex = _
      rw [filter.getNextImage_eq h.initialized]
    rw [if_pos rfl, hcall, ← hsource.imagesFrom_eq, ← hsource.cursorAfter_eq,
      ← hsource.imagesFrom_eq]
    refine ⟨rfl, hcursor, ?_⟩
    rw [← hserved.imagesFrom_eq]
    exact himages
  · left
    refine ⟨if_neg hc, ?_⟩
    rcases (call_cases filter c).resolve_left hc with ⟨imageBuffer, hanswer⟩ | ⟨⟨hfilter, -⟩, -⟩
    · exact (filter.call_answer hanswer).2.2.2
    · rw [hfilter]

/-- A filter that was opened is the filter that it extends, its output file created. -/
theorem toOssAsyncImageFilter_opened (F : FilteredFileReader L) (N : FilterNative L)
    (early : Bool) : (opened F N early).toOssAsyncImageFilter =
      ((OssAsyncImageFilter.new : OssAsyncImageFilter L).createOutputFile F N).2 := by
  unfold opened
  rw [toOssAsyncImageFilter_createOutputFile]
  cases early with
  | true => rfl
  | false => rfl

/-- **Every run keeps what the filter keeps.** -/
theorem kept_exec (F : FilteredFileReader L) (N : FilterNative L) (early : Bool)
    (uses : List FilterUse) :
    Kept F N ((OssAsyncImageFilter.new : OssAsyncImageFilter L).createOutputFile F N).2
      (Machine.exec (use F N) (opened F N early) uses)
      (history (Machine.trace (use F N) (opened F N early) uses)) := by
  refine Machine.exec_trace_of_invariant (m := use F N) (t := [])
    (I := fun filter t => Kept F N _ filter (history t)) (fun filter t u h => ?_) ?_ uses
  · rw [history_append]
    exact h.use u
  · cases early with
    | true => exact kept_createOutputFile rfl rfl
    | false => exact kept_createOutputFile rfl rfl

variable (F) (N)

/-- The images to hand out of the records selected, in their order: the last one of each record that
has any. -/
def images : List ImageBuffer :=
  ((OssAsyncImageFilter.new : OssAsyncImageFilter L).createOutputFile F N).2.imagesFrom N 0

/-- **Images are handed out in turn**: whoever asks, and whatever is done in between, the first
request gets the first image of the file, the second one the second, and so on, and a request gets
none, which stops an iterator, when all have been handed out. An image goes by the index of its
record, whose timestamp and stream `getImageRecordInfo` tells. -/
structure InTurn (filter : OssPyAsyncImageFilter L) (t : List (FilterUse × FilterUseReply L)) :
    Prop where
  request : ∀ (k : ℕ) answer, (requests t)[k]? = some answer → answer = (images F N)[k]?
  info : ∀ imageBuffer, some imageBuffer ∈ requests t → ∃ r i, imageBuffer.recordIndex = (r : ℕ) ∧
    F.selected[r]? = some i ∧ filter.getImageRecordInfo imageBuffer.recordIndex =
      ⟨(F.reader.index.get i).timestamp, (F.reader.index.get i).streamId⟩

variable {F} {N}

/-- What `getImageRecordInfo` tells of a record selected. -/
theorem getImageRecordInfo_of_lt (h : filter.toOssAsyncImageFilter.SameSource filter₀)
    (hstarted : filter₀.Started F) {r : ℕ} (hr : r < filter₀.records.length) :
    ∃ i, F.selected[r]? = some i ∧ filter.getImageRecordInfo r =
      ⟨(F.reader.index.get i).timestamp, (F.reader.index.get i).streamId⟩ := by
  rcases hstarted.records_sublist with hrecords | hrecords
  · have hlt : r < F.selected.length := by
      rw [hrecords, List.length_map] at hr
      exact hr
    refine ⟨F.selected[r], List.getElem?_eq_getElem hlt, ?_⟩
    have hrecord : filter.records[r]? = some (F.reader.index.get F.selected[r]) := by
      rw [h.records_eq, hrecords, List.getElem?_map, List.getElem?_eq_getElem hlt]
      rfl
    show (match filter.records[r]? with
      | some record => _
      | none => _) = _
    rw [hrecord]
  · rw [hrecords] at hr
    exact absurd hr (Nat.not_lt_zero r)

/-- **Images are handed out in turn**, in every run of the filter and its iterators. -/
theorem images_in_turn (F : FilteredFileReader L) (N : FilterNative L) (early : Bool)
    (uses : List FilterUse) :
    InTurn F N (Machine.exec (use F N) (opened F N early) uses)
      (Machine.trace (use F N) (opened F N early) uses) := by
  let filter₀ := ((OssAsyncImageFilter.new : OssAsyncImageFilter L).createOutputFile F N).2
  have hstarted : filter₀.Started F := OssAsyncImageFilter.started_createOutputFile N F
  have hcursor : (opened F N early).nextRecordIndex = 0 := by
    rw [toOssAsyncImageFilter_opened]
    exact hstarted.nextRecordIndex_eq
  obtain ⟨hrequest, -⟩ := Machine.served_of_dispenser (m := use F N)
    (fun filter => filter₀.imagesFrom N filter.nextRecordIndex) request?
    (I := fun filter => ∃ t, Kept F N filter₀ filter t)
    (fun filter u ⟨t, h⟩ => ⟨⟨_, h.use u⟩, by
      rcases h.request u with ⟨hnone, hnext⟩ | ⟨hsome, -, hrest⟩
      · exact .inl ⟨hnone, congrArg _ hnext⟩
      · exact .inr ⟨hsome, hrest⟩⟩) ⟨_, kept_exec F N early []⟩ uses
  rw [Machine.exec_nil, hcursor] at hrequest
  refine ⟨hrequest, fun imageBuffer hmem => ?_⟩
  obtain ⟨k, hk⟩ := List.mem_iff_getElem?.1 hmem
  have himage : imageBuffer ∈ filter₀.imagesFrom N 0 :=
    List.mem_of_getElem? (hrequest k _ hk).symm
  obtain ⟨r, hr, hindex⟩ := OssAsyncImageFilter.exists_of_mem_imagesFrom himage
  obtain ⟨i, hi, hinfo⟩ := getImageRecordInfo_of_lt
    (kept_exec F N early uses).buffered.toSameSource hstarted hr
  exact ⟨r, i, hindex, hi, hindex ▸ hinfo⟩

end OssPyAsyncImageFilter

end Pyvrs
