import Pyvrs.Filter.InOrder
import Pyvrs.Utils.PyBuffer

/-!
# The image filter of the bindings

`OssPyAsyncImageFilter` is the filter that Python sees: the asynchronous image filter, which also
keeps the metadata of the records it reads, in `metadata_`, if it is asked to. Its runs are runs of
the filter that it extends (`Buffered.call_py`).
-/

namespace Pyvrs

open Foundations FilterHistory

/-- `ImageBuffer()`. -/
def ImageBuffer.new : ImageBuffer := ⟨⟨.undefined, .undefined, 0, 0⟩, [], -1⟩

/-- `static_cast<size_t>(recordIndex)`, none for a negative index: its cast is past any record. -/
def ImageBuffer.position? (imageBuffer : ImageBuffer) : Option ℕ := imageBuffer.recordIndex.toNat?

/-- The datalayouts of a record, in the order of its blocks. -/
def CopyDelivery.dataLayouts {L : VrsLib} (delivery : CopyDelivery L) : List L.DataLayout :=
  delivery.blocks.filterMap fun
    | .dataLayout _ dl => some dl
    | _ => none

/-- `PyRecord(const RecordInfo&, int32_t)`, a record without blocks. It leaves the format version
undefined, which is zero here. -/
def PyRecord.ofInfo {L : VrsLib} (info : RecordInfo) (recordIndex : ℕ) : PyRecord L :=
  .ofCache info recordIndex (.empty 0)

/-- The record with more datalayout blocks. -/
def PyRecord.emplaceBack {L : VrsLib} (record : PyRecord L) (blocks : List L.PyDict) :
    PyRecord L :=
  { record with datalayoutBlocks := record.datalayoutBlocks ++ blocks }

/-- `OssPyAsyncImageFilter`. -/
structure OssPyAsyncImageFilter (L : VrsLib) extends OssAsyncImageFilter L where
  initialized : Bool
  collectMetadata : Bool
  metadata : OrderedMap ℤ (PyRecord L)

/-- The calls made between creating and closing the output file. -/
inductive PyFilterCall
  | needRecordMetadata
  | getNextImage
  | getRecordMetadata (recordIndex : ℤ)
  | writeProcessedImage (imageBuffer : ImageBuffer)
  | discardRecord (imageBuffer : ImageBuffer)
  deriving DecidableEq

/-- What they return or raise. -/
inductive PyFilterReply (L : VrsLib)
  | unit
  | image (imageBuffer : ImageBuffer)
  | metadata (record : Option (PyRecord L))
  | accepted (found : Bool)
  | raised (error : PyError)

namespace OssPyAsyncImageFilter

variable {L : VrsLib}

/-- `OssPyAsyncImageFilter(filteredReader)`. -/
def new : OssPyAsyncImageFilter L := ⟨.new, false, false, .empty⟩

variable (F : FilteredFileReader L) (N : FilterNative L) (filter : OssPyAsyncImageFilter L)

/-- `needRecordMetadata`. -/
def needRecordMetadata : OssPyAsyncImageFilter L := { filter with collectMetadata := true }

/-- `doDataLayoutEdits`, for the record at `recordIndex` in the index of the file: that is what
`getRecordIndex` tells of the record being read. -/
def doDataLayoutEdits (recordIndex : Fin F.reader.index.length) (dl : L.DataLayout) :
    OssPyAsyncImageFilter L :=
  if filter.collectMetadata then
    let m := L.dataLayoutToPyDict dl "utf-8-safe"
    let record := (filter.metadata.find? recordIndex).getD
      (.ofInfo (F.reader.index.get recordIndex) recordIndex)
    { filter with metadata := filter.metadata.insert recordIndex (record.emplaceBack [m]) }
  else filter

/-- What reading a record has done to it: the copier of a filtered stream edits the datalayouts of a
record that it does not copy verbatim. -/
def readDataLayouts (recordIndex : Fin F.reader.index.length) (delivery : CopyDelivery L) :
    OssPyAsyncImageFilter L :=
  if filter.copiers (F.reader.index.get recordIndex).streamId = some .asyncRecordFilterCopier ∧
      delivery.copyVerbatim = false then
    delivery.dataLayouts.foldl (fun filter dl => filter.doDataLayoutEdits F recordIndex dl) filter
  else filter

/-- `createOutputFile`: its pre-roll reads records once the file is created. -/
def createOutputFile : ℤ × OssPyAsyncImageFilter L :=
  let (status, created) := filter.toOssAsyncImageFilter.createOutputFile F N
  let filter := { filter with toOssAsyncImageFilter := created, initialized := true }
  if status = 0 then
    (status, F.preRoll.foldl (fun filter i => filter.readDataLayouts F i (N.readPreRoll i)) filter)
  else (status, filter)

/-- The datalayouts of the record of `records_` at a position. -/
def readRecordAt (position : ℕ) : OssPyAsyncImageFilter L :=
  match F.selected[position]? with
  | none => filter
  | some i => filter.readDataLayouts F i (N.readRecord position)

/-- The datalayouts of the records of `records_` from a position on. -/
def readRecords (position count : ℕ) : OssPyAsyncImageFilter L :=
  (List.range' position count).foldl (fun filter position => filter.readRecordAt F N position)
    filter

/-- `getNextImage`. The filter it extends reads the records between its old and new cursors. -/
def getNextImage : PyFilterReply L × OssPyAsyncImageFilter L :=
  if !filter.initialized then
    (.raised (.valueError "You must call createOutputFile before calling getNextImage."), filter)
  else
    let (reply, next) := filter.toOssAsyncImageFilter.getNextImage N
    let count := next.nextRecordIndex - filter.nextRecordIndex
    let filter := filter.readRecords F N filter.nextRecordIndex count
    (.image (match reply with
      | .image recordIndex spec frame => ⟨spec, frame, recordIndex⟩
      | _ => .new), { filter with toOssAsyncImageFilter := next })

/-- `getRecordMetadata`. -/
def getRecordMetadata (recordIndex : ℤ) : PyFilterReply L :=
  if filter.collectMetadata then .metadata (filter.metadata.find? recordIndex)
  else .raised (.runtimeError
    "need_record_metadata() has not been called to collect metadata.")

/-- What `writeProcessedImage` and `discardRecord` do first. -/
def eraseMetadata (recordIndex : ℤ) : OssPyAsyncImageFilter L :=
  if filter.collectMetadata then { filter with metadata := filter.metadata.erase recordIndex }
  else filter

/-- The answer of the filter it extends, to a position of `records_`. -/
def answerWith (answer : ℕ → Bool × OssAsyncImageFilter L) (imageBuffer : ImageBuffer) :
    PyFilterReply L × OssPyAsyncImageFilter L :=
  match imageBuffer.position? with
  | none => (.accepted false, filter)
  | some position =>
    (.accepted (answer position).1, { filter with toOssAsyncImageFilter := (answer position).2 })

/-- `writeProcessedImage`. -/
def writeProcessedImage (imageBuffer : ImageBuffer) :
    PyFilterReply L × OssPyAsyncImageFilter L :=
  (filter.eraseMetadata imageBuffer.recordIndex).answerWith
    (fun position => filter.toOssAsyncImageFilter.writeProcessedImage position imageBuffer.bytes)
    imageBuffer

/-- `discardRecord`. -/
def discardRecord (imageBuffer : ImageBuffer) : PyFilterReply L × OssPyAsyncImageFilter L :=
  (filter.eraseMetadata imageBuffer.recordIndex).answerWith
    (fun position => filter.toOssAsyncImageFilter.discardRecord position) imageBuffer

/-- One call. -/
def call : Machine (OssPyAsyncImageFilter L) PyFilterCall (PyFilterReply L)
  | filter, .needRecordMetadata => (.unit, filter.needRecordMetadata)
  | filter, .getNextImage => filter.getNextImage F N
  | filter, .getRecordMetadata recordIndex => (filter.getRecordMetadata recordIndex, filter)
  | filter, .writeProcessedImage imageBuffer => filter.writeProcessedImage imageBuffer
  | filter, .discardRecord imageBuffer => filter.discardRecord imageBuffer

end OssPyAsyncImageFilter

/-! ## Runs -/

/-- A history of the filter, as one of the filter it extends. -/
def FilterHistory.ofPy {L : VrsLib} (t : List (PyFilterCall × PyFilterReply L)) :
    List (FilterCall × FilterReply) :=
  t.filterMap fun
    | (.getNextImage, .image imageBuffer) => some (.getNextImage,
        match imageBuffer.position? with
        | some i => .image i imageBuffer.spec imageBuffer.bytes
        | none => .noImage)
    | (.writeProcessedImage imageBuffer, .accepted found) => imageBuffer.position?.map fun i =>
        (.writeProcessedImage i imageBuffer.bytes, .accepted found)
    | (.discardRecord imageBuffer, .accepted found) => imageBuffer.position?.map fun i =>
        (.discardRecord i, .accepted found)
    | _ => none

theorem FilterHistory.ofPy_append {L : VrsLib} (t t' : List (PyFilterCall × PyFilterReply L)) :
    ofPy (t ++ t') = ofPy t ++ ofPy t' :=
  List.filterMap_append

namespace OssAsyncImageFilter

/-- The cursor after `getNextImage` is past the record whose image is returned. -/
theorem getNextImage_cursor {L : VrsLib} (N : FilterNative L) (filter : OssAsyncImageFilter L) :
    filter.nextRecordIndex ≤ (filter.getNextImage N).2.nextRecordIndex ∧
      ((∃ i spec frame, (filter.getNextImage N).1 = .image i spec frame ∧
          filter.nextRecordIndex ≤ i ∧ (filter.getNextImage N).2.nextRecordIndex = i + 1) ∨
        (filter.getNextImage N).1 = .noImage) := by
  refine filter.getNextImage_rule N
    (I := fun filter' => filter.nextRecordIndex ≤ filter'.nextRecordIndex)
    (Q := fun reply filter' => filter.nextRecordIndex ≤ filter'.nextRecordIndex ∧
      ((∃ i spec frame, reply = .image i spec frame ∧ filter.nextRecordIndex ≤ i ∧
        filter'.nextRecordIndex = i + 1) ∨ reply = .noImage)) ?_ ?_ ?_ le_rfl
  · exact fun filter' hle _ _ => hle.trans (Nat.le_succ _)
  · exact fun filter' pending hle _ _ =>
      ⟨hle.trans (Nat.le_succ _), .inl ⟨_, _, _, rfl, hle, rfl⟩⟩
  · exact fun filter' hle => ⟨hle, .inr rfl⟩

end OssAsyncImageFilter

namespace OssPyAsyncImageFilter

open OssAsyncImageFilter (Buffered)

variable {L : VrsLib} {F : FilteredFileReader L} {N : FilterNative L}
  (filter : OssPyAsyncImageFilter L)

/-- What `readDataLayouts` leaves alone. -/
structure SameButMetadata (filter filter' : OssPyAsyncImageFilter L) : Prop where
  filter_eq : filter'.toOssAsyncImageFilter = filter.toOssAsyncImageFilter
  initialized_eq : filter'.initialized = filter.initialized
  collectMetadata_eq : filter'.collectMetadata = filter.collectMetadata

theorem SameButMetadata.foldl {α : Type*}
    {read : OssPyAsyncImageFilter L → α → OssPyAsyncImageFilter L}
    (hread : ∀ filter a, SameButMetadata filter (read filter a)) (as : List α) :
    SameButMetadata filter (as.foldl read filter) := by
  induction as generalizing filter with
  | nil => exact ⟨rfl, rfl, rfl⟩
  | cons a as ih =>
    have hfirst := hread filter a
    have hrest := ih (read filter a)
    exact ⟨hrest.filter_eq.trans hfirst.filter_eq,
      hrest.initialized_eq.trans hfirst.initialized_eq,
      hrest.collectMetadata_eq.trans hfirst.collectMetadata_eq⟩

theorem sameButMetadata_readDataLayouts (i : Fin F.reader.index.length)
    (delivery : CopyDelivery L) :
    SameButMetadata filter (filter.readDataLayouts F i delivery) := by
  unfold readDataLayouts
  split
  · refine SameButMetadata.foldl filter (fun filter dl => ?_) _
    unfold doDataLayoutEdits
    split
    · exact ⟨rfl, rfl, rfl⟩
    · exact ⟨rfl, rfl, rfl⟩
  · exact ⟨rfl, rfl, rfl⟩

theorem sameButMetadata_readRecords (position count : ℕ) :
    SameButMetadata filter (filter.readRecords F N position count) := by
  refine SameButMetadata.foldl filter (fun filter position => ?_) _
  unfold readRecordAt
  split
  · exact ⟨rfl, rfl, rfl⟩
  · exact filter.sameButMetadata_readDataLayouts _ _

theorem toOssAsyncImageFilter_createOutputFile :
    (filter.createOutputFile F N).2.toOssAsyncImageFilter =
      (filter.toOssAsyncImageFilter.createOutputFile F N).2 := by
  unfold createOutputFile
  simp only
  split
  · exact (SameButMetadata.foldl _ (fun filter i => filter.sameButMetadata_readDataLayouts i _)
      _).filter_eq
  · rfl

@[simp] theorem toOssAsyncImageFilter_eraseMetadata (recordIndex : ℤ) :
    (filter.eraseMetadata recordIndex).toOssAsyncImageFilter = filter.toOssAsyncImageFilter := by
  unfold eraseMetadata
  split
  · rfl
  · rfl

/-- `getNextImage` keeps the metadata of the records it reads, up to that of the image it
returns. -/
theorem getNextImage_eq (hinitialized : filter.initialized = true) :
    let next := filter.toOssAsyncImageFilter.getNextImage N
    let count := next.2.nextRecordIndex - filter.nextRecordIndex
    filter.getNextImage F N =
      (.image (match next.1 with
        | .image recordIndex spec frame => ⟨spec, frame, recordIndex⟩
        | _ => .new), { filter.readRecords F N filter.nextRecordIndex count with
          toOssAsyncImageFilter := next.2 }) := by
  unfold OssPyAsyncImageFilter.getNextImage
  rw [hinitialized]
  rfl

theorem ofPy_getNextImage (hinitialized : filter.initialized = true) :
    ofPy [(.getNextImage, (filter.getNextImage F N).1)] =
      [(.getNextImage, (filter.toOssAsyncImageFilter.getNextImage N).1)] := by
  rw [filter.getNextImage_eq hinitialized]
  rcases (filter.toOssAsyncImageFilter.getNextImage_cursor N).2 with
    ⟨i, spec, frame, hreply, -, -⟩ | hreply
  · simp only [hreply]
    rfl
  · simp only [hreply]
    rfl

end OssPyAsyncImageFilter

namespace OssAsyncImageFilter

variable {L : VrsLib} {F : FilteredFileReader L} {N : FilterNative L}
  {filter₀ : OssAsyncImageFilter L} {filter : OssPyAsyncImageFilter L}
  {t : List (FilterCall × FilterReply)}

/-- **Every call is a call of the filter it extends, or none.** -/
theorem Buffered.call_py (h : Buffered N filter₀ filter.toOssAsyncImageFilter t)
    (c : PyFilterCall) :
    Buffered N filter₀ (OssPyAsyncImageFilter.call F N filter c).2.toOssAsyncImageFilter
      (t ++ ofPy [(c, (OssPyAsyncImageFilter.call F N filter c).1)]) := by
  cases c with
  | needRecordMetadata =>
    show Buffered N filter₀ filter.toOssAsyncImageFilter (t ++ [])
    rwa [List.append_nil]
  | getRecordMetadata recordIndex =>
    show Buffered N filter₀ filter.toOssAsyncImageFilter (t ++ [])
    rwa [List.append_nil]
  | getNextImage =>
    show Buffered N filter₀ (filter.getNextImage F N).2.toOssAsyncImageFilter
      (t ++ ofPy [(.getNextImage, (filter.getNextImage F N).1)])
    cases hinitialized : filter.initialized with
    | false =>
      have heq : filter.getNextImage F N = (.raised (.valueError
          "You must call createOutputFile before calling getNextImage."), filter) := by
        simp [OssPyAsyncImageFilter.getNextImage, hinitialized]
      rw [heq]
      rwa [show ofPy [_] = [] from rfl, List.append_nil]
    | true =>
      rw [filter.ofPy_getNextImage hinitialized, filter.getNextImage_eq hinitialized]
      exact h.call .getNextImage
  | writeProcessedImage imageBuffer =>
    show Buffered N filter₀ (filter.writeProcessedImage imageBuffer).2.toOssAsyncImageFilter
      (t ++ ofPy [(.writeProcessedImage imageBuffer, (filter.writeProcessedImage imageBuffer).1)])
    unfold OssPyAsyncImageFilter.writeProcessedImage OssPyAsyncImageFilter.answerWith
    cases hposition : imageBuffer.position? with
    | none => simpa [ofPy, hposition] using h
    | some i =>
      have hcall := h.call (.writeProcessedImage i imageBuffer.bytes)
      simpa [ofPy, hposition, OssAsyncImageFilter.call] using hcall
  | discardRecord imageBuffer =>
    show Buffered N filter₀ (filter.discardRecord imageBuffer).2.toOssAsyncImageFilter
      (t ++ ofPy [(.discardRecord imageBuffer, (filter.discardRecord imageBuffer).1)])
    unfold OssPyAsyncImageFilter.discardRecord OssPyAsyncImageFilter.answerWith
    cases hposition : imageBuffer.position? with
    | none => simpa [ofPy, hposition] using h
    | some i =>
      have hcall := h.call (.discardRecord i)
      simpa [ofPy, hposition, OssAsyncImageFilter.call] using hcall

end OssAsyncImageFilter

end Pyvrs
