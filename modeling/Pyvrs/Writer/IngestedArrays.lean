import Pyvrs.Foundations.Strided
import Pyvrs.Utils.PyBuffer
import Pyvrs.Writer.VRSWriter

/-!
# Ingested arrays

The arrays that Python hands to the bindings may have any layout, and `request` does not ask for a
contiguous one. `ImageBuffer` and `PyStream::createRecord` compute the size of an array from its
shape and then read so many bytes from its address on, whatever its strides (`reads_request`). So
they take the elements of an array in row-major order if and only if it is C-contiguous
(`takenAs_iff`); only an `ImageBuffer` rejects some of the others, for their size or its format
(`ingests_iff`).
-/

namespace Pyvrs

open Foundations

/-! ## Python buffers -/

/-- `py::buffer`: an array and what is in memory, at the addresses relative to its own. -/
structure PyBuffer where
  layout : Layout
  memory : ℤ → UInt8

namespace PyBuffer

variable (buffer : PyBuffer)

/-- `py::buffer::request`. -/
def request : BufferInfo where
  ptr i := buffer.memory i
  itemsize := buffer.layout.itemsize
  shape := buffer.layout.dims.map Prod.fst

/-- The elements of the array in row-major order. -/
def content : List UInt8 := buffer.layout.content buffer.memory

end PyBuffer

/-- The addresses of the bytes that are read from `ptr` on. -/
def BufferInfo.reads (info : BufferInfo) : List ℤ := (List.range info.size).map Nat.cast

/-- Bytes taken from an array: its elements in row-major order, of which nothing else is read. -/
structure PyBuffer.TakenAs (buffer : PyBuffer) (bytes : List UInt8) : Prop where
  bytes_eq : bytes = buffer.content
  reads_subset : buffer.request.reads ⊆ buffer.layout.offsets

section Taken

variable {layout : Layout}

theorem foldl_shape (itemsize : ℕ) (dims : List (ℕ × ℤ)) :
    (dims.map Prod.fst).foldl (· * ·) itemsize = Layout.sizeOf itemsize dims := by
  induction dims generalizing itemsize with
  | nil => rfl
  | cons dim dims ih =>
    show (dims.map Prod.fst).foldl (· * ·) (itemsize * dim.1) = dim.1 * Layout.sizeOf itemsize dims
    rw [ih, Nat.mul_comm, Layout.sizeOf_mul]

@[simp] theorem PyBuffer.size_request (buffer : PyBuffer) :
    buffer.request.size = buffer.layout.size :=
  foldl_shape buffer.layout.itemsize buffer.layout.dims

/-- The strides of an array make no difference to what is read. -/
theorem reads_request (buffer : PyBuffer) :
    buffer.request.reads = (List.range buffer.layout.size).map Nat.cast := by
  rw [BufferInfo.reads, PyBuffer.size_request]

theorem chunk_request (buffer : PyBuffer) :
    buffer.request.chunk = buffer.request.reads.map buffer.memory := by
  rw [BufferInfo.chunk, BufferInfo.reads, List.map_map]
  rfl

/-- **The bytes from the address of an array on** are its elements, whatever these are, if and only
if the array is C-contiguous. -/
theorem takenAs_iff :
    (∀ memory, (⟨layout, memory⟩ : PyBuffer).TakenAs (PyBuffer.mk layout memory).request.chunk) ↔
      layout.IsCContiguous := by
  rw [← layout.offsets_eq_range_iff]
  have : Nontrivial UInt8 := ⟨0, 1, by decide⟩
  constructor
  · intro h
    have hall : ∀ memory : ℤ → UInt8,
        layout.offsets.map memory = ((List.range layout.size).map Nat.cast).map memory := by
      intro memory
      have hbytes := (h memory).bytes_eq
      rw [chunk_request, reads_request] at hbytes
      exact hbytes.symm
    exact forall_map_eq_iff.1 hall
  · intro h memory
    have hreads := reads_request ⟨layout, memory⟩
    rw [← h] at hreads
    exact ⟨by rw [chunk_request, hreads]; rfl, by rw [hreads]; exact List.Subset.refl _⟩

end Taken

/-! ## Image buffers -/

section Image

variable {L : VrsLib} (G : SpecGetters L) (formatName : ImageFormat → String)
  (spec : ImageContentBlockSpec)

/-- `ImageBuffer::initBytesFromPyBuffer`, with `formatName` as `toString`. -/
def initBytesFromPyBuffer (info : BufferInfo) : Except PyError (List UInt8) :=
  let imageFormat := spec.imageFormat
  let size := info.size
  if imageFormat = .raw ∧ size ≠ G.getRawImageSize spec then
    .error (.valueError ("Buffer size " ++ toString size ++
      " doesn't match the expected image size " ++ toString (G.getRawImageSize spec)))
  else if imageFormat = .undefined then
    .error (.valueError ("Invalid image format: " ++ formatName imageFormat))
  else .ok info.chunk

/-- `ImageBuffer(imageSpec, recordIndex, b)`. -/
def ImageBuffer.ofPyBuffer (recordIndex : ℤ) (b : PyBuffer) : Except PyError ImageBuffer :=
  (initBytesFromPyBuffer G formatName spec b.request).map fun bytes => ⟨spec, bytes, recordIndex⟩

/-- The checks fail: the format is no format, or raw images have another size. -/
def ImageContentBlockSpec.Rejects (size : ℕ) : Prop :=
  spec.imageFormat = .undefined ∨ spec.imageFormat = .raw ∧ size ≠ G.getRawImageSize spec

variable {G formatName spec} {info : BufferInfo}

theorem initBytesFromPyBuffer_of_rejects (h : spec.Rejects G info.size) :
    ∃ e, initBytesFromPyBuffer G formatName spec info = .error e := by
  unfold initBytesFromPyBuffer
  by_cases hsize : spec.imageFormat = .raw ∧ info.size ≠ G.getRawImageSize spec
  · exact ⟨_, if_pos hsize⟩
  · exact ⟨_, (if_neg hsize).trans (if_pos (h.resolve_right hsize))⟩

theorem initBytesFromPyBuffer_of_not_rejects (h : ¬spec.Rejects G info.size) :
    initBytesFromPyBuffer G formatName spec info = .ok info.chunk := by
  obtain ⟨hformat, hsize⟩ := not_or.1 h
  unfold initBytesFromPyBuffer
  exact (if_neg hsize).trans (if_neg hformat)

/-- **An image buffer takes the elements of every array that it does not reject** if and only if
it rejects the layout or the layout is C-contiguous. -/
theorem ofPyBuffer_takenAs_iff {layout : Layout} {recordIndex : ℤ} :
    (∀ memory image, ImageBuffer.ofPyBuffer G formatName spec recordIndex ⟨layout, memory⟩ =
      .ok image → (⟨layout, memory⟩ : PyBuffer).TakenAs image.bytes) ↔
      spec.Rejects G layout.size ∨ layout.IsCContiguous := by
  have hsize : ∀ memory, (⟨layout, memory⟩ : PyBuffer).request.size = layout.size :=
    fun memory => PyBuffer.size_request ⟨layout, memory⟩
  by_cases hrejects : spec.Rejects G layout.size
  · refine iff_of_true (fun memory image himage => ?_) (.inl hrejects)
    obtain ⟨e, he⟩ : ∃ e, initBytesFromPyBuffer G formatName spec
        (PyBuffer.mk layout memory).request = .error e :=
      initBytesFromPyBuffer_of_rejects ((hsize memory).symm ▸ hrejects)
    rw [ImageBuffer.ofPyBuffer, he] at himage
    cases himage
  · rw [or_iff_right hrejects, ← takenAs_iff]
    have hok : ∀ memory, ImageBuffer.ofPyBuffer G formatName spec recordIndex ⟨layout, memory⟩ =
        .ok ⟨spec, (PyBuffer.mk layout memory).request.chunk, recordIndex⟩ := by
      intro memory
      rw [ImageBuffer.ofPyBuffer,
        initBytesFromPyBuffer_of_not_rejects ((hsize memory).symm ▸ hrejects)]
      rfl
    constructor
    · intro h memory
      exact h memory _ (hok memory)
    · intro h memory image himage
      rw [hok] at himage
      cases himage
      exact h memory

end Image

/-! ## Records -/

section Records

variable {L : VrsLib} {N : WriterLib L} (w : VRSWriter N) (stream : ℕ) (timestamp : Timestamp)
  (recordFormat : PyRecordFormat L)

/-- The chunks of the record that `createNativeRecord` queues are the elements of its buffers. -/
def RecordTakes (buffers : List PyBuffer) : Prop :=
  ∃ record, (w.createNativeRecord stream timestamp recordFormat
      (buffers.map PyBuffer.request)).writer.records.queue = w.writer.records.queue ++ [record] ∧
    List.Forall₂ PyBuffer.TakenAs buffers record.dataSource.chunks

variable {w stream timestamp recordFormat}

@[simp] theorem chunks_getDataSource (chunks : List (List UInt8)) :
    (recordFormat.getDataSource chunks).chunks = chunks := by
  unfold PyRecordFormat.getDataSource
  split <;> rfl

theorem recordTakes_iff_forall {buffers : List PyBuffer} :
    RecordTakes w stream timestamp recordFormat buffers ↔
      ∀ buffer ∈ buffers, buffer.TakenAs buffer.request.chunk := by
  have hchunks : ∀ record, (w.createNativeRecord stream timestamp recordFormat
      (buffers.map PyBuffer.request)).writer.records.queue = w.writer.records.queue ++ [record] →
      record.dataSource.chunks = buffers.map fun buffer => buffer.request.chunk := by
    intro record h
    obtain ⟨-, hrecord⟩ := List.append_inj' h rfl
    cases hrecord
    rw [chunks_getDataSource, List.map_map]
    rfl
  have hforall : List.Forall₂ PyBuffer.TakenAs buffers
      (buffers.map fun buffer => buffer.request.chunk) ↔
        ∀ buffer ∈ buffers, buffer.TakenAs buffer.request.chunk := by
    rw [List.forall₂_map_right_iff, List.forall₂_same]
  constructor
  · rintro ⟨record, hqueue, htaken⟩
    rw [hchunks record hqueue] at htaken
    exact hforall.1 htaken
  · intro h
    refine ⟨_, rfl, ?_⟩
    rw [hchunks _ rfl]
    exact hforall.2 h

/-- **A record takes the elements of its arrays**, whatever these are, if and only if each of the
arrays is C-contiguous. -/
theorem recordTakes_iff {layouts : List Layout} :
    (∀ buffers : List PyBuffer, buffers.map PyBuffer.layout = layouts →
      RecordTakes w stream timestamp recordFormat buffers) ↔
      ∀ layout ∈ layouts, layout.IsCContiguous := by
  simp only [recordTakes_iff_forall]
  constructor
  · intro h layout hlayout
    refine takenAs_iff.1 fun memory => ?_
    exact h (layouts.map fun layout => ⟨layout, memory⟩) (by simp [Function.comp_def]) _
      (List.mem_map_of_mem hlayout)
  · rintro h buffers rfl buffer hbuffer
    exact takenAs_iff.2 (h _ (List.mem_map_of_mem hbuffer)) buffer.memory

/-- **Ingested arrays keep their content**, whatever it is, if and only if they are C-contiguous or
rejected: an `ImageBuffer` rejects them for its format, or for their size if it is raw, and
`PyStream::createRecord` rejects none. -/
theorem ingests_iff {G : SpecGetters L} {formatName : ImageFormat → String} :
    (∀ spec recordIndex layout,
      (∀ memory image, ImageBuffer.ofPyBuffer G formatName spec recordIndex ⟨layout, memory⟩ =
        .ok image → (⟨layout, memory⟩ : PyBuffer).TakenAs image.bytes) ↔
        spec.Rejects G layout.size ∨ layout.IsCContiguous) ∧
    ∀ (w : VRSWriter N) stream timestamp recordFormat layouts,
      (∀ buffers : List PyBuffer, buffers.map PyBuffer.layout = layouts →
        RecordTakes w stream timestamp recordFormat buffers) ↔
        ∀ layout ∈ layouts, layout.IsCContiguous :=
  ⟨fun _ _ _ => ofPyBuffer_takenAs_iff, fun _ _ _ _ _ => recordTakes_iff⟩

end Records

/-- A square of four bytes, transposed. -/
def transposedSquare : PyBuffer := ⟨⟨1, [(2, 1), (2, 2)]⟩, fun a => .ofNat a.toNat⟩

/-- **A transposed image** is taken as it is in memory. -/
theorem not_takenAs_transposedSquare : ∃ image,
    ImageBuffer.ofPyBuffer (.ofAudio ⟨.undefined, 0, 0, 0, 0, true⟩) (fun _ => "raw")
      ⟨.raw, .grey8, 2, 2⟩ (-1) transposedSquare = .ok image ∧
    image.bytes = [0, 1, 2, 3] ∧ transposedSquare.content = [0, 2, 1, 3] ∧
    ¬transposedSquare.TakenAs image.bytes := by
  refine ⟨_, rfl, rfl, rfl, fun h => ?_⟩
  have hcontent : ([0, 1, 2, 3] : List UInt8) = [0, 2, 1, 3] := h.bytes_eq
  exact absurd hcontent (by decide)

end Pyvrs
