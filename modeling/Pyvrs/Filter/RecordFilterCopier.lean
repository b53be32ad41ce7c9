import Pyvrs.Vrs.Library

/-!
# Copying a record

While a record is read, the copier of its stream collects its content blocks as chunks, out of which
the record is created in the output file. `OssAsyncRecordFilterCopier` sets a record with an image
aside instead, as an `OssPendingRecord`, until its image has been processed. `RecordFilterCopier` of
vrs, which it extends, starts every record afresh and adds a chunk for each block it is given.
-/

namespace Pyvrs

/-- `ContentChunk`, of a datalayout, and `ContentBlockChunk`. -/
inductive ContentChunk (L : VrsLib)
  | dataLayout (dl : L.DataLayout)
  | contentBlock (cb : ContentBlock L) (buffer : List UInt8)

/-- `getBuffer() = buffer`, of a content block. -/
def ContentChunk.setBuffer {L : VrsLib} (buffer : List UInt8) : ContentChunk L → ContentChunk L
  | .dataLayout dl => .dataLayout dl
  | .contentBlock cb _ => .contentBlock cb buffer

/-- A content block that vrs gives to a copier. Blocks other than datalayouts and images are
`RecordFilterCopier`'s. -/
inductive CopiedBlock (L : VrsLib)
  | dataLayout (blockIndex : ℕ) (dl : L.DataLayout)
  | image (blockIndex : ℕ) (cb : ContentBlock L) (content : List UInt8)
  | other (blockIndex : ℕ) (cb : ContentBlock L) (content : List UInt8)

/-- What reading a record gives to the copier of its stream: the record's bytes if it is copied
verbatim, its blocks otherwise; whether the copier gets to `finishRecordProcessing`; and the status
returned. -/
structure CopyDelivery (L : VrsLib) where
  formatVersion : ℕ
  copyVerbatim : Bool
  verbatimRecordData : List UInt8
  blocks : List (CopiedBlock L)
  finished : Bool
  status : ℤ

/-- What a record is created from. -/
inductive RecordContent (L : VrsLib)
  | verbatim (data : List UInt8)
  | chunks (chunks : List (ContentChunk L))

/-- A record created in the output file, by the writer of a stream. -/
structure OutputRecord (L : VrsLib) where
  writer : StreamId
  timestamp : Timestamp
  recordType : RecordType
  formatVersion : ℕ
  content : RecordContent L

/-- `OssPendingRecord`. The image chunk is a position in the chunks. -/
structure OssPendingRecord (L : VrsLib) where
  recordChunks : List (ContentChunk L)
  imageChunk : Option ℕ
  writer : Option StreamId
  formatVersion : ℕ

namespace OssPendingRecord

variable {L : VrsLib}

/-- `OssPendingRecord()`, which `clear` restores. -/
def new : OssPendingRecord L := ⟨[], none, none, 0⟩

/-- `needsImageProcessing`. -/
def needsImageProcessing (pending : OssPendingRecord L) : Bool := pending.imageChunk.isSome

/-- The record with another buffer for its image chunk. -/
def withBuffer (pending : OssPendingRecord L) (buffer : List UInt8) : OssPendingRecord L :=
  match pending.imageChunk with
  | none => pending
  | some position => { pending with
      recordChunks := pending.recordChunks.modify position (ContentChunk.setBuffer buffer) }

/-- `setBuffer`. -/
def setBuffer (pending : OssPendingRecord L) (processedImage : List UInt8) : OssPendingRecord L :=
  { pending.withBuffer processedImage with imageChunk := none }

/-- The spec and the bytes of the image chunk, those of no image if there is none. -/
def image (pending : OssPendingRecord L) : ImageContentBlockSpec × List UInt8 :=
  match pending.imageChunk.bind fun position => pending.recordChunks[position]? with
  | some (.contentBlock cb buffer) => (cb.image, buffer)
  | _ => (⟨.undefined, .undefined, 0, 0⟩, [])

/-- What is left of a record that was moved: its chunks are gone, the pointers stay. -/
def moved (pending : OssPendingRecord L) : OssPendingRecord L := { pending with recordChunks := [] }

end OssPendingRecord

/-- `OssAsyncRecordFilterCopier`, while it is given a record. `skipRecord_` is never set. -/
structure OssAsyncRecordFilterCopier (L : VrsLib) where
  chunks : List (ContentChunk L)
  imageChunk : Option ℕ

namespace OssAsyncRecordFilterCopier

variable {L : VrsLib} (copier : OssAsyncRecordFilterCopier L)

/-- `shouldCopyVerbatim`, at the start of a record. -/
def start : OssAsyncRecordFilterCopier L := ⟨[], none⟩

/-- `onUnsupportedBlock`, and what `RecordFilterCopier` does with the blocks it handles. -/
def onUnsupportedBlock (cb : ContentBlock L) (content : List UInt8) :
    OssAsyncRecordFilterCopier L :=
  { copier with chunks := copier.chunks ++ [.contentBlock cb content] }

/-- `onImageRead`. -/
def onImageRead (cb : ContentBlock L) (content : List UInt8) : OssAsyncRecordFilterCopier L :=
  match cb.blockSize with
  | none => copier.onUnsupportedBlock cb content
  | some _ =>
    { chunks := copier.chunks ++ [.contentBlock cb content]
      imageChunk := some copier.chunks.length }

/-- One block of the record. `doDataLayoutEdits` leaves datalayouts as they are. -/
def onBlock : CopiedBlock L → OssAsyncRecordFilterCopier L
  | .dataLayout _ dl => { copier with chunks := copier.chunks ++ [.dataLayout dl] }
  | .image _ cb content => copier.onImageRead cb content
  | .other _ cb content => copier.onUnsupportedBlock cb content

/-- The blocks of a record, one after the other. -/
def onBlocks (blocks : List (CopiedBlock L)) : OssAsyncRecordFilterCopier L :=
  blocks.foldl onBlock copier

/-- The image chunk is a content block. -/
def Valid : Prop :=
  ∀ position, copier.imageChunk = some position →
    ∃ cb content, copier.chunks[position]? = some (.contentBlock cb content)

theorem valid_start : (start : OssAsyncRecordFilterCopier L).Valid := nofun

theorem Valid.onBlock {copier : OssAsyncRecordFilterCopier L} (h : copier.Valid)
    (block : CopiedBlock L) : (copier.onBlock block).Valid := by
  have happend : ∀ chunk position, copier.imageChunk = some position →
      ∃ cb content, (copier.chunks ++ [chunk])[position]? = some (.contentBlock cb content) := by
    intro chunk position hposition
    obtain ⟨cb, content, hchunk⟩ := h position hposition
    have hlt := (List.getElem?_eq_some_iff.1 hchunk).1
    exact ⟨cb, content, (List.getElem?_append_left hlt).trans hchunk⟩
  cases block with
  | dataLayout i dl => exact happend _
  | other i cb content => exact happend _
  | image i cb content =>
    show (copier.onImageRead cb content).Valid
    unfold onImageRead
    cases cb.blockSize with
    | none => exact happend _
    | some size =>
      rintro position ⟨⟩
      exact ⟨cb, content, List.getElem?_concat_length⟩

theorem Valid.onBlocks {copier : OssAsyncRecordFilterCopier L} (h : copier.Valid)
    (blocks : List (CopiedBlock L)) : (copier.onBlocks blocks).Valid := by
  induction blocks generalizing copier with
  | nil => exact h
  | cons block blocks ih => exact ih (h.onBlock block)

end OssAsyncRecordFilterCopier

end Pyvrs
