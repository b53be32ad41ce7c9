import Pyvrs.Python.RecordLoops
import Pyvrs.Reader.WrittenBlocks
import Pyvrs.Writer.Staging
import Pyvrs.Writer.StreamOrder

/-!
# What is written is read

A program stages metadata and creates records, flushing whenever it likes, and closes its file; a
reader opens the file, does whatever it does, filters it and goes through the records. It gets the
records that the fields of the filter select, in time order, those of each stream in the order of a
stable sort of the records created on it, and each with the metadata that was staged when it was
created and the bytes that it was created of (`written_then_read`). What is asked of vrs in between
is that the file opened has the records written, those of a stream in the order written, and
delivers their chunks.
-/

namespace Pyvrs

open Foundations Machine

variable {L : VrsLib}

/-! ## All records of a sequence -/

namespace OpenReader

/-- `[self[i] for i in range(k, k + n)]`, over the indices of a reader or a slice. -/
def listFrom (vrsIndices : VrsIndices) :
    ℕ → ℕ → OpenReader L → Except PyError (List (PyRecord L)) × OpenReader L
  | _, 0, self => (.ok [], self)
  | k, n + 1, self =>
    match self.getItem vrsIndices k with
    | (.error e, self) => (.error e, self)
    | (.ok record, self) =>
      match listFrom vrsIndices (k + 1) n self with
      | (.error e, self) => (.error e, self)
      | (.ok records, self) => (.ok (record :: records), self)

/-- `list(reader)`, by `__iter__`. -/
def list (self : OpenReader L) (vrsIndices : VrsIndices) :
    Except PyError (List (PyRecord L)) × OpenReader L :=
  self.listFrom vrsIndices 0 vrsIndices.length

variable {self : OpenReader L} {vrsIndices : VrsIndices} {positions : List ℕ}
  {I : OpenReader L → Prop} {P : ℕ → PyRecord L → Prop}

/-- Where reading a record succeeds and keeps an invariant, all records are listed. -/
theorem exists_listFrom (hpositions : vrsIndices.HoldPositions positions)
    (hread : ∀ self : OpenReader L, I self → ∀ i ∈ positions, i < 2 ^ 31 ∧
      ∃ r self', self.readRecord (.ofNat i) = (.ok r, self') ∧ P i r ∧ I self')
    (h : I self) (k n : ℕ) (hn : k + n = positions.length) :
    ∃ rs self', self.listFrom vrsIndices k n = (.ok rs, self') ∧
      List.Forall₂ P (positions.drop k) rs := by
  induction n generalizing self k with
  | zero =>
    refine ⟨[], self, rfl, ?_⟩
    rw [List.drop_of_length_le (by omega)]
    exact .nil
  | succ n ih =>
    have hlt : k < positions.length := by omega
    have hi : positions[k]? = some positions[k] := List.getElem?_eq_getElem hlt
    obtain ⟨hsmall, r, self₁, hr, hP, hI⟩ := hread self h positions[k] (List.getElem_mem hlt)
    obtain ⟨rs, self₂, hrs, hrest⟩ := ih hI (k + 1) (by omega)
    have hitem : self.getItem vrsIndices k = (.ok r, self₁) :=
      (self.getItem_natCast hpositions hi hsmall).trans hr
    refine ⟨r :: rs, self₂, ?_, ?_⟩
    · rw [listFrom, hitem]
      simp only [hrs]
    · rw [List.drop_eq_getElem_cons hlt]
      exact .cons hP hrest

theorem exists_list (hpositions : vrsIndices.HoldPositions positions)
    (hread : ∀ self : OpenReader L, I self → ∀ i ∈ positions, i < 2 ^ 31 ∧
      ∃ r self', self.readRecord (.ofNat i) = (.ok r, self') ∧ P i r ∧ I self') (h : I self) :
    ∃ rs self', self.list vrsIndices = (.ok rs, self') ∧ List.Forall₂ P positions rs := by
  unfold list
  rw [hpositions.length_eq]
  exact exists_listFrom hpositions hread h 0 _ (Nat.zero_add _)

end OpenReader

/-! ## The file, opened -/

/-- The index entry of a record, its stream being known by an id. -/
def Record.info (idOf : ℕ → StreamId) (record : Record L) : RecordInfo :=
  ⟨record.timestamp, idOf record.stream, record.recordType⟩

/-- vrs has opened a file: the index lists the records written, those of each stream in the order
written, and every read succeeds and delivers the chunks of the record. -/
structure Opens (F : RecordFileReader L) (D : Native L) (file records : List (Record L))
    (idOf : ℕ → StreamId) (kinds : Record L → List BlockKind) : Prop where
  index_eq : F.index = records.map (Record.info idOf)
  stream_eq : ∀ k, records.filter (fun record => record.stream = k) =
    file.filter fun record => record.stream = k
  succeeds : ∀ reads i, (D reads i).status = 0
  delivered : ∀ (reads : List NativeRead) (i : ℕ) (record : Record L), records[i]? = some record →
    record.Delivered (kinds record) (D reads i)

section Selects

variable (fnmatch : String → String → Bool)

instance (condFunc : String → String → Bool) (name : String) :
    DecidablePred (Texts.Admits condFunc name)
  | .none => .isTrue trivial
  | .str text => inferInstanceAs (Decidable (condFunc name text = true))
  | .iterable texts => inferInstanceAs (Decidable (∃ text ∈ texts, condFunc name text = true))

instance (fields : FilterFields) (id : StreamId) (record : RecordInfo) :
    Decidable (fields.Selects L fnmatch id record) :=
  decidable_of_iff
    (fields.streamIds.Admits fnmatch (L.getNumericName id) ∧
      fields.recordTypes.Admits (fun a b => a = b) (lowercaseTypeName L record.recordType) ∧
      (∀ t ∈ fields.minTimestamp, t ≤ record.timestamp) ∧
      ∀ t ∈ fields.maxTimestamp, t.IsNum → record.timestamp ≤ t)
    ⟨fun ⟨hstream, htype, hmin, hmax⟩ => ⟨hstream, htype, hmin, hmax⟩,
      fun ⟨hstream, htype, hmin, hmax⟩ => ⟨hstream, htype, hmin, hmax⟩⟩

/-- The fields select a record that was written. -/
def FilterFields.selects (fields : FilterFields) (idOf : ℕ → StreamId) (record : Record L) :
    Bool :=
  decide (fields.Selects L fnmatch (idOf record.stream) (record.info idOf))

end Selects

section Opened

variable {F : RecordFileReader L} {D : Native L} {file records : List (Record L)}
  {idOf : ℕ → StreamId} {kinds : Record L → List BlockKind} {fnmatch : String → String → Bool}
  {fields : FilterFields} {positions : List ℕ} {filtered : FilteredVRSReader L}

theorem Opens.record_eq (h : Opens F D file records idOf kinds) (i : ℕ) :
    (NativeReader.reader F).record i =
      records[i]?.map fun record => (idOf record.stream, record.info idOf) := by
  show F.index[i]?.map _ = _
  rw [h.index_eq, List.getElem?_map, Option.map_map]
  rfl

/-- The records that the filtered reader holds are those of the file that the fields select. -/
theorem Opens.filterMap_positions (h : Opens F D file records idOf kinds)
    (hholds : filtered.Holds (.reader F) fnmatch fields positions) :
    positions.filterMap (records[·]?) = records.filter (fields.selects fnmatch idOf) := by
  refine filterMap_getElem?_of_mem_iff hholds.increasing fun i => ?_
  rw [hholds.mem_iff]
  constructor
  · rintro ⟨id, info, hrecord, hselects⟩
    rw [h.record_eq, Option.map_eq_some_iff] at hrecord
    obtain ⟨record, hi, heq⟩ := hrecord
    cases heq
    exact ⟨record, hi, decide_eq_true hselects⟩
  · rintro ⟨record, hi, hselects⟩
    exact ⟨idOf record.stream, record.info idOf, by rw [h.record_eq, hi]; rfl,
      of_decide_eq_true hselects⟩

/-- In a sorted file, what is selected is in time order. -/
theorem Opens.pairwise_timestamp (h : Opens F D file records idOf kinds)
    (hsorted : (NativeReader.reader F).SortedByTimestamp) :
    records.Pairwise fun a b => a.timestamp ≤ b.timestamp := by
  rw [List.pairwise_iff_getElem]
  intro i j hi hj hij
  refine hsorted i j (idOf records[i].stream) (records[i].info idOf) (idOf records[j].stream)
    (records[j].info idOf) hij.le ?_ ?_
  · rw [h.record_eq, List.getElem?_eq_getElem hi]
    rfl
  · rw [h.record_eq, List.getElem?_eq_getElem hj]
    rfl

/-- **The records selected are listed**, each with what it was written with. -/
theorem Opens.exists_list (h : Opens F D file records idOf kinds)
    (hkeeps : ∀ record ∈ records, ¬BeginsAlike (record.handed (kinds record)))
    (hfile : (NativeReader.reader F).Filterable fnmatch)
    (hholds : filtered.Holds (.reader F) fnmatch fields positions) {reader : OssVRSReader L}
    (hwhole : reader.ReadsWhole F) (hempty : reader.lastRecord.NoBlocks) :
    ∃ rs self', (OpenReader.reader F D reader).list filtered.vrsIndices = (.ok rs, self') ∧
      List.Forall₂ (fun record r => record.ShownBy (kinds record) (idOf record.stream)
        reader.encoding r) (records.filter (fields.selects fnmatch idOf)) rs := by
  let I : OpenReader L → Prop := fun self => ∃ reader' : OssVRSReader L,
    self = .reader F D reader' ∧ OssVRSReader.SameSettings reader' reader ∧
      reader'.lastRecord.NoBlocks
  let P : ℕ → PyRecord L → Prop := fun i r => ∃ record, records[i]? = some record ∧
    record.ShownBy (kinds record) (idOf record.stream) reader.encoding r
  have hread : ∀ self : OpenReader L, I self → ∀ i ∈ positions, i < 2 ^ 31 ∧
      ∃ r self', self.readRecord (.ofNat i) = (.ok r, self') ∧ P i r ∧ I self' := by
    rintro _ ⟨reader', rfl, hsettings, hblocks⟩ i hi
    obtain ⟨id, info, hrecord, -⟩ := (hholds.mem_iff i).1 hi
    rw [h.record_eq, Option.map_eq_some_iff] at hrecord
    obtain ⟨record, hi', heq⟩ := hrecord
    cases heq
    have hinfo : F.index[i]? = some (record.info idOf) := by
      rw [h.index_eq, List.getElem?_map, hi']
      rfl
    obtain ⟨r, reader'', hr, hshown, hsettings', hblocks'⟩ :=
      OssVRSReader.readRecord_of_delivered h.succeeds hblocks (hwhole.congr hsettings) hinfo
        rfl rfl (fun reads => h.delivered reads i record hi')
        (hkeeps record (List.mem_of_getElem? hi'))
    have hencoding : reader'.encoding = reader.encoding :=
      congrArg PlayerSettings.encoding (congrFun hsettings.playerSettings_eq (record.info idOf))
    rw [hencoding] at hshown
    refine ⟨hholds.lt hfile hi, r, .reader F D reader'', ?_, ⟨record, hi', hshown⟩, reader'', rfl,
      hsettings'.trans hsettings, hblocks'⟩
    simp only [OpenReader.readRecord, hr]
  obtain ⟨rs, self', hrs, hall⟩ := OpenReader.exists_list (I := I) (hholds.holdPositions hfile)
    hread ⟨reader, rfl, ⟨rfl, rfl⟩, hempty⟩
  refine ⟨rs, self', hrs, ?_⟩
  rw [← h.filterMap_positions hholds]
  exact forall₂_filterMap_getElem? hall

end Opened

/-- What a program has written is listed, once vrs opens the file. -/
theorem VRSWriter.exists_listed {N : WriterLib L} (P : PieceLib L) (filepath : String)
    (uses : List (WriterUse N P)) (huses : ∀ c, .call c ∈ uses → c.Numeric)
    {F : RecordFileReader L} {D : Native L} {records : List (Record L)} {idOf : ℕ → StreamId}
    {kinds : Record L → List BlockKind}
    (hopens : Opens F D (exec use (new N filepath) uses).file records idOf kinds)
    (hkeeps : ∀ record ∈ records, ¬BeginsAlike (record.handed (kinds record)))
    {fnmatch : String → String → Bool} (hfile : (NativeReader.reader F).Filterable fnmatch)
    (autoReadConfigurationRecord : Bool) (cs : List Call) (fields : FilterFields) :
    let reader := exec (OssVRSReader.call F D)
      ((OssVRSReader.new autoReadConfigurationRecord).open F) cs
    reader.ReadsWhole F → ∃ created filtered rs self',
      Recorded (exec use (new N filepath) uses) (trace use (new N filepath) uses) created ∧
      (VRSReader.init (.reader F)).filteredByFields fnmatch fields = .ok filtered ∧
      (OpenReader.reader F D reader).list filtered.vrsIndices = (.ok rs, self') ∧
      List.Forall₂ (fun record r => record.ShownBy (kinds record) (idOf record.stream)
        reader.encoding r) (records.filter (fields.selects fnmatch idOf)) rs := by
  intro reader hwhole
  obtain ⟨created, hrecorded⟩ := exists_recorded P filepath uses huses
  obtain ⟨filtered, positions, hfiltered, hholds⟩ := hfile.exists_holds fields
  have hstart : ((OssVRSReader.new autoReadConfigurationRecord).open F).lastRecord.NoBlocks := rfl
  have hempty : reader.lastRecord.NoBlocks :=
    exec_of_invariant (I := fun reader : OssVRSReader L => reader.lastRecord.NoBlocks)
      (fun reader c h => reader.noBlocks_call F hopens.succeeds h c) hstart cs
  obtain ⟨rs, self', hrs, hshown⟩ := hopens.exists_list hkeeps hfile hholds hwhole hempty
  exact ⟨created, filtered, rs, self', hrecorded, hfiltered, hrs, hshown⟩

/-- **What is written is read.** Whatever the calls to the writer and the assignments to metadata,
if vrs opens the file that is left, and whatever is done with the reader first, as long as it reads
records whole, a filtered reader lists the records created that its fields select, in time order,
and those of each stream in the order of a stable sort: the records that the calls made of their
sources and of the metadata staged before, each shown with its header, its datalayouts and the bytes
of its arrays. -/
theorem VRSWriter.written_then_read {N : WriterLib L} (P : PieceLib L) (filepath : String)
    (uses : List (WriterUse N P)) (huses : ∀ c, .call c ∈ uses → c.Numeric)
    {F : RecordFileReader L} {D : Native L} {records : List (Record L)} {idOf : ℕ → StreamId}
    {kinds : Record L → List BlockKind}
    (hopens : Opens F D (exec use (new N filepath) uses).file records idOf kinds)
    (hkeeps : ∀ record ∈ records, ¬BeginsAlike (record.handed (kinds record)))
    {fnmatch : String → String → Bool} (hfile : (NativeReader.reader F).Filterable fnmatch)
    (autoReadConfigurationRecord : Bool) (cs : List Call) (fields : FilterFields) :
    let reader := exec (OssVRSReader.call F D)
      ((OssVRSReader.new autoReadConfigurationRecord).open F) cs
    reader.ReadsWhole F → ∃ created filtered written rs self',
      List.Forall₂ MadeFrom (creations (trace use (new N filepath) uses)) created ∧
      (VRSReader.init (.reader F)).filteredByFields fnmatch fields = .ok filtered ∧
      (OpenReader.reader F D reader).list filtered.vrsIndices = (.ok rs, self') ∧
      List.Forall₂ (fun record r => record.ShownBy (kinds record) (idOf record.stream)
        reader.encoding r) written rs ∧
      written.Pairwise (fun a b => a.timestamp ≤ b.timestamp) ∧
      ∀ k, written.filter (fun record => record.stream = k) =
        ((created.filter fun record => record.stream = k).mergeSort Record.notAfter).filter
          (fields.selects fnmatch idOf) := by
  intro reader hwhole
  obtain ⟨created, filtered, rs, self', hrecorded, hfiltered, hrs, hshown⟩ := exists_listed P
    filepath uses huses hopens hkeeps hfile autoReadConfigurationRecord cs fields hwhole
  refine ⟨created, filtered, _, rs, self', hrecorded.made, hfiltered, hrs, hshown,
    (hopens.pairwise_timestamp hfile.sorted).filter _, fun k => ?_⟩
  rw [List.filter_comm, hopens.stream_eq, hrecorded.filed.filter_file]

/-! ## A file that holds its records -/

/-- The callback that hands over an item of a record, as the block at a position. -/
def Callback.handing (i : ℕ) : L.DataLayout ⊕ BlockKind × List UInt8 → Callback L
  | .inl dl => .dataLayout i dl
  | .inr (.image, chunk) => .image i (block .image chunk) (reader chunk)
  | .inr (.audio, chunk) => .audio i (block .audio chunk) (reader chunk)
  | .inr (.custom, chunk) => .custom i (block .custom chunk) (reader chunk)
  | .inr (.unsupported, chunk) => .unsupported i (block .empty chunk) (reader chunk)
where
  block (type : ContentType) (chunk : List UInt8) : ContentBlock L :=
    ⟨type, some chunk.length, ⟨.raw, .undefined, 0, 0⟩, L.defaultAudioSpec⟩
  reader (chunk : List UInt8) : BlockReader := ⟨chunk.length, chunk.take, none⟩

theorem hands_handing (i : ℕ) (item : L.DataLayout ⊕ BlockKind × List UInt8) :
    Hands item (Callback.handing i item) := by
  match item with
  | .inl dl => exact .dataLayout i dl
  | .inr (.image, chunk) | .inr (.audio, chunk) | .inr (.custom, chunk)
  | .inr (.unsupported, chunk) => exact .chunk rfl rfl List.take_length

theorem blockIndex_handing (i : ℕ) (item : L.DataLayout ⊕ BlockKind × List UInt8) :
    (Callback.handing i item).blockIndex = i := by
  match item with
  | .inl _ | .inr (.image, _) | .inr (.audio, _) | .inr (.custom, _) | .inr (.unsupported, _) => rfl

/-- Native reads that deliver the records as they are. -/
def Native.ofRecords (records : List (Record L)) (kinds : Record L → List BlockKind) : Native L :=
  fun _ i => match records[i]? with
    | none => ⟨0, [], 0⟩
    | some record =>
      ⟨record.formatVersion, (record.handed (kinds record)).mapIdx Callback.handing, 0⟩

theorem Record.delivered_ofRecords {records : List (Record L)} {kinds : Record L → List BlockKind}
    {i : ℕ} {record : Record L} (h : records[i]? = some record)
    (hlength : (kinds record).length = record.dataSource.chunks.length) (reads : List NativeRead) :
    record.Delivered (kinds record) (Native.ofRecords records kinds reads i) := by
  unfold Native.ofRecords
  rw [h]
  refine ⟨rfl, rfl, ?_, hlength, ?_⟩
  · refine List.ext_getElem (by simp) fun k _ _ => ?_
    simp [blockIndex_handing]
  · rw [List.forall₂_iff_get]
    exact ⟨by simp, fun k _ _ => by simpa using hands_handing k _⟩

/-- A file opened as it was written, with its records in the order of the index. -/
theorem Opens.of_file {file : List (Record L)} {F : RecordFileReader L} {idOf : ℕ → StreamId}
    {kinds : Record L → List BlockKind} (hindex : F.index = file.map (Record.info idOf))
    (hlength : ∀ record ∈ file, (kinds record).length = record.dataSource.chunks.length) :
    Opens F (Native.ofRecords file kinds) file file idOf kinds where
  index_eq := hindex
  stream_eq _ := rfl
  succeeds reads i := by
    unfold Native.ofRecords
    split <;> rfl
  delivered reads _ record h :=
    Record.delivered_ofRecords h (hlength record (List.mem_of_getElem? h)) reads

/-- The file of `twoCameras`. -/
def twoCamerasFile : List (Record VrsLib.ofPieces) :=
  (exec VRSWriter.use (.new WriterLib.ofPieces "two.vrs") twoCameras).file

/-- The file of `twoCameras`, opened. -/
def twoCamerasReader : RecordFileReader VrsLib.ofPieces :=
  .ofIndex .ofPieces (twoCamerasFile.map (Record.info fun k => ⟨1201, k + 1⟩)) (by decide +kernel)

/-- Data records have an image. -/
def imageOfData (record : Record VrsLib.ofPieces) : List BlockKind :=
  if record.recordType = .data then [.image] else []

theorem opens_twoCamerasReader :
    Opens twoCamerasReader (.ofRecords twoCamerasFile imageOfData) twoCamerasFile twoCamerasFile
      (fun k => ⟨1201, k + 1⟩) imageOfData :=
  .of_file rfl (by decide +kernel)

theorem filterable_twoCamerasReader :
    (NativeReader.reader twoCamerasReader).Filterable fun name pattern => name = pattern where
  matches_self _ _ := decide_eq_true rfl
  getStreamForName_eq := by decide +kernel
  toRecordType_eq type := by cases type <;> decide +kernel
  sorted := NativeReader.sortedByTimestamp_reader (by decide +kernel) (by decide +kernel)
  size_lt := by decide +kernel

/-- The images of `twoCameras` after the first second, one of which was read before. -/
theorem VRSWriter.written_then_read_twoCameras :
    let reader := exec (OssVRSReader.call twoCamerasReader
        (.ofRecords twoCamerasFile imageOfData))
      ((OssVRSReader.new true).open twoCamerasReader) [.enableAllStreams, .readRecord 2]
    ∃ created filtered written rs self',
      List.Forall₂ MadeFrom
        (creations (trace use (new WriterLib.ofPieces "two.vrs") twoCameras)) created ∧
      (VRSReader.init (.reader twoCamerasReader)).filteredByFields
        (fun name pattern => name = pattern) ⟨.none, .str "data", some (.ofRat 2), none⟩ =
          .ok filtered ∧
      (OpenReader.reader twoCamerasReader (.ofRecords twoCamerasFile imageOfData) reader).list
        filtered.vrsIndices = (.ok rs, self') ∧
      List.Forall₂ (fun record r => record.ShownBy (imageOfData record) ⟨1201, record.stream + 1⟩
        reader.encoding r) written rs ∧
      written.Pairwise (fun a b => a.timestamp ≤ b.timestamp) ∧
      ∀ k, written.filter (fun record => record.stream = k) =
        ((created.filter fun record => record.stream = k).mergeSort Record.notAfter).filter
          (FilterFields.selects (fun name pattern => name = pattern)
            ⟨.none, .str "data", some (.ofRat 2), none⟩ fun k => ⟨1201, k + 1⟩) := by
  refine written_then_read PieceLib.ofPieces "two.vrs" twoCameras
    (fun c hc => (finite_twoCameras c hc).numeric) opens_twoCamerasReader ?_
    filterable_twoCamerasReader true [.enableAllStreams, .readRecord 2] _
    ⟨?_, fun _ => rfl, fun _ => rfl⟩
  · have hlayouts : ∀ record ∈ twoCamerasFile, record.dataSource.dataLayouts.length = 1 := by
      decide +kernel
    exact fun record hrecord =>
      record.not_beginsAlike (List.ne_nil_of_length_eq_add_one (hlayouts record hrecord)) _
  · decide +kernel

end Pyvrs
