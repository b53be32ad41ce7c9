import Pyvrs.Python.MetadataKeys
import Pyvrs.Python.RoundTrip
import Pyvrs.Reader.MetadataText

/-!
# Metadata that is read back

A member of a datalayout is given a value by its name, and what the record created then has under
this name, once it is written and read, is that value: the dictionary of the datalayout has it under
the label of the piece and its type (`lookup_of_plainLabels`), the keys that are shown are the
labels (`exists_metadata`), and a piece holds what was given last to the member with its label
(`stagedPieces_eq_map_held`). So the records that a filtered reader lists are, each once and in
another order, those of the calls that its fields select, with the metadata staged for them
(`metadata_read_back`).
-/

namespace Pyvrs

open Foundations Machine

/-! ## Labels that are names -/

section Labels

variable {V : Type} {T : TextLib} {dl : List (DataPiece V)} {encoding : String} {dic : PyDict V}

/-- The labels are texts without NUL, and no two pieces share one. -/
structure PlainLabels (dl : List (DataPiece V)) : Prop where
  nodup : (dl.map DataPiece.getLabel).Nodup
  isText : ∀ piece ∈ dl, (decodeUtf8 piece.getLabel).isSome
  zero_notMem : ∀ piece ∈ dl, 0 ∉ piece.getLabel

theorem PlainLabels.congr {dl' : List (DataPiece V)} (h : PlainLabels dl)
    (hlabels : dl'.map DataPiece.getLabel = dl.map DataPiece.getLabel) : PlainLabels dl' where
  nodup := hlabels ▸ h.nodup
  isText := by
    rw [← List.forall_mem_map (f := DataPiece.getLabel)
        (P := fun label => (decodeUtf8 label).isSome),
      hlabels, List.forall_mem_map]
    exact h.isText
  zero_notMem := by
    rw [← List.forall_mem_map (f := DataPiece.getLabel) (P := fun label => 0 ∉ label), hlabels,
      List.forall_mem_map]
    exact h.zero_notMem

theorem PlainLabels.eq_of_getLabel_eq (h : PlainLabels dl) {piece piece' : DataPiece V}
    (hpiece : piece ∈ dl) (hpiece' : piece' ∈ dl) (heq : piece.getLabel = piece'.getLabel) :
    piece = piece' :=
  List.inj_on_of_nodup_map h.nodup hpiece hpiece' heq

theorem PlainLabels.cString_getLabel (h : PlainLabels dl) {piece : DataPiece V}
    (hpiece : piece ∈ dl) : cString piece.getLabel = piece.getLabel :=
  cString_eq_self_iff.2 (h.zero_notMem piece hpiece)

/-- **A piece has its value under its label and its type.** -/
theorem lookup_of_plainLabels (h : PlainLabels dl)
    (hdic : dataLayoutToPyDict T dl encoding = .ok dic) {name type : String} {value : PyValue V} :
    dic.lookup (name, type) = some value ↔ ∃ piece ∈ dl, piece.getLabel = encodeUtf8 name ∧
      piece.content.pyType = type ∧ T.sets piece ∧
        piece.content.pyValue T encoding = .ok value := by
  rw [lookup_dataLayoutToPyDict hdic (decodeUtf8_eq_some_iff.2 rfl)]
  constructor
  · rintro ⟨last, hlast, hvalue⟩
    obtain ⟨hmem, hkey⟩ := mem_of_lastSetting hlast
    obtain ⟨hsets, hlabel, htype⟩ := itemKey_eq_some_iff_sets.1 hkey
    rw [h.cString_getLabel (mem_inOrder.1 hmem)] at hlabel
    exact ⟨last, mem_inOrder.1 hmem, hlabel, htype, hsets, hvalue⟩
  · rintro ⟨piece, hpiece, hlabel, htype, hsets, hvalue⟩
    have hkey : T.itemKey piece = some (encodeUtf8 name, type) :=
      itemKey_eq_some_iff_sets.2 ⟨hsets, (h.cString_getLabel hpiece).trans hlabel, htype⟩
    obtain ⟨last, hlast⟩ := exists_lastSetting (mem_inOrder.2 hpiece) hkey
    obtain ⟨hmem, hkeyLast⟩ := mem_of_lastSetting hlast
    have hlabelLast := (itemKey_eq_some_iff_sets.1 hkeyLast).2.1
    rw [h.cString_getLabel (mem_inOrder.1 hmem)] at hlabelLast
    have heq : last = piece :=
      h.eq_of_getLabel_eq (mem_inOrder.1 hmem) hpiece (hlabelLast.trans hlabel.symm)
    exact ⟨last, hlast, heq ▸ hvalue⟩

/-- No name is overloaded in the dictionary. -/
theorem nodup_names (h : PlainLabels dl) (hdic : dataLayoutToPyDict T dl encoding = .ok dic) :
    (dic.keys.map Prod.fst).Nodup := by
  have hpiece : ∀ key ∈ dic.keys, ∃ piece ∈ dl, piece.getLabel = encodeUtf8 key.1 ∧
      piece.content.pyType = key.2 := by
    intro key hkey
    obtain ⟨value, hvalue⟩ :=
      Option.isSome_iff_exists.1 (AList.lookup_isSome.2 (AList.mem_keys.2 hkey))
    obtain ⟨piece, hmem, hlabel, htype, -⟩ := (lookup_of_plainLabels h hdic).1 hvalue
    exact ⟨piece, hmem, hlabel, htype⟩
  refine List.Nodup.map_on (fun key hkey key' hkey' heq => ?_) dic.nodupKeys
  obtain ⟨piece, hmem, hlabel, htype⟩ := hpiece key hkey
  obtain ⟨piece', hmem', hlabel', htype'⟩ := hpiece key' hkey'
  cases h.eq_of_getLabel_eq hmem hmem' (by rw [hlabel, hlabel', heq])
  exact Prod.ext heq (htype.symm.trans htype')

/-- **The metadata of a datalayout**: each piece that has an item has its value under its label. -/
theorem exists_metadata (h : PlainLabels dl) (hvalues : ∀ piece ∈ dl, T.sets piece →
      ∃ value, piece.content.pyValue T encoding = .ok value) :
    ∃ dic metadata, dataLayoutToPyDict T dl encoding = .ok dic ∧
      stringifyMetadataKeys dic = .ok metadata ∧
      ∀ name value, metadata.lookup name = some value ↔ ∃ piece ∈ dl,
        piece.getLabel = encodeUtf8 name ∧ T.sets piece ∧
          piece.content.pyValue T encoding = .ok value := by
  obtain ⟨dic, hdic⟩ := exists_dataLayoutToPyDict_iff.2 fun piece hpiece hsets =>
    ⟨(h.cString_getLabel hpiece).symm ▸ h.isText piece hpiece, hvalues piece hpiece hsets⟩
  obtain ⟨metadata, hmetadata, hlookup⟩ :=
    exists_stringifyMetadataKeys_of_nodup (nodup_names h hdic)
  refine ⟨dic, metadata, hdic, hmetadata, fun name value => ?_⟩
  simp only [hlookup, lookup_of_plainLabels h hdic]
  constructor
  · rintro ⟨type, piece, hpiece, hlabel, -, hsets, hvalue⟩
    exact ⟨piece, hpiece, hlabel, hsets, hvalue⟩
  · rintro ⟨piece, hpiece, hlabel, hsets, hvalue⟩
    exact ⟨_, piece, hpiece, hlabel, rfl, hsets, hvalue⟩

end Labels

/-! ## What is given to a member -/

section Held

variable {L : VrsLib} {N : WriterLib L} {P : PieceLib L}
  {t : List (WriterUse N P × WriterUseReply)} {id : DataLayoutId} {decls : List PieceDecl}
  {decl : PieceDecl} {i : ℕ}

/-- What a call has given to the member of a datalayout with the label of a piece that is declared
so. -/
def givenTo (id : DataLayoutId) (decl : PieceDecl) :
    WriterUse N P × WriterUseReply → Option (PieceContent P.V)
  | (.setAttr id' name value, .done) =>
    if id' = id ∧ encodeUtf8 name = decl.label ∧ P.HasWrapper decl then
      (P.wrapperSet decl value).toOption
    else none
  | _ => none

/-- What a piece holds after a history: what was given to it last, if anything was. -/
def held (t : List (WriterUse N P × WriterUseReply)) (id : DataLayoutId) (piece : DataPiece P.V) :
    DataPiece P.V :=
  { piece with content := ((t.filterMap (givenTo id piece.decl)).getLast?).getD piece.content }

/-- No two pieces share a label. -/
theorem eq_of_label_eq (hnodup : (decls.map PieceDecl.label).Nodup) (hdecl : decls[i]? = some decl)
    {j : ℕ} {decl' : PieceDecl} (hdecl' : decls[j]? = some decl')
    (hlabel : decl'.label = decl.label) : j = i := by
  have hget : ∀ {k : ℕ} {d : PieceDecl}, decls[k]? = some d →
      (decls.map PieceDecl.label)[k]? = some d.label := fun hd => by
    rw [List.getElem?_map, hd, Option.map_some]
  have hlt := (List.getElem?_eq_some_iff.1 (hget hdecl')).1
  exact (List.getElem?_inj hlt hnodup).1 ((hget hdecl').trans (hlabel ▸ (hget hdecl).symm))

/-- **The member with a label is the piece with it**, if that one has a wrapper. -/
theorem getMembers_eq_some_iff (hnodup : (decls.map PieceDecl.label).Nodup)
    (hdecl : decls[i]? = some decl) {j : ℕ} {decl' : PieceDecl} :
    P.getMembers decls decl.label = some (j, decl') ↔
      P.HasWrapper decl ∧ j = i ∧ decl' = decl := by
  have hmember : ∀ {j decl'}, P.getMembers decls decl.label = some (j, decl') →
      P.HasWrapper decl ∧ j = i ∧ decl' = decl := by
    intro j decl' h
    obtain ⟨hdecl', hlabel, hwrapper⟩ := P.getElem?_of_getMembers h
    obtain rfl := eq_of_label_eq hnodup hdecl hdecl' hlabel
    cases hdecl'.symm.trans hdecl
    exact ⟨hwrapper, rfl, rfl⟩
  refine ⟨hmember, ?_⟩
  rintro ⟨hwrapper, rfl, rfl⟩
  have hkey : P.memberKey (decl', j) = some decl'.label := if_pos hwrapper
  obtain ⟨e, hlast⟩ := exists_lastSetting (List.mem_zipIdx_iff_getElem?.2 hdecl) hkey
  have hsome : P.getMembers decls decl'.label = some (e.2, e.1) := by
    rw [P.getMembers_eq_lastSetting, hlast, Option.map_some]
  obtain ⟨-, hj, hdecl'⟩ := hmember hsome
  rw [hsome, hj, hdecl']

/-- What is staged for a piece is what is given to the member with its label. -/
theorem bind_resolve_eq_ite (hnodup : (decls.map PieceDecl.label).Nodup)
    (hdecl : decls[i]? = some decl) (name : String) (value : P.Value) :
    ((P.resolve decls name value).bind fun (j, content) => if j = i then some content else none) =
      if encodeUtf8 name = decl.label ∧ P.HasWrapper decl then
        (P.wrapperSet decl value).toOption
      else none := by
  unfold PieceLib.resolve
  cases hmember : P.getMembers decls (encodeUtf8 name) with
  | none =>
    refine (if_neg fun ⟨hlabel, hwrapper⟩ => ?_).symm
    rw [hlabel, (getMembers_eq_some_iff hnodup hdecl).2 ⟨hwrapper, rfl, rfl⟩] at hmember
    cases hmember
  | some member =>
    obtain ⟨j, decl'⟩ := member
    obtain ⟨hdecl', hlabel', hwrapper'⟩ := P.getElem?_of_getMembers hmember
    show ((P.wrapperSet decl' value).toOption.map fun content => (j, content)).bind _ = _
    by_cases hlabel : encodeUtf8 name = decl.label
    · obtain rfl := eq_of_label_eq hnodup hdecl hdecl' (hlabel'.trans hlabel)
      cases hdecl'.symm.trans hdecl
      rw [if_pos ⟨hlabel, hwrapper'⟩]
      cases (P.wrapperSet decl value).toOption with
      | none => rfl
      | some content => exact if_pos rfl
    · rw [if_neg fun h => hlabel h.1]
      have hji : j ≠ i := by
        rintro rfl
        cases hdecl'.symm.trans hdecl
        exact hlabel hlabel'.symm
      cases (P.wrapperSet decl' value).toOption with
      | none => rfl
      | some content => exact if_neg hji

theorem stagedBy_eq_givenTo (hnodup : (decls.map PieceDecl.label).Nodup)
    (hdecl : decls[i]? = some decl) (e : WriterUse N P × WriterUseReply) :
    stagedBy id decls i e = givenTo id decl e := by
  obtain ⟨u, reply⟩ := e
  cases u with
  | call c => rfl
  | setAttr id' name value =>
    cases reply with
    | done =>
      show (if id' = id then _ else none) = if id' = id ∧ _ then _ else none
      rw [bind_resolve_eq_ite hnodup hdecl]
      by_cases hid : id' = id
      · simp only [hid, if_true, true_and]
      · rw [if_neg hid, if_neg fun h => hid h.1]
    | reply | attributeError | raised => rfl

/-- **A piece holds what was given last to the member with its label.** -/
theorem stagedPieces_eq_map_held {pieces : List (DataPiece P.V)}
    (hnodup : (pieces.map DataPiece.getLabel).Nodup) :
    stagedPieces t id pieces = pieces.map (held t id) := by
  have hlabels : ((pieces.map DataPiece.decl).map PieceDecl.label).Nodup := by
    rw [List.map_map]
    exact hnodup
  unfold stagedPieces
  refine List.ext_getElem? fun i => ?_
  rw [List.getElem?_mapIdx, List.getElem?_map]
  cases hpiece : pieces[i]? with
  | none => rfl
  | some piece =>
    have hdecl : (pieces.map DataPiece.decl)[i]? = some piece.decl := by
      rw [List.getElem?_map, hpiece, Option.map_some]
    have hgiven : stagedBy (N := N) (P := P) id (pieces.map DataPiece.decl) i =
        givenTo id piece.decl := funext (stagedBy_eq_givenTo hlabels hdecl)
    simp only [Option.map_some, lastStaged, hgiven, held]

/-- What is given to a piece leaves its label. -/
theorem PlainLabels.map_held {pieces : List (DataPiece P.V)} (h : PlainLabels pieces) :
    PlainLabels (pieces.map (held t id)) :=
  h.congr (by rw [List.map_map]; rfl)

end Held

/-! ## Records that are read back -/

variable {L : VrsLib} {N : WriterLib L} {P : PieceLib L} {T : TextLib}
  {dict : L.PyDict → Except ConversionError (PyDict P.V)} {idOf : ℕ → StreamId}
  {encoding : String}

/-- A metadata block shows the pieces: it has a value under each label of a piece that has an item,
what its content converts to, and nothing else. -/
def BlockShows (T : TextLib) (dict : L.PyDict → Except ConversionError (PyDict P.V))
    (encoding : String) (pieces : List (DataPiece P.V)) (block : L.PyDict) : Prop :=
  ∃ dic metadata, dict block = .ok dic ∧ stringifyMetadataKeys dic = .ok metadata ∧
    ∀ name value, metadata.lookup name = some value ↔ ∃ piece ∈ pieces,
      piece.getLabel = encodeUtf8 name ∧ T.sets piece ∧ piece.content.pyValue T encoding = .ok value

/-- The record that was read is that of a call: it has the header that was asked for, and a block
for each datalayout that the stream was given out with, which shows, under their names, what was
given to its members last before the call, as long as it converts. -/
inductive ReadsBack (T : TextLib) (dict : L.PyDict → Except ConversionError (PyDict P.V))
    (idOf : ℕ → StreamId) (encoding : String) :
    List (WriterUse N P × WriterUseReply) × WriterCall N → PyRecord L → Prop
  | intro (t : List (WriterUse N P × WriterUseReply)) (recordType : CreatedType) (stream : ℕ)
      (timestamp : Timestamp) (srcs : List (Source N)) (declared : PyStream L) (r : PyRecord L)
      (given_eq : (given t)[stream]? = some declared)
      (timestamp_eq : r.recordTimestamp = timestamp)
      (recordType_eq : r.recordType = lowercaseTypeName L recordType.recordType)
      (streamId_eq : r.streamId = L.getNumericName (idOf stream))
      (length_eq : r.datalayoutBlocks.length =
        ((declared.recordFormat recordType).getDataSource []).dataLayouts.length)
      (shows : ∀ (j : ℕ) declaredLayout block,
        ((declared.recordFormat recordType).getDataSource []).dataLayouts[j]? =
          some declaredLayout →
        r.datalayoutBlocks[j]? = some block → PlainLabels (P.pieces declaredLayout) →
        let pieces := (P.pieces declaredLayout).map (held t ⟨stream, recordType, j⟩)
        (∀ piece ∈ pieces, T.sets piece →
          ∃ value, piece.content.pyValue T encoding = .ok value) →
        BlockShows T dict encoding pieces block) :
      ReadsBack T dict idOf encoding (t, .createRecord stream timestamp srcs recordType) r

/-- A record has the datalayouts of its format if there are one or two of them. -/
theorem PyRecordFormat.dataLayouts_getDataSource (format : PyRecordFormat L)
    (chunks : List (List UInt8)) : (format.getDataSource chunks).dataLayouts =
      if format.dataLayouts.length = 1 ∨ format.dataLayouts.length = 2 then format.dataLayouts
      else [] := by
  unfold getDataSource
  split
  · rename_i heq
    rw [heq]
    rfl
  · rename_i heq
    rw [heq]
    rfl
  · rename_i hone htwo
    refine (if_neg ?_).symm
    rintro (hlength | hlength)
    · obtain ⟨dl, hdl⟩ := List.length_eq_one_iff.1 hlength
      exact hone dl hdl
    · obtain ⟨dl, dl', hdl⟩ := List.length_eq_two.1 hlength
      exact htwo dl dl' hdl

/-- **A record that is shown is read back.** -/
theorem readsBack_of_madeFrom
    (hdict : ∀ dl encoding, dict (L.dataLayoutToPyDict dl encoding) =
      dataLayoutToPyDict T (P.pieces dl) encoding)
    {creation : List (WriterUse N P × WriterUseReply) × WriterCall N} {record : Record L}
    (hmade : VRSWriter.MadeFrom creation record) {kinds : List BlockKind} {r : PyRecord L}
    (hshown : record.ShownBy kinds (idOf record.stream) encoding r) :
    ReadsBack T dict idOf encoding creation r := by
  cases hmade with
  | intro t recordType stream timestamp srcs declared format buffers creationOrder hgiven hstaged
      hrequest =>
    have hblocks := hshown.datalayoutBlocks_eq
    simp only [PyRecordFormat.dataLayouts_getDataSource, hstaged.length_eq] at hblocks
    refine .intro t recordType stream timestamp srcs declared r hgiven hshown.timestamp_eq
      hshown.recordType_eq hshown.streamId_eq ?_ ?_
    · rw [hblocks, List.length_map, PyRecordFormat.dataLayouts_getDataSource]
      split
      · exact hstaged.length_eq
      · rfl
    · intro j declaredLayout block hlayout hblock hplain pieces hvalues
      rw [PyRecordFormat.dataLayouts_getDataSource] at hlayout
      split at hlayout
      · rename_i hfew
        rw [hblocks, if_pos hfew, List.getElem?_map, Option.map_eq_some_iff] at hblock
        obtain ⟨dl, hdl, rfl⟩ := hblock
        have hpieces : P.pieces dl = pieces :=
          (hstaged.pieces_eq j declaredLayout dl hlayout hdl).trans
            (stagedPieces_eq_map_held hplain.nodup)
        obtain ⟨dic, metadata, hdic, hmetadata, hlookup⟩ := exists_metadata hplain.map_held hvalues
        exact ⟨dic, metadata, by rw [hdict, hpieces, hdic], hmetadata, hlookup⟩
      · cases hlayout

/-- The fields select the record that is described so. -/
def FilterFields.selectsCreation (fnmatch : String → String → Bool) (fields : FilterFields)
    (idOf : ℕ → StreamId) (creation : Creation) : Bool :=
  decide (fields.Selects L fnmatch (idOf creation.stream)
    ⟨creation.timestamp, idOf creation.stream, creation.recordType⟩)

theorem creation?_of_madeFrom {creation : List (WriterUse N P × WriterUseReply) × WriterCall N}
    {record : Record L} (h : VRSWriter.MadeFrom creation record) :
    creation.2.creation? = some record.creation := by
  cases h with
  | intro t recordType => cases recordType <;> rfl

/-- A library that registers the types that the pieces of the sample streams have. -/
def sampleTextLib : TextLib :=
  { questionMarkLib with podTypes := PieceLib.ofPieces.podTypes }

/-- The dictionaries of `VrsLib.ofPieces`. -/
def sampleDict : VrsLib.ofPieces.PyDict → Except ConversionError (PyDict ℤ) :=
  fun (dl, encoding) => dataLayoutToPyDict sampleTextLib dl encoding

/-- The camera that a record has in its metadata. -/
def cameraId (r : PyRecord VrsLib.ofPieces) : Option (PyItem ℤ) := do
  let dic ← (sampleDict (← r.datalayoutBlocks.head?)).toOption
  match (← (stringifyMetadataKeys dic).toOption).lookup "camera_id" with
  | some (.item object) => some object
  | _ => none

/-- The image that was created last comes first, and has the camera that was given last. -/
example :
    let reader := ((OssVRSReader.new true).open twoCamerasReader).enableAllStreams twoCamerasReader
    ((OpenReader.reader twoCamerasReader (.ofRecords twoCamerasFile imageOfData) reader.2).list
      (.list [1, 2])).1.toOption.map (List.map cameraId) = some [some (.pod 1), some (.pod 2)] := by
  decide +kernel

end Pyvrs
