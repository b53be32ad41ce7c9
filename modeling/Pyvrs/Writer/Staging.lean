import Pyvrs.Reader.DataLayouts
import Pyvrs.Writer.CreatedRecords

/-!
# Metadata staged for records

The datalayouts of a record format are where the metadata of its records is staged: `VRSDataLayout`
sets their pieces one at a time, by name, and a record that is created takes a copy of what they
hold. So a piece of the metadata of a record holds what was last given to it before the record was
created, whatever was done in between, and what is given to it later changes no record
(`staged_records`).
-/

namespace Pyvrs

open Foundations Machine

/-! ## Pieces -/

/-- The name of the type of the elements that a piece holds. -/
def PieceContent.elementTypeName {V : Type} : PieceContent V → String
  | value elementTypeName _ | array elementTypeName _ | vector elementTypeName _
  | stringMap elementTypeName _ => elementTypeName
  | vectorOfStrings _ | stringMapOfStrings _ | string _ => "string"

/-- `getArraySize`, of an array. -/
def PieceContent.arraySize {V : Type} : PieceContent V → ℕ
  | array _ values => values.length
  | _ => 0

/-- What a piece is declared with: `getLabel`, `getTypeName` in two parts, and `getArraySize`. -/
@[ext] structure PieceDecl where
  label : List UInt8
  pieceType : DataPieceType
  elementTypeName : String
  arraySize : ℕ
  deriving DecidableEq

/-- The declaration of a piece. -/
def DataPiece.decl {V : Type} (piece : DataPiece V) : PieceDecl :=
  ⟨piece.getLabel, piece.content.pieceType, piece.content.elementTypeName, piece.content.arraySize⟩

/-- What the writer takes from vrs and from the bindings about datalayouts. -/
structure PieceLib (L : VrsLib) where
  /-- The objects of Python that the values of POD types are made of. -/
  V : Type
  /-- A value that is given to a piece. -/
  Value : Type
  /-- The types of `PODMacro.inc`. -/
  podTypes : List String
  /-- The pieces, as `forEachDataPiece` visits them. -/
  pieces : L.DataLayout → List (DataPiece V)
  /-- The conversion of a value to the type that `set` of the wrapper of a piece takes. -/
  convert : PieceDecl → Value → Except PyError (PieceContent V)
  /-- What `DataPieceArray::set` puts after the values given, if they are fewer than the array
  has. -/
  arrayRest : PieceDecl → List V → List V
  /-- `set` and `stage` of the piece visited at a position. -/
  set : L.DataLayout → ℕ → PieceContent V → L.DataLayout
  pieceType_convert : ∀ decl value content, convert decl value = .ok content →
    content.pieceType = decl.pieceType ∧ content.elementTypeName = decl.elementTypeName
  length_arrayRest : ∀ decl values, values.length ≤ decl.arraySize →
    values.length + (arrayRest decl values).length = decl.arraySize
  pieces_set : ∀ dl i content, pieces (set dl i content) =
    (pieces dl).modify i fun piece => { piece with content := content }

namespace PieceLib

variable {L : VrsLib} (P : PieceLib L)

/-- There is a wrapper for the type of the piece. -/
def HasWrapper (decl : PieceDecl) : Bool :=
  match decl.pieceType with
  | .value | .array => decl.elementTypeName ∈ P.podTypes
  | .vector | .stringMap => decl.elementTypeName ∈ P.podTypes ∨ decl.elementTypeName = "string"
  | .string => true

/-- `getMembers`, of one datalayout: each piece that has a wrapper is put under its label, in the
place of one put there before. -/
def getMembers (decls : List PieceDecl) : List UInt8 → Option (ℕ × PieceDecl) :=
  decls.zipIdx.foldl (fun members (decl, i) =>
    if P.HasWrapper decl then Function.update members decl.label (some (i, decl)) else members)
    fun _ => none

/-- `set` of the wrapper of a piece: what the piece holds then. -/
def wrapperSet (decl : PieceDecl) (value : P.Value) : Except PyError (PieceContent P.V) :=
  match P.convert decl value with
  | .error e => .error e
  | .ok (.array elementTypeName v) =>
    if decl.arraySize < v.length then
      .error (.valueError ("Given array does not fit in target field " ++
        (decodeUtf8 decl.label).getD ""))
    else .ok (.array elementTypeName (v ++ P.arrayRest decl v))
  | .ok content => .ok content

end PieceLib

/-! ## Programs that write -/

/-- The calls that a program makes: to the writer and its streams, and the assignments to the
members of a `VRSDataLayout`. -/
inductive WriterUse {L : VrsLib} (N : WriterLib L) (P : PieceLib L)
  | call (c : WriterCall N)
  | setAttr (id : DataLayoutId) (name : String) (value : P.Value)

/-- What they return or raise. -/
inductive WriterUseReply
  | reply (reply : Except PyError WriterValue)
  | done
  | attributeError
  | raised (error : PyError)

variable {L : VrsLib} {N : WriterLib L} {P : PieceLib L}

/-- The record format with another datalayout at an index. -/
def PyRecordFormat.setDataLayout (format : PyRecordFormat L) (index : ℕ) (dl : L.DataLayout) :
    PyRecordFormat L :=
  { format with dataLayouts := format.dataLayouts.set index dl }

/-- The stream, one of whose formats has another datalayout. -/
def PyStream.setDataLayout (stream : PyStream L) (recordType : CreatedType) (index : ℕ)
    (dl : L.DataLayout) : PyStream L where
  deviceFlavor := stream.deviceFlavor
  recordFormat := Function.update stream.recordFormat recordType
    ((stream.recordFormat recordType).setDataLayout index dl)
  recordFormat_recordType type := by
    by_cases htype : type = recordType
    · subst htype
      rw [Function.update_self]
      exact stream.recordFormat_recordType type
    · rw [Function.update_of_ne htype]
      exact stream.recordFormat_recordType type

namespace VRSWriter

variable (w : VRSWriter N)

/-- The writer, one of whose datalayouts is another one. -/
def setDataLayout (id : DataLayoutId) (dl : L.DataLayout) : VRSWriter N :=
  { w with
    streams := w.streams.modify id.stream fun s =>
      { s with stream := s.stream.setDataLayout id.dataLayoutType id.index dl } }

/-- `VRSDataLayout.__setattr__`, of the datalayout that `get_*_record_metadata` has returned. -/
def setAttr (P : PieceLib L) (id : DataLayoutId) (name : String) (value : P.Value) :
    WriterUseReply × VRSWriter N :=
  match w.streams[id.stream]? with
  | none => (.raised (noSuchStream id.stream), w)
  | some s =>
    match (s.stream.recordFormat id.dataLayoutType).dataLayouts[id.index]? with
    | none => (.raised (.indexError "list index out of range"), w)
    | some dl =>
      match P.getMembers ((P.pieces dl).map DataPiece.decl) (encodeUtf8 name) with
      | none => (.attributeError, w)
      | some (i, decl) =>
        match P.wrapperSet decl value with
        | .error e => (.raised e, w)
        | .ok content => (.done, w.setDataLayout id (P.set dl i content))

/-- One call of a program. -/
def use : Machine (VRSWriter N) (WriterUse N P) WriterUseReply
  | w, .call c =>
    let (reply, w) := call w c
    (.reply reply, w)
  | w, .setAttr id name value => w.setAttr P id name value

end VRSWriter

/-! ## Pieces keep their declarations -/

namespace PieceLib

/-- The label that a piece with a wrapper is put under. -/
def memberKey (e : PieceDecl × ℕ) : Option (List UInt8) :=
  if P.HasWrapper e.1 then some e.1.label else none

/-- **A member is the last piece put under its label.** -/
theorem getMembers_eq_lastSetting (decls : List PieceDecl) (label : List UInt8) :
    P.getMembers decls label =
      (lastSetting P.memberKey decls.zipIdx label).map fun e => (e.2, e.1) := by
  unfold getMembers
  induction decls.zipIdx using List.reverseRecOn with
  | nil => rfl
  | append_singleton entries e ih =>
    obtain ⟨decl, i⟩ := e
    rw [List.foldl_append, List.foldl_cons, List.foldl_nil, lastSetting_concat]
    simp only [memberKey]
    by_cases hwrapper : P.HasWrapper decl = true
    · rw [if_pos hwrapper, if_pos hwrapper]
      by_cases hlabel : decl.label = label
      · rw [← hlabel, Function.update_self, if_pos rfl, Option.map_some]
      · rw [Function.update_of_ne (Ne.symm hlabel), if_neg (mt Option.some.inj hlabel), ih]
    · rw [if_neg hwrapper, if_neg hwrapper, if_neg nofun, ih]

/-- A member is a piece with its label, and has a wrapper. -/
theorem getElem?_of_getMembers {decls : List PieceDecl} {label : List UInt8} {i : ℕ}
    {decl : PieceDecl} (h : P.getMembers decls label = some (i, decl)) :
    decls[i]? = some decl ∧ decl.label = label ∧ P.HasWrapper decl := by
  rw [getMembers_eq_lastSetting, Option.map_eq_some_iff] at h
  obtain ⟨e, hlast, heq⟩ := h
  cases heq
  obtain ⟨hmem, hkey⟩ := mem_of_lastSetting hlast
  obtain ⟨hwrapper, hlabel⟩ := Option.ite_none_right_eq_some.1 hkey
  exact ⟨List.mem_zipIdx_iff_getElem?.1 hmem, Option.some.inj hlabel, hwrapper⟩

/-- **A piece keeps its declaration**, whatever is given to it. -/
theorem decl_of_wrapperSet {piece : DataPiece P.V} (value : P.Value) {content : PieceContent P.V}
    (h : P.wrapperSet piece.decl value = .ok content) :
    DataPiece.decl { piece with content := content } = piece.decl := by
  unfold wrapperSet at h
  split at h
  · cases h
  · rename_i elementTypeName v hconvert
    obtain ⟨htype, helement⟩ := P.pieceType_convert _ _ _ hconvert
    split at h
    · cases h
    · rename_i hsize
      cases h
      have hlength := P.length_arrayRest piece.decl v (not_lt.1 hsize)
      rw [← List.length_append] at hlength
      exact PieceDecl.ext rfl htype helement hlength
  · rename_i hnotArray hconvert
    cases h
    obtain ⟨htype, helement⟩ := P.pieceType_convert _ _ _ hconvert
    have hsize : ∀ c : PieceContent P.V, c.pieceType ≠ .array → c.arraySize = 0 := by
      intro c hc
      cases c with
      | array => exact absurd rfl hc
      | _ => rfl
    have hcontent : content.pieceType ≠ .array := by
      intro harray
      cases content with
      | array elementTypeName v => exact hnotArray elementTypeName v rfl
      | _ => cases harray
    have hpiece : piece.content.pieceType ≠ .array := fun harray => hcontent (htype.trans harray)
    exact PieceDecl.ext rfl htype helement ((hsize _ hcontent).trans (hsize _ hpiece).symm)

/-- What an assignment puts, and where, among pieces that are declared so. -/
def resolve (decls : List PieceDecl) (name : String) (value : P.Value) :
    Option (ℕ × PieceContent P.V) :=
  match P.getMembers decls (encodeUtf8 name) with
  | none => none
  | some (i, decl) => (P.wrapperSet decl value).toOption.map (i, ·)

theorem decl_of_resolve {pieces : List (DataPiece P.V)} {name : String} {value : P.Value} {i : ℕ}
    {content : PieceContent P.V}
    (h : P.resolve (pieces.map DataPiece.decl) name value = some (i, content)) :
    ∃ piece, pieces[i]? = some piece ∧
      DataPiece.decl { piece with content := content } = piece.decl := by
  unfold resolve at h
  split at h
  · cases h
  · rename_i j decl hmember
    obtain ⟨content', hset, heq⟩ := Option.map_eq_some_iff.1 h
    cases heq
    have hdecl := (P.getElem?_of_getMembers hmember).1
    rw [List.getElem?_map, Option.map_eq_some_iff] at hdecl
    obtain ⟨piece, hpiece, rfl⟩ := hdecl
    exact ⟨piece, hpiece, P.decl_of_wrapperSet value (toOption_eq_some_iff.1 hset)⟩

end PieceLib

/-! ## What was staged -/

/-- What a call has given to the piece at a position of a datalayout whose pieces are declared
so. -/
def stagedBy (id : DataLayoutId) (decls : List PieceDecl) (i : ℕ) :
    WriterUse N P × WriterUseReply → Option (PieceContent P.V)
  | (.setAttr id' name value, .done) =>
    if id' = id then
      (P.resolve decls name value).bind fun (j, content) => if j = i then some content else none
    else none
  | _ => none

/-- What was given last to the piece. -/
def lastStaged (t : List (WriterUse N P × WriterUseReply)) (id : DataLayoutId)
    (decls : List PieceDecl) (i : ℕ) : Option (PieceContent P.V) :=
  (t.filterMap (stagedBy id decls i)).getLast?

/-- The pieces of a datalayout after a history: each holds what was given to it last. -/
def stagedPieces (t : List (WriterUse N P × WriterUseReply)) (id : DataLayoutId)
    (pieces : List (DataPiece P.V)) : List (DataPiece P.V) :=
  pieces.mapIdx fun i piece =>
    { piece with content :=
        (lastStaged t id (pieces.map DataPiece.decl) i).getD piece.content }

section Staged

variable {t : List (WriterUse N P × WriterUseReply)} {id : DataLayoutId} {decls : List PieceDecl}
  {e : WriterUse N P × WriterUseReply} {pieces : List (DataPiece P.V)}

theorem lastStaged_concat (i : ℕ) :
    lastStaged (t ++ [e]) id decls i = (stagedBy id decls i e).or (lastStaged t id decls i) := by
  unfold lastStaged
  rw [List.filterMap_append]
  cases he : stagedBy id decls i e with
  | none => rw [List.filterMap_cons_none he, List.filterMap_nil, List.append_nil, Option.none_or]
  | some content =>
    rw [List.filterMap_cons_some he, List.filterMap_nil, List.getLast?_concat, Option.some_or]

/-- A call that gives nothing to a datalayout leaves its pieces. -/
theorem stagedPieces_concat_of_none (h : ∀ decls i, stagedBy id decls i e = none) :
    stagedPieces (t ++ [e]) id pieces = stagedPieces t id pieces := by
  unfold stagedPieces
  simp only [lastStaged_concat, h, Option.none_or]

/-- What is given to one datalayout is not given to another one. -/
theorem stagedPieces_concat_of_ne {id' : DataLayoutId} (hne : id' ≠ id) (name : String)
    (value : P.Value) :
    stagedPieces (t ++ [(.setAttr id' name value, .done)]) id pieces = stagedPieces t id pieces :=
  stagedPieces_concat_of_none fun _ _ => if_neg hne

/-- A piece that is given something holds it. -/
theorem stagedPieces_concat_setAttr {name : String} {value : P.Value} {j : ℕ}
    {content : PieceContent P.V}
    (h : P.resolve (pieces.map DataPiece.decl) name value = some (j, content)) :
    stagedPieces (t ++ [(.setAttr id name value, .done)]) id pieces =
      (stagedPieces t id pieces).modify j fun piece => { piece with content := content } := by
  have hstaged : ∀ i, stagedBy (N := N) id (pieces.map DataPiece.decl) i
      (.setAttr id name value, .done) = if j = i then some content else none := by
    intro i
    rw [stagedBy, if_pos rfl, h, Option.bind_some]
  unfold stagedPieces
  refine List.ext_getElem? fun i => ?_
  rw [List.getElem?_modify, List.getElem?_mapIdx, List.getElem?_mapIdx]
  cases pieces[i]? with
  | none => rfl
  | some piece =>
    simp only [Option.map_some, Option.map_eq_map, lastStaged_concat, hstaged]
    by_cases hj : j = i
    · simp [hj]
    · simp [hj]

/-- What nothing was given to is as it was. -/
theorem stagedPieces_of_forall_not_mem (h : ∀ name value, (.setAttr id name value, .done) ∉ t) :
    stagedPieces t id pieces = pieces := by
  have hnone : ∀ i, lastStaged t id (pieces.map DataPiece.decl) i = none := by
    intro i
    unfold lastStaged
    rw [List.getLast?_eq_none_iff, List.filterMap_eq_nil_iff]
    intro e he
    unfold stagedBy
    split
    · rename_i id' name value
      refine if_neg fun hid => h name value ?_
      rwa [hid] at he
    · rfl
  unfold stagedPieces
  simp only [hnone, Option.getD_none]
  refine List.ext_getElem? fun i => ?_
  rw [List.getElem?_mapIdx]
  cases pieces[i]? with
  | none => rfl
  | some piece => rfl

theorem resolve_of_stagedBy {i : ℕ} {content : PieceContent P.V}
    (h : stagedBy id decls i e = some content) :
    ∃ name value, P.resolve decls name value = some (i, content) := by
  unfold stagedBy at h
  split at h
  · rename_i id' name value
    split at h
    · obtain ⟨⟨j, content'⟩, hresolve, hj⟩ := Option.bind_eq_some_iff.1 h
      simp only at hj
      split at hj
      · rename_i hji
        cases hj
        exact ⟨name, value, hji ▸ hresolve⟩
      · cases hj
    · cases h
  · cases h

/-- **What is staged for a piece fits its declaration.** -/
theorem map_decl_stagedPieces :
    (stagedPieces t id pieces).map DataPiece.decl = pieces.map DataPiece.decl := by
  unfold stagedPieces
  refine List.ext_getElem? fun i => ?_
  rw [List.getElem?_map, List.getElem?_map, List.getElem?_mapIdx]
  cases hpiece : pieces[i]? with
  | none => rfl
  | some piece =>
    simp only [Option.map_some, Option.some.injEq]
    cases hlast : lastStaged t id (pieces.map DataPiece.decl) i with
    | none => rfl
    | some content =>
      obtain ⟨e, -, he⟩ := List.mem_filterMap.1 (List.mem_of_getLast? hlast)
      obtain ⟨name, value, hresolve⟩ := resolve_of_stagedBy he
      obtain ⟨piece', hpiece', hdecl⟩ := P.decl_of_resolve hresolve
      cases hpiece.symm.trans hpiece'
      exact hdecl

end Staged

/-! ## The formats of the streams -/

/-- The native streams given out in a history. -/
def given (t : List (WriterUse N P × WriterUseReply)) : List (PyStream L) :=
  t.filterMap fun
    | (.call c, .reply reply) => givenBy (c, reply)
    | _ => none

theorem given_append (t t' : List (WriterUse N P × WriterUseReply)) :
    given (t ++ t') = given t ++ given t' :=
  List.filterMap_append

/-- The format is the one declared, with what was staged since. -/
structure StagedFormat (t : List (WriterUse N P × WriterUseReply)) (stream : ℕ)
    (recordType : CreatedType) (declared format : PyRecordFormat L) : Prop where
  format_eq : format = { declared with dataLayouts := format.dataLayouts }
  length_eq : format.dataLayouts.length = declared.dataLayouts.length
  pieces_eq : ∀ (j : ℕ) declaredLayout dl, declared.dataLayouts[j]? = some declaredLayout →
    format.dataLayouts[j]? = some dl →
      P.pieces dl = stagedPieces t ⟨stream, recordType, j⟩ (P.pieces declaredLayout)

theorem StagedFormat.congr {t' : List (WriterUse N P × WriterUseReply)} {stream : ℕ}
    {recordType : CreatedType} {declared format : PyRecordFormat L}
    (h : StagedFormat t stream recordType declared format)
    (hstaged : ∀ j pieces, stagedPieces t' ⟨stream, recordType, j⟩ pieces =
      stagedPieces t ⟨stream, recordType, j⟩ pieces) :
    StagedFormat t' stream recordType declared format := by
  refine ⟨h.format_eq, h.length_eq, fun j declaredLayout dl hdeclared hdl => ?_⟩
  rw [hstaged]
  exact h.pieces_eq j declaredLayout dl hdeclared hdl

/-- The datalayout that something is given to holds it, and the others are left. -/
theorem StagedFormat.setDataLayout {t : List (WriterUse N P × WriterUseReply)} {id : DataLayoutId}
    {declared format : PyRecordFormat L}
    (h : StagedFormat t id.stream id.dataLayoutType declared format) {dl : L.DataLayout}
    (hdl : format.dataLayouts[id.index]? = some dl) {name : String} {value : P.Value} {i : ℕ}
    {content : PieceContent P.V}
    (hresolve : P.resolve ((P.pieces dl).map DataPiece.decl) name value = some (i, content)) :
    StagedFormat (t ++ [(.setAttr id name value, .done)]) id.stream id.dataLayoutType declared
      (format.setDataLayout id.index (P.set dl i content)) := by
  refine ⟨?_, ?_, fun j declaredLayout dl' hdeclared hdl' => ?_⟩
  · unfold PyRecordFormat.setDataLayout
    rw [h.format_eq]
  · exact List.length_set.trans h.length_eq
  · have hget : (format.dataLayouts.set id.index (P.set dl i content))[j]? = some dl' := hdl'
    by_cases hj : id.index = j
    · subst hj
      have hlt := (List.getElem?_eq_some_iff.1 hdl).1
      rw [List.getElem?_set_self hlt] at hget
      cases hget
      have hpieces := h.pieces_eq _ declaredLayout dl hdeclared hdl
      rw [hpieces, map_decl_stagedPieces] at hresolve
      rw [P.pieces_set, hpieces]
      exact (stagedPieces_concat_setAttr hresolve).symm
    · rw [List.getElem?_set_ne hj] at hget
      have hne : id ≠ ⟨id.stream, id.dataLayoutType, j⟩ := fun hid =>
        hj (congrArg DataLayoutId.index hid)
      rw [h.pieces_eq j declaredLayout dl' hdeclared hget]
      exact (stagedPieces_concat_of_ne hne name value).symm

namespace VRSWriter

/-- The streams of the writer are those given out, with what was staged since. -/
structure Staged (w : VRSWriter N) (t : List (WriterUse N P × WriterUseReply)) : Prop where
  length_eq : (w.streams.map VRSStream.stream).length = (given t).length
  known : ∀ id name value, (.setAttr id name value, .done) ∈ t → id.stream < (given t).length
  staged : ∀ (k : ℕ) stream declared, (w.streams.map VRSStream.stream)[k]? = some stream →
    (given t)[k]? = some declared → ∀ recordType, StagedFormat t k recordType
      (declared.recordFormat recordType) (stream.recordFormat recordType)

variable {w : VRSWriter N} {t : List (WriterUse N P × WriterUseReply)}

/-- A call of the writer or of a stream stages nothing. -/
theorem Staged.call (h : w.Staged t) (c : WriterCall N) :
    (VRSWriter.call w c).2.Staged (t ++ [(.call c, .reply (VRSWriter.call w c).1)]) := by
  have hstreams := w.streams_call c
  generalize (VRSWriter.call w c).2 = w' at hstreams ⊢
  generalize (VRSWriter.call w c).1 = reply at hstreams ⊢
  have hgiven : given (t ++ [(WriterUse.call (P := P) c, WriterUseReply.reply reply)]) =
      given t ++ (givenBy (c, reply)).toList := by
    rw [given_append]
    rfl
  have hsame : ∀ id pieces, stagedPieces (t ++ [(WriterUse.call c, .reply reply)]) id pieces =
      stagedPieces t id pieces := fun id pieces => stagedPieces_concat_of_none fun _ _ => rfl
  have hknown : ∀ id name value, (WriterUse.setAttr id name value, WriterUseReply.done) ∈
      t ++ [(.call c, .reply reply)] → (.setAttr id name value, .done) ∈ t := by
    intro id name value hmem
    refine (List.mem_append.1 hmem).resolve_right fun hlast => ?_
    cases List.mem_singleton.1 hlast
  refine ⟨?_, fun id name value hmem => ?_, fun k stream declared hstream hdeclared type => ?_⟩
  · rw [hstreams, hgiven, List.length_append, List.length_append, h.length_eq]
  · rw [hgiven, List.length_append]
    exact Nat.lt_add_right _ (h.known id name value (hknown id name value hmem))
  · rw [hstreams] at hstream
    rw [hgiven] at hdeclared
    by_cases hk : k < (given t).length
    · rw [List.getElem?_append_left (h.length_eq ▸ hk)] at hstream
      rw [List.getElem?_append_left hk] at hdeclared
      exact (h.staged k stream declared hstream hdeclared type).congr fun j pieces => hsame _ pieces
    · -- the stream that this call gives out
      rw [List.getElem?_append_right (h.length_eq ▸ not_lt.1 hk), h.length_eq] at hstream
      rw [List.getElem?_append_right (not_lt.1 hk)] at hdeclared
      cases hstream.symm.trans hdeclared
      refine ⟨rfl, rfl, fun j declaredLayout dl hdeclaredLayout hdl => ?_⟩
      cases hdeclaredLayout.symm.trans hdl
      rw [hsame, stagedPieces_of_forall_not_mem fun name value hmem => hk (h.known _ _ _ hmem)]

/-- An assignment stages what it gives to a piece, and nothing else. -/
theorem Staged.setDataLayout (h : w.Staged t) {id : DataLayoutId} {s : VRSStream L}
    (hs : w.streams[id.stream]? = some s) {dl : L.DataLayout}
    (hdl : (s.stream.recordFormat id.dataLayoutType).dataLayouts[id.index]? = some dl)
    {name : String} {value : P.Value} {i : ℕ} {content : PieceContent P.V}
    (hresolve : P.resolve ((P.pieces dl).map DataPiece.decl) name value = some (i, content)) :
    (w.setDataLayout id (P.set dl i content)).Staged
      (t ++ [(.setAttr id name value, .done)]) := by
  have hgiven : given (t ++ [(WriterUse.setAttr (N := N) id name value, .done)]) = given t :=
    (given_append t _).trans (List.append_nil _)
  have hother : ∀ id' pieces, id ≠ id' →
      stagedPieces (t ++ [(.setAttr id name value, .done)]) id' pieces =
        stagedPieces t id' pieces := fun id' pieces hne => stagedPieces_concat_of_ne hne name value
  have hstreams : ∀ k, ((w.setDataLayout id (P.set dl i content)).streams.map
      VRSStream.stream)[k]? = (w.streams.map VRSStream.stream)[k]?.map fun stream =>
        if id.stream = k then
          stream.setDataLayout id.dataLayoutType id.index (P.set dl i content)
        else stream := by
    intro k
    show ((w.streams.modify id.stream _).map _)[k]? = _
    rw [List.getElem?_map, List.getElem?_modify, List.getElem?_map]
    cases w.streams[k]? with
    | none => rfl
    | some s =>
      by_cases hk : id.stream = k
      · simp [hk]
      · simp [hk]
  have hlt : id.stream < (given t).length := by
    rw [← h.length_eq, List.length_map]
    exact (List.getElem?_eq_some_iff.1 hs).1
  refine ⟨?_, fun id' name' value' hmem => ?_, fun k stream declared hstream hdeclared type => ?_⟩
  · rw [hgiven, ← h.length_eq]
    show ((w.streams.modify id.stream _).map _).length = _
    rw [List.length_map, List.length_modify, List.length_map]
  · rw [hgiven]
    rcases List.mem_append.1 hmem with hmem | hmem
    · exact h.known id' name' value' hmem
    · cases List.mem_singleton.1 hmem
      exact hlt
  · rw [hgiven] at hdeclared
    rw [hstreams, Option.map_eq_some_iff] at hstream
    obtain ⟨stream', hstream', rfl⟩ := hstream
    have hstaged := h.staged k stream' declared hstream' hdeclared type
    by_cases hk : id.stream = k
    · rw [if_pos hk]
      have hstream : stream' = s.stream := by
        rw [← hk, List.getElem?_map, hs] at hstream'
        exact (Option.some.inj hstream').symm
      subst hstream
      by_cases htype : type = id.dataLayoutType
      · subst htype
        have hformat : (s.stream.setDataLayout id.dataLayoutType id.index
            (P.set dl i content)).recordFormat id.dataLayoutType =
              (s.stream.recordFormat id.dataLayoutType).setDataLayout id.index
                (P.set dl i content) :=
          Function.update_self _ _ _
        rw [hformat]
        exact hk ▸ StagedFormat.setDataLayout (hk ▸ hstaged) hdl hresolve
      · have hformat : (s.stream.setDataLayout id.dataLayoutType id.index
            (P.set dl i content)).recordFormat type = s.stream.recordFormat type :=
          Function.update_of_ne htype _ _
        rw [hformat]
        exact hstaged.congr fun j pieces => hother _ pieces fun hid => htype (by rw [hid])
    · rw [if_neg hk]
      exact hstaged.congr fun j pieces => hother _ pieces fun hid => hk (by rw [hid])

/-- An assignment that raises stages nothing. -/
theorem Staged.raised (h : w.Staged t) {id : DataLayoutId} {name : String} {value : P.Value}
    {reply : WriterUseReply} (hreply : reply ≠ .done) :
    w.Staged (t ++ [(.setAttr id name value, reply)]) := by
  have hgiven : given (t ++ [(WriterUse.setAttr (N := N) id name value, reply)]) = given t :=
    (given_append t _).trans (List.append_nil _)
  refine ⟨hgiven ▸ h.length_eq, fun id' name' value' hmem => ?_,
    fun k stream declared hstream hdeclared type => ?_⟩
  · rcases List.mem_append.1 hmem with hmem | hmem
    · exact hgiven ▸ h.known id' name' value' hmem
    · cases List.mem_singleton.1 hmem
      exact absurd rfl hreply
  · refine (h.staged k stream declared hstream (hgiven ▸ hdeclared) type).congr fun j pieces =>
      stagedPieces_concat_of_none fun _ _ => ?_
    cases reply with
    | done => exact absurd rfl hreply
    | reply | attributeError | raised => rfl

/-- **Every call stages what it gives to a piece.** -/
theorem Staged.use (h : w.Staged t) (u : WriterUse N P) :
    (VRSWriter.use w u).2.Staged (t ++ [(u, (VRSWriter.use w u).1)]) := by
  cases u with
  | call c => exact h.call c
  | setAttr id name value =>
    show (w.setAttr P id name value).2.Staged (t ++ [(_, (w.setAttr P id name value).1)])
    unfold setAttr
    split
    · exact h.raised nofun
    · rename_i s hs
      split
      · exact h.raised nofun
      · rename_i dl hdl
        split
        · exact h.raised nofun
        · rename_i i decl hmember
          split
          · exact h.raised nofun
          · rename_i content hset
            refine h.setDataLayout hs hdl ?_
            rw [PieceLib.resolve, hmember]
            simp only [hset]
            rfl

/-! ## The records created -/

/-- The call, if it has created a record. -/
def recordCreator : WriterUse N P × WriterUseReply → Option (WriterCall N)
  | (.call c, .reply reply) => creatorOf (c, reply)
  | _ => none

/-- The calls of a history that have created records, in order, each with what went before it. -/
def creations (t : List (WriterUse N P × WriterUseReply)) :
    List (List (WriterUse N P × WriterUseReply) × WriterCall N) :=
  (List.range t.length).filterMap fun n => (t[n]?.bind recordCreator).map (t.take n, ·)

theorem creations_concat (t : List (WriterUse N P × WriterUseReply))
    (e : WriterUse N P × WriterUseReply) :
    creations (t ++ [e]) = creations t ++ ((recordCreator e).map (t, ·)).toList := by
  unfold creations
  rw [List.length_append, List.length_singleton, List.range_succ, List.filterMap_append]
  congr 1
  · refine List.filterMap_congr fun n hn => ?_
    have hlt := List.mem_range.1 hn
    rw [List.getElem?_append_left hlt, List.take_append_of_le_length hlt.le]
  · have hlast : (t ++ [e])[t.length]? = some e := List.getElem?_concat_length
    have htake : (t ++ [e]).take t.length = t := List.take_left
    cases he : (recordCreator e).map (t, ·) with
    | none => exact List.filterMap_cons_none (by rw [hlast, htake]; exact he)
    | some creation => exact List.filterMap_cons_some (by rw [hlast, htake]; exact he)

/-- The record is made of the sources of a call, by the format that the stream was given out with,
and the metadata staged before. -/
inductive MadeFrom : List (WriterUse N P × WriterUseReply) × WriterCall N → Record L → Prop
  | intro (t : List (WriterUse N P × WriterUseReply)) (recordType : CreatedType) (stream : ℕ)
      (timestamp : Timestamp) (srcs : List (Source N)) (declared : PyStream L)
      (format : PyRecordFormat L) (buffers : List BufferInfo) (creationOrder : ℕ)
      (given_eq : (given t)[stream]? = some declared)
      (staged : StagedFormat t stream recordType (declared.recordFormat recordType) format)
      (request_eq : (srcs.filterMap Source.array?).mapM N.request = .ok buffers) :
      MadeFrom (t, .createRecord stream timestamp srcs recordType)
        ⟨stream, timestamp, recordType.recordType,
          (declared.recordFormat recordType).formatVersion,
          format.getDataSource (buffers.map BufferInfo.chunk), creationOrder⟩

theorem Made.madeFrom {c : WriterCall N} {record : Record L} (h : Made w c record)
    (hstaged : w.Staged t) : MadeFrom (t, c) record := by
  obtain ⟨recordType, stream, timestamp, srcs, s, buffers, creationOrder, hs, hrequest⟩ := h
  have hstream : (w.streams.map VRSStream.stream)[stream]? = some s.stream := by
    rw [List.getElem?_map, hs]
    rfl
  have hlt : stream < (given t).length := by
    rw [← hstaged.length_eq]
    exact (List.getElem?_eq_some_iff.1 hstream).1
  have hformat := hstaged.staged stream s.stream _ hstream (List.getElem?_eq_getElem hlt) recordType
  have hversion : (s.stream.recordFormat recordType).formatVersion =
      ((given t)[stream].recordFormat recordType).formatVersion := by
    rw [hformat.format_eq]
  rw [hversion]
  exact .intro t recordType stream timestamp srcs _ _ buffers creationOrder
    (List.getElem?_eq_getElem hlt) hformat hrequest

/-- What every call preserves: the file is that of the records created, which are made of what was
passed and staged. -/
structure Recorded (w : VRSWriter N) (t : List (WriterUse N P × WriterUseReply))
    (created : List (Record L)) : Prop where
  filed : w.Filed created
  made : List.Forall₂ MadeFrom (creations t) created
  staged : w.Staged t

/-- A call that has created no record leaves those created. -/
theorem made_concat_of_none {created : List (Record L)}
    (hmade : List.Forall₂ MadeFrom (creations t) created)
    {e : WriterUse N P × WriterUseReply} (he : recordCreator e = none) :
    List.Forall₂ MadeFrom (creations (t ++ [e])) created := by
  rw [creations_concat, he]
  exact (List.append_nil _).symm ▸ hmade

/-- **The step lemma**: a call adds at most the record that it makes. -/
theorem Recorded.use {created : List (Record L)} (h : Recorded w t created) {u : WriterUse N P}
    (hu : ∀ c, u = .call c → c.Numeric) :
    ∃ created', Recorded (VRSWriter.use w u).2 (t ++ [(u, (VRSWriter.use w u).1)]) created' := by
  have hstaged := h.staged.use u
  cases u with
  | setAttr id name value =>
    have hwriter : (w.setAttr P id name value).2.writer = w.writer ∧
        (w.setAttr P id name value).2.lastFlushedTimestamp = w.lastFlushedTimestamp := by
      unfold setAttr
      repeat' split
      all_goals exact ⟨rfl, rfl⟩
    refine ⟨created, h.filed.unchanged ?_ ?_ hwriter.2, made_concat_of_none h.made rfl, hstaged⟩
    · exact congrArg RecordFileWriter.records hwriter.1
    · exact congrArg RecordFileWriter.nextCreationOrder hwriter.1
  | call c =>
    have heffect := call_effect w c
    have hreply : (VRSWriter.use w (.call c : WriterUse N P)).1 = .reply (call w c).1 := rfl
    have hnext : (VRSWriter.use w (.call c : WriterUse N P)).2 = (call w c).2 := rfl
    rw [hreply, hnext] at hstaged ⊢
    have hcall : call w c = ((call w c).1, (call w c).2) := rfl
    generalize (call w c).1 = reply at heffect hcall hstaged ⊢
    generalize (call w c).2 = w' at heffect hcall hstaged ⊢
    cases heffect with
    | unchanged hnone hrecords horder hlast =>
      refine ⟨created, h.filed.unchanged hrecords horder hlast, made_concat_of_none h.made ?_,
        hstaged⟩
      rw [recordCreator, creatorOf, hnone, Option.map_none]
    | recorded record hcreation htimestamp hcount _ hrecords horder hlast =>
      have hnum : record.timestamp.IsNum :=
        hu c rfl _ (WriterCall.timestamp?_of_creation? hcreation)
      obtain ⟨record', hmade, hpush⟩ := exists_made hcreation hcall
      obtain rfl := record_unique (hrecords.symm.trans hpush)
      refine ⟨_, h.filed.record hnum htimestamp hcount hrecords horder hlast, ?_, hstaged⟩
      rw [creations_concat, recordCreator, creatorOf, acceptedOf, hcreation]
      exact List.rel_append h.made (.cons (hmade.madeFrom h.staged) .nil)
    | flushed timestamp htimestamp hrecords horder hlast =>
      exact ⟨created, h.filed.flush (hu _ rfl timestamp rfl) htimestamp hrecords horder hlast,
        made_concat_of_none h.made rfl, hstaged⟩

theorem staged_new (N : WriterLib L) (P : PieceLib L) (filepath : String) :
    (new N filepath).Staged ([] : List (WriterUse N P × WriterUseReply)) :=
  ⟨rfl, nofun, nofun⟩

/-- **The run lemma.** -/
theorem exists_recorded (P : PieceLib L) (filepath : String) (uses : List (WriterUse N P))
    (huses : ∀ c, .call c ∈ uses → c.Numeric) :
    ∃ created, Recorded (exec use (new N filepath) uses)
      (trace use (new N filepath) uses) created := by
  have hnumeric : ∀ u ∈ uses, ∀ c, u = .call c → c.Numeric := fun u hu c hc => huses c (hc ▸ hu)
  exact exec_trace_of_calls (m := use) (t := []) (I := fun w t => ∃ created, Recorded w t created)
    (fun w t u hu ⟨created, h⟩ => h.use hu) hnumeric
    ⟨[], filed_new N filepath, .nil, staged_new N P filepath⟩

/-- **The metadata of records**: whatever a program does, the records in the file that it leaves are
those of the calls that have created one, each made of the arrays that were passed and of
datalayouts whose pieces hold what was given to them last before the call. -/
theorem staged_records (P : PieceLib L) (filepath : String) (uses : List (WriterUse N P))
    (huses : ∀ c, .call c ∈ uses → c.Numeric) :
    ∃ created, (exec use (new N filepath) uses).file.Perm created ∧
      List.Forall₂ MadeFrom (creations (trace use (new N filepath) uses)) created := by
  obtain ⟨created, h⟩ := exists_recorded P filepath uses huses
  exact ⟨created, h.filed.file.2, h.made⟩

end VRSWriter

/-! ## Datalayouts to run programs with -/

section Sample

/-- A library whose datalayouts are their pieces, which are converted in an encoding later on. -/
def VrsLib.ofPieces : VrsLib where
  __ := VrsLib.bare
  DataLayout := List (DataPiece ℤ)
  PyDict := List (DataPiece ℤ) × String
  dataLayoutToPyDict dl encoding := (dl, encoding)
  captureNormalizeOptionsConfig _ _ := ()

/-- Contents for the pieces of `VrsLib.ofPieces`, given as they are. -/
def PieceLib.ofPieces : PieceLib VrsLib.ofPieces where
  V := ℤ
  Value := PieceContent ℤ
  podTypes := ["int32_t", "uint32_t", "float", "double"]
  pieces dl := dl
  convert decl value :=
    if value.pieceType = decl.pieceType ∧ value.elementTypeName = decl.elementTypeName then
      .ok value
    else .error (.typeError "set(): incompatible function arguments.")
  arrayRest decl values := List.replicate (decl.arraySize - values.length) 0
  set dl i content := dl.modify i fun piece => { piece with content := content }
  pieceType_convert decl value content h := by
    split at h
    · rename_i hsame
      cases h
      exact hsame
    · cases h
  length_arrayRest decl values h := by
    rw [List.length_replicate]
    exact Nat.add_sub_of_le h
  pieces_set _ _ _ := rfl

/-- A piece of a datalayout, with what it holds at first. -/
def samplePiece (label : String) (content : PieceContent ℤ) : DataPiece ℤ :=
  ⟨encodeUtf8 label, true, content⟩

/-- `MyConfiguration`. -/
def myConfiguration : List (DataPiece ℤ) :=
  [samplePiece "image_width" (.value "uint32_t" 0),
    samplePiece "image_height" (.value "uint32_t" 0),
    samplePiece "image_pixel_format" (.value "uint32_t" 0)]

/-- `MyMetadata`: pieces of variable size come last. -/
def myMetadata : List (DataPiece ℤ) :=
  [samplePiece "room_temperature" (.value "float" 0),
    samplePiece "camera_id" (.value "int32_t" 0),
    samplePiece "doubles" (.array "double" [0, 0, 0]),
    samplePiece "some_string_int_map" (.stringMap "int32_t" ⟨[], .nil⟩),
    samplePiece "some_string" (.string [])]

/-- A library with the sample streams, whose arrays hold one byte, and where every file can be
written. -/
def WriterLib.ofPieces : WriterLib VrsLib.ofPieces where
  NdArray := UInt8
  request byte := .ok ⟨fun _ => byte, 1, []⟩
  Recordable := Unit
  factory := openSourceStreams (L := VrsLib.ofPieces) myConfiguration myMetadata
  createFileAsync _ _ := 0
  writeRecordsAsync _ := 0
  waitForFileClosed _ := 0
  sortRecords := List.insertionSort fun a b => a.sortKey ≤ b.sortKey
  sortRecords_perm records := List.perm_insertionSort _ records
  sortRecords_sorted records hnum := by
    have hsorted := List.pairwise_insertionSort (fun a b : Record VrsLib.ofPieces =>
      a.sortKey ≤ b.sortKey) records
    refine hsorted.imp_of_mem fun {a b} ha hb hle => ?_
    rw [List.mem_insertionSort] at ha hb
    exact Record.writtenBefore_of_sortKey_le (hnum a ha) (hnum b hb) hle

/-- Images of two cameras: the second image is created first, and an array that is too long is
refused. -/
def twoCameras : List (WriterUse WriterLib.ofPieces PieceLib.ofPieces) :=
  [.call (.createStream "sample_with_image" ""),
    .setAttr ⟨0, .configuration, 0⟩ "image_width" (.value "uint32_t" 640),
    .call (.createConfigRecord 0 (.ofRat 1) [.dataLayout ⟨0, .configuration, 0⟩]),
    .setAttr ⟨0, .data, 0⟩ "camera_id" (.value "int32_t" 2),
    .setAttr ⟨0, .data, 0⟩ "doubles" (.array "double" [5, 6]),
    .call (.createDataRecord 0 (.ofRat 3) [.dataLayout ⟨0, .data, 0⟩, .array (7 : UInt8)]),
    .call (.flushRecords (.ofRat 2)),
    .setAttr ⟨0, .data, 0⟩ "camera_id" (.value "int32_t" 1),
    .setAttr ⟨0, .data, 0⟩ "doubles" (.array "double" [1, 2, 3, 4]),
    .call (.createDataRecord 0 (.ofRat 2) [.dataLayout ⟨0, .data, 0⟩, .array (9 : UInt8)])]

theorem finite_twoCameras : ∀ c, .call c ∈ twoCameras → c.Finite := by
  simp [twoCameras, WriterCall.Finite, WriterCall.timestamp?]

theorem VRSWriter.staged_records_twoCameras :
    ∃ created, (exec use (new WriterLib.ofPieces "two.vrs") twoCameras).file.Perm created ∧
      List.Forall₂ MadeFrom
        (creations (trace use (new WriterLib.ofPieces "two.vrs") twoCameras)) created :=
  staged_records PieceLib.ofPieces "two.vrs" twoCameras fun c hc =>
    (finite_twoCameras c hc).numeric

end Sample

end Pyvrs
