import Pyvrs.Utils.PyUtils

/-!
# DataLayouts for Python

`dataLayoutToPyDict` makes a dictionary of the pieces of a DataLayout, under their labels and types.
It goes over them once for each type of piece, which is one pass in another order
(`dataLayoutToPyDict_eq_foldlM`). All objectors follow one scheme (`objector_eq_ok_iff`): a piece
that is available, and of a type that is registered, has the value that its content converts to.
-/

namespace Pyvrs

open Foundations

/-! ## DataLayouts -/

/-- `std::map<string, T>`, in increasing order of the keys. -/
structure StringMap (α : Type) where
  entries : List (List UInt8 × α)
  sorted : entries.Pairwise fun e e' => e.1 < e'.1

theorem StringMap.eq_of_mem_of_fst_eq {α : Type} (values : StringMap α) {e e' : List UInt8 × α}
    (he : e ∈ values.entries) (he' : e' ∈ values.entries) (h : e.1 = e'.1) : e = e' := by
  have hne : values.entries.Pairwise fun e e' => e.1 ≠ e'.1 := by
    refine values.sorted.imp fun hlt heq => ?_
    rw [heq] at hlt
    exact List.lt_irrefl _ hlt
  exact List.inj_on_of_nodup_map (List.pairwise_map.2 hne) he he' h

/-- `DataPieceType`. -/
inductive DataPieceType
  | value
  | array
  | vector
  | stringMap
  | string
  deriving DecidableEq

/-- What a piece holds, which its `get` yields. Of a value of a POD type there is the object of
Python that it becomes, in `V`. -/
inductive PieceContent (V : Type)
  | value (elementTypeName : String) (get : V)
  | array (elementTypeName : String) (get : List V)
  | vector (elementTypeName : String) (get : List V)
  | vectorOfStrings (get : List (List UInt8))
  | stringMap (elementTypeName : String) (get : StringMap V)
  | stringMapOfStrings (get : StringMap (List UInt8))
  | string (get : List UInt8)

/-- `DataPiece`. -/
structure DataPiece (V : Type) where
  getLabel : List UInt8
  isAvailable : Bool
  content : PieceContent V

namespace PieceContent

variable {V : Type}

/-- The type of a piece. -/
def pieceType : PieceContent V → DataPieceType
  | value .. => .value
  | array .. => .array
  | vector .. | vectorOfStrings .. => .vector
  | stringMap .. | stringMapOfStrings .. => .stringMap
  | string .. => .string

/-- The name that a piece has for its type in the dictionary. -/
def pyType : PieceContent V → String
  | value elementTypeName _ => typeName elementTypeName ""
  | array elementTypeName _ => typeName elementTypeName "_array"
  | vector elementTypeName _ => typeName elementTypeName "_vector"
  | vectorOfStrings _ => typeName "string" "_vector"
  | stringMap elementTypeName _ => typeName elementTypeName "_string_map"
  | stringMapOfStrings _ => typeName "string" "_string_map"
  | string _ => "string"

end PieceContent

/-! ## Objects of Python -/

/-- An object made of a value of a POD type, or a `str`. -/
inductive PyItem (V : Type)
  | pod (v : V)
  | str (text : String)
  deriving DecidableEq

/-- A value in the dictionary of a DataLayout. -/
inductive PyValue (V : Type)
  | item (object : PyItem V)
  | list (objects : List (PyItem V))
  | dict (objects : Dict String (PyItem V))

/-- The dictionary of a DataLayout. -/
abbrev PyDict (V : Type) := Dict (String × String) (PyValue V)

/-! ## The code -/

section Code

variable {V α : Type}

/-- `Py_BuildValue("(s,s)", label.c_str(), type.c_str())`. The names of types are ASCII. -/
def buildKey (label : List UInt8) (type : String) : Except ConversionError (String × String) := do
  return (← pyObjectString label, type)

/-- `pyObject`, of a value of a POD type. -/
def pyObjectPod (v : V) : Except ConversionError (PyItem V) := .ok (.pod v)

/-- `pyObject`, of a string in a container. -/
def pyObjectStr (s : List UInt8) : Except ConversionError (PyItem V) := do
  return .str (← pyObjectString s)

/-- The item that an objector sets in the dictionary, if it sets one. -/
abbrev DictItem (V : Type) := Option ((String × String) × PyValue V)

/-- `DataPieceValuePyObjector`. -/
def dataPieceValuePyObjector (piece : DataPiece V) (elementTypeName : String) (v : V) :
    Except ConversionError (DictItem V) :=
  if piece.isAvailable then do
    let object ← pyObjectPod v
    return some (← buildKey piece.getLabel (typeName elementTypeName ""), .item object)
  else return none

/-- `DataPieceArrayPyObjector` and `DataPieceVectorPyObjector`, which differ in the suffix. -/
def listPyObjector (suffix : String) (pyObject : α → Except ConversionError (PyItem V))
    (piece : DataPiece V) (elementTypeName : String) (values : List α) :
    Except ConversionError (DictItem V) :=
  if piece.isAvailable then do
    let list ← values.mapM pyObject
    return some (← buildKey piece.getLabel (typeName elementTypeName suffix), .list list)
  else return none

/-- `DataPieceArrayPyObjector`. -/
def dataPieceArrayPyObjector :
    DataPiece V → String → List V → Except ConversionError (DictItem V) :=
  listPyObjector "_array" pyObjectPod

/-- `DataPieceVectorPyObjector`. -/
def dataPieceVectorPyObjector (pyObject : α → Except ConversionError (PyItem V)) :
    DataPiece V → String → List α → Except ConversionError (DictItem V) :=
  listPyObjector "_vector" pyObject

/-- The item of the dictionary of a map that an entry is set as. -/
def stringMapItem (T : TextLib) (pyObject : α → Except ConversionError (PyItem V))
    (encoding : String) (iter : List UInt8 × α) :
    Except ConversionError (Option (String × PyItem V)) := do
  return some (← T.unicodeDecode iter.1 encoding, ← pyObject iter.2)

/-- The loop of `DataPieceStringMapPyObjector`. -/
def stringMapDict (T : TextLib) (pyObject : α → Except ConversionError (PyItem V))
    (encoding : String) (values : StringMap α) :
    Except ConversionError (Dict String (PyItem V)) :=
  values.entries.foldlM (fun (newDic : Dict String (PyItem V)) iter => do
    return newDic.setItem? (← stringMapItem T pyObject encoding iter)) ∅

/-- `DataPieceStringMapPyObjector`. -/
def dataPieceStringMapPyObjector (T : TextLib) (pyObject : α → Except ConversionError (PyItem V))
    (encoding : String) (piece : DataPiece V) (elementTypeName : String) (values : StringMap α) :
    Except ConversionError (DictItem V) :=
  if piece.isAvailable then do
    let newDic ← stringMapDict T pyObject encoding values
    return some (← buildKey piece.getLabel (typeName elementTypeName "_string_map"), .dict newDic)
  else return none

/-- `dataLayoutToPyDict`, for one piece: the objector that the registry of its type has for the
type of its elements. -/
def objector (T : TextLib) (encoding : String) (piece : DataPiece V) :
    Except ConversionError (DictItem V) :=
  match piece.content with
  | .value type v =>
    if type ∈ T.podTypes then dataPieceValuePyObjector piece type v else return none
  | .array type values =>
    if type ∈ T.podTypes then dataPieceArrayPyObjector piece type values else return none
  | .vector type values =>
    if type ∈ T.podTypes then dataPieceVectorPyObjector pyObjectPod piece type values
    else return none
  | .vectorOfStrings values => dataPieceVectorPyObjector pyObjectStr piece "string" values
  | .stringMap type values =>
    if type ∈ T.podTypes then
      dataPieceStringMapPyObjector T pyObjectPod encoding piece type values
    else return none
  | .stringMapOfStrings values =>
    dataPieceStringMapPyObjector T pyObjectStr encoding piece "string" values
  | .string value => do
    let text ← T.unicodeDecode value encoding
    return some (← buildKey piece.getLabel "string", .item (.str text))

/-- `forEachDataPiece`, with a callback that sets the item of a piece in `dic`. -/
def forEachDataPiece (dl : List (DataPiece V))
    (callback : DataPiece V → Except ConversionError (DictItem V)) (type : DataPieceType)
    (dic : PyDict V) : Except ConversionError (PyDict V) :=
  (dl.filter fun piece => piece.content.pieceType = type).foldlM
    (fun (dic : PyDict V) piece => do return dic.setItem? (← callback piece)) dic

/-- `dataLayoutToPyDict`. It ends at the first null object, which the code does not look for: what
becomes of a list or a dictionary with such an object in it is left open. -/
def dataLayoutToPyDict (T : TextLib) (dl : List (DataPiece V)) (encoding : String) :
    Except ConversionError (PyDict V) := do
  let dic ← forEachDataPiece dl (objector T encoding) .value ∅
  let dic ← forEachDataPiece dl (objector T encoding) .array dic
  let dic ← forEachDataPiece dl (objector T encoding) .vector dic
  let dic ← forEachDataPiece dl (objector T encoding) .stringMap dic
  forEachDataPiece dl (objector T encoding) .string dic

end Code

/-! ## The order of the pieces -/

section Order

variable {V : Type} {T : TextLib} {dl : List (DataPiece V)} {encoding : String}

/-- The pieces in the order in which their items are set. -/
def inOrder (dl : List (DataPiece V)) : List (DataPiece V) :=
  [DataPieceType.value, .array, .vector, .stringMap, .string].flatMap fun type =>
    dl.filter fun piece => piece.content.pieceType = type

theorem mem_inOrder {piece : DataPiece V} : piece ∈ inOrder dl ↔ piece ∈ dl := by
  unfold inOrder
  rw [List.mem_flatMap]
  constructor
  · rintro ⟨type, -, hpiece⟩
    exact List.mem_of_mem_filter hpiece
  · intro hpiece
    refine ⟨piece.content.pieceType, ?_, List.mem_filter.2 ⟨hpiece, decide_eq_true rfl⟩⟩
    cases piece.content.pieceType <;> decide

/-- **The five passes over the pieces are one, in order.** -/
theorem dataLayoutToPyDict_eq_foldlM : dataLayoutToPyDict T dl encoding =
    (inOrder dl).foldlM
      (fun (dic : PyDict V) piece => do
        return dic.setItem? (← objector T encoding piece)) ∅ := by
  unfold inOrder dataLayoutToPyDict forEachDataPiece
  simp only [List.flatMap_cons, List.flatMap_nil, List.append_nil, List.foldlM_append]

end Order

/-! ## What is set -/

section Items

variable {V α : Type} {T : TextLib} {piece : DataPiece V} {encoding : String}

/-- Whether a piece has an item in the dictionary. -/
def TextLib.sets (T : TextLib) (piece : DataPiece V) : Bool :=
  match piece.content with
  | .value type _ | .array type _ | .vector type _ | .stringMap type _ =>
    piece.isAvailable && type ∈ T.podTypes
  | .vectorOfStrings _ | .stringMapOfStrings _ => piece.isAvailable
  | .string _ => true

/-- What becomes of the content of a piece. -/
def PieceContent.pyValue (T : TextLib) (encoding : String) :
    PieceContent V → Except ConversionError (PyValue V)
  | value _ v => return .item (← pyObjectPod v)
  | array _ values | vector _ values => return .list (← values.mapM pyObjectPod)
  | vectorOfStrings values => return .list (← values.mapM pyObjectStr)
  | stringMap _ values => return .dict (← stringMapDict T pyObjectPod encoding values)
  | stringMapOfStrings values => return .dict (← stringMapDict T pyObjectStr encoding values)
  | string s => return .item (.str (← T.unicodeDecode s encoding))

theorem buildKey_eq_ok_iff {label : List UInt8} {type : String} {key : String × String} :
    buildKey label type = .ok key ↔
      ∃ text, decodeUtf8 (cString label) = some text ∧ key = (text, type) := by
  unfold buildKey
  rw [bind_pure_eq_ok_iff]
  simp only [pyObjectString_eq_ok_iff]

/-- The result of an objector: nothing, if the piece has no item, or else its value under the label
and the type. -/
def IsItem (sets : Bool) (piece : DataPiece V) (type : String)
    (value : Except ConversionError (PyValue V)) (item : DictItem V) : Prop :=
  if sets then
    ∃ label v, decodeUtf8 (cString piece.getLabel) = some label ∧ value = .ok v ∧
      item = some ((label, type), v)
  else item = none

theorem isItem_true_iff {β : Type} {type : String} {object : Except ConversionError β}
    {wrap : β → PyValue V} {item : DictItem V} :
    (do let b ← object; return some (← buildKey piece.getLabel type, wrap b)) = .ok item ↔
      IsItem true piece type (do return wrap (← object)) item := by
  unfold IsItem
  rw [if_pos rfl]
  simp only [bind_eq_ok_iff, buildKey_eq_ok_iff]
  constructor
  · rintro ⟨b, hb, key, ⟨label, hlabel, rfl⟩, ⟨⟩⟩
    exact ⟨label, _, hlabel, ⟨b, hb, rfl⟩, rfl⟩
  · rintro ⟨label, _, hlabel, ⟨b, hb, ⟨⟩⟩, rfl⟩
    exact ⟨b, hb, _, ⟨label, hlabel, rfl⟩, rfl⟩

/-- **The scheme of the objectors**: an object that is set if there is something to set. -/
theorem isItem_iff {β : Type} {sets : Bool} {type : String} {object : Except ConversionError β}
    {wrap : β → PyValue V} {item : DictItem V} :
    (if sets then do let b ← object; return some (← buildKey piece.getLabel type, wrap b)
      else return none) = .ok item ↔
      IsItem sets piece type (do return wrap (← object)) item := by
  cases sets with
  | true => exact isItem_true_iff
  | false => exact ⟨fun h => (Except.ok.inj h).symm, fun h => h ▸ rfl⟩

/-- An objector that the registry may lack. -/
theorem ite_podTypes_eq_ok_iff {elementTypeName type : String}
    {objector : Except ConversionError (DictItem V)}
    {value : Except ConversionError (PyValue V)} {item : DictItem V}
    (h : objector = .ok item ↔ IsItem piece.isAvailable piece type value item) :
    (if elementTypeName ∈ T.podTypes then objector else return none) = .ok item ↔
      IsItem (piece.isAvailable && elementTypeName ∈ T.podTypes) piece type value item := by
  split
  · rename_i hmem
    rwa [decide_eq_true hmem, Bool.and_true]
  · rename_i hmem
    rw [decide_eq_false hmem, Bool.and_false]
    exact ⟨fun h => (Except.ok.inj h).symm, fun h => h ▸ rfl⟩

/-- **What the objector of a piece sets.** -/
theorem objector_eq_ok_iff {item : DictItem V} :
    objector T encoding piece = .ok item ↔
      IsItem (T.sets piece) piece piece.content.pyType (piece.content.pyValue T encoding) item := by
  unfold objector TextLib.sets
  cases piece.content with
  | value type v => exact ite_podTypes_eq_ok_iff isItem_iff
  | array type values => exact ite_podTypes_eq_ok_iff isItem_iff
  | vector type values => exact ite_podTypes_eq_ok_iff isItem_iff
  | vectorOfStrings values => exact isItem_iff
  | stringMap type values => exact ite_podTypes_eq_ok_iff isItem_iff
  | stringMapOfStrings values => exact isItem_iff
  | string s => exact isItem_true_iff

end Items

end Pyvrs
