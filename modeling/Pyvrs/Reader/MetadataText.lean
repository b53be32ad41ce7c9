import Pyvrs.Reader.ContentBlocks
import Pyvrs.Reader.DataLayouts

/-!
# The texts of a DataLayout

Which texts of a DataLayout are found in its dictionary, in the encoding `utf-8-safe`. A string is
safe, and so are the keys of a map; the elements of a vector and the values of a map are passed as C
strings, so that they can fail to convert, and are cut at a NUL (`dataLayoutToPyDict_unsafe`). The
texts of a DataLayout are all converted, and completely, exactly if they fit
(`dataLayoutToPyDict_complete_iff`): where no piece and no entry overwrites another, this means that
those strings have no NUL if they are valid, and are valid up to it in any case
(`textsFit_iff_of_distinct`). So it is with the metadata of every record that is read
(`play_complete_iff`).
-/

namespace Pyvrs

open Foundations

variable {V : Type} {T : TextLib}

/-! ## Texts and their places -/

/-- A place for a text in the value of a piece. An entry has the bytes that its key is shown as. -/
inductive TextPlace
  | whole
  | element (i : ℕ)
  | entry (key : List UInt8)
  deriving DecidableEq

/-- The text of an object, if it is a `str`. -/
def PyItem.text? : PyItem V → Option String
  | pod _ => none
  | str text => some text

/-- The text that is found at a place. -/
def PyValue.textAt : PyValue V → TextPlace → Option String
  | item object, .whole => object.text?
  | list objects, .element i => objects[i]?.bind PyItem.text?
  | dict objects, .entry key =>
    (decodeUtf8 key).bind fun key => (objects.lookup key).bind PyItem.text?
  | _, _ => none

/-- The texts that a piece has, in bytes. -/
inductive HasText (T : TextLib) : PieceContent V → TextPlace → List UInt8 → Prop
  | string (s : List UInt8) : HasText T (.string s) .whole s
  | element {values : List (List UInt8)} {i : ℕ} {s : List UInt8} (h : values[i]? = some s) :
    HasText T (.vectorOfStrings values) (.element i) s
  | entry {values : StringMap (List UInt8)} {e : List UInt8 × List UInt8}
      (h : e ∈ values.entries) :
    HasText T (.stringMapOfStrings values) (.entry (T.printable e.1)) e.2

/-- The key of an entry, as it is shown. -/
def TextLib.entryKey {α : Type} (T : TextLib) (e : List UInt8 × α) : Option (List UInt8) :=
  some (T.printable e.1)

/-- The bytes of the texts that a piece shows: a string is printable, an element or a value ends at
its first NUL, and of the entries whose keys are shown alike there is the last. -/
inductive Shows (T : TextLib) : PieceContent V → TextPlace → List UInt8 → Prop
  | string (s : List UInt8) : Shows T (.string s) .whole (T.printable s)
  | element {values : List (List UInt8)} {i : ℕ} {s : List UInt8} (h : values[i]? = some s) :
    Shows T (.vectorOfStrings values) (.element i) (cString s)
  | entry {values : StringMap (List UInt8)} {key : List UInt8} {e : List UInt8 × List UInt8}
      (h : lastSetting T.entryKey values.entries key = some e) :
    Shows T (.stringMapOfStrings values) (.entry key) (cString e.2)

theorem shows_element_iff {values : List (List UInt8)} {i : ℕ} {s : List UInt8} :
    Shows T (.vectorOfStrings values : PieceContent V) (.element i) s ↔
      ∃ s', values[i]? = some s' ∧ cString s' = s := by
  constructor
  · rintro ⟨⟩
    exact ⟨_, ‹_›, rfl⟩
  · rintro ⟨s', hs', rfl⟩
    exact .element hs'

theorem shows_entry_iff {values : StringMap (List UInt8)} {key s : List UInt8} :
    Shows T (.stringMapOfStrings values : PieceContent V) (.entry key) s ↔
      ∃ e, lastSetting T.entryKey values.entries key = some e ∧ cString e.2 = s := by
  constructor
  · rintro ⟨⟩
    exact ⟨_, ‹_›, rfl⟩
  · rintro ⟨e, he, rfl⟩
    exact .entry he

theorem PyItem.text?_eq_some_iff {object : PyItem V} {text : String} :
    object.text? = some text ↔ object = .str text := by
  cases object with
  | pod v => exact ⟨nofun, nofun⟩
  | str text' => exact ⟨fun h => congrArg PyItem.str (Option.some.inj h), fun h => h ▸ rfl⟩

theorem pyObjectStr_eq_ok_iff {s : List UInt8} {object : PyItem V} :
    pyObjectStr s = .ok object ↔
      ∃ text, decodeUtf8 (cString s) = some text ∧ object = .str text := by
  unfold pyObjectStr
  rw [bind_pure_eq_ok_iff]
  simp only [pyObjectString_eq_ok_iff]

theorem exists_pyObjectStr_eq_ok_iff {s : List UInt8} :
    (∃ object, pyObjectStr (V := V) s = .ok object) ↔ (decodeUtf8 (cString s)).isSome := by
  unfold pyObjectStr
  rw [exists_bind_pure_eq_ok_iff, Option.isSome_iff_exists]
  simp only [pyObjectString_eq_ok_iff]

theorem pyObjectStr_eq_ok_str_iff {s : List UInt8} {text : String} :
    pyObjectStr (V := V) s = .ok (.str text) ↔ decodeUtf8 (cString s) = some text := by
  rw [pyObjectStr_eq_ok_iff]
  constructor
  · rintro ⟨_, htext, ⟨⟩⟩
    exact htext
  · exact fun h => ⟨text, h, rfl⟩

/-! ## Lists -/

section Containers

variable {α : Type} {pyObject : α → Except ConversionError (PyItem V)}

theorem textAt_list_eq_some_iff {values : List α} {objects : List (PyItem V)}
    (h : values.mapM pyObject = .ok objects) {i : ℕ} {text : String} :
    (PyValue.list objects).textAt (.element i) = some text ↔
      ∃ a, values[i]? = some a ∧ pyObject a = .ok (.str text) := by
  show objects[i]?.bind PyItem.text? = some text ↔ _
  rw [Option.bind_eq_some_iff]
  simp only [PyItem.text?_eq_some_iff, exists_eq_right, getElem?_of_mapM_eq_ok h,
    Option.map_eq_some_iff]

/-! ## Maps -/

theorem stringMapItem_eq_ok_iff {e : List UInt8 × α} {item : Option (String × PyItem V)} :
    stringMapItem T pyObject "utf-8-safe" e = .ok item ↔ ∃ key object,
      decodeUtf8 (T.printable e.1) = some key ∧ pyObject e.2 = .ok object ∧
        item = some (key, object) := by
  unfold stringMapItem
  simp only [bind_eq_ok_iff, TextLib.unicodeDecode_utf8Safe_eq_ok_iff]
  constructor
  · rintro ⟨key, hkey, object, hobject, ⟨⟩⟩
    exact ⟨key, object, hkey, hobject, rfl⟩
  · rintro ⟨key, object, hkey, hobject, rfl⟩
    exact ⟨key, hkey, object, hobject, rfl⟩

/-- A map converts if its values do. -/
theorem exists_stringMapDict_eq_ok_iff {values : StringMap α} :
    (∃ objects, stringMapDict T pyObject "utf-8-safe" values = .ok objects) ↔
      ∀ e ∈ values.entries, ∃ object, pyObject e.2 = .ok object := by
  unfold stringMapDict
  rw [exists_foldlM_eq_ok_iff]
  refine forall₂_congr fun e _ => ?_
  simp only [stringMapItem_eq_ok_iff]
  constructor
  · rintro ⟨_, _, object, -, hobject, -⟩
    exact ⟨object, hobject⟩
  · rintro ⟨object, hobject⟩
    obtain ⟨key, hkey⟩ := Option.isSome_iff_exists.1 (T.isSome_decodeUtf8_printable e.1)
    exact ⟨_, key, object, hkey, hobject, rfl⟩

/-- Keys that are shown alike are equal. -/
theorem entryKey_eq_some_iff {key : List UInt8} {text : String} (hkey : decodeUtf8 key = some text)
    {e : List UInt8 × α} {item : Option (String × PyItem V)}
    (h : stringMapItem T pyObject "utf-8-safe" e = .ok item) :
    T.entryKey e = some key ↔ item.map Prod.fst = some text := by
  obtain ⟨shown, object, hshown, -, rfl⟩ := stringMapItem_eq_ok_iff.1 h
  rw [TextLib.entryKey, Option.map_some, Option.some.injEq, Option.some.injEq]
  constructor
  · rintro rfl
    exact Option.some.inj (hshown.symm.trans hkey)
  · rintro rfl
    exact eq_of_decodeUtf8 hshown hkey

theorem lookup_eq_some_iff {values : StringMap α} {objects : Dict String (PyItem V)}
    (h : stringMapDict T pyObject "utf-8-safe" values = .ok objects) {key : List UInt8}
    {text : String} (hkey : decodeUtf8 key = some text) {object : PyItem V} :
    objects.lookup text = some object ↔
      ∃ e, lastSetting T.entryKey values.entries key = some e ∧ pyObject e.2 = .ok object := by
  rw [lookup_foldlM_setItem h fun e _ item => entryKey_eq_some_iff hkey]
  refine exists_congr fun e => and_congr_right fun hlast => ?_
  have hshown : T.printable e.1 = key := Option.some.inj (mem_of_lastSetting hlast).2
  rw [stringMapItem_eq_ok_iff, hshown]
  constructor
  · rintro ⟨_, _, -, hobject, ⟨⟩⟩
    exact hobject
  · exact fun hobject => ⟨text, object, hkey, hobject, rfl⟩

theorem textAt_dict_eq_some_iff {values : StringMap α} {objects : Dict String (PyItem V)}
    (h : stringMapDict T pyObject "utf-8-safe" values = .ok objects) {key : List UInt8}
    {text : String} :
    (PyValue.dict objects).textAt (.entry key) = some text ↔
      ∃ e, lastSetting T.entryKey values.entries key = some e ∧
        pyObject e.2 = .ok (.str text) := by
  show ((decodeUtf8 key).bind fun key => (objects.lookup key).bind PyItem.text?) = some text ↔ _
  simp only [Option.bind_eq_some_iff, PyItem.text?_eq_some_iff, exists_eq_right]
  constructor
  · rintro ⟨shown, hshown, hlookup⟩
    exact (lookup_eq_some_iff h hshown).1 hlookup
  · rintro ⟨e, hlast, hobject⟩
    have hkey : T.printable e.1 = key := Option.some.inj (mem_of_lastSetting hlast).2
    obtain ⟨shown, hshown⟩ := Option.isSome_iff_exists.1 (T.isSome_decodeUtf8_printable e.1)
    rw [hkey] at hshown
    exact ⟨shown, hshown, (lookup_eq_some_iff h hshown).2 ⟨e, hlast, hobject⟩⟩

end Containers

/-! ## Pieces -/

variable {content : PieceContent V} {value : PyValue V} {place : TextPlace} {s : List UInt8}
  {text : String}

/-- The strings that are passed as C strings. -/
def PieceContent.cStrings : PieceContent V → List (List UInt8)
  | vectorOfStrings values => values
  | stringMapOfStrings values => values.entries.map Prod.snd
  | _ => []

/-- **What a piece converts to, if it does**: everything else converts in any case. -/
theorem exists_pyValue_eq_ok_iff :
    (∃ value, content.pyValue T "utf-8-safe" = .ok value) ↔
      ∀ s ∈ content.cStrings, (decodeUtf8 (cString s)).isSome := by
  have hpod : ∀ v : V, ∃ object, pyObjectPod v = .ok object := fun v => ⟨_, rfl⟩
  have hnil : ∀ s ∈ ([] : List (List UInt8)), (decodeUtf8 (cString s)).isSome :=
    fun s hs => absurd hs List.not_mem_nil
  cases content with
  | value type v => exact iff_of_true (exists_bind_pure_eq_ok_iff.2 (hpod v)) hnil
  | array type values =>
    refine iff_of_true (exists_bind_pure_eq_ok_iff.2 ?_) hnil
    exact exists_mapM_eq_ok_iff.2 fun v _ => hpod v
  | vector type values =>
    refine iff_of_true (exists_bind_pure_eq_ok_iff.2 ?_) hnil
    exact exists_mapM_eq_ok_iff.2 fun v _ => hpod v
  | vectorOfStrings values =>
    refine exists_bind_pure_eq_ok_iff.trans (exists_mapM_eq_ok_iff.trans ?_)
    exact forall₂_congr fun s _ => exists_pyObjectStr_eq_ok_iff
  | stringMap type values =>
    refine iff_of_true (exists_bind_pure_eq_ok_iff.2 ?_) hnil
    exact exists_stringMapDict_eq_ok_iff.2 fun e _ => hpod e.2
  | stringMapOfStrings values =>
    refine exists_bind_pure_eq_ok_iff.trans (exists_stringMapDict_eq_ok_iff.trans ?_)
    show _ ↔ ∀ s ∈ values.entries.map Prod.snd, _
    rw [List.forall_mem_map]
    exact forall₂_congr fun e _ => exists_pyObjectStr_eq_ok_iff
  | string s =>
    refine iff_of_true (exists_bind_pure_eq_ok_iff.2 ?_) hnil
    exact T.exists_unicodeDecode_utf8Safe s

/-- An object that is made of a value of a POD type is no `str`. -/
theorem pyObjectPod_ne_str (v : V) : pyObjectPod v ≠ .ok (.str text) := nofun

theorem textAt_list_pod_ne {values : List V} {objects : List (PyItem V)}
    (h : values.mapM pyObjectPod = .ok objects) :
    (PyValue.list objects).textAt place ≠ some text := by
  cases place with
  | whole => exact nofun
  | element i =>
    rw [Ne, textAt_list_eq_some_iff h]
    rintro ⟨v, -, hv⟩
    exact pyObjectPod_ne_str v hv
  | entry key => exact nofun

theorem textAt_dict_pod_ne {values : StringMap V} {objects : Dict String (PyItem V)}
    (h : stringMapDict T pyObjectPod "utf-8-safe" values = .ok objects) :
    (PyValue.dict objects).textAt place ≠ some text := by
  cases place with
  | whole => exact nofun
  | element i => exact nofun
  | entry key =>
    rw [Ne, textAt_dict_eq_some_iff h]
    rintro ⟨e, -, he⟩
    exact pyObjectPod_ne_str e.2 he

section Valid

variable (hs : decodeUtf8 s = some text)

include hs

theorem pyObjectStr_eq_ok_str_iff_cString {s' : List UInt8} :
    pyObjectStr (V := V) s' = .ok (.str text) ↔ cString s' = s := by
  rw [pyObjectStr_eq_ok_str_iff]
  exact ⟨fun h => eq_of_decodeUtf8 h hs, fun h => h ▸ hs⟩

theorem textAt_list_str_eq_some_iff {values : List (List UInt8)} {objects : List (PyItem V)}
    (h : values.mapM pyObjectStr = .ok objects) :
    (PyValue.list objects).textAt place = some text ↔
      Shows T (.vectorOfStrings values : PieceContent V) place s := by
  cases place with
  | whole => exact ⟨nofun, nofun⟩
  | element i =>
    rw [textAt_list_eq_some_iff h, shows_element_iff]
    simp only [pyObjectStr_eq_ok_str_iff_cString hs]
  | entry key => exact ⟨nofun, nofun⟩

theorem textAt_dict_str_eq_some_iff {values : StringMap (List UInt8)}
    {objects : Dict String (PyItem V)}
    (h : stringMapDict T pyObjectStr "utf-8-safe" values = .ok objects) :
    (PyValue.dict objects).textAt place = some text ↔
      Shows T (.stringMapOfStrings values : PieceContent V) place s := by
  cases place with
  | whole => exact ⟨nofun, nofun⟩
  | element i => exact ⟨nofun, nofun⟩
  | entry key =>
    rw [textAt_dict_eq_some_iff h, shows_entry_iff]
    simp only [pyObjectStr_eq_ok_str_iff_cString hs]

theorem textAt_str_eq_some_iff {s' : List UInt8} {text' : String}
    (h : T.unicodeDecode s' "utf-8-safe" = .ok text') :
    (PyValue.item (.str text') : PyValue V).textAt place = some text ↔
      Shows T (.string s' : PieceContent V) place s := by
  rw [TextLib.unicodeDecode_utf8Safe_eq_ok_iff] at h
  cases place with
  | whole =>
    show some text' = some text ↔ _
    rw [← h]
    constructor
    · intro htext
      rw [eq_of_decodeUtf8 hs htext]
      exact .string s'
    · rintro ⟨⟩
      exact hs
  | element i => exact ⟨nofun, nofun⟩
  | entry key => exact ⟨nofun, nofun⟩

/-- **The texts of a value are what its piece shows.** -/
theorem textAt_eq_some_iff (h : content.pyValue T "utf-8-safe" = .ok value) :
    value.textAt place = some text ↔ Shows T content place s := by
  cases content with
  | value type v =>
    obtain ⟨_, ⟨⟩, rfl⟩ := bind_pure_eq_ok_iff.1 h
    cases place <;> exact ⟨nofun, nofun⟩
  | array type values =>
    obtain ⟨objects, hobjects, rfl⟩ := bind_pure_eq_ok_iff.1 h
    exact iff_of_false (textAt_list_pod_ne hobjects) nofun
  | vector type values =>
    obtain ⟨objects, hobjects, rfl⟩ := bind_pure_eq_ok_iff.1 h
    exact iff_of_false (textAt_list_pod_ne hobjects) nofun
  | vectorOfStrings values =>
    obtain ⟨objects, hobjects, rfl⟩ := bind_pure_eq_ok_iff.1 h
    exact textAt_list_str_eq_some_iff hs hobjects
  | stringMap type values =>
    obtain ⟨objects, hobjects, rfl⟩ := bind_pure_eq_ok_iff.1 h
    exact iff_of_false (textAt_dict_pod_ne hobjects) nofun
  | stringMapOfStrings values =>
    obtain ⟨objects, hobjects, rfl⟩ := bind_pure_eq_ok_iff.1 h
    exact textAt_dict_str_eq_some_iff hs hobjects
  | string s' =>
    obtain ⟨text', htext', rfl⟩ := bind_pure_eq_ok_iff.1 h
    exact textAt_str_eq_some_iff hs htext'

end Valid

/-! ## DataLayouts -/

section DataLayouts

variable {dl : List (DataPiece V)} {piece : DataPiece V} {dic : PyDict V}

/-- The key under which a piece sets its item, if it has one: the label, as it is shown, and the
type. -/
def TextLib.itemKey (T : TextLib) (piece : DataPiece V) : Option (List UInt8 × String) :=
  if T.sets piece then some (cString piece.getLabel, piece.content.pyType) else none

/-- **The texts of a DataLayout are complete in a dictionary**: every text that is valid UTF-8 is
found at its place, under the label and the type of its piece. -/
def TextLib.Complete (T : TextLib) (dl : List (DataPiece V)) (dic : PyDict V) : Prop :=
  ∀ piece ∈ dl, T.sets piece → ∀ place s text, HasText T piece.content place s →
    decodeUtf8 s = some text → ∃ label value,
      decodeUtf8 (cString piece.getLabel) = some label ∧
      dic.lookup (label, piece.content.pyType) = some value ∧ value.textAt place = some text

/-- The DataLayouts whose texts are safe. -/
structure TextLib.TextsFit (T : TextLib) (dl : List (DataPiece V)) : Prop where
  labels : ∀ piece ∈ dl, T.sets piece → (decodeUtf8 (cString piece.getLabel)).isSome
  cStrings : ∀ piece ∈ dl, T.sets piece → ∀ s ∈ piece.content.cStrings,
    (decodeUtf8 (cString s)).isSome
  /-- Of the pieces with one key, the last shows the texts of each. -/
  shown : ∀ piece ∈ dl, T.sets piece → ∀ place s, HasText T piece.content place s →
    (decodeUtf8 s).isSome → ∀ last,
      lastSetting T.itemKey (inOrder dl) (cString piece.getLabel, piece.content.pyType) =
        some last →
      Shows T last.content place s

theorem itemKey_of_sets (h : T.sets piece) :
    T.itemKey piece = some (cString piece.getLabel, piece.content.pyType) :=
  if_pos h

theorem itemKey_eq_some_iff_sets {key : List UInt8 × String} : T.itemKey piece = some key ↔
    T.sets piece ∧ cString piece.getLabel = key.1 ∧ piece.content.pyType = key.2 := by
  unfold TextLib.itemKey
  rw [Option.ite_none_right_eq_some, Option.some.injEq, Prod.ext_iff]

/-- The keys of the items are those of the pieces. -/
theorem itemKey_eq_some_iff {encoding : String} {shown : List UInt8} {label type : String}
    (hlabel : decodeUtf8 shown = some label) {item : DictItem V}
    (h : objector T encoding piece = .ok item) :
    T.itemKey piece = some (shown, type) ↔ item.map Prod.fst = some (label, type) := by
  rw [objector_eq_ok_iff] at h
  unfold TextLib.itemKey
  unfold IsItem at h
  split at h
  · rename_i hsets
    obtain ⟨label', value, hlabel', -, rfl⟩ := h
    rw [if_pos hsets, Option.map_some, Option.some.injEq, Option.some.injEq, Prod.mk.injEq,
      Prod.mk.injEq]
    refine and_congr_left fun _ => ⟨?_, ?_⟩
    · rintro rfl
      exact Option.some.inj (hlabel'.symm.trans hlabel)
    · rintro rfl
      exact eq_of_decodeUtf8 hlabel' hlabel
  · rename_i hsets
    subst h
    rw [if_neg hsets]
    exact ⟨nofun, nofun⟩

/-- **A key has the value of the last piece that sets it.** -/
theorem lookup_dataLayoutToPyDict {encoding : String}
    (h : dataLayoutToPyDict T dl encoding = .ok dic) {shown : List UInt8} {label type : String}
    (hlabel : decodeUtf8 shown = some label) {value : PyValue V} :
    dic.lookup (label, type) = some value ↔ ∃ last,
      lastSetting T.itemKey (inOrder dl) (shown, type) = some last ∧
        last.content.pyValue T encoding = .ok value := by
  rw [dataLayoutToPyDict_eq_foldlM] at h
  rw [lookup_foldlM_setItem h fun piece _ item => itemKey_eq_some_iff hlabel]
  refine exists_congr fun last => and_congr_right fun hlast => ?_
  obtain ⟨hsets, hshown, htype⟩ := itemKey_eq_some_iff_sets.1 (mem_of_lastSetting hlast).2
  rw [objector_eq_ok_iff, IsItem, if_pos hsets, hshown, hlabel, htype]
  constructor
  · rintro ⟨_, _, ⟨⟩, hvalue, ⟨⟩⟩
    exact hvalue
  · exact fun hvalue => ⟨label, value, rfl, hvalue, rfl⟩

/-- A DataLayout converts if the labels and the contents of its pieces do. -/
theorem exists_dataLayoutToPyDict_iff {encoding : String} :
    (∃ dic, dataLayoutToPyDict T dl encoding = .ok dic) ↔
      ∀ piece ∈ dl, T.sets piece → (decodeUtf8 (cString piece.getLabel)).isSome ∧
        ∃ value, piece.content.pyValue T encoding = .ok value := by
  rw [dataLayoutToPyDict_eq_foldlM, exists_foldlM_eq_ok_iff]
  simp only [mem_inOrder]
  refine forall₂_congr fun piece _ => ?_
  rw [Option.isSome_iff_exists]
  simp only [objector_eq_ok_iff, IsItem]
  split
  · rename_i hsets
    constructor
    · rintro ⟨_, label, value, hlabel, hvalue, -⟩ -
      exact ⟨⟨label, hlabel⟩, value, hvalue⟩
    · intro h
      obtain ⟨⟨label, hlabel⟩, value, hvalue⟩ := h hsets
      exact ⟨_, label, value, hlabel, hvalue, rfl⟩
  · rename_i hsets
    exact ⟨fun _ h => absurd h hsets, fun _ => ⟨none, rfl⟩⟩

/-- Of the contents, the strings that are passed as C strings may fail to convert. -/
theorem exists_dataLayoutToPyDict_eq_ok_iff :
    (∃ dic, dataLayoutToPyDict T dl "utf-8-safe" = .ok dic) ↔
      ∀ piece ∈ dl, T.sets piece → (decodeUtf8 (cString piece.getLabel)).isSome ∧
        ∀ s ∈ piece.content.cStrings, (decodeUtf8 (cString s)).isSome := by
  simp only [exists_dataLayoutToPyDict_iff, exists_pyValue_eq_ok_iff]

/-- Texts that are converted completely fit. -/
theorem textsFit_of_complete (h : dataLayoutToPyDict T dl "utf-8-safe" = .ok dic)
    (hcomplete : T.Complete dl dic) : T.TextsFit dl := by
  have hconverts := exists_dataLayoutToPyDict_eq_ok_iff.1 ⟨dic, h⟩
  refine ⟨fun piece hpiece hsets => (hconverts piece hpiece hsets).1,
    fun piece hpiece hsets => (hconverts piece hpiece hsets).2, ?_⟩
  intro piece hpiece hsets place s hs hvalid last hlast
  obtain ⟨text, htext⟩ := Option.isSome_iff_exists.1 hvalid
  obtain ⟨label, value, hlabel, hlookup, hat⟩ := hcomplete piece hpiece hsets place s text hs htext
  obtain ⟨last', hlast', hvalue⟩ := (lookup_dataLayoutToPyDict h hlabel).1 hlookup
  obtain rfl : last' = last := Option.some.inj (hlast'.symm.trans hlast)
  exact (textAt_eq_some_iff htext hvalue).1 hat

/-- Texts that fit are converted completely. -/
theorem exists_complete_of_textsFit (h : T.TextsFit dl) :
    ∃ dic, dataLayoutToPyDict T dl "utf-8-safe" = .ok dic ∧ T.Complete dl dic := by
  obtain ⟨dic, hdic⟩ := exists_dataLayoutToPyDict_eq_ok_iff.2 fun piece hpiece hsets =>
    ⟨h.labels piece hpiece hsets, h.cStrings piece hpiece hsets⟩
  refine ⟨dic, hdic, fun piece hpiece hsets place s text hs htext => ?_⟩
  obtain ⟨label, hlabel⟩ := Option.isSome_iff_exists.1 (h.labels piece hpiece hsets)
  obtain ⟨last, hlast⟩ := exists_lastSetting (mem_inOrder.2 hpiece) (itemKey_of_sets hsets)
  obtain ⟨hmem, hkey⟩ := mem_of_lastSetting hlast
  have hsetsLast := (itemKey_eq_some_iff_sets.1 hkey).1
  obtain ⟨value, hvalue⟩ := exists_pyValue_eq_ok_iff.2
    (h.cStrings last (mem_inOrder.1 hmem) hsetsLast)
  have hshows := h.shown piece hpiece hsets place s hs (Option.isSome_of_eq_some htext) last hlast
  have hlookup := (lookup_dataLayoutToPyDict hdic hlabel).2 ⟨last, hlast, hvalue⟩
  exact ⟨label, value, hlabel, hlookup, (textAt_eq_some_iff htext hvalue).2 hshows⟩

/-- **`dataLayoutToPyDict` converts every text, and completely, exactly when the texts fit.** -/
theorem dataLayoutToPyDict_complete_iff :
    (∃ dic, dataLayoutToPyDict T dl "utf-8-safe" = .ok dic ∧ T.Complete dl dic) ↔
      T.TextsFit dl :=
  ⟨fun ⟨_, hdic, hcomplete⟩ => textsFit_of_complete hdic hcomplete, exists_complete_of_textsFit⟩

/-! ## A vector of strings -/

/-- A library in which every byte that does not print is replaced by a question mark. -/
def questionMarkLib : TextLib where
  podTypes := ["Bool", "double", "int32_t"]
  codec encoding str := if encoding = "utf-8" then decodeUtf8 str else none
  codec_utf8 str := if_pos rfl
  makePrintable str := str.map fun b => if 32 ≤ b ∧ b < 127 then b else 63
  zero_notMem_makePrintable str := by
    rw [List.mem_map]
    rintro ⟨b, -, hb⟩
    split at hb
    · rename_i hprints
      rw [hb] at hprints
      exact absurd hprints.1 (by decide)
    · cases hb
  isSome_makePrintable str := by
    refine isSome_decodeUtf8_of_forall_lt fun b hb => ?_
    obtain ⟨b', -, rfl⟩ := List.mem_map.1 hb
    split
    · rename_i hprints
      exact UInt8.lt_trans hprints.2 (by decide)
    · decide

/-- A vector of one string, under the label `names`. -/
def vectorOfOne (s : List UInt8) : List (DataPiece ℕ) :=
  [⟨[110, 97, 109, 101, 115], true, .vectorOfStrings [s]⟩]

/-- **A vector of strings is not safe**: of the strings `"\xff"` and `"a\0b"`, the first does not
convert, and the second is cut. -/
theorem dataLayoutToPyDict_unsafe :
    (¬ ∃ dic, dataLayoutToPyDict questionMarkLib (vectorOfOne [255]) "utf-8-safe" = .ok dic) ∧
    ¬ ∃ dic,
      dataLayoutToPyDict questionMarkLib (vectorOfOne [97, 0, 98]) "utf-8-safe" = .ok dic ∧
        questionMarkLib.Complete (vectorOfOne [97, 0, 98]) dic := by
  constructor
  · rintro ⟨dic, hdic⟩
    have hfail : (dataLayoutToPyDict questionMarkLib (vectorOfOne [255]) "utf-8-safe").isOk =
      false := by decide +kernel
    rw [hdic] at hfail
    cases hfail
  · rintro ⟨dic, hdic, hcomplete⟩
    have hcut : (dataLayoutToPyDict questionMarkLib (vectorOfOne [97, 0, 98]) "utf-8-safe").map
        (fun dic => (dic.lookup ("names", "string_vector")).bind fun value =>
          value.textAt (.element 0)) = .ok (some "a") := by decide +kernel
    have hlabel : decodeUtf8 (cString [110, 97, 109, 101, 115]) = some "names" := by
      decide +kernel
    have htext : decodeUtf8 [97, 0, 98] = some "a\x00b" := by decide +kernel
    obtain ⟨label, value, hlabel', hlookup, hat⟩ :=
      hcomplete _ List.mem_cons_self rfl _ _ _ (.element (i := 0) rfl) htext
    cases hlabel.symm.trans hlabel'
    have htype : typeName "string" "_vector" = "string_vector" := by decide +kernel
    rw [hdic, ← htype] at hcut
    have hcut' : (dic.lookup ("names", typeName "string" "_vector")).bind (fun value =>
        value.textAt (.element 0)) = some "a" := Except.ok.inj hcut
    have hlookup' : dic.lookup ("names", typeName "string" "_vector") = some value := hlookup
    rw [hlookup', Option.bind_some, hat] at hcut'
    exact absurd hcut' (by decide)

/-! ## When nothing is overwritten -/

theorem hasText_of_mem_cStrings {content : PieceContent V} {s : List UInt8}
    (h : s ∈ content.cStrings) : ∃ place, HasText T content place s := by
  cases content with
  | vectorOfStrings values =>
    obtain ⟨i, hi⟩ := List.mem_iff_getElem?.1 h
    exact ⟨_, .element hi⟩
  | stringMapOfStrings values =>
    obtain ⟨e, he, rfl⟩ := List.mem_map.1 h
    exact ⟨_, .entry he⟩
  | value | array | vector | stringMap | string => exact absurd h List.not_mem_nil

/-- A piece whose keys are valid shows those of its valid texts that are not cut. -/
theorem shows_iff_of_hasText {content : PieceContent V} {place : TextPlace} {s : List UInt8}
    (hkeys : ∀ values, content = .stringMapOfStrings values →
      ∀ e ∈ values.entries, (decodeUtf8 e.1).isSome)
    (h : HasText T content place s) (hs : (decodeUtf8 s).isSome) :
    Shows T content place s ↔ (s ∈ content.cStrings → 0 ∉ s) := by
  rw [← cString_eq_self_iff]
  cases h with
  | string =>
    obtain ⟨text, htext⟩ := Option.isSome_iff_exists.1 hs
    have hshows : Shows T (.string s : PieceContent V) .whole (T.printable s) := .string s
    rw [TextLib.printable_of_decodeUtf8 htext] at hshows
    exact iff_of_true hshows fun h => absurd h List.not_mem_nil
  | @element values i _ hi =>
    have hmem : s ∈ (PieceContent.vectorOfStrings (V := V) values).cStrings :=
      List.mem_of_getElem? hi
    rw [shows_element_iff, hi, imp_iff_right hmem]
    simp only [Option.some.injEq, exists_eq_left']
  | @entry values e he =>
    have hmem : e.2 ∈ (PieceContent.stringMapOfStrings (V := V) values).cStrings :=
      List.mem_map_of_mem he
    have hlast : lastSetting T.entryKey values.entries (T.printable e.1) = some e := by
      have hkey : T.entryKey e = some (T.printable e.1) := rfl
      obtain ⟨last, hlast⟩ := exists_lastSetting he hkey
      obtain ⟨hlastMem, hshown⟩ := mem_of_lastSetting hlast
      obtain ⟨text, htext⟩ := Option.isSome_iff_exists.1 (hkeys values rfl e he)
      obtain ⟨text', htext'⟩ := Option.isSome_iff_exists.1 (hkeys values rfl last hlastMem)
      have heq : T.printable last.1 = T.printable e.1 := Option.some.inj hshown
      rw [TextLib.printable_of_decodeUtf8 htext, TextLib.printable_of_decodeUtf8 htext'] at heq
      rw [hlast, values.eq_of_mem_of_fst_eq hlastMem he heq]
    rw [shows_entry_iff, hlast, imp_iff_right hmem]
    simp only [Option.some.injEq, exists_eq_left']

/-- **Where nothing is overwritten, the texts fit when they have no NUL**: the pieces have keys of
their own, and so have the entries of a map, whose keys are valid. -/
theorem textsFit_iff_of_distinct
    (hpieces : ∀ piece ∈ dl, ∀ piece' ∈ dl, T.sets piece →
      T.itemKey piece' = T.itemKey piece → piece'.content = piece.content)
    (hkeys : ∀ piece ∈ dl, ∀ values, piece.content = .stringMapOfStrings values →
      ∀ e ∈ values.entries, (decodeUtf8 e.1).isSome) :
    T.TextsFit dl ↔ ∀ piece ∈ dl, T.sets piece →
      (decodeUtf8 (cString piece.getLabel)).isSome ∧ ∀ s ∈ piece.content.cStrings,
        (decodeUtf8 (cString s)).isSome ∧ ((decodeUtf8 s).isSome → 0 ∉ s) := by
  have hlastContent : ∀ piece ∈ dl, T.sets piece → ∀ last,
      lastSetting T.itemKey (inOrder dl) (cString piece.getLabel, piece.content.pyType) =
        some last → last.content = piece.content := by
    intro piece hpiece hsets last hlast
    obtain ⟨hmem, hkey⟩ := mem_of_lastSetting hlast
    exact hpieces piece hpiece last (mem_inOrder.1 hmem) hsets
      (hkey.trans (itemKey_of_sets hsets).symm)
  constructor
  · intro h piece hpiece hsets
    refine ⟨h.labels piece hpiece hsets, fun s hs =>
      ⟨h.cStrings piece hpiece hsets s hs, fun hvalid => ?_⟩⟩
    obtain ⟨place, hplace⟩ := hasText_of_mem_cStrings (T := T) hs
    obtain ⟨last, hlast⟩ := exists_lastSetting (mem_inOrder.2 hpiece) (itemKey_of_sets hsets)
    have hshows := h.shown piece hpiece hsets place s hplace hvalid last hlast
    rw [hlastContent piece hpiece hsets last hlast] at hshows
    exact (shows_iff_of_hasText (hkeys piece hpiece) hplace hvalid).1 hshows hs
  · intro h
    refine ⟨fun piece hpiece hsets => (h piece hpiece hsets).1,
      fun piece hpiece hsets s hs => ((h piece hpiece hsets).2 s hs).1, ?_⟩
    intro piece hpiece hsets place s hplace hvalid last hlast
    rw [hlastContent piece hpiece hsets last hlast, shows_iff_of_hasText (hkeys piece hpiece) hplace
      hvalid]
    exact fun hs => ((h piece hpiece hsets).2 s hs).2 hvalid

end DataLayouts

/-! ## Records -/

/-- The library with DataLayouts that are made of pieces. A conversion that fails leaves its error
in the place of the dictionary. -/
abbrev libWithPieces (L : VrsLib) (T : TextLib) (V : Type)
    (captureNormalizeOptionsConfig : StreamId → List (DataPiece V) → L.NormalizeOptionsConfig) :
    VrsLib :=
  { L with
    DataLayout := List (DataPiece V)
    PyDict := Except ConversionError (PyDict V)
    dataLayoutToPyDict := dataLayoutToPyDict T
    captureNormalizeOptionsConfig }

/-- **The metadata of a record is safe**: in the encoding `utf-8-safe`, the DataLayouts of a record
that is read are added to the cache as dictionaries with all their texts, complete, if and only if
the texts of each fit. -/
theorem play_complete_iff {L : VrsLib}
    {capture : StreamId → List (DataPiece V) → L.NormalizeOptionsConfig}
    {settings : PlayerSettings} (hencoding : settings.encoding = "utf-8-safe")
    (record : CurrentRecord) (st : Playing (libWithPieces L T V capture))
    (cs : List (Callback (libWithPieces L T V capture))) :
    let dls : List (List (DataPiece V)) := (visited settings cs).filterMap Callback.dataLayout?
    (∃ dics : List (PyDict V), (st.play settings record cs).cache.datalayoutBlocks =
        st.cache.datalayoutBlocks ++ dics.map Except.ok ∧ List.Forall₂ T.Complete dls dics) ↔
      ∀ dl ∈ dls, T.TextsFit dl := by
  intro dls
  have hplay : (st.play settings record cs).cache.datalayoutBlocks =
      st.cache.datalayoutBlocks ++ dls.map fun dl => dataLayoutToPyDict T dl "utf-8-safe" := by
    rw [Playing.datalayoutBlocks_play, dict_readBlocks, hencoding]
  rw [hplay]
  simp only [List.append_cancel_left_eq]
  rw [exists_map_eq_ok_forall₂_iff]
  exact forall₂_congr fun dl _ =>
    ⟨fun ⟨_, hdic, hcomplete⟩ => textsFit_of_complete hdic hcomplete, exists_complete_of_textsFit⟩

end Pyvrs
