import Mathlib.Data.List.TakeWhile

/-!
# Texts in bytes

A text is read from bytes in UTF-8 (`decodeUtf8`), either from all of them or from those up to the
first NUL, as a C string is (`cString`). No two sequences of bytes read the same
(`eq_of_decodeUtf8`). The two ways agree exactly on bytes without NUL (`cString_eq_self_iff`).
-/

namespace Foundations

variable {bytes bytes' : List UInt8} {text : String}

/-- The text that bytes are read as, if they are valid UTF-8. -/
def decodeUtf8 (bytes : List UInt8) : Option String := String.fromUTF8? bytes.toByteArray

/-- The bytes of a text. -/
def encodeUtf8 (text : String) : List UInt8 := text.toList.flatMap String.utf8EncodeChar

/-- The bytes up to the first NUL, all that is left of a string once it is passed by its `c_str`. -/
def cString (bytes : List UInt8) : List UInt8 := bytes.takeWhile (· ≠ 0)

theorem decodeUtf8_eq_some_iff :
    decodeUtf8 bytes = some text ↔ encodeUtf8 text = bytes := by
  have hbytes : (encodeUtf8 text).toByteArray = text.toByteArray := String.utf8Encode_toList
  unfold decodeUtf8 String.fromUTF8?
  rw [← List.toByteArray_inj, hbytes]
  constructor
  · intro h
    split at h
    · cases h
      rfl
    · cases h
  · intro h
    have hvalid : ByteArray.IsValidUTF8 bytes.toByteArray := h ▸ text.isValidUTF8
    rw [dif_pos hvalid, Option.some.injEq]
    exact String.toByteArray_inj.1 h.symm

/-- **A text has one encoding.** -/
theorem eq_of_decodeUtf8 (h : decodeUtf8 bytes = some text) (h' : decodeUtf8 bytes' = some text) :
    bytes = bytes' :=
  (decodeUtf8_eq_some_iff.1 h).symm.trans (decodeUtf8_eq_some_iff.1 h')

theorem decodeUtf8_eq_some_of_ofList {chars : List Char}
    (h : chars.flatMap String.utf8EncodeChar = bytes) :
    decodeUtf8 bytes = some (String.ofList chars) := by
  rw [decodeUtf8_eq_some_iff, encodeUtf8, String.toList_ofList, h]

theorem utf8EncodeChar_ofNat_toNat {b : UInt8} (h : b < 128) :
    String.utf8EncodeChar (Char.ofNat b.toNat) = [b] := by
  have hlt : b.toNat < 128 := h
  have hval : (Char.ofNat b.toNat).val.toNat = b.toNat := by
    unfold Char.ofNat
    rw [dif_pos (Or.inl (by omega))]
    rfl
  unfold String.utf8EncodeChar
  extract_lets v
  rw [if_pos (by omega)]
  exact congrArg (fun b => [b]) ((congrArg UInt8.ofNat hval).trans UInt8.ofNat_toNat)

/-- ASCII is valid. -/
theorem isSome_decodeUtf8_of_forall_lt (h : ∀ b ∈ bytes, b < 128) : (decodeUtf8 bytes).isSome := by
  have hencode : (bytes.map fun b => Char.ofNat b.toNat).flatMap String.utf8EncodeChar = bytes := by
    induction bytes with
    | nil => rfl
    | cons b bytes ih =>
      have hfirst := utf8EncodeChar_ofNat_toNat (h b List.mem_cons_self)
      rw [List.map_cons, List.flatMap_cons, hfirst,
        ih fun b' hb' => h b' (List.mem_cons_of_mem _ hb')]
      rfl
  exact Option.isSome_of_eq_some (decodeUtf8_eq_some_of_ofList hencode)

/-! ## C strings -/

theorem cString_eq_self_iff : cString bytes = bytes ↔ 0 ∉ bytes := by
  unfold cString
  rw [List.takeWhile_eq_self_iff]
  constructor
  · intro h hmem
    exact absurd rfl (of_decide_eq_true (h 0 hmem))
  · intro h b hb
    exact decide_eq_true fun hzero => h (hzero ▸ hb)

end Foundations
