import Pyvrs.Foundations.Fallible
import Pyvrs.Foundations.Utf8

/-!
# Texts for Python

There are two ways in which a string of C++ becomes one of Python: `pyObject`, which passes it as a
C string, and `unicodeDecode`, which passes it with its length and, in the encoding `utf-8-safe`,
makes it printable when it is not valid. The first may fail, and it cuts the string at a NUL
(`pyObjectString_eq_ok_iff`); the second does neither (`unicodeDecode_utf8Safe_eq_ok_iff`).
-/

namespace Pyvrs

open Foundations

/-- What the texts of vrs are converted with: the names of the POD types of vrs, the codecs of
Python, as `PyUnicode_Decode` applies them without an error handler, and `make_printable` of vrs. -/
structure TextLib where
  podTypes : List String
  codec : (encoding : String) → List UInt8 → Option String
  codec_utf8 : ∀ str, codec "utf-8" str = decodeUtf8 str
  makePrintable : List UInt8 → List UInt8
  zero_notMem_makePrintable : ∀ str, 0 ∉ makePrintable str
  isSome_makePrintable : ∀ str, (decodeUtf8 (makePrintable str)).isSome

/-- How a conversion fails. -/
inductive ConversionError
  /-- A null object, with the error of Python set. -/
  | null
  /-- `error_already_set`, once a message has been logged. -/
  | errorAlreadySet (logged : List UInt8)
  deriving DecidableEq

/-- `typeName`. -/
def typeName (elementTypeName suffix : String) : String :=
  let name := elementTypeName.toList
  let length := name.length
  if length ≥ 2 ∧ name.getLast? = some 't' ∧ name[length - 2]? = some '_' then
    String.ofList (name.take (length - 2)) ++ suffix
  else elementTypeName ++ suffix

/-- `pyObject`, of a string. -/
def pyObjectString (s : List UInt8) : Except ConversionError String :=
  match decodeUtf8 (cString s) with
  | some object => .ok object
  | none => .error .null

/-- The message of a string that does not decode. Every string decodes as `latin1`. -/
def failedToDecode (str : List UInt8) (encoding : String) : List UInt8 :=
  encodeUtf8 "Failed to decode \"" ++ cString str ++
    encodeUtf8 ("\" with encoding \"" ++ encoding ++ "\"." ++
      if str.all (· < 128) then " Try using \"ascii\" for encoding instead."
      else " Try using \"latin1\" for encoding instead.")

namespace TextLib

variable (T : TextLib)

/-- `unicodeDecode`. -/
def unicodeDecode (str : List UInt8) (encoding : String) : Except ConversionError String :=
  if encoding = "utf-8-safe" then
    match T.codec "utf-8" str with
    | some decodedStr => .ok decodedStr
    | none => pyObjectString (T.makePrintable str)
  else
    match T.codec encoding str with
    | some decodedStr => .ok decodedStr
    | none => .error (.errorAlreadySet (failedToDecode str encoding))

/-- The bytes of what a string becomes in the encoding `utf-8-safe`. -/
def printable (str : List UInt8) : List UInt8 :=
  if (decodeUtf8 str).isSome then str else T.makePrintable str

end TextLib

variable {T : TextLib} {str : List UInt8} {text : String}

theorem pyObjectString_eq_ok_iff :
    pyObjectString str = .ok text ↔ decodeUtf8 (cString str) = some text := by
  unfold pyObjectString
  cases decodeUtf8 (cString str) with
  | none => exact ⟨nofun, nofun⟩
  | some object => rw [Except.ok.injEq, Option.some.injEq]

namespace TextLib

theorem printable_of_decodeUtf8 (h : decodeUtf8 str = some text) : T.printable str = str :=
  if_pos (Option.isSome_of_eq_some h)

theorem isSome_decodeUtf8_printable (str : List UInt8) : (decodeUtf8 (T.printable str)).isSome := by
  unfold printable
  split
  · assumption
  · exact T.isSome_makePrintable str

/-- **A string is shown in the encoding `utf-8-safe` as it is, or else printable.** -/
theorem unicodeDecode_utf8Safe_eq_ok_iff :
    T.unicodeDecode str "utf-8-safe" = .ok text ↔ decodeUtf8 (T.printable str) = some text := by
  unfold unicodeDecode
  rw [if_pos rfl, T.codec_utf8]
  cases h : decodeUtf8 str with
  | some decodedStr =>
    rw [printable_of_decodeUtf8 h, h, Except.ok.injEq, Option.some.injEq]
  | none =>
    have hprintable : T.printable str = T.makePrintable str := if_neg (h ▸ nofun)
    show pyObjectString _ = _ ↔ _
    rw [pyObjectString_eq_ok_iff, cString_eq_self_iff.2 (T.zero_notMem_makePrintable str),
      hprintable]

/-- **No string fails to convert in the encoding `utf-8-safe`.** -/
theorem exists_unicodeDecode_utf8Safe (str : List UInt8) :
    ∃ text, T.unicodeDecode str "utf-8-safe" = .ok text := by
  obtain ⟨text, htext⟩ := Option.isSome_iff_exists.1 (T.isSome_decodeUtf8_printable str)
  exact ⟨text, unicodeDecode_utf8Safe_eq_ok_iff.2 htext⟩

end TextLib

end Pyvrs
