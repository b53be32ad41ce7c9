import Mathlib.Data.Prod.Lex
import Pyvrs.Foundations.Bisect
import Pyvrs.Reader.VRSReader

/-!
# Seeking a time

`gotoTime` looks for its timestamp with a binary search for a record that has this timestamp and is
otherwise a new one, whose stream comes after the streams there are. Records compare by timestamp,
then by stream and place in the file, so that the records at exactly this timestamp are before the
one searched for, unless their streams are not (`below_iff`). So the cursor is moved to the first
record at or after the timestamp if and only if there is no such record at it
(`gotoTime_iff`).
-/

namespace Pyvrs

open Foundations

/-! ## The order of records -/

/-- What `operator<` compares of a record: its timestamp, then its stream and its offset in the
file. -/
structure RecordKey where
  timestamp : Timestamp
  place : ℕ ×ₗ ℕ ×ₗ ℤ

namespace RecordKey

/-- `operator<`. -/
def lt (a b : RecordKey) : Prop :=
  a.timestamp < b.timestamp ∨ a.timestamp ≤ b.timestamp ∧ a.place < b.place

/-- The order that `operator<` is the strict part of. -/
def le (a b : RecordKey) : Prop :=
  a.timestamp < b.timestamp ∨ a.timestamp ≤ b.timestamp ∧ a.place ≤ b.place

instance : DecidableRel lt := fun a b =>
  inferInstanceAs (Decidable (a.timestamp < b.timestamp ∨
    a.timestamp ≤ b.timestamp ∧ a.place < b.place))

instance : DecidableRel le := fun a b =>
  inferInstanceAs (Decidable (a.timestamp < b.timestamp ∨
    a.timestamp ≤ b.timestamp ∧ a.place ≤ b.place))

variable {a b c : RecordKey}

theorem le.timestamp_le (h : a.le b) : a.timestamp ≤ b.timestamp := by
  rcases h with h | ⟨h, -⟩
  · exact WithNaN.le_of_lt h
  · exact h

theorem lt.timestamp_le (h : a.lt b) : a.timestamp ≤ b.timestamp :=
  le.timestamp_le (h.imp_right fun ⟨hle, hplace⟩ => ⟨hle, hplace.le⟩)

/-- What comes before a record comes before all that it precedes. -/
theorem le.trans_lt (hab : a.le b) (hbc : b.lt c) : a.lt c := by
  rcases hbc with hbc | ⟨hbc, hplace⟩
  · exact .inl (WithNaN.lt_of_le_of_lt hab.timestamp_le hbc)
  · rcases hab with hab | ⟨hab, hplace'⟩
    · exact .inl (WithNaN.lt_of_lt_of_le hab hbc)
    · exact .inr ⟨WithNaN.le_trans hab hbc, hplace'.trans_lt hplace⟩

end RecordKey

/-- The key of a record at an offset. -/
def RecordInfo.key (record : RecordInfo) (fileOffset : ℤ) : RecordKey :=
  ⟨record.timestamp, toLex (record.streamId.typeId, toLex (record.streamId.instanceId, fileOffset))⟩

/-- The place of a new `RecordInfo`: the stream `(UNDEFINED, 0)`, and no offset. -/
def newPlace : ℕ ×ₗ ℕ ×ₗ ℤ := toLex (65535, toLex (0, 0))

/-! ## The search -/

namespace OssVRSReader

variable {L : VrsLib} (F : RecordFileReader L) (fileOffset : ℕ → ℤ) (reader : OssVRSReader L)
  (timestamp : Timestamp)

/-- The record at a position is before the one that `gotoTime` searches for. -/
def below (i : ℕ) : Bool :=
  F.index[i]?.any fun record => (record.key (fileOffset i)).lt ⟨timestamp, newPlace⟩

/-- `gotoTime`, with the offset of each record in its file. -/
def gotoTime : Except PyError RecordInfoDict × OssVRSReader L :=
  getNextRecordInfo F
    { reader with nextRecordIndex := partitionPoint (below F fileOffset timestamp) F.index.length }
    "No record found for given time"

/-- The index is sorted. -/
def IsSorted : Prop :=
  ∀ i j (a b : RecordInfo), i < j → F.index[i]? = some a → F.index[j]? = some b →
    (a.key (fileOffset i)).le (b.key (fileOffset j))

/-- The positions of the records at or after a timestamp. -/
def atOrAfter : Set ℕ :=
  {i | ∃ record : RecordInfo, F.index[i]? = some record ∧ timestamp ≤ record.timestamp}

/-- A seek moves the cursor to the first record at or after the timestamp, and returns its
information; it raises `IndexError`, with the cursor at the end, if there is none. -/
def MeetsSeek (result : Except PyError RecordInfoDict × OssVRSReader L) : Prop :=
  match result.1 with
  | .ok info => IsLeast (atOrAfter F timestamp) result.2.nextRecordIndex ∧
      ∃ record, F.index[result.2.nextRecordIndex]? = some record ∧
        info = getRecordInfo F record result.2.nextRecordIndex
  | .error e => e.kind = .indexError ∧ atOrAfter F timestamp = ∅ ∧
      result.2.nextRecordIndex = F.index.length

/-- The timestamps are numbers, and a record at the one sought does not come before a new one. -/
def SeekFits : Prop :=
  ∀ i (record : RecordInfo), F.index[i]? = some record → timestamp.IsNum ∧ record.timestamp.IsNum ∧
    ¬(record.timestamp = timestamp ∧ (record.key (fileOffset i)).place < newPlace)

variable {F fileOffset timestamp}

theorem below_eq_true_iff {i : ℕ} {record : RecordInfo} (h : F.index[i]? = some record) :
    below F fileOffset timestamp i = true ↔
      (record.key (fileOffset i)).lt ⟨timestamp, newPlace⟩ := by
  simp [below, h]

/-- In a sorted index, the records before the one searched for come first. -/
theorem IsSorted.partitioned (h : IsSorted F fileOffset) :
    Partitioned (below F fileOffset timestamp) F.index.length := by
  intro i j hij hj hbelow
  have hi := List.getElem?_eq_getElem (hij.trans_lt hj)
  have hj' := List.getElem?_eq_getElem hj
  rcases hij.eq_or_lt with rfl | hlt
  · exact hbelow
  · rw [below_eq_true_iff hj'] at hbelow
    exact (below_eq_true_iff hi).2 ((h i j _ _ hlt hi hj').trans_lt hbelow)

theorem IsSorted.lt_point_iff (h : IsSorted F fileOffset) {i : ℕ} (hi : i < F.index.length) :
    i < partitionPoint (below F fileOffset timestamp) F.index.length ↔
      below F fileOffset timestamp i = true :=
  lt_partitionPoint_iff h.partitioned hi

theorem gotoTime_of_lt {record : RecordInfo}
    (h : F.index[partitionPoint (below F fileOffset timestamp) F.index.length]? = some record) :
    gotoTime F fileOffset reader timestamp =
      (.ok (getRecordInfo F record
        (partitionPoint (below F fileOffset timestamp) F.index.length)),
        { reader with
          nextRecordIndex := partitionPoint (below F fileOffset timestamp) F.index.length }) := by
  unfold gotoTime getNextRecordInfo
  simp only [h]

theorem gotoTime_of_end
    (h : F.index[partitionPoint (below F fileOffset timestamp) F.index.length]? = none) :
    gotoTime F fileOffset reader timestamp =
      (.error (.indexError "No record found for given time"),
        { reader with nextRecordIndex := F.index.length }) := by
  unfold gotoTime getNextRecordInfo
  simp only [h]

/-- **A record is before the one searched for** just when it is before the timestamp, if the search
fits. -/
theorem SeekFits.below_iff (h : SeekFits F fileOffset timestamp) {i : ℕ} {record : RecordInfo}
    (hi : F.index[i]? = some record) :
    below F fileOffset timestamp i = true ↔ ¬timestamp ≤ record.timestamp := by
  obtain ⟨htime, hrecord, hnot⟩ := h i record hi
  rw [below_eq_true_iff hi]
  constructor
  · rintro (hlt | ⟨hle, hplace⟩)
    · exact WithNaN.not_le_of_lt hlt
    · have hne : record.timestamp ≠ timestamp := fun heq => hnot ⟨heq, hplace⟩
      exact WithNaN.not_le_of_lt (WithNaN.lt_of_le_of_ne hle hne)
  · exact fun hnle => .inl (WithNaN.lt_of_not_le htime hrecord hnle)

/-- A seek that fits finds the first record at or after the timestamp. -/
theorem meetsSeek_of_fits (hsorted : IsSorted F fileOffset) (h : SeekFits F fileOffset timestamp) :
    MeetsSeek F timestamp (gotoTime F fileOffset reader timestamp) := by
  cases hrecord : F.index[partitionPoint (below F fileOffset timestamp) F.index.length]? with
  | none =>
    rw [gotoTime_of_end reader hrecord]
    refine ⟨rfl, Set.eq_empty_iff_forall_notMem.2 ?_, rfl⟩
    rintro i ⟨record, hi, hle⟩
    have hin := (List.getElem?_eq_some_iff.1 hi).1
    have hbelow := (hsorted.lt_point_iff hin).1 (hin.trans_le (List.getElem?_eq_none_iff.1 hrecord))
    exact (h.below_iff hi).1 hbelow hle
  | some record =>
    rw [gotoTime_of_lt reader hrecord]
    have hin := (List.getElem?_eq_some_iff.1 hrecord).1
    refine ⟨⟨⟨record, hrecord, ?_⟩, ?_⟩, record, hrecord, rfl⟩
    · by_contra hnle
      exact lt_irrefl _ ((hsorted.lt_point_iff hin).2 ((h.below_iff hrecord).2 hnle))
    · rintro i ⟨record', hi, hle⟩
      by_contra hlt
      have hin' := (List.getElem?_eq_some_iff.1 hi).1
      exact (h.below_iff hi).1 ((hsorted.lt_point_iff hin').1 (not_le.1 hlt)) hle

/-- A seek that finds the first record at or after the timestamp fits. -/
theorem fits_of_meetsSeek (hsorted : IsSorted F fileOffset)
    (h : MeetsSeek F timestamp (gotoTime F fileOffset reader timestamp)) :
    SeekFits F fileOffset timestamp := by
  intro i record hi
  have hin := (List.getElem?_eq_some_iff.1 hi).1
  cases hpoint : F.index[partitionPoint (below F fileOffset timestamp) F.index.length]? with
  | none =>
    -- every record is before the one searched for, and none is at or after the timestamp
    rw [gotoTime_of_end reader hpoint] at h
    obtain ⟨-, hnone, -⟩ := h
    have hnle : ¬timestamp ≤ record.timestamp := fun hle =>
      (Set.eq_empty_iff_forall_notMem.1 hnone i) ⟨record, hi, hle⟩
    have hbelow := (hsorted.lt_point_iff hin).1 (hin.trans_le (List.getElem?_eq_none_iff.1 hpoint))
    obtain ⟨hrecord, htime⟩ :=
      WithNaN.isNum_of_le ((below_eq_true_iff hi).1 hbelow).timestamp_le
    refine ⟨htime, hrecord, fun heq => hnle ?_⟩
    rw [heq.1]
    exact WithNaN.le_refl_of_isNum htime
  | some found =>
    rw [gotoTime_of_lt reader hpoint] at h
    obtain ⟨⟨⟨found', hfound', hle⟩, hleast⟩, -⟩ := h
    cases hpoint.symm.trans hfound'
    obtain ⟨htime, hfound⟩ := WithNaN.isNum_of_le hle
    have hrecord : record.timestamp.IsNum := by
      rcases lt_trichotomy i (partitionPoint (below F fileOffset timestamp) F.index.length) with
        hlt | heq | hgt
      · exact (WithNaN.isNum_of_le (hsorted i _ _ _ hlt hi hpoint).timestamp_le).1
      · subst heq
        cases hpoint.symm.trans hi
        exact hfound
      · exact (WithNaN.isNum_of_le (hsorted _ i _ _ hgt hpoint hi).timestamp_le).2
    refine ⟨htime, hrecord, fun ⟨heq, hplace⟩ => ?_⟩
    -- a record at the timestamp that is before the one searched for is passed over
    have hbelow : below F fileOffset timestamp i = true :=
      (below_eq_true_iff hi).2 (.inr ⟨heq ▸ WithNaN.le_refl_of_isNum hrecord, hplace⟩)
    have hpassed := (hsorted.lt_point_iff hin).2 hbelow
    have hfirst := hleast ⟨record, hi, heq ▸ WithNaN.le_refl_of_isNum hrecord⟩
    exact absurd hpassed (not_lt.2 hfirst)

/-- **A seek moves the cursor to the first record at or after its timestamp** if and only if the
timestamps are numbers and every record at this timestamp comes after a new one. -/
theorem gotoTime_iff (hsorted : IsSorted F fileOffset) :
    MeetsSeek F timestamp (gotoTime F fileOffset reader timestamp) ↔
      SeekFits F fileOffset timestamp :=
  ⟨fits_of_meetsSeek reader hsorted, meetsSeek_of_fits reader hsorted⟩

/-! ## Two files -/

theorem isSorted_twoStreamsFile : IsSorted twoStreamsFile fun i => 100 * i := by
  have hkey : ∀ i j : Fin twoStreamsFile.index.length, i < j →
      ((twoStreamsFile.index.get i).key (100 * i)).le
        ((twoStreamsFile.index.get j).key (100 * j)) := by
    decide +kernel
  intro i j a b hij hi hj
  obtain ⟨hi', rfl⟩ := List.getElem?_eq_some_iff.1 hi
  obtain ⟨hj', rfl⟩ := List.getElem?_eq_some_iff.1 hj
  exact hkey ⟨i, hi'⟩ ⟨j, hj'⟩ hij

/-- A time between the records of two streams at one time and those at another is found. -/
theorem gotoTime_between :
    MeetsSeek twoStreamsFile (.ofRat (1 / 2)) (gotoTime twoStreamsFile (fun i => 100 * i)
      (new false) (.ofRat (1 / 2))) := by
  refine (gotoTime_iff (new false) isSorted_twoStreamsFile).2 fun i record hi => ?_
  have hne : ∀ record ∈ twoStreamsFile.index, record.timestamp.IsNum ∧
      record.timestamp ≠ .ofRat (1 / 2) := by decide +kernel
  obtain ⟨hnum, hother⟩ := hne record (List.mem_of_getElem? hi)
  exact ⟨trivial, hnum, fun h => hother h.1⟩

/-- A file with one data record, one second after its start. -/
def oneSecondFile : RecordFileReader VrsLib.bare :=
  .ofIndex .bare [⟨.ofRat 1, ⟨1201, 1⟩, .data⟩] (by decide)

theorem isSorted_oneSecondFile : IsSorted oneSecondFile fun _ => 0 := by
  intro i j a b hij hi hj
  have hj' : j < 1 := (List.getElem?_eq_some_iff.1 hj).1
  omega

/-- **The time of the record** is not: the record is passed over. -/
theorem not_meetsSeek_oneSecond : IsSorted oneSecondFile (fun _ => 0) ∧
    ¬MeetsSeek oneSecondFile (.ofRat 1) (gotoTime oneSecondFile (fun _ => 0) (new false)
      (.ofRat 1)) := by
  refine ⟨isSorted_oneSecondFile, fun h => ?_⟩
  have hend : oneSecondFile.index[partitionPoint
      (below oneSecondFile (fun _ => 0) (.ofRat 1)) oneSecondFile.index.length]? = none := by
    decide +kernel
  rw [gotoTime_of_end _ hend] at h
  have hrecord : (0 : ℕ) ∈ atOrAfter oneSecondFile (.ofRat 1) :=
    ⟨⟨.ofRat 1, ⟨1201, 1⟩, .data⟩, rfl, WithNaN.le_refl_of_isNum trivial⟩
  rw [h.2.1] at hrecord
  exact hrecord

end OssVRSReader

end Pyvrs
