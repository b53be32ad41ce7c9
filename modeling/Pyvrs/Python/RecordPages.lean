import Pyvrs.Reader.IndexSearch
import Pyvrs.Python.VRSReader

/-!
# Pages of record information

`getRecordsInfo` returns the information of some records, `getAllRecordsInfo` that of all of them. A
page is what it is for if it is that part of the full list, and the right exception if it does not
start in the index or is empty (`MeetsPage`). The reader of one file is right about every page
whose full list can be counted in an `int32_t`; the reader of several files numbers the entries of a
page from zero, so that only first pages are right (`recordsInfo_iff`). Pages that are right, one
after the other, make up the full list (`flatten_pages`).
-/

namespace Pyvrs

open Foundations

variable {L : VrsLib}

/-! ## The readers -/

/-- The information of every record. -/
def OssVRSReader.recordInfos (F : RecordFileReader L) : List RecordInfoDict :=
  F.index.mapIdx fun recordIndex record => getRecordInfo F record recordIndex

/-- `getAllRecordsInfo`, `none` if `recordIndex` overflows. -/
def OssVRSReader.getAllRecordsInfo (F : RecordFileReader L) : Option (List RecordInfoDict) :=
  if 2 ^ 31 ≤ F.index.length then none else some (recordInfos F)

/-- `getRecordsInfo`. -/
def OssVRSReader.getRecordsInfo (F : RecordFileReader L) (firstIndex count : Int32) :
    Except PyError (List RecordInfoDict) :=
  let first := castSizeT firstIndex
  if F.index.length ≤ first then .error (.stopIteration "No more records")
  else if count.toInt ≤ 0 then
    .error (.valueError ("Invalid number of records requested: " ++ toString count))
  else
    let last := min F.index.length (first + castSizeT count)
    .ok ((F.index.extract first last).mapIdx fun recordIndex record =>
      getRecordInfo F record (first + recordIndex))

/-- The information of every record. -/
def OssMultiVRSReader.recordInfos (F : MultiRecordFileReader L) : List RecordInfoDict :=
  F.records.mapIdx fun recordIndex record => getRecordInfo F record recordIndex

/-- `getAllRecordsInfo`, `none` if `recordIndex` overflows. -/
def OssMultiVRSReader.getAllRecordsInfo (F : MultiRecordFileReader L) :
    Option (List RecordInfoDict) :=
  if 2 ^ 31 ≤ F.getRecordCount then none else some (recordInfos F)

/-- `getRecordsInfo`, `none` if it returns a list that it does not fill. -/
def OssMultiVRSReader.getRecordsInfo (F : MultiRecordFileReader L) (firstIndex count : Int32) :
    Option (Except PyError (List RecordInfoDict)) :=
  let first := castUInt32 firstIndex
  if F.getRecordCount ≤ first then some (.error (.stopIteration "No more records"))
  else if count.toInt ≤ 0 then
    some (.error (.valueError ("invalid number of records requested: " ++ toString count)))
  else
    let last := min F.getRecordCount ((first + castUInt32 count) % 2 ^ 32)
    if last < first then none
    else
      -- `recordIndex` is the position in the page
      some (.ok ((F.records.extract first last).mapIdx fun recordIndex record =>
        { getRecordInfo F record (first + recordIndex) with recordIndex := .ofNat recordIndex }))

namespace NativeReader

variable (self : NativeReader L)

/-- `get_all_records_info`. -/
def getAllRecordsInfo : Option (List RecordInfoDict) :=
  match self with
  | reader F => OssVRSReader.getAllRecordsInfo F
  | multiReader F => OssMultiVRSReader.getAllRecordsInfo F

/-- `get_records_info`. -/
def getRecordsInfo (firstIndex count : Int32) : Option (Except PyError (List RecordInfoDict)) :=
  match self with
  | reader F => some (OssVRSReader.getRecordsInfo F firstIndex count)
  | multiReader F => OssMultiVRSReader.getRecordsInfo F firstIndex count

/-- The number of records. -/
def recordCount : ℕ :=
  match self with
  | reader F => F.index.length
  | multiReader F => F.getRecordCount

/-! ## What a page is for -/

/-- `StopIteration` where no page starts, `ValueError` for an empty page, and otherwise a part of
the full list. -/
def MeetsPage (firstIndex count : Int32) : Prop :=
  if firstIndex.toInt < 0 ∨ self.recordCount ≤ firstIndex.toInt then
    ∃ e, self.getRecordsInfo firstIndex count = some (.error e) ∧ e.kind = .stopIteration
  else if count.toInt ≤ 0 then
    ∃ e, self.getRecordsInfo firstIndex count = some (.error e) ∧ e.kind = .valueError
  else
    ∃ entries, self.getAllRecordsInfo = some entries ∧
      self.getRecordsInfo firstIndex count =
        some (.ok ((entries.drop firstIndex.toInt.toNat).take count.toInt.toNat))

/-- There are pages only of an index that can be counted in an `int32_t`. With several files, a
page is the first one, and a negative index is past the end as an unsigned one. -/
def PageFits (firstIndex count : Int32) : Prop :=
  let isPage := 0 ≤ firstIndex.toInt ∧ firstIndex.toInt < self.recordCount ∧ 0 < count.toInt
  match self with
  | reader F => isPage → F.index.length < 2 ^ 31
  | multiReader F => (firstIndex.toInt < 0 → F.getRecordCount ≤ castUInt32 firstIndex) ∧
      (isPage → firstIndex.toInt = 0 ∧ F.getRecordCount < 2 ^ 31)

end NativeReader

/-! ## Slices -/

section Slices

variable {α β : Type*}

/-- A slice of a list with positions is a slice of the list, with its positions in the list. -/
theorem mapIdx_extract (l : List α) (f : ℕ → α → β) (first last : ℕ) :
    (l.extract first last).mapIdx (fun i a => f (first + i) a) =
      ((l.mapIdx f).drop first).take (last - first) := by
  refine List.ext_getElem? fun i => ?_
  rw [List.extract_eq_take_drop, List.getElem?_mapIdx, List.getElem?_take, List.getElem?_take,
    List.getElem?_drop, List.getElem?_drop, List.getElem?_mapIdx]
  split <;> rfl

/-- **Consecutive slices** of one length make up the list. -/
theorem flatMap_slices (l : List α) (c m : ℕ) :
    (List.range m).flatMap (fun k => (l.drop (k * c)).take c) = l.take (m * c) := by
  induction m with
  | zero => simp
  | succ m ih =>
    rw [List.range_succ, List.flatMap_append, List.flatMap_singleton, ih, Nat.succ_mul,
      List.take_add]

end Slices

/-! ## One page -/

namespace NativeReader

variable {firstIndex count : Int32}

/-- The reader of one file refuses the pages that it has to refuse. -/
theorem getRecordsInfo_reader_of_not_page (F : RecordFileReader L) (firstIndex count : Int32) :
    (firstIndex.toInt < 0 ∨ F.index.length ≤ firstIndex.toInt →
      ∃ e, OssVRSReader.getRecordsInfo F firstIndex count = .error e ∧ e.kind = .stopIteration) ∧
    (0 ≤ firstIndex.toInt → firstIndex.toInt < F.index.length → count.toInt ≤ 0 →
      ∃ e, OssVRSReader.getRecordsInfo F firstIndex count = .error e ∧ e.kind = .valueError) := by
  have hlength := F.length_index_lt
  constructor
  · intro h
    have hpast : F.index.length ≤ castSizeT firstIndex := by
      rcases lt_or_ge firstIndex.toInt 0 with hneg | hnonneg
      · have := castSizeT_of_neg hneg
        omega
      · have := castSizeT_of_nonneg hnonneg
        omega
    exact ⟨_, if_pos hpast, rfl⟩
  · intro hnonneg hin hcount
    have := castSizeT_of_nonneg hnonneg
    exact ⟨_, (if_neg (by omega)).trans (if_pos hcount), rfl⟩

/-- A page of one file is the part of the index that it starts at. -/
theorem getRecordsInfo_reader_of_page (F : RecordFileReader L) (hnonneg : 0 ≤ firstIndex.toInt)
    (hin : firstIndex.toInt < F.index.length) (hcount : 0 < count.toInt) :
    OssVRSReader.getRecordsInfo F firstIndex count =
      .ok (((OssVRSReader.recordInfos F).drop firstIndex.toInt.toNat).take
        count.toInt.toNat) := by
  have hfirst : castSizeT firstIndex = firstIndex.toInt.toNat := by
    have := castSizeT_of_nonneg hnonneg
    omega
  have hsize : castSizeT count = count.toInt.toNat := by
    have := castSizeT_of_nonneg hcount.le
    omega
  unfold OssVRSReader.getRecordsInfo
  rw [hfirst, hsize]
  refine (if_neg (by omega)).trans ((if_neg (not_le.2 hcount)).trans (congrArg Except.ok ?_))
  rw [mapIdx_extract F.index fun recordIndex record =>
    OssVRSReader.getRecordInfo F record recordIndex, OssVRSReader.recordInfos,
    List.take_eq_take_iff, List.length_drop, List.length_mapIdx]
  omega

/-- **A page of one file** is what it is for if and only if it is no page or the full list can be
counted. -/
theorem meetsPage_reader_iff (F : RecordFileReader L) :
    (reader F).MeetsPage firstIndex count ↔ (reader F).PageFits firstIndex count := by
  obtain ⟨hstop, hvalue⟩ := getRecordsInfo_reader_of_not_page F firstIndex count
  unfold MeetsPage PageFits
  by_cases hnot : firstIndex.toInt < 0 ∨ (reader F).recordCount ≤ firstIndex.toInt
  · rw [if_pos hnot]
    obtain ⟨e, he, hkind⟩ := hstop hnot
    refine iff_of_true ⟨e, congrArg some he, hkind⟩ fun hpage => ?_
    omega
  · rw [if_neg hnot]
    obtain ⟨hnonneg, hin⟩ := not_or.1 hnot
    rw [not_lt] at hnonneg
    rw [not_le] at hin
    by_cases hcount : count.toInt ≤ 0
    · rw [if_pos hcount]
      obtain ⟨e, he, hkind⟩ := hvalue hnonneg hin hcount
      refine iff_of_true ⟨e, congrArg some he, hkind⟩ fun hpage => ?_
      omega
    · rw [if_neg hcount]
      have hpage := getRecordsInfo_reader_of_page F hnonneg hin (not_le.1 hcount)
      by_cases hmany : 2 ^ 31 ≤ F.index.length
      · have hall : (reader F).getAllRecordsInfo = none := if_pos hmany
        refine iff_of_false ?_ fun h => ?_
        · rintro ⟨entries, hentries, -⟩
          rw [hall] at hentries
          cases hentries
        · have := h ⟨hnonneg, hin, not_le.1 hcount⟩
          omega
      · exact iff_of_true ⟨_, if_neg hmany, congrArg some hpage⟩ fun _ => not_le.1 hmany

/-- The entries of a page, numbered from zero. -/
def renumbered (page : List RecordInfoDict) : List RecordInfoDict :=
  page.mapIdx fun recordIndex entry => { entry with recordIndex := .ofNat recordIndex }

/-- A page of several files is the part of the index that it starts at, but for the numbers of its
entries. -/
theorem getRecordsInfo_multiReader_of_page (F : MultiRecordFileReader L)
    (hnonneg : 0 ≤ firstIndex.toInt) (hin : firstIndex.toInt < F.getRecordCount)
    (hcount : 0 < count.toInt) :
    OssMultiVRSReader.getRecordsInfo F firstIndex count =
      some (.ok (renumbered (((OssMultiVRSReader.recordInfos F).drop
        firstIndex.toInt.toNat).take count.toInt.toNat))) := by
  have hfirst : castUInt32 firstIndex = firstIndex.toInt.toNat := by
    have := castUInt32_of_nonneg hnonneg
    omega
  have hsize : castUInt32 count = count.toInt.toNat := by
    have := castUInt32_of_nonneg hcount.le
    omega
  have hlast : (firstIndex.toInt.toNat + count.toInt.toNat) % 2 ^ 32 =
      firstIndex.toInt.toNat + count.toInt.toNat := by
    have := firstIndex.toInt_lt
    have := count.toInt_lt
    exact Nat.mod_eq_of_lt (by omega)
  have hlength : F.records.length = F.getRecordCount := rfl
  unfold OssMultiVRSReader.getRecordsInfo
  simp only [hfirst, hsize, hlast]
  refine (if_neg (by omega)).trans ((if_neg (not_le.2 hcount)).trans
    ((if_neg (by omega)).trans (congrArg (fun page => some (Except.ok page)) ?_)))
  have hpage := mapIdx_extract F.records (fun recordIndex record =>
    OssMultiVRSReader.getRecordInfo F record recordIndex) firstIndex.toInt.toNat
      (min F.getRecordCount (firstIndex.toInt.toNat + count.toInt.toNat))
  have hslice : ((OssMultiVRSReader.recordInfos F).drop firstIndex.toInt.toNat).take
      count.toInt.toNat = ((OssMultiVRSReader.recordInfos F).drop firstIndex.toInt.toNat).take
        (min F.getRecordCount (firstIndex.toInt.toNat + count.toInt.toNat) -
          firstIndex.toInt.toNat) := by
    rw [OssMultiVRSReader.recordInfos, List.take_eq_take_iff, List.length_drop,
      List.length_mapIdx]
    omega
  rw [hslice, OssMultiVRSReader.recordInfos, ← hpage, renumbered, List.mapIdx_mapIdx]
  rfl

/-- **Numbered from zero**, a page is still what it was if and only if it is the first one. -/
theorem renumbered_page_eq_iff (F : MultiRecordFileReader L) (first size : ℕ)
    (hin : first < F.records.length) (hsize : 0 < size) (hint : first < 2 ^ 31) :
    renumbered (((OssMultiVRSReader.recordInfos F).drop first).take size) =
      ((OssMultiVRSReader.recordInfos F).drop first).take size ↔ first = 0 := by
  unfold OssMultiVRSReader.recordInfos
  constructor
  · intro h
    -- the number of the first entry
    have hfirst := congrArg (fun page => (page[0]?).map RecordInfoDict.recordIndex) h
    simp only [renumbered, List.getElem?_mapIdx, List.getElem?_take_of_lt hsize,
      List.getElem?_drop, Nat.add_zero, List.getElem?_eq_getElem hin, Option.map_some,
      Option.some.injEq] at hfirst
    have hnumber := congrArg Int32.toInt hfirst
    have hzero : (Int32.ofNat 0).toInt = 0 := rfl
    have hrecord : (Int32.ofNat first).toInt = first := Int32.toInt_ofNat_of_lt hint
    rw [hzero] at hnumber
    exact Int.ofNat_eq_zero.1 (hrecord.symm.trans hnumber.symm)
  · rintro rfl
    refine List.ext_getElem? fun i => ?_
    rw [renumbered, List.getElem?_mapIdx, List.getElem?_take]
    split
    · rw [List.getElem?_drop, List.getElem?_mapIdx, Nat.zero_add, Option.map_map]
      rfl
    · rfl

/-- With several files, a negative index that is in the index as an unsigned one stops nothing. -/
theorem getRecordsInfo_multiReader_ne_stopIteration (F : MultiRecordFileReader L) {e : PyError}
    (hin : ¬F.getRecordCount ≤ castUInt32 firstIndex)
    (h : OssMultiVRSReader.getRecordsInfo F firstIndex count = some (.error e)) :
    e.kind ≠ .stopIteration := by
  unfold OssMultiVRSReader.getRecordsInfo at h
  simp only [if_neg hin] at h
  split at h
  · cases h
    exact nofun
  · split at h <;> cases h

/-- A page of several files is a part of the full list if it is the first one, and the full list can
be counted. -/
theorem page_multiReader_iff (F : MultiRecordFileReader L) (hnonneg : 0 ≤ firstIndex.toInt)
    (hin : firstIndex.toInt < F.getRecordCount) (hcount : 0 < count.toInt) :
    (∃ entries, (multiReader F).getAllRecordsInfo = some entries ∧
      (multiReader F).getRecordsInfo firstIndex count =
        some (.ok ((entries.drop firstIndex.toInt.toNat).take count.toInt.toNat))) ↔
      firstIndex.toInt = 0 ∧ F.getRecordCount < 2 ^ 31 := by
  have hpage : (multiReader F).getRecordsInfo firstIndex count = _ :=
    getRecordsInfo_multiReader_of_page F hnonneg hin hcount
  by_cases hmany : 2 ^ 31 ≤ F.getRecordCount
  · have hall : (multiReader F).getAllRecordsInfo = none := if_pos hmany
    rw [hall]
    refine iff_of_false ?_ fun h => absurd h.2 (not_lt.2 hmany)
    rintro ⟨entries, hentries, -⟩
    cases hentries
  · have hall : (multiReader F).getAllRecordsInfo = some (OssMultiVRSReader.recordInfos F) :=
      if_neg hmany
    have hlt := firstIndex.toInt_lt
    have hlength : F.records.length = F.getRecordCount := rfl
    have hrenumbered := renumbered_page_eq_iff F firstIndex.toInt.toNat count.toInt.toNat
      (by omega) (by omega) (by omega)
    simp only [hall, Option.some.injEq, exists_eq_left']
    rw [hpage, Option.some.injEq, Except.ok.injEq, hrenumbered]
    omega

/-- **A page of several files** is what it is for if and only if it is the first one, and the full
list can be counted, or it is no page and starts past the end. -/
theorem meetsPage_multiReader_iff (F : MultiRecordFileReader L) :
    (multiReader F).MeetsPage firstIndex count ↔ (multiReader F).PageFits firstIndex count := by
  unfold MeetsPage PageFits
  by_cases hpast : F.getRecordCount ≤ castUInt32 firstIndex
  · -- refused
    have hstop : (multiReader F).getRecordsInfo firstIndex count =
        some (.error (.stopIteration "No more records")) := if_pos hpast
    have hnot : firstIndex.toInt < 0 ∨ (multiReader F).recordCount ≤ firstIndex.toInt := by
      refine or_iff_not_imp_left.2 fun hnonneg => ?_
      have := castUInt32_of_nonneg (not_lt.1 hnonneg)
      exact le_of_le_of_eq (Int.ofNat_le.2 hpast) this
    rw [if_pos hnot]
    refine iff_of_true ⟨_, hstop, rfl⟩ ⟨fun _ => hpast, fun hpage => ?_⟩
    omega
  · rcases lt_or_ge firstIndex.toInt 0 with hneg | hnonneg
    · -- a negative index that is in the index as an unsigned one
      rw [if_pos (.inl hneg)]
      refine iff_of_false ?_ fun h => hpast (h.1 hneg)
      rintro ⟨e, he, hkind⟩
      exact getRecordsInfo_multiReader_ne_stopIteration F hpast he hkind
    · have hfirst := castUInt32_of_nonneg hnonneg
      have hin : firstIndex.toInt < F.getRecordCount := by omega
      have hnot : ¬(firstIndex.toInt < 0 ∨ (multiReader F).recordCount ≤ firstIndex.toInt) :=
        not_or.2 ⟨not_lt.2 hnonneg, not_le.2 hin⟩
      rw [if_neg hnot]
      by_cases hcount : count.toInt ≤ 0
      · rw [if_pos hcount]
        have hvalue : (multiReader F).getRecordsInfo firstIndex count = some (.error
            (.valueError ("invalid number of records requested: " ++ toString count))) :=
          (if_neg hpast).trans (if_pos hcount)
        refine iff_of_true ⟨_, hvalue, rfl⟩ ⟨fun _ => by omega, fun hpage => ?_⟩
        omega
      · rw [if_neg hcount, page_multiReader_iff F hnonneg hin (not_le.1 hcount)]
        constructor
        · exact fun h => ⟨fun hneg => absurd hneg (not_lt.2 hnonneg), fun _ => h⟩
        · exact fun h => h.2 ⟨hnonneg, hin, not_le.1 hcount⟩

theorem meetsPage_iff (self : NativeReader L) :
    self.MeetsPage firstIndex count ↔ self.PageFits firstIndex count := by
  cases self with
  | reader F => exact meetsPage_reader_iff F
  | multiReader F => exact meetsPage_multiReader_iff F

/-! ## All pages -/

/-- The full list has an entry for each record. -/
theorem getAllRecordsInfo_eq_some {self : NativeReader L} {entries : List RecordInfoDict}
    (h : self.getAllRecordsInfo = some entries) :
    entries.length = self.recordCount ∧ self.recordCount < 2 ^ 31 := by
  cases self with
  | reader F =>
    obtain ⟨hcount, hentries⟩ := Option.ite_none_left_eq_some.1 h
    cases hentries
    exact ⟨List.length_mapIdx, not_le.1 hcount⟩
  | multiReader F =>
    obtain ⟨hcount, hentries⟩ := Option.ite_none_left_eq_some.1 h
    cases hentries
    exact ⟨List.length_mapIdx, not_le.1 hcount⟩

theorem getAllRecordsInfo_of_empty {self : NativeReader L} (h : self.recordCount = 0) :
    self.getAllRecordsInfo = some [] := by
  cases self with
  | reader F =>
    have hnil : F.index = [] := List.length_eq_zero_iff.1 h
    simp [getAllRecordsInfo, OssVRSReader.getAllRecordsInfo, OssVRSReader.recordInfos, hnil]
  | multiReader F =>
    have hnil : F.records = [] := List.length_eq_zero_iff.1 h
    simp [getAllRecordsInfo, OssMultiVRSReader.getAllRecordsInfo, OssMultiVRSReader.recordInfos,
      MultiRecordFileReader.getRecordCount, hnil]

/-- The pages of one size, one after the other, that the records fill. -/
def consecutivePages (self : NativeReader L) (count : Int32) :
    List (Option (Except PyError (List RecordInfoDict))) :=
  let size := count.toInt.toNat
  (List.range ((self.recordCount + size - 1) / size)).map fun k =>
    self.getRecordsInfo (.ofNat (k * size)) count

/-- The page at a number starts in the index. -/
theorem lt_div_iff {n size k : ℕ} (hsize : 0 < size) :
    k < (n + size - 1) / size ↔ k * size < n := by
  rw [← Nat.succ_le_iff, Nat.le_div_iff_mul_le hsize, Nat.succ_mul]
  omega

/-- A page that is what it is for is a part of the full list. -/
theorem MeetsPage.eq_slice {self : NativeReader L} {k : ℕ} (h : self.MeetsPage (.ofNat k) count)
    (hk : (Int32.ofNat k).toInt = k) (hin : k < self.recordCount) (hcount : 0 < count.toInt) :
    ∃ entries, self.getAllRecordsInfo = some entries ∧
      self.getRecordsInfo (.ofNat k) count =
        some (.ok ((entries.drop k).take count.toInt.toNat)) := by
  unfold MeetsPage at h
  rw [hk, if_neg (by omega), if_neg (by omega)] at h
  exact h

/-- **Consecutive pages** that are what they are for make up the full list. -/
theorem flatten_pages (self : NativeReader L) (hcount : 0 < count.toInt)
    (hpages : ∀ k, k * count.toInt.toNat < self.recordCount →
      self.MeetsPage (.ofNat (k * count.toInt.toNat)) count) :
    ∃ entries, ∃ pages : List (List RecordInfoDict), self.getAllRecordsInfo = some entries ∧
      self.consecutivePages count = pages.map (fun page => some (.ok page)) ∧
      pages.flatten = entries := by
  have hsize : 0 < count.toInt.toNat := by omega
  rcases Nat.eq_zero_or_pos self.recordCount with hnone | hsome
  · refine ⟨[], [], getAllRecordsInfo_of_empty hnone, ?_, rfl⟩
    have hzero : (self.recordCount + count.toInt.toNat - 1) / count.toInt.toNat = 0 := by
      rw [hnone]
      exact Nat.div_eq_of_lt (by omega)
    rw [consecutivePages, hzero]
    rfl
  · -- the first page tells that the list can be counted
    have hfirst := hpages 0 (by omega)
    rw [Nat.zero_mul] at hfirst
    obtain ⟨entries, hall, -⟩ := hfirst.eq_slice rfl hsome hcount
    obtain ⟨hlength, hmany⟩ := getAllRecordsInfo_eq_some hall
    refine ⟨entries, (List.range ((self.recordCount + count.toInt.toNat - 1) /
      count.toInt.toNat)).map fun k => (entries.drop (k * count.toInt.toNat)).take
        count.toInt.toNat, hall, ?_, ?_⟩
    · unfold consecutivePages
      rw [List.map_map]
      refine List.map_congr_left fun k hk => ?_
      have hin := (lt_div_iff hsize).1 (List.mem_range.1 hk)
      obtain ⟨entries', hall', hcall⟩ := (hpages k hin).eq_slice
        (Int32.toInt_ofNat_of_lt (hin.trans hmany)) hin hcount
      cases hall.symm.trans hall'
      exact hcall
    · rw [← List.flatMap_def, flatMap_slices]
      refine List.take_of_length_le ?_
      rw [hlength]
      exact not_lt.1 fun h => lt_irrefl _ ((lt_div_iff hsize).2 h)

/-- **Pages of record information** are parts of the full list, if and only if they fit; and
consecutive pages that fit make up the full list. -/
theorem recordsInfo_iff (self : NativeReader L) :
    (∀ firstIndex count, self.MeetsPage firstIndex count ↔ self.PageFits firstIndex count) ∧
    ∀ count : Int32, 0 < count.toInt →
      (∀ k, k * count.toInt.toNat < self.recordCount →
        self.PageFits (.ofNat (k * count.toInt.toNat)) count) →
      ∃ entries, ∃ pages : List (List RecordInfoDict), self.getAllRecordsInfo = some entries ∧
        self.consecutivePages count = pages.map (fun page => some (.ok page)) ∧
        pages.flatten = entries :=
  ⟨fun _ _ => meetsPage_iff self,
    fun _ hcount hfits => flatten_pages self hcount fun k hk => (meetsPage_iff self).2 (hfits k hk)⟩

end NativeReader

/-! ## Two records -/

theorem length_twoRecordFile_lt :
    [(⟨.ofRat 0, ⟨1201, 1⟩, .state⟩ : RecordInfo), ⟨.ofRat 1, ⟨1201, 1⟩, .data⟩].length <
      2 ^ 32 := by
  decide

/-- A file with a state record and a data record. -/
def twoRecordFile : RecordFileReader VrsLib.bare :=
  .ofIndex .bare [⟨.ofRat 0, ⟨1201, 1⟩, .state⟩, ⟨.ofRat 1, ⟨1201, 1⟩, .data⟩]
    length_twoRecordFile_lt

/-- Two pages of one record make up the list. -/
theorem recordsInfo_twoRecordFile :
    ∃ entries, ∃ pages : List (List RecordInfoDict),
      (NativeReader.reader twoRecordFile).getAllRecordsInfo = some entries ∧
      (NativeReader.reader twoRecordFile).consecutivePages 1 =
        pages.map (fun page => some (.ok page)) ∧
      pages.flatten = entries :=
  (NativeReader.recordsInfo_iff (.reader twoRecordFile)).2 1 (by decide) fun _ _ _ => by decide

/-- **The second page** of several files is numbered from zero. -/
theorem not_meetsPage_second :
    ¬(NativeReader.multiReader (.ofFile twoRecordFile)).MeetsPage 1 1 := by
  intro h
  have hin : ¬((1 : Int32).toInt < 0 ∨
      (NativeReader.multiReader (.ofFile twoRecordFile)).recordCount ≤ (1 : Int32).toInt) := by
    decide
  unfold NativeReader.MeetsPage at h
  rw [if_neg hin, if_neg (by decide)] at h
  obtain ⟨entries, hall, hcall⟩ := h
  cases hall
  have hnumbers := congrArg (fun reply => reply.map fun page =>
    page.toOption.map (List.map RecordInfoDict.recordIndex)) hcall
  exact absurd hnumbers (by decide +kernel)

end Pyvrs
