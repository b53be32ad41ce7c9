import Pyvrs.Python.FilteredReader

/-!
# The neighbours of a filtered record

`read_next_record` and `read_prev_record` of a `FilteredVRSReader` start at the index in the file of
one of its records and search the whole file. Where the stream and the type are ones that the filter
keeps, the record found is the nearest one that the filtered reader holds, or else one past the
times of the filter (`readNextRecord_nearest`, `readPrevRecord_nearest`).
-/

namespace Pyvrs

open Foundations

variable {L : VrsLib}

namespace FilteredVRSReader

variable (filtered : FilteredVRSReader L) (self : OpenReader L)

/-- `FilteredVRSReader.read_next_record`: an `IndexError` of the index is caught. -/
def readNextRecord (streamId recordType : String) (index : ℤ) :
    Option (Except PyError (Option (PyRecord L)) × OpenReader L) :=
  match filtered.vrsIndices.getItem index with
  | .error _ => some (.ok none, self)
  | .ok indexInAll => self.readNextRecord streamId recordType (.ofInt indexInAll)

/-- `FilteredVRSReader.read_prev_record`. -/
def readPrevRecord (streamId recordType : String) (index : ℤ) :
    Option (Except PyError (Option (PyRecord L)) × OpenReader L) :=
  match filtered.vrsIndices.getItem index with
  | .error e => some (.error e, self)
  | .ok indexInAll => self.readPrevRecord streamId recordType (.ofInt indexInAll)

end FilteredVRSReader

namespace OpenReader

variable (self : OpenReader L)

/-- The record at a position is read. -/
def readFound (i : ℕ) : Option (Except PyError (Option (PyRecord L)) × OpenReader L) :=
  self.readAt (some (.ok (.ofNat i)))

theorem isAt_iff {id : StreamId} {type : RecordType} {i : ℕ} :
    self.isAt id type i = true ↔
      ∃ record, self.native.record i = some (id, record) ∧ record.recordType = type := by
  have hsome : ∀ (id' : StreamId) (record : RecordInfo),
      decide (id' = id ∧ record.recordType = type) = true ↔
        ∃ record', some (id', record) = some (id, record') ∧ record'.recordType = type := by
    intro id' record
    rw [decide_eq_true_iff]
    constructor
    · rintro ⟨rfl, htype⟩
      exact ⟨record, rfl, htype⟩
    · rintro ⟨record', heq, htype⟩
      cases heq
      exact ⟨rfl, htype⟩
  cases self with
  | reader F D native =>
    show (F.index[i]?.any _) = true ↔ ∃ record, F.index[i]?.map _ = _ ∧ _
    cases F.index[i]? with
    | none => simp
    | some record => exact hsome record.streamId record
  | multiReader F D native =>
    show ((F.getRecord i).any _) = true ↔ ∃ record, (F.getRecord i).map _ = _ ∧ _
    cases F.getRecord i with
    | none => simp
    | some record => exact hsome (F.getUniqueStreamId i) record

theorem recordCount_eq : self.recordCount = self.native.getAvailableRecordsSize := by
  cases self <;> rfl

/-- A search forward from a record of a small file fits. -/
theorem nextFits_of_lt {id : StreamId} {type : RecordType} {i : ℕ} (hi : i < self.recordCount)
    (hsmall : self.recordCount < 2 ^ 31) : self.NextFits id type (.ofNat i) := by
  have hint : (Int32.ofNat i).toInt = i := Int32.toInt_ofNat_of_lt (by omega)
  cases self with
  | reader F D native =>
    have hlt : i < F.index.length := hi
    exact ⟨by omega, by omega, .inl hsmall⟩
  | multiReader F D native =>
    have hcount : F.getRecordCount < 2 ^ 31 := hsmall
    by_cases hfound : ∃ j, castUInt32 (.ofNat i) ≤ j ∧ j < F.getRecordCount ∧
        (multiReader F D native).isAt id type j = true
    · obtain ⟨j, hij, hj, hat⟩ := hfound
      exact .inr ⟨j, hij, hj, hat, by omega⟩
    · refine .inl fun j hij hj => ?_
      by_contra hat
      exact hfound ⟨j, hij, hj, by simpa using hat⟩

theorem lt_of_isAt {id : StreamId} {type : RecordType} {i : ℕ} (hat : self.isAt id type i = true) :
    i < self.recordCount := by
  obtain ⟨record, hrecord, -⟩ := self.isAt_iff.1 hat
  rw [recordCount_eq]
  exact self.native.lt_of_record hrecord

/-- A search that meets its purpose reads the nearest record, or returns `None`. -/
theorem readAt_of_meetsNext {p : ℕ → Bool} {n : ℕ} {index : Int32}
    {search : Option (Except PyError Int32)} (hn : n < 2 ^ 31) (hindex : 0 ≤ index.toInt)
    (h : MeetsNext p n index search) :
    (∃ j, IsLeast (holdsFrom p n index) j ∧ self.readAt search = self.readFound j) ∨
      holdsFrom p n index = ∅ ∧ self.readAt search = some (.ok none, self) := by
  match search, h with
  | some (.ok k), ⟨j, hj, hleast⟩ =>
    have hlt : j < n := hleast.1.2.1
    have hk : k = .ofNat j := by
      apply Int32.toInt_inj.1
      rw [hj, Int32.toInt_ofNat_of_lt (by omega)]
    exact .inl ⟨j, hleast, by rw [hk]; rfl⟩
  | some (.error e), ⟨hkind, hnone⟩ => exact .inr ⟨hnone hindex, if_pos hkind⟩

theorem readAt_of_meetsPrev {p : ℕ → Bool} {n : ℕ} {index : Int32}
    {search : Option (Except PyError Int32)} (hn : n < 2 ^ 31) (h : MeetsPrev p n index search) :
    (∃ j, IsGreatest (holdsUpTo p n index) j ∧ self.readAt search = self.readFound j) ∨
      holdsUpTo p n index = ∅ ∧ self.readAt search = some (.ok none, self) := by
  match search, h with
  | some (.ok k), ⟨j, hj, hgreatest⟩ =>
    have hlt : j < n := hgreatest.1.2.1
    have hk : k = .ofNat j := by
      apply Int32.toInt_inj.1
      rw [hj, Int32.toInt_ofNat_of_lt (by omega)]
    exact .inl ⟨j, hgreatest, by rw [hk]; rfl⟩
  | some (.error e), ⟨hkind, hnone⟩ => exact .inr ⟨hnone, if_pos hkind⟩

/-- There is no record to read: with one file that is `None`, and with several files the
`IndexError` of reading the record at -1. -/
def FindsNone (result : Option (Except PyError (Option (PyRecord L)) × OpenReader L)) : Prop :=
  match self with
  | reader .. => result = some (.ok none, self)
  | multiReader .. => ∃ e, result = some (.error e, self) ∧ e.kind = .indexError

/-- `read_prev_record` from a record of a small file. -/
theorem readPrevRecord_of_lt {streamId recordType : String} {id : StreamId} {type : RecordType}
    (hstream : self.IsEnabled streamId id) (htype : L.toRecordType recordType = type)
    (hvalid : type ≠ .undefined) {i : ℕ} (hi : i < self.recordCount)
    (hsmall : self.recordCount < 2 ^ 31) :
    (∃ j, IsGreatest (holdsUpTo (self.isAt id type) self.recordCount (.ofNat i)) j ∧
      self.readPrevRecord streamId recordType (.ofNat i) = self.readFound j) ∨
    holdsUpTo (self.isAt id type) self.recordCount (.ofNat i) = ∅ ∧
      self.FindsNone (self.readPrevRecord streamId recordType (.ofNat i)) := by
  have hint : (Int32.ofNat i).toInt = i := Int32.toInt_ofNat_of_lt (by omega)
  cases self with
  | reader F D native =>
    have hlt : i < F.index.length := hi
    have hfits : (reader F D native).PrevFits id type (.ofNat i) :=
      show (Int32.ofNat i).toInt < F.index.length by omega
    exact (reader F D native).readAt_of_meetsPrev hsmall
      ((meetsPrev_iff hstream htype hvalid).2 hfits)
  | multiReader F D native =>
    have hlt : i < F.getRecordCount := hi
    by_cases hnone : holdsUpTo ((multiReader F D native).isAt id type) F.getRecordCount
        (.ofNat i) = ∅
    · refine .inr ⟨hnone, ?_⟩
      obtain ⟨hid, henabled⟩ := hstream
      have hsearch : native.getPrevIndex F streamId recordType (.ofNat i) = _ :=
        getPrevIndex_multiReader_eq hvalid D hid henabled htype
      have hlast : lastUpTo ((multiReader F D native).isAt id type) i = none := by
        refine (lastUpTo_eq_none_iff _).2 fun j hj => ?_
        by_contra hat
        have hin : j ∈ holdsUpTo ((multiReader F D native).isAt id type) F.getRecordCount
            (.ofNat i) := ⟨by omega, by omega, by simpa using hat⟩
        rw [hnone] at hin
        exact hin
      rw [hint, if_neg (by omega), if_neg (by omega), Int.toNat_natCast, hlast] at hsearch
      refine ⟨.indexError ("No record at index: " ++ toString (-1 : Int32)), ?_, rfl⟩
      unfold readPrevRecord getPrevIndex
      simp only [hsearch, Option.map_none, Option.getD_none, readAt, readRecord]
      have hread : native.readRecord F D (-1) =
          (.error (.indexError ("No record at index: " ++ toString (-1 : Int32))), native) :=
        if_pos (.inl (by decide))
      rw [hread]
      rfl
    · have hfits : (multiReader F D native).PrevFits id type (.ofNat i) :=
        .inr (iff_of_true (by show (Int32.ofNat i).toInt < F.getRecordCount; omega)
          (Set.nonempty_iff_ne_empty.2 hnone))
      rcases (multiReader F D native).readAt_of_meetsPrev hsmall
        ((meetsPrev_iff hstream htype hvalid).2 hfits) with hfound | hempty
      · exact .inl hfound
      · exact absurd hempty.1 hnone

end OpenReader

/-- Positions in an increasing list are in the order of their items. -/
theorem le_iff_of_getElem? {positions : List ℕ} (hincreasing : positions.Pairwise (· < ·))
    {k l i j : ℕ} (hk : positions[k]? = some i) (hl : positions[l]? = some j) :
    k ≤ l ↔ i ≤ j := by
  rcases lt_trichotomy k l with hlt | rfl | hlt
  · exact iff_of_true hlt.le (rel_of_getElem? hincreasing hlt hk hl).le
  · cases hk.symm.trans hl
    exact iff_of_true le_rfl le_rfl
  · have hji := rel_of_getElem? hincreasing hlt hl hk
    exact iff_of_false (by omega) (by omega)

/-! ## Searching from a filtered record -/

/-- A stream and a type are looked for by their names: the stream is enabled, and the filter keeps
both. -/
structure FilterFields.Seeks (fields : FilterFields) (fnmatch : String → String → Bool)
    (reader : OpenReader L) (streamId recordType : String) (id : StreamId) (type : RecordType) :
    Prop where
  isEnabled : reader.IsEnabled streamId id
  toRecordType_eq : L.toRecordType recordType = type
  valid : type ≠ .undefined
  keepsStream : fields.streamIds.Admits fnmatch (L.getNumericName id)
  keepsType : fields.recordTypes.Admits (fun a b => a = b) (lowercaseTypeName L type)

section Neighbours

variable {filtered : FilteredVRSReader L} {self : OpenReader L}
  {fnmatch : String → String → Bool} {fields : FilterFields} {positions : List ℕ}
  {streamId recordType : String} {id : StreamId} {type : RecordType}
  (h : filtered.Holds self.native fnmatch fields positions)
  (hfile : self.native.Filterable fnmatch)
  (hseeks : fields.Seeks fnmatch self streamId recordType id type)

/-- The positions of the filtered reader that hold a record of the stream and the type. -/
def OpenReader.heldAt (self : OpenReader L) (positions : List ℕ) (id : StreamId)
    (type : RecordType) : Set ℕ :=
  {j | ∃ i, positions[j]? = some i ∧ self.isAt id type i = true}

/-- The record read is the first one held from a position on, of the stream and the type. Where none
is held, it is one past the times of the filter, or there is none. -/
def OpenReader.ReadsNext (self : OpenReader L) (fields : FilterFields) (positions : List ℕ)
    (id : StreamId) (type : RecordType) (k : ℕ)
    (result : Option (Except PyError (Option (PyRecord L)) × OpenReader L)) : Prop :=
  (∃ j i, IsLeast {j | k ≤ j ∧ j ∈ self.heldAt positions id type} j ∧ positions[j]? = some i ∧
    result = self.readFound i) ∨
  (∀ j, k ≤ j → j ∉ self.heldAt positions id type) ∧
    ((∃ i record greatest, self.native.record i = some (id, record) ∧
      fields.maxTimestamp = some greatest ∧ greatest < record.timestamp ∧
      result = self.readFound i) ∨
    result = some (.ok none, self))

/-- The record read is the last one held up to a position, of the stream and the type. Where none is
held, it is one before the times of the filter, or there is none. -/
def OpenReader.ReadsPrev (self : OpenReader L) (fields : FilterFields) (positions : List ℕ)
    (id : StreamId) (type : RecordType) (k : ℕ)
    (result : Option (Except PyError (Option (PyRecord L)) × OpenReader L)) : Prop :=
  (∃ j i, IsGreatest {j | j ≤ k ∧ j ∈ self.heldAt positions id type} j ∧ positions[j]? = some i ∧
    result = self.readFound i) ∨
  (∀ j ≤ k, j ∉ self.heldAt positions id type) ∧
    ((∃ i record least, self.native.record i = some (id, record) ∧
      fields.minTimestamp = some least ∧ record.timestamp < least ∧ result = self.readFound i) ∨
    self.FindsNone result)

include h hfile hseeks

/-- A record of the stream and the type that is not held is before or after the times asked for. -/
theorem FilteredVRSReader.Holds.outside_of_not_mem {i : ℕ} {record : RecordInfo}
    (hi : i ∉ positions) (hrecord : self.native.record i = some (id, record))
    (htype : record.recordType = type) :
    (∃ least, fields.minTimestamp = some least ∧ ¬least ≤ record.timestamp) ∨
      ∃ greatest, fields.maxTimestamp = some greatest ∧ greatest < record.timestamp := by
  by_contra hnot
  rw [not_or] at hnot
  refine hi ((h.mem_iff i).2 ⟨id, record, hrecord, hseeks.keepsStream, ?_, ?_, ?_⟩)
  · rw [htype]
    exact hseeks.keepsType
  · intro least hleast
    by_contra hle
    exact hnot.1 ⟨least, hleast, hle⟩
  · intro greatest hgreatest hnum
    have hnum' := (WithNaN.isNum_of_le (hfile.sorted i i _ _ _ _ le_rfl hrecord hrecord)).1
    refine WithNaN.le_of_not_lt hnum hnum' fun hlt => ?_
    exact hnot.2 ⟨greatest, hgreatest, hlt⟩

omit hseeks in
/-- Nothing is held from a record on that is past the times asked for. -/
theorem FilteredVRSReader.Holds.not_mem_of_late {i j : ℕ} {record : RecordInfo}
    {greatest : Timestamp} (hrecord : self.native.record i = some (id, record))
    (hgreatest : fields.maxTimestamp = some greatest) (hlt : greatest < record.timestamp)
    (hij : i ≤ j) : j ∉ positions := by
  intro hj
  obtain ⟨id', later, hlater, hselects⟩ := (h.mem_iff j).1 hj
  have hpast := hfile.sorted i j _ _ _ _ hij hrecord hlater
  have hnum : greatest.IsNum := (WithNaN.isNum_of_le (WithNaN.le_of_lt hlt)).1
  exact WithNaN.not_le_of_lt (WithNaN.lt_of_lt_of_le hlt hpast)
    (hselects.notAfter greatest hgreatest hnum)

omit hseeks in
/-- Nothing is held up to a record that is before the times asked for. -/
theorem FilteredVRSReader.Holds.not_mem_of_early {i j : ℕ} {record : RecordInfo}
    {least : Timestamp} (hrecord : self.native.record i = some (id, record))
    (hleast : fields.minTimestamp = some least) (hnot : ¬least ≤ record.timestamp)
    (hji : j ≤ i) : j ∉ positions := by
  intro hj
  obtain ⟨id', earlier, hearlier, hselects⟩ := (h.mem_iff j).1 hj
  have hbefore := hfile.sorted j i _ _ _ _ hji hearlier hrecord
  exact hnot (WithNaN.le_trans (hselects.notBefore least hleast) hbefore)

/-- **The search forward from a record held** finds the next one that is held, or else one past the
times of the filter. -/
theorem FilteredVRSReader.Holds.readNextRecord_of_getElem? {k i : ℕ}
    (hk : positions[k]? = some i) :
    self.ReadsNext fields positions id type k
      (self.readNextRecord streamId recordType (.ofNat i)) := by
  have hsmall : self.recordCount < 2 ^ 31 := self.recordCount_eq ▸ hfile.size_lt
  obtain ⟨id₀, record₀, hrecord₀, hselects₀⟩ := h.exists_record hk
  have hi := self.native.lt_of_record hrecord₀
  rw [← self.recordCount_eq] at hi
  have hint : (Int32.ofNat i).toInt = i := Int32.toInt_ofNat_of_lt (by omega)
  have hmeets := (OpenReader.meetsNext_iff hseeks.isEnabled hseeks.toRecordType_eq
    hseeks.valid).2 (self.nextFits_of_lt hi hsmall)
  -- what the filter holds from `k` on is at positions of the file from `i` on
  have hheld : ∀ j i', k ≤ j → positions[j]? = some i' → self.isAt id type i' = true →
      i' ∈ holdsFrom (self.isAt id type) self.recordCount (.ofNat i) := by
    intro j i' hkj hj hat
    have hle := (le_iff_of_getElem? h.increasing hk hj).1 hkj
    refine ⟨?_, self.lt_of_isAt hat, hat⟩
    rw [hint]
    exact Int.ofNat_le.2 hle
  rcases self.readAt_of_meetsNext hsmall (by omega) hmeets with ⟨i', hleast, hread⟩ | ⟨hnone, hread⟩
  · obtain ⟨record, hrecord, htype⟩ := self.isAt_iff.1 hleast.1.2.2
    have hle : i ≤ i' := by
      have hfrom := hleast.1.1
      omega
    by_cases hmem : i' ∈ positions
    · obtain ⟨j, hj⟩ := List.mem_iff_getElem?.1 hmem
      have hkj := (le_iff_of_getElem? h.increasing hk hj).2 hle
      refine .inl ⟨j, i', ⟨⟨hkj, i', hj, hleast.1.2.2⟩, ?_⟩, hj, hread⟩
      rintro l ⟨hkl, i'', hl, hat⟩
      exact (le_iff_of_getElem? h.increasing hj hl).2 (hleast.2 (hheld l i'' hkl hl hat))
    · rcases h.outside_of_not_mem hfile hseeks hmem hrecord htype with
        ⟨least, hleast', hnot⟩ | ⟨greatest, hgreatest, hlt⟩
      · exact absurd (List.mem_of_getElem? hk) (h.not_mem_of_early hfile hrecord hleast' hnot hle)
      · refine .inr ⟨?_, .inl ⟨i', record, greatest, hrecord, hgreatest, hlt, hread⟩⟩
        rintro j hkj ⟨i'', hj, hat⟩
        exact h.not_mem_of_late hfile hrecord hgreatest hlt (hleast.2 (hheld j i'' hkj hj hat))
          (List.mem_of_getElem? hj)
  · refine .inr ⟨?_, .inr hread⟩
    rintro j hkj ⟨i', hj, hat⟩
    have hin := hheld j i' hkj hj hat
    rw [hnone] at hin
    exact hin

/-- **The search backward from a record held** finds the previous one that is held, or else one
before the times of the filter. -/
theorem FilteredVRSReader.Holds.readPrevRecord_of_getElem? {k i : ℕ}
    (hk : positions[k]? = some i) :
    self.ReadsPrev fields positions id type k
      (self.readPrevRecord streamId recordType (.ofNat i)) := by
  have hsmall : self.recordCount < 2 ^ 31 := self.recordCount_eq ▸ hfile.size_lt
  obtain ⟨id₀, record₀, hrecord₀, hselects₀⟩ := h.exists_record hk
  have hi := self.native.lt_of_record hrecord₀
  rw [← self.recordCount_eq] at hi
  have hint : (Int32.ofNat i).toInt = i := Int32.toInt_ofNat_of_lt (by omega)
  have hheld : ∀ j i', j ≤ k → positions[j]? = some i' → self.isAt id type i' = true →
      i' ∈ holdsUpTo (self.isAt id type) self.recordCount (.ofNat i) := by
    intro j i' hjk hj hat
    have hle := (le_iff_of_getElem? h.increasing hj hk).1 hjk
    refine ⟨?_, self.lt_of_isAt hat, hat⟩
    rw [hint]
    exact Int.ofNat_le.2 hle
  rcases self.readPrevRecord_of_lt hseeks.isEnabled hseeks.toRecordType_eq hseeks.valid hi hsmall
    with ⟨i', hgreatest, hread⟩ | ⟨hnone, hread⟩
  · obtain ⟨record, hrecord, htype⟩ := self.isAt_iff.1 hgreatest.1.2.2
    have hle : i' ≤ i := by
      have hupTo := hgreatest.1.1
      omega
    by_cases hmem : i' ∈ positions
    · obtain ⟨j, hj⟩ := List.mem_iff_getElem?.1 hmem
      have hjk := (le_iff_of_getElem? h.increasing hj hk).2 hle
      refine .inl ⟨j, i', ⟨⟨hjk, i', hj, hgreatest.1.2.2⟩, ?_⟩, hj, hread⟩
      rintro l ⟨hlk, i'', hl, hat⟩
      exact (le_iff_of_getElem? h.increasing hl hj).2 (hgreatest.2 (hheld l i'' hlk hl hat))
    · rcases h.outside_of_not_mem hfile hseeks hmem hrecord htype with
        ⟨least, hleast, hnot⟩ | ⟨greatest, hgreatest', hlt⟩
      · have hnum := (WithNaN.isNum_of_le (hselects₀.notBefore least hleast)).1
        have hnum' := (WithNaN.isNum_of_le (hfile.sorted i' i' _ _ _ _ le_rfl hrecord hrecord)).1
        have hlt := WithNaN.lt_of_not_le hnum hnum' hnot
        refine .inr ⟨?_, .inl ⟨i', record, least, hrecord, hleast, hlt, hread⟩⟩
        rintro j hjk ⟨i'', hj, hat⟩
        exact h.not_mem_of_early hfile hrecord hleast hnot (hgreatest.2 (hheld j i'' hjk hj hat))
          (List.mem_of_getElem? hj)
      · exact absurd (List.mem_of_getElem? hk) (h.not_mem_of_late hfile hrecord hgreatest' hlt hle)
  · refine .inr ⟨?_, .inr hread⟩
    rintro j hjk ⟨i', hj, hat⟩
    have hin := hheld j i' hjk hj hat
    rw [hnone] at hin
    exact hin

end Neighbours

namespace FilteredVRSReader

variable {filtered : FilteredVRSReader L} {self : OpenReader L}
  {fnmatch : String → String → Bool} {fields : FilterFields} {positions : List ℕ}
  {streamId recordType : String} {id : StreamId} {type : RecordType}

theorem Holds.eq_of_filteredByFields (hfile : self.native.Filterable fnmatch)
    (hfiltered : (VRSReader.init self.native).filteredByFields fnmatch fields = .ok filtered) :
    ∃ positions, filtered.Holds self.native fnmatch fields positions := by
  obtain ⟨filtered', positions, hfiltered', h⟩ := hfile.exists_holds fields
  cases hfiltered.symm.trans hfiltered'
  exact ⟨positions, h⟩

/-- The index in the file of a position, or the exception past the ends. -/
theorem Holds.getItem_cases (h : filtered.Holds self.native fnmatch fields positions)
    (hfile : self.native.Filterable fnmatch) (index : ℤ) :
    (position filtered.nRecords index = none ∧
      filtered.vrsIndices.getItem index = .error SequenceType.list.outOfRange) ∨
    ∃ k i, position filtered.nRecords index = some k ∧ positions[k]? = some i ∧
      filtered.vrsIndices.getItem index = .ok i := by
  rw [h.nRecords_eq]
  cases hk : position positions.length index with
  | none => exact .inl ⟨rfl, h.getItem_of_position_none hk⟩
  | some k =>
    have hlt := lt_of_position hk
    have hi : positions[k]? = some positions[k] := List.getElem?_eq_getElem hlt
    exact .inr ⟨k, _, rfl, hi, h.getItem_of_position hfile hk hi⟩

/-- **`read_next_record` of a filtered reader** stays in the filter as long as it can: it reads the
first record of the stream and the type that the filter holds from the index on. -/
theorem readNextRecord_nearest (hfile : self.native.Filterable fnmatch)
    (hseeks : fields.Seeks fnmatch self streamId recordType id type)
    (hfiltered : (VRSReader.init self.native).filteredByFields fnmatch fields = .ok filtered) :
    ∃ positions, filtered.filteredIndices = positions.map Int32.ofNat ∧ ∀ index,
      (position filtered.nRecords index = none →
        filtered.readNextRecord self streamId recordType index = some (.ok none, self)) ∧
      ∀ k, position filtered.nRecords index = some k →
        self.ReadsNext fields positions id type k
          (filtered.readNextRecord self streamId recordType index) := by
  obtain ⟨positions, h⟩ := Holds.eq_of_filteredByFields hfile hfiltered
  refine ⟨positions, h.filteredIndices_eq, fun index => ?_⟩
  unfold readNextRecord
  rcases h.getItem_cases hfile index with ⟨hnone, hitem⟩ | ⟨k, i, hk, hi, hitem⟩
  · rw [hitem, hnone]
    exact ⟨fun _ => rfl, nofun⟩
  · rw [hitem, hk]
    refine ⟨nofun, ?_⟩
    rintro _ ⟨⟩
    exact h.readNextRecord_of_getElem? hfile hseeks hi

/-- **`read_prev_record` of a filtered reader** stays in the filter as long as it can: it reads the
last record of the stream and the type that the filter holds up to the index. -/
theorem readPrevRecord_nearest (hfile : self.native.Filterable fnmatch)
    (hseeks : fields.Seeks fnmatch self streamId recordType id type)
    (hfiltered : (VRSReader.init self.native).filteredByFields fnmatch fields = .ok filtered) :
    ∃ positions, filtered.filteredIndices = positions.map Int32.ofNat ∧ ∀ index,
      (position filtered.nRecords index = none →
        filtered.readPrevRecord self streamId recordType index =
          some (.error SequenceType.list.outOfRange, self)) ∧
      ∀ k, position filtered.nRecords index = some k →
        self.ReadsPrev fields positions id type k
          (filtered.readPrevRecord self streamId recordType index) := by
  obtain ⟨positions, h⟩ := Holds.eq_of_filteredByFields hfile hfiltered
  refine ⟨positions, h.filteredIndices_eq, fun index => ?_⟩
  unfold readPrevRecord
  rcases h.getItem_cases hfile index with ⟨hnone, hitem⟩ | ⟨k, i, hk, hi, hitem⟩
  · rw [hitem, hnone]
    exact ⟨fun _ => rfl, nofun⟩
  · rw [hitem, hk]
    refine ⟨nofun, ?_⟩
    rintro _ ⟨⟩
    exact h.readPrevRecord_of_getElem? hfile hseeks hi

end FilteredVRSReader

theorem seeks_dataBetween :
    dataBetween.Seeks (fun name pattern => name = pattern) reconfiguredOpen "1201-1" "data"
      ⟨1201, 1⟩ .data where
  isEnabled := ⟨by decide +kernel, Finset.mem_insert_self _ _⟩
  toRecordType_eq := by decide +kernel
  valid := by decide
  keepsStream := trivial
  keepsType := show decide (lowercaseTypeName VrsLib.bare .data = "data") = true by decide +kernel

theorem readNextRecord_nearest_dataBetween :
    ∃ filtered, (VRSReader.init reconfiguredOpen.native).filteredByFields
        (fun name pattern => name = pattern) dataBetween = .ok filtered ∧
      ∃ positions, filtered.filteredIndices = positions.map Int32.ofNat ∧ ∀ index,
        (position filtered.nRecords index = none →
          filtered.readNextRecord reconfiguredOpen "1201-1" "data" index =
            some (.ok none, reconfiguredOpen)) ∧
        ∀ k, position filtered.nRecords index = some k →
          reconfiguredOpen.ReadsNext dataBetween positions ⟨1201, 1⟩ .data k
            (filtered.readNextRecord reconfiguredOpen "1201-1" "data" index) := by
  obtain ⟨filtered, -, hfiltered, -⟩ := filterable_reconfiguredOpen.exists_holds dataBetween
  exact ⟨filtered, hfiltered, FilteredVRSReader.readNextRecord_nearest filterable_reconfiguredOpen
    seeks_dataBetween hfiltered⟩

theorem readPrevRecord_nearest_dataBetween :
    ∃ filtered, (VRSReader.init reconfiguredOpen.native).filteredByFields
        (fun name pattern => name = pattern) dataBetween = .ok filtered ∧
      ∃ positions, filtered.filteredIndices = positions.map Int32.ofNat ∧ ∀ index,
        (position filtered.nRecords index = none →
          filtered.readPrevRecord reconfiguredOpen "1201-1" "data" index =
            some (.error SequenceType.list.outOfRange, reconfiguredOpen)) ∧
        ∀ k, position filtered.nRecords index = some k →
          reconfiguredOpen.ReadsPrev dataBetween positions ⟨1201, 1⟩ .data k
            (filtered.readPrevRecord reconfiguredOpen "1201-1" "data" index) := by
  obtain ⟨filtered, -, hfiltered, -⟩ := filterable_reconfiguredOpen.exists_holds dataBetween
  exact ⟨filtered, hfiltered, FilteredVRSReader.readPrevRecord_nearest filterable_reconfiguredOpen
    seeks_dataBetween hfiltered⟩

end Pyvrs
