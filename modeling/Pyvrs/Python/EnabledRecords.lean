import Mathlib.Data.Finset.Card
import Pyvrs.Python.RecordPages
import Pyvrs.Reader.Settings

/-!
# The records of the enabled streams

`getEnabledStreamsRecordsInfo` goes through the index for the records of the streams enabled, unless
as many streams are enabled as there are: then it takes all records. That is the same if the streams
enabled are streams of the file, which every call that enables streams preserves
(`listsEnabled`).
-/

namespace Pyvrs

open Foundations

variable {L : VrsLib}

/-! ## The readers -/

/-- The loop of `getEnabledStreamsRecordsInfo`, from the record at `recordIndex` on. -/
def enabledRecordInfos (streamOf : ℕ → RecordInfo → StreamId)
    (getRecordInfo : ℕ → RecordInfo → RecordInfoDict) (enabledStreams : Finset StreamId) :
    List RecordInfo → ℕ → List RecordInfoDict
  | [], _ => []
  | record :: records, recordIndex =>
    let later := enabledRecordInfos streamOf getRecordInfo enabledStreams records (recordIndex + 1)
    if streamOf recordIndex record ∈ enabledStreams then
      getRecordInfo recordIndex record :: later
    else later

/-- `getEnabledStreamsRecordsInfo`, `none` if `recordIndex` overflows. -/
def OssVRSReader.getEnabledStreamsRecordsInfo (F : RecordFileReader L) (reader : OssVRSReader L) :
    Option (List RecordInfoDict) :=
  if reader.enabledStreams.card = F.streams.length then getAllRecordsInfo F
  else if 0 < reader.enabledStreams.card then
    if 2 ^ 31 ≤ F.index.length then none
    else some (enabledRecordInfos (fun _ record => record.streamId)
      (fun recordIndex record => getRecordInfo F record recordIndex) reader.enabledStreams
      F.index 0)
  else some []

/-- `getEnabledStreamsRecordsInfo`, `none` if `recordIndex` overflows. -/
def OssMultiVRSReader.getEnabledStreamsRecordsInfo (F : MultiRecordFileReader L)
    (reader : OssMultiVRSReader L) : Option (List RecordInfoDict) :=
  if reader.enabledStreams.card = F.streams.length then getAllRecordsInfo F
  else if 0 < reader.enabledStreams.card then
    if 2 ^ 31 ≤ F.getRecordCount then none
    else some (enabledRecordInfos (fun i _ => F.getUniqueStreamId i)
      (fun recordIndex record => getRecordInfo F record recordIndex) reader.enabledStreams
      F.records 0)
  else some []

/-! ## What the listing is for -/

/-- Of entries with their streams, those whose stream is enabled. -/
def enabledEntries (enabledStreams : Finset StreamId) (streams : List StreamId)
    (entries : List RecordInfoDict) : List RecordInfoDict :=
  ((streams.zip entries).filter fun (id, _) => id ∈ enabledStreams).map Prod.snd

/-- The listing is that of all records, where there is one, with only those of the streams
enabled. -/
def OssVRSReader.ListsEnabled (F : RecordFileReader L) (reader : OssVRSReader L) : Prop :=
  ∀ entries, getAllRecordsInfo F = some entries →
    reader.getEnabledStreamsRecordsInfo F =
      some (enabledEntries reader.enabledStreams (F.index.map RecordInfo.streamId) entries)

/-- The same with several files, whose records belong to unique streams. -/
def OssMultiVRSReader.ListsEnabled (F : MultiRecordFileReader L) (reader : OssMultiVRSReader L) :
    Prop :=
  ∀ entries, getAllRecordsInfo F = some entries →
    reader.getEnabledStreamsRecordsInfo F =
      some (enabledEntries reader.enabledStreams
        (F.records.mapIdx fun i _ => F.getUniqueStreamId i) entries)

/-- The streams of a file are a set, and it only finds its own. -/
structure FindsOwnStreams (streams : List StreamId) (getStreamForName : String → Option StreamId)
    (getStreamsOf : RecordableTypeId → String → List StreamId) : Prop where
  nodup : streams.Nodup
  mem_of_getStreamForName : ∀ streamId id, getStreamForName streamId = some id → id ∈ streams
  mem_of_getStreamsOf : ∀ typeId flavor, ∀ id ∈ getStreamsOf typeId flavor, id ∈ streams

/-! ## The loop and its shortcut -/

section Entries

variable {enabledStreams : Finset StreamId} {streams : List StreamId}

/-- The loop finds the entries of the streams enabled. -/
theorem enabledRecordInfos_eq (streamOf : ℕ → RecordInfo → StreamId)
    (getRecordInfo : ℕ → RecordInfo → RecordInfoDict) (enabledStreams : Finset StreamId)
    (records : List RecordInfo) (first : ℕ) :
    enabledRecordInfos streamOf getRecordInfo enabledStreams records first =
      enabledEntries enabledStreams (records.mapIdx fun i => streamOf (first + i))
        (records.mapIdx fun i => getRecordInfo (first + i)) := by
  induction records generalizing first with
  | nil => rfl
  | cons record records ih =>
    have hnext : ∀ i, first + 1 + i = first + (i + 1) := fun i => by omega
    rw [enabledRecordInfos, ih]
    unfold enabledEntries
    rw [List.mapIdx_cons, List.mapIdx_cons, List.zip_cons_cons, List.filter_cons]
    simp only [hnext, Nat.add_zero, decide_eq_true_eq]
    split <;> rfl

theorem enabledEntries_empty (streams : List StreamId) (entries : List RecordInfoDict) :
    enabledEntries ∅ streams entries = [] := by
  unfold enabledEntries
  rw [List.map_eq_nil_iff, List.filter_eq_nil_iff]
  rintro ⟨id, entry⟩ _
  simp

/-- With every stream enabled, the entries are all of them. -/
theorem enabledEntries_of_forall {entries : List RecordInfoDict}
    (h : ∀ id ∈ streams, id ∈ enabledStreams) (hlength : entries.length ≤ streams.length) :
    enabledEntries enabledStreams streams entries = entries := by
  unfold enabledEntries
  rw [List.filter_eq_self.2, List.map_snd_zip hlength]
  rintro ⟨id, entry⟩ hmem
  exact decide_eq_true (h id (List.of_mem_zip hmem).1)

/-- **The shortcut**: as many streams of the file as it has are all of them. -/
theorem mem_of_card_eq (hstreams : streams.Nodup) (hown : ∀ id ∈ enabledStreams, id ∈ streams)
    (hcard : enabledStreams.card = streams.length) {id : StreamId} (hid : id ∈ streams) :
    id ∈ enabledStreams := by
  have hsubset : enabledStreams ⊆ streams.toFinset := fun id h => List.mem_toFinset.2 (hown id h)
  have hall : enabledStreams = streams.toFinset :=
    Finset.eq_of_subset_of_card_le hsubset
      ((List.toFinset_card_of_nodup hstreams).trans hcard.symm).le
  rw [hall]
  exact List.mem_toFinset.2 hid

end Entries

/-! ## Runs of calls -/

namespace OssVRSReader

variable {F : RecordFileReader L} {D : Native L} {reader : OssVRSReader L}

/-- A call only enables streams of the file. -/
theorem mem_streams_of_enables
    (hown : FindsOwnStreams F.streams F.getStreamForName F.getStreamsOf) {c : Call} {id : StreamId}
    (h : id ∈ enables F c) : id ∈ F.streams := by
  cases c with
  | enableStream streamId =>
    exact hown.mem_of_getStreamForName streamId id (Option.mem_toList.1 h)
  | enableStreams typeId flavor => exact hown.mem_of_getStreamsOf typeId flavor id h
  | enableStreamsByIndexes indexes =>
    obtain ⟨index, -, hindex⟩ := List.mem_filterMap.1 h
    split at hindex
    · cases hindex
    · exact List.mem_of_mem_filter (List.mem_of_getElem? hindex)
  | enableAllStreams => exact h
  | _ => cases h

/-- The streams enabled in a run are streams of the file. -/
theorem mem_streams_of_enabled
    (hown : FindsOwnStreams F.streams F.getStreamForName F.getStreamsOf)
    (hreader : ∀ id ∈ reader.enabledStreams, id ∈ F.streams) (calls : List Call) :
    ∀ id ∈ ((call F D).exec reader calls).enabledStreams, id ∈ F.streams := by
  refine Machine.exec_of_invariant
    (I := fun reader : OssVRSReader L => ∀ id ∈ reader.enabledStreams, id ∈ F.streams)
    (fun reader c h id hid => ?_) hreader calls
  rw [enabledStreams_call, Finset.mem_union] at hid
  rcases hid with hold | hnew
  · exact h id hold
  · exact mem_streams_of_enables hown (List.mem_toFinset.1 hnew)

/-- A reader with streams of the file enabled lists their records. -/
theorem listsEnabled_of_mem_streams (hstreams : F.streams.Nodup)
    (hreader : ∀ id ∈ reader.enabledStreams, id ∈ F.streams) : reader.ListsEnabled F := by
  intro entries hentries
  have hfew : ¬2 ^ 31 ≤ F.index.length := fun hmany => by
    rw [getAllRecordsInfo, if_pos hmany] at hentries
    cases hentries
  have hall : recordInfos F = entries := by
    rwa [getAllRecordsInfo, if_neg hfew, Option.some.injEq] at hentries
  unfold getEnabledStreamsRecordsInfo
  by_cases hcard : reader.enabledStreams.card = F.streams.length
  · rw [if_pos hcard, hentries, enabledEntries_of_forall]
    · intro id hid
      obtain ⟨record, hrecord, rfl⟩ := List.mem_map.1 hid
      exact mem_of_card_eq hstreams hreader hcard (F.mem_streams record hrecord)
    · rw [← hall, recordInfos, List.length_mapIdx, List.length_map]
  · rw [if_neg hcard]
    by_cases hpos : 0 < reader.enabledStreams.card
    · have hmap : F.index.map RecordInfo.streamId =
          F.index.mapIdx fun _ record => record.streamId :=
        (List.mapIdx_eq_iff.2 fun i => List.getElem?_map).symm
      rw [if_pos hpos, if_neg hfew, enabledRecordInfos_eq, ← hall, recordInfos, hmap]
      simp only [Nat.zero_add]
    · rw [if_neg hpos, Finset.card_eq_zero.1 (Nat.eq_zero_of_not_pos hpos), enabledEntries_empty]

end OssVRSReader

namespace OssMultiVRSReader

variable {F : MultiRecordFileReader L} {D : Native L} {reader : OssMultiVRSReader L}

/-- A call only enables streams of the file. -/
theorem mem_streams_of_enables
    (hown : FindsOwnStreams F.streams F.getStreamForName F.getStreamsOf) {c : Call} {id : StreamId}
    (h : id ∈ enables F c) : id ∈ F.streams := by
  cases c with
  | enableStream streamId =>
    exact hown.mem_of_getStreamForName streamId id (Option.mem_toList.1 h)
  | enableStreams typeId flavor => exact hown.mem_of_getStreamsOf typeId flavor id h
  | enableStreamsByIndexes indexes =>
    obtain ⟨index, -, hindex⟩ := List.mem_filterMap.1 h
    split at hindex
    · cases hindex
    · exact List.mem_of_mem_filter (List.mem_of_getElem? hindex)
  | enableAllStreams => exact h
  | _ => cases h

/-- The streams enabled in a run are streams of the file. -/
theorem mem_streams_of_enabled
    (hown : FindsOwnStreams F.streams F.getStreamForName F.getStreamsOf)
    (hreader : ∀ id ∈ reader.enabledStreams, id ∈ F.streams) (calls : List Call) :
    ∀ id ∈ ((call F D).exec reader calls).enabledStreams, id ∈ F.streams := by
  refine Machine.exec_of_invariant
    (I := fun reader : OssMultiVRSReader L => ∀ id ∈ reader.enabledStreams, id ∈ F.streams)
    (fun reader c h id hid => ?_) hreader calls
  rw [enabledStreams_call, Finset.mem_union] at hid
  rcases hid with hold | hnew
  · exact h id hold
  · exact mem_streams_of_enables hown (List.mem_toFinset.1 hnew)

/-- A reader with streams of the file enabled lists their records. -/
theorem listsEnabled_of_mem_streams (hstreams : F.streams.Nodup)
    (hreader : ∀ id ∈ reader.enabledStreams, id ∈ F.streams) : reader.ListsEnabled F := by
  intro entries hentries
  have hfew : ¬2 ^ 31 ≤ F.getRecordCount := fun hmany => by
    rw [getAllRecordsInfo, if_pos hmany] at hentries
    cases hentries
  have hall : recordInfos F = entries := by
    rwa [getAllRecordsInfo, if_neg hfew, Option.some.injEq] at hentries
  unfold getEnabledStreamsRecordsInfo
  by_cases hcard : reader.enabledStreams.card = F.streams.length
  · rw [if_pos hcard, hentries, enabledEntries_of_forall]
    · intro id hid
      obtain ⟨i, hi, rfl⟩ := List.mem_mapIdx.1 hid
      exact mem_of_card_eq hstreams hreader hcard (F.mem_streams i hi)
    · rw [← hall, recordInfos, List.length_mapIdx, List.length_mapIdx]
  · rw [if_neg hcard]
    by_cases hpos : 0 < reader.enabledStreams.card
    · rw [if_pos hpos, if_neg hfew, enabledRecordInfos_eq, ← hall, recordInfos]
      simp only [Nat.zero_add]
    · rw [if_neg hpos, Finset.card_eq_zero.1 (Nat.eq_zero_of_not_pos hpos), enabledEntries_empty]

end OssMultiVRSReader

/-- **The listing of the enabled streams is right**, after any calls on a reader opened once, of one
file or of several. -/
theorem listsEnabled (autoReadConfigurationRecord : Bool) (calls : List Call) :
    (∀ (F : RecordFileReader L) (D : Native L),
      FindsOwnStreams F.streams F.getStreamForName F.getStreamsOf →
      ((OssVRSReader.call F D).exec ((OssVRSReader.new autoReadConfigurationRecord).open F)
        calls).ListsEnabled F) ∧
    ∀ (F : MultiRecordFileReader L) (D : Native L),
      FindsOwnStreams F.streams F.getStreamForName F.getStreamsOf →
      ((OssMultiVRSReader.call F D).exec
        ((OssMultiVRSReader.new autoReadConfigurationRecord).open F) calls).ListsEnabled F := by
  constructor
  · intro F D hown
    refine OssVRSReader.listsEnabled_of_mem_streams hown.nodup ?_
    exact OssVRSReader.mem_streams_of_enabled hown
      (fun id hid => absurd hid (Finset.notMem_empty id)) calls
  · intro F D hown
    refine OssMultiVRSReader.listsEnabled_of_mem_streams hown.nodup ?_
    exact OssMultiVRSReader.mem_streams_of_enabled hown
      (fun id hid => absurd hid (Finset.notMem_empty id)) calls

/-- A file known by its index finds its own streams, and has each of them once if it has a record of
each. -/
theorem RecordFileReader.findsOwnStreams_ofIndex {index : List RecordInfo}
    {length_index_lt : index.length < 2 ^ 32} (h : (index.map RecordInfo.streamId).Nodup) :
    FindsOwnStreams (ofIndex L index length_index_lt).streams
      (ofIndex L index length_index_lt).getStreamForName
      (ofIndex L index length_index_lt).getStreamsOf where
  nodup := h
  mem_of_getStreamForName _ _ hid := List.mem_of_find?_eq_some hid
  mem_of_getStreamsOf _ _ _ hid := List.mem_of_mem_filter hid

/-- A file with a data record of each of two streams. -/
def twoStreamFile : RecordFileReader .bare :=
  .ofIndex .bare [⟨.ofRat 0, ⟨1201, 1⟩, .data⟩, ⟨.ofRat 1, ⟨1201, 2⟩, .data⟩] (by decide)

theorem listsEnabled_twoStreamFile :
    ((OssVRSReader.call twoStreamFile (.blank _)).exec
      ((OssVRSReader.new false).open twoStreamFile)
      [.enableStream "1201-2", .enableStream "1201-2"]).ListsEnabled twoStreamFile ∧
    ((OssMultiVRSReader.call (.ofFile twoStreamFile) (.blank _)).exec
      ((OssMultiVRSReader.new false).open (.ofFile twoStreamFile))
      [.enableStream "1201-2", .enableStream "1201-2"]).ListsEnabled (.ofFile twoStreamFile) :=
  have hown := RecordFileReader.findsOwnStreams_ofIndex (L := .bare) (by decide)
  ⟨(listsEnabled false _).1 twoStreamFile (.blank _) hown,
    (listsEnabled false _).2 (.ofFile twoStreamFile) (.blank _) hown⟩

end Pyvrs
