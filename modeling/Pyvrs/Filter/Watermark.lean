import Pyvrs.Filter.InOrder

/-!
# No record below the watermark

`onRecordDecoded(t)` lets the throttled writer write out everything up to `t`. Two producers create
records after it, the copiers ahead of the caller and `pendingRecords_` behind it. Both take the
records of `records_` at later positions than the one `t` is from: the copiers from the cursor on,
`pendingRecords_` from its first key on (`Watermarked`). So none comes too late if `records_` is in
the order of time (`watermark_safe`).
-/

namespace Pyvrs

open Foundations FilterHistory

/-- The record that an event creates. -/
def OutputEvent.created {L : VrsLib} : OutputEvent L → Option (OutputRecord L)
  | .copied _ record | .processed _ record => some record
  | .recordDecoded _ => none

/-- Once `onRecordDecoded(t)` was called no record below `t` is created. -/
def WatermarkSafe {L : VrsLib} (output : List (OutputEvent L)) : Prop :=
  output.Pairwise fun event later => ∀ t record, event = .recordDecoded t →
    later.created = some record → ¬record.timestamp < t

/-- Records in the order of time: none is before an earlier one. -/
def SortedByTimestamp (records : List RecordInfo) : Prop :=
  records.Pairwise fun record later => ¬later.timestamp < record.timestamp

theorem watermarkSafe_of_copied {L : VrsLib} (records : List (OutputRecord L)) :
    WatermarkSafe (records.map (OutputEvent.copied none)) := by
  refine List.pairwise_map.2 (List.pairwise_of_forall fun _ _ => ?_)
  intro t record hevent
  cases hevent

/-- Events after the watermarks so far. -/
theorem WatermarkSafe.append {L : VrsLib} {output events : List (OutputEvent L)}
    (h : WatermarkSafe output)
    (hevents : WatermarkSafe events)
    (hlate : ∀ t, .recordDecoded t ∈ output → ∀ event ∈ events, ∀ record,
      event.created = some record → ¬record.timestamp < t) : WatermarkSafe (output ++ events) := by
  refine List.pairwise_append.2 ⟨h, hevents, fun event hevent later hlater t record ht => ?_⟩
  subst ht
  exact hlate t hevent later hlater record

namespace OssAsyncImageFilter

variable {L : VrsLib} {N : FilterNative L} {filter₀ filter : OssAsyncImageFilter L}

theorem not_lt_recordAt (hsorted : SortedByTimestamp filter₀.records) {i j : ℕ} (hij : i < j)
    (hj : j < filter₀.records.length) :
    ¬(filter₀.recordAt j).timestamp < (filter₀.recordAt i).timestamp := by
  have hat : ∀ k, (hk : k < filter₀.records.length) →
      filter₀.recordAt k = filter₀.records[k] := by
    intro k hk
    unfold recordAt
    rw [List.getD_eq_getElem?_getD, List.getElem?_eq_getElem hk]
    rfl
  rw [hat i (hij.trans hj), hat j hj]
  exact List.pairwise_iff_getElem.1 hsorted i j (hij.trans hj) hj hij

variable (filter₀) in
/-- Every watermark is the timestamp of a record before the cursor and before all that is
pending. -/
structure Watermarked (filter : OssAsyncImageFilter L) : Prop where
  safe : WatermarkSafe filter.output
  behind : ∀ t, .recordDecoded t ∈ filter.output → ∃ m, (filter₀.recordAt m).timestamp = t ∧
    m < filter.nextRecordIndex ∧ ∀ e ∈ filter.pendingRecords.entries, m < e.1

theorem Started.watermarked {F : FilteredFileReader L} (h : Started filter₀ F) :
    Watermarked filter₀ filter₀ := by
  obtain ⟨records, houtput⟩ := h.output_eq
  constructor
  · rw [houtput]
    exact watermarkSafe_of_copied records
  · intro t ht
    rw [houtput] at ht
    obtain ⟨record, -, hevent⟩ := List.mem_map.1 ht
    cases hevent

/-- A record that a copier creates is the one at the cursor. -/
theorem Watermarked.copyNext (h : Watermarked filter₀ filter) (hsource : SameSource filter filter₀)
    (hsorted : SortedByTimestamp filter₀.records)
    (hlt : filter.nextRecordIndex < filter.records.length) :
    Watermarked filter₀ (filter.copyNext N) := by
  have hcopied : ∀ event ∈ filter.copiedAt N filter.nextRecordIndex, ∃ record,
      event = .copied (some filter.nextRecordIndex) record ∧
        record.timestamp = (filter₀.recordAt filter.nextRecordIndex).timestamp := by
    intro event hevent
    obtain ⟨content, -, rfl⟩ := List.mem_map.1 hevent
    rw [hsource.recordAt_eq]
    exact ⟨_, rfl, rfl⟩
  constructor
  · apply h.safe.append
    · refine List.pairwise_of_forall_mem_list fun event hevent _ _ t record ht => ?_
      obtain ⟨_, rfl, -⟩ := hcopied event hevent
      cases ht
    · intro t ht event hevent record hrecord
      obtain ⟨m, rfl, hm, -⟩ := h.behind t ht
      obtain ⟨_, rfl, htimestamp⟩ := hcopied event hevent
      cases hrecord
      rw [htimestamp]
      exact not_lt_recordAt hsorted hm (hsource.records_eq ▸ hlt)
  · intro t ht
    rcases List.mem_append.1 ht with ht | ht
    · obtain ⟨m, hm, hlt', hpending⟩ := h.behind t ht
      exact ⟨m, hm, hlt'.trans (Nat.lt_succ_self _), hpending⟩
    · obtain ⟨_, hevent, -⟩ := hcopied _ ht
      cases hevent

/-- A record set aside is pending at the cursor, past all before it. -/
theorem Watermarked.parkNext (h : Watermarked filter₀ filter)
    (hkeys : ∀ e ∈ filter.pendingRecords.entries, e.1 < filter.nextRecordIndex)
    (pending : OssPendingRecord L) : Watermarked filter₀ (filter.parkNext pending) := by
  refine ⟨h.safe, fun t ht => ?_⟩
  obtain ⟨m, hm, hlt, hpending⟩ := h.behind t ht
  refine ⟨m, hm, hlt.trans (Nat.lt_succ_self _), fun e he => ?_⟩
  have hentries := filter.pendingRecords.entries_insert_of_forall_lt hkeys (pending.withBuffer [])
  rw [OssAsyncImageFilter.parkNext, hentries, List.mem_append, List.mem_singleton] at he
  rcases he with he | rfl
  · exact hpending e he
  · exact hlt

/-- The records created of what is pending are past the watermarks so far. -/
theorem Watermarked.safe_processed (h : Watermarked filter₀ filter)
    (hsource : SameSource filter filter₀) (hsorted : SortedByTimestamp filter₀.records)
    (hkeys : ∀ e ∈ filter.pendingRecords.entries, e.1 < filter.nextRecordIndex)
    (hlength : filter.nextRecordIndex ≤ filter.records.length)
    {done : List (ℕ × OssPendingRecord L)}
    (hdone : ∀ e ∈ done, e ∈ filter.pendingRecords.entries) :
    WatermarkSafe (filter.output ++
      done.map fun e => .processed e.1 (filter.processedRecord e.1 e.2)) := by
  apply h.safe.append
  · refine List.pairwise_of_forall_mem_list fun event hevent _ _ t record ht => ?_
    obtain ⟨e, -, rfl⟩ := List.mem_map.1 hevent
    cases ht
  · intro t ht event hevent record hrecord
    obtain ⟨m, rfl, hm, hpending⟩ := h.behind t ht
    obtain ⟨e, he, rfl⟩ := List.mem_map.1 hevent
    cases hrecord
    show ¬(filter.recordAt e.1).timestamp < _
    rw [hsource.recordAt_eq]
    have hlt := (hkeys e (hdone e he)).trans_le (hsource.records_eq ▸ hlength)
    exact not_lt_recordAt hsorted (hpending e (hdone e he)) hlt

/-- The timestamp reported is that of the last record created, which is before all that is left. -/
theorem exists_last_of_isNum {done left : List (ℕ × OssPendingRecord L)}
    (hsorted : (done ++ left).Pairwise fun e e' => e.1 < e'.1)
    (hnum : (done.foldl (fun _ e => (filter.recordAt e.1).timestamp) WithNaN.nan).IsNum) :
    ∃ e ∈ done, done.foldl (fun _ e => (filter.recordAt e.1).timestamp) WithNaN.nan =
      (filter.recordAt e.1).timestamp ∧ ∀ e' ∈ left, e.1 < e'.1 := by
  rcases List.eq_nil_or_concat done with rfl | ⟨init, e, rfl⟩
  · exact absurd hnum WithNaN.not_isNum_nan
  · rw [List.concat_eq_append] at hsorted ⊢
    have he : e ∈ init ++ [e] := List.mem_append_right _ (List.mem_singleton_self e)
    refine ⟨e, he, ?_, (List.pairwise_append.1 hsorted).2.2 e he⟩
    rw [List.foldl_append]
    rfl

/-- **What is ready leaves**: each record is past the watermarks so far, and the one reported at the
end is before all that is left. -/
theorem Watermarked.processPendingRecords (h : Watermarked filter₀ filter)
    (hsource : SameSource filter filter₀) (hsorted : SortedByTimestamp filter₀.records)
    (hkeys : ∀ e ∈ filter.pendingRecords.entries, e.1 < filter.nextRecordIndex)
    (hlength : filter.nextRecordIndex ≤ filter.records.length) :
    Watermarked filter₀ filter.processPendingRecords := by
  let done := filter.pendingRecords.frontWhile ready
  let left := (filter.pendingRecords.dropWhile ready).entries
  let timestamp := done.foldl (fun _ e => (filter.recordAt e.1).timestamp) WithNaN.nan
  let created : List (OutputEvent L) :=
    done.map fun e => .processed e.1 (filter.processedRecord e.1 e.2)
  have hsplit : done ++ left = filter.pendingRecords.entries := List.takeWhile_append_dropWhile
  have hdone : ∀ e ∈ done, e ∈ filter.pendingRecords.entries :=
    fun e he => hsplit ▸ List.mem_append_left _ he
  have hleft : ∀ e ∈ left, e ∈ filter.pendingRecords.entries :=
    fun e he => hsplit ▸ List.mem_append_right _ he
  have houtput : filter.processPendingRecords.output =
      filter.output ++ created ++ if timestamp.IsNum then [.recordDecoded timestamp] else [] := rfl
  constructor
  · rw [houtput]
    apply (h.safe_processed hsource hsorted hkeys hlength hdone).append
    · split
      · exact List.pairwise_singleton _ _
      · exact List.Pairwise.nil
    · intro t _ event hevent record hrecord
      split at hevent
      · rw [List.mem_singleton.1 hevent] at hrecord
        cases hrecord
      · cases hevent
  · intro t ht
    rw [houtput, List.mem_append, List.mem_append] at ht
    rcases ht with (ht | ht) | ht
    · obtain ⟨m, hm, hlt, hpending⟩ := h.behind t ht
      exact ⟨m, hm, hlt, fun e he => hpending e (hleft e he)⟩
    · obtain ⟨e, -, hevent⟩ := List.mem_map.1 ht
      cases hevent
    · split at ht
      · rename_i hnum
        obtain ⟨e, he, htimestamp, hlt⟩ :=
          exists_last_of_isNum (hsplit.symm ▸ filter.pendingRecords.sorted) hnum
        cases List.mem_singleton.1 ht
        exact ⟨e.1, hsource.recordAt_eq e.1 ▸ htimestamp.symm, hkeys e (hdone e he), hlt⟩
      · cases ht

theorem Buffered.keys_lt {t : List (FilterCall × FilterReply)} (h : Buffered N filter₀ filter t) :
    ∀ e ∈ filter.pendingRecords.entries, e.1 < filter.nextRecordIndex := by
  intro e he
  rw [h.holds] at he
  exact h.handedOut_lt e.1 (ReorderBuffer.mem_of_mem_held he).1

/-- An answer changes the entry of one key and adds none. -/
theorem Watermarked.answer {t : List (FilterCall × FilterReply)} (h : Watermarked filter₀ filter)
    (hbuffered : Buffered N filter₀ filter t) (hsorted : SortedByTimestamp filter₀.records) {i : ℕ}
    {pending : OssPendingRecord L} (hawaiting : filter.awaiting i = some pending)
    (pending' : Option (OssPendingRecord L)) :
    Watermarked filter₀ (filter.answer i pending') := by
  have hmem := filter.pendingRecords.find?_eq_some_iff.1
    (filter.awaiting_eq_some_iff.1 hawaiting).1
  have hkeys : ∀ e ∈ (filter.pendingRecords.alter i pending').entries,
      ∃ e' ∈ filter.pendingRecords.entries, e'.1 = e.1 := by
    intro e he
    rw [filter.pendingRecords.entries_alter_of_mem hmem, List.mem_filterMap] at he
    obtain ⟨e', he', hchange⟩ := he
    refine ⟨e', he', ?_⟩
    split at hchange
    · rename_i hkey
      obtain ⟨_, -, rfl⟩ := Option.map_eq_some_iff.1 hchange
      exact hkey
    · cases hchange
      rfl
  let altered := { filter with pendingRecords := filter.pendingRecords.alter i pending' }
  have haltered : Watermarked filter₀ altered := by
    refine ⟨h.safe, fun t ht => ?_⟩
    obtain ⟨m, hm, hlt, hpending⟩ := h.behind t ht
    refine ⟨m, hm, hlt, fun e he => ?_⟩
    obtain ⟨e', he', hkey⟩ := hkeys e he
    exact hkey ▸ hpending e' he'
  refine haltered.processPendingRecords ⟨hbuffered.records_eq, hbuffered.copiers_eq⟩ hsorted
    (fun e he => ?_) hbuffered.next_le
  obtain ⟨e', he', hkey⟩ := hkeys e he
  exact hkey ▸ hbuffered.keys_lt e' he'

/-- **Every call keeps the watermarks.** -/
theorem Watermarked.call {t : List (FilterCall × FilterReply)} (h : Watermarked filter₀ filter)
    (hbuffered : Buffered N filter₀ filter t) (hsorted : SortedByTimestamp filter₀.records)
    (c : FilterCall) : Watermarked filter₀ (call N filter c).2 := by
  cases c with
  | getNextImage =>
    refine filter.getNextImage_rule N
      (I := fun filter => Watermarked filter₀ filter ∧ Buffered N filter₀ filter t)
      (Q := fun _ filter => Watermarked filter₀ filter) ?_ ?_ ?_ ⟨h, hbuffered⟩
    · rintro filter ⟨h, hbuffered⟩ hlt -
      exact ⟨h.copyNext hbuffered.toSameSource hsorted hlt, hbuffered.copyNext hlt⟩
    · rintro filter pending ⟨h, hbuffered⟩ - -
      exact h.parkNext hbuffered.keys_lt pending
    · rintro filter ⟨h, -⟩
      exact h
  | writeProcessedImage i processedImage =>
    cases hawaiting : filter.awaiting i with
    | none =>
      rw [filter.call_writeProcessedImage_of_none N hawaiting]
      exact h
    | some pending =>
      rw [filter.call_writeProcessedImage_of_some N hawaiting]
      exact h.answer hbuffered hsorted hawaiting _
  | discardRecord i =>
    cases hawaiting : filter.awaiting i with
    | none =>
      rw [filter.call_discardRecord_of_none N hawaiting]
      exact h
    | some pending =>
      rw [filter.call_discardRecord_of_some N hawaiting]
      exact h.answer hbuffered hsorted hawaiting none

/-- **No record is created below a watermark**, if `records_` is in the order of time. -/
theorem watermark_safe (F : FilteredFileReader L) (N : FilterNative L) (calls : List FilterCall)
    (hsorted : SortedByTimestamp
      ((new : OssAsyncImageFilter L).createOutputFile F N).2.records) :
    WatermarkSafe (Machine.exec (call N)
      ((new : OssAsyncImageFilter L).createOutputFile F N).2 calls).output := by
  let created := ((new : OssAsyncImageFilter L).createOutputFile F N).2
  have hstarted : Started created F := started_createOutputFile N F
  have hrun := Machine.exec_trace_of_invariant (m := call N)
    (I := fun filter t => Watermarked created filter ∧ Buffered N created filter t)
    (fun filter t c h => ⟨h.1.call h.2 hsorted c, h.2.call c⟩)
    ⟨hstarted.watermarked, hstarted.buffered⟩ calls
  exact hrun.1.safe

theorem watermark_safe_of_twoImages :
    WatermarkSafe (Machine.exec (call twoImagesNative)
      ((new : OssAsyncImageFilter .bare).createOutputFile twoImages twoImagesNative).2
      [.getNextImage, .getNextImage, .writeProcessedImage 1 [8],
        .writeProcessedImage 0 [9]]).output :=
  watermark_safe twoImages twoImagesNative _ (by unfold SortedByTimestamp; decide)

end OssAsyncImageFilter

end Pyvrs
