import Pyvrs.Reader.ConfigRecords

/-!
# The read cursor

The cursor `nextRecordIndex_` never passes the end of the index, every search returns the record at
the first position from the cursor on that it looks for, and between two seeks the records are
returned in strictly increasing order, none that a search looks for being passed over
(`read_cursor`). Native reads are assumed to succeed.
-/

namespace Pyvrs

open Foundations

namespace OssVRSReader

variable {L : VrsLib} (F : RecordFileReader L) (D : Native L) (reader : OssVRSReader L)

/-! ## Arguments -/

/-- The stream or the type argument of a call is rejected. -/
def Rejects : Call → Prop
  | .readNextRecordOfStream streamId => ∃ e, reader.enabledStreamId F streamId = .error e
  | .readNextRecordOfStreamAndType streamId recordType
  | .readRecordOfStreamAndType streamId recordType _ =>
    (∃ e, reader.enabledStreamId F streamId = .error e) ∨
      ∃ e, recordTypeFilter L recordType = .error e
  | .readNextRecordOfRecordable typeId => ¬∃ id ∈ reader.enabledStreams, id.typeId = typeId
  | .readNextRecordOfRecordableAndType typeId recordType =>
    (¬∃ id ∈ reader.enabledStreams, id.typeId = typeId) ∨
      ∃ e, recordTypeFilter L recordType = .error e
  | _ => False

theorem recordTypeFilter_any : recordTypeFilter L "any" = .ok .undefined := by
  simp [recordTypeFilter, L.strcasecmp_any, L.toRecordType_any _ L.strcasecmp_any]

theorem wantedOfStream_eq_none_iff (streamId recordType : String) :
    reader.wantedOfStream F streamId recordType = none ↔
      (∃ e, reader.enabledStreamId F streamId = .error e) ∨
        ∃ e, recordTypeFilter L recordType = .error e := by
  unfold wantedOfStream
  cases reader.enabledStreamId F streamId <;> cases recordTypeFilter L recordType <;> simp

theorem wantedOfRecordable_eq_none_iff (typeId : RecordableTypeId) (recordType : String) :
    reader.wantedOfRecordable typeId recordType = none ↔
      (¬∃ id ∈ reader.enabledStreams, id.typeId = typeId) ∨
        ∃ e, recordTypeFilter L recordType = .error e := by
  unfold wantedOfRecordable
  cases recordTypeFilter L recordType <;> simp

/-- A search looks for records exactly when its arguments are not rejected. -/
theorem wanted_eq_none_iff {c : Call} (hc : c.IsSearch) :
    reader.wanted F c = none ↔ reader.Rejects F c := by
  cases c with
  | readNextRecord => exact ⟨nofun, False.elim⟩
  | readNextRecordOfStream streamId =>
    refine (reader.wantedOfStream_eq_none_iff F streamId "any").trans ?_
    simp [Rejects, recordTypeFilter_any]
  | readNextRecordOfStreamAndType streamId recordType =>
    exact reader.wantedOfStream_eq_none_iff F streamId recordType
  | readNextRecordOfRecordable typeId =>
    refine (reader.wantedOfRecordable_eq_none_iff typeId "any").trans ?_
    simp [Rejects, recordTypeFilter_any]
  | readNextRecordOfRecordableAndType typeId recordType =>
    exact reader.wantedOfRecordable_eq_none_iff typeId recordType
  | _ => exact hc.elim

/-! ## Reading at the cursor -/

section Reads

variable (hD : ∀ reads i, (D reads i).status = 0)

include hD

theorem readConfigurationRecord_ok (s : StreamId) (i : ℕ) :
    (reader.readConfigurationRecord F D s i).1 = .ok () := by
  unfold readConfigurationRecord
  simp only
  split
  · rfl
  · split
    · rfl
    · rw [readConfigurationAt_of_eq]
      exact hD _ _

theorem autoReadConfiguration_ok (record : RecordInfo) :
    (reader.autoReadConfiguration F D record).1 = .ok () := by
  unfold autoReadConfiguration
  split
  · exact reader.readConfigurationRecord_ok F D hD _ _
  · rfl

/-- At a record, `readNextRecordInternal` returns it and moves the cursor past it. -/
theorem readNextRecordInternal_of_some {record : RecordInfo}
    (h : F.index[reader.nextRecordIndex]? = some record) :
    ∃ cache reader', reader.readNextRecordInternal F D =
        (.ok (.ofCache record reader.nextRecordIndex cache), reader') ∧
      reader'.nextRecordIndex = reader.nextRecordIndex + 1 := by
  have hok := reader.autoReadConfiguration_ok F D hD record
  have hframe := (reader.autoReadConfiguration_frame F D record).1
  rcases hauto : reader.autoReadConfiguration F D record with ⟨result, reader₁⟩
  rw [hauto] at hok hframe
  simp only at hok hframe
  subst hok
  have hread := reader₁.readThisRecord_of_eq D record (hD _ _)
  have heq : reader.readNextRecordInternal F D = reader₁.readThisRecord D record := by
    simp only [readNextRecordInternal, h, hauto]
  rw [heq, hread, ← hframe]
  exact ⟨_, _, rfl, rfl⟩

end Reads

theorem readNextRecordInternal_of_none (h : F.index[reader.nextRecordIndex]? = none) :
    reader.readNextRecordInternal F D = (.error (.stopIteration "No more records"), reader) := by
  simp only [readNextRecordInternal, h]

/-! ## Searches -/

/-- The positions from the cursor on that a search looks for. -/
def wantedPositions (p : RecordInfo → Bool) : Set ℕ :=
  {j | reader.nextRecordIndex ≤ j ∧ F.index[j]?.any p = true}

theorem lt_of_any {p : RecordInfo → Bool} {j : ℕ} (h : F.index[j]?.any p = true) :
    j < F.index.length := by
  by_contra hj
  rw [List.getElem?_eq_none (not_lt.1 hj)] at h
  cases h

theorem firstWanted_eq_iff {p : RecordInfo → Bool} {k : ℕ} (hk : k < F.index.length) :
    reader.firstWanted F p = k ↔ IsLeast (reader.wantedPositions F p) k := by
  have hset : {j | reader.nextRecordIndex ≤ j ∧ j < F.index.length ∧ F.index[j]?.any p = true} =
      reader.wantedPositions F p := by
    ext j
    exact ⟨fun h => ⟨h.1, h.2.2⟩, fun h => ⟨h.1, lt_of_any F h.2, h.2⟩⟩
  rw [firstWanted, firstFrom_eq_iff _ hk, hset]

theorem firstWanted_eq_length_iff {p : RecordInfo → Bool}
    (h : reader.nextRecordIndex ≤ F.index.length) :
    reader.firstWanted F p = F.index.length ↔ reader.wantedPositions F p = ∅ := by
  rw [firstWanted, firstFrom_eq_end_iff _ h, Set.eq_empty_iff_forall_notMem]
  constructor
  · rintro hnone j ⟨hj, hp⟩
    rw [hnone j hj (lt_of_any F hp)] at hp
    cases hp
  · intro hnone j hj _
    have hnot := hnone j
    simpa [wantedPositions, hj] using hnot

/-- What a search with the test `p` does: it returns the record at the first position wanted and
moves the cursor one past it, or raises `StopIteration` when there is none, with the cursor at the
end. -/
def ReturnsNext (p : RecordInfo → Bool) (c : Call) : Prop :=
  (∃ k record cache, IsLeast (reader.wantedPositions F p) k ∧ F.index[k]? = some record ∧
    (call F D reader c).1 = .ok (.record (.ofCache record k cache)) ∧
    (call F D reader c).2.nextRecordIndex = k + 1) ∨
  (reader.wantedPositions F p = ∅ ∧
    (call F D reader c).1 = .error (.stopIteration "No more records") ∧
    (call F D reader c).2.nextRecordIndex = F.index.length)

theorem returnsNext_of_wanted (hD : ∀ reads i, (D reads i).status = 0)
    (hcursor : reader.nextRecordIndex ≤ F.index.length) {p : RecordInfo → Bool} {c : Call}
    (h : reader.wanted F c = some p) : reader.ReturnsNext F D p c := by
  have hcall := reader.call_of_wanted F D h
  have hle : reader.firstWanted F p ≤ F.index.length := firstFrom_le _ hcursor
  rcases hle.eq_or_lt with hend | hlt
  · right
    have hnone : F.index[reader.firstWanted F p]? = none := List.getElem?_eq_none hend.ge
    rw [hcall, readNextRecordInternal_of_none F D _ hnone]
    exact ⟨(reader.firstWanted_eq_length_iff F hcursor).1 hend, rfl, hend⟩
  · left
    have hrecord := List.getElem?_eq_getElem hlt
    obtain ⟨cache, reader', hread, hnext⟩ :=
      readNextRecordInternal_of_some F D (reader.cursorAt (reader.firstWanted F p)) hD hrecord
    refine ⟨reader.firstWanted F p, _, cache, (reader.firstWanted_eq_iff F hlt).1 rfl, hrecord, ?_⟩
    rw [hcall, hread]
    exact ⟨rfl, hnext⟩

/-! ## Runs -/

/-- A `readRecord` reads the record at its position and moves the cursor one past it. -/
theorem nextRecordIndex_of_sought (hD : ∀ reads i, (D reads i).status = 0) {c : Call} {k : ℕ}
    (h : reader.sought F c = some k) :
    k < F.index.length ∧ (call F D reader c).2.nextRecordIndex = k + 1 := by
  have hk : k < F.index.length := by
    cases c with
    | readRecord index =>
      simp only [sought] at h
      split at h
      · cases h
      · cases h
        omega
    | readRecordOfStreamAndType streamId recordType index =>
      simp only [sought] at h
      split at h
      · obtain ⟨record, -, rfl⟩ := Option.map_eq_some_iff.1 h
        exact record.isLt
      · cases h
    | _ => cases h
  obtain ⟨cache, reader', hread, hnext⟩ := readNextRecordInternal_of_some F D (reader.cursorAt k)
    hD (List.getElem?_eq_getElem hk)
  rw [reader.call_of_sought F D h, hread]
  exact ⟨hk, hnext⟩

/-- The cursor stays within the index. -/
theorem nextRecordIndex_le_of_call (hD : ∀ reads i, (D reads i).status = 0)
    (hcursor : reader.nextRecordIndex ≤ F.index.length) (c : Call) :
    (call F D reader c).2.nextRecordIndex ≤ F.index.length := by
  cases hwanted : reader.wanted F c with
  | some p =>
    rcases reader.returnsNext_of_wanted F D hD hcursor hwanted with
      ⟨k, record, cache, -, hk, -, hnext⟩ | ⟨-, -, hnext⟩
    · rw [hnext]
      exact (List.getElem?_eq_some_iff.1 hk).1
    · exact hnext.le
  | none =>
    cases hsought : reader.sought F c with
    | some k =>
      obtain ⟨hk, hnext⟩ := reader.nextRecordIndex_of_sought F D hD hsought
      rw [hnext]
      exact hk
    | none =>
      have htarget := (reader.target_of_sought F hwanted).trans hsought
      rcases (reader.unread_of_target_eq_none F D htarget).2.nextRecordIndex_eq with h | ⟨-, h⟩
      · exact h.trans_le hcursor
      · exact h

/-- The positions of the records returned by a run, in order. -/
def returned (cs : List Call) : List ℕ :=
  ((call F D).replies reader cs).filterMap fun reply =>
    (recordOf reply).map fun record => castUInt32 record.recordIndex

theorem returned_cons (c : Call) (cs : List Call) :
    returned F D reader (c :: cs) =
      (((recordOf (call F D reader c).1).map fun record => castUInt32 record.recordIndex).toList) ++
        returned F D (call F D reader c).2 cs := by
  unfold returned
  rw [Machine.replies_cons, List.filterMap_cons]
  cases recordOf (call F D reader c).1 <;> rfl

/-- A call that is no seek moves the cursor forward, returns the record just before the new cursor
if it returns one, and passes over no record that it looks for. -/
theorem call_advances (hD : ∀ reads i, (D reads i).status = 0)
    (hcursor : reader.nextRecordIndex ≤ F.index.length) {c : Call} (hc : ¬c.IsSeek) :
    reader.nextRecordIndex ≤ (call F D reader c).2.nextRecordIndex ∧
      (∀ record, recordOf (call F D reader c).1 = some record →
        reader.nextRecordIndex ≤ castUInt32 record.recordIndex ∧
        castUInt32 record.recordIndex + 1 = (call F D reader c).2.nextRecordIndex) ∧
      ∀ j, reader.nextRecordIndex ≤ j → j < (call F D reader c).2.nextRecordIndex →
        (∃ record, recordOf (call F D reader c).1 = some record ∧
          castUInt32 record.recordIndex = j) ∨
        ∃ p, reader.wanted F c = some p ∧ F.index[j]?.any p = false := by
  cases hwanted : reader.wanted F c with
  | none =>
    have hsought : reader.sought F c = none := by
      cases c with
      | readRecord | readRecordOfStreamAndType => exact absurd trivial hc
      | _ => rfl
    have htarget := (reader.target_of_sought F hwanted).trans hsought
    obtain ⟨hnone, hunread⟩ := reader.unread_of_target_eq_none F D htarget
    have hsame : (call F D reader c).2.nextRecordIndex = reader.nextRecordIndex :=
      hunread.nextRecordIndex_eq.resolve_right fun h => hc h.1
    rw [hsame, hnone]
    exact ⟨le_rfl, fun _ => nofun, fun j h₁ h₂ => absurd h₁ (not_le.2 h₂)⟩
  | some p =>
    rcases reader.returnsNext_of_wanted F D hD hcursor hwanted with
      ⟨k, record, cache, hleast, hk, hreply, hnext⟩ | ⟨hnone, hreply, hnext⟩
    · have hlt := (List.getElem?_eq_some_iff.1 hk).1
      have hindex : castUInt32 (PyRecord.ofCache record k cache).recordIndex = k :=
        castUInt32_ofNat (hlt.trans F.length_index_lt)
      rw [hnext, hreply]
      have hle : reader.nextRecordIndex ≤ k := hleast.1.1
      refine ⟨by omega, ?_, fun j h₁ h₂ => ?_⟩
      · rintro _ ⟨⟩
        rw [hindex]
        exact ⟨hle, rfl⟩
      · rcases Nat.lt_or_ge j k with hj | hj
        · right
          refine ⟨p, rfl, ?_⟩
          by_contra hp
          have hkj := hleast.2 ⟨h₁, by simpa using hp⟩
          omega
        · left
          exact ⟨_, rfl, hindex.trans (by omega)⟩
    · rw [hnext, hreply]
      refine ⟨hcursor, fun _ => nofun, fun j h₁ _ => .inr ⟨p, rfl, ?_⟩⟩
      by_contra hp
      have hmem : j ∈ reader.wantedPositions F p := ⟨h₁, by simpa using hp⟩
      rw [hnone] at hmem
      exact hmem

/-- The search of the run that moved the cursor past `j` was not looking for the record there. -/
def PassedOver (cs : List Call) (j : ℕ) : Prop :=
  ∃ before c after p, cs = before ++ c :: after ∧
    ((call F D).exec reader before).nextRecordIndex ≤ j ∧
    j < ((call F D).exec reader (before ++ [c])).nextRecordIndex ∧
    ((call F D).exec reader before).wanted F c = some p ∧ F.index[j]?.any p = false

theorem PassedOver.cons {c : Call} {cs : List Call} {j : ℕ}
    (h : (call F D reader c).2.PassedOver F D cs j) : reader.PassedOver F D (c :: cs) j := by
  obtain ⟨before, c', after, p, rfl, hrest⟩ := h
  exact ⟨c :: before, c', after, p, rfl, hrest⟩

/-- What a run without seeks returns: positions from the cursor on, in strictly increasing order,
and every record that the cursor has passed unless the search that passed it was not looking for
it. -/
structure Advances (cs : List Call) : Prop where
  cursor_le : reader.nextRecordIndex ≤ ((call F D).exec reader cs).nextRecordIndex
  mem_returned : ∀ k ∈ reader.returned F D cs, reader.nextRecordIndex ≤ k ∧
    k < ((call F D).exec reader cs).nextRecordIndex
  pairwise_returned : (reader.returned F D cs).Pairwise (· < ·)
  returned_or_passedOver : ∀ j, reader.nextRecordIndex ≤ j →
    j < ((call F D).exec reader cs).nextRecordIndex →
    j ∈ reader.returned F D cs ∨ reader.PassedOver F D cs j

theorem advances_of_no_seek (hD : ∀ reads i, (D reads i).status = 0) (cs : List Call)
    (hcursor : reader.nextRecordIndex ≤ F.index.length) (hcs : ∀ c ∈ cs, ¬c.IsSeek) :
    reader.Advances F D cs := by
  induction cs generalizing reader with
  | nil =>
    exact ⟨le_rfl, fun _ hk => absurd hk List.not_mem_nil, List.Pairwise.nil,
      fun j h₁ h₂ => absurd h₁ (not_le.2 h₂)⟩
  | cons c cs ih =>
    obtain ⟨hle, hreturn, hpass⟩ := reader.call_advances F D hD hcursor (hcs c List.mem_cons_self)
    have hrest := ih (call F D reader c).2 (reader.nextRecordIndex_le_of_call F D hD hcursor c)
      fun c' hc' => hcs c' (List.mem_cons_of_mem _ hc')
    have hfirst : ∀ k ∈ ((recordOf (call F D reader c).1).map fun record =>
        castUInt32 record.recordIndex).toList,
        reader.nextRecordIndex ≤ k ∧ k < (call F D reader c).2.nextRecordIndex := by
      intro k hk
      rw [Option.mem_toList, Option.map_eq_some_iff] at hk
      obtain ⟨record, hrecord, rfl⟩ := hk
      obtain ⟨h₁, h₂⟩ := hreturn record hrecord
      exact ⟨h₁, by omega⟩
    have hend := hrest.cursor_le
    refine ⟨hle.trans hend, fun k hk => ?_, ?_, fun j h₁ h₂ => ?_⟩
    · rw [returned_cons, List.mem_append] at hk
      rcases hk with hk | hk
      · obtain ⟨h₁, h₂⟩ := hfirst k hk
        exact ⟨h₁, h₂.trans_le hend⟩
      · obtain ⟨h₁, h₂⟩ := hrest.mem_returned k hk
        exact ⟨hle.trans h₁, h₂⟩
    · rw [returned_cons, List.pairwise_append]
      refine ⟨?_, hrest.pairwise_returned, fun k hk k' hk' => ?_⟩
      · cases recordOf (call F D reader c).1 <;> simp
      · have h₁ := (hfirst k hk).2
        have h₂ := (hrest.mem_returned k' hk').1
        omega
    · rw [returned_cons, List.mem_append]
      rcases Nat.lt_or_ge j (call F D reader c).2.nextRecordIndex with hj | hj
      · rcases hpass j h₁ hj with ⟨record, hrecord, hindex⟩ | ⟨p, hp, hnot⟩
        · left
          left
          rw [hrecord, Option.map_some, hindex, Option.toList_some]
          exact List.mem_singleton_self j
        · right
          exact ⟨[], c, cs, p, rfl, h₁, hj, hp, hnot⟩
      · rcases hrest.returned_or_passedOver j hj h₂ with h | h
        · exact .inl (.inr h)
        · exact .inr (h.cons F D)

theorem call_of_rejects {c : Call} (h : reader.Rejects F c) :
    ∃ e, IsRejection e ∧ call F D reader c = (.error e, reader) := by
  by_cases hc : c.IsSearch
  · exact reader.rejected_of_not_wanted F D hc ((reader.wanted_eq_none_iff F hc).2 h)
  cases c with
  | readRecordOfStreamAndType streamId recordType index =>
    cases hid : reader.enabledStreamId F streamId with
    | error e =>
      refine ⟨e, reader.isRejection_of_enabledStreamId F hid, ?_⟩
      simp only [call, readRecordOfStreamAndType, hid]
      rfl
    | ok id =>
      rcases h with ⟨e, he⟩ | ⟨e, he⟩
      · cases hid.symm.trans he
      · refine ⟨e, isRejection_of_recordTypeFilter he, ?_⟩
        simp only [call, readRecordOfStreamAndType, hid, he]
        rfl
  | readNextRecordOfStream | readNextRecordOfStreamAndType | readNextRecordOfRecordable
  | readNextRecordOfRecordableAndType => exact absurd trivial hc
  | _ => exact h.elim

/-- The cursor stays within the index along a run. -/
theorem nextRecordIndex_le_of_run (hD : ∀ reads i, (D reads i).status = 0)
    (hcursor : reader.nextRecordIndex ≤ F.index.length) (cs : List Call) :
    ((call F D).exec reader cs).nextRecordIndex ≤ F.index.length :=
  Machine.exec_of_invariant (I := fun reader => reader.nextRecordIndex ≤ F.index.length)
    (fun reader c h => nextRecordIndex_le_of_call F D reader hD h c) hcursor cs

/-- **The read cursor.** After any run on a newly opened file whose native reads succeed, the
cursor is within the index; a search whose arguments are accepted returns the record at the first
position it looks for or raises `StopIteration`; a call whose stream or type argument is rejected
changes nothing; and in what follows until the next seek, no record is returned twice and none that
a search looks for is skipped. -/
theorem read_cursor (hD : ∀ reads i, (D reads i).status = 0) (autoReadConfigurationRecord : Bool)
    (cs : List Call) :
    let reader := (call F D).exec ((new autoReadConfigurationRecord).open F) cs
    reader.nextRecordIndex ≤ F.index.length ∧
    (∀ c, c.IsSearch → ¬reader.Rejects F c →
      ∃ p, reader.wanted F c = some p ∧ reader.ReturnsNext F D p c) ∧
    (∀ c, reader.Rejects F c → ∃ e, IsRejection e ∧ call F D reader c = (.error e, reader)) ∧
    ∀ ds, (∀ c ∈ ds, ¬c.IsSeek) → reader.Advances F D ds := by
  intro reader
  have hcursor : reader.nextRecordIndex ≤ F.index.length :=
    nextRecordIndex_le_of_run F D _ hD (Nat.zero_le _) cs
  refine ⟨hcursor, fun c hc hrej => ?_, fun c hrej => reader.call_of_rejects F D hrej,
    fun ds hds => reader.advances_of_no_seek F D hD ds hcursor hds⟩
  cases hwanted : reader.wanted F c with
  | none => exact absurd ((reader.wanted_eq_none_iff F hc).1 hwanted) hrej
  | some p => exact ⟨p, rfl, reader.returnsNext_of_wanted F D hD hcursor hwanted⟩

/-- Reading `reconfiguredFile` to its end. -/
theorem read_cursor_of_reconfiguredFile :
    ((call reconfiguredFile (.blank .bare)).exec ((new true).open reconfiguredFile)
      [.enableAllStreams]).Advances reconfiguredFile (.blank .bare)
        [.readNextRecord, .readNextRecord, .readNextRecord, .readNextRecord, .readNextRecord] := by
  refine (read_cursor reconfiguredFile (.blank .bare) (fun _ _ => rfl) true
    [.enableAllStreams]).2.2.2 _ fun c hc => ?_
  have hsearch : c = .readNextRecord := by simpa using hc
  rw [hsearch]
  exact id

end OssVRSReader

end Pyvrs
