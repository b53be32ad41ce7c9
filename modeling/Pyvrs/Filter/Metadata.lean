import Pyvrs.Filter.PyImageFilter

/-!
# Whose metadata an image has

The metadata of a record is kept under its index in the file, and looked up and erased under its
index among the records selected. A record that has the same index in both keeps its metadata to
itself, until its image is answered; any other is given that of another record
(`metadata_of_image`).
-/

namespace Pyvrs

open Foundations FilterHistory

/-- The records are read in the order of the index, those of the pre-roll first. -/
structure FilteredFileReader.InFileOrder {L : VrsLib} (F : FilteredFileReader L) : Prop where
  selected : F.selected.Pairwise (· < ·)
  preRoll : ∀ i ∈ F.preRoll, ∀ j ∈ F.selected, i < j

theorem FilteredFileReader.InFileOrder.lt_of_lt {L : VrsLib} {F : FilteredFileReader L}
    (h : F.InFileOrder) {p q : ℕ} {i j : Fin F.reader.index.length} (hi : F.selected[p]? = some i)
    (hj : F.selected[q]? = some j) (hlt : p < q) : i < j := by
  obtain ⟨hp, rfl⟩ := List.getElem?_eq_some_iff.1 hi
  obtain ⟨hq, rfl⟩ := List.getElem?_eq_some_iff.1 hj
  exact List.pairwise_iff_getElem.1 h.selected p q hp hq hlt

namespace OssPyAsyncImageFilter

open OssAsyncImageFilter (Buffered)

variable {L : VrsLib} (F : FilteredFileReader L) (N : FilterNative L)
  (filter : OssPyAsyncImageFilter L)

/-- The metadata of a record, what `doDataLayoutEdits` collects of it: none if it has no
datalayout. -/
def recordMetadata (i : Fin F.reader.index.length) (delivery : CopyDelivery L) :
    Option (PyRecord L) :=
  if delivery.dataLayouts.isEmpty then none
  else some ((PyRecord.ofInfo (F.reader.index.get i) i).emplaceBack
    (delivery.dataLayouts.map fun dl => L.dataLayoutToPyDict dl "utf-8-safe"))

/-- The calls that answer an image. -/
def answersTo (imageBuffer : ImageBuffer) : List PyFilterCall :=
  [.writeProcessedImage imageBuffer, .discardRecord imageBuffer]

/-- What the filter promises of the image of `records_[r]`, which is at `i` in the index of the
file: `getRecordMetadata` returns the metadata of that record, and an answer removes it and no
other. -/
structure HasOwnMetadata (i : Fin F.reader.index.length) (r : ℕ) : Prop where
  returned : filter.getRecordMetadata r = .metadata (recordMetadata F i (N.readRecord r))
  removed : ∀ imageBuffer : ImageBuffer, imageBuffer.recordIndex = r →
    ∀ c ∈ answersTo imageBuffer, (call F N filter c).1 = .accepted true ∧ ∀ k : ℤ,
      (call F N filter c).2.metadata.find? k = if k = i then none else filter.metadata.find? k

variable {F} {N} {filter}

/-! ## The metadata of one record -/

section OneRecord

variable {i : Fin F.reader.index.length} (dls : List L.DataLayout)

theorem find?_doDataLayoutEdits (hcollect : filter.collectMetadata = true) (dl : L.DataLayout)
    (k : ℤ) : (filter.doDataLayoutEdits F i dl).metadata.find? k =
      if k = i then some (((filter.metadata.find? i).getD
        (.ofInfo (F.reader.index.get i) i)).emplaceBack [L.dataLayoutToPyDict dl "utf-8-safe"])
      else filter.metadata.find? k := by
  unfold doDataLayoutEdits
  rw [if_pos hcollect]
  exact filter.metadata.find?_insert k

theorem collectMetadata_doDataLayoutEdits (dl : L.DataLayout)
    (hcollect : filter.collectMetadata = true) :
    (filter.doDataLayoutEdits F i dl).collectMetadata = true := by
  unfold doDataLayoutEdits
  split
  · exact hcollect
  · exact hcollect

/-- The datalayouts of a record are added to the metadata it has, in their order. -/
theorem find?_foldl_of_some {record : PyRecord L} (hcollect : filter.collectMetadata = true)
    (h : filter.metadata.find? i = some record) :
    (dls.foldl (fun filter dl => filter.doDataLayoutEdits F i dl) filter).metadata.find? i =
      some (record.emplaceBack (dls.map fun dl => L.dataLayoutToPyDict dl "utf-8-safe")) := by
  induction dls generalizing filter record with
  | nil =>
    rw [List.foldl_nil, h, List.map_nil, PyRecord.emplaceBack, List.append_nil]
  | cons dl dls ih =>
    have hfirst := find?_doDataLayoutEdits (i := i) hcollect dl i
    rw [if_pos rfl, h, Option.getD_some] at hfirst
    rw [List.foldl_cons, ih (collectMetadata_doDataLayoutEdits dl hcollect) hfirst]
    simp [PyRecord.emplaceBack]

/-- What is kept under other indexes stays. -/
theorem find?_foldl_of_ne {k : ℤ} (hk : k ≠ i) :
    (dls.foldl (fun filter dl => filter.doDataLayoutEdits F i dl) filter).metadata.find? k =
      filter.metadata.find? k := by
  induction dls generalizing filter with
  | nil => rfl
  | cons dl dls ih =>
    rw [List.foldl_cons, ih]
    by_cases hcollect : filter.collectMetadata = true
    · rw [find?_doDataLayoutEdits hcollect, if_neg hk]
    · rw [doDataLayoutEdits, if_neg hcollect]

variable (delivery : CopyDelivery L)

theorem find?_readDataLayouts_of_ne {k : ℤ} (hk : k ≠ i) :
    (filter.readDataLayouts F i delivery).metadata.find? k = filter.metadata.find? k := by
  unfold readDataLayouts
  split
  · exact find?_foldl_of_ne _ hk
  · rfl

/-- **The metadata of a record that had none.** -/
theorem find?_readDataLayouts (hcollect : filter.collectMetadata = true)
    (hcopier : filter.copiers (F.reader.index.get i).streamId = some .asyncRecordFilterCopier)
    (hverbatim : delivery.copyVerbatim = false) (h : filter.metadata.find? i = none) :
    (filter.readDataLayouts F i delivery).metadata.find? i = recordMetadata F i delivery := by
  unfold readDataLayouts recordMetadata
  rw [if_pos ⟨hcopier, hverbatim⟩]
  cases delivery.dataLayouts with
  | nil => exact h
  | cons dl dls =>
    have hfirst := find?_doDataLayoutEdits (i := i) hcollect dl i
    rw [if_pos rfl, h, Option.getD_none] at hfirst
    rw [List.foldl_cons, find?_foldl_of_some dls (collectMetadata_doDataLayoutEdits dl hcollect)
      hfirst]
    simp [PyRecord.emplaceBack]

end OneRecord

/-! ## The records read so far -/

variable (F) (filter)

/-- What is kept is metadata of records that satisfy `P`, under their indexes in the file. -/
def KeptOf (P : Fin F.reader.index.length → Prop) : Prop :=
  ∀ k record, filter.metadata.find? k = some record → ∃ i : Fin F.reader.index.length,
    k = i ∧ record.recordIndex = .ofNat i ∧ P i

/-- The records of the pre-roll, and those selected before a position. -/
def ReadBefore (position : ℕ) (i : Fin F.reader.index.length) : Prop :=
  i ∈ F.preRoll ∨ ∃ q < position, F.selected[q]? = some i

variable {F} {filter} {P : Fin F.reader.index.length → Prop}

theorem KeptOf.mono {Q : Fin F.reader.index.length → Prop} (h : KeptOf F filter P)
    (hle : ∀ i, P i → Q i) : KeptOf F filter Q := by
  intro k record hfind
  obtain ⟨i, hk, hindex, hi⟩ := h k record hfind
  exact ⟨i, hk, hindex, hle i hi⟩

theorem KeptOf.doDataLayoutEdits (h : KeptOf F filter P) {i : Fin F.reader.index.length} (hi : P i)
    (dl : L.DataLayout) : KeptOf F (filter.doDataLayoutEdits F i dl) P := by
  by_cases hcollect : filter.collectMetadata = true
  · intro k record hfind
    rw [find?_doDataLayoutEdits hcollect] at hfind
    split at hfind
    · rename_i hk
      refine ⟨i, hk, ?_, hi⟩
      cases hfind
      -- the record there before has that index, and so has a new one
      cases hbefore : filter.metadata.find? i with
      | none => rfl
      | some record =>
        obtain ⟨j, hij, hindex, -⟩ := h i record hbefore
        have hne : i = j := Fin.ext (by omega)
        exact hne ▸ hindex
    · exact h k record hfind
  · rwa [OssPyAsyncImageFilter.doDataLayoutEdits, if_neg hcollect]

theorem KeptOf.readDataLayouts (h : KeptOf F filter P) {i : Fin F.reader.index.length} (hi : P i)
    (delivery : CopyDelivery L) : KeptOf F (filter.readDataLayouts F i delivery) P := by
  have hfold : ∀ (dls : List L.DataLayout) (filter : OssPyAsyncImageFilter L),
      KeptOf F filter P → KeptOf F
        (dls.foldl (fun filter dl => filter.doDataLayoutEdits F i dl) filter) P := by
    intro dls
    induction dls with
    | nil => exact fun filter h => h
    | cons dl dls ih => exact fun filter h => ih _ (h.doDataLayoutEdits hi dl)
  unfold OssPyAsyncImageFilter.readDataLayouts
  split
  · exact hfold _ filter h
  · exact h

/-- Nothing is kept under the index of a record that was not read yet. -/
theorem KeptOf.find?_eq_none {p q : ℕ} (h : KeptOf F filter (ReadBefore F p))
    (horder : F.InFileOrder) (hle : p ≤ q) {i : Fin F.reader.index.length}
    (hi : F.selected[q]? = some i) : filter.metadata.find? i = none := by
  cases hfind : filter.metadata.find? i with
  | none => rfl
  | some record =>
    obtain ⟨j, hij, -, hj⟩ := h i record hfind
    have hne : i = j := Fin.ext (by omega)
    subst hne
    rcases hj with hj | ⟨q', hlt, hq'⟩
    · exact absurd (horder.preRoll i hj i (List.mem_of_getElem? hi)) (lt_irrefl i)
    · exact absurd (horder.lt_of_lt hq' hi (by omega)) (lt_irrefl i)

theorem readRecords_succ (position count : ℕ) :
    filter.readRecords F N position (count + 1) =
      (filter.readRecords F N position count).readRecordAt F N (position + count) := by
  unfold readRecords
  rw [List.range'_1_concat, List.foldl_append]
  rfl

theorem KeptOf.readRecords {position : ℕ} (h : KeptOf F filter (ReadBefore F position))
    (count : ℕ) :
    KeptOf F (filter.readRecords F N position count) (ReadBefore F (position + count)) := by
  induction count with
  | zero => exact h
  | succ count ih =>
    have hmono := ih.mono (Q := ReadBefore F (position + (count + 1))) fun i hi =>
      hi.imp_right fun ⟨q, hlt, hq⟩ => ⟨q, by omega, hq⟩
    rw [readRecords_succ]
    unfold readRecordAt
    cases hselected : F.selected[position + count]? with
    | none => exact hmono
    | some i => exact hmono.readDataLayouts (.inr ⟨position + count, by omega, hselected⟩) _

/-- Reading records leaves what is kept of those before them. -/
theorem find?_readRecords_of_lt (horder : F.InFileOrder) {r position : ℕ}
    {i : Fin F.reader.index.length} (hi : F.selected[r]? = some i) (hlt : r < position)
    (count : ℕ) : (filter.readRecords F N position count).metadata.find? i =
      filter.metadata.find? i := by
  induction count with
  | zero => rfl
  | succ count ih =>
    rw [readRecords_succ, ← ih]
    unfold readRecordAt
    cases hselected : F.selected[position + count]? with
    | none => rfl
    | some j =>
      have hij : i < j := horder.lt_of_lt hi hselected (by omega)
      exact find?_readDataLayouts_of_ne _ (by omega)

/-- **The metadata of the last record read is its own.** -/
theorem find?_readRecords (horder : F.InFileOrder) (hcollect : filter.collectMetadata = true)
    {r position : ℕ} (h : KeptOf F filter (ReadBefore F position)) (hle : position ≤ r)
    {i : Fin F.reader.index.length} (hi : F.selected[r]? = some i)
    (hcopier : filter.copiers (F.reader.index.get i).streamId = some .asyncRecordFilterCopier)
    (hverbatim : (N.readRecord r).copyVerbatim = false) :
    (filter.readRecords F N position (r + 1 - position)).metadata.find? i =
      recordMetadata F i (N.readRecord r) := by
  have hcount : r + 1 - position = (r - position) + 1 := by omega
  have hposition : position + (r - position) = r := by omega
  have hsame := filter.sameButMetadata_readRecords (F := F) (N := N) position (r - position)
  have hkept := h.readRecords (N := N) (r - position)
  rw [hposition] at hkept
  rw [hcount, readRecords_succ, hposition, readRecordAt, hi]
  refine find?_readDataLayouts _ (hsame.collectMetadata_eq.trans hcollect) ?_ hverbatim
    (hkept.find?_eq_none horder le_rfl hi)
  rw [hsame.filter_eq]
  exact hcopier

/-! ## One call -/

/-- A record handed out is one of those selected, and was read block by block. -/
theorem selected_of_handedOut {filter₀ filter : OssAsyncImageFilter L}
    {t : List (FilterCall × FilterReply)} (h : Buffered N filter₀ filter t)
    (hstarted : filter₀.Started F) {r : ℕ} (hr : r ∈ handedOut t) :
    ∃ i, F.selected[r]? = some i ∧
      filter₀.copiers (F.reader.index.get i).streamId = some .asyncRecordFilterCopier ∧
      (N.readRecord r).copyVerbatim = false := by
  have hlt : r < filter₀.records.length :=
    (h.handedOut_lt r hr).trans_le (h.records_eq ▸ h.next_le)
  obtain ⟨pending, haside⟩ := h.handedOut_aside r hr
  unfold OssAsyncImageFilter.asideAt OssAsyncImageFilter.setAside at haside
  simp only at haside
  split at haside
  · rename_i hcase
    rcases hstarted.records_sublist with hrecords | hrecords
    · have hlt' : r < F.selected.length := by
        rw [hrecords, List.length_map] at hlt
        exact hlt
      refine ⟨_, List.getElem?_eq_getElem hlt', ?_, hcase.2.2.1⟩
      have hrecord : filter₀.recordAt r = F.reader.index.get F.selected[r] := by
        simp [OssAsyncImageFilter.recordAt, hrecords, hlt']
      exact hrecord ▸ hcase.2.1
    · rw [hrecords] at hlt
      exact absurd hlt (Nat.not_lt_zero r)
  · cases haside

variable (F) (N)

/-- What every call preserves: the filter that it extends is in its reorder buffer, and nothing is
kept but metadata of records that were read. -/
structure Kept (filter₀ : OssAsyncImageFilter L) (filter : OssPyAsyncImageFilter L)
    (t : List (FilterCall × FilterReply)) : Prop where
  buffered : Buffered N filter₀ filter.toOssAsyncImageFilter t
  initialized : filter.initialized = true
  kept : KeptOf F filter (ReadBefore F filter.nextRecordIndex)

/-- What every call preserves once metadata is collected: the images handed out since, in `t`, that
have the same index in the file and among those selected have their own metadata, until they are
answered. -/
structure Owned (filter₀ : OssAsyncImageFilter L) (t₀ : List (FilterCall × FilterReply))
    (filter : OssPyAsyncImageFilter L) (t : List (FilterCall × FilterReply)) : Prop
    extends Kept F N filter₀ filter (t₀ ++ t) where
  collectMetadata : filter.collectMetadata = true
  own : ∀ r ∈ handedOut t, ¬Answered (t₀ ++ t) r → ∀ i, F.selected[r]? = some i → (i : ℕ) = r →
    filter.metadata.find? i = recordMetadata F i (N.readRecord r)

variable {F} {N} {filter₀ : OssAsyncImageFilter L} {t₀ t : List (FilterCall × FilterReply)}

theorem KeptOf.eraseMetadata (h : KeptOf F filter P) (recordIndex : ℤ) :
    KeptOf F (filter.eraseMetadata recordIndex) P := by
  unfold OssPyAsyncImageFilter.eraseMetadata
  split
  · intro k record hfind
    rw [OrderedMap.find?_erase] at hfind
    split at hfind
    · cases hfind
    · exact h k record hfind
  · exact h

section Answer

variable (filter) {imageBuffer : ImageBuffer} {c : PyFilterCall} (hc : c ∈ answersTo imageBuffer)

include hc

/-- An answer erases, and leaves the rest to the filter it extends, whose cursor stays. -/
theorem call_answer :
    (call F N filter c).2.metadata =
        (filter.eraseMetadata imageBuffer.recordIndex).metadata ∧
      (call F N filter c).2.initialized = filter.initialized ∧
      (call F N filter c).2.collectMetadata = filter.collectMetadata ∧
      (call F N filter c).2.nextRecordIndex = filter.nextRecordIndex := by
  have hanswer : ∀ answer : ℕ → Bool × OssAsyncImageFilter L,
      (∀ i, (answer i).2.nextRecordIndex = filter.nextRecordIndex) →
      let erased := filter.eraseMetadata imageBuffer.recordIndex
      (erased.answerWith answer imageBuffer).2.metadata = erased.metadata ∧
        (erased.answerWith answer imageBuffer).2.initialized = filter.initialized ∧
        (erased.answerWith answer imageBuffer).2.collectMetadata = filter.collectMetadata ∧
        (erased.answerWith answer imageBuffer).2.nextRecordIndex = filter.nextRecordIndex := by
    intro answer hnext erased
    have herased : erased.initialized = filter.initialized ∧
        erased.collectMetadata = filter.collectMetadata := by
      show (filter.eraseMetadata _).initialized = _ ∧ (filter.eraseMetadata _).collectMetadata = _
      unfold OssPyAsyncImageFilter.eraseMetadata
      split
      · exact ⟨rfl, rfl⟩
      · exact ⟨rfl, rfl⟩
    unfold answerWith
    split
    · refine ⟨rfl, herased.1, herased.2, ?_⟩
      rw [filter.toOssAsyncImageFilter_eraseMetadata]
    · exact ⟨rfl, herased.1, herased.2, hnext _⟩
  rcases List.mem_pair.1 hc with rfl | rfl
  · refine hanswer _ fun i => ?_
    unfold OssAsyncImageFilter.writeProcessedImage
    split
    · rfl
    · rfl
  · refine hanswer _ fun i => ?_
    unfold OssAsyncImageFilter.discardRecord
    split
    · rfl
    · rfl

theorem handedOut_answer : handedOut (ofPy [(c, (call F N filter c).1)]) = [] := by
  rcases List.mem_pair.1 hc with rfl | rfl
  · simp only [call, OssPyAsyncImageFilter.writeProcessedImage, answerWith, ofPy]
    cases hposition : imageBuffer.position? with
    | none => simp [hposition, handedOut]
    | some i => simp [hposition, handedOut]
  · simp only [call, OssPyAsyncImageFilter.discardRecord, answerWith, ofPy]
    cases hposition : imageBuffer.position? with
    | none => simp [hposition, handedOut]
    | some i => simp [hposition, handedOut]

/-- An image that awaits an answer takes it, and is answered then. -/
theorem accepted_answer (h : Buffered N filter₀ filter.toOssAsyncImageFilter t) {r : ℕ}
    (hr : r ∈ handedOut t) (hnot : ¬Answered t r) (hindex : imageBuffer.recordIndex = r) :
    (call F N filter c).1 = .accepted true ∧
      Answered (t ++ ofPy [(c, (call F N filter c).1)]) r := by
  have hposition : imageBuffer.position? = some r := by
    unfold ImageBuffer.position?
    rw [hindex]
    rfl
  obtain ⟨hwrite, hdiscard⟩ := h.inOrder.accepted r hr hnot imageBuffer.bytes
  simp only [OssAsyncImageFilter.call, FilterReply.accepted.injEq] at hwrite hdiscard
  rcases List.mem_pair.1 hc with rfl | rfl
  · have hreply : (call F N filter (.writeProcessedImage imageBuffer)).1 = .accepted true := by
      simp only [call, OssPyAsyncImageFilter.writeProcessedImage, answerWith, hposition, hwrite]
    refine ⟨hreply, .inl ?_⟩
    rw [hreply]
    simp [ofPy, hposition, written]
  · have hreply : (call F N filter (.discardRecord imageBuffer)).1 = .accepted true := by
      simp only [call, OssPyAsyncImageFilter.discardRecord, answerWith, hposition, hdiscard]
    refine ⟨hreply, .inr ?_⟩
    rw [hreply]
    simp [ofPy, hposition, discarded]

end Answer

/-- A call reads records, or changes neither the cursor nor what is kept, or answers. -/
theorem call_cases (filter : OssPyAsyncImageFilter L) (c : PyFilterCall) :
    c = .getNextImage ∨ (∃ imageBuffer, c ∈ answersTo imageBuffer) ∨
      ((call F N filter c).2.toOssAsyncImageFilter = filter.toOssAsyncImageFilter ∧
        (call F N filter c).2.metadata = filter.metadata ∧
        (call F N filter c).2.initialized = filter.initialized ∧
        (filter.collectMetadata = true → (call F N filter c).2.collectMetadata = true)) ∧
        ofPy [(c, (call F N filter c).1)] = [] := by
  cases c with
  | getNextImage => exact .inl rfl
  | writeProcessedImage imageBuffer => exact .inr (.inl ⟨imageBuffer, List.mem_cons_self⟩)
  | discardRecord imageBuffer =>
    exact .inr (.inl ⟨imageBuffer, List.mem_cons_of_mem _ (List.mem_singleton_self _)⟩)
  | needRecordMetadata => exact .inr (.inr ⟨⟨rfl, rfl, rfl, fun _ => rfl⟩, rfl⟩)
  | getRecordMetadata recordIndex => exact .inr (.inr ⟨⟨rfl, rfl, rfl, id⟩, rfl⟩)

theorem Kept.call (h : Kept F N filter₀ filter t) (c : PyFilterCall) :
    Kept F N filter₀ (call F N filter c).2
      (t ++ ofPy [(c, (OssPyAsyncImageFilter.call F N filter c).1)]) := by
  have hbuffered := h.buffered.call_py (F := F) c
  rcases call_cases (F := F) (N := N) filter c with
    rfl | ⟨imageBuffer, hc⟩ | ⟨⟨hfilter, hmetadata, hinitialized, -⟩, -⟩
  · have heq := filter.getNextImage_eq (F := F) (N := N) h.initialized
    have hkept := h.kept.readRecords (N := N)
      ((filter.toOssAsyncImageFilter.getNextImage N).2.nextRecordIndex - filter.nextRecordIndex)
    rw [Nat.add_sub_cancel' (filter.toOssAsyncImageFilter.getNextImage_cursor N).1] at hkept
    refine ⟨hbuffered, ?_, ?_⟩
    · show (filter.getNextImage F N).2.initialized = true
      rw [heq]
      exact (filter.sameButMetadata_readRecords _ _).initialized_eq.trans h.initialized
    · show KeptOf F (filter.getNextImage F N).2
        (ReadBefore F (filter.getNextImage F N).2.nextRecordIndex)
      rw [heq]
      exact hkept
  · obtain ⟨hmetadata, hinitialized, -, hnext⟩ := filter.call_answer (F := F) (N := N) hc
    refine ⟨hbuffered, hinitialized.trans h.initialized, ?_⟩
    rw [KeptOf, hmetadata, hnext]
    exact h.kept.eraseMetadata imageBuffer.recordIndex
  · refine ⟨hbuffered, hinitialized.trans h.initialized, ?_⟩
    rw [KeptOf, hmetadata, hfilter]
    exact h.kept

/-- Erasing what is kept under one index leaves the rest. -/
theorem find?_eraseMetadata_of_ne {recordIndex k : ℤ} (hk : k ≠ recordIndex) :
    (filter.eraseMetadata recordIndex).metadata.find? k = filter.metadata.find? k := by
  unfold OssPyAsyncImageFilter.eraseMetadata
  split
  · rw [OrderedMap.find?_erase, if_neg hk]
  · rfl

theorem not_answered_of_append {t' : List (FilterCall × FilterReply)} {r : ℕ}
    (h : ¬Answered (t ++ t') r) : ¬Answered t r := by
  intro hanswered
  refine h ?_
  unfold Answered at hanswered ⊢
  rw [written_append, discarded_append, List.map_append]
  exact hanswered.imp (List.mem_append_left _) (List.mem_append_left _)

/-- An image just returned has the metadata of its record, and those before it keep theirs. -/
theorem Owned.getNextImage (h : Owned F N filter₀ t₀ filter t) (horder : F.InFileOrder)
    (hstarted : filter₀.Started F) :
    Owned F N filter₀ t₀ (filter.getNextImage F N).2
      (t ++ ofPy [(.getNextImage, (filter.getNextImage F N).1)]) := by
  have hkept := h.toKept.call .getNextImage
  rw [List.append_assoc] at hkept
  have heq := filter.getNextImage_eq (F := F) (N := N) h.initialized
  refine ⟨hkept, ?_, fun r hr hnot i hi hindex => ?_⟩
  · rw [heq]
    exact (filter.sameButMetadata_readRecords _ _).collectMetadata_eq.trans h.collectMetadata
  rw [heq]
  by_cases hold : r ∈ handedOut t
  · have hlt : r < filter.nextRecordIndex := h.buffered.handedOut_lt r
      (handedOut_append t₀ t ▸ List.mem_append_right _ hold)
    rw [← List.append_assoc] at hnot
    exact (find?_readRecords_of_lt horder hi hlt _).trans
      (h.own r hold (not_answered_of_append hnot) i hi hindex)
  · obtain ⟨i', hi', hcopier, hverbatim⟩ := selected_of_handedOut hkept.buffered hstarted
      (handedOut_append t₀ _ ▸ List.mem_append_right _ hr)
    have hsame : i' = i := Option.some.inj (hi'.symm.trans hi)
    subst hsame
    rw [← h.buffered.copiers_eq] at hcopier
    rw [handedOut_append, List.mem_append, filter.ofPy_getNextImage h.initialized] at hr
    have hnew := hr.resolve_left hold
    rcases (filter.toOssAsyncImageFilter.getNextImage_cursor N).2 with
      ⟨q, spec, frame, hreply, hle, hnext⟩ | hreply
    · rw [hreply] at hnew
      cases List.mem_singleton.1 hnew
      rw [hnext]
      exact find?_readRecords horder h.collectMetadata h.kept hle hi hcopier hverbatim
    · rw [hreply] at hnew
      cases hnew

/-- An answer takes away no metadata of the other images. -/
theorem Owned.answer (h : Owned F N filter₀ t₀ filter t) {imageBuffer : ImageBuffer}
    {c : PyFilterCall} (hc : c ∈ answersTo imageBuffer) :
    Owned F N filter₀ t₀ (call F N filter c).2
      (t ++ ofPy [(c, (OssPyAsyncImageFilter.call F N filter c).1)]) := by
  have hkept := h.toKept.call c
  rw [List.append_assoc] at hkept
  obtain ⟨hmetadata, -, hcollect, -⟩ := filter.call_answer (F := F) (N := N) hc
  refine ⟨hkept, hcollect.trans h.collectMetadata, fun r hr hnot i hi hindex => ?_⟩
  rw [handedOut_append, filter.handedOut_answer hc, List.append_nil] at hr
  rw [← List.append_assoc] at hnot
  have hawaits := not_answered_of_append hnot
  have hne : (i : ℤ) ≠ imageBuffer.recordIndex := by
    intro heq
    exact hnot (filter.accepted_answer hc h.buffered
      (handedOut_append t₀ t ▸ List.mem_append_right _ hr) hawaits (by omega)).2
  rw [hmetadata, find?_eraseMetadata_of_ne hne]
  exact h.own r hr hawaits i hi hindex

/-- **Every call leaves the images that await an answer their metadata.** -/
theorem Owned.call (h : Owned F N filter₀ t₀ filter t) (horder : F.InFileOrder)
    (hstarted : filter₀.Started F) (c : PyFilterCall) :
    Owned F N filter₀ t₀ (call F N filter c).2
      (t ++ ofPy [(c, (OssPyAsyncImageFilter.call F N filter c).1)]) := by
  rcases call_cases (F := F) (N := N) filter c with
    rfl | ⟨imageBuffer, hc⟩ | ⟨⟨-, hmetadata, -, hcollect⟩, hnone⟩
  · exact h.getNextImage horder hstarted
  · exact h.answer hc
  · have hkept := h.toKept.call c
    rw [hnone, List.append_nil] at hkept ⊢
    refine ⟨hkept, hcollect h.collectMetadata, fun r hr hnot i hi hindex => ?_⟩
    rw [hmetadata]
    exact h.own r hr hnot i hi hindex

/-! ## Runs -/

/-- The pre-roll is all that a new output file has read. -/
theorem kept_createOutputFile (hfilter : filter.toOssAsyncImageFilter = .new)
    (hmetadata : filter.metadata = .empty) :
    Kept F N ((OssAsyncImageFilter.new : OssAsyncImageFilter L).createOutputFile F N).2
      (filter.createOutputFile F N).2 [] := by
  have hstarted := OssAsyncImageFilter.started_createOutputFile N F
  have hempty : ∀ filter : OssPyAsyncImageFilter L, filter.metadata = .empty →
      KeptOf F filter (ReadBefore F 0) := by
    intro filter hmetadata k record hfind
    rw [hmetadata] at hfind
    cases hfind
  have hfold : ∀ (preRoll : List (Fin F.reader.index.length)), preRoll ⊆ F.preRoll →
      ∀ filter : OssPyAsyncImageFilter L, KeptOf F filter (ReadBefore F 0) → KeptOf F
        (preRoll.foldl (fun filter i => filter.readDataLayouts F i (N.readPreRoll i)) filter)
        (ReadBefore F 0) := by
    intro preRoll
    induction preRoll with
    | nil => exact fun _ filter h => h
    | cons i preRoll ih =>
      intro hsub filter h
      rw [List.cons_subset] at hsub
      exact ih hsub.2 _ (h.readDataLayouts (.inl hsub.1) _)
  refine ⟨?_, ?_, ?_⟩
  · rw [toOssAsyncImageFilter_createOutputFile, hfilter]
    exact hstarted.buffered
  · unfold createOutputFile
    simp only
    split
    · exact (SameButMetadata.foldl _ (fun filter i => filter.sameButMetadata_readDataLayouts i _)
        _).initialized_eq
    · rfl
  · rw [toOssAsyncImageFilter_createOutputFile, hfilter, hstarted.nextRecordIndex_eq]
    unfold createOutputFile
    simp only
    split
    · exact hfold _ (List.Subset.refl _) _ (hempty _ hmetadata)
    · exact hempty _ hmetadata

/-- An image handed out since was not answered before. -/
theorem not_answered_append {filter₁ filter₂ : OssAsyncImageFilter L}
    (hbefore : Buffered N filter₀ filter₁ t₀) (hbuffered : Buffered N filter₀ filter₂ (t₀ ++ t))
    {r : ℕ} (hr : r ∈ handedOut t) (hnot : ¬Answered t r) : ¬Answered (t₀ ++ t) r := by
  have hsorted := hbuffered.handedOut_sorted
  rw [handedOut_append, List.pairwise_append] at hsorted
  have hfresh : r ∉ handedOut t₀ := fun hmem => absurd (hsorted.2.2 r hmem r hr) (lt_irrefl r)
  rintro (hanswered | hanswered)
  · rw [written_append, List.map_append, List.mem_append] at hanswered
    rcases hanswered with hanswered | hanswered
    · obtain ⟨e, he, rfl⟩ := List.mem_map.1 hanswered
      exact hfresh (hbefore.written_mem e he)
    · exact hnot (.inl hanswered)
  · rw [discarded_append, List.mem_append] at hanswered
    rcases hanswered with hanswered | hanswered
    · exact hfresh (hbefore.discarded_mem r hanswered)
    · exact hnot (.inr hanswered)

/-- An image that was handed out since metadata is needed, and has the index of its record in the
file, has its own metadata. -/
theorem Owned.hasOwnMetadata (h : Owned F N filter₀ t₀ filter t) {r : ℕ}
    (hr : r ∈ handedOut t) (hnot : ¬Answered (t₀ ++ t) r) {i : Fin F.reader.index.length}
    (hi : F.selected[r]? = some i) (hindex : (i : ℕ) = r) : HasOwnMetadata F N filter i r := by
  constructor
  · rw [getRecordMetadata, if_pos h.collectMetadata, ← h.own r hr hnot i hi hindex, hindex]
  · intro imageBuffer hbuffer c hc
    obtain ⟨hmetadata, -, -, -⟩ := filter.call_answer (F := F) (N := N) hc
    refine ⟨(filter.accepted_answer hc h.buffered
      (handedOut_append t₀ t ▸ List.mem_append_right _ hr) hnot hbuffer).1, fun k => ?_⟩
    rw [hmetadata, eraseMetadata, if_pos h.collectMetadata, hbuffer, hindex]
    exact filter.metadata.find?_erase k

/-- The index of a record shows in its metadata. -/
theorem KeptOf.eq_of_returned (h : KeptOf F filter P) {r : ℕ} {i : Fin F.reader.index.length}
    {delivery : CopyDelivery L} (hsome : delivery.dataLayouts ≠ [])
    (hfind : filter.metadata.find? r = recordMetadata F i delivery) : (i : ℕ) = r := by
  unfold recordMetadata at hfind
  rw [if_neg (by simpa using hsome)] at hfind
  obtain ⟨j, hrj, hrecord, -⟩ := h r _ hfind
  have hij : (Int32.ofNat i) = Int32.ofNat j := hrecord
  have hi := i.isLt.trans F.reader.length_index_lt
  have hj := j.isLt.trans F.reader.length_index_lt
  have hmod : (i : ℕ) % 2 ^ 32 = (j : ℕ) % 2 ^ 32 := by
    have hbits := congrArg (fun n => n.toBitVec.toNat) hij
    simpa using hbits
  rw [Nat.mod_eq_of_lt hi, Nat.mod_eq_of_lt hj] at hmod
  omega

/-- **Whose metadata an image has**: in every state after metadata is needed, an image that awaits
its answer has the metadata of its record if that record has the same index in the file as among
those selected, and, when the record has metadata, only then. -/
theorem metadata_of_image (F : FilteredFileReader L) (N : FilterNative L) (horder : F.InFileOrder)
    (early : Bool) (earlier calls : List PyFilterCall) :
    let start : OssPyAsyncImageFilter L := if early then new.needRecordMetadata else new
    let needed :=
      (Machine.exec (call F N) (start.createOutputFile F N).2 earlier).needRecordMetadata
    let filter := Machine.exec (call F N) needed calls
    let t := ofPy (Machine.trace (call F N) needed calls)
    ∀ r ∈ handedOut t, ¬Answered t r → ∃ i, F.selected[r]? = some i ∧
      ((i : ℕ) = r → HasOwnMetadata F N filter i r) ∧
      ((N.readRecord r).dataLayouts ≠ [] → (HasOwnMetadata F N filter i r ↔ (i : ℕ) = r)) := by
  intro start needed filter t r hr hnot
  let filter₀ := ((OssAsyncImageFilter.new : OssAsyncImageFilter L).createOutputFile F N).2
  let t₀ := ofPy (Machine.trace (call F N) (start.createOutputFile F N).2 earlier)
  have hstarted : filter₀.Started F := OssAsyncImageFilter.started_createOutputFile N F
  have hstart : start.toOssAsyncImageFilter = .new ∧ start.metadata = .empty := by
    cases early with
    | true => exact ⟨rfl, rfl⟩
    | false => exact ⟨rfl, rfl⟩
  have hearlier : Kept F N filter₀
      (Machine.exec (call F N) (start.createOutputFile F N).2 earlier) t₀ :=
    Machine.exec_trace_of_invariant (m := call F N) (t := [])
      (I := fun filter t => Kept F N filter₀ filter (ofPy t))
      (fun filter t c h => by
        rw [ofPy_append]
        exact h.call c)
      (kept_createOutputFile hstart.1 hstart.2) earlier
  have hneeded : Owned F N filter₀ t₀ needed [] :=
    ⟨⟨(List.append_nil t₀).symm ▸ hearlier.buffered, hearlier.initialized, hearlier.kept⟩, rfl,
      nofun⟩
  have howned : Owned F N filter₀ t₀ filter t :=
    Machine.exec_trace_of_invariant (m := call F N) (t := [])
      (I := fun filter t => Owned F N filter₀ t₀ filter (ofPy t))
      (fun filter t c h => by
        rw [ofPy_append]
        exact h.call horder hstarted c)
      hneeded calls
  have hnot₀ : ¬Answered (t₀ ++ t) r :=
    not_answered_append hearlier.buffered howned.buffered hr hnot
  obtain ⟨i, hi, -⟩ := selected_of_handedOut howned.buffered hstarted
    (handedOut_append t₀ t ▸ List.mem_append_right _ hr)
  have hown : (i : ℕ) = r → HasOwnMetadata F N filter i r := howned.hasOwnMetadata hr hnot₀ hi
  refine ⟨i, hi, hown, fun hsome => ⟨fun h => ?_, hown⟩⟩
  have hreturned := h.returned
  rw [getRecordMetadata, if_pos howned.collectMetadata] at hreturned
  exact howned.kept.eq_of_returned hsome (PyFilterReply.metadata.inj hreturned)

/-- Every record is read, with a datalayout and one image of a byte. -/
def withMetadataNative : FilterNative .bare where
  openFile := 0
  createFileAsync := 0
  closeFile := 0
  readPreRoll _ := ⟨1, false, [], [], true, 0⟩
  readRecord _ := ⟨1, false, [], [.dataLayout 0 (),
    .image 1 (.ofImage .bare ⟨.raw, .grey8, 1, 1⟩ (some 1)) [7]], true, 0⟩

theorem metadata_of_image_of_twoImages :
    let needed := (Machine.exec (call twoImages withMetadataNative)
      (new.needRecordMetadata.createOutputFile twoImages withMetadataNative).2
      []).needRecordMetadata
    let filter := Machine.exec (call twoImages withMetadataNative) needed [.getNextImage]
    ∃ i : Fin twoImages.reader.index.length, twoImages.selected[0]? = some i ∧
      ((i : ℕ) = 0 → HasOwnMetadata twoImages withMetadataNative filter i 0) ∧
      ((withMetadataNative.readRecord 0).dataLayouts ≠ [] →
        (HasOwnMetadata twoImages withMetadataNative filter i 0 ↔ (i : ℕ) = 0)) :=
  metadata_of_image twoImages withMetadataNative ⟨by decide, by decide⟩ true [] [.getNextImage] 0
    (by decide) (by unfold Answered; decide)

/-- The records of `twoImages` after the first, as a time range selects them. -/
def secondImage : FilteredFileReader .bare where
  reader := twoImages.reader
  streams := twoImages.streams
  mightContainImages := twoImages.mightContainImages
  preRoll := []
  selected := [⟨1, by decide⟩]
  mem_streams := by decide

/-- There is no metadata for the image of the second record when it is the first one selected. -/
theorem not_hasOwnMetadata :
    ¬∀ (L : VrsLib) (F : FilteredFileReader L) (N : FilterNative L) (calls : List PyFilterCall),
      F.InFileOrder →
      let needed := (new.needRecordMetadata.createOutputFile F N).2
      let filter := Machine.exec (call F N) needed calls
      let t := ofPy (Machine.trace (call F N) needed calls)
      ∀ r ∈ handedOut t, ¬Answered t r → ∃ i, F.selected[r]? = some i ∧
        HasOwnMetadata F N filter i r := by
  intro h
  obtain ⟨i, hi, hown⟩ := h .bare secondImage withMetadataNative [.getNextImage]
    ⟨by decide, by decide⟩ 0 (by decide) (by unfold Answered; decide)
  have hreturned := hown.returned
  rw [getRecordMetadata, if_pos (by decide)] at hreturned
  have hrecord := PyFilterReply.metadata.inj hreturned
  have hnone : recordMetadata secondImage i (withMetadataNative.readRecord 0) = none :=
    hrecord.symm.trans (by decide +kernel)
  cases hnone

end OssPyAsyncImageFilter

end Pyvrs
