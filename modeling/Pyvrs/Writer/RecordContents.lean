import Pyvrs.Foundations.Fallible
import Pyvrs.Writer.Runs

/-!
# What a record contains

`create_config_record`, `create_data_record` and `create_state_record` sort their sources by type
and check the datalayouts among them against those of the record format. Nothing checks what is
neither a datalayout nor an array, or the number of arrays beyond the three that there are overloads
for, and `getDataSource` has cases for one and two datalayouts only. So a call is right about its
sources exactly if what it does not check is as it should be (`containsSources_iff`).
-/

namespace Pyvrs

open Foundations

variable {L : VrsLib} {N : WriterLib L}

/-! ## Chunks and blocks -/

/-- `PyRecordFormat::getRecordFormat`: the content blocks of the datalayouts come first. -/
def PyRecordFormat.getRecordFormat (format : PyRecordFormat L) :
    List (L.DataLayout ⊕ ContentBlock L) :=
  format.dataLayouts.map .inl ++ format.additionalContentBlocks.map .inr

/-- The chunks of a record, in the order in which they are copied. -/
def DataSource.sequence (source : DataSource L) : List (L.DataLayout ⊕ List UInt8) :=
  source.dataLayouts.map .inl ++ source.chunks.map .inr

/-- A chunk is one of a block: that of a datalayout is the datalayout. -/
inductive IsChunkOf : L.DataLayout ⊕ List UInt8 → L.DataLayout ⊕ ContentBlock L → Prop
  | dataLayout (dl : L.DataLayout) : IsChunkOf (.inl dl) (.inl dl)
  | bytes (chunk : List UInt8) (block : ContentBlock L) : IsChunkOf (.inr chunk) (.inr block)

/-- The chunks are those of the blocks of a format, in order. -/
def DataSource.Fills (source : DataSource L) (format : PyRecordFormat L) : Prop :=
  List.Forall₂ IsChunkOf source.sequence format.getRecordFormat

theorem DataSource.fills_iff {format : PyRecordFormat L} {chunks : List (List UInt8)} :
    (⟨format.dataLayouts, chunks⟩ : DataSource L).Fills format ↔
      chunks.length = format.additionalContentBlocks.length := by
  unfold DataSource.Fills DataSource.sequence PyRecordFormat.getRecordFormat
  constructor
  · intro h
    simpa using h.length_eq
  · intro hlength
    refine List.rel_append ?_ ?_
    · rw [List.forall₂_map_left_iff, List.forall₂_map_right_iff, List.forall₂_same]
      exact fun dl _ => .dataLayout dl
    · rw [List.forall₂_map_left_iff, List.forall₂_map_right_iff, List.forall₂_iff_zip]
      exact ⟨hlength, fun _ => .bytes _ _⟩

/-- The datalayouts of a format get into a record when there are at most two. -/
theorem getDataSource_eq_iff {format : PyRecordFormat L} {chunks : List (List UInt8)} :
    format.getDataSource chunks = ⟨format.dataLayouts, chunks⟩ ↔
      format.dataLayouts.length ≤ 2 := by
  unfold PyRecordFormat.getDataSource
  split
  · rename_i dl h
    simp [h]
  · rename_i dl₁ dl₂ h
    simp [h]
  · rename_i hone htwo
    simp only [DataSource.mk.injEq, and_true]
    cases h : format.dataLayouts with
    | nil => simp
    | cons dl rest =>
      refine iff_of_false nofun fun hlength => ?_
      cases rest with
      | nil => exact hone dl h
      | cons dl' rest =>
        cases rest with
        | nil => exact htwo dl dl' h
        | cons => simp at hlength

/-! ## The sources of a call -/

/-- What each call asks of its stream before it looks at its sources. -/
def recordCheck : CreatedType → VRSStream L → Except PyError Unit
  | .data => VRSWriter.checkConfigRecordCreated
  | .configuration => fun _ => .ok ()
  | .state => fun _ => .ok ()

/-- `create_config_record`, `create_data_record` or `create_state_record`. -/
def WriterCall.createRecord (stream : ℕ) (timestamp : Timestamp) (srcs : List (Source N)) :
    CreatedType → WriterCall N
  | .configuration => .createConfigRecord stream timestamp srcs
  | .data => .createDataRecord stream timestamp srcs
  | .state => .createStateRecord stream timestamp srcs

/-- The source is a `VRSDataLayout`, an `np.ndarray` or an `np.generic`. -/
def Source.IsUsed (src : Source N) : Prop := src.dataLayout?.isSome ∨ src.array?.isSome

/-- The sources are the datalayouts of the format in their order, and as many arrays as it has
additional blocks. -/
structure SourcesMatch (s : VRSStream L) (stream : ℕ) (recordType : CreatedType)
    (srcs : List (Source N)) : Prop where
  used : ∀ src ∈ srcs, src.IsUsed
  dataLayouts : srcs.filterMap Source.dataLayout? = s.dataLayouts stream recordType
  arrays : (srcs.filterMap Source.array?).length =
    (s.stream.recordFormat recordType).additionalContentBlocks.length

namespace VRSWriter

variable (w : VRSWriter N) (recordType : CreatedType) (stream : ℕ) (timestamp : Timestamp)
  (srcs : List (Source N))

/-- Nothing but the choice of the sources can make the call raise: it comes in time, a data record
has its configuration, and numpy converts the arrays. -/
structure OthersPass (s : VRSStream L) : Prop where
  timestamp_ok : w.assertTimestamp timestamp = .ok ()
  check_ok : recordCheck recordType s = .ok ()
  request_ok : ∃ buffers, (srcs.filterMap Source.array?).mapM N.request = .ok buffers

/-- **A record contains what was passed**: a call that returns has created a record of all its
sources, whose chunks are those of the blocks of its format, and other sources are rejected. -/
structure ContainsSources : Prop where
  contents : ∀ value w', call w (.createRecord stream timestamp srcs recordType) = (.ok value, w') →
    ∃ s ∈ w.streams[stream]?, SourcesMatch s stream recordType srcs ∧
      ∃ record buffers, w'.writer.records = w.writer.records.push record ∧
        (srcs.filterMap Source.array?).mapM N.request = .ok buffers ∧
        record.dataSource = ⟨(s.stream.recordFormat recordType).dataLayouts,
          buffers.map BufferInfo.chunk⟩ ∧
        record.dataSource.Fills (s.stream.recordFormat recordType)
  rejects : ∀ s ∈ w.streams[stream]?, ¬SourcesMatch s stream recordType srcs →
    ∃ e, call w (.createRecord stream timestamp srcs recordType) = (.error e, w) ∧
      (w.OthersPass recordType timestamp srcs s → e.kind = .typeError)

/-- The sources that the call lets pass are all used, as many arrays as there are additional blocks,
and the format is one that `getDataSource` has a case for. -/
def UncheckedFits : Prop :=
  ∀ s ∈ w.streams[stream]?, w.OthersPass recordType timestamp srcs s →
    srcs.filterMap Source.dataLayout? = s.dataLayouts stream recordType →
    (srcs.filterMap Source.array?).length ≤ 3 →
    (∀ src ∈ srcs, src.IsUsed) ∧
      (srcs.filterMap Source.array?).length =
        (s.stream.recordFormat recordType).additionalContentBlocks.length ∧
      (s.stream.recordFormat recordType).dataLayouts.length ≤ 2

end VRSWriter

/-! ## The checks -/

section Checks

variable {s : VRSStream L} {stream : ℕ} {recordType : CreatedType} {srcs : List (Source N)}

/-- Lists of one length agree where no pair of elements at one position differs. -/
theorem find?_zip_ne_eq_none_iff {α : Type*} [DecidableEq α] {as bs : List α}
    (h : as.length = bs.length) :
    ((as.zip bs).find? fun (a, b) => a ≠ b) = none ↔ as = bs := by
  rw [List.find?_eq_none]
  constructor
  · intro hall
    refine List.forall₂_eq_eq_eq ▸ List.forall₂_iff_zip.2 ⟨h, fun {a b} hab => ?_⟩
    simpa using hall (a, b) hab
  · rintro rfl ⟨a, b⟩ hab
    have hequal : List.Forall₂ Eq as as := List.forall₂_same.2 fun _ _ => rfl
    simpa using (List.forall₂_iff_zip.1 hequal).2 hab

/-- **What is checked of the sources**: the datalayouts, and that there are at most three arrays. -/
theorem parseCreateRecordParams_eq_ok_iff {arrays : List N.NdArray} :
    s.parseCreateRecordParams stream recordType srcs = .ok arrays ↔
      srcs.filterMap Source.dataLayout? = s.dataLayouts stream recordType ∧
        (srcs.filterMap Source.array?).length ≤ 3 ∧ arrays = srcs.filterMap Source.array? := by
  unfold VRSStream.parseCreateRecordParams
  dsimp only
  by_cases hlength : (srcs.filterMap Source.dataLayout?).length =
      (s.dataLayouts stream recordType).length
  · rw [if_neg (not_not.2 hlength)]
    have hiff := find?_zip_ne_eq_none_iff hlength
    split
    · rename_i pair hpair
      rw [hpair] at hiff
      exact ⟨nofun, fun h => nomatch hiff.2 h.1⟩
    · rename_i hnone
      have hlayouts := hiff.1 hnone
      split
      · rename_i hmany
        exact ⟨nofun, fun h => absurd h.2.1 (not_le.2 hmany)⟩
      · rename_i hfew
        rw [Except.ok.injEq]
        exact ⟨fun h => ⟨hlayouts, not_lt.1 hfew, h.symm⟩, fun h => h.2.2.symm⟩
  · rw [if_pos hlength]
    exact ⟨nofun, fun h => absurd (congrArg List.length h.1) hlength⟩

/-- Sources that are rejected are rejected with a `TypeError`. -/
theorem kind_of_parseCreateRecordParams {e : PyError}
    (h : s.parseCreateRecordParams stream recordType srcs = .error e) :
    e.kind = .typeError := by
  unfold VRSStream.parseCreateRecordParams at h
  dsimp only at h
  split at h
  · cases h
    rfl
  · split at h
    · cases h
      rfl
    · split at h
      · cases h
        rfl
      · cases h

end Checks

namespace VRSWriter

section Call

variable {w : VRSWriter N} {recordType : CreatedType} {stream : ℕ} {timestamp : Timestamp}
  {srcs : List (Source N)} {s : VRSStream L}

theorem checkRecord_eq_ok_iff {buffers : List BufferInfo} :
    w.checkRecord recordType (recordCheck recordType) stream s timestamp srcs = .ok buffers ↔
      w.assertTimestamp timestamp = .ok () ∧ recordCheck recordType s = .ok () ∧
        srcs.filterMap Source.dataLayout? = s.dataLayouts stream recordType ∧
        (srcs.filterMap Source.array?).length ≤ 3 ∧
        (srcs.filterMap Source.array?).mapM N.request = .ok buffers := by
  unfold checkRecord
  simp only [bind_eq_ok_iff, parseCreateRecordParams_eq_ok_iff]
  constructor
  · rintro ⟨_, htimestamp, _, hcheck, _, ⟨hlayouts, hfew, rfl⟩, hrequest⟩
    exact ⟨htimestamp, hcheck, hlayouts, hfew, hrequest⟩
  · rintro ⟨htimestamp, hcheck, hlayouts, hfew, hrequest⟩
    exact ⟨(), htimestamp, (), hcheck, _, ⟨hlayouts, hfew, rfl⟩, hrequest⟩

/-- Where the other checks pass, only the sources can be at fault. -/
theorem OthersPass.kind_of_checkRecord (h : w.OthersPass recordType timestamp srcs s) {e : PyError}
    (herror : w.checkRecord recordType (recordCheck recordType) stream s timestamp srcs =
      .error e) : e.kind = .typeError := by
  obtain ⟨buffers, hrequest⟩ := h.request_ok
  unfold checkRecord at herror
  rw [h.timestamp_ok, h.check_ok] at herror
  cases hparse : s.parseCreateRecordParams stream recordType srcs with
  | error e' =>
    rw [hparse] at herror
    cases herror
    exact kind_of_parseCreateRecordParams hparse
  | ok arrays =>
    obtain ⟨-, -, rfl⟩ := parseCreateRecordParams_eq_ok_iff.1 hparse
    rw [hparse] at herror
    exact nomatch hrequest.symm.trans herror

/-- A call that is rejected leaves the writer as it was. -/
theorem call_createRecord_of_error (hs : w.streams[stream]? = some s) {e : PyError}
    (h : w.checkRecord recordType (recordCheck recordType) stream s timestamp srcs = .error e) :
    call w (.createRecord stream timestamp srcs recordType) = (.error e, w) := by
  cases recordType <;>
    simp only [WriterCall.createRecord, call, createConfigRecord, createDataRecord,
      createStateRecord, createRecord, hs] <;>
    simp only [recordCheck] at h <;>
    simp only [h] <;>
    rfl

/-- A call that is not rejected creates a record of its buffers. -/
theorem call_createRecord_of_ok (hs : w.streams[stream]? = some s) {buffers : List BufferInfo}
    (h : w.checkRecord recordType (recordCheck recordType) stream s timestamp srcs =
      .ok buffers) :
    ∃ w', call w (.createRecord stream timestamp srcs recordType) = (.ok .none, w') ∧
      w'.writer = (w.createNativeRecord stream timestamp (s.stream.recordFormat recordType)
        buffers).writer := by
  cases recordType <;>
    simp only [WriterCall.createRecord, call, createConfigRecord, createDataRecord,
      createStateRecord, createRecord, hs] <;>
    simp only [recordCheck] at h <;>
    simp only [h] <;>
    exact ⟨_, rfl, rfl⟩

theorem call_createRecord_of_none (hs : w.streams[stream]? = none) :
    call w (.createRecord stream timestamp srcs recordType) =
      (.error (noSuchStream stream), w) := by
  cases recordType <;>
    simp only [WriterCall.createRecord, call, createConfigRecord, createDataRecord,
      createStateRecord, createRecord, hs] <;>
    rfl

/-- The record that is created of some buffers is the only one queued by it. -/
theorem dataSource_of_push {recordFormat : PyRecordFormat L} {buffers : List BufferInfo}
    {record : Record L}
    (h : (w.createNativeRecord stream timestamp recordFormat buffers).writer.records =
      w.writer.records.push record) :
    record.dataSource = recordFormat.getDataSource (buffers.map BufferInfo.chunk) := by
  have hqueue := congrArg BatchQueue.queue h
  simp only [BatchQueue.queue_push] at hqueue
  obtain ⟨-, hrecord⟩ := List.append_inj' hqueue rfl
  cases hrecord
  rfl

/-- The sources that are let pass match, as far as that is not checked. -/
theorem UncheckedFits.sourcesMatch (h : w.UncheckedFits recordType stream timestamp srcs)
    (hs : w.streams[stream]? = some s) {buffers : List BufferInfo}
    (hchecked : w.checkRecord recordType (recordCheck recordType) stream s timestamp srcs =
      .ok buffers) :
    SourcesMatch s stream recordType srcs ∧
      (s.stream.recordFormat recordType).dataLayouts.length ≤ 2 := by
  obtain ⟨htimestamp, hcheck, hlayouts, hfew, hrequest⟩ := checkRecord_eq_ok_iff.1 hchecked
  obtain ⟨hused, hcount, htwo⟩ := h s hs ⟨htimestamp, hcheck, _, hrequest⟩ hlayouts hfew
  exact ⟨⟨hused, hlayouts, hcount⟩, htwo⟩

end Call

section Contents

variable {w : VRSWriter N} {recordType : CreatedType} {stream : ℕ} {timestamp : Timestamp}
  {srcs : List (Source N)}

/-- What nothing checks shows in a record that contains its sources. -/
theorem ContainsSources.uncheckedFits
    (h : w.ContainsSources recordType stream timestamp srcs) :
    w.UncheckedFits recordType stream timestamp srcs := by
  intro s hs hothers hlayouts hfew
  obtain ⟨buffers, hrequest⟩ := hothers.request_ok
  have hchecked := checkRecord_eq_ok_iff.2
    ⟨hothers.timestamp_ok, hothers.check_ok, hlayouts, hfew, hrequest⟩
  obtain ⟨w', hcall, hwriter⟩ := call_createRecord_of_ok hs hchecked
  obtain ⟨s', hs', hmatch, record, buffers', hrecords, hrequest', hsource, -⟩ :=
    h.contents _ _ hcall
  cases hs.symm.trans hs'
  cases hrequest.symm.trans hrequest'
  rw [hwriter] at hrecords
  rw [dataSource_of_push hrecords] at hsource
  exact ⟨hmatch.used, hmatch.arrays, getDataSource_eq_iff.1 hsource⟩

/-- The record that a call creates is that of its sources. -/
theorem UncheckedFits.containsSources
    (h : w.UncheckedFits recordType stream timestamp srcs) :
    w.ContainsSources recordType stream timestamp srcs := by
  constructor
  · intro value w' hcall
    cases hs : w.streams[stream]? with
    | none => exact nomatch (call_createRecord_of_none hs).symm.trans hcall
    | some s =>
      cases hchecked : w.checkRecord recordType (recordCheck recordType) stream s timestamp
        srcs with
      | error e => exact nomatch (call_createRecord_of_error hs hchecked).symm.trans hcall
      | ok buffers =>
        obtain ⟨w'', hcall', hwriter⟩ := call_createRecord_of_ok hs hchecked
        cases hcall.symm.trans hcall'
        obtain ⟨hmatch, htwo⟩ := h.sourcesMatch hs hchecked
        have hrequest := (checkRecord_eq_ok_iff.1 hchecked).2.2.2.2
        have hcount : (buffers.map BufferInfo.chunk).length =
            (s.stream.recordFormat recordType).additionalContentBlocks.length := by
          have hlength := congrArg List.length (mapM_eq_ok_iff.1 hrequest)
          simp only [List.length_map] at hlength ⊢
          rw [← hlength, hmatch.arrays]
        refine ⟨s, rfl, hmatch, _, buffers, by rw [hwriter]; rfl, hrequest,
          getDataSource_eq_iff.2 htwo, ?_⟩
        dsimp only
        rw [getDataSource_eq_iff.2 htwo]
        exact DataSource.fills_iff.2 hcount
  · intro s hs hmatch
    cases hchecked : w.checkRecord recordType (recordCheck recordType) stream s timestamp
      srcs with
    | error e =>
      exact ⟨e, call_createRecord_of_error hs hchecked,
        fun hothers => hothers.kind_of_checkRecord hchecked⟩
    | ok buffers => exact absurd (h.sourcesMatch hs hchecked).1 hmatch

end Contents

/-- **A record contains what was passed** if and only if the sources that are let pass are used,
with as many arrays as the format has additional blocks, and the format has at most two
datalayouts. -/
theorem containsSources_iff (w : VRSWriter N) (recordType : CreatedType) (stream : ℕ)
    (timestamp : Timestamp) (srcs : List (Source N)) :
    w.ContainsSources recordType stream timestamp srcs ↔
      w.UncheckedFits recordType stream timestamp srcs :=
  ⟨ContainsSources.uncheckedFits, UncheckedFits.containsSources⟩

/-- A writer whose stream takes data records with an image. -/
def imageWriter : VRSWriter WriterLib.bare :=
  Machine.exec call (new WriterLib.bare "image.vrs")
    [.createStream "sample_with_image" "",
      .createConfigRecord 0 (.ofRat 0) [.dataLayout ⟨0, .configuration, 0⟩]]

/-- **A record without its image** is created. -/
theorem not_containsSources_imageWriter :
    (call imageWriter (.createDataRecord 0 (.ofRat 1) [.dataLayout ⟨0, .data, 0⟩])).1 =
        .ok .none ∧
      ¬imageWriter.ContainsSources .data 0 (.ofRat 1) [.dataLayout ⟨0, .data, 0⟩] := by
  have hcall : (call imageWriter (.createDataRecord 0 (.ofRat 1)
      [.dataLayout ⟨0, .data, 0⟩])).1 = .ok .none := by decide +kernel
  refine ⟨hcall, fun h => ?_⟩
  obtain ⟨s, hs, hmatch, -⟩ := h.contents _ _ (Prod.ext hcall rfl)
  have hstream : imageWriter.streams[0]?.map (fun s =>
      (s.stream.recordFormat .data).additionalContentBlocks.length) = some 1 := by decide +kernel
  rw [hs] at hstream
  have hblocks : (s.stream.recordFormat .data).additionalContentBlocks.length = 1 :=
    Option.some.inj hstream
  have harrays := hmatch.arrays
  rw [hblocks] at harrays
  cases harrays

end VRSWriter

end Pyvrs
