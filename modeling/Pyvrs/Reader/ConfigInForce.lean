import Pyvrs.Reader.ConfigRecords

/-!
# The configuration in force

A stream is decoded with the last of its configuration records handed to the player. When a data
record is read, that should be the greatest one below it in the index. `lastReadConfigIndex_` is
what the reader knows of it, and only automatic reads update it: a configuration record that the
user reads, or one read automatically while the stream was not enabled, makes it differ from what
the player has seen. A run that avoids both (`KeepsCache`) decodes every data record with its own
configuration (`configuration_in_force`), and nothing less is enough
(`configuration_not_in_force`).
-/

namespace Pyvrs.OssVRSReader

open Foundations

variable {L : VrsLib} (F : RecordFileReader L) (D : Native L) (reader : OssVRSReader L)

/-- The position of the last configuration record of a stream handed to the player. -/
def lastConfigHanded (s : StreamId) (reads : List NativeRead) : Option ℕ :=
  lastRead (fun read => read.handed = true ∧ IsConfigAt (fun i => F.index[i]?) s read.index) reads

theorem lastConfigHanded_append (s : StreamId) (reads : List NativeRead) (read : NativeRead) :
    lastConfigHanded F s (reads ++ [read]) =
      if read.handed = true ∧ IsConfigAt (fun i => F.index[i]?) s read.index then some read.index
      else lastConfigHanded F s reads :=
  lastRead_append _ reads read

/-- A native read of a configuration record of an enabled stream hands it to the player. -/
theorem lastConfigHanded_nativeReadRecord {k : ℕ} {info : RecordInfo}
    (hinfo : F.index[k]? = some info) {s : StreamId} (hen : s ∈ reader.enabledStreams) :
    lastConfigHanded F s (reader.nativeReadRecord D k info).2.nativeReads =
      if info.streamId = s ∧ info.recordType = .configuration then some k
      else lastConfigHanded F s reader.nativeReads := by
  rw [nativeReadRecord_nativeReads, lastConfigHanded_append]
  have hiff : (decide (info.streamId ∈ reader.enabledStreams) = true ∧
      IsConfigAt (fun i => F.index[i]?) s k) ↔
      info.streamId = s ∧ info.recordType = .configuration := by
    rw [isConfigAt_iff hinfo, decide_eq_true_eq]
    constructor
    · rintro ⟨-, h⟩
      exact h
    · rintro ⟨rfl, h⟩
      exact ⟨hen, rfl, h⟩
  simp only [hiff]

theorem lastConfigHanded_nativeReadRecord_of_notMem {k : ℕ} {info : RecordInfo}
    (hinfo : F.index[k]? = some info) {s : StreamId} (hen : s ∉ reader.enabledStreams) :
    lastConfigHanded F s (reader.nativeReadRecord D k info).2.nativeReads =
      lastConfigHanded F s reader.nativeReads := by
  rw [nativeReadRecord_nativeReads, lastConfigHanded_append, if_neg]
  rintro ⟨hhanded, hconfig⟩
  have hs := ((isConfigAt_iff hinfo).1 hconfig).1
  exact hen (hs ▸ of_decide_eq_true hhanded)

/-- The configuration in force: if the call returns a data record of an enabled stream, which has a
configuration record before it, then the last one handed to the player is the greatest before it. -/
def InForce (c : Call) : Prop :=
  ∀ record before i info t, recordOf (call F D reader c).1 = some record →
    (call F D reader c).2.nativeReads = before ++ [⟨i, true, 0⟩] →
    F.index[i]? = some info → info.recordType = .data →
    IsGreatest (configsBelow (fun k => F.index[k]?) info.streamId i) t →
    lastConfigHanded F info.streamId before = some t

/-- The call answers without an exception. -/
def Succeeds (c : Call) : Prop := ∃ value, (call F D reader c).1 = .ok value

/-- The call leaves `lastReadConfigIndex_` true to what the player has seen: it does not read a
configuration record of an enabled stream for which another one is noted, and does not enable a
stream for which one is noted. -/
structure KeepsCache (c : Call) : Prop where
  read : ∀ k info, reader.target F c = some k → F.index[k]? = some info →
    info.recordType = .configuration → info.streamId ∈ reader.enabledStreams →
    reader.lastReadConfigIndex info.streamId = uint32Max ∨
      reader.lastReadConfigIndex info.streamId = k
  enable : ∀ s ∈ F.streams, s ∈ enables F c → s ∉ reader.enabledStreams →
    reader.lastReadConfigIndex s = uint32Max

/-- What such calls preserve: where `lastReadConfigIndex_` notes a configuration record of an
enabled stream, the player has seen it last. -/
structure CacheInForce : Prop where
  auto : reader.autoReadConfigurationRecord = true
  filled : reader.IndexFilled F
  cached : ∀ s ∈ F.streams, s ∈ reader.enabledStreams →
    reader.lastReadConfigIndex s = uint32Max ∨
      lastConfigHanded F s reader.nativeReads = some (reader.lastReadConfigIndex s)

theorem cacheInForce_open : CacheInForce F ((new true : OssVRSReader L).open F) where
  auto := rfl
  filled := indexFilled_of_eq_none F _ rfl
  cached s hs _ := .inl (by simp [«open», new, hs])

/-! ## One call -/

/-- The automatic configuration read leaves the configuration in force handed to the player. -/
theorem CacheInForce.autoReadConfiguration {reader reader' : OssVRSReader L} {record : RecordInfo}
    (hcache : reader.CacheInForce F) (hrecord : F.index[reader.nextRecordIndex]? = some record)
    (hok : reader.autoReadConfiguration F D record = (.ok (), reader')) :
    reader'.CacheInForce F ∧
      (record.recordType = .data → record.streamId ∈ reader.enabledStreams →
        ∀ t, IsGreatest (configsBelow (fun k => F.index[k]?) record.streamId
          reader.nextRecordIndex) t →
          lastConfigHanded F record.streamId reader'.nativeReads = some t) := by
  have hstream := F.mem_streams record (List.mem_of_getElem? hrecord)
  by_cases hdata : record.recordType = .data
  · have hle := (List.getElem?_eq_some_iff.1 hrecord).1.le
    rw [autoReadConfiguration_of_data F D _ hcache.auto hdata] at hok
    rcases reader.readConfigurationRecord_cases F D hcache.filled record.streamId hle with
      ⟨hup, heq⟩ | ⟨t, info, hgreatest, -, hinfo, heq⟩
    · -- the configuration in force is noted: nothing is read
      rw [heq] at hok
      cases hok
      refine ⟨⟨hcache.auto, hcache.filled.withConfigIndex, hcache.cached⟩, fun _ hen t ht => ?_⟩
      rcases hcache.cached _ hstream hen with hmax | hlast
      · exact absurd ((hup t ht).symm.trans hmax) ht.1.1.ne_uint32Max
      · rw [← hup t ht]
        exact hlast
    · obtain ⟨hstatus, rfl⟩ := readConfigurationAt_eq_ok D _ t info (heq.symm.trans hok)
      obtain ⟨hs, htype⟩ := (isConfigAt_iff hinfo).1 hgreatest.1.1
      have hlast := fun s hen => (reader.withConfigIndex F).lastConfigHanded_nativeReadRecord F D
        hinfo (s := s) hen
      refine ⟨⟨hcache.auto, hcache.filled.withConfigIndex, fun s hmem hen => ?_⟩,
        fun _ hen t' ht' => ?_⟩
      · by_cases hs' : info.streamId = s
        · right
          have hnoted : Function.update reader.lastReadConfigIndex record.streamId t s = t := by
            rw [← hs, hs', Function.update_self]
          exact (hlast s hen).trans ((if_pos ⟨hs', htype⟩).trans (congrArg some hnoted.symm))
        · have hne : s ≠ record.streamId := fun h => hs' (hs.trans h.symm)
          have hkeep := (hlast s hen).trans (if_neg fun h => hs' h.1)
          rcases hcache.cached s hmem hen with hmax | hseen
          · exact .inl ((Function.update_of_ne hne _ _).trans hmax)
          · exact .inr (hkeep.trans (hseen.trans
              (congrArg some (Function.update_of_ne hne _ _).symm)))
      · rw [ht'.unique hgreatest]
        exact (hlast _ hen).trans (if_pos ⟨hs, htype⟩)
  · rw [autoReadConfiguration_of_ne F D _ hdata] at hok
    cases hok
    exact ⟨hcache, fun h => absurd h hdata⟩

/-- Reading the record at the cursor keeps the cache true, unless it is a configuration record of
which another one is noted. -/
theorem CacheInForce.readThisRecord {reader reader' : OssVRSReader L} {record : RecordInfo}
    {r : PyRecord L} (hcache : reader.CacheInForce F)
    (hrecord : F.index[reader.nextRecordIndex]? = some record)
    (hread : record.recordType = .configuration → record.streamId ∈ reader.enabledStreams →
      reader.lastReadConfigIndex record.streamId = uint32Max ∨
        reader.lastReadConfigIndex record.streamId = reader.nextRecordIndex)
    (hok : reader.readThisRecord D record = (.ok r, reader')) : reader'.CacheInForce F := by
  obtain ⟨-, -, rfl⟩ := reader.readThisRecord_eq_ok D record hok
  refine ⟨hcache.auto, hcache.filled.congr F rfl, fun s hmem hen => ?_⟩
  have hlast := reader.lastConfigHanded_nativeReadRecord F D hrecord (s := s) hen
  by_cases hs : record.streamId = s ∧ record.recordType = .configuration
  · obtain ⟨rfl, htype⟩ := hs
    rcases hread htype hen with hmax | hsame
    · exact .inl hmax
    · exact .inr (hlast.trans ((if_pos ⟨rfl, htype⟩).trans (congrArg some hsame.symm)))
  · rcases hcache.cached s hmem hen with hmax | hseen
    · exact .inl hmax
    · exact .inr (hlast.trans ((if_neg hs).trans hseen))

/-- One successful call that keeps the cache. -/
theorem CacheInForce.call {reader : OssVRSReader L} {c : Call} (hcache : reader.CacheInForce F)
    (hok : reader.Succeeds F D c) (hkeeps : reader.KeepsCache F c) :
    reader.InForce F D c ∧ (OssVRSReader.call F D reader c).2.CacheInForce F := by
  cases htarget : reader.target F c with
  | none =>
    obtain ⟨hnone, hunread⟩ := reader.unread_of_target_eq_none F D htarget
    refine ⟨fun record before i info t hrecord => ?_, ?_, ?_, fun s hmem hen => ?_⟩
    · rw [hnone] at hrecord
      cases hrecord
    · exact hunread.autoReadConfigurationRecord_eq.trans hcache.auto
    · exact hcache.filled.congr F hunread.configIndex_eq
    · rw [hunread.lastReadConfigIndex_eq, hunread.nativeReads_eq]
      rw [hunread.enabledStreams_eq, Finset.mem_union, List.mem_toFinset] at hen
      by_cases hold : s ∈ reader.enabledStreams
      · exact hcache.cached s hmem hold
      · exact .inl (hkeeps.enable s hmem (hen.resolve_left hold) hold)
  | some k =>
    obtain ⟨value, hvalue⟩ := hok
    obtain ⟨record, r, reader₁, hrecord, -, hauto, hthis⟩ :=
      reader.call_of_target_eq_ok F D htarget hvalue
    have hstart : (reader.cursorAt k).CacheInForce F :=
      ⟨hcache.auto, hcache.filled.congr F rfl, hcache.cached⟩
    obtain ⟨hcache₁, hforce⟩ := hstart.autoReadConfiguration F D hrecord hauto
    obtain ⟨hcursor, hen⟩ := (reader.cursorAt k).autoReadConfiguration_frame F D record
    rw [hauto] at hcursor hen
    have hcursor' : reader₁.nextRecordIndex = k := hcursor
    refine ⟨fun _ before i info t _ hreads hinfo hdata ht => ?_,
      hcache₁.readThisRecord F D (hcursor' ▸ hrecord) (fun htype hmem => ?_) hthis⟩
    · -- the last native read is that of the record
      obtain ⟨-, -, hreader'⟩ := reader₁.readThisRecord_eq_ok D record hthis
      rw [hreader', recordRead_nativeReads, nativeReadRecord_nativeReads] at hreads
      obtain ⟨rfl, hlast⟩ := List.append_inj' hreads rfl
      obtain ⟨hi, hhanded, -⟩ := NativeRead.mk.inj (List.singleton_inj.1 hlast)
      have hik : k = i := hcursor'.symm.trans hi
      subst hik
      cases hrecord.symm.trans hinfo
      exact hforce hdata (hen ▸ of_decide_eq_true hhanded) t ht
    · -- a configuration record is read without an automatic read before it
      have hnodata : record.recordType ≠ .data := by
        rw [htype]
        exact RecordType.noConfusion
      rw [autoReadConfiguration_of_ne F D _ hnodata] at hauto
      cases hauto
      exact hkeeps.read k record htarget hrecord htype hmem

/-- **The configuration in force.** On a newly opened file with automatic configuration reads, in
every run of successful calls that keep the cache, every data record of an enabled stream that has a
configuration record before it is read with the greatest of them as the last one handed to the
player. -/
theorem configuration_in_force (cs : List Call)
    (hrun : (call F D).Along (fun reader c => reader.Succeeds F D c ∧ reader.KeepsCache F c)
      ((new true).open F) cs) :
    (call F D).Along (fun reader c => reader.InForce F D c) ((new true).open F) cs :=
  Machine.along_of_invariant (I := CacheInForce F)
    (fun _ _ hcache h => hcache.call F D h.1 h.2) cs (cacheInForce_open F) hrun

/-- The data records of `reconfiguredFile`, read in order. -/
theorem configuration_in_force_of_reconfiguredFile :
    (call reconfiguredFile (.blank .bare)).Along
      (fun reader c => reader.InForce reconfiguredFile (.blank .bare) c)
      ((new true).open reconfiguredFile) [.enableAllStreams, .readRecord 1, .readRecord 3] := by
  refine configuration_in_force reconfiguredFile (.blank .bare) _
    ⟨⟨⟨_, rfl⟩, ⟨nofun, by decide⟩⟩, ⟨⟨_, rfl⟩, ⟨?_, nofun⟩⟩, ⟨⟨_, rfl⟩, ⟨?_, nofun⟩⟩, trivial⟩
  all_goals
    rintro k info htarget hinfo htype -
    cases htarget
    cases hinfo
    cases htype

/-- Once the first configuration record is read by the user, the second data record is read again
with it. -/
theorem not_configuration_in_force :
    ¬∀ (L : VrsLib) (F : RecordFileReader L) (D : Native L) (cs : List Call),
      (call F D).Along (fun reader c => reader.Succeeds F D c) ((new true).open F) cs →
      (call F D).Along (fun reader c => reader.InForce F D c) ((new true).open F) cs := by
  intro h
  have hrun := h .bare reconfiguredFile (.blank .bare)
    [.enableAllStreams, .readRecord 3, .readRecord 0, .readRecord 3]
    ⟨⟨_, rfl⟩, ⟨_, rfl⟩, ⟨_, rfl⟩, ⟨_, rfl⟩, trivial⟩
  have hgreatest : IsGreatest
      (configsBelow (fun k => reconfiguredFile.index[k]?) ⟨1201, 1⟩ 3) 2 :=
    ⟨⟨⟨_, rfl, rfl, rfl⟩, by decide⟩, fun _ hk => Nat.le_of_lt_succ hk.2⟩
  have hlast := hrun.2.2.2.1 _ [⟨2, true, 0⟩, ⟨3, true, 0⟩, ⟨0, true, 0⟩] 3 _ 2 rfl rfl rfl rfl
    hgreatest
  exact absurd hlast (by decide)

/-! ## Calls that do not keep the cache -/

/-- What every successful call preserves: the configuration noted for a stream is in force at one of
its data records, and the player has seen nothing of a stream that is not enabled. -/
structure Noted : Prop where
  auto : reader.autoReadConfigurationRecord = true
  filled : reader.IndexFilled F
  noted : ∀ s ∈ F.streams, reader.lastReadConfigIndex s = uint32Max ∨
    ∃ i info, F.index[i]? = some info ∧ info.recordType = .data ∧ info.streamId = s ∧
      IsGreatest (configsBelow (fun k => F.index[k]?) s i) (reader.lastReadConfigIndex s)
  unseen : ∀ s, s ∉ reader.enabledStreams → lastConfigHanded F s reader.nativeReads = none

theorem noted_open : Noted F ((new true : OssVRSReader L).open F) where
  auto := rfl
  filled := indexFilled_of_eq_none F _ rfl
  noted s hs := .inl (by simp [«open», new, hs])
  unseen _ _ := rfl

theorem Noted.autoReadConfiguration {reader reader' : OssVRSReader L} {record : RecordInfo}
    (hnoted : reader.Noted F) (hrecord : F.index[reader.nextRecordIndex]? = some record)
    (hok : reader.autoReadConfiguration F D record = (.ok (), reader')) : reader'.Noted F := by
  by_cases hdata : record.recordType = .data
  · have hle := (List.getElem?_eq_some_iff.1 hrecord).1.le
    rw [autoReadConfiguration_of_data F D _ hnoted.auto hdata] at hok
    rcases reader.readConfigurationRecord_cases F D hnoted.filled record.streamId hle with
      ⟨-, heq⟩ | ⟨t, info, hgreatest, -, hinfo, heq⟩
    · cases heq.symm.trans hok
      exact ⟨hnoted.auto, hnoted.filled.withConfigIndex, hnoted.noted, hnoted.unseen⟩
    · obtain ⟨-, rfl⟩ := readConfigurationAt_eq_ok D _ t info (heq.symm.trans hok)
      refine ⟨hnoted.auto, hnoted.filled.withConfigIndex, fun s hmem => ?_, fun s hen => ?_⟩
      · by_cases hs : s = record.streamId
        · subst hs
          right
          refine ⟨reader.nextRecordIndex, record, hrecord, hdata, rfl, ?_⟩
          rwa [configurationRead_lastReadConfigIndex, Function.update_self]
        · rw [configurationRead_lastReadConfigIndex, Function.update_of_ne hs]
          exact hnoted.noted s hmem
      · exact ((reader.withConfigIndex F).lastConfigHanded_nativeReadRecord_of_notMem F D hinfo
          hen).trans (hnoted.unseen s hen)
  · rw [autoReadConfiguration_of_ne F D _ hdata] at hok
    cases hok
    exact hnoted

theorem Noted.call {reader : OssVRSReader L} {c : Call} (hnoted : reader.Noted F)
    (hok : reader.Succeeds F D c) : (OssVRSReader.call F D reader c).2.Noted F := by
  cases htarget : reader.target F c with
  | none =>
    obtain ⟨-, hunread⟩ := reader.unread_of_target_eq_none F D htarget
    refine ⟨hunread.autoReadConfigurationRecord_eq.trans hnoted.auto,
      hnoted.filled.congr F hunread.configIndex_eq, ?_, fun s hen => ?_⟩
    · rw [hunread.lastReadConfigIndex_eq]
      exact hnoted.noted
    · rw [hunread.enabledStreams_eq, Finset.mem_union] at hen
      rw [hunread.nativeReads_eq]
      exact hnoted.unseen s fun h => hen (.inl h)
  | some k =>
    obtain ⟨value, hvalue⟩ := hok
    obtain ⟨record, r, reader₁, hrecord, -, hauto, hthis⟩ :=
      reader.call_of_target_eq_ok F D htarget hvalue
    have hstart : (reader.cursorAt k).Noted F :=
      ⟨hnoted.auto, hnoted.filled.congr F rfl, hnoted.noted, hnoted.unseen⟩
    have hnoted₁ := hstart.autoReadConfiguration F D hrecord hauto
    have hcursor := ((reader.cursorAt k).autoReadConfiguration_frame F D record).1
    rw [hauto] at hcursor
    have hrecord₁ : F.index[reader₁.nextRecordIndex]? = some record :=
      (congrArg (F.index[·]?) hcursor).trans hrecord
    obtain ⟨-, -, hreader'⟩ := reader₁.readThisRecord_eq_ok D record hthis
    rw [hreader']
    exact ⟨hnoted₁.auto, hnoted₁.filled.congr F rfl, hnoted₁.noted, fun s hen =>
      (reader₁.lastConfigHanded_nativeReadRecord_of_notMem F D hrecord₁ hen).trans
        (hnoted₁.unseen s hen)⟩

/-- The player has not seen last the configuration that is noted for the enabled stream `s`. -/
def Stale (s : StreamId) : Prop :=
  s ∈ F.streams ∧ s ∈ reader.enabledStreams ∧ reader.lastReadConfigIndex s ≠ uint32Max ∧
    lastConfigHanded F s reader.nativeReads ≠ some (reader.lastReadConfigIndex s)

/-- A call that does not keep the cache leaves it stale. -/
theorem Noted.stale_of_not_keepsCache {reader : OssVRSReader L} {c : Call}
    (hnoted : reader.Noted F) (hok : reader.Succeeds F D c) (hnot : ¬reader.KeepsCache F c) :
    ∃ s, (OssVRSReader.call F D reader c).2.Stale F s := by
  cases htarget : reader.target F c with
  | none =>
    have henable : ∃ s ∈ F.streams, s ∈ enables F c ∧ s ∉ reader.enabledStreams ∧
        reader.lastReadConfigIndex s ≠ uint32Max := by
      by_contra hall
      push Not at hall
      exact hnot ⟨fun k info h => absurd (htarget.symm.trans h) nofun, hall⟩
    obtain ⟨s, hmem, hs, hen, hmax⟩ := henable
    obtain ⟨-, hunread⟩ := reader.unread_of_target_eq_none F D htarget
    refine ⟨s, hmem, ?_, ?_, ?_⟩
    · rw [hunread.enabledStreams_eq, Finset.mem_union, List.mem_toFinset]
      exact .inr hs
    · rwa [hunread.lastReadConfigIndex_eq]
    · rw [hunread.nativeReads_eq, hnoted.unseen s hen]
      exact nofun
  | some k =>
    have hread : ∃ info, F.index[k]? = some info ∧ info.recordType = .configuration ∧
        info.streamId ∈ reader.enabledStreams ∧
        reader.lastReadConfigIndex info.streamId ≠ uint32Max ∧
        reader.lastReadConfigIndex info.streamId ≠ k := by
      by_contra hall
      push Not at hall
      refine hnot ⟨fun k' info hk' hinfo htype hen => ?_, fun s _ hs => ?_⟩
      · cases htarget.symm.trans hk'
        exact or_iff_not_imp_left.2 (hall info hinfo htype hen)
      · rw [reader.enables_of_target F htarget] at hs
        cases hs
    obtain ⟨info, hinfo, htype, hen, hmax, hne⟩ := hread
    obtain ⟨value, hvalue⟩ := hok
    obtain ⟨record, r, reader₁, hrecord, -, hauto, hthis⟩ :=
      reader.call_of_target_eq_ok F D htarget hvalue
    cases hinfo.symm.trans hrecord
    have hnodata : info.recordType ≠ .data := by
      rw [htype]
      exact RecordType.noConfusion
    rw [autoReadConfiguration_of_ne F D _ hnodata] at hauto
    cases hauto
    obtain ⟨-, -, hreader'⟩ := (reader.cursorAt k).readThisRecord_eq_ok D info hthis
    refine ⟨info.streamId, F.mem_streams _ (List.mem_of_getElem? hinfo), ?_, ?_, ?_⟩
    · rw [hreader']
      exact hen
    · rw [hreader']
      exact hmax
    · have hlast := (reader.cursorAt k).lastConfigHanded_nativeReadRecord F D hinfo
        (s := info.streamId) hen
      rw [if_pos ⟨rfl, htype⟩] at hlast
      rw [hreader']
      intro heq
      exact hne (Option.some.inj (heq.symm.trans hlast))

/-- From a stale cache some data record is read with the wrong configuration. -/
theorem Noted.exists_not_inForce (hD : ∀ reads i, (D reads i).status = 0)
    {reader : OssVRSReader L} (hnoted : reader.Noted F) {s : StreamId} (hstale : reader.Stale F s) :
    ∃ i : Int32, ¬reader.InForce F D (.readRecord i) := by
  obtain ⟨hmem, hen, hmax, hlast⟩ := hstale
  obtain ⟨i, info, hinfo, hdata, rfl, hgreatest⟩ := (hnoted.noted s hmem).resolve_left hmax
  have hi := (List.getElem?_eq_some_iff.1 hinfo).1
  have hcast : castUInt32 (.ofNat i) = i := castUInt32_ofNat (hi.trans F.length_index_lt)
  have htarget : reader.target F (.readRecord (.ofNat i)) = some i := by
    rw [target_of_sought F reader rfl, sought, hcast, if_neg (not_le.2 hi)]
  -- the configuration in force is noted, so that nothing is read before the record
  have hauto : (reader.cursorAt i).autoReadConfiguration F D info =
      (.ok (), (reader.cursorAt i).withConfigIndex F) := by
    have hstart : (reader.cursorAt i).autoReadConfigurationRecord = true := hnoted.auto
    rw [autoReadConfiguration_of_data F D _ hstart hdata]
    have hfilled : (reader.cursorAt i).IndexFilled F := hnoted.filled.congr F rfl
    rcases (reader.cursorAt i).readConfigurationRecord_cases F D hfilled info.streamId hi.le with
      ⟨-, heq⟩ | ⟨t, _, ht, hne, -, -⟩
    · exact heq
    · exact absurd (ht.unique hgreatest).symm hne
  have hread := ((reader.cursorAt i).withConfigIndex F).readThisRecord_of_eq D info (hD _ _)
  have hcall : OssVRSReader.call F D reader (.readRecord (.ofNat i)) =
      answer .record (((reader.cursorAt i).withConfigIndex F).readThisRecord D info) := by
    rw [reader.call_of_target F D htarget]
    simp only [readNextRecordInternal, cursorAt_nextRecordIndex, hinfo, hauto]
  rw [hread] at hcall
  refine ⟨.ofNat i, fun hforce => hlast ?_⟩
  refine hforce _ reader.nativeReads i info _ (congrArg (fun result => recordOf result.1) hcall) ?_
    hinfo hdata hgreatest
  refine (congrArg (fun result => result.2.nativeReads) hcall).trans ?_
  refine congrArg (fun read => reader.nativeReads ++ [read]) ?_
  rw [NativeRead.mk.injEq]
  exact ⟨rfl, decide_eq_true hen, hD _ _⟩

/-- **Nothing less is enough**: where native reads succeed, a call that does not keep the cache
leaves a data record that the next call would read with the wrong configuration. -/
theorem configuration_not_in_force (hD : ∀ reads i, (D reads i).status = 0) (cs : List Call)
    (c : Call)
    (hrun : (call F D).Along (fun reader c => reader.Succeeds F D c) ((new true).open F)
      (cs ++ [c]))
    (hnot : ¬((call F D).exec ((new true).open F) cs).KeepsCache F c) :
    ∃ i : Int32,
      ¬((call F D).exec ((new true).open F) (cs ++ [c])).InForce F D (.readRecord i) := by
  rw [Machine.along_append] at hrun
  have hnoted : ((call F D).exec ((new true).open F) cs).Noted F :=
    Machine.exec_of_along (I := Noted F) (fun _ _ hnoted hok => hnoted.call F D hok) cs
      (noted_open F) hrun.1
  have hok := hrun.2.1
  obtain ⟨s, hstale⟩ := hnoted.stale_of_not_keepsCache F D hok hnot
  rw [Machine.exec_append]
  exact (hnoted.call F D hok).exists_not_inForce F D hD hstale

end Pyvrs.OssVRSReader
