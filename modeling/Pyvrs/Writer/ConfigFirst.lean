import Pyvrs.Foundations.Precedence
import Pyvrs.Writer.FileOrder

/-!
# Configuration records before data records

`create_data_record` asks for a configuration record of the stream, created before
(`created_first`). The file orders the records by timestamp, and there the data record may come
first. It does not exactly when a configuration record of its stream has an earlier timestamp, or
the same one and was created before (`file_config_first_iff`): for instance when the timestamps of
each stream never go back (`file_config_first_of_monotone`).
-/

namespace Pyvrs

open Foundations Machine

/-- A configuration record, of the stream of the other one. -/
def Creation.Configures (c d : Creation) : Prop :=
  c.recordType = .configuration ∧ c.stream = d.stream

/-- Every data record is preceded by a configuration record of its stream. -/
def ConfigFirst (records : List Creation) : Prop :=
  Preceded (fun d => d.recordType = .data) Creation.Configures records

/-- Every data record created has a configuration record of its stream with an earlier timestamp,
or one created before it with a timestamp that is not later. -/
def ConfigEarlier (created : List Creation) : Prop :=
  ∀ pre d post, created = pre ++ d :: post → d.recordType = .data →
    (∃ c ∈ created, c.Configures d ∧ c.timestamp < d.timestamp) ∨
      ∃ c ∈ pre, c.Configures d ∧ c.timestamp ≤ d.timestamp

theorem Creation.not_configures_self {d : Creation} (hd : d.recordType = .data) :
    ¬d.Configures d := by
  rintro ⟨hconfiguration, -⟩
  rw [hd] at hconfiguration
  cases hconfiguration

/-! ## The order of the records -/

section Records

variable {L : VrsLib} {a b c d : Record L} {created file : List (Record L)}

/-- Earlier in time, or created first and not later. -/
def Record.Earlier (c d : Record L) : Prop :=
  c.timestamp < d.timestamp ∨ c.timestamp ≤ d.timestamp ∧ c.creationOrder < d.creationOrder

theorem Record.Earlier.not_earlier (h : c.Earlier d) : ¬d.Earlier c := by
  rintro (hlt | ⟨hle, horder⟩)
  · rcases h with hlt' | ⟨hle', -⟩
    · exact WithNaN.not_le_of_lt hlt (WithNaN.le_of_lt hlt')
    · exact WithNaN.not_le_of_lt hlt hle'
  · rcases h with hlt' | ⟨-, horder'⟩
    · exact WithNaN.not_le_of_lt hlt' hle
    · omega

theorem Record.WrittenBefore.earlier (h : a.WrittenBefore b) (hstream : a.stream = b.stream)
    (horder : a.creationOrder ≠ b.creationOrder) : a.Earlier b := by
  by_cases hle : b.timestamp ≤ a.timestamp
  · exact .inr ⟨h.1, lt_of_le_of_ne (h.2 hstream hle) horder⟩
  · obtain ⟨ha, hb⟩ := WithNaN.isNum_of_le h.1
    exact .inl (WithNaN.lt_of_not_le hb ha hle)

/-- In the file, a record comes before another one of its stream when it is earlier. -/
theorem pairwise_earlier (hordered : file.Pairwise Record.WrittenBefore) (hperm : file.Perm created)
    (hcounted : created.Pairwise fun a b => a.creationOrder < b.creationOrder) :
    file.Pairwise fun a b => a.stream = b.stream → a.Earlier b := by
  have hdistinct : file.Pairwise fun a b => a.creationOrder ≠ b.creationOrder := by
    have hcreated : created.Pairwise fun a b => a.creationOrder ≠ b.creationOrder :=
      hcounted.imp fun hlt => hlt.ne
    exact hperm.symm.pairwise hcreated fun hne => hne.symm
  exact (hordered.and hdistinct).imp fun ⟨hbefore, horder⟩ hstream => hbefore.earlier hstream horder

/-- Every data record has an earlier configuration record of its stream. -/
def ConfigRecorded (records : List (Record L)) : Prop :=
  ∀ d ∈ records, d.recordType = .data →
    ∃ c ∈ records, c.creation.Configures d.creation ∧ c.Earlier d

theorem configFirst_file_iff (hordered : file.Pairwise Record.WrittenBefore)
    (hperm : file.Perm created)
    (hcounted : created.Pairwise fun a b => a.creationOrder < b.creationOrder) :
    ConfigFirst (file.map Record.creation) ↔ ConfigRecorded created := by
  unfold ConfigFirst
  rw [preceded_map, preceded_iff_of_pairwise (pairwise_earlier hordered hperm hcounted)
    (fun d hd => Creation.not_configures_self hd)
    fun c d hc hearlier hlater => (hearlier hc.2).not_earlier (hlater hc.2.symm)]
  constructor
  · intro h d hd hdata
    obtain ⟨c, hc, hconfigures, hearlier⟩ := h d (hperm.mem_iff.2 hd) hdata
    exact ⟨c, hperm.mem_iff.1 hc, hconfigures, hearlier hconfigures.2⟩
  · intro h d hd hdata
    obtain ⟨c, hc, hconfigures, hearlier⟩ := h d (hperm.mem_iff.1 hd) hdata
    exact ⟨c, hperm.mem_iff.2 hc, hconfigures, fun _ => hearlier⟩

/-- The second case of `ConfigEarlier` is about what was created before. -/
theorem configEarlier_iff_preceded (created : List Creation) :
    ConfigEarlier created ↔
      Preceded (fun d => d.recordType = .data ∧
          ¬∃ c ∈ created, c.Configures d ∧ c.timestamp < d.timestamp)
        (fun c d => c.Configures d ∧ c.timestamp ≤ d.timestamp) created := by
  unfold ConfigEarlier Preceded
  simp only [or_iff_not_imp_left, and_imp]

theorem configEarlier_iff
    (hcounted : created.Pairwise fun a b => a.creationOrder < b.creationOrder) :
    ConfigEarlier (created.map Record.creation) ↔ ConfigRecorded created := by
  rw [configEarlier_iff_preceded, preceded_map, preceded_iff_of_pairwise hcounted
    (fun d hd hself => Creation.not_configures_self hd.1 hself.1)
    fun c d _ hlt => Nat.lt_asymm hlt]
  constructor
  · intro h d hd hdata
    by_cases hearlier : ∃ c ∈ created.map Record.creation,
        c.Configures d.creation ∧ c.timestamp < d.timestamp
    · obtain ⟨_, hmem, hconfigures, hlt⟩ := hearlier
      obtain ⟨c, hc, rfl⟩ := List.mem_map.1 hmem
      exact ⟨c, hc, hconfigures, .inl hlt⟩
    · obtain ⟨c, hc, ⟨hconfigures, hle⟩, horder⟩ := h d hd ⟨hdata, hearlier⟩
      exact ⟨c, hc, hconfigures, .inr ⟨hle, horder⟩⟩
  · rintro h d hd ⟨hdata, hnone⟩
    obtain ⟨c, hc, hconfigures, hlt | ⟨hle, horder⟩⟩ := h d hd hdata
    · exact absurd ⟨c.creation, List.mem_map_of_mem hc, hconfigures, hlt⟩ hnone
    · exact ⟨c, hc, ⟨hconfigures, hle⟩, horder⟩

end Records

namespace VRSWriter

variable {L : VrsLib} {N : WriterLib L}

/-! ## The order of creation -/

/-- The flag of a stream tells that a configuration record of it was created. -/
def FlagsCreated (w : VRSWriter N) (created : List Creation) : Prop :=
  ∀ i, w.configRecordCreated i → ∃ c ∈ created, c.recordType = .configuration ∧ c.stream = i

theorem flagsCreated_new (N : WriterLib L) (filepath : String) :
    (new N filepath).FlagsCreated [] := by
  rintro i ⟨s, hs, -⟩
  cases hs

/-- A call keeps the flags true to the records, and creates no data record before a configuration
record of its stream. -/
theorem FlagsCreated.effect {w w' : VRSWriter N} {created : List Creation}
    (hflags : w.FlagsCreated created) (hfirst : ConfigFirst created) {c : WriterCall N}
    {reply : Except PyError WriterValue} (heffect : Effect w c reply w') :
    w'.FlagsCreated (created ++ (acceptedOf (c, reply)).toList) ∧
      ConfigFirst (created ++ (acceptedOf (c, reply)).toList) := by
  cases heffect with
  | unchanged hnone _ _ _ hconfig =>
    rw [hnone, Option.toList_none, List.append_nil]
    exact ⟨fun i hi => hflags i (hconfig i hi), hfirst⟩
  | recorded record hcreation _ _ hdata _ _ _ hconfig =>
    rw [acceptedOf, hcreation, Option.toList_some]
    refine ⟨fun i hi => ?_, preceded_concat.2 ⟨hfirst, fun hneed => hflags _ (hdata hneed)⟩⟩
    rcases hconfig i hi with hi | ⟨htype, rfl⟩
    · obtain ⟨c, hc, hconfiguration⟩ := hflags i hi
      exact ⟨c, List.mem_append_left _ hc, hconfiguration⟩
    · exact ⟨record.creation, List.mem_append_right _ (List.mem_singleton_self _), htype, rfl⟩
  | flushed _ _ _ _ _ hconfig =>
    refine ⟨fun i hi => ?_, ?_⟩
    · obtain ⟨c, hc, hconfiguration⟩ := hflags i (hconfig i hi)
      exact ⟨c, List.mem_append_left _ hc, hconfiguration⟩
    · exact (List.append_nil created).symm ▸ hfirst

/-- **What the flag is for**: in every run, a data record is created only after a configuration
record of its stream. -/
theorem created_first (filepath : String) (calls : List (WriterCall N)) :
    ConfigFirst (accepted (trace call (new N filepath) calls)) := by
  have hstep : ∀ (w : VRSWriter N) t (c : WriterCall N),
      w.FlagsCreated (accepted t) ∧ ConfigFirst (accepted t) →
      (call w c).2.FlagsCreated (accepted (t ++ [(c, (call w c).1)])) ∧
        ConfigFirst (accepted (t ++ [(c, (call w c).1)])) := by
    rintro w t c ⟨hflags, hfirst⟩
    rw [accepted_concat]
    exact hflags.effect hfirst (call_effect w c)
  have hrun := exec_trace_of_invariant hstep (t := [])
    ⟨flagsCreated_new N filepath, preceded_nil⟩ calls
  rw [List.nil_append] at hrun
  exact hrun.2

/-! ## The order of the file -/

theorem Filed.configFirst_iff {w : VRSWriter N} {created : List (Record L)}
    (h : w.Filed created) :
    ConfigFirst (w.file.map Record.creation) ↔ ConfigEarlier (created.map Record.creation) := by
  obtain ⟨hordered, hperm⟩ := h.file
  rw [configFirst_file_iff hordered hperm h.counted, configEarlier_iff h.counted]

/-- **Data records come after their configuration.** In the file of a run whose timestamps are
numbers, every data record is preceded by a configuration record of its stream exactly when one has
an earlier timestamp, or was created before with a timestamp that is not later. -/
theorem file_config_first_iff (filepath : String) (calls : List (WriterCall N))
    (hcalls : ∀ c ∈ calls, c.Numeric) :
    ConfigFirst ((exec call (new N filepath) calls).file.map Record.creation) ↔
      ConfigEarlier (accepted (trace call (new N filepath) calls)) := by
  obtain ⟨created, hfiled, hcreated⟩ := Filed.run hcalls filepath
  rw [hfiled.configFirst_iff, hcreated]

/-- The condition for the two streams of `twoStreams`. -/
theorem file_config_first_iff_twoStreams :
    ConfigFirst ((exec call (new WriterLib.bare "two.vrs") twoStreams).file.map Record.creation) ↔
      ConfigEarlier (accepted (trace call (new WriterLib.bare "two.vrs") twoStreams)) :=
  file_config_first_iff "two.vrs" twoStreams fun c hc => (finite_twoStreams c hc).numeric

/-- A stream whose data record has an earlier timestamp than its configuration record. -/
def lateConfig : List (WriterCall WriterLib.bare) :=
  [.createStream "sample" "",
    .createConfigRecord 0 (.ofRat 5) [.dataLayout ⟨0, .configuration, 0⟩],
    .createDataRecord 0 (.ofRat 3) [.dataLayout ⟨0, .data, 0⟩], .flushRecords (.ofRat 10)]

/-- No call raises, and the file starts with the data record. -/
theorem not_file_config_first :
    (∀ reply ∈ replies call (new WriterLib.bare "late.vrs") lateConfig, reply.isOk) ∧
      ¬ConfigFirst ((exec call (new WriterLib.bare "late.vrs") lateConfig).file.map
        Record.creation) := by
  refine ⟨by decide +kernel, fun h => ?_⟩
  have hfile : (exec call (new WriterLib.bare "late.vrs") lateConfig).file.map Record.creation =
      [⟨0, .data, .ofRat 3⟩, ⟨0, .configuration, .ofRat 5⟩] := by decide +kernel
  rw [hfile] at h
  obtain ⟨c, hc, -⟩ := h [] _ _ rfl rfl
  exact absurd hc List.not_mem_nil

/-- The order of creation is enough for streams whose timestamps never go back. -/
theorem file_config_first_of_monotone (filepath : String) (calls : List (WriterCall N))
    (hcalls : ∀ c ∈ calls, c.Numeric)
    (hmonotone : (accepted (trace call (new N filepath) calls)).Pairwise
      fun a b => a.stream = b.stream → a.timestamp ≤ b.timestamp) :
    ConfigFirst ((exec call (new N filepath) calls).file.map Record.creation) := by
  obtain ⟨created, hfiled, hcreated⟩ := Filed.run hcalls filepath
  rw [hfiled.configFirst_iff, hcreated]
  intro pre d post hsplit hdata
  obtain ⟨c, hc, hconfigures⟩ := created_first filepath calls pre d post hsplit hdata
  rw [hsplit] at hmonotone
  have hle := (List.pairwise_append.1 hmonotone).2.2 c hc d List.mem_cons_self hconfigures.2
  exact .inr ⟨c, hc, hconfigures, hle⟩

end VRSWriter

end Pyvrs
