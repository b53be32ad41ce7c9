import Pyvrs.Reader.Calls
import Pyvrs.Reader.MultiConfig

/-!
# The conversion policies of streams

Both readers keep a default policy and the policies of single streams, which setting the default
drops and setting that of a type adds for each of its streams in turn, up to one with an invalid id.
Whether an id is valid is a matter of its type, so that a type is set for all of its streams or for
none, and the policy of a stream is that of the last call that covers it (`lastCallDecides`).
-/

namespace Pyvrs

open Foundations

variable {L : VrsLib}

/-- `imageConversion_` and `streamImageConversion_`. -/
structure ImageConversions where
  imageConversion : ImageConversion
  streamImageConversion : StreamId → Option ImageConversion

/-- What the open file has to do with the policies. -/
structure ConversionSource where
  /-- `getStreams`. -/
  streams : List StreamId
  /-- `getStreamId`. -/
  getStreamId : String → Except PyError StreamId
  /-- `StreamId::isValid`, which only looks at the type. -/
  isValid : RecordableTypeId → Bool
  /-- The exception for an invalid id. -/
  invalid : StreamId → PyError

/-- The source of the single-file reader. -/
def OssVRSReader.conversionSource (F : RecordFileReader L) (isValid : RecordableTypeId → Bool) :
    ConversionSource where
  streams := F.streams
  getStreamId := getStreamId F
  isValid
  invalid id := .valueError ("Invalid stream ID: " ++ L.getFullName id)

/-- The source of the multi-file reader. -/
def OssMultiVRSReader.conversionSource (F : MultiRecordFileReader L)
    (isValid : RecordableTypeId → Bool) : ConversionSource where
  streams := F.streams
  getStreamId := getStreamId F
  isValid
  invalid _ := .valueError "Invalid recordable ID"

/-- The calls of `setImageConversion`. -/
inductive ConversionCall
  | all (conversion : ImageConversion)
  | ofStream (streamId : String) (conversion : ImageConversion)
  | ofRecordable (typeId : RecordableTypeId) (conversion : ImageConversion)
  deriving DecidableEq

namespace ConversionCall

/-- The call as one of the interface. -/
def toCall : ConversionCall → Call
  | all conversion => .setImageConversion conversion
  | ofStream streamId conversion => .setImageConversionOfStream streamId conversion
  | ofRecordable typeId conversion => .setImageConversionOfRecordable typeId conversion

/-- The policy that is set. -/
def conversion : ConversionCall → ImageConversion
  | all conversion => conversion
  | ofStream _ conversion => conversion
  | ofRecordable _ conversion => conversion

/-- The call sets the policy of a stream: it is one of those meant, and its id is valid. -/
def Covers (source : ConversionSource) (id : StreamId) : ConversionCall → Prop
  | all _ => True
  | ofStream streamId _ => source.getStreamId streamId = .ok id ∧ source.isValid id.typeId
  | ofRecordable typeId _ => id ∈ source.streams ∧ id.typeId = typeId ∧ source.isValid typeId

instance (source : ConversionSource) (id : StreamId) : DecidablePred (Covers source id)
  | all _ => inferInstanceAs (Decidable True)
  | ofStream streamId _ =>
    match h : source.getStreamId streamId with
    | .error _ => .isFalse fun hcovers => by cases h.symm.trans hcovers.1
    | .ok id' => decidable_of_iff (id' = id ∧ source.isValid id.typeId) <| by
      simp only [Covers, h, Except.ok.injEq]
  | ofRecordable typeId _ =>
    inferInstanceAs (Decidable (id ∈ source.streams ∧ id.typeId = typeId ∧ source.isValid typeId))

end ConversionCall

namespace ImageConversions

/-- The policies of a new reader. -/
def new : ImageConversions := ⟨.off, fun _ => none⟩

variable (source : ConversionSource) (conversion : ImageConversion) (policies : ImageConversions)

/-- `getImageConversion`. -/
def getImageConversion (id : StreamId) : ImageConversion :=
  (policies.streamImageConversion id).getD policies.imageConversion

/-- `setImageConversion(conversion)`. -/
def setImageConversion : ImageConversions := ⟨conversion, fun _ => none⟩

/-- `setImageConversion(const StreamId&, conversion)`. -/
def setImageConversionOfId (id : StreamId) : Except PyError Unit × ImageConversions :=
  if source.isValid id.typeId then
    (.ok (), { policies with
      streamImageConversion :=
        Function.update policies.streamImageConversion id (some conversion) })
  else (.error (source.invalid id), policies)

/-- `setImageConversion(const string&, conversion)`. -/
def setImageConversionOfStream (streamId : String) : Except PyError Unit × ImageConversions :=
  match source.getStreamId streamId with
  | .ok id => policies.setImageConversionOfId source conversion id
  | .error e => (.error e, policies)

/-- The loop of `setImageConversion(RecordableTypeId, conversion)`, over the streams that are left
and with the number of those already set. -/
def setImageConversionLoop (typeId : RecordableTypeId) :
    List StreamId → ℕ → ImageConversions → Except PyError ℕ × ImageConversions
  | [], count, policies => (.ok count, policies)
  | id :: streams, count, policies =>
    if id.typeId = typeId then
      match policies.setImageConversionOfId source conversion id with
      | (.ok (), policies) => setImageConversionLoop typeId streams (count + 1) policies
      | (.error e, policies) => (.error e, policies)
    else setImageConversionLoop typeId streams count policies

/-- `setImageConversion(RecordableTypeId, conversion)`, with the number of streams set. -/
def setImageConversionOfRecordable (typeId : RecordableTypeId) :
    Except PyError ℕ × ImageConversions :=
  setImageConversionLoop source conversion typeId source.streams 0 policies

/-- One call. -/
def call (L : VrsLib) (source : ConversionSource) :
    Machine ImageConversions ConversionCall (Reply L)
  | _, .all conversion => (.ok .unit, setImageConversion conversion)
  | policies, .ofStream streamId conversion =>
    let (result, policies) := policies.setImageConversionOfStream source conversion streamId
    (result.map fun _ => .unit, policies)
  | policies, .ofRecordable typeId conversion =>
    let (result, policies) := policies.setImageConversionOfRecordable source conversion typeId
    (result.map .count, policies)

end ImageConversions

/-! ## One call -/

namespace ImageConversions

variable {source : ConversionSource} {conversion : ImageConversion}

/-- A stream with a valid id is set. -/
theorem setImageConversionOfId_of_valid (policies : ImageConversions) {id : StreamId}
    (h : source.isValid id.typeId) :
    policies.setImageConversionOfId source conversion id =
      (.ok (), { policies with
        streamImageConversion :=
          Function.update policies.streamImageConversion id (some conversion) }) :=
  if_pos h

theorem setImageConversionOfId_of_not_valid (policies : ImageConversions) {id : StreamId}
    (h : ¬source.isValid id.typeId) :
    policies.setImageConversionOfId source conversion id =
      (.error (source.invalid id), policies) :=
  if_neg h

theorem setImageConversionOfStream_of_ok (policies : ImageConversions) {streamId : String}
    {id : StreamId} (h : source.getStreamId streamId = .ok id) :
    policies.setImageConversionOfStream source conversion streamId =
      policies.setImageConversionOfId source conversion id := by
  unfold setImageConversionOfStream
  rw [h]

theorem setImageConversionOfStream_of_error (policies : ImageConversions) {streamId : String}
    {e : PyError} (h : source.getStreamId streamId = .error e) :
    policies.setImageConversionOfStream source conversion streamId = (.error e, policies) := by
  unfold setImageConversionOfStream
  rw [h]

/-- The policy of a stream once some streams are set. -/
theorem getImageConversion_setAll (policies : ImageConversions) (streams : List StreamId)
    (id : StreamId) :
    getImageConversion { policies with
      streamImageConversion := streams.foldl
        (fun set id => Function.update set id (some conversion)) policies.streamImageConversion }
        id = if id ∈ streams then conversion else policies.getImageConversion id := by
  induction streams generalizing policies with
  | nil => rfl
  | cons head streams ih =>
    rw [List.foldl_cons]
    refine (ih { policies with
      streamImageConversion :=
        Function.update policies.streamImageConversion head (some conversion) }).trans ?_
    by_cases htail : id ∈ streams
    · rw [if_pos htail, if_pos (List.mem_cons_of_mem _ htail)]
    · rw [if_neg htail]
      unfold getImageConversion
      by_cases hhead : id = head
      · subst hhead
        rw [if_pos List.mem_cons_self]
        simp only [Function.update_self, Option.getD_some]
      · rw [if_neg (by simp [hhead, htail])]
        simp only [Function.update_of_ne hhead]

/-- The streams of a type are all set if their ids are valid. -/
theorem setImageConversionLoop_of_valid {typeId : RecordableTypeId} {streams : List StreamId}
    (h : ∀ id ∈ streams, id.typeId = typeId → source.isValid typeId) (count : ℕ)
    (policies : ImageConversions) :
    setImageConversionLoop source conversion typeId streams count policies =
      (.ok (count + (streams.filter (·.typeId = typeId)).length), { policies with
        streamImageConversion := (streams.filter (·.typeId = typeId)).foldl
          (fun set id => Function.update set id (some conversion))
          policies.streamImageConversion }) := by
  induction streams generalizing count policies with
  | nil => rfl
  | cons id streams ih =>
    rw [List.forall_mem_cons] at h
    rw [setImageConversionLoop]
    by_cases hid : id.typeId = typeId
    · rw [if_pos hid, setImageConversionOfId_of_valid policies (hid.symm ▸ h.1 hid),
        List.filter_cons, if_pos (decide_eq_true hid)]
      simp only [ih h.2, List.length_cons, List.foldl_cons, Nat.add_assoc, Nat.add_comm 1]
    · rw [if_neg hid, ih h.2, List.filter_cons, if_neg (by simpa using hid)]

/-- The first stream of an invalid type is refused. -/
theorem setImageConversionLoop_of_not_valid {typeId : RecordableTypeId}
    (h : ¬source.isValid typeId) (streams : List StreamId) (count : ℕ)
    (policies : ImageConversions) :
    setImageConversionLoop source conversion typeId streams count policies =
      (match streams.find? (·.typeId = typeId) with
        | none => .ok count
        | some id => .error (source.invalid id), policies) := by
  induction streams generalizing count with
  | nil => rfl
  | cons id streams ih =>
    rw [setImageConversionLoop]
    by_cases hid : id.typeId = typeId
    · rw [if_pos hid, setImageConversionOfId_of_not_valid policies (hid ▸ h), List.find?_cons,
        decide_eq_true hid]
    · rw [if_neg hid, ih, List.find?_cons, decide_eq_false hid]

/-- **What a call does to the policy of a stream**: it sets it if it covers the stream, and leaves
it otherwise. -/
theorem getImageConversion_call (L : VrsLib) (source : ConversionSource)
    (policies : ImageConversions) (c : ConversionCall) (id : StreamId) :
    (call L source policies c).2.getImageConversion id =
      if c.Covers source id then c.conversion else policies.getImageConversion id := by
  cases c with
  | all conversion =>
    have hcovers : ConversionCall.Covers source id (.all conversion) := trivial
    rw [if_pos hcovers]
    rfl
  | ofStream streamId conversion =>
    show (policies.setImageConversionOfStream source conversion streamId).2.getImageConversion id =
      _
    cases hget : source.getStreamId streamId with
    | error e =>
      rw [setImageConversionOfStream_of_error policies hget]
      refine (if_neg fun h => ?_).symm
      cases hget.symm.trans h.1
    | ok id' =>
      rw [setImageConversionOfStream_of_ok policies hget]
      by_cases hvalid : source.isValid id'.typeId
      · rw [setImageConversionOfId_of_valid policies hvalid]
        refine (getImageConversion_setAll policies [id'] id).trans (if_congr ?_ rfl rfl)
        rw [List.mem_singleton]
        constructor
        · rintro rfl
          exact ⟨hget, hvalid⟩
        · intro h
          cases hget.symm.trans h.1
          rfl
      · rw [setImageConversionOfId_of_not_valid policies hvalid]
        refine (if_neg fun h => ?_).symm
        cases hget.symm.trans h.1
        exact hvalid h.2
  | ofRecordable typeId conversion =>
    show (setImageConversionLoop source conversion typeId source.streams 0 policies
      ).2.getImageConversion id = _
    by_cases hvalid : source.isValid typeId
    · rw [setImageConversionLoop_of_valid fun _ _ _ => hvalid]
      refine (getImageConversion_setAll policies _ id).trans (if_congr ?_ rfl rfl)
      simp only [List.mem_filter, decide_eq_true_eq, ConversionCall.Covers, hvalid, and_true]
    · rw [setImageConversionLoop_of_not_valid hvalid]
      exact (if_neg fun h => hvalid h.2.2).symm

/-- A call that is refused changes nothing. -/
theorem call_of_error {policies : ImageConversions} {c : ConversionCall} {e : PyError}
    (h : (call L source policies c).1 = .error e) : (call L source policies c).2 = policies := by
  cases c with
  | all conversion => cases h
  | ofStream streamId conversion =>
    simp only [call] at h ⊢
    cases hget : source.getStreamId streamId with
    | error e => rw [setImageConversionOfStream_of_error policies hget]
    | ok id =>
      rw [setImageConversionOfStream_of_ok policies hget] at h ⊢
      by_cases hvalid : source.isValid id.typeId
      · rw [setImageConversionOfId_of_valid policies hvalid] at h
        cases h
      · rw [setImageConversionOfId_of_not_valid policies hvalid]
  | ofRecordable typeId conversion =>
    simp only [call, setImageConversionOfRecordable] at h ⊢
    by_cases hvalid : source.isValid typeId
    · rw [setImageConversionLoop_of_valid fun _ _ _ => hvalid] at h
      cases h
    · rw [setImageConversionLoop_of_not_valid hvalid]

/-- A call for a type that is not refused returns the number of streams that it covers. -/
theorem call_ofRecordable_of_ok {policies : ImageConversions} {typeId : RecordableTypeId}
    {value : Value L}
    (h : (call L source policies (.ofRecordable typeId conversion)).1 = .ok value) :
    value = .count (source.streams.countP fun id =>
      ConversionCall.Covers source id (.ofRecordable typeId conversion)) := by
  simp only [call, setImageConversionOfRecordable] at h
  rw [List.countP_eq_length_filter]
  by_cases hvalid : source.isValid typeId
  · rw [setImageConversionLoop_of_valid (fun _ _ _ => hvalid), Nat.zero_add] at h
    cases h
    refine congrArg (fun streams : List StreamId => Value.count streams.length) ?_
    refine List.filter_congr fun id hid => ?_
    simp [ConversionCall.Covers, hid, hvalid]
  · rw [setImageConversionLoop_of_not_valid hvalid] at h
    have hnone : source.streams.filter (fun id => ConversionCall.Covers source id
        (.ofRecordable typeId conversion)) = [] :=
      List.filter_eq_nil_iff.2 fun id _ => by simp [ConversionCall.Covers, hvalid]
    rw [hnone]
    split at h <;> cases h
    rfl

/-! ## Runs of calls -/

/-- A call for a type returns the number of streams that it covers, and a call that is refused
leaves every policy as it is. -/
structure Answered (L : VrsLib) (source : ConversionSource) (policies : ImageConversions)
    (c : ConversionCall) : Prop where
  count_eq : ∀ typeId conversion value, c = .ofRecordable typeId conversion →
    (call L source policies c).1 = .ok value →
      value = .count (source.streams.countP fun id => c.Covers source id)
  unchanged : ∀ e, (call L source policies c).1 = .error e →
    ∀ id, (call L source policies c).2.getImageConversion id = policies.getImageConversion id

/-- The policy of a stream is that of the last call that covers it, or the one at first. -/
structure LastCallDecides (L : VrsLib) (source : ConversionSource) (calls : List ConversionCall) :
    Prop where
  getImageConversion_eq : ∀ id ∈ source.streams,
    ((call L source).exec new calls).getImageConversion id =
      ((calls.filter (·.Covers source id)).getLast?.map ConversionCall.conversion).getD .off
  answered : (call L source).Along (Answered L source) new calls

theorem answered (L : VrsLib) (source : ConversionSource) (policies : ImageConversions)
    (c : ConversionCall) : Answered L source policies c where
  count_eq typeId conversion value hc h := by
    subst hc
    exact call_ofRecordable_of_ok h
  unchanged e h id := by rw [call_of_error h]

theorem lastCallDecides_of_source (L : VrsLib) (source : ConversionSource)
    (calls : List ConversionCall) : LastCallDecides L source calls where
  getImageConversion_eq id _ :=
    Machine.read_exec_of_covers (fun policies : ImageConversions => policies.getImageConversion id)
      (fun policies c => getImageConversion_call L source policies c id) new calls
  answered := Machine.along_of_invariant (I := fun _ => True) (P := fun _ _ => True)
    (fun policies c _ _ => ⟨answered L source policies c, trivial⟩) calls trivial
    (Machine.along_of_forall (fun _ _ => trivial) _)

/-- A run of calls has left these policies, those that the last calls decide, and was replied to as
calls on policies are. -/
structure LeftBy (L : VrsLib) (source : ConversionSource) (calls : List ConversionCall)
    (policies : ImageConversions) (replies : List (Reply L)) : Prop where
  getImageConversion_eq : ∀ id ∈ source.streams, policies.getImageConversion id =
    ((calls.filter (·.Covers source id)).getLast?.map ConversionCall.conversion).getD .off
  replies_eq : replies = (call L source).replies new calls

end ImageConversions

/-! ## The calls of the readers -/

/-- The ids of the streams that there are, and of those that can be named, are valid. -/
def ValidIds (isValid : RecordableTypeId → Bool) (streams : List StreamId)
    (getStreamForName : String → Option StreamId) : Prop :=
  (∀ id ∈ streams, isValid id.typeId) ∧
    ∀ streamId id, getStreamForName streamId = some id → isValid id.typeId

section Readers

variable {isValid : RecordableTypeId → Bool} (c : ConversionCall)

/-- The policies of a reader. -/
def OssVRSReader.conversions (reader : OssVRSReader L) : ImageConversions :=
  ⟨reader.imageConversion, reader.streamImageConversion⟩

/-- The policies of a reader. -/
def OssMultiVRSReader.conversions (reader : OssMultiVRSReader L) : ImageConversions :=
  ⟨reader.imageConversion, reader.streamImageConversion⟩

/-- With valid ids only, a call does to the policies of the single-file reader what it does to
policies, and is answered alike. -/
theorem OssVRSReader.call_toCall (F : RecordFileReader L) (D : Native L) (reader : OssVRSReader L)
    (hvalid : ValidIds isValid F.streams F.getStreamForName) :
    ((call F D reader c.toCall).1, (call F D reader c.toCall).2.conversions) =
      ImageConversions.call L (conversionSource F isValid) reader.conversions c := by
  cases c with
  | all conversion => rfl
  | ofStream streamId conversion =>
    simp only [ConversionCall.toCall, call, setImageConversionOfStream, ImageConversions.call]
    cases hget : getStreamId F streamId with
    | error e =>
      rw [ImageConversions.setImageConversionOfStream_of_error reader.conversions hget]
      rfl
    | ok id =>
      have hid : (conversionSource F isValid).isValid id.typeId := by
        unfold getStreamId at hget
        split at hget <;> cases hget
        exact hvalid.2 streamId id ‹_›
      rw [ImageConversions.setImageConversionOfStream_of_ok reader.conversions hget,
        ImageConversions.setImageConversionOfId_of_valid reader.conversions hid]
      rfl
  | ofRecordable typeId conversion =>
    simp only [ConversionCall.toCall, call, answerCount, setImageConversionOfRecordable,
      foldl_setImageConversionOfId, ImageConversions.call,
      ImageConversions.setImageConversionOfRecordable]
    have htypes : ∀ id ∈ (conversionSource F isValid).streams, id.typeId = typeId →
        (conversionSource F isValid).isValid typeId := fun id hid htype => htype ▸ hvalid.1 id hid
    rw [ImageConversions.setImageConversionLoop_of_valid htypes, Nat.zero_add]
    rfl

/-- The policies of the single-file reader after a run are those of the run, and so are the
replies. -/
theorem OssVRSReader.leftBy_exec (F : RecordFileReader L) (D : Native L)
    (hvalid : ValidIds isValid F.streams F.getStreamForName) (autoReadConfigurationRecord : Bool)
    (cs : List ConversionCall) :
    ImageConversions.LeftBy L (conversionSource F isValid) cs
      ((call F D).exec ((new autoReadConfigurationRecord).open F)
        (cs.map ConversionCall.toCall)).conversions
      ((call F D).replies ((new autoReadConfigurationRecord).open F)
        (cs.map ConversionCall.toCall)) := by
  obtain ⟨hpolicies, hreplies⟩ := Machine.run_map_of_read conversions ConversionCall.toCall
    (fun reader c => call_toCall c F D reader hvalid) ((new autoReadConfigurationRecord).open F) cs
  refine ⟨fun id hid => ?_, hreplies⟩
  rw [hpolicies]
  exact (ImageConversions.lastCallDecides_of_source L _ cs).getImageConversion_eq id hid

/-- The same, of the multi-file reader. -/
theorem OssMultiVRSReader.call_toCall (F : MultiRecordFileReader L) (D : Native L)
    (reader : OssMultiVRSReader L) (hvalid : ValidIds isValid F.streams F.getStreamForName) :
    ((call F D reader c.toCall).1, (call F D reader c.toCall).2.conversions) =
      ImageConversions.call L (conversionSource F isValid) reader.conversions c := by
  cases c with
  | all conversion => rfl
  | ofStream streamId conversion =>
    simp only [ConversionCall.toCall, call, setImageConversionOfStream, ImageConversions.call]
    cases hget : getStreamId F streamId with
    | error e =>
      rw [ImageConversions.setImageConversionOfStream_of_error reader.conversions hget]
      rfl
    | ok id =>
      have hid : (conversionSource F isValid).isValid id.typeId := by
        unfold getStreamId at hget
        split at hget <;> cases hget
        exact hvalid.2 streamId id ‹_›
      rw [ImageConversions.setImageConversionOfStream_of_ok reader.conversions hget,
        ImageConversions.setImageConversionOfId_of_valid reader.conversions hid]
      rfl
  | ofRecordable typeId conversion =>
    simp only [ConversionCall.toCall, call, answerCount, setImageConversionOfRecordable,
      foldl_setImageConversionOfId, ImageConversions.call,
      ImageConversions.setImageConversionOfRecordable]
    have htypes : ∀ id ∈ (conversionSource F isValid).streams, id.typeId = typeId →
        (conversionSource F isValid).isValid typeId := fun id hid htype => htype ▸ hvalid.1 id hid
    rw [ImageConversions.setImageConversionLoop_of_valid htypes, Nat.zero_add]
    rfl

/-- The policies of the multi-file reader after a run are those of the run, and so are the
replies. -/
theorem OssMultiVRSReader.leftBy_exec (F : MultiRecordFileReader L) (D : Native L)
    (hvalid : ValidIds isValid F.streams F.getStreamForName) (autoReadConfigurationRecord : Bool)
    (cs : List ConversionCall) :
    ImageConversions.LeftBy L (conversionSource F isValid) cs
      ((call F D).exec ((new autoReadConfigurationRecord).open F)
        (cs.map ConversionCall.toCall)).conversions
      ((call F D).replies ((new autoReadConfigurationRecord).open F)
        (cs.map ConversionCall.toCall)) := by
  obtain ⟨hpolicies, hreplies⟩ := Machine.run_map_of_read conversions ConversionCall.toCall
    (fun reader c => call_toCall c F D reader hvalid) ((new autoReadConfigurationRecord).open F) cs
  refine ⟨fun id hid => ?_, hreplies⟩
  rw [hpolicies]
  exact (ImageConversions.lastCallDecides_of_source L _ cs).getImageConversion_eq id hid

end Readers

namespace ImageConversions

/-- **The last covering call decides**, of the streams of one file and of those of several. So it
does in a run of the calls of either reader. -/
theorem lastCallDecides (isValid : RecordableTypeId → Bool) (calls : List ConversionCall) :
    (∀ F : RecordFileReader L,
      LastCallDecides L (OssVRSReader.conversionSource F isValid) calls) ∧
    (∀ F : MultiRecordFileReader L,
      LastCallDecides L (OssMultiVRSReader.conversionSource F isValid) calls) ∧
    (∀ (F : RecordFileReader L) (D : Native L) (autoReadConfigurationRecord : Bool),
      ValidIds isValid F.streams F.getStreamForName →
        LeftBy L (OssVRSReader.conversionSource F isValid) calls
          ((OssVRSReader.call F D).exec ((OssVRSReader.new autoReadConfigurationRecord).open F)
            (calls.map ConversionCall.toCall)).conversions
          ((OssVRSReader.call F D).replies ((OssVRSReader.new autoReadConfigurationRecord).open F)
            (calls.map ConversionCall.toCall))) ∧
    ∀ (F : MultiRecordFileReader L) (D : Native L) (autoReadConfigurationRecord : Bool),
      ValidIds isValid F.streams F.getStreamForName →
        LeftBy L (OssMultiVRSReader.conversionSource F isValid) calls
          ((OssMultiVRSReader.call F D).exec
            ((OssMultiVRSReader.new autoReadConfigurationRecord).open F)
            (calls.map ConversionCall.toCall)).conversions
          ((OssMultiVRSReader.call F D).replies
            ((OssMultiVRSReader.new autoReadConfigurationRecord).open F)
            (calls.map ConversionCall.toCall)) :=
  ⟨fun F => lastCallDecides_of_source L (OssVRSReader.conversionSource F isValid) calls,
    fun F => lastCallDecides_of_source L (OssMultiVRSReader.conversionSource F isValid) calls,
    fun F D autoReadConfigurationRecord hvalid =>
      OssVRSReader.leftBy_exec F D hvalid autoReadConfigurationRecord calls,
    fun F D autoReadConfigurationRecord hvalid =>
      OssMultiVRSReader.leftBy_exec F D hvalid autoReadConfigurationRecord calls⟩

/-- The policies of two streams: that of one is set, those of the other's type, then all. -/
def conversionCalls : List ConversionCall :=
  [.ofStream "1201-1" .normalize, .all .normalizeGrey8, .ofRecordable 1202 .normalize,
    .ofStream "7-7" .off]

theorem lastCallDecides_twoStreamsFile :
    LeftBy VrsLib.bare (OssVRSReader.conversionSource twoStreamsFile (· ≠ 65535)) conversionCalls
      ((OssVRSReader.call twoStreamsFile (.blank .bare)).exec
        ((OssVRSReader.new true).open twoStreamsFile)
        (conversionCalls.map ConversionCall.toCall)).conversions
      ((OssVRSReader.call twoStreamsFile (.blank .bare)).replies
        ((OssVRSReader.new true).open twoStreamsFile)
        (conversionCalls.map ConversionCall.toCall)) ∧
    LeftBy VrsLib.bare (OssMultiVRSReader.conversionSource (.ofFile twoStreamsFile) (· ≠ 65535))
      conversionCalls
      ((OssMultiVRSReader.call (.ofFile twoStreamsFile) (.blank .bare)).exec
        ((OssMultiVRSReader.new true).open (.ofFile twoStreamsFile))
        (conversionCalls.map ConversionCall.toCall)).conversions
      ((OssMultiVRSReader.call (.ofFile twoStreamsFile) (.blank .bare)).replies
        ((OssMultiVRSReader.new true).open (.ofFile twoStreamsFile))
        (conversionCalls.map ConversionCall.toCall)) := by
  have hstreams : ∀ id ∈ twoStreamsFile.streams, (id.typeId ≠ 65535 : Bool) := by decide
  have hvalid : ValidIds (· ≠ 65535) twoStreamsFile.streams twoStreamsFile.getStreamForName :=
    ⟨hstreams, fun name id hid => hstreams id (List.mem_of_find?_eq_some
      (p := fun id => VrsLib.bare.getNumericName id = name) hid)⟩
  exact ⟨(lastCallDecides (· ≠ 65535) conversionCalls).2.2.1 twoStreamsFile (.blank .bare) true
      hvalid,
    (lastCallDecides (· ≠ 65535) conversionCalls).2.2.2 (.ofFile twoStreamsFile) (.blank .bare) true
      hvalid⟩

end ImageConversions

end Pyvrs
