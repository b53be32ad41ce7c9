import Pyvrs.Foundations.StableSort
import Pyvrs.Writer.FailedCreation
import Pyvrs.Writer.FileOrder

/-!
# The records of one stream

A file is written in batches, each sorted by the vrs library. The order of the records of one stream
does not depend on where the flushes were: in a file that was created, it is that of a stable sort
of the records created on the stream, by timestamp (`stream_in_order`). So a stream whose timestamps
never go back is read as it was written.
-/

namespace Pyvrs

open Foundations Machine

/-- By timestamp, the record is not after the other one. -/
def Record.notAfter {L : VrsLib} (a b : Record L) : Bool := decide (a.timestamp ≤ b.timestamp)

/-- The same of their descriptions. -/
def Creation.notAfter (a b : Creation) : Bool := decide (a.timestamp ≤ b.timestamp)

namespace VRSWriter

variable {L : VrsLib} {N : WriterLib L} {w : VRSWriter N} {created : List (Record L)}

theorem Filed.isNum (h : w.Filed created) {r : Record L} (hr : r ∈ created) :
    r.timestamp.IsNum := by
  rcases List.mem_append.1 (h.perm.mem_iff.2 hr) with hr | hr
  · exact (WithNaN.isNum_of_le (h.flushed r hr)).1
  · exact h.queue_isNum r hr

/-- **The records of a stream are sorted stably**: whatever the flushes, the file has them as a
stable sort of the records created on it. -/
theorem Filed.filter_file (h : w.Filed created) (k : ℕ) :
    w.file.filter (fun r => r.stream = k) =
      (created.filter fun r => r.stream = k).mergeSort Record.notAfter := by
  obtain ⟨hordered, hperm⟩ := h.file
  -- numbers are in a linear order
  let le : Record L → Record L → Bool := fun a b =>
    decide (a.timestamp.toWithBot ≤ b.timestamp.toWithBot)
  have hle : ∀ a ∈ created, ∀ b ∈ created, a.notAfter b = le a b := fun a ha b hb =>
    decide_eq_decide.2 (WithNaN.toWithBot_le_iff (h.isNum ha) (h.isNum hb)).symm
  have hsort := StableSort.mergeSort_congr (l := created.filter fun r => r.stream = k)
    fun a ha b hb => hle a (List.mem_of_mem_filter ha) b (List.mem_of_mem_filter hb)
  have hcount := h.counted.filter fun r => r.stream = k
  have hpermk := hperm.filter fun r => r.stream = k
  rw [hsort]
  refine StableSort.eq_mergeSort_of_pairwise_before (fun a b c hab hbc => ?_)
    (fun a b => ?_) Record.creationOrder hcount hpermk ?_
  · exact decide_eq_true ((of_decide_eq_true hab).trans (of_decide_eq_true hbc))
  · rw [Bool.or_eq_true, decide_eq_true_eq, decide_eq_true_eq]
    exact le_total _ _
  · -- what is written before in the file is not after, and created before if it is tied
    have hne : (w.file.filter fun r => r.stream = k).Pairwise
        fun a b => a.creationOrder ≠ b.creationOrder := by
      have hcounts := List.pairwise_map.2 (hcount.imp Nat.ne_of_lt)
      exact List.pairwise_map.1 ((hpermk.map Record.creationOrder).nodup_iff.2 hcounts)
    refine ((hordered.filter _).and hne).imp_of_mem fun {a b} ha hb hab => ?_
    obtain ⟨⟨htime, htied⟩, hne⟩ := hab
    obtain ⟨ha, hak⟩ := List.mem_filter.1 ha
    obtain ⟨hb, hbk⟩ := List.mem_filter.1 hb
    have ha' := hperm.mem_iff.1 ha
    have hb' := hperm.mem_iff.1 hb
    refine ⟨(hle a ha' b hb').symm.trans (decide_eq_true htime), fun hba => ?_⟩
    have hback : b.timestamp ≤ a.timestamp :=
      of_decide_eq_true ((hle b hb' a ha').trans hba)
    have hsame : a.stream = b.stream := (of_decide_eq_true hak).trans (of_decide_eq_true hbk).symm
    exact lt_of_le_of_ne (htied hsame hback) hne

/-- The same of their descriptions. -/
theorem Filed.filter_file_creation (h : w.Filed created) (k : ℕ) :
    (w.file.map Record.creation).filter (fun c => c.stream = k) =
      ((created.map Record.creation).filter fun c => c.stream = k).mergeSort
        Creation.notAfter := by
  have hfilter : ∀ l : List (Record L), (l.map Record.creation).filter (fun c => c.stream = k) =
      (l.filter fun r => r.stream = k).map Record.creation := fun l => List.filter_map
  rw [hfilter, hfilter, h.filter_file]
  exact List.map_mergeSort fun _ _ _ _ => rfl

instance (w : VRSWriter N) : Decidable w.Created :=
  inferInstanceAs (Decidable (0 ∈ w.writer.createStatuses))

/-- The file that is left once the writer is closed: what was written to it, if one was created. -/
def leftFile (w : VRSWriter N) : Option (List (Record L)) :=
  if w.Created then some w.file else none

/-- **The order of a stream in the file**: in every run whose timestamps are numbers and that leaves
a file, the records of a stream are in the file in the order of a stable sort by timestamp of those
that were created on it, wherever the flushes were. -/
theorem stream_in_order (filepath : String) (calls : List (WriterCall N))
    (hcalls : ∀ c ∈ calls, c.Numeric) {file : List (Record L)}
    (hfile : (exec call (new N filepath) calls).leftFile = some file) (k : ℕ) :
    (file.map Record.creation).filter (fun c => c.stream = k) =
      ((accepted (trace call (new N filepath) calls)).filter fun c => c.stream = k).mergeSort
        Creation.notAfter := by
  obtain ⟨created, hfiled, hcreated⟩ := Filed.run hcalls filepath
  unfold leftFile at hfile
  split at hfile
  · cases hfile
    rw [← hcreated]
    exact hfiled.filter_file_creation k
  · cases hfile

/-- The second stream of `twoStreams`, of which one record was late. -/
theorem stream_in_order_twoStreams :
    ∃ file, (exec call (new WriterLib.bare "two.vrs") twoStreams).leftFile = some file ∧
      (file.map Record.creation).filter (fun c => c.stream = 1) =
        ((accepted (trace call (new WriterLib.bare "two.vrs") twoStreams)).filter
          fun c => c.stream = 1).mergeSort Creation.notAfter := by
  have hcreated : (exec call (new WriterLib.bare "two.vrs") twoStreams).Created := by
    decide +kernel
  exact ⟨_, if_pos hcreated, stream_in_order "two.vrs" twoStreams
    (fun c hc => (finite_twoStreams c hc).numeric) (if_pos hcreated) 1⟩

end VRSWriter

end Pyvrs
