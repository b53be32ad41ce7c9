import Mathlib.Data.List.Basic

/-!
# Queues drained in batches

A queue that is filled one element at a time and drained in batches: a drain takes the elements that
satisfy a predicate, and writes them in the order that a sort puts them in. Whatever is drained, no
element is lost or doubled (`contents_drain`). The batches are in order, one after the other, as
long as what is pushed comes after all that was written (`Ordered.push`) and a drain takes nothing
that would have to come after what it leaves (`Ordered.drain`).
-/

namespace Foundations

/-- The batches written so far, and the elements waiting. -/
structure BatchQueue (α : Type*) where
  batches : List (List α) := []
  queue : List α := []
  deriving DecidableEq

namespace BatchQueue

variable {α : Type*} (q : BatchQueue α)

/-- One more element waits. -/
def push (a : α) : BatchQueue α := { q with queue := q.queue ++ [a] }

/-- The elements that satisfy `p` are written. -/
def drain (sort : List α → List α) (p : α → Bool) : BatchQueue α where
  batches := q.batches ++ [sort (q.queue.filter p)]
  queue := q.queue.filter fun a => !p a

/-- All that was written, batch after batch. -/
def written : List α := q.batches.flatten

/-- All that was pushed. -/
def contents : List α := q.written ++ q.queue

variable {q} {a : α} {sort : List α → List α} {p : α → Bool} {R : α → α → Prop}

@[simp] theorem queue_push : (q.push a).queue = q.queue ++ [a] := rfl

@[simp] theorem written_push : (q.push a).written = q.written := rfl

@[simp] theorem queue_drain : (q.drain sort p).queue = q.queue.filter fun a => !p a := rfl

@[simp] theorem written_drain :
    (q.drain sort p).written = q.written ++ sort (q.queue.filter p) := by
  unfold written drain
  rw [List.flatten_append, List.flatten_singleton]

/-! ## Nothing is lost or doubled -/

theorem contents_push : (q.push a).contents = q.contents ++ [a] := by
  unfold contents
  rw [written_push, queue_push, List.append_assoc]

theorem contents_drain (hsort : ∀ l, (sort l).Perm l) :
    (q.drain sort p).contents.Perm q.contents := by
  unfold contents
  rw [written_drain, queue_drain, List.append_assoc]
  have hqueue : (sort (q.queue.filter p) ++ q.queue.filter fun a => !p a).Perm q.queue :=
    ((hsort _).append_right _).trans (List.filter_append_perm p q.queue)
  exact hqueue.append_left q.written

/-- What is written was pushed. -/
theorem mem_written_drain (hsort : ∀ l, (sort l).Perm l) :
    a ∈ (q.drain sort p).written ↔ a ∈ q.written ∨ a ∈ q.queue ∧ p a = true := by
  rw [written_drain, List.mem_append, (hsort _).mem_iff, List.mem_filter]

/-- A drain of everything writes all that was pushed. -/
theorem contents_drain_true : (q.drain sort fun _ => true).contents =
    (q.drain sort fun _ => true).written := by
  unfold contents
  rw [queue_drain]
  simp

/-! ## In order -/

/-- What was written is in the order `R`, and what waits comes after it. -/
structure Ordered (R : α → α → Prop) (q : BatchQueue α) : Prop where
  written : q.written.Pairwise R
  ahead : ∀ a ∈ q.written, ∀ b ∈ q.queue, R a b

theorem Ordered.empty : Ordered R ({} : BatchQueue α) :=
  ⟨List.Pairwise.nil, fun _ ha => absurd ha List.not_mem_nil⟩

/-- **The push rule**: what is pushed comes after all that was written. -/
theorem Ordered.push (h : Ordered R q) (ha : ∀ b ∈ q.written, R b a) : Ordered R (q.push a) where
  written := h.written
  ahead b hb c hc := by
    rw [queue_push, List.mem_append, List.mem_singleton] at hc
    rcases hc with hc | rfl
    · exact h.ahead b hb c hc
    · exact ha b hb

/-- **The drain rule**: the batch is in order, and comes before what it leaves. -/
theorem Ordered.drain (h : Ordered R q) (hperm : ∀ l, (sort l).Perm l)
    (hsort : (sort (q.queue.filter p)).Pairwise R)
    (hleft : ∀ a ∈ q.queue, p a = true → ∀ b ∈ q.queue, p b = false → R a b) :
    Ordered R (q.drain sort p) where
  written := by
    rw [written_drain, List.pairwise_append]
    refine ⟨h.written, hsort, fun a ha b hb => h.ahead a ha b ?_⟩
    exact List.mem_of_mem_filter ((hperm _).mem_iff.1 hb)
  ahead a ha b hb := by
    rw [queue_drain, List.mem_filter, Bool.not_eq_true'] at hb
    rcases (mem_written_drain hperm).1 ha with ha | ⟨ha, hpa⟩
    · exact h.ahead a ha b hb.1
    · exact hleft a ha hpa b hb.1 hb.2

end BatchQueue

end Foundations
