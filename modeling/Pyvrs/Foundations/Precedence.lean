import Mathlib.Data.List.Basic

/-!
# What comes before what in a list

`Preceded need serves l` says that every element of the list `l` that needs it has one that serves
it before it. A list that grows at its end keeps the property when what is added has its server
(`preceded_concat`). In a list that is ordered by a relation, what comes before an element is what
the relation puts before it (`preceded_iff_of_pairwise`).
-/

namespace Foundations

variable {α β : Type*}

/-- Every element that needs it is preceded by one that serves it. -/
def Preceded (need : α → Prop) (serves : α → α → Prop) (l : List α) : Prop :=
  ∀ pre d post, l = pre ++ d :: post → need d → ∃ c ∈ pre, serves c d

variable {need : α → Prop} {serves : α → α → Prop} {l : List α} {a : α}

theorem preceded_nil : Preceded need serves [] := by
  intro pre d post h
  exact absurd h.symm (List.append_ne_nil_of_right_ne_nil _ (List.cons_ne_nil _ _))

theorem preceded_concat :
    Preceded need serves (l ++ [a]) ↔
      Preceded need serves l ∧ (need a → ∃ c ∈ l, serves c a) := by
  constructor
  · intro h
    refine ⟨fun pre d post hl => ?_, h l a [] rfl⟩
    exact h pre d (post ++ [a]) (by rw [hl, List.append_assoc, List.cons_append])
  · rintro ⟨hl, ha⟩ pre d post h
    rcases List.eq_nil_or_concat post with rfl | ⟨post, b, rfl⟩
    · obtain ⟨rfl, hd⟩ := List.append_inj' h rfl
      cases hd
      exact ha
    · have h' : l ++ [a] = (pre ++ d :: post) ++ [b] := by
        rw [h, List.concat_eq_append, List.append_assoc, List.cons_append]
      exact hl pre d post (List.append_inj' h' rfl).1

theorem preceded_map (f : β → α) (l : List β) :
    Preceded need serves (l.map f) ↔
      Preceded (fun d => need (f d)) (fun c d => serves (f c) (f d)) l := by
  constructor
  · intro h pre d post hl hd
    obtain ⟨c, hc, hserves⟩ := h (pre.map f) (f d) (post.map f)
      (by rw [hl, List.map_append, List.map_cons]) hd
    obtain ⟨c', hc', rfl⟩ := List.mem_map.1 hc
    exact ⟨c', hc', hserves⟩
  · intro h pre d post hl hd
    obtain ⟨pre, post, rfl, rfl, hpost⟩ := List.map_eq_append_iff.1 hl
    obtain ⟨d, post, rfl, rfl, rfl⟩ := List.map_eq_cons_iff.1 hpost
    obtain ⟨c, hc, hserves⟩ := h pre d post rfl hd
    exact ⟨f c, List.mem_map_of_mem hc, hserves⟩

/-- **Ordered lists**: where the list is ordered by a relation, which is asymmetric between what
serves and what is served, it is enough to look at the relation. -/
theorem preceded_iff_of_pairwise {R : α → α → Prop} (hl : l.Pairwise R)
    (hself : ∀ d, need d → ¬serves d d) (hasymm : ∀ c d, serves c d → R c d → ¬R d c) :
    Preceded need serves l ↔ ∀ d ∈ l, need d → ∃ c ∈ l, serves c d ∧ R c d := by
  constructor
  · intro h d hd hneed
    obtain ⟨pre, post, rfl⟩ := List.append_of_mem hd
    obtain ⟨c, hc, hserves⟩ := h pre d post rfl hneed
    refine ⟨c, List.mem_append_left _ hc, hserves, ?_⟩
    exact (List.pairwise_append.1 hl).2.2 c hc d List.mem_cons_self
  · rintro h pre d post rfl hneed
    obtain ⟨c, hc, hserves, hbefore⟩ := h d (List.mem_append_right _ List.mem_cons_self) hneed
    rcases List.mem_append.1 hc with hc | hc
    · exact ⟨c, hc, hserves⟩
    · rcases List.mem_cons.1 hc with rfl | hc
      · exact absurd hserves (hself c hneed)
      · have hafter := (List.pairwise_cons.1 (List.pairwise_append.1 hl).2.1).1 c hc
        exact absurd hafter (hasymm c d hserves hbefore)

end Foundations
