import Mathlib.Data.List.Basic
import Mathlib.Data.List.Nodup
import Mathlib.Order.Lattice

/-!
# Ordered maps

A map with its entries in increasing order of their keys, as a `std::map` is iterated: a list of
entries that is sorted by construction. Lookup is membership (`find?_eq_some_iff`); an insertion
adds an entry at the end when its key is new and greatest (`entries_insert_of_forall_lt`), and a
change to a key that is there leaves the other entries as they are (`entries_alter_of_mem`).
-/

namespace Foundations

/-- A map whose entries are in increasing order of their keys. -/
structure OrderedMap (κ ν : Type*) [LinearOrder κ] where
  entries : List (κ × ν)
  sorted : entries.Pairwise fun e e' => e.1 < e'.1

namespace OrderedMap

variable {κ ν : Type*} [LinearOrder κ]

/-- The map without entries. -/
def empty : OrderedMap κ ν := ⟨[], List.Pairwise.nil⟩

/-- The value of a key. -/
def find? (m : OrderedMap κ ν) (k : κ) : Option ν :=
  (m.entries.find? fun e => e.1 = k).map Prod.snd

/-- An entry put in its place, instead of the one with its key if there is one. -/
def insertEntry (k : κ) (v : ν) : List (κ × ν) → List (κ × ν)
  | [] => [(k, v)]
  | e :: entries =>
    if k < e.1 then (k, v) :: e :: entries
    else if k = e.1 then (k, v) :: entries
    else e :: insertEntry k v entries

theorem mem_insertEntry {k : κ} {v : ν} {entries : List (κ × ν)} {e : κ × ν}
    (h : e ∈ insertEntry k v entries) : e = (k, v) ∨ e ∈ entries := by
  induction entries with
  | nil => exact .inl (List.mem_singleton.1 h)
  | cons e' entries ih =>
    unfold insertEntry at h
    split at h
    · exact List.mem_cons.1 h
    split at h
    · exact (List.mem_cons.1 h).imp_right (List.mem_cons_of_mem _)
    · rcases List.mem_cons.1 h with rfl | h
      · exact .inr List.mem_cons_self
      · exact (ih h).imp_right (List.mem_cons_of_mem _)

theorem pairwise_insertEntry (k : κ) (v : ν) {entries : List (κ × ν)}
    (h : entries.Pairwise fun e e' => e.1 < e'.1) :
    (insertEntry k v entries).Pairwise fun e e' => e.1 < e'.1 := by
  induction entries with
  | nil => exact List.pairwise_singleton _ _
  | cons e entries ih =>
    obtain ⟨hhead, htail⟩ := List.pairwise_cons.1 h
    unfold insertEntry
    split
    · rename_i hlt
      refine List.pairwise_cons.2 ⟨fun e' he' => ?_, h⟩
      rcases List.mem_cons.1 he' with rfl | he'
      · exact hlt
      · exact hlt.trans (hhead e' he')
    split
    · rename_i heq
      exact List.pairwise_cons.2 ⟨fun e' he' => heq ▸ hhead e' he', htail⟩
    · rename_i hnlt hne
      refine List.pairwise_cons.2 ⟨fun e' he' => ?_, ih htail⟩
      rcases mem_insertEntry he' with rfl | he'
      · exact lt_of_le_of_ne (not_lt.1 hnlt) (Ne.symm hne)
      · exact hhead e' he'

/-- The map with `v` for the key `k`. -/
def insert (m : OrderedMap κ ν) (k : κ) (v : ν) : OrderedMap κ ν :=
  ⟨insertEntry k v m.entries, pairwise_insertEntry k v m.sorted⟩

/-- The map without the key `k`. -/
def erase (m : OrderedMap κ ν) (k : κ) : OrderedMap κ ν :=
  ⟨m.entries.filter fun e => e.1 ≠ k, m.sorted.filter _⟩

/-- The entries at the front whose values satisfy `p`. -/
def frontWhile (m : OrderedMap κ ν) (p : ν → Bool) : List (κ × ν) :=
  m.entries.takeWhile fun e => p e.2

/-- The map without the entries at the front whose values satisfy `p`, what is left after erasing
the first entry as long as it satisfies `p`. -/
def dropWhile (m : OrderedMap κ ν) (p : ν → Bool) : OrderedMap κ ν :=
  ⟨m.entries.dropWhile fun e => p e.2, m.sorted.sublist (List.dropWhile_sublist _)⟩

variable (m : OrderedMap κ ν) {k : κ} {v : ν}

theorem eq_of_mem_of_fst_eq {e e' : κ × ν} (he : e ∈ m.entries) (he' : e' ∈ m.entries)
    (h : e.1 = e'.1) : e = e' := by
  have hnodup : (m.entries.map Prod.fst).Nodup :=
    List.pairwise_map.2 (m.sorted.imp fun hlt => hlt.ne)
  exact List.inj_on_of_nodup_map hnodup he he' h

theorem find?_eq_some_iff : m.find? k = some v ↔ (k, v) ∈ m.entries := by
  unfold find?
  rw [Option.map_eq_some_iff]
  constructor
  · rintro ⟨⟨k', v'⟩, hfind, rfl⟩
    have hkey := List.find?_some hfind
    rw [decide_eq_true_eq] at hkey
    cases hkey
    exact List.mem_of_find?_eq_some hfind
  · intro hmem
    cases hfind : m.entries.find? fun e => e.1 = k with
    | none => exact absurd rfl (of_decide_eq_false
        (Bool.not_eq_true _ ▸ List.find?_eq_none.1 hfind (k, v) hmem))
    | some e =>
      have hkey := List.find?_some hfind
      rw [decide_eq_true_eq] at hkey
      refine ⟨e, rfl, ?_⟩
      rw [m.eq_of_mem_of_fst_eq (List.mem_of_find?_eq_some hfind) hmem hkey]

theorem mem_insertEntry_iff {entries : List (κ × ν)} (h : entries.Pairwise fun e e' => e.1 < e'.1)
    (k : κ) (v : ν) {e : κ × ν} :
    e ∈ insertEntry k v entries ↔ e = (k, v) ∨ e ∈ entries ∧ e.1 ≠ k := by
  induction entries with
  | nil => simp [insertEntry]
  | cons e' entries ih =>
    obtain ⟨hhead, htail⟩ := List.pairwise_cons.1 h
    unfold insertEntry
    split
    · rename_i hlt
      have hne : ∀ e ∈ e' :: entries, e.1 ≠ k := by
        intro e he
        rcases List.mem_cons.1 he with rfl | he
        · exact hlt.ne'
        · exact (hlt.trans (hhead e he)).ne'
      rw [List.mem_cons]
      exact or_congr_right ⟨fun he => ⟨he, hne e he⟩, And.left⟩
    split
    · rename_i heq
      rw [List.mem_cons, List.mem_cons]
      refine or_congr_right ⟨fun he => ⟨.inr he, heq ▸ (hhead e he).ne'⟩, ?_⟩
      rintro ⟨rfl | he, hne⟩
      · exact absurd heq.symm hne
      · exact he
    · rename_i hne
      rw [List.mem_cons, ih htail, List.mem_cons]
      constructor
      · rintro (rfl | rfl | ⟨he, hek⟩)
        · exact .inr ⟨.inl rfl, Ne.symm hne⟩
        · exact .inl rfl
        · exact .inr ⟨.inr he, hek⟩
      · rintro (rfl | ⟨rfl | he, hek⟩)
        · exact .inr (.inl rfl)
        · exact .inl rfl
        · exact .inr (.inr ⟨he, hek⟩)

/-- Looking up a key after an insertion. -/
theorem find?_insert (k' : κ) :
    (m.insert k v).find? k' = if k' = k then some v else m.find? k' := by
  ext v'
  rw [find?_eq_some_iff]
  show (k', v') ∈ insertEntry k v m.entries ↔ _
  rw [mem_insertEntry_iff m.sorted, Prod.mk.injEq]
  by_cases hk : k' = k
  · simp [hk, eq_comm]
  · rw [if_neg hk, find?_eq_some_iff]
    simp [hk]

/-- Looking up a key after an erasure. -/
theorem find?_erase (k' : κ) :
    (m.erase k).find? k' = if k' = k then none else m.find? k' := by
  ext v'
  rw [find?_eq_some_iff]
  show (k', v') ∈ m.entries.filter _ ↔ _
  by_cases hk : k' = k
  · simp [hk]
  · rw [if_neg hk, find?_eq_some_iff]
    simp [hk]

@[simp] theorem find?_empty (k : κ) : (empty : OrderedMap κ ν).find? k = none := rfl

/-- **A new greatest key goes to the end.** -/
theorem entries_insert_of_forall_lt (h : ∀ e ∈ m.entries, e.1 < k) (v : ν) :
    (m.insert k v).entries = m.entries ++ [(k, v)] := by
  show insertEntry k v m.entries = _
  revert h
  generalize m.entries = entries
  intro h
  induction entries with
  | nil => rfl
  | cons e entries ih =>
    have hlt := h e List.mem_cons_self
    unfold insertEntry
    rw [if_neg hlt.not_gt, if_neg hlt.ne', ih fun e' he' => h e' (List.mem_cons_of_mem _ he')]
    rfl

theorem entries_insert_of_mem {v₀ : ν} (h : (k, v₀) ∈ m.entries) (v : ν) :
    (m.insert k v).entries = m.entries.map fun e => if e.1 = k then (k, v) else e := by
  obtain ⟨entries, hsorted⟩ := m
  show insertEntry k v entries = _
  induction entries with
  | nil => cases h
  | cons e entries ih =>
    obtain ⟨hhead, htail⟩ := List.pairwise_cons.1 hsorted
    unfold insertEntry
    rcases List.mem_cons.1 h with rfl | h
    · -- the keys after it are greater
      have hrest : entries.map (fun e => if e.1 = k then (k, v) else e) = entries :=
        (List.map_congr_left fun e he => if_neg (hhead e he).ne').trans (List.map_id _)
      rw [if_neg (lt_irrefl k), if_pos rfl, List.map_cons, if_pos rfl, hrest]
    · have hlt := hhead _ h
      rw [if_neg hlt.not_gt, if_neg hlt.ne', ih htail h, List.map_cons, if_neg hlt.ne]

/-- The map with another value for a key, or without the key. -/
def alter (m : OrderedMap κ ν) (k : κ) : Option ν → OrderedMap κ ν
  | some v => m.insert k v
  | none => m.erase k

/-- **The entry of a key that is there is replaced or removed, the others stay.** -/
theorem entries_alter_of_mem {v₀ : ν} (h : (k, v₀) ∈ m.entries) (v : Option ν) :
    (m.alter k v).entries =
      m.entries.filterMap fun e => if e.1 = k then v.map (k, ·) else some e := by
  cases v with
  | some v =>
    show (m.insert k v).entries = _
    rw [m.entries_insert_of_mem h, ← List.filterMap_eq_map]
    apply List.filterMap_congr
    intro e _
    show some (if e.1 = k then (k, v) else e) = if e.1 = k then some (k, v) else some e
    rw [apply_ite some]
  | none =>
    show m.entries.filter _ = _
    rw [← List.filterMap_eq_filter]
    apply List.filterMap_congr
    intro e _
    by_cases he : e.1 = k
    · simp [Option.guard, he]
    · simp [Option.guard, he]

end OrderedMap

end Foundations
