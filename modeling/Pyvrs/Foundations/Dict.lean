import Mathlib.Data.List.AList
import Mathlib.Data.List.Perm.Subperm

/-!
# Dictionaries in insertion order

A dictionary keeps its entries in the order their keys were first set, as a Python `dict` does: an
association list whose items are set at the end (`setItem`) and popped from where they are
(`pop_eq_some`). A key that a dictionary lacks is found by trying the candidates of an injective
sequence one after the other (`fresh`), which ends since only so many of them can be taken.
-/

namespace Foundations

/-- A dictionary: entries with distinct keys. -/
abbrev Dict (κ ν : Type*) := AList fun _ : κ => ν

namespace Dict

variable {κ ν : Type*} [DecidableEq κ]

/-- The values, in the order of the keys. -/
def values (d : Dict κ ν) : List ν := d.entries.map Sigma.snd

/-- `d[k] = v`: another value for a key that is there, a new entry at the end otherwise. -/
def setItem (d : Dict κ ν) (k : κ) (v : ν) : Dict κ ν :=
  if h : k ∈ d then d.replace k v
  else
    { entries := d.entries ++ [⟨k, v⟩]
      nodupKeys := by
        have hkeys : (d.entries ++ [(⟨k, v⟩ : Sigma fun _ => ν)]).keys = d.keys ++ [k] :=
          List.map_append
        rw [List.NodupKeys, hkeys, List.nodup_append]
        refine ⟨d.nodupKeys, List.nodup_singleton k, fun k' hk' k'' hk'' heq => h ?_⟩
        rwa [AList.mem_keys, ← List.mem_singleton.1 hk'', ← heq] }

/-- `d.pop(k)`: the value of the key and what is left, nothing if the key is not there. -/
def pop (d : Dict κ ν) (k : κ) : Option (ν × Dict κ ν) :=
  (d.lookup k).map fun v => (v, d.erase k)

variable {d d' : Dict κ ν} {k k' : κ} {v : ν}

theorem entries_setItem_of_notMem (h : k ∉ d) :
    (d.setItem k v).entries = d.entries ++ [⟨k, v⟩] := by
  unfold setItem
  rw [dif_neg h]

theorem keys_setItem_of_notMem (h : k ∉ d) : (d.setItem k v).keys = d.keys ++ [k] := by
  show (d.setItem k v).entries.keys = _
  rw [entries_setItem_of_notMem h]
  exact List.map_append

theorem mem_setItem_of_notMem (h : k ∉ d) : k' ∈ d.setItem k v ↔ k' ∈ d ∨ k' = k := by
  rw [AList.mem_keys, keys_setItem_of_notMem h, List.mem_append, List.mem_singleton,
    ← AList.mem_keys]

/-- **Setting a new key overwrites no value.** -/
theorem values_setItem_of_notMem (h : k ∉ d) : (d.setItem k v).values = d.values ++ [v] := by
  unfold values
  rw [entries_setItem_of_notMem h, List.map_append]
  rfl

theorem lookup_setItem_of_notMem (h : k ∉ d) :
    (d.setItem k v).lookup k' = if k' = k then some v else d.lookup k' := by
  show (d.setItem k v).entries.dlookup k' = _
  rw [entries_setItem_of_notMem h, List.dlookup_append]
  by_cases hk : k' = k
  · subst hk
    have hnone : d.entries.dlookup k' = none := List.dlookup_eq_none.2 h
    rw [hnone, if_pos rfl, Option.none_or, List.dlookup_cons_eq]
  · rw [if_neg hk, List.dlookup_cons_ne _ _ hk, List.dlookup_nil, Option.or_none]
    rfl

theorem dlookup_kreplace {entries : List (Sigma fun _ : κ => ν)} (h : k ∈ entries.keys) :
    (entries.kreplace k v).dlookup k' = if k' = k then some v else entries.dlookup k' := by
  induction entries with
  | nil => exact absurd h List.not_mem_nil
  | cons e entries ih =>
    by_cases hk : k = e.1
    · have hreplace : (e :: entries).kreplace k v = ⟨k, v⟩ :: entries :=
        List.lookmap_cons_some _ _ (if_pos hk)
      rw [hreplace]
      by_cases hk' : k' = k
      · rw [if_pos hk', hk', List.dlookup_cons_eq]
      · rw [if_neg hk', List.dlookup_cons_ne _ _ hk', List.dlookup_cons_ne _ _ (hk ▸ hk')]
    · have hreplace : (e :: entries).kreplace k v = e :: entries.kreplace k v :=
        List.lookmap_cons_none _ _ (if_neg hk)
      rw [hreplace]
      by_cases hk' : k' = e.1
      · obtain ⟨k₁, v₁⟩ := e
        subst hk'
        rw [List.dlookup_cons_eq, List.dlookup_cons_eq, if_neg (Ne.symm hk)]
      · rw [List.dlookup_cons_ne _ _ hk', List.dlookup_cons_ne _ _ hk',
          ih ((List.mem_cons.1 h).resolve_left hk)]

/-- Looking up a key after setting one. -/
theorem lookup_setItem : (d.setItem k v).lookup k' = if k' = k then some v else d.lookup k' := by
  by_cases h : k ∈ d
  · unfold setItem
    rw [dif_pos h]
    exact dlookup_kreplace h
  · exact lookup_setItem_of_notMem h

theorem pop_eq_none_iff : d.pop k = none ↔ k ∉ d := by
  rw [pop, Option.map_eq_none_iff, AList.lookup_eq_none]

theorem pop_eq_some_iff : d.pop k = some (v, d') ↔ d.lookup k = some v ∧ d' = d.erase k := by
  rw [pop, Option.map_eq_some_iff]
  constructor
  · rintro ⟨v', hlookup, heq⟩
    cases heq
    exact ⟨hlookup, rfl⟩
  · rintro ⟨hlookup, rfl⟩
    exact ⟨v, hlookup, rfl⟩

/-- **Popping a key takes one value.** -/
theorem values_perm_of_lookup (h : d.lookup k = some v) :
    d.values.Perm (v :: values (d.erase k)) := by
  have hmem : k ∈ d.entries.keys := List.dlookup_isSome.1 (Option.isSome_of_eq_some h)
  obtain ⟨v', before, after, hbefore, hentries, herase⟩ := List.exists_of_kerase hmem
  have hv : v' = v := by
    have hlookup : d.entries.dlookup k = some v := h
    rw [hentries, List.dlookup_append, List.dlookup_eq_none.2 hbefore, Option.none_or,
      List.dlookup_cons_eq] at hlookup
    exact Option.some.inj hlookup
  subst hv
  show (d.entries.map Sigma.snd).Perm (v' :: (d.entries.kerase k).map Sigma.snd)
  rw [herase, hentries, List.map_append, List.map_append, List.map_cons]
  exact List.perm_middle

end Dict

/-! ## Fresh keys -/

section Fresh

variable {κ : Type*} [DecidableEq κ] (candidate : ℕ → κ) (used : List κ)

/-- The first candidate from the `i`-th on that is not used, among so many. -/
def searchFresh : (fuel i : ℕ) → Option κ
  | 0, _ => none
  | fuel + 1, i =>
    if candidate i ∈ used then searchFresh fuel (i + 1) else some (candidate i)

variable {candidate} {used}

theorem searchFresh_eq_some {fuel i : ℕ} {k : κ} (h : searchFresh candidate used fuel i = some k) :
    ∃ j, i ≤ j ∧ k = candidate j ∧ k ∉ used ∧ ∀ j', i ≤ j' → j' < j → candidate j' ∈ used := by
  induction fuel generalizing i with
  | zero => cases h
  | succ fuel ih =>
    unfold searchFresh at h
    split at h
    · rename_i hused
      obtain ⟨j, hle, hk, hfresh, hall⟩ := ih h
      refine ⟨j, by omega, hk, hfresh, fun j' hle' hlt => ?_⟩
      rcases Nat.eq_or_lt_of_le hle' with rfl | hlt'
      · exact hused
      · exact hall j' hlt' hlt
    · rename_i hused
      cases h
      exact ⟨i, le_rfl, rfl, hused, fun j' hle hlt => by omega⟩

theorem mem_of_searchFresh_eq_none {fuel i : ℕ} (h : searchFresh candidate used fuel i = none)
    {j : ℕ} (hle : i ≤ j) (hlt : j < i + fuel) : candidate j ∈ used := by
  induction fuel generalizing i with
  | zero => omega
  | succ fuel ih =>
    unfold searchFresh at h
    split at h
    · rename_i hused
      rcases Nat.eq_or_lt_of_le hle with rfl | hlt'
      · exact hused
      · exact ih h hlt' (by omega)
    · cases h

/-- **The search ends**: an injective sequence leaves a short list behind. -/
theorem isSome_searchFresh (hinj : Function.Injective candidate) (i : ℕ) :
    (searchFresh candidate used (used.length + 1) i).isSome := by
  rw [Option.isSome_iff_ne_none]
  intro hnone
  have hsub : (List.range' i (used.length + 1)).map candidate ⊆ used := by
    intro k hk
    obtain ⟨j, hj, rfl⟩ := List.mem_map.1 hk
    rw [List.mem_range'_1] at hj
    exact mem_of_searchFresh_eq_none hnone hj.1 hj.2
  have hnodup : ((List.range' i (used.length + 1)).map candidate).Nodup :=
    List.Nodup.map hinj List.nodup_range'
  have hlength := (List.Nodup.subperm hnodup hsub).length_le
  rw [List.length_map, List.length_range'] at hlength
  omega

/-- The first candidate from the `i`-th on that is not used. -/
def fresh (hinj : Function.Injective candidate) (used : List κ) (i : ℕ) : κ :=
  (searchFresh candidate used (used.length + 1) i).get (isSome_searchFresh hinj i)

variable (hinj : Function.Injective candidate)

theorem fresh_spec (used : List κ) (i : ℕ) :
    ∃ j, i ≤ j ∧ fresh hinj used i = candidate j ∧ fresh hinj used i ∉ used ∧
      ∀ j', i ≤ j' → j' < j → candidate j' ∈ used :=
  searchFresh_eq_some (Option.some_get _).symm

/-- It only matters which keys are used. -/
theorem fresh_congr {used used' : List κ} (h : ∀ k, k ∈ used ↔ k ∈ used') (i : ℕ) :
    fresh hinj used i = fresh hinj used' i := by
  obtain ⟨j, hle, hk, hfresh, hall⟩ := fresh_spec hinj used i
  obtain ⟨j', hle', hk', hfresh', hall'⟩ := fresh_spec hinj used' i
  rw [hk] at hfresh ⊢
  rw [hk'] at hfresh' ⊢
  rcases Nat.lt_trichotomy j j' with hlt | rfl | hlt
  · exact absurd ((h _).2 (hall' j hle hlt)) hfresh
  · rfl
  · exact absurd ((h _).1 (hall j' hle' hlt)) hfresh'

end Fresh

end Foundations
