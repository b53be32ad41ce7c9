import Mathlib.Data.List.TakeWhile
import Mathlib.Logic.Function.Basic
import Pyvrs.Foundations.OrderedMap

/-!
# Reorder buffers

A reorder buffer issues tickets in increasing order, has them settled in any order, and releases
what it got for them in the order of the tickets. There are two views of it. In the declarative one,
`value` tells what there is for each ticket, nothing once it is dropped: the entries at the front
that are ready are `released`, the others `held`. In the operational one an ordered map keeps the
entries: settling a ticket changes its entry, and then the entries at the front that are ready
leave. The two agree (`Holds.settle`), so what is released depends on the values given and not on
the order in which they came.
-/

namespace Foundations.ReorderBuffer

variable {κ ν : Type*} (ready : ν → Bool)

/-- The entry of a ticket that has a value. -/
def entry (value : κ → Option ν) (k : κ) : Option (κ × ν) := (value k).map (k, ·)

/-- Nothing more is awaited for a ticket: its value is ready, or it has none. -/
def Settled (value : κ → Option ν) (k : κ) : Prop := ∀ v, value k = some v → ready v = true

/-- The entries released: those at the front that are ready. -/
def released (tickets : List κ) (value : κ → Option ν) : List (κ × ν) :=
  (tickets.filterMap (entry value)).takeWhile fun e => ready e.2

/-- The entries held: those from the first one on that is not ready. -/
def held (tickets : List κ) (value : κ → Option ν) : List (κ × ν) :=
  (tickets.filterMap (entry value)).dropWhile fun e => ready e.2

variable {ready} {tickets : List κ} {value : κ → Option ν} {k : κ} {v : ν}

theorem entry_eq_some_iff {e : κ × ν} : entry value k = some e ↔ e.1 = k ∧ value k = some e.2 := by
  obtain ⟨k', v⟩ := e
  unfold entry
  rw [Option.map_eq_some_iff]
  constructor
  · rintro ⟨v', hv, he⟩
    cases he
    exact ⟨rfl, hv⟩
  · rintro ⟨rfl, hv⟩
    exact ⟨v, hv, rfl⟩

theorem mem_filterMap_entry :
    (k, v) ∈ tickets.filterMap (entry value) ↔ k ∈ tickets ∧ value k = some v := by
  rw [List.mem_filterMap]
  constructor
  · rintro ⟨k', hk', he⟩
    obtain ⟨rfl, hv⟩ := entry_eq_some_iff.1 he
    exact ⟨hk', hv⟩
  · rintro ⟨hk, hv⟩
    exact ⟨k, hk, entry_eq_some_iff.2 ⟨rfl, hv⟩⟩

theorem released_append_held (ready : ν → Bool) (tickets : List κ) (value : κ → Option ν) :
    released ready tickets value ++ held ready tickets value = tickets.filterMap (entry value) :=
  List.takeWhile_append_dropWhile

/-! ## What is released -/

theorem mem_of_mem_released (h : (k, v) ∈ released ready tickets value) :
    k ∈ tickets ∧ value k = some v :=
  mem_filterMap_entry.1 ((List.takeWhile_sublist _).subset h)

theorem mem_of_mem_held (h : (k, v) ∈ held ready tickets value) : k ∈ tickets ∧ value k = some v :=
  mem_filterMap_entry.1 ((List.dropWhile_sublist _).subset h)

theorem ready_of_mem_released (h : (k, v) ∈ released ready tickets value) : ready v = true :=
  List.mem_takeWhile_imp (p := fun e : κ × ν => ready e.2) h

/-- An entry that is not ready is held. -/
theorem mem_held_of_not_ready (hk : k ∈ tickets) (hv : value k = some v)
    (hready : ready v = false) : (k, v) ∈ held ready tickets value := by
  have hmem : (k, v) ∈ tickets.filterMap (entry value) := mem_filterMap_entry.2 ⟨hk, hv⟩
  rw [← released_append_held ready, List.mem_append] at hmem
  refine hmem.resolve_left fun hreleased => ?_
  rw [ready_of_mem_released hreleased] at hready
  cases hready

/-- The first entry held is not ready. -/
theorem not_ready_of_held {e : κ × ν} {rest : List (κ × ν)}
    (h : held ready tickets value = e :: rest) : ready e.2 = false := by
  have hpos : 0 < (held ready tickets value).length := by
    rw [h]
    exact Nat.succ_pos _
  have hget : (held ready tickets value).get ⟨0, hpos⟩ = e := by
    simp only [h, List.get_eq_getElem, List.getElem_cons_zero]
  have hnot : ¬ready ((held ready tickets value).get ⟨0, hpos⟩).2 = true :=
    List.dropWhile_get_zero_not (p := fun e : κ × ν => ready e.2) _ hpos
  rw [hget] at hnot
  exact Bool.not_eq_true _ ▸ hnot

theorem keys_entries (tickets : List κ) (value : κ → Option ν) :
    (tickets.filterMap (entry value)).map Prod.fst = tickets.filter fun k => (value k).isSome := by
  induction tickets with
  | nil => rfl
  | cons k tickets ih =>
    cases hv : value k with
    | none =>
      rw [List.filterMap_cons_none (by rw [entry, hv]; rfl), List.filter_cons_of_neg (by simp [hv]),
        ih]
    | some v =>
      have hentry : entry value k = some (k, v) := entry_eq_some_iff.2 ⟨rfl, hv⟩
      rw [List.filterMap_cons_some hentry, List.map_cons, ih,
        List.filter_cons_of_pos (by simp [hv])]

/-- **The tickets held** are those that have a value, from the first one on that is not settled. -/
theorem keys_held {settled : κ → Bool}
    (hsettled : ∀ k ∈ tickets, (value k).all ready = settled k) :
    (held ready tickets value).map Prod.fst =
      (tickets.dropWhile settled).filter fun k => (value k).isSome := by
  unfold held
  induction tickets with
  | nil => rfl
  | cons k tickets ih =>
    obtain ⟨hfirst, hrest⟩ := List.forall_mem_cons.1 hsettled
    cases hv : value k with
    | none =>
      have hdone : settled k = true := by rw [← hfirst, hv]; rfl
      rw [List.filterMap_cons_none (by rw [entry, hv]; rfl), List.dropWhile_cons_of_pos hdone,
        ih hrest]
    | some v =>
      have hentry : entry value k = some (k, v) := entry_eq_some_iff.2 ⟨rfl, hv⟩
      have hdone : settled k = ready v := by rw [← hfirst, hv]; rfl
      cases hready : ready v with
      | true =>
        rw [List.filterMap_cons_some hentry, List.dropWhile_cons_of_pos (by simp [hready]),
          ih hrest, List.dropWhile_cons_of_pos (hdone.trans hready)]
      | false =>
        rw [List.filterMap_cons_some hentry, List.dropWhile_cons_of_neg (by simp [hready]),
          List.dropWhile_cons_of_neg (by simp [hdone, hready]), List.map_cons, keys_entries,
          List.filter_cons_of_pos (by simp [hv])]

/-- When every ticket is settled nothing is held. -/
theorem held_eq_nil (h : ∀ k ∈ tickets, Settled ready value k) : held ready tickets value = [] := by
  refine List.dropWhile_eq_nil_iff.2 fun e he => ?_
  obtain ⟨hk, hv⟩ := mem_filterMap_entry.1 he
  exact h e.1 hk e.2 hv

section Order

variable [LinearOrder κ]

theorem pairwise_entries (htickets : tickets.Pairwise (· < ·)) (value : κ → Option ν) :
    (tickets.filterMap (entry value)).Pairwise fun e e' => e.1 < e'.1 := by
  refine htickets.filterMap _ fun k k' hlt e he e' he' => ?_
  obtain ⟨rfl, -⟩ := entry_eq_some_iff.1 he
  obtain ⟨rfl, -⟩ := entry_eq_some_iff.1 he'
  exact hlt

/-- What is released is in the order of the tickets. -/
theorem pairwise_released (htickets : tickets.Pairwise (· < ·)) :
    (released ready tickets value).Pairwise fun e e' => e.1 < e'.1 :=
  (pairwise_entries htickets value).sublist (List.takeWhile_sublist _)

/-- **A ready entry is released as soon as every ticket before it is settled.** -/
theorem mem_released (htickets : tickets.Pairwise (· < ·)) (hk : k ∈ tickets)
    (hv : value k = some v) (hready : ready v = true)
    (hbefore : ∀ j ∈ tickets, j < k → Settled ready value j) :
    (k, v) ∈ released ready tickets value := by
  have hmem : (k, v) ∈ tickets.filterMap (entry value) := mem_filterMap_entry.2 ⟨hk, hv⟩
  rw [← released_append_held ready, List.mem_append] at hmem
  refine hmem.resolve_right fun hheld => ?_
  have hsorted : (held ready tickets value).Pairwise fun e e' => e.1 < e'.1 :=
    (pairwise_entries htickets value).sublist (List.dropWhile_sublist _)
  cases h : held ready tickets value with
  | nil => simp [h] at hheld
  | cons e rest =>
    -- the first entry held is one before `k` that is not settled, or that of `k`
    have hnot := not_ready_of_held h
    have he : e ∈ held ready tickets value := h ▸ List.mem_cons_self
    obtain ⟨hmem', hv'⟩ := mem_of_mem_held he
    rw [h] at hheld hsorted
    rcases List.mem_cons.1 hheld with rfl | hrest
    · simp [hready] at hnot
    · have hlt := (List.pairwise_cons.1 hsorted).1 _ hrest
      have hsettled := hbefore e.1 hmem' hlt e.2 hv'
      simp [hsettled] at hnot

/-- The tickets from the first one on that is not done are those with one before them, or
themselves, that is not. -/
theorem mem_dropWhile_iff (htickets : tickets.Pairwise (· < ·)) (done : κ → Bool) :
    k ∈ tickets.dropWhile done ↔ k ∈ tickets ∧ ∃ j ∈ tickets, j ≤ k ∧ done j = false := by
  induction tickets with
  | nil => simp
  | cons i tickets ih =>
    obtain ⟨hfirst, hrest⟩ := List.pairwise_cons.1 htickets
    cases hdone : done i with
    | false =>
      rw [List.dropWhile_cons_of_neg (by simp [hdone])]
      refine ⟨fun hk => ⟨hk, i, List.mem_cons_self, ?_, hdone⟩, And.left⟩
      rcases List.mem_cons.1 hk with rfl | hk
      · exact le_rfl
      · exact (hfirst k hk).le
    | true =>
      rw [List.dropWhile_cons_of_pos hdone, ih hrest]
      constructor
      · rintro ⟨hk, j, hj, hle, hnot⟩
        exact ⟨List.mem_cons_of_mem _ hk, j, List.mem_cons_of_mem _ hj, hle, hnot⟩
      · rintro ⟨hk, j, hj, hle, hnot⟩
        have hj' : j ∈ tickets := (List.mem_cons.1 hj).resolve_left fun heq => by
          rw [heq, hdone] at hnot
          cases hnot
        refine ⟨(List.mem_cons.1 hk).resolve_left fun heq => ?_, j, hj', hle, hnot⟩
        exact absurd (hfirst j hj') (not_lt_of_ge (heq ▸ hle))

end Order

/-! ## The operational view -/

section Operations

variable [LinearOrder κ]

/-- The map keeps the entries held. -/
def Holds (ready : ν → Bool) (m : OrderedMap κ ν) (tickets : List κ) (value : κ → Option ν) :
    Prop :=
  m.entries = held ready tickets value

/-- **Issuing a ticket**: an entry is added at the end, and nothing is released. -/
theorem Holds.issue {m : OrderedMap κ ν} (h : Holds ready m tickets value)
    (hk : ∀ j ∈ tickets, j < k) (hv : value k = some v) (hready : ready v = false) :
    Holds ready (m.insert k v) (tickets ++ [k]) value ∧
      released ready (tickets ++ [k]) value = released ready tickets value := by
  have hentries : (tickets ++ [k]).filterMap (entry value) =
      tickets.filterMap (entry value) ++ [(k, v)] := by
    have hentry : entry value k = some (k, v) := entry_eq_some_iff.2 ⟨rfl, hv⟩
    rw [List.filterMap_append, List.filterMap_cons_some hentry, List.filterMap_nil]
  have hlt : ∀ e ∈ m.entries, e.1 < k := by
    intro e he
    rw [h] at he
    exact hk e.1 (mem_of_mem_held he).1
  have hnone : [(k, v)].takeWhile (fun e => ready e.2) = [] := by
    rw [List.takeWhile_cons, if_neg (by simp [hready])]
  have hall : [(k, v)].dropWhile (fun e => ready e.2) = [(k, v)] := by
    rw [List.dropWhile_cons, if_neg (by simp [hready])]
  constructor
  · show (m.insert k v).entries = ((tickets ++ [k]).filterMap (entry value)).dropWhile _
    rw [m.entries_insert_of_forall_lt hlt, h, hentries, held, List.dropWhile_append, hall]
    split
    · rename_i hempty
      rw [List.isEmpty_iff.1 hempty, List.nil_append]
    · rfl
  · rw [released, hentries, List.takeWhile_append, hnone, List.append_nil, released]
    split
    · rename_i hlength
      exact ((List.takeWhile_sublist _).eq_of_length hlength).symm
    · rfl

/-- **Settling a ticket** that is held and not ready, in one way or the other, and taking the ready
entries from the front: they are released after those released before, and the rest is held. -/
theorem Holds.settle {m : OrderedMap κ ν} (h : Holds ready m tickets value)
    (hk : m.find? k = some v) (hready : ready v = false) (v' : Option ν) :
    released ready tickets (Function.update value k v') =
        released ready tickets value ++ (m.alter k v').frontWhile ready ∧
      Holds ready ((m.alter k v').dropWhile ready) tickets (Function.update value k v') := by
  have hmem : (k, v) ∈ m.entries := m.find?_eq_some_iff.1 hk
  have hvalue : value k = some v := (mem_of_mem_held (h ▸ hmem)).2
  let change : κ × ν → Option (κ × ν) := fun e => if e.1 = k then v'.map (k, ·) else some e
  have hentries : tickets.filterMap (entry (Function.update value k v')) =
      (tickets.filterMap (entry value)).filterMap change := by
    rw [List.filterMap_filterMap]
    apply List.filterMap_congr
    intro j _
    by_cases hj : j = k
    · subst hj
      simp only [entry, Function.update_self, hvalue, Option.map_some, Option.bind_some, change,
        if_true]
    · simp only [entry, Function.update_of_ne hj]
      cases value j with
      | none => rfl
      | some w => simp only [Option.map_some, Option.bind_some, change, if_neg hj]
  -- the entries released before are not concerned
  have hfront : (released ready tickets value).filterMap change =
      released ready tickets value := by
    rw [← List.filterMap_some (l := released ready tickets value), List.filterMap_filterMap]
    apply List.filterMap_congr
    intro e he
    have hne : e.1 ≠ k := by
      intro hek
      have hv := (mem_of_mem_released he).2
      rw [hek, hvalue] at hv
      have := ready_of_mem_released he
      rw [← Option.some.inj hv, hready] at this
      cases this
    simp only [Option.bind_some, change, if_neg hne]
  have hsplit : tickets.filterMap (entry (Function.update value k v')) =
      released ready tickets value ++ (m.alter k v').entries := by
    rw [hentries, ← released_append_held ready, List.filterMap_append, hfront,
      m.entries_alter_of_mem hmem, h]
  have hready' : ∀ e ∈ released ready tickets value, ready e.2 = true :=
    fun e he => ready_of_mem_released he
  constructor
  · rw [released, hsplit, List.takeWhile_append_of_pos hready']
    rfl
  · show ((m.alter k v').entries.dropWhile _) = List.dropWhile _ _
    rw [hsplit, List.dropWhile_append_of_pos hready']

end Operations

end Foundations.ReorderBuffer
