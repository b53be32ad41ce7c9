import Mathlib.Data.Set.List
import Mathlib.Data.List.Induction
import Pyvrs.Foundations.Dict

/-!
# Loops over steps that can fail

A loop whose step converts an item, and adds what came of it to the state, ends well exactly if
every item converts (`exists_foldlM_eq_ok_iff`, `mapM_eq_ok_iff`). When the step sets an item of a
dictionary, the dictionary has in the end, for a key, what the last item set with this key is
converted to (`lookup_foldlM_setItem`).
-/

namespace Foundations

universe u

variable {ε α : Type*} {β σ : Type u}

theorem toOption_eq_some_iff {x : Except ε β} {b : β} : x.toOption = some b ↔ x = .ok b := by
  cases x with
  | error e => exact ⟨nofun, nofun⟩
  | ok b' => exact ⟨fun h => congrArg Except.ok (Option.some.inj h), fun h => h ▸ rfl⟩

theorem bind_eq_ok_iff {x : Except ε β} {f : β → Except ε σ} {s : σ} :
    x >>= f = .ok s ↔ ∃ b, x = .ok b ∧ f b = .ok s := by
  cases x with
  | error e => exact ⟨nofun, fun ⟨_, h, _⟩ => nomatch h⟩
  | ok b =>
    constructor
    · exact fun h => ⟨b, rfl, h⟩
    · rintro ⟨_, ⟨⟩, h⟩
      exact h

theorem bind_pure_eq_ok_iff {x : Except ε β} {g : β → σ} {s : σ} :
    (do return g (← x)) = Except.ok s ↔ ∃ b, x = .ok b ∧ s = g b := by
  rw [bind_eq_ok_iff]
  refine exists_congr fun b => and_congr_right fun _ => ?_
  exact ⟨fun h => (Except.ok.inj h).symm, fun h => h ▸ rfl⟩

theorem exists_bind_pure_eq_ok_iff {x : Except ε β} {g : β → σ} :
    (∃ s, (do return g (← x)) = Except.ok s) ↔ ∃ b, x = .ok b := by
  simp only [bind_pure_eq_ok_iff]
  constructor
  · rintro ⟨_, b, hb, -⟩
    exact ⟨b, hb⟩
  · rintro ⟨b, hb⟩
    exact ⟨g b, b, hb, rfl⟩

theorem mapM_eq_ok_iff {f : α → Except ε β} {as : List α} {bs : List β} :
    as.mapM f = .ok bs ↔ as.map f = bs.map Except.ok := by
  induction as generalizing bs with
  | nil =>
    rw [List.mapM_nil, List.map_nil, eq_comm (a := []), List.map_eq_nil_iff]
    exact ⟨fun h => (Except.ok.inj h).symm, fun h => h ▸ rfl⟩
  | cons a as ih =>
    rw [List.mapM_cons, bind_eq_ok_iff]
    simp only [bind_eq_ok_iff]
    constructor
    · rintro ⟨b, hb, bs', hbs', ⟨⟩⟩
      rw [List.map_cons, List.map_cons, hb, ih.1 hbs']
    · intro h
      cases bs with
      | nil => cases h
      | cons b bs =>
        rw [List.map_cons, List.map_cons, List.cons.injEq] at h
        exact ⟨b, h.1, bs, ih.2 h.2, rfl⟩

/-- The values of the items, in their places. -/
theorem getElem?_of_mapM_eq_ok {f : α → Except ε β} {as : List α} {bs : List β}
    (h : as.mapM f = .ok bs) (i : ℕ) {b : β} : bs[i]? = some b ↔ as[i]?.map f = some (.ok b) := by
  rw [← List.getElem?_map, mapM_eq_ok_iff.1 h, List.getElem?_map, Option.map_eq_some_iff]
  constructor
  · exact fun hb => ⟨b, hb, rfl⟩
  · rintro ⟨_, hb, ⟨⟩⟩
    exact hb

theorem exists_mapM_eq_ok_iff {f : α → Except ε β} {as : List α} :
    (∃ bs, as.mapM f = .ok bs) ↔ ∀ a ∈ as, ∃ b, f a = .ok b := by
  have hrange := Set.ext_iff.1 (Set.range_list_map (@Except.ok ε β)) (as.map f)
  change _ ↔ ∀ b ∈ as.map f, b ∈ Set.range Except.ok at hrange
  rw [Set.mem_range, List.forall_mem_map] at hrange
  simp only [mapM_eq_ok_iff, eq_comm (a := as.map f), hrange, Set.mem_range]
  exact forall₂_congr fun a _ => exists_congr fun b => eq_comm

/-- Items that are converted one by one, to values that they are related to. -/
theorem exists_map_eq_ok_forall₂_iff {f : α → Except ε β} {R : α → β → Prop} {as : List α} :
    (∃ bs, as.map f = bs.map Except.ok ∧ List.Forall₂ R as bs) ↔
      ∀ a ∈ as, ∃ b, f a = .ok b ∧ R a b := by
  induction as with
  | nil => exact ⟨fun _ _ h => absurd h List.not_mem_nil, fun _ => ⟨[], rfl, .nil⟩⟩
  | cons a as ih =>
    rw [List.forall_mem_cons, ← ih]
    constructor
    · rintro ⟨_, hmap, hR | ⟨hb, hbs⟩⟩
      rw [List.map_cons, List.map_cons, List.cons.injEq] at hmap
      exact ⟨⟨_, hmap.1, hb⟩, _, hmap.2, hbs⟩
    · rintro ⟨⟨b, hb, hR⟩, bs, hbs, hRs⟩
      exact ⟨b :: bs, by rw [List.map_cons, hb, hbs, List.map_cons], .cons hR hRs⟩

/-- **A loop ends well if every item converts.** -/
theorem exists_foldlM_eq_ok_iff {f : α → Except ε β} {add : σ → β → σ} {as : List α} {s : σ} :
    (∃ s', as.foldlM (fun s a => do return add s (← f a)) s = Except.ok s') ↔
      ∀ a ∈ as, ∃ b, f a = .ok b := by
  induction as generalizing s with
  | nil => exact ⟨fun _ _ h => absurd h List.not_mem_nil, fun _ => ⟨s, rfl⟩⟩
  | cons a as ih =>
    rw [List.forall_mem_cons]
    simp only [List.foldlM_cons, bind_eq_ok_iff]
    constructor
    · rintro ⟨s', _, ⟨b, hb, ⟨⟩⟩, hs'⟩
      exact ⟨⟨b, hb⟩, ih.1 ⟨s', hs'⟩⟩
    · rintro ⟨⟨b, hb⟩, hall⟩
      obtain ⟨s', hs'⟩ := ih.2 hall
      exact ⟨s', add s b, ⟨b, hb, rfl⟩, hs'⟩

/-! ## Dictionaries -/

section Dict

variable {κ ν : Type u} [DecidableEq κ] {ι : Type*} [DecidableEq ι]

/-- The last of the items that sets a key. -/
def lastSetting (key : α → Option ι) (as : List α) (i : ι) : Option α :=
  as.reverse.find? fun a => key a = some i

theorem lastSetting_concat (key : α → Option ι) (as : List α) (a : α) (i : ι) :
    lastSetting key (as ++ [a]) i = if key a = some i then some a else lastSetting key as i := by
  unfold lastSetting
  rw [List.reverse_append, List.reverse_singleton, List.singleton_append, List.find?_cons]
  by_cases h : key a = some i
  · rw [if_pos h, decide_eq_true h]
  · rw [if_neg h, decide_eq_false h]

theorem exists_lastSetting {key : α → Option ι} {as : List α} {a : α} {i : ι} (ha : a ∈ as)
    (hi : key a = some i) : ∃ a', lastSetting key as i = some a' := by
  refine Option.isSome_iff_exists.1 (List.find?_isSome.2 ⟨a, List.mem_reverse.2 ha, ?_⟩)
  exact decide_eq_true hi

theorem mem_of_lastSetting {key : α → Option ι} {as : List α} {a : α} {i : ι}
    (h : lastSetting key as i = some a) : a ∈ as ∧ key a = some i :=
  ⟨List.mem_reverse.1 (List.mem_of_find?_eq_some h),
    of_decide_eq_true (List.find?_some (p := fun a => key a = some i) h)⟩

/-- The items that are there are set. -/
def Dict.setItem? (d : Dict κ ν) (item : Option (κ × ν)) : Dict κ ν :=
  item.elim d fun e => d.setItem e.1 e.2

/-- **A dictionary has the last item set with a key.** The items may be told apart by keys of their
own. -/
theorem lookup_foldlM_setItem {f : α → Except ε (Option (κ × ν))} {key : α → Option ι} {as : List α}
    {d : Dict κ ν}
    (h : as.foldlM (fun (d : Dict κ ν) a => do return d.setItem? (← f a)) ∅ = .ok d) {i : ι} {k : κ}
    (hkey : ∀ a ∈ as, ∀ item, f a = .ok item → (key a = some i ↔ item.map Prod.fst = some k))
    {v : ν} :
    d.lookup k = some v ↔ ∃ a, lastSetting key as i = some a ∧ f a = .ok (some (k, v)) := by
  induction as using List.reverseRecOn generalizing d v with
  | nil =>
    cases h
    exact ⟨nofun, fun ⟨_, h, _⟩ => nomatch h⟩
  | append_singleton as a ih =>
    rw [List.foldlM_append] at h
    obtain ⟨d', hloop, hlast⟩ := bind_eq_ok_iff.1 h
    rw [List.foldlM_cons] at hlast
    obtain ⟨_, hstep, ⟨⟩⟩ := bind_eq_ok_iff.1 hlast
    obtain ⟨item, hitem, ⟨⟩⟩ := bind_eq_ok_iff.1 hstep
    have hinit := fun a' (ha' : a' ∈ as) => hkey a' (List.mem_append_left _ ha')
    have hka := hkey a (List.mem_append_right _ List.mem_cons_self) item hitem
    rw [lastSetting_concat]
    cases item with
    | none =>
      rw [if_neg (mt hka.1 nofun)]
      exact ih hloop hinit
    | some e =>
      obtain ⟨k', v'⟩ := e
      rw [Option.map_some, Option.some.injEq] at hka
      show (d'.setItem k' v').lookup k = some v ↔ _
      rw [Dict.lookup_setItem]
      by_cases hk : k' = k
      · subst hk
        rw [if_pos rfl, if_pos (hka.2 rfl), Option.some.injEq]
        constructor
        · rintro rfl
          exact ⟨a, rfl, hitem⟩
        · rintro ⟨_, ⟨⟩, hv⟩
          rw [hitem] at hv
          cases hv
          rfl
      · rw [if_neg (Ne.symm hk), if_neg (mt hka.1 hk)]
        exact ih hloop hinit

end Dict

end Foundations
