import Mathlib.Data.Finset.Insert
import Pyvrs.Foundations.Dict

/-!
# The keys of a metadata dictionary

`stringify_metadata_keys` leaves the type out of the key of an item of metadata unless its name is
overloaded, and then moves the items of that name to keys with types. It loses nothing, but it takes
such a key for a name met before if it is the next name: it raises, exactly when a name is met for
the first time after a key with a type that is equal to it (`stringifyMetadataKeys_lossless_iff`).
-/

namespace Pyvrs

open Foundations

/-! ## The code -/

/-- `name + ("<" * i) + type_ + (">" * i)`. -/
def bracketed (name type_ : String) (i : ℕ) : String :=
  name ++ String.ofList (List.replicate i '<') ++ type_ ++ String.ofList (List.replicate i '>')

theorem length_bracketed (name type_ : String) (i : ℕ) :
    (bracketed name type_ i).length = name.length + type_.length + 2 * i := by
  simp only [bracketed, String.length_append, String.length_ofList, List.length_replicate]
  omega

theorem bracketed_injective (name type_ : String) : Function.Injective (bracketed name type_) := by
  intro i j h
  have hlength := congrArg String.length h
  rw [length_bracketed, length_bracketed] at hlength
  omega

/-- `_unique_string_for_key`, given the keys of `dict_`. The keys it tries get longer and longer, so
that its loop ends. -/
def uniqueStringForKey (name type_ : String) (keys : List String) : String :=
  fresh (bracketed_injective name type_) keys 1

/-- `KeyError`. -/
structure KeyError where
  key : String
  deriving DecidableEq

/-- The variables of `stringify_metadata_keys`. -/
structure StringifiedKeys (α : Type*) where
  filtered : Dict String α
  ambiguousNames : Finset String
  removedTypes : Dict String String

variable {α : Type*}

/-- `stringify_metadata_keys`, for one item. -/
def StringifiedKeys.addItem (s : StringifiedKeys α) (name type_ : String) (value : α) :
    Except KeyError (StringifiedKeys α) :=
  if name ∈ s.ambiguousNames then
    .ok { s with
      filtered := s.filtered.setItem (uniqueStringForKey name type_ s.filtered.keys) value }
  else if name ∈ s.filtered then
    match s.filtered.pop name, s.removedTypes.pop name with
    | some (oldValue, filtered), some (oldType, removedTypes) =>
      let filtered := filtered.setItem (uniqueStringForKey name oldType filtered.keys) oldValue
      let filtered := filtered.setItem (uniqueStringForKey name type_ filtered.keys) value
      .ok ⟨filtered, insert name s.ambiguousNames, removedTypes⟩
    | _, _ => .error ⟨name⟩
  else
    .ok { s with
      filtered := s.filtered.setItem name value
      removedTypes := s.removedTypes.setItem name type_ }

/-- `stringify_metadata_keys`. -/
def stringifyMetadataKeys (metadata : Dict (String × String) α) :
    Except KeyError (Dict String α) :=
  (metadata.entries.foldlM (fun (s : StringifiedKeys α) item =>
    s.addItem item.1.1 item.1.2 item.2) ⟨∅, ∅, ∅⟩).map StringifiedKeys.filtered

/-! ## The keys with types -/

/-- The items of a name, among the names and types met so far. -/
def itemsOf (met : List (String × String)) (name : String) : List (String × String) :=
  met.filter fun key => key.1 = name

/-- The names of one item. -/
def plainNames (met : List (String × String)) : List String :=
  (met.map Prod.fst).filter fun name => (itemsOf met name).length = 1

/-- The keys with types that one more item makes: its own and that of the other item of its name, if
it is the second one, and its own from then on. -/
def newTypedKeys (met : List (String × String)) (typed : List String) (name type_ : String) :
    List String :=
  match itemsOf met name with
  | [] => []
  | [(_, oldType)] =>
    let used := (plainNames met).filter (fun k => k ≠ name) ++ typed
    let oldKey := uniqueStringForKey name oldType used
    [oldKey, uniqueStringForKey name type_ (oldKey :: used)]
  | _ => [uniqueStringForKey name type_ (plainNames met ++ typed)]

/-- The keys with types made of the items of overloaded names. -/
def typedKeys (met : List (String × String)) : List String :=
  (met.foldl (fun (s : List (String × String) × List String) key =>
    (s.1 ++ [key], s.2 ++ newTypedKeys s.1 s.2 key.1 key.2)) ([], [])).2

/-- After the items met, no name is met for the first time when there is a key with a type equal to
it. -/
def NoNameIsTypedKeyAfter (met keys : List (String × String)) : Prop :=
  ∀ more name type_ rest, keys = more ++ (name, type_) :: rest → itemsOf (met ++ more) name = [] →
    name ∉ typedKeys (met ++ more)

/-- No name is met for the first time when there is a key with a type equal to it. -/
def NoNameIsTypedKey (keys : List (String × String)) : Prop := NoNameIsTypedKeyAfter [] keys

section TypedKeys

variable (met : List (String × String)) (name type_ k : String)

@[simp] theorem itemsOf_concat : itemsOf (met ++ [(name, type_)]) k =
    itemsOf met k ++ if name = k then [(name, type_)] else [] := by
  simp [itemsOf, List.filter_cons]

/-- A name is overloaded once a second item of it is met. -/
theorem two_le_length_itemsOf_concat : 2 ≤ (itemsOf (met ++ [(name, type_)]) k).length ↔
    2 ≤ (itemsOf met k).length ∨ k = name ∧ itemsOf met name ≠ [] := by
  rw [itemsOf_concat, List.length_append]
  by_cases hk : k = name
  · subst hk
    rw [if_pos rfl, List.length_singleton, ← List.length_pos_iff, and_iff_right rfl]
    omega
  · simp [hk, Ne.symm hk]

/-- A name has one item when it is the first one, or while no other is met. -/
theorem itemsOf_concat_eq_singleton (t : String) :
    itemsOf (met ++ [(name, type_)]) k = [(k, t)] ↔
      if k = name then itemsOf met name = [] ∧ t = type_ else itemsOf met k = [(k, t)] := by
  rw [itemsOf_concat]
  split
  · rename_i hk
    subst hk
    rw [if_pos rfl]
    cases itemsOf met name with
    | nil => simp [eq_comm]
    | cons key rest => simp
  · rename_i hk
    rw [if_neg (Ne.symm hk), List.append_nil]

theorem typedKeys_concat : typedKeys (met ++ [(name, type_)]) =
    typedKeys met ++ newTypedKeys met (typedKeys met) name type_ := by
  have hmet : ∀ (rest : List (String × String)) (s : List (String × String) × List String),
      (rest.foldl (fun (s : List (String × String) × List String) key =>
        (s.1 ++ [key], s.2 ++ newTypedKeys s.1 s.2 key.1 key.2)) s).1 = s.1 ++ rest := by
    intro rest
    induction rest with
    | nil => exact fun s => (List.append_nil s.1).symm
    | cons key rest ih =>
      intro s
      rw [List.foldl_cons, ih, List.append_assoc]
      rfl
  unfold typedKeys
  rw [List.foldl_append, List.foldl_cons, List.foldl_nil, hmet, List.nil_append]

variable {met} {k}

theorem mem_plainNames : k ∈ plainNames met ↔ (itemsOf met k).length = 1 := by
  unfold plainNames
  rw [List.mem_filter, decide_eq_true_eq, and_iff_right_iff_imp]
  intro hone
  obtain ⟨key, hkey⟩ := List.exists_mem_of_length_pos (hone.symm ▸ Nat.one_pos)
  obtain ⟨hmem, hname⟩ := List.mem_filter.1 hkey
  rw [decide_eq_true_eq] at hname
  exact hname ▸ List.mem_map_of_mem hmem

theorem mem_plainNames_concat : k ∈ plainNames (met ++ [(name, type_)]) ↔
    if name = k then itemsOf met k = [] else k ∈ plainNames met := by
  rw [mem_plainNames, itemsOf_concat, List.length_append]
  split
  · rw [List.length_singleton, ← List.length_eq_zero_iff]
    omega
  · rw [List.length_nil, mem_plainNames, Nat.add_zero]

/-- The key made for an item is longer than its name. -/
theorem uniqueStringForKey_spec (keys : List String) :
    uniqueStringForKey name type_ keys ∉ keys ∧
      name.length < (uniqueStringForKey name type_ keys).length := by
  obtain ⟨i, hpos, hkey, hfresh, -⟩ := fresh_spec (bracketed_injective name type_) keys 1
  refine ⟨hfresh, ?_⟩
  rw [uniqueStringForKey, hkey, length_bracketed]
  omega

theorem uniqueStringForKey_congr {keys keys' : List String} (h : ∀ k, k ∈ keys ↔ k ∈ keys') :
    uniqueStringForKey name type_ keys = uniqueStringForKey name type_ keys' :=
  fresh_congr _ h 1

/-- A key made for an item is neither its name nor the name of one other item. -/
theorem not_mem_plainNames_of_newTypedKey {typed : List String}
    (h : k ∈ newTypedKeys met typed name type_) :
    k ∉ plainNames (met ++ [(name, type_)]) := by
  have hnew : ∀ keys, (∀ k' ∈ plainNames met, k' ≠ name → k' ∈ keys) → ∀ t,
      uniqueStringForKey name t keys ∉ plainNames (met ++ [(name, type_)]) := by
    intro keys hkeys t hmem
    obtain ⟨hfresh, hlength⟩ := uniqueStringForKey_spec name t keys
    have hne : name ≠ uniqueStringForKey name t keys := fun heq => by
      rw [← heq] at hlength
      exact lt_irrefl _ hlength
    rw [mem_plainNames_concat, if_neg hne] at hmem
    exact hfresh (hkeys _ hmem hne.symm)
  unfold newTypedKeys at h
  split at h
  · cases h
  · rename_i oldType _
    rcases List.mem_pair.1 h with rfl | rfl
    · exact hnew _ (fun k' hk' hne => List.mem_append_left _ (by simpa [hne] using hk')) _
    · exact hnew _ (fun k' hk' hne => List.mem_cons_of_mem _
        (List.mem_append_left _ (by simpa [hne] using hk'))) _
  · rw [List.mem_singleton.1 h]
    exact hnew _ (fun k' hk' _ => List.mem_append_left _ hk') _

/-- A name of one item is no key with a type, as long as none is one when it is first met. -/
theorem not_mem_plainNames_concat (hmet : ∀ k ∈ typedKeys met, k ∉ plainNames met)
    (hfirst : itemsOf met name = [] → name ∉ typedKeys met)
    (hk : k ∈ typedKeys (met ++ [(name, type_)])) :
    k ∉ plainNames (met ++ [(name, type_)]) := by
  rw [typedKeys_concat, List.mem_append] at hk
  rcases hk with hk | hk
  · rw [mem_plainNames_concat]
    split
    · rename_i heq
      subst heq
      exact fun hnil => hfirst hnil hk
    · exact hmet k hk
  · exact not_mem_plainNames_of_newTypedKey name type_ hk

theorem newTypedKeys_of_overloaded (typed : List String) (h : 2 ≤ (itemsOf met name).length) :
    newTypedKeys met typed name type_ =
      [uniqueStringForKey name type_ (plainNames met ++ typed)] := by
  unfold newTypedKeys
  split
  · rename_i heq
    rw [heq] at h
    exact absurd h (by decide)
  · rename_i heq
    rw [heq] at h
    exact absurd h (Nat.not_succ_le_self 1)
  · rfl

theorem noNameIsTypedKeyAfter_cons (keys : List (String × String)) :
    NoNameIsTypedKeyAfter met ((name, type_) :: keys) ↔
      (itemsOf met name = [] → name ∉ typedKeys met) ∧
        NoNameIsTypedKeyAfter (met ++ [(name, type_)]) keys := by
  constructor
  · intro h
    refine ⟨fun hfirst => ?_, fun more name' type' rest heq => ?_⟩
    · have hnow := h [] name type_ keys rfl
      rw [List.append_nil] at hnow
      exact hnow hfirst
    · rw [List.append_assoc]
      exact h ((name, type_) :: more) name' type' rest (congrArg (List.cons _) heq)
  · rintro ⟨hnow, hlater⟩ more name' type' rest heq
    cases more with
    | nil =>
      cases heq
      rwa [List.append_nil]
    | cons key more =>
      obtain ⟨hkey, hrest⟩ := List.cons.inj heq
      subst hkey
      have h := hlater more name' type' rest hrest
      rwa [List.append_assoc] at h

end TypedKeys

/-! ## One item -/

/-- The variables of `stringify_metadata_keys` after the items met, whose values are `values`. -/
structure StringifiedKeys.Tracks (s : StringifiedKeys α) (met : List (String × String))
    (values : List α) : Prop where
  mem_ambiguousNames : ∀ name, name ∈ s.ambiguousNames ↔ 2 ≤ (itemsOf met name).length
  lookup_removedTypes : ∀ name type_, s.removedTypes.lookup name = some type_ ↔
    itemsOf met name = [(name, type_)]
  mem_filtered : ∀ k, k ∈ s.filtered ↔ k ∈ plainNames met ∨ k ∈ typedKeys met
  not_plain : ∀ k ∈ typedKeys met, k ∉ plainNames met
  values_perm : s.filtered.values.Perm values

namespace StringifiedKeys.Tracks

variable {s : StringifiedKeys α} {met : List (String × String)} {values : List α}
  {name type_ : String} {value : α}

theorem empty : (⟨∅, ∅, ∅⟩ : StringifiedKeys α).Tracks [] [] where
  mem_ambiguousNames name := by simp [itemsOf]
  lookup_removedTypes name type_ := by simp [itemsOf]
  mem_filtered k := by simp [plainNames, typedKeys]
  not_plain k hk := by simp [typedKeys] at hk
  values_perm := List.Perm.nil

theorem itemsOf_eq_of_length (h : (itemsOf met name).length = 1) :
    ∃ oldType, itemsOf met name = [(name, oldType)] := by
  obtain ⟨key, hkey⟩ := List.length_eq_one_iff.1 h
  have hmem : key ∈ itemsOf met name := hkey ▸ List.mem_singleton_self key
  have hname := of_decide_eq_true (List.mem_filter.1 hmem).2
  exact ⟨key.2, hkey.trans (congrArg (fun n => [(n, key.2)]) hname)⟩

theorem not_mem_ambiguousNames (h : s.Tracks met values) (hlength : (itemsOf met name).length < 2) :
    name ∉ s.ambiguousNames := by
  rw [h.mem_ambiguousNames]
  omega

theorem not_mem_removedTypes (h : s.Tracks met values) (hfirst : itemsOf met name = []) :
    name ∉ s.removedTypes := by
  rw [← AList.lookup_eq_none]
  cases hlookup : s.removedTypes.lookup name with
  | none => rfl
  | some t =>
    rw [h.lookup_removedTypes, hfirst] at hlookup
    cases hlookup

/-- The first item of a name keeps the name as its key. -/
theorem addItem_of_first (h : s.Tracks met values) (hfirst : itemsOf met name = [])
    (hname : name ∉ typedKeys met) :
    ∃ s', s.addItem name type_ value = .ok s' ∧
      s'.Tracks (met ++ [(name, type_)]) (values ++ [value]) := by
  have hambiguous : name ∉ s.ambiguousNames := h.not_mem_ambiguousNames (by simp [hfirst])
  have hfiltered : name ∉ s.filtered := by
    rw [h.mem_filtered, mem_plainNames, hfirst]
    rintro (hone | htyped)
    · cases hone
    · exact hname htyped
  have hremoved : name ∉ s.removedTypes := h.not_mem_removedTypes hfirst
  have htyped : typedKeys (met ++ [(name, type_)]) = typedKeys met := by
    rw [typedKeys_concat, newTypedKeys, hfirst, List.append_nil]
  refine ⟨_, by rw [addItem, if_neg hambiguous, if_neg hfiltered], ?_, ?_, ?_, ?_, ?_⟩
  · intro n
    rw [h.mem_ambiguousNames, two_le_length_itemsOf_concat]
    simp [hfirst]
  · intro n t
    rw [Dict.lookup_setItem_of_notMem hremoved, itemsOf_concat_eq_singleton]
    split
    · simp [hfirst, eq_comm]
    · exact h.lookup_removedTypes n t
  · intro k
    rw [Dict.mem_setItem_of_notMem hfiltered, h.mem_filtered, htyped, mem_plainNames_concat]
    by_cases hk : name = k
    · subst hk
      simp [hfirst]
    · rw [if_neg hk]
      simp [Ne.symm hk]
  · exact fun k hk => not_mem_plainNames_concat name type_ h.not_plain (fun _ => hname) hk
  · rw [Dict.values_setItem_of_notMem hfiltered]
    exact h.values_perm.append_right [value]

/-- The first item of a name that is there as a key with a type raises: no type was removed from
that key. -/
theorem addItem_of_typedKey (h : s.Tracks met values) (hfirst : itemsOf met name = [])
    (hname : name ∈ typedKeys met) : s.addItem name type_ value = .error ⟨name⟩ := by
  have hambiguous : name ∉ s.ambiguousNames := h.not_mem_ambiguousNames (by simp [hfirst])
  have hremoved : s.removedTypes.pop name = none :=
    Dict.pop_eq_none_iff.2 (h.not_mem_removedTypes hfirst)
  rw [addItem, if_neg hambiguous, if_pos ((h.mem_filtered name).2 (.inr hname)), hremoved]
  cases s.filtered.pop name with
  | none => rfl
  | some popped => rfl

/-- The keys that are left when a name is popped. -/
theorem mem_erase (h : s.Tracks met values) (huntyped : name ∉ typedKeys met) (k : String) :
    k ∈ s.filtered.erase name ↔
      k ∈ (plainNames met).filter (fun k => k ≠ name) ++ typedKeys met := by
  rw [AList.mem_erase, h.mem_filtered, List.mem_append, List.mem_filter, decide_eq_true_eq]
  constructor
  · rintro ⟨hne, hk | hk⟩
    · exact .inl ⟨hk, hne⟩
    · exact .inr hk
  · rintro (⟨hk, hne⟩ | hk)
    · exact ⟨hne, .inl hk⟩
    · exact ⟨fun heq => huntyped (heq ▸ hk), .inr hk⟩

/-- The second item of a name moves the first one to a key with its type. -/
theorem addItem_of_second (h : s.Tracks met values) {oldType : String}
    (hsecond : itemsOf met name = [(name, oldType)]) :
    ∃ s', s.addItem name type_ value = .ok s' ∧
      s'.Tracks (met ++ [(name, type_)]) (values ++ [value]) := by
  have hambiguous : name ∉ s.ambiguousNames := h.not_mem_ambiguousNames (by simp [hsecond])
  have hplain : name ∈ plainNames met := by
    rw [mem_plainNames, hsecond]
    rfl
  have hfiltered : name ∈ s.filtered := (h.mem_filtered name).2 (.inl hplain)
  have huntyped : name ∉ typedKeys met := fun hmem => h.not_plain name hmem hplain
  obtain ⟨oldValue, hvalue⟩ := Option.isSome_iff_exists.1 (AList.lookup_isSome.2 hfiltered)
  have hpop : s.filtered.pop name = some (oldValue, s.filtered.erase name) :=
    Dict.pop_eq_some_iff.2 ⟨hvalue, rfl⟩
  have hpopType : s.removedTypes.pop name = some (oldType, s.removedTypes.erase name) :=
    Dict.pop_eq_some_iff.2 ⟨(h.lookup_removedTypes name oldType).2 hsecond, rfl⟩
  -- what is left of the dictionary, and the keys made for the two items
  let left : Dict String α := s.filtered.erase name
  let used := (plainNames met).filter (fun k => k ≠ name) ++ typedKeys met
  have hused : ∀ k, k ∈ left.keys ↔ k ∈ used := fun k =>
    (AList.mem_keys (s := left)).symm.trans (h.mem_erase huntyped k)
  let oldKey := uniqueStringForKey name oldType left.keys
  have holdKey : oldKey ∉ left := (uniqueStringForKey_spec name oldType left.keys).1
  let moved := left.setItem oldKey oldValue
  have hmoved : moved.keys = left.keys ++ [oldKey] := Dict.keys_setItem_of_notMem holdKey
  let key := uniqueStringForKey name type_ moved.keys
  have hkey : key ∉ moved := (uniqueStringForKey_spec name type_ moved.keys).1
  have htyped : typedKeys (met ++ [(name, type_)]) = typedKeys met ++ [oldKey, key] := by
    have hold : oldKey = uniqueStringForKey name oldType used :=
      uniqueStringForKey_congr name oldType hused
    have hnew : key = uniqueStringForKey name type_ (oldKey :: used) := by
      refine uniqueStringForKey_congr name type_ fun k => ?_
      rw [hmoved, List.mem_append, List.mem_singleton, List.mem_cons, hused, or_comm]
    rw [typedKeys_concat, newTypedKeys, hsecond, hnew, hold]
  refine ⟨⟨moved.setItem key value, insert name s.ambiguousNames, s.removedTypes.erase name⟩, ?_,
    ?_, ?_, ?_, ?_, ?_⟩
  · rw [addItem, if_neg hambiguous, if_pos hfiltered, hpop, hpopType]
  · intro n
    rw [Finset.mem_insert, h.mem_ambiguousNames, two_le_length_itemsOf_concat, or_comm]
    simp [hsecond]
  · intro n t
    rw [itemsOf_concat_eq_singleton]
    split
    · rename_i hn
      subst hn
      rw [AList.lookup_erase, hsecond]
      simp
    · rename_i hn
      rw [AList.lookup_erase_ne hn]
      exact h.lookup_removedTypes n t
  · intro k
    have hleft := hused k
    rw [← AList.mem_keys, List.mem_append, List.mem_filter, decide_eq_true_eq] at hleft
    rw [Dict.mem_setItem_of_notMem hkey, Dict.mem_setItem_of_notMem holdKey, hleft, htyped,
      mem_plainNames_concat, List.mem_append, List.mem_pair]
    by_cases hk : name = k
    · subst hk
      simp [hsecond, or_assoc]
    · simp [hk, Ne.symm hk, or_assoc]
  · exact fun k hk => not_mem_plainNames_concat name type_ h.not_plain (fun _ => huntyped) hk
  · show (moved.setItem key value).values.Perm _
    rw [Dict.values_setItem_of_notMem hkey, Dict.values_setItem_of_notMem holdKey]
    refine List.Perm.append_right [value] ?_
    have hperm := (Dict.values_perm_of_lookup hvalue).symm.trans h.values_perm
    exact List.perm_append_singleton _ _ |>.trans hperm

/-- The items of an overloaded name have keys with types. -/
theorem addItem_of_overloaded (h : s.Tracks met values)
    (hoverloaded : 2 ≤ (itemsOf met name).length) :
    ∃ s', s.addItem name type_ value = .ok s' ∧
      s'.Tracks (met ++ [(name, type_)]) (values ++ [value]) := by
  have hambiguous : name ∈ s.ambiguousNames := (h.mem_ambiguousNames name).2 hoverloaded
  have hne : itemsOf met name ≠ [] := by
    rw [← List.length_pos_iff]
    omega
  have hplain : name ∉ plainNames met := by
    rw [mem_plainNames]
    omega
  let key := uniqueStringForKey name type_ s.filtered.keys
  have hkey : key ∉ s.filtered := (uniqueStringForKey_spec name type_ s.filtered.keys).1
  have htyped : typedKeys (met ++ [(name, type_)]) = typedKeys met ++ [key] := by
    have hnew : key = uniqueStringForKey name type_ (plainNames met ++ typedKeys met) := by
      refine uniqueStringForKey_congr name type_ fun k => ?_
      rw [← AList.mem_keys, h.mem_filtered, List.mem_append]
    rw [typedKeys_concat, newTypedKeys_of_overloaded name type_ _ hoverloaded, hnew]
  refine ⟨{ s with filtered := s.filtered.setItem key value }, ?_, ?_, ?_, ?_, ?_, ?_⟩
  · rw [addItem, if_pos hambiguous]
  · intro n
    rw [h.mem_ambiguousNames, two_le_length_itemsOf_concat, iff_self_or]
    rintro ⟨rfl, -⟩
    exact hoverloaded
  · intro n t
    rw [h.lookup_removedTypes, itemsOf_concat_eq_singleton]
    split
    · rename_i hn
      subst hn
      refine iff_of_false (fun heq => ?_) fun ⟨hnil, _⟩ => hne hnil
      rw [heq] at hoverloaded
      exact absurd hoverloaded (Nat.not_succ_le_self 1)
    · rfl
  · intro k
    rw [Dict.mem_setItem_of_notMem hkey, h.mem_filtered, htyped, mem_plainNames_concat,
      List.mem_append, List.mem_singleton]
    by_cases hk : name = k
    · subst hk
      simp [hne, hplain]
    · simp [hk, or_assoc]
  · exact fun k hk =>
      not_mem_plainNames_concat name type_ h.not_plain (fun hnil => absurd hnil hne) hk
  · show (s.filtered.setItem key value).values.Perm _
    rw [Dict.values_setItem_of_notMem hkey]
    exact h.values_perm.append_right [value]

/-- **One item raises exactly when its name is met for the first time and is a key with a type.** -/
theorem addItem (h : s.Tracks met values) (name type_ : String) (value : α) :
    (itemsOf met name = [] ∧ name ∈ typedKeys met ∧
        s.addItem name type_ value = .error ⟨name⟩) ∨
      (itemsOf met name = [] → name ∉ typedKeys met) ∧
        ∃ s', s.addItem name type_ value = .ok s' ∧
          s'.Tracks (met ++ [(name, type_)]) (values ++ [value]) := by
  rcases Nat.lt_trichotomy (itemsOf met name).length 1 with hlength | hlength | hlength
  · have hfirst : itemsOf met name = [] := List.length_eq_zero_iff.1 (by omega)
    by_cases hname : name ∈ typedKeys met
    · exact .inl ⟨hfirst, hname, h.addItem_of_typedKey hfirst hname⟩
    · exact .inr ⟨fun _ => hname, h.addItem_of_first hfirst hname⟩
  · obtain ⟨oldType, hsecond⟩ := itemsOf_eq_of_length hlength
    exact .inr ⟨fun hfirst => by simp [hfirst] at hsecond, h.addItem_of_second hsecond⟩
  · exact .inr ⟨fun hfirst => by simp [hfirst] at hlength, h.addItem_of_overloaded hlength⟩

/-- **The loop raises exactly when a name is met for the first time and is a key with a type.** -/
theorem foldlM_addItem (h : s.Tracks met values)
    (items : List (Sigma fun _ : String × String => α)) :
    let loop := items.foldlM (fun (s : StringifiedKeys α) item =>
      s.addItem item.1.1 item.1.2 item.2) s
    (NoNameIsTypedKeyAfter met items.keys ∧ ∃ s', loop = .ok s' ∧
        s'.Tracks (met ++ items.keys) (values ++ items.map Sigma.snd)) ∨
      ¬NoNameIsTypedKeyAfter met items.keys ∧ ∃ e, loop = .error e := by
  induction items generalizing s met values with
  | nil =>
    refine .inl ⟨fun more name type_ rest heq => ?_, s, rfl, ?_⟩
    · cases more with
      | nil => cases heq
      | cons key more => cases heq
    · simpa using h
  | cons item items ih =>
    obtain ⟨⟨name, type_⟩, value⟩ := item
    simp only [List.foldlM_cons, List.keys_cons, List.map_cons, noNameIsTypedKeyAfter_cons]
    rcases h.addItem name type_ value with
      ⟨hfirst, hname, hraise⟩ | ⟨hnow, s', hok, htracks⟩
    · rw [hraise]
      exact .inr ⟨fun hcond => hcond.1 hfirst hname, ⟨name⟩, rfl⟩
    · rw [hok]
      rcases ih htracks with ⟨hlater, s'', hloop, htracks'⟩ | ⟨hlater, e, hloop⟩
      · refine .inl ⟨⟨hnow, hlater⟩, s'', hloop, ?_⟩
        rwa [List.append_assoc, List.append_assoc] at htracks'
      · exact .inr ⟨fun hcond => hlater hcond.2, e, hloop⟩

end StringifiedKeys.Tracks

/-! ## The whole dictionary -/

/-- **When metadata keys lose nothing**: the dictionary is returned, with as many items and the
values of its items, exactly when no name is met for the first time when there is a key with a type
equal to it. -/
theorem stringifyMetadataKeys_lossless_iff (metadata : Dict (String × String) α) :
    (∃ filtered, stringifyMetadataKeys metadata = .ok filtered ∧
        filtered.entries.length = metadata.entries.length ∧
        filtered.values.Perm metadata.values) ↔ NoNameIsTypedKey metadata.keys := by
  unfold stringifyMetadataKeys
  rcases StringifiedKeys.Tracks.empty.foldlM_addItem metadata.entries with
    ⟨hcond, s, hloop, htracks⟩ | ⟨hcond, e, hloop⟩
  · refine iff_of_true ⟨s.filtered, by rw [hloop]; rfl, ?_, htracks.values_perm⟩ hcond
    have hlength := htracks.values_perm.length_eq
    simpa [Dict.values] using hlength
  · refine iff_of_false ?_ hcond
    rintro ⟨filtered, hok, -⟩
    rw [hloop] at hok
    cases hok

/-! ## Names of one item -/

/-- A name that is new stays as it is. -/
theorem foldlM_addItem_of_nodup {items : List (Sigma fun _ : String × String => α)}
    (hnodup : (items.map fun item => item.1.1).Nodup) {s : StringifiedKeys α}
    (hambiguous : s.ambiguousNames = ∅) (hnew : ∀ item ∈ items, item.1.1 ∉ s.filtered) :
    ∃ s', items.foldlM (fun (s : StringifiedKeys α) item =>
        s.addItem item.1.1 item.1.2 item.2) s = .ok s' ∧
      ∀ name value, s'.filtered.lookup name = some value ↔
        s.filtered.lookup name = some value ∨ ∃ type_, ⟨(name, type_), value⟩ ∈ items := by
  induction items generalizing s with
  | nil => exact ⟨s, rfl, fun name value => by simp⟩
  | cons item items ih =>
    obtain ⟨⟨name, type_⟩, value⟩ := item
    rw [List.map_cons, List.nodup_cons] at hnodup
    have hname : name ∉ s.filtered := hnew _ List.mem_cons_self
    let added : StringifiedKeys α := { s with
      filtered := s.filtered.setItem name value
      removedTypes := s.removedTypes.setItem name type_ }
    have hadd : s.addItem name type_ value = .ok added := by
      have hclear : name ∉ s.ambiguousNames := hambiguous ▸ Finset.notMem_empty name
      rw [StringifiedKeys.addItem, if_neg hclear, if_neg hname]
    have hrest : ∀ item ∈ items, item.1.1 ∉ added.filtered := by
      intro item hitem hmem
      rcases (Dict.mem_setItem_of_notMem hname).1 hmem with hmem | heq
      · exact hnew item (List.mem_cons_of_mem _ hitem) hmem
      · exact hnodup.1 (List.mem_map.2 ⟨item, hitem, heq⟩)
    obtain ⟨s', hloop, hlookup⟩ := ih hnodup.2 (s := added) hambiguous hrest
    refine ⟨s', ?_, fun name' value' => ?_⟩
    · rw [List.foldlM_cons, hadd]
      exact hloop
    · have hset : added.filtered.lookup name' =
          if name' = name then some value else s.filtered.lookup name' :=
        Dict.lookup_setItem
      rw [hlookup, hset]
      have hnone : s.filtered.lookup name = none := AList.lookup_eq_none.2 hname
      split
      · rename_i heq
        subst heq
        rw [hnone, Option.some.injEq]
        constructor
        · rintro (rfl | ⟨type', hmem⟩)
          · exact .inr ⟨type_, List.mem_cons_self⟩
          · exact .inr ⟨type', List.mem_cons_of_mem _ hmem⟩
        · rintro (hnone | ⟨type', hmem⟩)
          · cases hnone
          · rcases List.mem_cons.1 hmem with heq | hmem
            · cases heq
              exact .inl rfl
            · exact .inr ⟨type', hmem⟩
      · rename_i hne
        refine or_congr_right (exists_congr fun type' => ?_)
        rw [List.mem_cons, iff_or_self]
        intro heq
        cases heq
        exact absurd rfl hne

/-- **Where no name is overloaded, every item has its name for a key.** -/
theorem exists_stringifyMetadataKeys_of_nodup {metadata : Dict (String × String) α}
    (h : (metadata.keys.map Prod.fst).Nodup) :
    ∃ filtered, stringifyMetadataKeys metadata = .ok filtered ∧
      ∀ name value, filtered.lookup name = some value ↔
        ∃ type_, metadata.lookup (name, type_) = some value := by
  have hnodup : (metadata.entries.map fun item => item.1.1).Nodup := by
    have hkeys : metadata.keys.map Prod.fst = metadata.entries.map fun item => item.1.1 :=
      List.map_map
    rwa [hkeys] at h
  obtain ⟨s, hloop, hlookup⟩ := foldlM_addItem_of_nodup hnodup
    (s := ⟨∅, ∅, ∅⟩) rfl fun _ _ => AList.notMem_empty _
  refine ⟨s.filtered, ?_, fun name value => ?_⟩
  · unfold stringifyMetadataKeys
    rw [hloop]
    rfl
  · rw [hlookup]
    have hnone : (∅ : Dict String α).lookup name = none := AList.lookup_empty name
    rw [hnone]
    simp only [reduceCtorEq, false_or]
    exact exists_congr fun type_ => AList.mem_lookup_iff.symm

/-- Met first, the same name pushes the generated key one bracket further. -/
example :
    let d : Dict (String × String) ℕ := {
      entries := [⟨("acceleration<int>", "int"), 2⟩, ⟨("acceleration", "int"), 3⟩,
        ⟨("acceleration", "float"), 4⟩, ⟨("other", "int"), 5⟩]
      nodupKeys := show List.Nodup _ by decide +kernel }
    (stringifyMetadataKeys d).map AList.keys =
      .ok ["acceleration<int>", "acceleration<<int>>", "acceleration<float>", "other"] := by
  decide +kernel

/-- A name that is the key of an item with the same type. -/
def keyAsName : Dict (String × String) ℕ where
  entries := [⟨("acceleration", "int"), 3⟩, ⟨("acceleration", "float"), 4⟩,
    ⟨("acceleration<int>", "int"), 2⟩]
  nodupKeys := show List.Nodup _ by decide +kernel

/-- The third item raises: its name is the key that the first one has been moved to. -/
theorem not_stringifyMetadataKeys_lossless :
    ¬∀ (α : Type) (metadata : Dict (String × String) α), ∃ filtered,
      stringifyMetadataKeys metadata = .ok filtered ∧
        filtered.entries.length = metadata.entries.length ∧
        filtered.values.Perm metadata.values := by
  intro h
  obtain ⟨filtered, hok, -⟩ := h ℕ keyAsName
  have hraises : stringifyMetadataKeys keyAsName = .error ⟨"acceleration<int>"⟩ := by
    decide +kernel
  rw [hraises] at hok
  cases hok

end Pyvrs
