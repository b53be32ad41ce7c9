import Mathlib.Logic.Function.Basic

/-!
# Caches of one entry a key

A cache holds at most one entry a key, computed for some parameter. It is coherent with a function
of keys and parameters if every entry holds what the function gives for the entry's parameter. A
cache stays coherent when an entry is computed and put in (`Coherent.update`), and when the function
changes at one key, whose entry is dropped (`Coherent.invalidate`). What a coherent cache answers,
computing what it does not hold for the parameter asked for, is what the function gives
(`Coherent.lookup`).
-/

namespace Foundations

variable {κ π ε ν : Type*}

/-- The accessors of an entry: the parameter that it was computed for, and the value. -/
structure CacheEntry (ε π ν : Type*) where
  param : ε → π
  value : ε → ν

namespace CacheEntry

variable (entry : CacheEntry ε π ν) {cache : κ → Option ε} {f f' : κ → π → ν}

/-- Every entry of the cache holds the value of the function. -/
def Coherent (cache : κ → Option ε) (f : κ → π → ν) : Prop :=
  ∀ k e, cache k = some e → entry.value e = f k (entry.param e)

/-- The value held for a key and a parameter, or computed. -/
def lookup [DecidableEq π] (cache : κ → Option ε) (f : κ → π → ν) (k : κ) (p : π) : ν :=
  match cache k with
  | some e => if entry.param e = p then entry.value e else f k p
  | none => f k p

variable {entry}

theorem coherent_empty : entry.Coherent (fun _ => none) f := fun _ _ => nofun

/-- **A coherent cache answers as the function does.** -/
theorem Coherent.lookup [DecidableEq π] (h : entry.Coherent cache f) (k : κ) (p : π) :
    entry.lookup cache f k p = f k p := by
  unfold CacheEntry.lookup
  cases hk : cache k with
  | none => rfl
  | some e =>
    by_cases hp : entry.param e = p
    · subst hp
      simp only [if_true]
      exact h k e hk
    · simp only [if_neg hp]

section Update

variable [DecidableEq κ]

theorem Coherent.update (h : entry.Coherent cache f) {k : κ} {e : ε}
    (he : entry.value e = f k (entry.param e)) :
    entry.Coherent (Function.update cache k (some e)) f := by
  intro k' e' hk'
  by_cases hk : k' = k
  · subst hk
    rw [Function.update_self, Option.some.injEq] at hk'
    rwa [← hk']
  · rw [Function.update_of_ne hk] at hk'
    exact h k' e' hk'

theorem Coherent.invalidate (h : entry.Coherent cache f) {k : κ}
    (hf : ∀ k' ≠ k, f' k' = f k') : entry.Coherent (Function.update cache k none) f' := by
  intro k' e' hk'
  by_cases hk : k' = k
  · subst hk
    rw [Function.update_self] at hk'
    cases hk'
  · rw [Function.update_of_ne hk] at hk'
    rw [hf k' hk]
    exact h k' e' hk'

end Update

end CacheEntry

end Foundations
