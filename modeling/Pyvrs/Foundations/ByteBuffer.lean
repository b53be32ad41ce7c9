import Mathlib.Data.Nat.Bitwise
import Mathlib.Data.Nat.Digits.Defs
import Mathlib.Data.List.Basic

/-!
# Byte buffers

A buffer of bytes that is read and written at offsets, where an access outside of it yields nothing
(`load`, `store`). A load sees the last store to its bytes and no store elsewhere (`load_of_store`,
`load_of_store_of_disjoint`); swapping a word turns it from one endianness to the other
(`load_of_swapWord`), and one more byte of sign keeps a number in two's complement
(`signedLittleEndian_concat`). Loops over such accesses have an invariant rule
(`foldlM_range_rule`) and yield something only if every access of theirs does (`foldlM_eq_some`).
-/

namespace Foundations

/-! ## Loops -/

section Loops

variable {σ α : Type*} {f : σ → α → Option σ}

/-- If a loop yields something, so does each of its steps, from a state that has the invariant. -/
theorem foldlM_eq_some {I : σ → Prop} (step : ∀ s a s', f s a = some s' → I s → I s') {as : List α}
    {s s' : σ} (hs : I s) (h : as.foldlM f s = some s') :
    I s' ∧ ∀ a ∈ as, ∃ s₁ s₂, I s₁ ∧ f s₁ a = some s₂ := by
  induction as generalizing s with
  | nil =>
    cases h
    exact ⟨hs, fun a ha => absurd ha List.not_mem_nil⟩
  | cons a as ih =>
    rw [List.foldlM_cons] at h
    obtain ⟨s₁, hfirst, hrest⟩ := Option.bind_eq_some_iff.1 h
    obtain ⟨hs', hall⟩ := ih (step s a s₁ hfirst hs) hrest
    refine ⟨hs', fun a' ha' => ?_⟩
    rcases List.mem_cons.1 ha' with rfl | ha'
    · exact ⟨s, s₁, hs, hfirst⟩
    · exact hall a' ha'

/-- **The rule for counted loops**: an invariant that every step establishes for the next one. -/
theorem foldlM_range_rule {f : σ → ℕ → Option σ} {I : ℕ → σ → Prop} {n : ℕ}
    (step : ∀ i < n, ∀ s, I i s → ∃ s', f s i = some s' ∧ I (i + 1) s') {s : σ} (hs : I 0 s) :
    ∃ s', (List.range n).foldlM f s = some s' ∧ I n s' := by
  induction n with
  | zero => exact ⟨s, rfl, hs⟩
  | succ n ih =>
    obtain ⟨s₁, hloop, hs₁⟩ := ih fun i hi => step i (hi.trans (Nat.lt_succ_self n))
    obtain ⟨s', hlast, hs'⟩ := step n (Nat.lt_succ_self n) s₁ hs₁
    refine ⟨s', ?_, hs'⟩
    rw [List.range_succ, List.foldlM_append, hloop]
    show [n].foldlM f s₁ = some s'
    rw [List.foldlM_cons, hlast]
    rfl

end Loops

/-! ## Accesses -/

variable {m m' : List UInt8} {offset offset' size size' : ℕ} {word : List UInt8}

/-- The bytes at an offset, if they are all there. -/
def load (m : List UInt8) (offset size : ℕ) : Option (List UInt8) :=
  if offset + size ≤ m.length then some ((m.drop offset).take size) else none

/-- The buffer with other bytes at an offset, if there is room for them. -/
def store (m : List UInt8) (offset : ℕ) (word : List UInt8) : Option (List UInt8) :=
  if offset + word.length ≤ m.length then
    some (m.take offset ++ word ++ m.drop (offset + word.length))
  else none

theorem load_eq_some_iff :
    load m offset size = some word ↔
      offset + size ≤ m.length ∧ word = (m.drop offset).take size := by
  unfold load
  split
  · rename_i hle
    simp [hle, eq_comm]
  · rename_i hle
    simp [hle]

theorem isSome_load (h : offset + size ≤ m.length) : (load m offset size).isSome := by
  rw [load, if_pos h]
  rfl

theorem length_of_load (h : load m offset size = some word) : word.length = size := by
  obtain ⟨hle, rfl⟩ := load_eq_some_iff.1 h
  rw [List.length_take, List.length_drop]
  omega

theorem store_eq_some_iff :
    store m offset word = some m' ↔ offset + word.length ≤ m.length ∧
      m' = m.take offset ++ word ++ m.drop (offset + word.length) := by
  unfold store
  split
  · rename_i hle
    simp [hle, eq_comm]
  · rename_i hle
    simp [hle]

theorem exists_store (h : offset + word.length ≤ m.length) : ∃ m', store m offset word = some m' :=
  ⟨_, store_eq_some_iff.2 ⟨h, rfl⟩⟩

/-- A store keeps the length of the buffer. -/
theorem length_of_store (h : store m offset word = some m') : m'.length = m.length := by
  obtain ⟨hle, rfl⟩ := store_eq_some_iff.1 h
  simp only [List.length_append, List.length_take, List.length_drop]
  omega

/-- **A load sees what was stored.** -/
theorem load_of_store (h : store m offset word = some m') :
    load m' offset word.length = some word := by
  have hlength := length_of_store h
  obtain ⟨hle, rfl⟩ := store_eq_some_iff.1 h
  rw [load_eq_some_iff, hlength]
  refine ⟨hle, ?_⟩
  have htake : (m.take offset).length = offset := List.length_take_of_le (by omega)
  rw [List.append_assoc, List.drop_left' htake, List.take_left']
  rfl

/-- **A load sees nothing of a store elsewhere.** -/
theorem load_of_store_of_disjoint (h : store m offset word = some m')
    (hdisjoint : offset' + size ≤ offset ∨ offset + word.length ≤ offset') :
    load m' offset' size = load m offset' size := by
  have hlength := length_of_store h
  obtain ⟨hle, rfl⟩ := store_eq_some_iff.1 h
  unfold load
  rw [hlength]
  split
  · rename_i hin
    congr 1
    refine List.ext_getElem? fun i => ?_
    rw [List.getElem?_take, List.getElem?_take]
    split
    · rename_i hi
      rw [List.getElem?_drop, List.getElem?_drop]
      have htake : (m.take offset).length = offset := List.length_take_of_le (by omega)
      rcases hdisjoint with hbefore | hafter
      · rw [List.append_assoc, List.getElem?_append_left (by omega), List.getElem?_take,
          if_pos (by omega)]
      · have hfirst : (m.take offset ++ word).length = offset + word.length := by
          rw [List.length_append, htake]
        rw [List.getElem?_append_right (by omega), List.getElem?_drop, hfirst]
        congr 1
        omega
    · rfl
  · rfl

/-! ## Endianness -/

/-- The number whose bytes these are, the least significant one first. -/
def littleEndian (word : List UInt8) : ℕ := Nat.ofDigits 256 (word.map UInt8.toNat)

/-- The number whose bytes these are, the most significant one first. -/
def bigEndian (word : List UInt8) : ℕ := littleEndian word.reverse

theorem littleEndian_lt (word : List UInt8) : littleEndian word < 256 ^ word.length := by
  have h := Nat.ofDigits_lt_base_pow_length (b := 256) (l := word.map UInt8.toNat) (by omega)
    fun x hx => by
      obtain ⟨b, -, rfl⟩ := List.mem_map.1 hx
      exact b.toNat_lt
  rwa [List.length_map] at h

theorem littleEndian_concat (word : List UInt8) (b : UInt8) :
    littleEndian (word ++ [b]) = littleEndian word + 256 ^ word.length * b.toNat := by
  unfold littleEndian
  rw [List.map_append, Nat.ofDigits_append, List.length_map, List.map_singleton,
    Nat.ofDigits_singleton]

/-- The word at an offset with its bytes in the other order. -/
def swapWord (m : List UInt8) (offset size : ℕ) : Option (List UInt8) :=
  (load m offset size).bind fun word => store m offset word.reverse

theorem swapWord_eq_some_iff :
    swapWord m offset size = some m' ↔
      ∃ word, load m offset size = some word ∧ store m offset word.reverse = some m' :=
  Option.bind_eq_some_iff

theorem length_of_swapWord (h : swapWord m offset size = some m') : m'.length = m.length := by
  obtain ⟨word, -, hstore⟩ := swapWord_eq_some_iff.1 h
  exact length_of_store hstore

theorem le_length_of_swapWord (h : swapWord m offset size = some m') :
    offset + size ≤ m.length := by
  obtain ⟨word, hload, -⟩ := swapWord_eq_some_iff.1 h
  exact (load_eq_some_iff.1 hload).1

theorem exists_swapWord (h : offset + size ≤ m.length) :
    ∃ m', swapWord m offset size = some m' := by
  obtain ⟨word, hload⟩ := Option.isSome_iff_exists.1 (isSome_load h)
  have hroom : offset + word.reverse.length ≤ m.length := by
    rwa [List.length_reverse, length_of_load hload]
  obtain ⟨m', hstore⟩ := exists_store hroom
  exact ⟨m', swapWord_eq_some_iff.2 ⟨word, hload, hstore⟩⟩

/-- **The word swapped has its bytes in the other order.** -/
theorem load_of_swapWord (h : swapWord m offset size = some m') :
    load m' offset size = (load m offset size).map List.reverse := by
  obtain ⟨word, hload, hstore⟩ := swapWord_eq_some_iff.1 h
  have hlength : word.reverse.length = size := by
    rw [List.length_reverse, length_of_load hload]
  have hnew := load_of_store hstore
  rw [hlength] at hnew
  rw [hnew, hload]
  rfl

theorem load_of_swapWord_of_disjoint (h : swapWord m offset size = some m')
    (hdisjoint : offset' + size' ≤ offset ∨ offset + size ≤ offset') :
    load m' offset' size' = load m offset' size' := by
  obtain ⟨word, hload, hstore⟩ := swapWord_eq_some_iff.1 h
  refine load_of_store_of_disjoint hstore ?_
  rwa [List.length_reverse, length_of_load hload]

/-! ## Sign extension -/

/-- The top bit of a byte. -/
theorem and_0x80_ne_zero_iff (b : UInt8) : b &&& 0x80 ≠ 0 ↔ 128 ≤ b.toNat := by
  have hb := b.toNat_lt
  have hand : (b &&& 0x80).toNat = (b.toNat.testBit 7).toNat * 2 ^ 7 := by
    rw [UInt8.toNat_and]
    exact Nat.and_two_pow b.toNat 7
  rw [Ne, ← UInt8.toNat_inj, hand, Nat.testBit_eq_decide_div_mod_eq]
  by_cases h : b.toNat / 2 ^ 7 % 2 = 1
  · simp only [h, decide_true, Bool.toNat_true]
    exact iff_of_true (by decide) (by omega)
  · simp only [h, decide_false, Bool.toNat_false]
    exact iff_of_false (fun hne => hne rfl) (by omega)

/-- The number in two's complement whose bytes these are, the least significant one first. -/
def signedLittleEndian (word : List UInt8) : ℤ := (littleEndian word : ℤ).bmod (256 ^ word.length)

theorem signedLittleEndian_eq (word : List UInt8) :
    signedLittleEndian word = if littleEndian word * 2 < 256 ^ word.length then
      (littleEndian word : ℤ) else littleEndian word - (256 ^ word.length : ℕ) := by
  have hlt := littleEndian_lt word
  unfold signedLittleEndian
  generalize 256 ^ word.length = m at *
  rw [Int.bmod_def, Int.emod_eq_of_lt (by omega) (by omega)]
  split <;> split <;> omega

/-- **Sign extension** by one byte. -/
theorem signedLittleEndian_concat (word : List UInt8) :
    signedLittleEndian (word ++ [if littleEndian word * 2 < 256 ^ word.length then 0 else 0xFF]) =
      signedLittleEndian word := by
  have hlt := littleEndian_lt word
  rw [signedLittleEndian_eq, signedLittleEndian_eq, littleEndian_concat, List.length_append,
    List.length_singleton, Nat.pow_succ]
  generalize 256 ^ word.length = m at *
  by_cases hbottom : littleEndian word * 2 < m
  · simp only [hbottom, if_true]
    rw [show (0 : UInt8).toNat = 0 from rfl, if_pos (by omega)]
    omega
  · simp only [hbottom, if_false]
    rw [show (0xFF : UInt8).toNat = 255 from rfl, if_neg (by omega)]
    push_cast
    omega

/-- The sign of a number shows in the top bit of its last byte. -/
theorem littleEndian_concat_lt_iff (word : List UInt8) (b : UInt8) :
    littleEndian (word ++ [b]) * 2 < 256 ^ (word ++ [b]).length ↔ b &&& 0x80 = 0 := by
  have hlt := littleEndian_lt word
  rw [littleEndian_concat, List.length_append, List.length_singleton, Nat.pow_succ]
  generalize 256 ^ word.length = m at *
  have hb := and_0x80_ne_zero_iff b
  by_cases htop : 128 ≤ b.toNat
  · have := Nat.mul_le_mul_left m htop
    exact iff_of_false (by omega) (hb.2 htop)
  · have := Nat.mul_le_mul_left m (show b.toNat ≤ 127 by omega)
    exact iff_of_true (by omega) (not_not.1 fun hne => htop (hb.1 hne))

end Foundations
