import Mathlib.Data.List.Basic

/-!
# Runs of a machine that answers calls

A machine takes a state and a call to a reply and the next state. Its runs are lists of calls.
The rules here are the ones a development over such a machine uses: what every call preserves
holds at the end of a run (`exec_of_along`), what every call establishes from an invariant holds
along the run (`along_of_invariant`), what some calls set is what the last of them has set
(`read_exec_of_covers`), two machines related step by step answer alike
(`replies_eq_of_simulation`), as do a machine and what is seen of it (`run_map_of_read`), and what
is taken from a list is served in its order (`served_of_dispenser`).
-/

namespace Foundations

/-- A machine: from a state, a call yields a reply and the next state. -/
abbrev Machine (σ κ ρ : Type*) := σ → κ → ρ × σ

namespace Machine

variable {σ τ κ ρ ρ' : Type*} (m : Machine σ κ ρ)

/-- The state after a list of calls. -/
def exec : σ → List κ → σ
  | s, [] => s
  | s, c :: cs => exec (m s c).2 cs

/-- The replies to a list of calls. -/
def replies : σ → List κ → List ρ
  | _, [] => []
  | s, c :: cs => (m s c).1 :: replies (m s c).2 cs

/-- The calls of a run with their replies. -/
def trace : σ → List κ → List (κ × ρ)
  | _, [] => []
  | s, c :: cs => (c, (m s c).1) :: trace (m s c).2 cs

/-- `P` holds of every call of the run and the state the call is made in. -/
def Along (P : σ → κ → Prop) : σ → List κ → Prop
  | _, [] => True
  | s, c :: cs => P s c ∧ Along P (m s c).2 cs

@[simp] theorem exec_nil (s : σ) : m.exec s [] = s := rfl

@[simp] theorem exec_cons (s : σ) (c : κ) (cs : List κ) :
    m.exec s (c :: cs) = m.exec (m s c).2 cs := rfl

@[simp] theorem replies_nil (s : σ) : m.replies s [] = [] := rfl

@[simp] theorem replies_cons (s : σ) (c : κ) (cs : List κ) :
    m.replies s (c :: cs) = (m s c).1 :: m.replies (m s c).2 cs := rfl

@[simp] theorem trace_nil (s : σ) : m.trace s [] = [] := rfl

@[simp] theorem trace_cons (s : σ) (c : κ) (cs : List κ) :
    m.trace s (c :: cs) = (c, (m s c).1) :: m.trace (m s c).2 cs := rfl

@[simp] theorem along_nil (P : σ → κ → Prop) (s : σ) : m.Along P s [] := trivial

@[simp] theorem along_cons (P : σ → κ → Prop) (s : σ) (c : κ) (cs : List κ) :
    m.Along P s (c :: cs) ↔ P s c ∧ m.Along P (m s c).2 cs := Iff.rfl

instance decidableAlong {P : σ → κ → Prop} [∀ s c, Decidable (P s c)] :
    ∀ s cs, Decidable (m.Along P s cs)
  | _, [] => isTrue trivial
  | s, c :: cs =>
    haveI := decidableAlong (P := P) (m s c).2 cs
    inferInstanceAs (Decidable (P s c ∧ m.Along P (m s c).2 cs))

theorem exec_append (s : σ) (cs ds : List κ) :
    m.exec s (cs ++ ds) = m.exec (m.exec s cs) ds := by
  induction cs generalizing s with
  | nil => rfl
  | cons c cs ih => exact ih _

theorem trace_append (s : σ) (cs ds : List κ) :
    m.trace s (cs ++ ds) = m.trace s cs ++ m.trace (m.exec s cs) ds := by
  induction cs generalizing s with
  | nil => rfl
  | cons c cs ih =>
    rw [List.cons_append, trace_cons, trace_cons, ih, exec_cons, List.cons_append]

theorem along_append (P : σ → κ → Prop) (s : σ) (cs ds : List κ) :
    m.Along P s (cs ++ ds) ↔ m.Along P s cs ∧ m.Along P (m.exec s cs) ds := by
  induction cs generalizing s with
  | nil => simp
  | cons c cs ih => simp [ih, and_assoc]

theorem along_and (P Q : σ → κ → Prop) (s : σ) (cs : List κ) :
    m.Along (fun s c => P s c ∧ Q s c) s cs ↔ m.Along P s cs ∧ m.Along Q s cs := by
  induction cs generalizing s with
  | nil => simp
  | cons c cs ih => simp only [along_cons, ih, and_and_and_comm]

variable {m}

/-- **The invariant rule**: what every call allowed by `P` preserves holds after a run of them. -/
theorem exec_of_along {P : σ → κ → Prop} {I : σ → Prop}
    (step : ∀ s c, I s → P s c → I (m s c).2) :
    ∀ (cs : List κ) {s : σ}, I s → m.Along P s cs → I (m.exec s cs)
  | [], _, hs, _ => hs
  | c :: cs, s, hs, h => exec_of_along step cs (step s c hs h.1) h.2

/-- The invariant rule for an invariant that every call preserves. -/
theorem exec_of_invariant {I : σ → Prop} (step : ∀ s c, I s → I (m s c).2) {s : σ} (hs : I s)
    (cs : List κ) : I (m.exec s cs) := by
  induction cs generalizing s with
  | nil => exact hs
  | cons c cs ih => exact ih (step s c hs)

/-- The invariant rule for an invariant that relates the state to what was called and answered, and
that the calls allowed by `P` preserve. -/
theorem exec_trace_of_calls {P : κ → Prop} {I : σ → List (κ × ρ) → Prop}
    (step : ∀ s t c, P c → I s t → I (m s c).2 (t ++ [(c, (m s c).1)])) {cs : List κ}
    (hcs : ∀ c ∈ cs, P c) {s : σ} {t : List (κ × ρ)} (hs : I s t) :
    I (m.exec s cs) (t ++ m.trace s cs) := by
  induction cs generalizing s t with
  | nil =>
    rw [trace_nil, List.append_nil]
    exact hs
  | cons c cs ih =>
    rw [List.forall_mem_cons] at hcs
    have hrest := ih hcs.2 (step s t c hcs.1 hs)
    rwa [List.append_assoc] at hrest

/-- The same, for an invariant that every call preserves. -/
theorem exec_trace_of_invariant {I : σ → List (κ × ρ) → Prop}
    (step : ∀ s t c, I s t → I (m s c).2 (t ++ [(c, (m s c).1)])) {s : σ} {t : List (κ × ρ)}
    (hs : I s t) (cs : List κ) : I (m.exec s cs) (t ++ m.trace s cs) :=
  exec_trace_of_calls (P := fun _ => True) (fun s t c _ => step s t c) (fun _ _ => trivial) hs

/-- The invariant rule for an invariant that relates the state to the calls made. -/
theorem exec_of_history {I : σ → List κ → Prop}
    (step : ∀ s before c, I s before → I (m s c).2 (before ++ [c])) {s : σ} {before : List κ}
    (hs : I s before) (cs : List κ) : I (m.exec s cs) (before ++ cs) := by
  induction cs generalizing s before with
  | nil =>
    rw [List.append_nil]
    exact hs
  | cons c cs ih =>
    have hrest := ih (step s before c hs)
    rwa [List.append_assoc] at hrest

/-- The same, for an invariant that the calls allowed by `P` preserve. -/
theorem exec_of_along_history {P : σ → κ → Prop} {I : σ → List κ → Prop}
    (step : ∀ s before c, P s c → I s before → I (m s c).2 (before ++ [c])) {s : σ}
    {before : List κ} (hs : I s before) {cs : List κ} (h : m.Along P s cs) :
    I (m.exec s cs) (before ++ cs) := by
  induction cs generalizing s before with
  | nil =>
    rw [List.append_nil]
    exact hs
  | cons c cs ih =>
    have hrest := ih (step s before c h.1 hs) h.2
    rwa [List.append_assoc] at hrest

theorem along_of_forall {P : κ → Prop} {cs : List κ} (hcs : ∀ c ∈ cs, P c) (s : σ) :
    m.Along (fun _ c => P c) s cs := by
  induction cs generalizing s with
  | nil => trivial
  | cons c cs ih =>
    rw [List.forall_mem_cons] at hcs
    exact ⟨hcs.1, ih hcs.2 _⟩

/-- **The consequence rule**: what every call allowed by `P` establishes, given an invariant that
it preserves, is established along a run of them. -/
theorem along_of_invariant {P Q : σ → κ → Prop} {I : σ → Prop}
    (step : ∀ s c, I s → P s c → Q s c ∧ I (m s c).2) :
    ∀ (cs : List κ) {s : σ}, I s → m.Along P s cs → m.Along Q s cs
  | [], _, _, _ => trivial
  | c :: cs, s, hs, h =>
    have hc := step s c hs h.1
    ⟨hc.1, along_of_invariant step cs hc.2 h.2⟩

/-- **The consequence rule, as an equivalence**: where an invariant that the calls allowed by `P`
preserve makes `Q` the same as `P`, a run establishes `Q` exactly when every call of it is
allowed. -/
theorem along_iff_of_invariant {P Q : σ → κ → Prop} {I : σ → Prop}
    (same : ∀ s c, I s → (Q s c ↔ P s c)) (step : ∀ s c, I s → P s c → I (m s c).2) (cs : List κ)
    {s : σ} (hs : I s) : m.Along Q s cs ↔ m.Along P s cs := by
  constructor
  · refine along_of_invariant (fun s c hs hc => ?_) cs hs
    have hP := (same s c hs).1 hc
    exact ⟨hP, step s c hs hP⟩
  · exact along_of_invariant (fun s c hs hc => ⟨(same s c hs).2 hc, step s c hs hc⟩) cs hs

/-- **The last call rule**: where a call sets what `read` shows if it covers it, and leaves it
otherwise, a run ends with what the last covering call has set. -/
theorem read_exec_of_covers {β : Type*} (read : σ → β) {covers : κ → Prop} [DecidablePred covers]
    {value : κ → β} (step : ∀ s c, read (m s c).2 = if covers c then value c else read s) (s : σ)
    (cs : List κ) :
    read (m.exec s cs) = ((cs.filter covers).getLast?.map value).getD (read s) := by
  induction cs generalizing s with
  | nil => rfl
  | cons c cs ih =>
    rw [exec_cons, ih, step]
    by_cases hc : covers c
    · rw [if_pos hc, List.filter_cons, if_pos (decide_eq_true hc),
        List.getLast?_cons, Option.map_some, Option.getD_some]
      cases (cs.filter covers).getLast? <;> rfl
    · rw [if_neg hc, List.filter_cons, if_neg (by simpa using hc)]

/-- **The simulation rule**: two machines answer alike from related states if every call answers
alike on related states and leaves related states. -/
theorem replies_eq_of_simulation {m' : Machine τ κ ρ} {R : σ → τ → Prop}
    (step : ∀ s t c, R s t → (m s c).1 = (m' t c).1 ∧ R (m s c).2 (m' t c).2) (cs : List κ) {s : σ}
    {t : τ} (h : R s t) : m.replies s cs = m'.replies t cs := by
  induction cs generalizing s t with
  | nil => rfl
  | cons c cs ih =>
    obtain ⟨hreply, hnext⟩ := step s t c h
    rw [replies_cons, replies_cons, hreply, ih hnext]

/-- **The projection rule**: a machine whose calls, made through `call` and seen through `read`, are
those of another one runs like it. -/
theorem run_map_of_read {ι : Type*} {m' : Machine τ ι ρ} (read : σ → τ) (call : ι → κ)
    (step : ∀ s c, ((m s (call c)).1, read (m s (call c)).2) = m' (read s) c) (s : σ)
    (cs : List ι) :
    read (m.exec s (cs.map call)) = m'.exec (read s) cs ∧
      m.replies s (cs.map call) = m'.replies (read s) cs := by
  induction cs generalizing s with
  | nil => exact ⟨rfl, rfl⟩
  | cons c cs ih =>
    obtain ⟨hread, hreplies⟩ := ih (m s (call c)).2
    rw [List.map_cons, exec_cons, exec_cons, replies_cons, replies_cons, hread, hreplies, ← step]
    exact ⟨rfl, rfl⟩

/-- **The dispenser rule**: where a call either asks for nothing and leaves what is left, or takes
the first thing left and answers with that, with none when nothing is left, what a run answers to
those that ask is what was left at first, in that order, whoever asks. -/
theorem served_of_dispenser {β : Type*} (left : σ → List β) (asked : κ × ρ → Option (Option β))
    {I : σ → Prop} (step : ∀ s c, I s → I (m s c).2 ∧
      (asked (c, (m s c).1) = none ∧ left (m s c).2 = left s ∨
        asked (c, (m s c).1) = some (left s).head? ∧ left (m s c).2 = (left s).tail))
    {s : σ} (hs : I s) (cs : List κ) :
    (∀ (k : ℕ) answer, ((m.trace s cs).filterMap asked)[k]? = some answer →
        answer = (left s)[k]?) ∧
      left (m.exec s cs) = (left s).drop ((m.trace s cs).filterMap asked).length := by
  induction cs generalizing s with
  | nil => exact ⟨nofun, rfl⟩
  | cons c cs ih =>
    obtain ⟨hnext, hcase⟩ := step s c hs
    obtain ⟨hserved, hleft⟩ := ih hnext
    rw [trace_cons, exec_cons, hleft]
    rcases hcase with ⟨hnone, hsame⟩ | ⟨hsome, htail⟩
    · rw [List.filterMap_cons_none hnone, ← hsame]
      exact ⟨hserved, rfl⟩
    · rw [List.filterMap_cons_some hsome, htail, List.length_cons]
      refine ⟨fun k answer hk => ?_, List.drop_tail⟩
      cases k with
      | zero =>
        rw [List.getElem?_cons_zero, Option.some.injEq] at hk
        rw [← hk, List.head?_eq_getElem?]
      | succ k =>
        rw [List.getElem?_cons_succ] at hk
        rw [hserved k answer hk, htail, List.getElem?_tail]

/-- `Q` holds of what every call of the run does to the two machines. -/
def AlongBoth (m : Machine σ κ ρ) (m' : Machine τ κ ρ') (Q : ρ × σ → ρ' × τ → Prop) :
    σ → τ → List κ → Prop
  | _, _, [] => True
  | s, t, c :: cs => Q (m s c) (m' t c) ∧ AlongBoth m m' Q (m s c).2 (m' t c).2 cs

/-- **The simulation rule, as an equivalence**: if on related states the calls allowed by `P`
establish `Q` and lead to related states, and the others fail to establish it, then `Q` holds along
both runs exactly when every call is allowed. -/
theorem alongBoth_iff {m' : Machine τ κ ρ'} {Q : ρ × σ → ρ' × τ → Prop} {R : σ → τ → Prop}
    {P : κ → Prop} (allowed : ∀ s t c, R s t → P c → Q (m s c) (m' t c) ∧ R (m s c).2 (m' t c).2)
    (refused : ∀ s t c, R s t → ¬P c → ¬Q (m s c) (m' t c)) (cs : List κ) {s : σ} {t : τ}
    (h : R s t) : AlongBoth m m' Q s t cs ↔ ∀ c ∈ cs, P c := by
  induction cs generalizing s t with
  | nil => exact iff_of_true trivial fun c hc => absurd hc List.not_mem_nil
  | cons c cs ih =>
    rw [List.forall_mem_cons]
    by_cases hc : P c
    · obtain ⟨hQ, hR⟩ := allowed s t c h hc
      exact and_congr (iff_of_true hQ hc) (ih hR)
    · exact iff_of_false (fun hboth => refused s t c h hc hboth.1) fun hall => hc hall.1

end Machine

end Foundations
