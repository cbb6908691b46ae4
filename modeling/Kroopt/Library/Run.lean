import Mathlib.Data.List.Basic

/-!
# Runs of a deterministic machine

A machine is a function `f : σ → ι → Except ε (σ × ω)`: in a state it reads an input, and either
refuses it or moves to a new state and emits an output.  Nothing here knows what the states,
inputs and outputs are.

* `Transition σ ι ω` records one step: where it started, what it read, what it emitted and where
  it ended.
* `Run f s tr s'` says that `tr` is a sequence of steps of `f` leading from `s` to `s'`.
* `Run.preserves` and `Run.history` are the two induction rules: an invariant of the state, and an
  invariant that also sees the steps taken so far.  Both are *guarded*: the step lemma may assume a
  condition `C` of the step, which is then owed for every step of the run.
* `Run.forall_iff` turns an equivalence that holds at each single step into one about whole runs;
  `Run.end_iff` does so for a property that a step may lose, and `Run.pairwise_iff` for one that
  relates a step to those behind it.
* `exec f s xs` feeds a list of inputs to the machine and returns the steps it takes.
-/

set_option autoImplicit false

namespace Machine

/-- One step of a machine. -/
structure Transition (σ ι ω : Type*) where
  /-- The state the step is taken in. -/
  source : σ
  /-- What the machine read. -/
  input : ι
  /-- What the machine emitted. -/
  output : ω
  /-- The state the step leads to. -/
  target : σ

variable {σ ι ω ε : Type*} {f : σ → ι → Except ε (σ × ω)}

/-- `t` is a step the machine `f` takes. -/
def Steps (f : σ → ι → Except ε (σ × ω)) (t : Transition σ ι ω) : Prop :=
  f t.source t.input = .ok (t.target, t.output)

/-- `tr` is a sequence of consecutive steps of `f` from the first state to the second. -/
inductive Run (f : σ → ι → Except ε (σ × ω)) : σ → List (Transition σ ι ω) → σ → Prop
  | nil (s : σ) : Run f s [] s
  | cons {t : Transition σ ι ω} {tr : List (Transition σ ι ω)} {s' : σ} (ht : Steps f t)
      (hr : Run f t.target tr s') : Run f t.source (t :: tr) s'

/-- A state some run of the machine leads to. -/
def Reachable (f : σ → ι → Except ε (σ × ω)) (s s' : σ) : Prop := ∃ tr, Run f s tr s'

theorem Run.append {s m s' : σ} {tr tr' : List (Transition σ ι ω)} (h : Run f s tr m)
    (h' : Run f m tr' s') : Run f s (tr ++ tr') s' := by
  induction h with
  | nil => exact h'
  | cons ht _ ih => exact .cons ht (ih h')

theorem Run.uncons {s s' : σ} {tr : List (Transition σ ι ω)} {t : Transition σ ι ω}
    (h : Run f s (t :: tr) s') : t.source = s ∧ Steps f t ∧ Run f t.target tr s' := by
  cases h with
  | cons ht hr => exact ⟨rfl, ht, hr⟩

theorem Run.split {s s' : σ} {tr tr' : List (Transition σ ι ω)} (h : Run f s (tr ++ tr') s') :
    ∃ m, Run f s tr m ∧ Run f m tr' s' := by
  induction tr generalizing s with
  | nil => exact ⟨s, .nil s, h⟩
  | cons t tr ih =>
    cases h with
    | cons ht hr =>
      obtain ⟨m, hm, hm'⟩ := ih hr
      exact ⟨m, .cons ht hm, hm'⟩

/-- A step in the middle of a run, with the run before it and the run after it. -/
theorem Run.split_at {s s' : σ} {pre post : List (Transition σ ι ω)} {t : Transition σ ι ω}
    (h : Run f s (pre ++ t :: post) s') :
    Run f s pre t.source ∧ Steps f t ∧ Run f t.target post s' := by
  obtain ⟨m, hpre, hrest⟩ := h.split
  cases hrest with
  | cons ht hr => exact ⟨hpre, ht, hr⟩

theorem Run.steps_of_mem {s s' : σ} {tr : List (Transition σ ι ω)} (h : Run f s tr s')
    {t : Transition σ ι ω} (ht : t ∈ tr) : Steps f t := by
  obtain ⟨pre, post, rfl⟩ := List.append_of_mem ht
  exact h.split_at.2.1

theorem Run.reachable_source {s s' : σ} {tr : List (Transition σ ι ω)} (h : Run f s tr s')
    {t : Transition σ ι ω} (ht : t ∈ tr) : Reachable f s t.source := by
  obtain ⟨pre, post, rfl⟩ := List.append_of_mem ht
  exact ⟨pre, h.split_at.1⟩

/-- **The projection rule.**  If the image of every step of `f` under `g` is a step of `f'` between
the images of its states under `φ`, the image of a run is a run. -/
theorem Run.map {σ' ι' ω' : Type*} {f' : σ' → ι' → Except ε (σ' × ω')} {φ : σ → σ'}
    {g : Transition σ ι ω → Transition σ' ι' ω'}
    (hg : ∀ t, Steps f t → Steps f' (g t) ∧ (g t).source = φ t.source ∧ (g t).target = φ t.target)
    {s s' : σ} {tr : List (Transition σ ι ω)} (h : Run f s tr s') :
    Run f' (φ s) (tr.map g) (φ s') := by
  induction h with
  | nil s => exact .nil _
  | @cons t tr s' ht _ ih =>
    obtain ⟨hstep, hsource, htarget⟩ := hg t ht
    rw [List.map_cons, ← hsource]
    exact .cons hstep (by rw [htarget]; exact ih)

/-- **The refinement rule.**  If every step of `f` is carried out by a run of `f'` between the
images of its states, a run of `f` is carried out by the runs of its steps, one after the other. -/
theorem Run.flatMap {σ' ι' ω' : Type*} {f' : σ' → ι' → Except ε (σ' × ω')} {φ : σ → σ'}
    {g : Transition σ ι ω → List (Transition σ' ι' ω')}
    (hg : ∀ t, Steps f t → Run f' (φ t.source) (g t) (φ t.target)) {s s' : σ}
    {tr : List (Transition σ ι ω)} (h : Run f s tr s') : Run f' (φ s) (tr.flatMap g) (φ s') := by
  induction h with
  | nil s => exact .nil _
  | @cons t tr s' ht _ ih =>
    rw [List.flatMap_cons]
    exact (hg t ht).append ih

/-! ## The induction rules -/

/-- **The invariant rule.**  What every step meeting `C` preserves holds at the end of a run whose
steps all meet `C`. -/
theorem Run.preserves {I : σ → Prop} {C : Transition σ ι ω → Prop}
    (hstep : ∀ t, Steps f t → C t → I t.source → I t.target) {s s' : σ}
    {tr : List (Transition σ ι ω)} (h : Run f s tr s') (hC : ∀ t ∈ tr, C t) (hs : I s) : I s' := by
  induction h with
  | nil => exact hs
  | cons ht _ ih =>
    refine ih (fun u hu ↦ hC u (List.mem_cons_of_mem _ hu)) ?_
    exact hstep _ ht (hC _ List.mem_cons_self) hs

/-- The invariant rule without a condition on the steps. -/
theorem Run.invariant {I : σ → Prop} (hstep : ∀ t, Steps f t → I t.source → I t.target)
    {s s' : σ} {tr : List (Transition σ ι ω)} (h : Run f s tr s') (hs : I s) : I s' :=
  h.preserves (C := fun _ ↦ True) (fun t ht _ ↦ hstep t ht) (fun _ _ ↦ trivial) hs

/-- An invariant holds wherever a step of the run is taken. -/
theorem Run.invariant_source {I : σ → Prop} (hstep : ∀ t, Steps f t → I t.source → I t.target)
    {s s' : σ} {tr : List (Transition σ ι ω)} (h : Run f s tr s') (hs : I s)
    {t : Transition σ ι ω} (ht : t ∈ tr) : I t.source := by
  obtain ⟨pre, hpre⟩ := h.reachable_source ht
  exact hpre.invariant hstep hs

/-- **The history rule.**  Like `Run.preserves`, for an invariant that relates the state to the
steps taken so far. -/
theorem Run.history {J : List (Transition σ ι ω) → σ → Prop} {C : Transition σ ι ω → Prop}
    (hstep : ∀ pre t, Steps f t → C t → J pre t.source → J (pre ++ [t]) t.target) {s s' : σ}
    {tr : List (Transition σ ι ω)} (h : Run f s tr s') (hC : ∀ t ∈ tr, C t) (hs : J [] s) :
    J tr s' := by
  suffices hgen : ∀ pre, J pre s → J (pre ++ tr) s' from hgen [] hs
  clear hs
  induction h with
  | nil => exact fun pre hs ↦ by simpa using hs
  | @cons t tr _ ht _ ih =>
    intro pre hs
    have hnext : J (pre ++ [t]) t.target := hstep pre t ht (hC t List.mem_cons_self) hs
    simpa using ih (fun u hu ↦ hC u (List.mem_cons_of_mem _ hu)) (pre ++ [t]) hnext

/-- **From steps to runs.**  If under an invariant a step has the property `P` exactly when it
meets the condition `C`, then in every run all steps have `P` exactly when all of them meet `C`. -/
theorem Run.forall_iff {I : σ → Prop} {P C : Transition σ ι ω → Prop}
    (hstep : ∀ t, Steps f t → I t.source → I t.target)
    (hPC : ∀ t, Steps f t → I t.source → (P t ↔ C t)) {s s' : σ}
    {tr : List (Transition σ ι ω)} (h : Run f s tr s') (hs : I s) :
    (∀ t ∈ tr, P t) ↔ ∀ t ∈ tr, C t := by
  refine forall₂_congr fun t ht ↦ ?_
  exact hPC t (h.steps_of_mem ht) (h.invariant_source hstep hs ht)

/-- **A property that steps can lose.**  If under an invariant a step leads to `P` exactly when it
starts in `P` and meets `C`, a run ends in `P` exactly when it starts in `P` and all its steps meet
`C`. -/
theorem Run.end_iff {I P : σ → Prop} {C : Transition σ ι ω → Prop}
    (hstep : ∀ t, Steps f t → I t.source → I t.target)
    (hP : ∀ t, Steps f t → I t.source → (P t.target ↔ P t.source ∧ C t)) {s s' : σ}
    {tr : List (Transition σ ι ω)} (h : Run f s tr s') (hs : I s) :
    P s' ↔ P s ∧ ∀ t ∈ tr, C t := by
  induction h with
  | nil => simp
  | @cons t tr _ ht _ ih =>
    rw [ih (hstep t ht hs), hP t ht hs, List.forall_mem_cons, and_assoc]

/-- **From what follows a step to whole runs.**  If behind each step of a run all later steps are
related to it by `P` exactly when all of them are related to it by `C`, then all pairs of an earlier
and a later step are. -/
theorem Run.pairwise_iff {P C : Transition σ ι ω → Transition σ ι ω → Prop} {s s' : σ}
    {tr : List (Transition σ ι ω)} (h : Run f s tr s')
    (hafter : ∀ pre t post, Run f s pre t.source → Steps f t → Run f t.target post s' →
      ((∀ u ∈ post, P t u) ↔ ∀ u ∈ post, C t u)) :
    tr.Pairwise P ↔ tr.Pairwise C := by
  suffices hgen : ∀ pre, Run f s (pre ++ tr) s' → (tr.Pairwise P ↔ tr.Pairwise C) from hgen [] h
  clear h
  induction tr with
  | nil => exact fun _ _ ↦ iff_of_true .nil .nil
  | cons t tr ih =>
    intro pre h
    obtain ⟨hpre, ht, hpost⟩ := h.split_at
    rw [List.pairwise_cons, List.pairwise_cons, hafter pre t tr hpre ht hpost]
    exact and_congr_right fun _ ↦ ih (pre ++ [t]) (by simpa using h)

/-! ## Feeding inputs to a machine -/

/-- The steps the machine takes on a list of inputs, up to the first one it refuses. -/
def exec (f : σ → ι → Except ε (σ × ω)) : σ → List ι → List (Transition σ ι ω)
  | _, [] => []
  | s, x :: xs =>
    match f s x with
    | .error _ => []
    | .ok (s', o) => ⟨s, x, o, s'⟩ :: exec f s' xs

/-- The state the machine is left in by a list of inputs. -/
def execState (f : σ → ι → Except ε (σ × ω)) : σ → List ι → σ
  | s, [] => s
  | s, x :: xs =>
    match f s x with
    | .error _ => s
    | .ok (s', _) => execState f s' xs

theorem run_exec (s : σ) (xs : List ι) : Run f s (exec f s xs) (execState f s xs) := by
  induction xs generalizing s with
  | nil => exact .nil s
  | cons x xs ih =>
    rw [exec, execState]
    split
    · exact .nil s
    · rename_i s' o h
      exact Run.cons (t := ⟨s, x, o, s'⟩) h (ih s')

end Machine
