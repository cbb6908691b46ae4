import Kroopt.Library.Run

/-!
# Simulation

A machine against a specification, which is a relation: it says which outputs and which next states
are allowed, and may leave a choice.

* `Path R a labels b`: a sequence of moves of the specification `R`, with its inputs and outputs.
* `exec_simulates`: if every step of the machine is matched by a move, so is every execution.  The
  match may depend on how many of some counted inputs there have been, as long as they stay within
  a budget; and the machine refuses none of the inputs.
-/

set_option autoImplicit false

namespace Machine

variable {σ τ ι ω ε : Type*}

/-- What an observer sees of a step. -/
def Transition.label (t : Transition σ ι ω) : ι × ω := (t.input, t.output)

/-- A sequence of moves of a specification. -/
inductive Path (R : τ → ι → ω → τ → Prop) : τ → List (ι × ω) → τ → Prop
  | nil (a : τ) : Path R a [] a
  | cons {a b c : τ} {x : ι} {o : ω} {labels : List (ι × ω)} (h : R a x o b)
      (hp : Path R b labels c) : Path R a ((x, o) :: labels) c

/-- What every move keeps holds at the end of a path. -/
theorem Path.invariant {R : τ → ι → ω → τ → Prop} {I : τ → Prop}
    (hmove : ∀ a x o b, R a x o b → I a → I b) {a b : τ} {labels : List (ι × ω)}
    (h : Path R a labels b) (ha : I a) : I b := by
  induction h with
  | nil => exact ha
  | cons hmv _ ih => exact ih (hmove _ _ _ _ hmv ha)

/-- Inputs that are all accepted can be fed in two parts. -/
theorem execState_append {f : σ → ι → Except ε (σ × ω)} {s : σ} {xs ys : List ι}
    (h : (exec f s xs).map Transition.input = xs) :
    execState f s (xs ++ ys) = execState f (execState f s xs) ys := by
  induction xs generalizing s with
  | nil => rfl
  | cons x xs ih =>
    rw [List.cons_append, execState, execState]
    rw [exec] at h
    cases hf : f s x with
    | error e =>
      rw [hf] at h
      cases h
    | ok p =>
      rw [hf] at h
      exact ih (List.cons.inj h).2

/-- **The simulation rule.**  `Sim n s a` says that the state `s`, after `n` counted inputs, stands
for `a`.  If below the budget every step is matched by a move, an execution whose counted inputs
stay below the budget refuses nothing and is matched by a path. -/
theorem exec_simulates {f : σ → ι → Except ε (σ × ω)} {R : τ → ι → ω → τ → Prop}
    {Sim : Nat → σ → τ → Prop} {counted : ι → Bool} {budget : Nat}
    (hstep : ∀ n s a x, Sim n s a → n + (if counted x then 1 else 0) < budget →
      ∃ s' o b, f s x = .ok (s', o) ∧ R a x o b ∧ Sim (n + if counted x then 1 else 0) s' b)
    {n : Nat} {s : σ} {a : τ} {xs : List ι} (h : Sim n s a)
    (hbudget : n + xs.countP counted < budget) :
    ∃ b, Path R a ((exec f s xs).map Transition.label) b ∧
      (exec f s xs).map Transition.input = xs ∧
      Sim (n + xs.countP counted) (execState f s xs) b := by
  induction xs generalizing n s a with
  | nil => exact ⟨a, .nil a, rfl, h⟩
  | cons x xs ih =>
    rw [List.countP_cons] at hbudget
    obtain ⟨s', o, b, hf, hmove, hsim⟩ := hstep n s a x h (by omega)
    obtain ⟨c, hpath, hinputs, hend⟩ := ih hsim (by omega)
    have hexec : exec f s (x :: xs) = ⟨s, x, o, s'⟩ :: exec f s' xs := by
      rw [exec, hf]
    have hstate : execState f s (x :: xs) = execState f s' xs := by
      rw [execState, hf]
    rw [hexec, hstate, List.countP_cons, Nat.add_comm (xs.countP counted), ← Nat.add_assoc]
    refine ⟨c, .cons hmove hpath, ?_, hend⟩
    rw [List.map_cons, hinputs]

end Machine
