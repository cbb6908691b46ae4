import Mathlib.Data.List.Basic

/-!
# Parsers and the formats they recognise

A parser reads at a cursor: it fails, or returns a value and the cursor behind what it read.  A
format says which words stand for a value.  Nothing here knows what the words are made of.

* `Cursor` is a position in a word that only moves forward.
* `Recognizes p G` says that `p` succeeds exactly on the words of `G`, whatever follows them, and
  moves behind them: it is sound and complete for `G`.  `Decodes p G` says the same of a parser that
  has to use up its input.
* `Recognizes.pure`, `bind`, `guard` and `map` follow the shape of a parser; `decodes_many` is the
  rule for a list of items that goes up to the end.
* `Items G` are the words of a list of values, one after the other; `graph` is the format of an
  encoder.
-/

set_option autoImplicit false

namespace Format

variable {ρ ε α γ β : Type*}

/-- A position in a word. -/
class Cursor (ρ : Type*) (β : outParam Type*) where
  /-- What has not been read. -/
  rest : ρ → List β
  /-- Move forward. -/
  advance : ρ → ℕ → ρ
  rest_advance : ∀ r n, rest (advance r n) = (rest r).drop n
  advance_zero : ∀ r, advance r 0 = r
  advance_advance : ∀ r m n, advance (advance r m) n = advance r (m + n)

open Cursor

attribute [simp] rest_advance advance_zero advance_advance

variable [Cursor ρ β]

/-- `p` succeeds exactly on the words of `G`, and moves behind them. -/
def Recognizes (p : ρ → Except ε (α × ρ)) (G : α → List β → Prop) : Prop :=
  ∀ r a r', p r = .ok (a, r') ↔ ∃ w, G a w ∧ w <+: rest r ∧ r' = advance r w.length

/-- `p` succeeds and uses up its input exactly when that is a word of `G`. -/
def Decodes (p : ρ → Except ε (α × ρ)) (G : α → List β → Prop) : Prop :=
  ∀ r a, (∃ r', p r = .ok (a, r') ∧ rest r' = []) ↔ G a (rest r)

/-- The format of an encoder: each valid value has one word. -/
def graph (valid : α → Prop) (encode : α → List β) (a : α) (w : List β) : Prop :=
  valid a ∧ w = encode a

/-- The words of a list of values. -/
inductive Items (G : α → List β → Prop) : List α → List β → Prop
  | nil : Items G [] []
  | cons {a : α} {u : List β} {as : List α} {v : List β} (h : G a u) (hs : Items G as v) :
      Items G (a :: as) (u ++ v)

/-! ## Computations that may fail -/

universe u

/-- A sequence of two computations succeeds if both do. -/
theorem bind_eq_ok_iff {η : Type*} {δ ζ : Type u} {x : Except η δ} {f : δ → Except η ζ}
    {c : ζ} :
    x >>= f = .ok c ↔ ∃ a, x = .ok a ∧ f a = .ok c := by
  cases x <;> simp [Bind.bind, Except.bind]

theorem pure_eq_ok_iff {a b : α} : (Pure.pure a : Except ε α) = .ok b ↔ a = b := by
  simp [Pure.pure, Except.pure]

theorem throw_eq_ok_iff {e : ε} {a : α} : (throw e : Except ε α) = .ok a ↔ False := by
  simp [throw, throwThe, MonadExceptOf.throw]

/-- A check that throws is passed. -/
theorem guard_eq_ok_iff {c : Prop} [Decidable c] {e : ε} {k : PUnit → Except ε α} {b : α} :
    (if c then throw e >>= k else k ⟨⟩) = .ok b ↔ ¬ c ∧ k ⟨⟩ = .ok b := by
  by_cases hc : c
  · simp [hc, bind_eq_ok_iff, throw_eq_ok_iff]
  · simp [hc]

/-! ## Rules -/

theorem Recognizes.congr {p q : ρ → Except ε (α × ρ)} {G H : α → List β → Prop}
    (hp : Recognizes p G) (hpq : ∀ r, q r = p r) (hGH : ∀ a w, H a w ↔ G a w) :
    Recognizes q H := by
  intro r a r'
  rw [hpq, hp r a r']
  simp only [hGH]

theorem Recognizes.pure (a : α) :
    Recognizes (fun r : ρ ↦ (.ok (a, r) : Except ε (α × ρ))) fun b w ↦ b = a ∧ w = [] := by
  intro r b r'
  constructor
  · intro h
    cases h
    exact ⟨[], ⟨rfl, rfl⟩, List.nil_prefix, (advance_zero r).symm⟩
  · rintro ⟨_, ⟨rfl, rfl⟩, -, rfl⟩
    rw [List.length_nil, advance_zero]

/-- One word after another. -/
theorem prefix_append_iff {u v l : List β} :
    u ++ v <+: l ↔ u <+: l ∧ v <+: l.drop u.length := by
  constructor
  · rintro ⟨t, rfl⟩
    exact ⟨⟨v ++ t, by simp⟩, ⟨t, by simp⟩⟩
  · rintro ⟨⟨t, rfl⟩, h⟩
    rw [List.drop_left] at h
    exact (List.prefix_append_right_inj u).mpr h

/-- **Sequencing.**  What follows a value may depend on it. -/
theorem Recognizes.bind {p : ρ → Except ε (α × ρ)} {q : α → ρ → Except ε (γ × ρ)}
    {G : α → List β → Prop} {H : α → γ → List β → Prop} (hp : Recognizes p G)
    (hq : ∀ a, Recognizes (q a) (H a)) :
    Recognizes (fun r ↦ match p r with | .error e => .error e | .ok (a, r') => q a r')
      fun c w ↦ ∃ a u v, G a u ∧ H a c v ∧ w = u ++ v := by
  intro r c r'
  constructor
  · intro h
    dsimp only at h
    split at h
    · cases h
    · rename_i a m hm
      obtain ⟨u, hu, hpre, rfl⟩ := (hp r a m).mp hm
      obtain ⟨v, hv, hpre', rfl⟩ := (hq a _ c r').mp h
      rw [rest_advance] at hpre'
      refine ⟨u ++ v, ⟨a, u, v, hu, hv, rfl⟩, prefix_append_iff.mpr ⟨hpre, hpre'⟩, ?_⟩
      rw [advance_advance, List.length_append]
  · rintro ⟨_, ⟨a, u, v, hu, hv, rfl⟩, hpre, rfl⟩
    obtain ⟨hpre, hpre'⟩ := prefix_append_iff.mp hpre
    have hfirst : p r = .ok (a, advance r u.length) := (hp r a _).mpr ⟨u, hu, hpre, rfl⟩
    dsimp only
    rw [hfirst]
    refine (hq a _ c _).mpr ⟨v, hv, by rwa [rest_advance], ?_⟩
    rw [advance_advance, List.length_append]

/-- A condition that is checked first. -/
theorem Recognizes.guard {p : ρ → Except ε (α × ρ)} {G : α → List β → Prop} (hp : Recognizes p G)
    (c : Prop) [Decidable c] (e : ε) :
    Recognizes (fun r ↦ if c then .error e else p r) fun a w ↦ ¬ c ∧ G a w := by
  intro r a r'
  by_cases hc : c
  · simp [hc]
  · simp only [hc, if_false, not_false_eq_true, true_and]
    exact hp r a r'

theorem Recognizes.map {p : ρ → Except ε (α × ρ)} {G : α → List β → Prop} (hp : Recognizes p G)
    (f : α → γ) :
    Recognizes (fun r ↦ match p r with | .error e => .error e | .ok (a, r') => .ok (f a, r'))
      fun c w ↦ ∃ a, G a w ∧ c = f a := by
  refine (hp.bind fun a ↦ Recognizes.pure (f a)).congr (fun _ ↦ rfl) fun c w ↦ ?_
  constructor
  · rintro ⟨a, ha, rfl⟩
    exact ⟨a, w, [], ha, ⟨rfl, rfl⟩, (List.append_nil w).symm⟩
  · rintro ⟨a, u, v, hu, ⟨rfl, rfl⟩, rfl⟩
    exact ⟨a, by rwa [List.append_nil], rfl⟩

/-- A computation that reads nothing. -/
theorem Recognizes.check (x : Except ε α) :
    Recognizes (fun r : ρ ↦ match x with | .error e => .error e | .ok a => .ok (a, r))
      fun a w ↦ x = .ok a ∧ w = [] := by
  intro r a r'
  cases x with
  | error e => simp
  | ok b =>
    constructor
    · intro h
      cases h
      exact ⟨[], ⟨rfl, rfl⟩, List.nil_prefix, (advance_zero r).symm⟩
    · rintro ⟨_, ⟨hb, rfl⟩, -, rfl⟩
      cases hb
      rw [List.length_nil, advance_zero]

/-- A parser that recognises a format decodes it where nothing follows. -/
theorem Recognizes.decodes {p : ρ → Except ε (α × ρ)} {G : α → List β → Prop}
    (hp : Recognizes p G) : Decodes p G := by
  intro r a
  constructor
  · rintro ⟨r', h, hend⟩
    obtain ⟨w, hw, ⟨t, ht⟩, rfl⟩ := (hp r a r').mp h
    rw [rest_advance, ← ht, List.drop_left] at hend
    rwa [← ht, hend, List.append_nil]
  · intro h
    refine ⟨advance r (rest r).length, (hp r a _).mpr ⟨rest r, h, List.prefix_rfl, rfl⟩, ?_⟩
    rw [rest_advance, List.drop_length]

theorem Decodes.congr {p : ρ → Except ε (α × ρ)} {G H : α → List β → Prop} (hp : Decodes p G)
    (hGH : ∀ a w, H a w ↔ G a w) : Decodes p H := fun r a ↦ (hp r a).trans (hGH a _).symm

/-! ## Lists of items -/

/-- Parse items up to the end of input, at most `n` of them. -/
def many (full : ε) (item : ρ → Except ε (α × ρ)) : ℕ → ρ → Except ε (List α × ρ)
  | 0, r => if (rest r).isEmpty then .ok ([], r) else .error full
  | n + 1, r =>
    if (rest r).isEmpty then .ok ([], r)
    else
      match item r with
      | .error e => .error e
      | .ok (a, r₁) =>
        match many full item n r₁ with
        | .error e => .error e
        | .ok (as, r₂) => .ok (a :: as, r₂)

theorem Items.eq_nil {G : α → List β → Prop} {as : List α} (hG : ∀ a w, G a w → w ≠ [])
    (h : Items G as []) : as = [] := by
  generalize hw : ([] : List β) = w at h
  cases h with
  | nil => rfl
  | cons hu hs => exact absurd (List.append_eq_nil_iff.mp hw.symm).1 (hG _ _ hu)

/-- At the end of input there are no items. -/
theorem decodes_nil {G : α → List β → Prop} (hG : ∀ a w, G a w → w ≠ []) {r : ρ}
    (h : (rest r).isEmpty = true) (as : List α) (n : ℕ) :
    (∃ r', (.ok ([], r) : Except ε (List α × ρ)) = .ok (as, r') ∧ rest r' = []) ↔
      as.length ≤ n ∧ Items G as (rest r) := by
  have hnil := List.isEmpty_iff.mp h
  rw [hnil]
  constructor
  · rintro ⟨r', hr, -⟩
    cases hr
    exact ⟨Nat.zero_le n, .nil⟩
  · rintro ⟨-, hitems⟩
    rw [hitems.eq_nil hG]
    exact ⟨r, rfl, hnil⟩

/-- **Items up to the end.**  No item may be empty: then each list of values within the budget is
found again. -/
theorem decodes_many {item : ρ → Except ε (α × ρ)} {G : α → List β → Prop}
    (hitem : Recognizes item G) (hG : ∀ a w, G a w → w ≠ []) (full : ε) (n : ℕ) :
    Decodes (many full item n) fun as w ↦ as.length ≤ n ∧ Items G as w := by
  induction n with
  | zero =>
    intro r as
    rw [many.eq_1]
    split
    · rename_i h
      exact decodes_nil hG h as 0
    · rename_i h
      refine iff_of_false (by simp) ?_
      rintro ⟨hlen, hitems⟩
      rw [List.eq_nil_of_length_eq_zero (Nat.le_zero.mp hlen)] at hitems
      generalize rest r = w at h hitems
      cases hitems
      exact h rfl
  | succ n ih =>
    intro r as
    rw [many.eq_2]
    split
    · rename_i h
      exact decodes_nil hG h as (n + 1)
    · rename_i h
      constructor
      · rintro ⟨r', hr, hlast⟩
        split at hr
        · cases hr
        · rename_i a r₁ hfirst
          split at hr
          · cases hr
          · rename_i as' r₂ hmore
            cases hr
            obtain ⟨u, hu, ⟨t, ht⟩, rfl⟩ := (hitem r a r₁).mp hfirst
            obtain ⟨hlen, hitems⟩ := (ih _ as').mp ⟨r', hmore, hlast⟩
            rw [rest_advance, ← ht, List.drop_left] at hitems
            rw [← ht]
            exact ⟨Nat.succ_le_succ hlen, .cons hu hitems⟩
      · rintro ⟨hlen, hitems⟩
        generalize hw : rest r = w at hitems
        cases hitems with
        | nil => exact absurd (List.isEmpty_iff.mpr hw) h
        | @cons a u as v hu hs =>
          have hfirst : item r = .ok (a, advance r u.length) :=
            (hitem r a _).mpr ⟨u, hu, ⟨v, hw.symm⟩, rfl⟩
          have hrest : rest (advance r u.length) = v := by
            rw [rest_advance, hw, List.drop_left]
          obtain ⟨r', hmore, hlast⟩ :=
            (ih (advance r u.length) as).mpr ⟨Nat.le_of_succ_le_succ hlen, hrest ▸ hs⟩
          exact ⟨r', by rw [hfirst]; dsimp only; rw [hmore], hlast⟩

/-- The words of a list of an encoder's values are their encodings, one after the other. -/
theorem items_graph {valid : α → Prop} {encode : α → List β} {as : List α} {w : List β} :
    Items (graph valid encode) as w ↔ (∀ a ∈ as, valid a) ∧ w = as.flatMap encode := by
  constructor
  · intro h
    induction h with
    | nil => exact ⟨by simp, rfl⟩
    | cons h _ ih =>
      obtain ⟨hvalid, rfl⟩ := h
      obtain ⟨hall, rfl⟩ := ih
      exact ⟨List.forall_mem_cons.mpr ⟨hvalid, hall⟩, rfl⟩
  · rintro ⟨hall, rfl⟩
    induction as with
    | nil => exact .nil
    | cons a as ih =>
      obtain ⟨hvalid, hall⟩ := List.forall_mem_cons.mp hall
      exact .cons ⟨hvalid, rfl⟩ (ih hall)

end Format
