import Mathlib.Data.List.Basic

/-!
# Regions of memory

A region is a block of cells whose size never changes, as an array on the stack or a block from
`malloc` is.  Reading and writing are checked: an access that leaves the region is a `Fault`, so a
computation that ends without one stayed inside all its regions.

* `Region.read`, `Region.write`: copying out of and into a region.
* `Region.write_extends`: writing right behind what a region is known to start with.
* `Allocator`: where fresh regions come from.  Their contents are unspecified.
-/

set_option autoImplicit false

namespace Memory

/-- An access outside the region. -/
inductive Fault
  | outOfBounds
  deriving DecidableEq

/-- A computation made of two ends well when both parts do. -/
theorem bind_eq_ok {β γ : Type} {x : Except Fault β} {f : β → Except Fault γ} {c : γ} :
    x >>= f = .ok c ↔ ∃ b, x = .ok b ∧ f b = .ok c := by
  cases x with
  | error e => simp [bind, Except.bind]
  | ok b => simp [bind, Except.bind]

/-- A block of `size` cells. -/
structure Region (α : Type*) (size : Nat) where
  cells : List α
  length_cells : cells.length = size

variable {α : Type*} {n : Nat}

namespace Region

/-- The region a list of cells makes. -/
def ofList (l : List α) : Region α l.length := ⟨l, rfl⟩

/-- Copy the first `k` cells out of a region. -/
def read (r : Region α n) (k : Nat) : Except Fault (List α) :=
  if k ≤ n then .ok (r.cells.take k) else .error .outOfBounds

/-- Copy `src` into a region, from the cell `off` on. -/
def write (r : Region α n) (off : Nat) (src : List α) : Except Fault (Region α n) :=
  if h : off + src.length ≤ n then
    .ok ⟨r.cells.take off ++ src ++ r.cells.drop (off + src.length), by
      have hn := r.length_cells
      simp only [List.length_append, List.length_take, List.length_drop]
      omega⟩
  else .error .outOfBounds

/-- A write inside the region succeeds. -/
theorem write_ok (r : Region α n) (off : Nat) (src : List α) (h : off + src.length ≤ n) :
    ∃ r', r.write off src = .ok r' ∧
      r'.cells = r.cells.take off ++ src ++ r.cells.drop (off + src.length) := by
  rw [write, dif_pos h]
  exact ⟨_, rfl, rfl⟩

/-- **Writing behind what is known.**  If a region starts with `known` and there is room, a write
right behind it succeeds, and the region then starts with `known` and what was written. -/
theorem write_extends {r : Region α n} {known : List α} (h : known <+: r.cells) (off : Nat)
    (src : List α) (hoff : off = known.length) (hroom : off + src.length ≤ n) :
    ∃ r', r.write off src = .ok r' ∧ known ++ src <+: r'.cells := by
  obtain ⟨r', hr', hcells⟩ := r.write_ok off src hroom
  refine ⟨r', hr', ?_⟩
  have htake : r.cells.take off = known := by
    rw [hoff]
    exact (List.prefix_iff_eq_take.mp h).symm
  rw [hcells, htake]
  exact List.prefix_append _ _

theorem read_length {r : Region α n} {k : Nat} {l : List α} (h : r.read k = .ok l) :
    l.length = k := by
  have hn := r.length_cells
  rw [read] at h
  split at h
  · rename_i hk
    cases h
    rw [List.length_take]
    omega
  · cases h

theorem read_ok (r : Region α n) {k : Nat} (h : k ≤ n) : r.read k = .ok (r.cells.take k) :=
  if_pos h

@[simp] theorem read_zero (r : Region α n) : r.read 0 = .ok [] := by
  simp [read]

theorem read_size (r : Region α n) : r.read n = .ok r.cells := by
  rw [read_ok r (Nat.le_refl n), List.take_of_length_le (Nat.le_of_eq r.length_cells)]

/-- What a region starts with, once it is as long as the region, is all of it. -/
theorem cells_eq_of_full {r : Region α n} {known : List α} (h : known <+: r.cells)
    (hfull : known.length = n) : r.cells = known := by
  refine (h.eq_of_length ?_).symm
  rw [hfull, r.length_cells]

end Region

/-- Where fresh regions come from.  `malloc` may fail; a fresh region has unspecified contents. -/
structure Allocator (α : Type*) where
  malloc : (n : Nat) → Option (Region α n)
  fresh : (n : Nat) → Region α n

end Memory
