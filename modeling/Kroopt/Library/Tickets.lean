import Mathlib.Data.List.Nodup

/-!
# Tickets

A book of tickets, each issued once under a key of its own and redeemed at most once.

* `Tickets` carries what makes a book: fresh keys, no key redeemed twice, none that was not issued.
* `outstanding` are the tickets issued and not redeemed.  `outstanding_issue` and
  `outstanding_redeem` say what the two operations do to them.
-/

set_option autoImplicit false

/-- The tickets issued and the keys redeemed, in their order. -/
structure Tickets (κ β : Type*) where
  issued : List (κ × β)
  redeemed : List κ
  /-- Every ticket has a key of its own. -/
  fresh : (issued.map Prod.fst).Nodup
  /-- No ticket is redeemed twice. -/
  once : redeemed.Nodup
  /-- What is redeemed was issued. -/
  known : ∀ k ∈ redeemed, k ∈ issued.map Prod.fst

namespace Tickets

variable {κ β : Type*}

/-- The empty book. -/
def empty : Tickets κ β where
  issued := []
  redeemed := []
  fresh := .nil
  once := .nil
  known _ hk := hk

/-- Issue a ticket under a fresh key. -/
def issue (t : Tickets κ β) (k : κ) (b : β) (hk : k ∉ t.issued.map Prod.fst) : Tickets κ β where
  issued := t.issued ++ [(k, b)]
  redeemed := t.redeemed
  fresh := by
    rw [List.map_append, List.map_singleton]
    exact List.nodup_append_comm.mp (List.nodup_cons.mpr ⟨hk, t.fresh⟩)
  once := t.once
  known k' hk' := by
    rw [List.map_append]
    exact List.mem_append_left _ (t.known k' hk')

variable [DecidableEq κ]

/-- The tickets issued and not redeemed, in the order of their issue. -/
def outstanding (t : Tickets κ β) : List (κ × β) := t.issued.filter fun p ↦ p.1 ∉ t.redeemed

theorem mem_outstanding_keys {t : Tickets κ β} {k : κ} :
    k ∈ t.outstanding.map Prod.fst ↔ k ∈ t.issued.map Prod.fst ∧ k ∉ t.redeemed := by
  simp only [outstanding, List.mem_map, List.mem_filter, decide_eq_true_eq]
  constructor
  · rintro ⟨p, ⟨hp, hk⟩, rfl⟩
    exact ⟨⟨p, hp, rfl⟩, hk⟩
  · rintro ⟨⟨p, hp, rfl⟩, hk⟩
    exact ⟨p, ⟨hp, hk⟩, rfl⟩

/-- Redeem an outstanding ticket. -/
def redeem (t : Tickets κ β) (k : κ) (hk : k ∈ t.outstanding.map Prod.fst) : Tickets κ β where
  issued := t.issued
  redeemed := t.redeemed ++ [k]
  fresh := t.fresh
  once := List.nodup_append_comm.mp
    (List.nodup_cons.mpr ⟨(mem_outstanding_keys.mp hk).2, t.once⟩)
  known k' hk' := by
    rcases List.mem_append.mp hk' with h | h
    · exact t.known k' h
    · rw [List.mem_singleton.mp h]
      exact (mem_outstanding_keys.mp hk).1

/-- An issued ticket is outstanding behind the others. -/
theorem outstanding_issue (t : Tickets κ β) (k : κ) (b : β) (hk : k ∉ t.issued.map Prod.fst) :
    (t.issue k b hk).outstanding = t.outstanding ++ [(k, b)] := by
  have hnew : k ∉ t.redeemed := fun h ↦ hk (t.known k h)
  rw [outstanding, issue, List.filter_append, outstanding]
  simp [hnew]

/-- A redeemed ticket is outstanding no more, and the others are left alone. -/
theorem outstanding_redeem (t : Tickets κ β) (k : κ) (hk : k ∈ t.outstanding.map Prod.fst) :
    (t.redeem k hk).outstanding = t.outstanding.filter fun p ↦ p.1 ≠ k := by
  rw [outstanding, redeem, outstanding, List.filter_filter]
  refine List.filter_congr fun p _ ↦ ?_
  simp [and_comm]

end Tickets
