import Mathlib.Data.Finmap
import Mathlib.Data.List.Perm.Basic

/-!
# Finite maps whose keys are never reused

What a registry of handles is: a finite map from the live keys to values, with the set of all keys
it ever issued.  A key that is issued and no longer live stays so.

* `FreshMap` and its operations `bind`, `modify` and `release`.
* `Slots.Represents`: a list of slots holds a finite map, each live key in one slot.  Filling a
  free slot, rewriting a taken one and clearing it are `Finmap.insert`, `Finmap.insert` again and
  `Finmap.erase`, whichever slot is taken.
-/

set_option autoImplicit false

/-! ## The map -/

/-- A finite map, and every key that was ever in it. -/
structure FreshMap (κ β : Type) where
  live : Finmap fun _ : κ ↦ β
  issued : Finset κ
  live_issued : ∀ k ∈ live, k ∈ issued

namespace FreshMap

variable {κ β : Type} [DecidableEq κ]

/-- The map before anything was issued. -/
def empty : FreshMap κ β := ⟨∅, ∅, fun _ h ↦ absurd h Finmap.notMem_empty⟩

/-- Issue a key for a value. -/
def bind (m : FreshMap κ β) (k : κ) (b : β) : FreshMap κ β where
  live := m.live.insert k b
  issued := insert k m.issued
  live_issued k' hk' := by
    rcases Finmap.mem_insert.mp hk' with rfl | h
    · exact Finset.mem_insert_self _ _
    · exact Finset.mem_insert_of_mem (m.live_issued k' h)

/-- Change the value of a key in a finite map, if it is there. -/
def update (l : Finmap fun _ : κ ↦ β) (k : κ) (f : β → β) : Finmap fun _ : κ ↦ β :=
  match l.lookup k with
  | some b => l.insert k (f b)
  | none => l

theorem update_of_lookup {l : Finmap fun _ : κ ↦ β} {k : κ} {f : β → β} {b : β}
    (h : l.lookup k = some b) : update l k f = l.insert k (f b) := by
  rw [update.eq_def, h]

theorem update_of_lookup_none {l : Finmap fun _ : κ ↦ β} {k : κ} {f : β → β}
    (h : l.lookup k = none) : update l k f = l := by
  rw [update.eq_def, h]

theorem mem_update {l : Finmap fun _ : κ ↦ β} {k k' : κ} {f : β → β} :
    k' ∈ update l k f ↔ k' ∈ l := by
  rw [update]
  split
  · rename_i b hb
    have hk : k ∈ l := Finmap.mem_of_lookup_eq_some hb
    rw [Finmap.mem_insert]
    exact ⟨fun h ↦ h.elim (fun h ↦ h ▸ hk) id, .inr⟩
  · exact Iff.rfl

theorem erase_of_notMem {l : Finmap fun _ : κ ↦ β} {k : κ} (h : k ∉ l) : l.erase k = l := by
  refine Finmap.ext_lookup fun x ↦ ?_
  by_cases hx : x = k
  · rw [hx, Finmap.lookup_erase, Finmap.lookup_eq_none.mpr h]
  · rw [Finmap.lookup_erase_ne hx]

/-- Change the value of a key, if it is live. -/
def modify (m : FreshMap κ β) (k : κ) (f : β → β) : FreshMap κ β where
  live := update m.live k f
  issued := m.issued
  live_issued k' hk' := m.live_issued k' (mem_update.mp hk')

/-- Take a key out. -/
def release (m : FreshMap κ β) (k : κ) : FreshMap κ β where
  live := m.live.erase k
  issued := m.issued
  live_issued k' hk' := m.live_issued k' (Finmap.mem_erase.mp hk').2

/-- The number of live keys. -/
def size (m : FreshMap κ β) : Nat := m.live.keys.card

/-- A key that was issued and is not live any more. -/
def Dead (m : FreshMap κ β) (k : κ) : Prop := k ∈ m.issued ∧ k ∉ m.live

theorem Dead.bind {m : FreshMap κ β} {k k' : κ} {b : β} (h : m.Dead k) (hk' : k' ∉ m.issued) :
    (m.bind k' b).Dead k := by
  refine ⟨Finset.mem_insert_of_mem h.1, fun hlive ↦ ?_⟩
  rcases Finmap.mem_insert.mp hlive with rfl | hlive
  · exact hk' h.1
  · exact h.2 hlive

theorem Dead.modify {m : FreshMap κ β} {k k' : κ} {f : β → β} (h : m.Dead k) :
    (m.modify k' f).Dead k :=
  ⟨h.1, fun hlive ↦ h.2 (mem_update.mp hlive)⟩

theorem Dead.release {m : FreshMap κ β} {k k' : κ} (h : m.Dead k) : (m.release k').Dead k :=
  ⟨h.1, fun hlive ↦ h.2 (Finmap.mem_erase.mp hlive).2⟩

end FreshMap

/-! ## Finite maps in slots -/

namespace Slots

variable {κ β σ : Type} [DecidableEq κ] {entry : σ → Option (Σ _ : κ, β)}

/-- The slots hold the map: `entry` reads the key and the value out of a slot, if it is taken. -/
def Represents (entry : σ → Option (Σ _ : κ, β)) (slots : List σ)
    (m : Finmap fun _ : κ ↦ β) : Prop :=
  m.entries = (slots.filterMap entry : List (Σ _ : κ, β))

omit [DecidableEq κ] in
theorem filterMap_perm (entry : σ → Option (Σ _ : κ, β)) (l : List σ) {i : Nat}
    (hi : i < l.length) :
    (l.filterMap entry).Perm ((entry l[i]).toList ++ (l.eraseIdx i).filterMap entry) := by
  have hperm := ((l.getElem_cons_eraseIdx_perm hi).symm.filterMap entry)
  rw [List.filterMap_cons] at hperm
  cases h : entry l[i] with
  | none => simpa [h] using hperm
  | some e => simpa [h] using hperm

omit [DecidableEq κ] in
theorem filterMap_set_perm (entry : σ → Option (Σ _ : κ, β)) (l : List σ) {i : Nat}
    (hi : i < l.length) (s : σ) :
    ((l.set i s).filterMap entry).Perm
      ((entry s).toList ++ (l.eraseIdx i).filterMap entry) := by
  have hperm := (List.set_perm_cons_eraseIdx hi s).filterMap entry
  rw [List.filterMap_cons] at hperm
  cases h : entry s with
  | none => simpa [h] using hperm
  | some e => simpa [h] using hperm

variable {slots : List σ} {m : Finmap fun _ : κ ↦ β} {i : Nat} {s : σ} {k : κ} {b b' : β}

omit [DecidableEq κ] in
/-- Only free slots hold the empty map. -/
theorem represents_empty (h : ∀ s ∈ slots, entry s = none) : Represents entry slots ∅ := by
  have hnil : slots.filterMap entry = [] := List.filterMap_eq_nil_iff.mpr h
  rw [Represents, hnil]
  rfl

namespace Represents

/-- What a slot holds is what the map says of its key. -/
theorem lookup_eq_some (h : Represents entry slots m) (hs : s ∈ slots)
    (he : entry s = some ⟨k, b⟩) : m.lookup k = some b := by
  refine Finmap.mem_lookup_iff.mpr ?_
  rw [h]
  exact List.mem_filterMap.mpr ⟨s, hs, he⟩

/-- A key in no slot is not in the map. -/
theorem lookup_eq_none (h : Represents entry slots m)
    (hk : ∀ s ∈ slots, ∀ b, entry s ≠ some ⟨k, b⟩) : m.lookup k = none := by
  rw [Option.eq_none_iff_forall_ne_some]
  intro b hb
  have hmem := Finmap.mem_lookup_iff.mp hb
  rw [h] at hmem
  obtain ⟨s, hs, he⟩ := List.mem_filterMap.mp hmem
  exact hk s hs b he

omit [DecidableEq κ] in
/-- As many keys as taken slots. -/
theorem card_keys (h : Represents entry slots m) :
    m.keys.card = slots.countP fun s ↦ (entry s).isSome := by
  have hcard : m.keys.card = m.entries.card := Multiset.card_map _ _
  rw [hcard, h, Multiset.coe_card, List.length_filterMap_eq_countP]

/-- A taken slot stands for one key of the map; the other slots hold the rest. -/
theorem exists_rest (h : Represents entry slots m) (hi : i < slots.length)
    (he : entry slots[i] = some ⟨k, b⟩) :
    ∃ rest, Represents entry (slots.eraseIdx i) rest ∧ k ∉ rest ∧ m = rest.insert k b := by
  have hentries : m.entries = ⟨k, b⟩ ::ₘ ((slots.eraseIdx i).filterMap entry : List _) := by
    rw [h, Multiset.cons_coe, Multiset.coe_eq_coe]
    have hperm := filterMap_perm entry slots hi
    rwa [he] at hperm
  have hnodup := m.nodupKeys
  rw [hentries, Multiset.cons_coe, Multiset.coe_nodupKeys, List.nodupKeys_cons] at hnodup
  let rest : Finmap fun _ : κ ↦ β :=
    ⟨((slots.eraseIdx i).filterMap entry : List _), Multiset.coe_nodupKeys.mpr hnodup.2⟩
  have hk : k ∉ rest := hnodup.1
  refine ⟨rest, rfl, hk, Finmap.ext ?_⟩
  rw [Finmap.entries_insert_of_notMem hk, hentries]

/-- No key is in two slots. -/
theorem index_eq {j : Nat} (h : Represents entry slots m) (hi : i < slots.length)
    (hj : j < slots.length) (hei : entry slots[i] = some ⟨k, b⟩)
    (hej : entry slots[j] = some ⟨k, b'⟩) : i = j := by
  obtain ⟨rest, hrest, hk, -⟩ := h.exists_rest hi hei
  by_contra hne
  have hmem : slots[j] ∈ slots.eraseIdx i :=
    List.mem_eraseIdx_iff_getElem.mpr ⟨j, hj, Ne.symm hne, rfl⟩
  exact hk (Finmap.mem_of_lookup_eq_some (hrest.lookup_eq_some hmem hej))

/-- Taking a free slot for a new key. -/
theorem insert (h : Represents entry slots m) (hi : i < slots.length)
    (hfree : entry slots[i] = none) (hs : entry s = some ⟨k, b⟩) (hk : k ∉ m) :
    Represents entry (slots.set i s) (m.insert k b) := by
  rw [Represents, Finmap.entries_insert_of_notMem hk, h, Multiset.cons_coe, Multiset.coe_eq_coe]
  have hold := filterMap_perm entry slots hi
  have hnew := filterMap_set_perm entry slots hi s
  rw [hfree] at hold
  rw [hs] at hnew
  exact (hold.cons _).trans hnew.symm

/-- Rewriting the value in a taken slot. -/
theorem update (h : Represents entry slots m) (hi : i < slots.length)
    (he : entry slots[i] = some ⟨k, b⟩) (hs : entry s = some ⟨k, b'⟩) :
    Represents entry (slots.set i s) (m.insert k b') := by
  obtain ⟨rest, hrest, hk, rfl⟩ := h.exists_rest hi he
  rw [Finmap.insert_insert, Represents, Finmap.entries_insert_of_notMem hk, hrest,
    Multiset.cons_coe, Multiset.coe_eq_coe]
  have hnew := filterMap_set_perm entry slots hi s
  rw [hs] at hnew
  exact hnew.symm

/-- Clearing a taken slot. -/
theorem erase (h : Represents entry slots m) (hi : i < slots.length)
    (he : entry slots[i] = some ⟨k, b⟩) (hs : entry s = none) :
    Represents entry (slots.set i s) (m.erase k) := by
  obtain ⟨rest, hrest, hk, rfl⟩ := h.exists_rest hi he
  have herase : (rest.insert k b).erase k = rest.erase k := by
    refine Finmap.ext_lookup fun x ↦ ?_
    by_cases hx : x = k
    · rw [hx, Finmap.lookup_erase, Finmap.lookup_erase]
    · rw [Finmap.lookup_erase_ne hx, Finmap.lookup_erase_ne hx, Finmap.lookup_insert_of_ne _ hx]
  rw [herase, FreshMap.erase_of_notMem hk, Represents, hrest, Multiset.coe_eq_coe]
  have hnew := filterMap_set_perm entry slots hi s
  rw [hs] at hnew
  exact hnew.symm

end Represents

end Slots
