import Kroopt.Library.FreshMap
import Kroopt.Library.Simulation
import Kroopt.Native.SecretTable

/-!
# The secret table is a map with fresh ids

The table has 4096 slots and an id counter.  Slots are refilled in the order in which they become
free, while ids only grow, so a slot says nothing about the id in it.  What the callers see is a
finite map from live ids to bytes, in which no id is issued twice: a handle that outlives its secret
finds nothing, and in particular not the secret that lies in its slot now.

That is the specification, and it is a relation and not a function.  It leaves open which fresh id
is issued and when memory is out.  The table is shown to simulate it, call by call, for all
sequences of calls: what it answers is what the map may answer, and it never faults, so every read,
write and wipe stays inside its buffer.

There is one thing to count.  The id counter has 64 bits and skips nothing, so an id comes again
after 2^64 allocations.  The simulation therefore carries a bound on the number of ids issued so
far, and holds for all sequences with fewer allocations than that.

## Main definitions

* `SecretMove`: the specification, with one case or two for each call.
* `SecretTable.Represents`: the table holds the map: the taken slots hold its live part, their
  buffers are as long as they say, and the next id is one more than the number of ids issued.
* `SecretTable.Simulates n`: it does, with at most `n` ids issued.
* `NeverRevives`: no id that was released is found again.

## Main results

* `secretFind_spec`: looking up an id finds its slot if it is live, and nothing else.
* `secretStep_simulates`: one call, one case for each.
* `secretTable_refines`: all sequences of calls.
-/

set_option autoImplicit false

namespace Kroopt.Native

open Memory (Region Fault)
open Machine (Path Transition exec execState exec_simulates)

section

variable [HaclStar]

/-- **The specification.**  An allocation issues a fresh id unless the map is full or memory is out;
the other calls look at the live ids only, and a signature by handle is the signature with the
bytes of the handle. -/
inductive SecretMove :
    FreshMap UInt64 Bytes → SecretCall → SecretAnswer → FreshMap UInt64 Bytes → Prop
  | alloc {m : FreshMap UInt64 Bytes} {bytes : Bytes}
      {malloc : (n : Nat) → Option (Region UInt8 n)} {id : UInt64} (hroom : m.size < secretSlots)
      (hmem : (malloc (blockSize bytes)).isSome) (hid : id ≠ 0) (hfresh : id ∉ m.issued) :
      SecretMove m (.alloc bytes malloc) (.id id) (m.bind id bytes)
  | allocFails {m : FreshMap UInt64 Bytes} {bytes : Bytes}
      {malloc : (n : Nat) → Option (Region UInt8 n)}
      (h : m.size = secretSlots ∨ malloc (blockSize bytes) = none) :
      SecretMove m (.alloc bytes malloc) (.id 0) m
  | read (m : FreshMap UInt64 Bytes) (id : UInt64) :
      SecretMove m (.read id) (.bytes ((m.live.lookup id).getD [])) m
  | zeroize (m : FreshMap UInt64 Bytes) (id : UInt64) :
      SecretMove m (.zeroize id) .unit (m.modify id fun b ↦ List.replicate b.length 0)
  | release (m : FreshMap UInt64 Bytes) (id : UInt64) :
      SecretMove m (.release id) .unit (m.release id)
  | liveCount {m : FreshMap UInt64 Bytes} {n : UInt64} (h : n.toNat = m.size) :
      SecretMove m .liveCount (.count n) m
  | ed25519SignH (m : FreshMap UInt64 Bytes) (keyId : UInt64) (msg : Bytes) :
      SecretMove m (.ed25519SignH keyId msg)
        (.bytes ((m.live.lookup keyId).elim [] fun key ↦ ed25519Sign key msg)) m
  | ecdsaP256SignH (m : FreshMap UInt64 Bytes) (msg : Bytes) (keyId : UInt64) (k : Bytes) :
      SecretMove m (.ecdsaP256SignH msg keyId k)
        (.bytes ((m.live.lookup keyId).elim (failure 64) fun key ↦ ecdsaP256Sign msg key k)) m
  | rsapssSignH (m : FreshMap UInt64 Bytes) (n e : Bytes) (dId : UInt64) (salt msg : Bytes) :
      SecretMove m (.rsapssSignH n e dId salt msg)
        (.bytes ((m.live.lookup dId).elim (failure n.length) fun d ↦ rsapssSign n e d salt msg)) m

/-- An id that was issued and is not live is never live again. -/
theorem SecretMove.dead {m m' : FreshMap UInt64 Bytes} {c : SecretCall} {a : SecretAnswer}
    {id : UInt64} (h : SecretMove m c a m') (hdead : m.Dead id) : m'.Dead id := by
  cases h with
  | alloc _ _ _ hfresh => exact hdead.bind hfresh
  | zeroize => exact hdead.modify
  | release => exact hdead.release
  | _ => exact hdead

end

/-! ## Slots and the map

A slot is taken if it has a buffer.  The buffer can be longer than what it holds, since it is never
allocated with length zero, so the entry of a slot is its buffer up to its length. -/

/-- What a slot holds for the map: the bytes of its buffer up to its length. -/
def SecretSlot.entry (s : SecretSlot) : Option (Σ _ : UInt64, Bytes) :=
  s.ptr.map fun buf ↦ ⟨s.id, buf.take s.len⟩

/-- The table holds the map. -/
structure SecretTable.Represents (t : SecretTable) (m : FreshMap UInt64 Bytes) : Prop where
  slots : Slots.Represents SecretSlot.entry t.slots m.live
  fits : ∀ s ∈ t.slots, ∀ buf, s.ptr = some buf → s.len ≤ buf.length
  nextId : t.nextId = UInt64.ofNat (m.issued.card + 1)
  issued : ∀ id ∈ m.issued, id ≠ 0 ∧ id.toNat ≤ m.issued.card

theorem SecretSlot.isSome_entry (s : SecretSlot) : s.entry.isSome = s.ptr.isSome :=
  Option.isSome_map

theorem SecretTable.represents_initial : SecretTable.initial.Represents .empty where
  slots := by
    refine Slots.represents_empty fun s hs ↦ ?_
    rw [List.eq_of_mem_replicate hs]
    rfl
  fits s hs buf hbuf := by
    rw [List.eq_of_mem_replicate hs] at hbuf
    cases hbuf
  nextId := rfl
  issued id hid := absurd hid (Finset.notMem_empty id)

/-- Nothing but the live part and the issued ids of the map matters. -/
theorem SecretTable.Represents.congr {t : SecretTable} {m m' : FreshMap UInt64 Bytes}
    (h : t.Represents m) (hlive : m'.live = m.live) (hissued : m'.issued = m.issued) :
    t.Represents m' where
  slots := by rw [hlive]; exact h.slots
  fits := h.fits
  nextId := by rw [hissued]; exact h.nextId
  issued := by rw [hissued]; exact h.issued

theorem SecretSlot.entry_eq {s : SecretSlot} {buf : Bytes} (h : s.ptr = some buf) :
    s.entry = some ⟨s.id, buf.take s.len⟩ := by
  rw [entry, h, Option.map_some]

/-- The slot holds the live id `id`, with this buffer. -/
structure Found (m : FreshMap UInt64 Bytes) (id : UInt64) (s : SecretSlot) (buf : Bytes) :
    Prop where
  ptr_eq : s.ptr = some buf
  id_eq : s.id = id
  fits : s.len ≤ buf.length
  lookup_eq : m.live.lookup id = some (buf.take s.len)

theorem Found.entry_eq {m : FreshMap UInt64 Bytes} {id : UInt64} {s : SecretSlot} {buf : Bytes}
    (h : Found m id s buf) : s.entry = some ⟨id, buf.take s.len⟩ := by
  rw [SecretSlot.entry_eq h.ptr_eq, h.id_eq]

/-- **Looking up an id** finds its slot if it is live, and nothing else. -/
theorem secretFind_spec {t : SecretTable} {m : FreshMap UInt64 Bytes} (h : t.Represents m)
    (id : UInt64) :
    secretFind t id = none ∧ m.live.lookup id = none ∨
      ∃ i s buf, secretFind t id = some i ∧ t.slots.get i = s ∧ Found m id s buf := by
  by_cases hzero : id = 0
  · left
    refine ⟨by rw [secretFind, if_pos hzero], Finmap.lookup_eq_none.mpr fun hlive ↦ ?_⟩
    exact (h.issued id (m.live_issued id hlive)).1 hzero
  · rw [secretFind, if_neg hzero]
    cases hfind : t.slots.findFinIdx? fun s ↦ s.id == id && s.ptr.isSome with
    | none =>
      left
      refine ⟨rfl, h.slots.lookup_eq_none fun s hs b he ↦ ?_⟩
      have hnone := List.findFinIdx?_eq_none_iff.mp hfind s hs
      obtain ⟨buf, hbuf, heq⟩ := Option.map_eq_some_iff.mp he
      rw [hbuf, (Sigma.mk.inj heq).1] at hnone
      simp at hnone
    | some i =>
      right
      have hi := (List.findFinIdx?_eq_some_iff.mp hfind).1
      rw [Bool.and_eq_true, beq_iff_eq] at hi
      obtain ⟨buf, hbuf⟩ := Option.isSome_iff_exists.mp hi.2
      have hmem : t.slots[i] ∈ t.slots := List.getElem_mem i.isLt
      have hid : t.slots[i].id = id := hi.1
      have hentry : t.slots[i].entry = some ⟨id, buf.take t.slots[i].len⟩ := by
        rw [SecretSlot.entry_eq hbuf, hid]
      exact ⟨i, _, buf, rfl, rfl, hbuf, hi.1, h.fits _ hmem buf hbuf,
        h.slots.lookup_eq_some hmem hentry⟩

/-- Reading the buffer of a live id. -/
theorem Found.read {m : FreshMap UInt64 Bytes} {id : UInt64} {s : SecretSlot} {buf : Bytes}
    (h : Found m id s buf) {k : Nat} (hk : k = s.len) : s.read k = .ok (buf.take s.len) := by
  have hfits := h.fits
  rw [SecretSlot.read, h.ptr_eq, hk]
  exact Region.read_ok _ hfits

/-! ## Wiping

The wipe is a loop of single stores, and the only place in which the table writes into a buffer that
is in use. -/

/-- Wiping inside the buffer zeroes exactly those bytes. -/
theorem wipe_ok {size : Nat} (buf : Region UInt8 size) (p n : Nat) (h : p + n ≤ size) :
    ∃ buf', wipe buf p n = .ok buf' ∧
      buf'.cells = buf.cells.take p ++ List.replicate n 0 ++ buf.cells.drop (p + n) := by
  induction n generalizing buf p with
  | zero => exact ⟨buf, rfl, by simp⟩
  | succ n ih =>
    obtain ⟨buf₁, hwrite, hcells₁⟩ := buf.write_ok p [0] (by rw [List.length_singleton]; omega)
    obtain ⟨buf₂, hwipe, hcells₂⟩ := ih buf₁ (p + 1) (by omega)
    refine ⟨buf₂, Memory.bind_eq_ok.mpr ⟨buf₁, hwrite, hwipe⟩, ?_⟩
    have hlen : (buf.cells.take p).length = p := by
      rw [List.length_take, buf.length_cells]
      omega
    have hstart : (buf.cells.take p ++ [0]).length = p + 1 := by
      rw [List.length_append, hlen, List.length_singleton]
    rw [hcells₂, hcells₁, List.length_singleton, List.take_left' hstart, ← List.drop_drop,
      List.drop_left' hstart, List.drop_drop, List.replicate_succ, List.append_assoc,
      List.append_assoc, List.append_assoc, Nat.add_assoc, Nat.add_comm 1 n]
    rfl

/-- After a wipe a slot holds as many zeros as it held bytes. -/
theorem Found.wipe {m : FreshMap UInt64 Bytes} {id : UInt64} {s : SecretSlot} {buf : Bytes}
    (h : Found m id s buf) :
    ∃ buf', s.wipe = .ok buf' ∧ buf'.length = buf.length ∧
      buf'.take s.len = List.replicate s.len 0 := by
  have hfits := h.fits
  obtain ⟨r, hwipe, hcells⟩ := wipe_ok (Region.ofList buf) 0 s.len (by omega)
  refine ⟨r.cells, ?_, r.length_cells, ?_⟩
  · rw [SecretSlot.wipe, h.ptr_eq]
    exact Memory.bind_eq_ok.mpr ⟨r, hwipe, rfl⟩
  · rw [hcells, List.take_zero, List.nil_append]
    exact List.take_left' List.length_replicate

/-! ## The operations

One specification lemma for each: what it answers in terms of the map, and the map that the table
stands for afterwards. -/

theorem fits_set {slots : List SecretSlot} {i : Nat} {s : SecretSlot}
    (h : ∀ s ∈ slots, ∀ buf, s.ptr = some buf → s.len ≤ buf.length)
    (hs : ∀ buf, s.ptr = some buf → s.len ≤ buf.length) :
    ∀ s' ∈ slots.set i s, ∀ buf, s'.ptr = some buf → s'.len ≤ buf.length := by
  intro s' hs' buf hbuf
  rcases List.mem_or_eq_of_mem_set hs' with hold | rfl
  · exact h s' hold buf hbuf
  · exact hs buf hbuf

/-- What a call that only looks at a slot answers: `z` for an id that is not live, and for a live id
what it makes of the bytes of its slot. -/
theorem of_secretFind {t : SecretTable} {m : FreshMap UInt64 Bytes} (h : t.Represents m)
    (id : UInt64) {r : Except Fault Bytes} {z : Bytes} {g : Bytes → Bytes}
    (hnone : secretFind t id = none → r = .ok z)
    (hsome : ∀ i s buf, secretFind t id = some i → t.slots.get i = s → Found m id s buf →
      r = .ok (g (buf.take s.len))) : r = .ok ((m.live.lookup id).elim z g) := by
  rcases secretFind_spec h id with ⟨hfind, hlookup⟩ | ⟨i, s, buf, hfind, hslot, hfound⟩
  · rw [hlookup]
    exact hnone hfind
  · rw [hfound.lookup_eq]
    exact hsome i s buf hfind hslot hfound

theorem secretRead_spec {t : SecretTable} {m : FreshMap UInt64 Bytes} (h : t.Represents m)
    (id : UInt64) : secretRead t id = .ok ((m.live.lookup id).getD []) := by
  have helim : (m.live.lookup id).getD [] = (m.live.lookup id).elim [] fun b ↦ b := by
    cases m.live.lookup id <;> rfl
  rw [helim]
  refine of_secretFind h id (fun hfind ↦ by rw [secretRead, hfind])
    fun i s buf hfind hslot hfound ↦ ?_
  change t.slots[i] = s at hslot
  rw [secretRead, hfind]
  dsimp only
  rw [hslot]
  split
  · rename_i hzero
    rw [hzero, List.take_zero]
  · exact hfound.read rfl

theorem secretZeroize_spec {t : SecretTable} {m : FreshMap UInt64 Bytes} (h : t.Represents m)
    (id : UInt64) :
    ∃ t', secretZeroize t id = .ok t' ∧
      t'.Represents (m.modify id fun b ↦ List.replicate b.length 0) := by
  rcases secretFind_spec h id with ⟨hfind, hlookup⟩ | ⟨i, s, buf, hfind, hslot, hfound⟩
  · exact ⟨t, by rw [secretZeroize, hfind], h.congr (FreshMap.update_of_lookup_none hlookup) rfl⟩
  · obtain ⟨buf', hwipe, hlen, hzeros⟩ := hfound.wipe
    have hfits := hfound.fits
    change t.slots[i] = s at hslot
    refine ⟨t.set i { s with ptr := some buf' }, ?_, ?_, ?_, h.nextId, h.issued⟩
    · rw [secretZeroize, hfind]
      dsimp only
      rw [hslot]
      exact Memory.bind_eq_ok.mpr ⟨buf', hwipe, rfl⟩
    · have hlive : (m.modify id fun b ↦ List.replicate b.length 0).live =
          m.live.insert id (List.replicate s.len 0) := by
        have hlen := List.length_take_of_le hfits
        rw [← hlen]
        exact FreshMap.update_of_lookup hfound.lookup_eq
      rw [hlive]
      refine h.slots.update i.isLt (hslot ▸ hfound.entry_eq) ?_
      rw [SecretSlot.entry_eq rfl, hfound.id_eq]
      exact congrArg _ (congrArg _ hzeros)
    · refine fits_set h.fits fun b hb ↦ ?_
      cases hb
      rw [hlen]
      exact hfits

theorem secretRelease_spec {t : SecretTable} {m : FreshMap UInt64 Bytes} (h : t.Represents m)
    (id : UInt64) : ∃ t', secretRelease t id = .ok t' ∧ t'.Represents (m.release id) := by
  rcases secretFind_spec h id with ⟨hfind, hlookup⟩ | ⟨i, s, buf, hfind, hslot, hfound⟩
  · refine ⟨t, by rw [secretRelease, hfind], h.congr ?_ rfl⟩
    exact FreshMap.erase_of_notMem (Finmap.lookup_eq_none.mp hlookup)
  · obtain ⟨buf', hwipe, -, -⟩ := hfound.wipe
    change t.slots[i] = s at hslot
    refine ⟨t.set i ⟨0, none, 0⟩, ?_, ?_, ?_, h.nextId, h.issued⟩
    · rw [secretRelease, hfind]
      dsimp only
      rw [hslot]
      exact Memory.bind_eq_ok.mpr ⟨buf', hwipe, rfl⟩
    · exact h.slots.erase i.isLt (hslot ▸ hfound.entry_eq) rfl
    · refine fits_set h.fits fun b hb ↦ ?_
      cases hb

/-- The map is as large as the number of taken slots. -/
theorem SecretTable.Represents.size_eq {t : SecretTable} {m : FreshMap UInt64 Bytes}
    (h : t.Represents m) : m.size = t.slots.countP fun s ↦ s.ptr.isSome := by
  rw [FreshMap.size, h.slots.card_keys]
  exact List.countP_congr fun s _ ↦ by rw [s.isSome_entry]

theorem SecretTable.Represents.size_le {t : SecretTable} {m : FreshMap UInt64 Bytes}
    (h : t.Represents m) : m.size ≤ secretSlots := by
  rw [h.size_eq, ← t.length_slots]
  exact List.countP_le_length

/-- The counter of `secretLiveCount` after a list of slots. -/
theorem foldl_liveCount (slots : List SecretSlot) (live : UInt64) :
    slots.foldl (fun live s ↦ if s.ptr.isSome then live + 1 else live) live =
      live + UInt64.ofNat (slots.countP fun s ↦ s.ptr.isSome) := by
  induction slots generalizing live with
  | nil => simp
  | cons s slots ih =>
    rw [List.foldl_cons, ih, List.countP_cons]
    split
    · rw [UInt64.ofNat_add, UInt64.add_assoc, UInt64.add_comm 1]
      rfl
    · rfl

theorem secretLiveCount_spec {t : SecretTable} {m : FreshMap UInt64 Bytes} (h : t.Represents m) :
    (secretLiveCount t).toNat = m.size := by
  have hle := h.size_le
  rw [secretLiveCount, foldl_liveCount, UInt64.zero_add, ← h.size_eq]
  exact UInt64.toNat_ofNat_of_lt' (Nat.lt_of_le_of_lt hle (by decide))

/-- What `secret_alloc` stores reads back. -/
theorem alloc_buffer {n : Nat} {bytes : Bytes} (hn : n = blockSize bytes)
    (block : Region UInt8 n) :
    ∃ buf, fillBlock bytes block = .ok buf ∧ buf.cells.take bytes.length = bytes ∧
      bytes.length ≤ buf.cells.length := by
  rw [blockSize] at hn
  rw [fillBlock]
  by_cases hzero : bytes.length = 0
  · refine ⟨block, if_pos hzero, ?_, by omega⟩
    rw [hzero, List.take_zero, List.eq_nil_of_length_eq_zero hzero]
  · rw [if_neg hzero] at hn
    obtain ⟨buf, hwrite, hext⟩ := Region.write_extends (r := block) List.nil_prefix 0 bytes rfl
      (by omega)
    refine ⟨buf, by rw [if_neg hzero, hwrite], ?_, hext.length_le⟩
    exact (List.prefix_iff_eq_take.mp hext).symm

/-- Below 2^64 the next id counts the ids issued so far. -/
theorem SecretTable.Represents.toNat_nextId {t : SecretTable} {m : FreshMap UInt64 Bytes}
    (h : t.Represents m) (hissued : m.issued.card + 1 < 2 ^ 64) :
    t.nextId.toNat = m.issued.card + 1 := by
  rw [h.nextId]
  exact UInt64.toNat_ofNat_of_lt' hissued

/-- Below 2^64 the next id was not issued before. -/
theorem SecretTable.Represents.nextId_fresh {t : SecretTable} {m : FreshMap UInt64 Bytes}
    (h : t.Represents m) (hissued : m.issued.card + 1 < 2 ^ 64) : t.nextId ∉ m.issued := by
  intro hmem
  have hle := (h.issued t.nextId hmem).2
  have hnext := h.toNat_nextId hissued
  omega

/-- Taking the first free slot for the next id. -/
theorem SecretTable.Represents.bind {t : SecretTable} {m : FreshMap UInt64 Bytes}
    (h : t.Represents m) (hissued : m.issued.card + 1 < 2 ^ 64) {i : Fin t.slots.length}
    (hfree : t.slots[i].ptr = none) {buf bytes : Bytes} (hbuf : buf.take bytes.length = bytes)
    (hfits : bytes.length ≤ buf.length) :
    SecretTable.Represents
      { t.set i ⟨t.nextId, some buf, bytes.length⟩ with nextId := t.nextId + 1 }
      (m.bind t.nextId bytes) := by
  have hfresh := h.nextId_fresh hissued
  have hcard : (m.bind t.nextId bytes).issued.card = m.issued.card + 1 :=
    Finset.card_insert_of_notMem hfresh
  refine ⟨?_, ?_, ?_, ?_⟩
  · refine h.slots.insert i.isLt ?_ ?_ fun hlive ↦ hfresh (m.live_issued _ hlive)
    · have hnone : t.slots[i].entry = none := by rw [SecretSlot.entry, hfree, Option.map_none]
      exact hnone
    · rw [SecretSlot.entry_eq rfl]
      exact congrArg _ (congrArg _ hbuf)
  · refine fits_set h.fits fun b hb ↦ ?_
    cases hb
    exact hfits
  · rw [hcard, UInt64.ofNat_add, ← h.nextId]
    rfl
  · intro id hid
    rw [hcard]
    rcases Finset.mem_insert.mp hid with rfl | hold
    · have hnext := h.toNat_nextId hissued
      refine ⟨fun hzero ↦ ?_, Nat.le_of_eq hnext⟩
      rw [hzero, UInt64.toNat_zero] at hnext
      omega
    · have := h.issued id hold
      exact ⟨this.1, by omega⟩

/-- **Allocation.**  Fewer than 2^64 ids have been issued, so the next id is a new one. -/
theorem secretAlloc_spec [HaclStar] {t : SecretTable} {m : FreshMap UInt64 Bytes}
    (h : t.Represents m) (hissued : m.issued.card + 1 < 2 ^ 64) (bytes : Bytes)
    (malloc : (n : Nat) → Option (Region UInt8 n)) :
    ∃ t' id m', secretAlloc t bytes malloc = .ok (t', id) ∧
      SecretMove m (.alloc bytes malloc) (.id id) m' ∧ t'.Represents m' ∧
      m'.issued.card ≤ m.issued.card + 1 := by
  have hsize := h.size_eq
  rw [secretAlloc]
  cases hfind : t.slots.findFinIdx? fun s ↦ s.ptr.isNone with
  | none =>
    have hall : ∀ s ∈ t.slots, s.ptr.isSome = true := fun s hs ↦ by
      have htaken := List.findFinIdx?_eq_none_iff.mp hfind s hs
      rwa [Option.isNone_iff_eq_none, ← Ne, ← Option.isSome_iff_ne_none] at htaken
    have hfull : m.size = secretSlots := by
      rw [hsize, List.countP_eq_length.mpr hall, t.length_slots]
    exact ⟨t, 0, m, rfl, .allocFails (.inl hfull), h, Nat.le_succ _⟩
  | some i =>
    have hfree : t.slots[i].ptr = none :=
      Option.isNone_iff_eq_none.mp (List.findFinIdx?_eq_some_iff.mp hfind).1
    have hroom : m.size < secretSlots := by
      refine Nat.lt_of_le_of_ne h.size_le fun hfull ↦ ?_
      rw [hsize, ← t.length_slots] at hfull
      have htaken := List.countP_eq_length.mp hfull t.slots[i] (List.getElem_mem i.isLt)
      rw [hfree] at htaken
      cases htaken
    cases hmem : malloc (blockSize bytes) with
    | none =>
      exact ⟨t, 0, m, rfl, .allocFails (.inr hmem), h, Nat.le_succ _⟩
    | some block =>
      obtain ⟨buf, hwrite, htake, hfits⟩ := alloc_buffer rfl block
      refine ⟨_, t.nextId, _, ?_, .alloc hroom (by rw [hmem]; rfl) ?_ (h.nextId_fresh hissued),
        h.bind hissued hfree htake hfits, Nat.le_of_eq (Finset.card_insert_of_notMem
          (h.nextId_fresh hissued))⟩
      · exact Memory.bind_eq_ok.mpr ⟨buf, hwrite, rfl⟩
      · intro hzero
        have hnext := h.toNat_nextId hissued
        rw [hzero, UInt64.toNat_zero] at hnext
        omega

/-- No two slots hold the same live id. -/
def SecretTable.LiveIdsDistinct (t : SecretTable) : Prop :=
  ∀ i j : Fin t.slots.length, (t.slots.get i).ptr.isSome → (t.slots.get j).ptr.isSome →
    (t.slots.get i).id = (t.slots.get j).id → i = j

theorem SecretTable.Represents.liveIdsDistinct {t : SecretTable} {m : FreshMap UInt64 Bytes}
    (h : t.Represents m) : t.LiveIdsDistinct := by
  intro i j hi hj hid
  obtain ⟨buf, hbuf⟩ := Option.isSome_iff_exists.mp hi
  obtain ⟨buf', hbuf'⟩ := Option.isSome_iff_exists.mp hj
  have hentry := SecretSlot.entry_eq hbuf'
  rw [← hid] at hentry
  exact Fin.ext (h.slots.index_eq i.isLt j.isLt (SecretSlot.entry_eq hbuf) hentry)

/-- An id that is not live is not found. -/
theorem secretFind_eq_none {t : SecretTable} {m : FreshMap UInt64 Bytes} (h : t.Represents m)
    {id : UInt64} : secretFind t id = none ↔ id ∉ m.live := by
  rw [← Finmap.lookup_eq_none]
  rcases secretFind_spec h id with ⟨hfind, hlookup⟩ | ⟨i, s, buf, hfind, hslot, hfound⟩
  · exact iff_of_true hfind hlookup
  · rw [hfind, hfound.lookup_eq]
    exact iff_of_false nofun nofun

/-- Releasing an id again changes nothing. -/
theorem SecretTable.Represents.release_release {t t' : SecretTable} {m : FreshMap UInt64 Bytes}
    (h : t.Represents m) {id : UInt64} (hrelease : secretRelease t id = .ok t') :
    secretRelease t' id = .ok t' := by
  obtain ⟨t'', hrelease', hrep⟩ := secretRelease_spec h id
  cases hrelease.symm.trans hrelease'
  have hnone := (secretFind_eq_none hrep).mpr Finmap.notMem_erase_self
  rw [secretRelease, hnone]

/-- The table stands for the map, in which at most `n` ids have been issued. -/
def SecretTable.Simulates (n : Nat) (t : SecretTable) (m : FreshMap UInt64 Bytes) : Prop :=
  t.Represents m ∧ m.issued.card ≤ n

theorem SecretTable.simulates_initial : SecretTable.initial.Simulates 0 .empty :=
  ⟨SecretTable.represents_initial, Nat.le_refl 0⟩

/-! ## Signing by handle -/

section

variable [HaclStar]

theorem ed25519SignH_spec {t : SecretTable} {m : FreshMap UInt64 Bytes} (h : t.Represents m)
    (keyId : UInt64) (msg : Bytes) :
    ed25519SignH t keyId msg =
      .ok ((m.live.lookup keyId).elim [] fun key ↦ ed25519Sign key msg) := by
  refine of_secretFind h keyId (fun hfind ↦ by rw [ed25519SignH, hfind])
    fun i s buf hfind hslot hfound ↦ ?_
  change t.slots[i] = s at hslot
  rw [ed25519SignH, hfind]
  dsimp only
  rw [hslot, ed25519Sign, List.length_take_of_le hfound.fits]
  split
  · rfl
  · rename_i hok
    rw [not_or, not_not] at hok
    exact Memory.bind_eq_ok.mpr ⟨_, hfound.read hok.1.symm, rfl⟩

theorem ecdsaP256SignH_spec {t : SecretTable} {m : FreshMap UInt64 Bytes} (h : t.Represents m)
    (msg : Bytes) (keyId : UInt64) (k : Bytes) :
    ecdsaP256SignH t msg keyId k =
      .ok ((m.live.lookup keyId).elim (failure 64) fun key ↦ ecdsaP256Sign msg key k) := by
  refine of_secretFind h keyId (fun hfind ↦ by rw [ecdsaP256SignH, hfind])
    fun i s buf hfind hslot hfound ↦ ?_
  change t.slots[i] = s at hslot
  rw [ecdsaP256SignH, hfind]
  dsimp only
  rw [hslot, ecdsaP256Sign, List.length_take_of_le hfound.fits]
  split
  · rfl
  · rename_i hok
    rw [not_or, not_not] at hok
    exact Memory.bind_eq_ok.mpr ⟨_, hfound.read hok.1.symm, rfl⟩

theorem rsapssSignH_spec {t : SecretTable} {m : FreshMap UInt64 Bytes} (h : t.Represents m)
    (n e : Bytes) (dId : UInt64) (salt msg : Bytes) :
    rsapssSignH t n e dId salt msg =
      .ok ((m.live.lookup dId).elim (failure n.length) fun d ↦ rsapssSign n e d salt msg) := by
  have hpublic : ∀ d, n.length = 0 ∨ e.length = 0 → rsapssSign n e d salt msg = failure n.length :=
    fun d hbad ↦ if_pos (hbad.elim .inl fun he ↦ .inr (.inl he))
  rw [rsapssSignH]
  split
  · rename_i hbad
    cases m.live.lookup dId with
    | none => rfl
    | some d => rw [Option.elim, hpublic d hbad]
  · rename_i hok
    rw [not_or] at hok
    refine of_secretFind h dId (fun hfind ↦ by rw [hfind]) fun i s buf hfind hslot hfound ↦ ?_
    change t.slots[i] = s at hslot
    rw [hfind]
    dsimp only
    rw [hslot, rsapssSign, List.length_take_of_le hfound.fits]
    split
    · rename_i hbad
      rw [if_pos (.inr (.inr hbad))]
    · rename_i hgood
      rw [if_neg fun hbad ↦ hbad.elim hok.1 fun hbad ↦ hbad.elim hok.2 hgood]
      exact Memory.bind_eq_ok.mpr ⟨_, hfound.read rfl, rfl⟩

/-! ## All calls -/

/-- **One call.**  Whatever the table stands for, the call does what the specification allows. -/
theorem secretStep_simulates {n : Nat} {t : SecretTable} {m : FreshMap UInt64 Bytes}
    (h : t.Simulates n m) (c : SecretCall) (hn : n + (if c.isAlloc then 1 else 0) < 2 ^ 64) :
    ∃ t' a m', secretStep t c = .ok (t', a) ∧ SecretMove m c a m' ∧
      t'.Simulates (n + if c.isAlloc then 1 else 0) m' := by
  obtain ⟨hrep, hcard⟩ := h
  cases c with
  | alloc bytes malloc =>
    have hissued : m.issued.card + 1 < 2 ^ 64 := Nat.lt_of_le_of_lt (Nat.succ_le_succ hcard) hn
    obtain ⟨t', id, m', halloc, hmove, hrep', hcard'⟩ :=
      secretAlloc_spec hrep hissued bytes malloc
    exact ⟨t', .id id, m', Memory.bind_eq_ok.mpr ⟨_, halloc, rfl⟩, hmove, hrep',
      Nat.le_trans hcard' (Nat.succ_le_succ hcard)⟩
  | read id =>
    exact ⟨t, _, m, Memory.bind_eq_ok.mpr ⟨_, secretRead_spec hrep id, rfl⟩, .read m id, hrep,
      hcard⟩
  | zeroize id =>
    obtain ⟨t', hzeroize, hrep'⟩ := secretZeroize_spec hrep id
    exact ⟨t', .unit, _, Memory.bind_eq_ok.mpr ⟨t', hzeroize, rfl⟩, .zeroize m id, hrep', hcard⟩
  | release id =>
    obtain ⟨t', hrelease, hrep'⟩ := secretRelease_spec hrep id
    exact ⟨t', .unit, _, Memory.bind_eq_ok.mpr ⟨t', hrelease, rfl⟩, .release m id, hrep', hcard⟩
  | liveCount => exact ⟨t, _, m, rfl, .liveCount (secretLiveCount_spec hrep), hrep, hcard⟩
  | ed25519SignH keyId msg =>
    exact ⟨t, _, m, Memory.bind_eq_ok.mpr ⟨_, ed25519SignH_spec hrep keyId msg, rfl⟩,
      .ed25519SignH m keyId msg, hrep, hcard⟩
  | ecdsaP256SignH msg keyId k =>
    exact ⟨t, _, m, Memory.bind_eq_ok.mpr ⟨_, ecdsaP256SignH_spec hrep msg keyId k, rfl⟩,
      .ecdsaP256SignH m msg keyId k, hrep, hcard⟩
  | rsapssSignH n e dId salt msg =>
    exact ⟨t, _, m, Memory.bind_eq_ok.mpr ⟨_, rsapssSignH_spec hrep n e dId salt msg, rfl⟩,
      .rsapssSignH m n e dId salt msg, hrep, hcard⟩

/-- What was issued stays issued. -/
theorem SecretMove.issued {m m' : FreshMap UInt64 Bytes} {c : SecretCall} {a : SecretAnswer}
    (h : SecretMove m c a m') {id : UInt64} (hid : id ∈ m.issued) : id ∈ m'.issued := by
  cases h with
  | alloc => exact Finset.mem_insert_of_mem hid
  | _ => exact hid

/-- An id some allocation has returned is issued. -/
theorem issued_of_mem_labels {m m' : FreshMap UInt64 Bytes}
    {labels : List (SecretCall × SecretAnswer)} (h : Path SecretMove m labels m') {id : UInt64}
    (hid : id ≠ 0) {bytes : Bytes} {malloc : (n : Nat) → Option (Region UInt8 n)}
    (hmem : (.alloc bytes malloc, .id id) ∈ labels) : id ∈ m'.issued := by
  induction h with
  | nil => cases hmem
  | cons hmove hpath ih =>
    rcases List.mem_cons.mp hmem with heq | hrest
    · cases heq
      have hissued := hpath.invariant (I := fun m ↦ id ∈ m.issued)
        (fun _ _ _ _ hmv hm ↦ hmv.issued hm)
      cases hmove with
      | alloc => exact hissued (Finset.mem_insert_self _ _)
      | allocFails => exact absurd rfl hid
    · exact ih hrest

/-- After the calls `pre`, an id that one of them returned and that is not found any more is not
found after further calls either. -/
def NeverRevives (calls : List SecretCall) : Prop :=
  ∀ pre post, calls = pre ++ post → ∀ id bytes malloc, id ≠ 0 →
    (.alloc bytes malloc, .id id) ∈ (exec secretStep .initial pre).map Transition.label →
    secretFind (execState secretStep .initial pre) id = none →
    secretFind (execState secretStep .initial calls) id = none

/-- An execution from any table that stands for a map. -/
theorem exec_secretStep {n : Nat} {t : SecretTable} {m : FreshMap UInt64 Bytes}
    (h : t.Simulates n m) (calls : List SecretCall)
    (hcount : n + calls.countP SecretCall.isAlloc < 2 ^ 64) :
    ∃ m', Path SecretMove m ((exec secretStep t calls).map Transition.label) m' ∧
      (exec secretStep t calls).map Transition.input = calls ∧
      (execState secretStep t calls).Simulates (n + calls.countP SecretCall.isAlloc) m' := by
  have hstep : ∀ n (t : SecretTable) m c, t.Simulates n m →
      n + (if c.isAlloc then 1 else 0) < 2 ^ 64 →
      ∃ t' a m', secretStep t c = .ok (t', a) ∧ SecretMove m c a m' ∧
        t'.Simulates (n + if c.isAlloc then 1 else 0) m' :=
    fun _ _ _ c hsim hn ↦ secretStep_simulates hsim c hn
  exact exec_simulates hstep h hcount

theorem neverRevives {calls : List SecretCall}
    (hcount : calls.countP SecretCall.isAlloc < 2 ^ 64) : NeverRevives calls := by
  rintro pre post rfl id bytes malloc hid hmem hgone
  rw [List.countP_append] at hcount
  obtain ⟨m, hpath, hinputs, hsim⟩ := exec_secretStep SecretTable.simulates_initial pre
    (by omega)
  obtain ⟨m', hpath', -, hsim'⟩ := exec_secretStep hsim post (by omega)
  have hdead : m.Dead id :=
    ⟨issued_of_mem_labels hpath hid hmem, (secretFind_eq_none hsim.1).mp hgone⟩
  have hdead' := hpath'.invariant (I := fun m ↦ m.Dead id)
    (fun _ _ _ _ hmv hm ↦ hmv.dead hm) hdead
  rw [Machine.execState_append hinputs]
  exact (secretFind_eq_none hsim'.1).mpr hdead'.2

/-- **The table is a map with fresh ids.**  Every sequence of calls with fewer than 2^64 allocations
runs to its end without a fault, and answers as the map does; in the state it leads to the slots
hold the map, no two of them the same id, a second release changes nothing, and no id that was
released is found again. -/
theorem secretTable_refines (calls : List SecretCall)
    (hcount : calls.countP SecretCall.isAlloc < 2 ^ 64) :
    ∃ m, Path SecretMove .empty ((exec secretStep .initial calls).map Transition.label) m ∧
      (exec secretStep .initial calls).map Transition.input = calls ∧
      (execState secretStep .initial calls).Represents m ∧
      (execState secretStep .initial calls).LiveIdsDistinct ∧
      (∀ id t', secretRelease (execState secretStep .initial calls) id = .ok t' →
        secretRelease t' id = .ok t') ∧
      NeverRevives calls := by
  obtain ⟨m, hpath, hinputs, hsim⟩ := exec_secretStep SecretTable.simulates_initial calls
    (by omega)
  exact ⟨m, hpath, hinputs, hsim.1, hsim.1.liveIdsDistinct,
    fun _ _ hrelease ↦ hsim.1.release_release hrelease, neverRevives hcount⟩

end

/-! ## A short life of the table -/

namespace Session

/-- A `malloc` that always has memory. -/
def malloc (n : Nat) : Option (Region UInt8 n) := some (zeros n)

/-- Allocate, wipe, read, release, read, and allocate again in the slot that became free. -/
def secretCalls : List SecretCall :=
  [.alloc [1, 2, 3] malloc, .zeroize 1, .read 1, .release 1, .read 1, .alloc [] malloc, .read 1,
    .liveCount, .ed25519SignH 2 [7]]

end Session

attribute [local instance] Session.hacl

/-- The short life, call by call: the second allocation reuses the slot under a new id, which is no
Ed25519 key. -/
theorem secretTable_refines_secretCalls :
    (exec secretStep .initial Session.secretCalls).map Transition.output =
      [.id 1, .unit, .bytes [0, 0, 0], .unit, .bytes [], .id 2, .bytes [], .count 1, .bytes []] ∧
      ∃ m, Path SecretMove .empty
        ((exec secretStep .initial Session.secretCalls).map Transition.label) m ∧
      (execState secretStep .initial Session.secretCalls).Represents m := by
  constructor
  · decide +kernel
  · obtain ⟨m, hpath, -, hrep, -⟩ := secretTable_refines Session.secretCalls (by decide)
    exact ⟨m, hpath, hrep⟩

end Kroopt.Native
