import Kroopt.Native.HkdfExpand
import Mathlib.Algebra.GroupWithZero.Nat

/-!
# HKDF-Expand-SHA384 against RFC 5869

RFC 5869 computes the output block by block: each is the HMAC of the block before it, the info, and
a counter byte.  The C function does the same in a scratch buffer that is as long as the longest
message.  It keeps the length of the message in a `uint32_t`, and the guard lets `info` be as long
as that type can say.  So the length it gives HMAC is the length of the message modulo 2^32, and
where the two differ the function computes something else.

The copies into the scratch buffer are a different matter.  An offset that wraps is smaller than it
should be and never larger, so no copy leaves its buffer, whatever happens to the length of the
message.  That is why there are two invariants.  `Looped` holds after any number of iterations,
whatever the lengths, and says that the function does not fault and what HMAC was given.  `Matches`
holds after as many iterations if no length wrapped.

The condition under which no length wraps can be computed: the first message is shorter than the
others by one hash, so it is about `info` alone if one block is asked for, and about `info` and one
hash otherwise (`messagesFit_iff`).  That it is also necessary takes more than the lengths.  HMAC is
a parameter of the development, and a function that hashes a shorter message may happen to return
the same bytes; so the specification asks for the messages that HMAC is given, and not for its
results alone.

## Main definitions

* `Looped`: what holds after any number of iterations: the counters, and the lengths of the messages
  HMAC was given.  No copy leaves its buffer.
* `Matches`: what holds after as many iterations if no length wrapped: the output so far and the
  messages are those of RFC 5869.
* `ExpandsAsRfc5869`: the function refuses, or returns the output of RFC 5869, has hashed its
  messages and counted them.
* `MessagesFit`: no length wraps.

## Main results

* `expandBody_step` and `expandLoop_spec`: the step lemma and the run lemma for both invariants.
* `hkdfExpand384_spec` and `hkdfExpand384_refuses`: the function, behind its guard and in front of
  it.
* `expandsAsRfc5869_iff`: exactly when the function is HKDF-Expand.
-/

set_option autoImplicit false

namespace Kroopt.Native

open Memory (Region Fault Allocator)

/-- The length of `T(k)`. -/
def lastLen (k : Nat) : Nat := if k = 0 then 0 else 48

/-- The length of the message of the iteration after `k` others. -/
def messageLen (infolen k : Nat) : Nat := lastLen k + infolen + 1

theorem messageLen_le (infolen k : Nat) : messageLen infolen k ≤ 48 + infolen + 1 := by
  rw [messageLen, lastLen]
  split <;> omega

/-- The offset behind `info` is cut to 32 bits. -/
theorem toNat_off {info : Bytes} (hinfo : info.length ≤ uint32Max) {k : Nat} {tiLen : UInt32}
    (hlast : tiLen.toNat = lastLen k) :
    (0 + tiLen + UInt32.ofNat info.length).toNat = (lastLen k + info.length) % 2 ^ 32 := by
  have hlen : (UInt32.ofNat info.length).toNat = info.length := by
    rw [UInt32.toNat_ofNat', Nat.mod_eq_of_lt]
    rw [uint32Max] at hinfo
    omega
  rw [UInt32.toNat_add, hlen, UInt32.zero_add, hlast]

/-- **The message of an iteration.**  No copy leaves the scratch buffer, and the length given to
HMAC is that of the message modulo 2^32; if that changes nothing, HMAC is given the message. -/
theorem expandMessage_spec {info : Bytes} (hinfo : info.length ≤ uint32Max) {len k : Nat}
    {st : ExpandState info.length len} (hlast : st.tiLen.toNat = lastLen k) (i : UInt8) :
    ∃ text msg, expandMessage info st i = .ok (text, msg) ∧
      msg.length = messageLen info.length k % 2 ^ 32 ∧
      (messageLen info.length k < 2 ^ 32 →
        ∀ last, st.ti.read (lastLen k) = .ok last → msg = last ++ info ++ [i]) := by
  have hk : lastLen k ≤ 48 := by
    rw [lastLen]
    split <;> omega
  have hlt : lastLen k < 2 ^ 32 := by omega
  have hread := st.ti.read_ok hk
  have hlen : (st.ti.cells.take (lastLen k)).length = lastLen k := Memory.Region.read_length hread
  have hoff₁ : (0 + st.tiLen).toNat = lastLen k := by rw [UInt32.zero_add, hlast]
  have hoff₂ := toNat_off hinfo hlast
  have hoff₂le : (lastLen k + info.length) % 2 ^ 32 ≤ lastLen k + info.length := Nat.mod_le _ _
  -- the three copies, each behind the one before it
  obtain ⟨text₁, hw₁, hp₁⟩ := Memory.Region.write_extends (r := st.text) List.nil_prefix 0
    (st.ti.cells.take (lastLen k)) rfl (by omega)
  obtain ⟨text₂, hw₂, hp₂⟩ := Memory.Region.write_extends hp₁ (lastLen k) info
    (by rw [List.nil_append, hlen]) (by omega)
  obtain ⟨text₃, hw₃, hcells⟩ := text₂.write_ok
    ((lastLen k + info.length) % 2 ^ 32) [i] (by rw [List.length_singleton]; omega)
  have hoff₃ : (0 + st.tiLen + UInt32.ofNat info.length + 1).toNat =
      messageLen info.length k % 2 ^ 32 := by
    rw [UInt32.toNat_add, hoff₂, messageLen]
    exact Nat.mod_add_mod _ _ _
  have hsize : messageLen info.length k % 2 ^ 32 ≤ 48 + info.length + 1 :=
    Nat.le_trans (Nat.mod_le _ _) (messageLen_le _ _)
  have hmsg := text₃.read_ok hsize
  refine ⟨text₃, _, ?_, Memory.Region.read_length hmsg, ?_⟩
  · simp only [expandMessage, Memory.bind_eq_ok]
    exact ⟨_, by rw [hlast]; exact hread, text₁, hw₁, text₂, by rw [hoff₁]; exact hw₂, text₃,
      by rw [hoff₂]; exact hw₃, _, by rw [hoff₃]; exact hmsg, rfl⟩
  · intro hwrap last hlast'
    have hsame : last = st.ti.cells.take (lastLen k) := Except.ok.inj (hlast'.symm.trans hread)
    have hfit : lastLen k + info.length < 2 ^ 32 := by
      rw [messageLen] at hwrap
      omega
    have hlen₂ : (last ++ info).length = lastLen k + info.length := by
      rw [List.length_append, hsame, hlen]
    rw [List.nil_append, ← hsame] at hp₂
    rw [Nat.mod_eq_of_lt hfit, ← hlen₂] at hw₃
    obtain ⟨text₃', hw₃', hp₃⟩ := Memory.Region.write_extends hp₂ _ [i] rfl
      (by rw [hlen₂, List.length_singleton]; omega)
    cases hw₃.symm.trans hw₃'
    have hlen₃ : messageLen info.length k = (last ++ info ++ [i]).length := by
      rw [List.length_append, hlen₂, List.length_singleton, messageLen]
    rw [Nat.mod_eq_of_lt hwrap, hlen₃, ← List.prefix_iff_eq_take.mp hp₃]

section

variable [HaclStar]

/-- HMAC-SHA384 under a key. -/
def mac384 (prk msg : Bytes) : Bytes := (HaclStar.hmacSha384 prk msg).cells

theorem length_mac384 (prk msg : Bytes) : (mac384 prk msg).length = 48 :=
  (HaclStar.hmacSha384 prk msg).length_cells

/-- The state after `k` iterations, whatever the lengths. -/
structure Looped {infolen len : Nat} (prk : Bytes) (k : Nat) (st : ExpandState infolen len) :
    Prop where
  counter : st.i.toNat = k
  done : st.done.toNat = min (48 * k) len
  last : st.tiLen.toNat = lastLen k
  lengths : st.hashed.map List.length =
    (List.range k).map fun j ↦ messageLen infolen j % 2 ^ 32
  okm : (st.hashed.flatMap (mac384 prk)).take len <+: st.okm.cells

/-- The state after `k` iterations is that of RFC 5869. -/
structure Matches {len : Nat} (prk info : Bytes) (k : Nat) (st : ExpandState info.length len) :
    Prop where
  last : st.ti.read (lastLen k) = .ok (Hkdf.block (mac384 prk) info k)
  hashed : st.hashed = (List.range k).map (Hkdf.message (mac384 prk) info)

theorem Looped.length_hashed {infolen outlen k : Nat} {prk : Bytes}
    {st : ExpandState infolen outlen} (h : Looped prk k st) : st.hashed.length = k := by
  have := congrArg List.length h.lengths
  simpa using this

/-- Once all rounds are made the output is full: it is what the messages hash to. -/
theorem Looped.cells_eq {infolen len : Nat} {prk : Bytes} {st : ExpandState infolen len}
    (h : Looped prk (Hkdf.rounds 48 len) st) :
    st.okm.cells = (st.hashed.flatMap (mac384 prk)).take len := by
  have hlen : len ≤ Hkdf.rounds 48 len * 48 := (Hkdf.rounds_le_iff (by omega)).mp (Nat.le_refl _)
  refine Memory.Region.cells_eq_of_full h.okm ?_
  rw [List.length_take, Hkdf.length_hashes (length_mac384 prk), h.length_hashed]
  omega

variable {prk info : Bytes} {len : UInt32}

/-- **One iteration.**  It never faults and adds the hash of a message to the output.  The length
of that message is right modulo 2^32, and if that changes nothing it is the message of RFC 5869. -/
theorem expandBody_step (hinfo : info.length ≤ uint32Max) {k : Nat}
    {st : ExpandState info.length len.toNat} (h : Looped prk k st) (hk : k < 255)
    (hlt : st.done < len) :
    ∃ st', expandBody prk info len st = .ok st' ∧ Looped prk (k + 1) st' ∧
      (messageLen info.length k < 2 ^ 32 → Matches prk info k st →
        Matches prk info (k + 1) st') := by
  obtain ⟨text, msg, hmessage, hlength, hmsg⟩ := expandMessage_spec hinfo h.last (st.i + 1)
  obtain ⟨hdone, htake⟩ := done_add_expandTake hlt
  have hmissing : 48 * k < len.toNat := by
    have := UInt32.lt_iff_toNat_lt.mp hlt
    have := h.done
    omega
  have hat : st.done.toNat = 48 * k := by
    rw [h.done, Nat.min_eq_left (Nat.le_of_lt hmissing)]
  have hcounter : (st.i + 1).toNat = k + 1 := by
    rw [UInt8.toNat_add, h.counter, UInt8.toNat_one]
    exact Nat.mod_eq_of_lt (by omega)
  -- what is copied to the output: all of the hash, or what is missing
  have hout := (HaclStar.hmacSha384 prk msg).read_ok (k := (expandTake len st.done).toNat)
    (by omega)
  have hpart : (HaclStar.hmacSha384 prk msg).cells.take (expandTake len st.done).toNat =
      (mac384 prk msg).take (len.toNat - st.hashed.length * 48) := by
    rw [← mac384, List.take_eq_take_iff, length_mac384, htake, hat, h.length_hashed]
    omega
  have hknown := Hkdf.length_hashes (length_mac384 prk) st.hashed
  obtain ⟨okm, hokm, hext⟩ := Memory.Region.write_extends h.okm st.done.toNat
    ((HaclStar.hmacSha384 prk msg).cells.take (expandTake len st.done).toNat)
    (by rw [List.length_take, hknown, h.length_hashed, hat]; omega)
    (by rw [Memory.Region.read_length hout]; omega)
  have hbody : expandBody prk info len st = .ok
      { text, ti := HaclStar.hmacSha384 prk msg, okm, tiLen := hl
        done := st.done + expandTake len st.done, i := st.i + 1
        hashed := st.hashed ++ [msg] } := by
    simp only [expandBody, Memory.bind_eq_ok]
    exact ⟨_, hmessage, _, hout, okm, hokm, rfl⟩
  refine ⟨_, hbody, ⟨?_, ?_, ?_, ?_, ?_⟩, ?_⟩
  · exact hcounter
  · rw [hdone, hat, Nat.mul_succ]
  · rw [lastLen, if_neg k.succ_ne_zero]
    rfl
  · rw [List.map_append, h.lengths, List.map_singleton, hlength, List.range_succ,
      List.map_append, List.map_singleton]
  · rw [Hkdf.take_hashes_append (length_mac384 prk), ← hpart]
    exact hext
  · intro hwrap hmatch
    have hi : st.i + 1 = UInt8.ofNat (k + 1) := by
      rw [← hcounter, UInt8.ofNat_toNat]
    have hmsg' : msg = Hkdf.message (mac384 prk) info k := by
      rw [hmsg hwrap _ hmatch.last, hi, Hkdf.message]
    refine ⟨?_, ?_⟩
    · rw [Hkdf.block_succ, ← hmsg', mac384]
      exact Memory.Region.read_size _
    · rw [List.range_succ, List.map_append, ← hmatch.hashed, List.map_singleton, ← hmsg']

/-- **The loop.**  It ends after as many iterations as there are blocks to compute. -/
theorem expandLoop_spec (hinfo : info.length ≤ uint32Max) (hlen : len.toNat ≤ 255 * 48) {k : Nat}
    {st : ExpandState info.length len.toNat} (h : Looped prk k st)
    (hk : k ≤ Hkdf.rounds 48 len.toNat) :
    ∃ st', expandLoop prk info len st = .ok st' ∧ Looped prk (Hkdf.rounds 48 len.toNat) st' ∧
      ((∀ j < Hkdf.rounds 48 len.toNat, messageLen info.length j < 2 ^ 32) →
        Matches prk info k st → Matches prk info (Hkdf.rounds 48 len.toNat) st') := by
  have hrounds : Hkdf.rounds 48 len.toNat ≤ k ↔ len.toNat ≤ k * 48 :=
    Hkdf.rounds_le_iff (by omega)
  have hmax : Hkdf.rounds 48 len.toNat ≤ 255 := Hkdf.rounds_le_of_len_le (by omega) hlen
  have hdone := h.done
  rw [expandLoop]
  by_cases hlt : st.done < len
  · have hmissing := UInt32.lt_iff_toNat_lt.mp hlt
    have hnext : k + 1 ≤ Hkdf.rounds 48 len.toNat := by omega
    obtain ⟨st₁, hbody, hlooped, hmatch⟩ := expandBody_step hinfo h (by omega) hlt
    obtain ⟨st', hloop, hend, hendmatch⟩ := expandLoop_spec hinfo hlen hlooped hnext
    rw [if_pos hlt]
    refine ⟨st', ?_, hend, ?_⟩
    · split
      · rename_i e he
        cases hbody.symm.trans he
      · rename_i st₂ he
        cases hbody.symm.trans he
        exact hloop
    · intro hwrap hm
      exact hendmatch hwrap (hmatch (hwrap k (by omega)) hm)
  · have hall : len.toNat ≤ st.done.toNat := UInt32.le_iff_toNat_le.mp (UInt32.not_lt.mp hlt)
    have hlast : k = Hkdf.rounds 48 len.toNat := by omega
    rw [if_neg hlt, ← hlast]
    exact ⟨st, rfl, h, fun _ hm ↦ hm⟩
termination_by Hkdf.rounds 48 len.toNat - k

/-! ## The function -/

/-- The call gets as far as the loop: both lengths pass the guard, at most 255 blocks are asked for
and there is memory for the scratch buffer. -/
def ExpandAdmitted (mem : Allocator UInt8) (prk info : Bytes) (len : UInt32) : Prop :=
  lenU32Ok prk ∧ lenU32Ok info ∧ len.toNat ≤ 255 * 48 ∧
    (mem.malloc (48 + info.length + 1)).isSome

instance (mem : Allocator UInt8) (prk info : Bytes) (len : UInt32) :
    Decidable (ExpandAdmitted mem prk info len) :=
  inferInstanceAs (Decidable (_ ∧ _ ∧ _ ∧ _))

/-- The call is HKDF-Expand: admitted, it ends without a fault, returns the output of RFC 5869,
gives HMAC the messages of RFC 5869, one for each block, and counts them without wrapping;
otherwise it returns nothing. -/
def ExpandsAsRfc5869 (mem : Allocator UInt8) (prk info : Bytes) (len : UInt32) : Prop :=
  if ExpandAdmitted mem prk info len then
    ∃ e, hkdfExpand384 mem prk info len = .ok e ∧
      e.returned = Hkdf.expand (mac384 prk) info 48 len.toNat ∧
      e.hashed = (List.range (Hkdf.rounds 48 len.toNat)).map (Hkdf.message (mac384 prk) info) ∧
      e.counter.toNat = Hkdf.rounds 48 len.toNat
  else ∃ e, hkdfExpand384 mem prk info len = .ok e ∧ e.returned = []

/-- Every message is short enough for the 32 bits its length is computed in: no block is asked for,
or one block and the first message fits, or the later messages fit too. -/
def MessagesFit (infolen len : Nat) : Prop :=
  len = 0 ∨ len ≤ 48 ∧ infolen + 1 < 2 ^ 32 ∨ 48 + infolen + 1 < 2 ^ 32

instance (infolen len : Nat) : Decidable (MessagesFit infolen len) :=
  inferInstanceAs (Decidable (_ ∨ _ ∧ _ ∨ _))

omit [HaclStar] in
theorem messagesFit_iff {infolen len : Nat} :
    MessagesFit infolen len ↔ ∀ j < Hkdf.rounds 48 len, messageLen infolen j < 2 ^ 32 := by
  have hrounds : ∀ n, Hkdf.rounds 48 len ≤ n ↔ len ≤ n * 48 :=
    fun n ↦ Hkdf.rounds_le_iff (by omega)
  constructor
  · rintro (h | ⟨h, h₁⟩ | h) j hj
    · have := (hrounds 0).mpr (by omega)
      omega
    · have := (hrounds 1).mpr (by omega)
      have hzero : j = 0 := by omega
      rw [messageLen, lastLen, if_pos hzero]
      omega
    · have := messageLen_le infolen j
      omega
  · intro h
    rw [MessagesFit]
    by_cases h₀ : len = 0
    · exact .inl h₀
    · by_cases h₁ : len ≤ 48
      · have hfirst := h 0 (Nat.lt_of_not_le fun hle ↦ by have := (hrounds 0).mp hle; omega)
        rw [messageLen, lastLen, if_pos rfl] at hfirst
        exact .inr (.inl ⟨h₁, by omega⟩)
      · have hsecond := h 1 (Nat.lt_of_not_le fun hle ↦ by have := (hrounds 1).mp hle; omega)
        rw [messageLen, lastLen, if_neg Nat.one_ne_zero] at hsecond
        exact .inr (.inr hsecond)

/-- What an admitted call does: the loop runs to its end, and what it returns is the state there. -/
theorem hkdfExpand384_spec {mem : Allocator UInt8} (h : ExpandAdmitted mem prk info len) :
    ∃ st : ExpandState info.length len.toNat,
      hkdfExpand384 mem prk info len = .ok ⟨st.okm.cells, st.hashed, st.i⟩ ∧
      Looped prk (Hkdf.rounds 48 len.toNat) st ∧
      (MessagesFit info.length len.toNat → Matches prk info (Hkdf.rounds 48 len.toNat) st) := by
  obtain ⟨hprk, hinfo, hlen, hmalloc⟩ := h
  obtain ⟨text, htext⟩ := Option.isSome_iff_exists.mp hmalloc
  have hstart : Looped prk 0
      ({ text, ti := mem.fresh 48, okm := mem.fresh len.toNat, tiLen := 0, done := 0, i := 0
         hashed := [] } : ExpandState info.length len.toNat) := by
    refine ⟨rfl, (Nat.zero_min _).symm, rfl, rfl, ?_⟩
    rw [List.flatMap_nil, List.take_nil]
    exact List.nil_prefix
  have hmatch : Matches prk info 0
      { text, ti := mem.fresh 48, okm := mem.fresh len.toNat, tiLen := 0, done := 0, i := 0
        hashed := [] } :=
    ⟨Memory.Region.read_zero _, rfl⟩
  have hinfo' : info.length ≤ uint32Max := of_decide_eq_true hinfo
  obtain ⟨st, hloop, hend, hall⟩ := expandLoop_spec hinfo' hlen hstart (Nat.zero_le _)
  refine ⟨st, ?_, hend, fun hfit ↦ hall (messagesFit_iff.mp hfit) hmatch⟩
  have hadm : ¬len > 255 * hl := fun hgt ↦ by
    have : 255 * 48 < len.toNat := UInt32.lt_iff_toNat_lt.mp hgt
    omega
  have htext' : mem.malloc (hl.toNat + info.length + 1) = some text := htext
  have hguard : ¬(!lenU32Ok prk || !lenU32Ok info) = true := by simp [hprk, hinfo]
  rw [hkdfExpand384, if_neg hguard, if_neg hadm, htext']
  exact Memory.bind_eq_ok.mpr ⟨st, hloop, rfl⟩

/-- A call that is not admitted returns nothing. -/
theorem hkdfExpand384_refuses {mem : Allocator UInt8} (h : ¬ExpandAdmitted mem prk info len) :
    hkdfExpand384 mem prk info len = .ok ⟨[], [], 0⟩ := by
  rw [hkdfExpand384]
  split
  · rfl
  · rename_i hguard
    split
    · rfl
    · rename_i hmax
      split
      · rfl
      · rename_i text htext
        have hlen : len.toNat ≤ 255 * 48 := UInt32.le_iff_toNat_le.mp (UInt32.not_lt.mp hmax)
        have hmalloc : (mem.malloc (48 + info.length + 1)).isSome :=
          Option.isSome_of_eq_some htext
        have hok : lenU32Ok prk = true ∧ lenU32Ok info = true := by simpa using hguard
        exact absurd ⟨hok.1, hok.2, hlen, hmalloc⟩ h

/-- A call that gives HMAC the messages of RFC 5869 computes their lengths without wrapping. -/
theorem messageLen_lt_of_hashed {len k : Nat} {st : ExpandState info.length len}
    (h : Looped prk k st)
    (hhashed : st.hashed = (List.range k).map (Hkdf.message (mac384 prk) info)) :
    ∀ j < k, messageLen info.length j < 2 ^ 32 := by
  intro j hj
  have hlengths := h.lengths
  rw [hhashed, List.map_map] at hlengths
  have hj' := List.map_inj_left.mp hlengths j (List.mem_range.mpr hj)
  have hlast : (Hkdf.block (mac384 prk) info j).length = lastLen j := by
    rw [lastLen]
    split
    · rename_i h₀
      rw [h₀]
      rfl
    · rename_i h₀
      exact Hkdf.length_block info (length_mac384 prk) h₀
  rw [Function.comp, Hkdf.length_message, hlast, ← messageLen] at hj'
  rw [hj']
  exact Nat.mod_lt _ (by omega)

theorem messagesFit_of_expands {mem : Allocator UInt8} (hadm : ExpandAdmitted mem prk info len)
    (h : ExpandsAsRfc5869 mem prk info len) : MessagesFit info.length len.toNat := by
  rw [ExpandsAsRfc5869, if_pos hadm] at h
  obtain ⟨e, he, -, hhashed, -⟩ := h
  obtain ⟨st, hst, hlooped, -⟩ := hkdfExpand384_spec hadm
  cases he.symm.trans hst
  exact messagesFit_iff.mpr (messageLen_lt_of_hashed hlooped hhashed)

theorem expands_of_messagesFit {mem : Allocator UInt8}
    (h : ExpandAdmitted mem prk info len → MessagesFit info.length len.toNat) :
    ExpandsAsRfc5869 mem prk info len := by
  rw [ExpandsAsRfc5869]
  split
  · rename_i hadm
    obtain ⟨st, hst, hlooped, hmatch⟩ := hkdfExpand384_spec hadm
    have hm := hmatch (h hadm)
    refine ⟨_, hst, ?_, hm.hashed, hlooped.counter⟩
    rw [hlooped.cells_eq, hm.hashed, ← Hkdf.blocks_eq, Hkdf.expand]
  · rename_i hadm
    exact ⟨_, hkdfExpand384_refuses hadm, rfl⟩

/-- **When the function is HKDF-Expand.**  Exactly when it refuses the call, or every message it
hashes is short enough for the 32-bit offset. -/
theorem expandsAsRfc5869_iff (mem : Allocator UInt8) (prk info : Bytes) (len : UInt32) :
    ExpandsAsRfc5869 mem prk info len ↔
      (ExpandAdmitted mem prk info len → MessagesFit info.length len.toNat) := by
  constructor
  · intro h hadm
    exact messagesFit_of_expands hadm h
  · exact expands_of_messagesFit

/-! ## The longest `info`

With `info` as long as the guard allows, the offset behind the first message is `2 ^ 32`, which is
zero in 32 bits: HMAC is given the empty message, and what comes back does not depend on `info`. -/

/-- If the first message wraps to nothing, one byte of output is that of the hash of nothing. -/
theorem hkdfExpand384_wraps {mem : Allocator UInt8}
    (hadm : ExpandAdmitted mem prk info 1) (hinfo : info.length = uint32Max) :
    ∃ e, hkdfExpand384 mem prk info 1 = .ok e ∧ e.hashed = [[]] ∧
      e.returned = (mac384 prk []).take 1 := by
  obtain ⟨st, hst, hlooped, -⟩ := hkdfExpand384_spec hadm
  have hwrap : messageLen info.length 0 % 2 ^ 32 = 0 := by
    rw [hinfo]
    rfl
  have hlengths : st.hashed.map List.length = [0] := by
    rw [← hwrap]
    exact hlooped.lengths
  obtain ⟨msg, hhashed, hempty⟩ := List.map_eq_singleton_iff.mp hlengths
  rw [List.length_eq_zero_iff.mp hempty] at hhashed
  refine ⟨_, hst, hhashed, ?_⟩
  have hcells := hlooped.cells_eq
  rw [hhashed, List.flatMap_singleton] at hcells
  exact hcells

end

namespace Session

/-- A library whose HMAC only tells the empty message from the others. -/
@[reducible] def emptinessHmac : HaclStar :=
  { hacl with
    hmacSha384 := fun _ msg ↦
      ⟨List.replicate 48 (if msg.isEmpty then 0 else 1), List.length_replicate⟩ }

/-- An allocator that never fails. -/
def memory : Allocator UInt8 where
  malloc n := some (zeros n)
  fresh := zeros

/-- The longest `info` the guard admits; never to be evaluated. -/
@[irreducible] def longestInfo : Bytes := List.replicate uint32Max 0

theorem length_longestInfo : longestInfo.length = uint32Max := by
  rw [longestInfo, List.length_replicate]

end Session

attribute [local instance] Session.emptinessHmac

theorem longestInfo_admitted : ExpandAdmitted Session.memory [] Session.longestInfo 1 := by
  have hinfo : Session.longestInfo.length ≤ uint32Max := Nat.le_of_eq Session.length_longestInfo
  exact ⟨rfl, decide_eq_true hinfo, by decide, rfl⟩

/-- One byte expanded from the longest `info` is not that of RFC 5869: HMAC was not given the
message, and what is returned differs. -/
theorem not_expandsAsRfc5869_longestInfo :
    ¬ExpandsAsRfc5869 Session.memory [] Session.longestInfo 1 ∧
      ∃ e, hkdfExpand384 Session.memory [] Session.longestInfo 1 = .ok e ∧ e.hashed = [[]] ∧
        e.returned = [0] ∧ Hkdf.expand (mac384 []) Session.longestInfo 48 1 = [1] := by
  constructor
  · intro h
    have hfit := messagesFit_of_expands longestInfo_admitted h
    have hone : (1 : UInt32).toNat = 1 := rfl
    rw [MessagesFit, Session.length_longestInfo, uint32Max, hone] at hfit
    omega
  · obtain ⟨e, he, hhashed, hreturned⟩ :=
      hkdfExpand384_wraps longestInfo_admitted Session.length_longestInfo
    refine ⟨e, he, hhashed, hreturned, ?_⟩
    have hmessage : (Hkdf.message (mac384 []) Session.longestInfo 0).isEmpty = false := by
      simp [Hkdf.message]
    have hone : ∀ msg : Bytes, msg.isEmpty = false → (mac384 [] msg).take 1 = [1] := by
      intro msg hmsg
      have hcells : mac384 [] msg = List.replicate 48 (if msg.isEmpty then 0 else 1) := rfl
      rw [hcells, hmsg]
      rfl
    have hrounds : Hkdf.rounds 48 1 = 1 := rfl
    rw [Hkdf.expand, hrounds, Hkdf.blocks_eq, List.range_one, List.map_singleton,
      List.flatMap_singleton]
    exact hone _ hmessage

end Kroopt.Native
