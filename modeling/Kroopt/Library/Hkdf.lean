import Mathlib.Data.List.Basic

/-!
# HKDF-Expand

The expansion of RFC 5869 over an arbitrary keyed hash: `mac` is the hash under the pseudorandom
key, with outputs of `hashLen` bytes.

* `block mac info i` is `T(i)`, and `message mac info i` is what is hashed to get `T(i + 1)`.
* `blocks mac info n` is `T(1) | ... | T(n)`.
* `expand mac hashLen info len` is the output: the first `len` bytes of as many blocks as it takes,
  which is `rounds hashLen len`.
* `take_hashes_append` and `rounds_le_iff` are what a loop that hashes one message after another
  needs; `blocks_eq` says which messages make it HKDF-Expand.
-/

set_option autoImplicit false

namespace Hkdf

variable (mac : List UInt8 → List UInt8) (info : List UInt8) (hashLen : Nat)

/-- `T(i)`; `T(0)` is empty. -/
def block : Nat → List UInt8
  | 0 => []
  | i + 1 => mac (block i ++ info ++ [UInt8.ofNat (i + 1)])

/-- What is hashed to get `T(i + 1)`. -/
def message (i : Nat) : List UInt8 := block mac info i ++ info ++ [UInt8.ofNat (i + 1)]

/-- `T(1) | ... | T(n)`. -/
def blocks (n : Nat) : List UInt8 := (List.range n).flatMap fun i ↦ block mac info (i + 1)

/-- The number of blocks that hold `len` bytes: `len / hashLen`, rounded up. -/
def rounds (len : Nat) : Nat := (len + hashLen - 1) / hashLen

/-- The output key material. -/
def expand (len : Nat) : List UInt8 := (blocks mac info (rounds hashLen len)).take len

theorem block_succ (i : Nat) : block mac info (i + 1) = mac (message mac info i) := rfl

theorem length_message (i : Nat) :
    (message mac info i).length = (block mac info i).length + info.length + 1 := by
  simp only [message, List.length_append, List.length_singleton]

/-- The blocks are what the messages hash to. -/
theorem blocks_eq (n : Nat) :
    blocks mac info n = ((List.range n).map (message mac info)).flatMap mac := by
  rw [blocks, List.flatMap_map]
  rfl

variable {mac hashLen}

theorem length_block (hmac : ∀ m, (mac m).length = hashLen) {i : Nat} (hi : i ≠ 0) :
    (block mac info i).length = hashLen := by
  obtain ⟨j, rfl⟩ := Nat.exists_eq_succ_of_ne_zero hi
  exact hmac _

omit info in
theorem length_hashes (hmac : ∀ m, (mac m).length = hashLen) (ms : List (List UInt8)) :
    (ms.flatMap mac).length = ms.length * hashLen := by
  induction ms with
  | nil => simp
  | cons m ms ih =>
    have hm := hmac m
    rw [List.flatMap_cons, List.length_append, ih, hm, List.length_cons, Nat.succ_mul,
      Nat.add_comm]

omit info in
/-- One more hash adds the bytes of it that are still asked for. -/
theorem take_hashes_append (hmac : ∀ m, (mac m).length = hashLen) (ms : List (List UInt8))
    (m : List UInt8) (len : Nat) :
    ((ms ++ [m]).flatMap mac).take len =
      (ms.flatMap mac).take len ++ (mac m).take (len - ms.length * hashLen) := by
  rw [List.flatMap_append, List.flatMap_singleton, List.take_append, length_hashes hmac]

/-- `n` blocks are enough exactly when they hold `len` bytes. -/
theorem rounds_le_iff (hpos : 0 < hashLen) {len n : Nat} :
    rounds hashLen len ≤ n ↔ len ≤ n * hashLen := by
  rw [rounds, Nat.div_le_iff_le_mul_add_pred hpos, Nat.mul_comm]
  omega

/-- RFC 5869 allows at most 255 blocks, so that the counter fits a byte. -/
theorem rounds_le_of_len_le (hpos : 0 < hashLen) {len : Nat} (h : len ≤ 255 * hashLen) :
    rounds hashLen len ≤ 255 := (rounds_le_iff hpos).mpr h

end Hkdf
