import Kroopt.Library.Hkdf
import Kroopt.Native.HaclStar

/-!
# HKDF-Expand-SHA384

`kroopt_ffi_hkdf_expand384`: the vendored library has no HKDF for SHA-384, so the glue iterates its
HMAC itself.

* `ExpandState` is the state of the loop, with its fixed-width variables as they are in C; the
  ghost field `hashed` remembers what HMAC was given.
* `expandBody` is one iteration.  All its copies are checked, so it may end in a `Fault`.
* `expandLoop` and `hkdfExpand384` are the loop and the function around it.
-/

set_option autoImplicit false

namespace Kroopt.Native

open Memory (Region Fault Allocator)

/-- `HL`, the output length of SHA-384. -/
def hl : UInt32 := 48

/-- The state of the loop: the scratch buffer `text`, the last block `Ti`, the output `okm`, and
the counters. -/
structure ExpandState (infolen len : Nat) where
  text : Region UInt8 (48 + infolen + 1)
  ti : Region UInt8 48
  okm : Region UInt8 len
  tiLen : UInt32
  done : UInt32
  i : UInt8
  /-- The messages HMAC has been given. -/
  hashed : List Bytes

/-- `take`: how much of a block is still asked for. -/
def expandTake (len done : UInt32) : UInt32 := if len - done < hl then len - done else hl

/-- While bytes are missing, `take` reaches for the next 48 of them or all. -/
theorem done_add_expandTake {len done : UInt32} (h : done < len) :
    (done + expandTake len done).toNat = min (done.toNat + 48) len.toNat ∧
      (expandTake len done).toNat = min 48 (len.toNat - done.toNat) := by
  have hlt := UInt32.lt_iff_toNat_lt.mp h
  have hlen := len.toNat_lt
  have hsub := UInt32.toNat_sub_of_le len done (UInt32.le_of_lt h)
  have htake : (expandTake len done).toNat = min 48 (len.toNat - done.toNat) := by
    rw [expandTake]
    split
    · rename_i hc
      have hc' := UInt32.lt_iff_toNat_lt.mp hc
      rw [hsub] at hc' ⊢
      exact (Nat.min_eq_right (Nat.le_of_lt hc')).symm
    · rename_i hc
      have hc' := UInt32.le_iff_toNat_le.mp (UInt32.not_lt.mp hc)
      rw [hsub] at hc'
      exact (Nat.min_eq_left hc').symm
  refine ⟨?_, htake⟩
  rw [UInt32.toNat_add, htake]
  omega

/-- The first half of the body: `text` is filled with the next message, and the HMAC call reads it
from there.  The offset `off` is a `uint32_t`. -/
def expandMessage {infolen len : Nat} (info : Bytes) (st : ExpandState infolen len) (i : UInt8) :
    Except Fault (Region UInt8 (48 + infolen + 1) × Bytes) := do
  let off : UInt32 := 0
  let last ← st.ti.read st.tiLen.toNat
  let text ← st.text.write off.toNat last
  let off := off + st.tiLen
  let text ← text.write off.toNat info
  let off := off + UInt32.ofNat info.length
  let text ← text.write off.toNat [i]
  let off := off + 1
  let msg ← text.read off.toNat
  .ok (text, msg)

variable [HaclStar]

/-- The body of the `while` loop. -/
def expandBody (prk info : Bytes) (len : UInt32) (st : ExpandState info.length len.toNat) :
    Except Fault (ExpandState info.length len.toNat) := do
  let i := st.i + 1
  let (text, msg) ← expandMessage info st i
  let ti := HaclStar.hmacSha384 prk msg
  let tiLen := hl
  let take := expandTake len st.done
  let out ← ti.read take.toNat
  let okm ← st.okm.write st.done.toNat out
  let done := st.done + take
  .ok { text, ti, okm, tiLen, done, i, hashed := st.hashed ++ [msg] }

theorem expandBody_done {prk info : Bytes} {len : UInt32}
    {st st' : ExpandState info.length len.toNat} (h : expandBody prk info len st = .ok st') :
    st'.done = st.done + expandTake len st.done := by
  simp only [expandBody, Memory.bind_eq_ok] at h
  obtain ⟨_, _, _, _, _, _, h⟩ := h
  cases h
  rfl

/-- `while (done < len)`. -/
def expandLoop (prk info : Bytes) (len : UInt32) (st : ExpandState info.length len.toNat) :
    Except Fault (ExpandState info.length len.toNat) :=
  if st.done < len then
    match _h : expandBody prk info len st with
    | .error e => .error e
    | .ok st' => expandLoop prk info len st'
  else .ok st
termination_by len.toNat - st.done.toNat
decreasing_by
  rename_i hlt
  have hdone := (done_add_expandTake hlt).1
  have hlt' := UInt32.lt_iff_toNat_lt.mp hlt
  rw [expandBody_done _h]
  omega

/-- What a call shows: the array it returns, the messages it gave HMAC, and where its counter byte
ended. -/
structure Expansion where
  returned : Bytes
  hashed : List Bytes
  counter : UInt8
  deriving DecidableEq

/-- `kroopt_ffi_hkdf_expand384`. -/
def hkdfExpand384 (mem : Allocator UInt8) (prk info : Bytes) (len : UInt32) :
    Except Fault Expansion :=
  if !lenU32Ok prk || !lenU32Ok info then .ok ⟨[], [], 0⟩
  else if len > 255 * hl then .ok ⟨[], [], 0⟩
  else
    match mem.malloc (hl.toNat + info.length + 1) with
    | none => .ok ⟨[], [], 0⟩
    | some text => do
      let st ← expandLoop prk info len
        { text, ti := mem.fresh 48, okm := mem.fresh len.toNat, tiLen := 0, done := 0, i := 0
          hashed := [] }
      .ok ⟨st.okm.cells, st.hashed, st.i⟩

end Kroopt.Native
