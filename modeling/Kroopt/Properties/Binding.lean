import Kroopt.Native.Binding
import Kroopt.Properties.HkdfExpand
import Kroopt.Properties.SecretTable

/-!
# What the binding provides

The primitives of the provider over the glue, in terms of the map that the secret table stands for
and of RFC 5869.  Neither a signature by handle nor an expansion ever faults, so what the caller
gets is what the glue computed.

* `ed25519SignH_binding`, `ecdsaP256SignRawH_binding`, `rsapssSignRawH_binding`: a signature by
  handle is the signature with the bytes of the handle.
* `expandLabel_binding`: HKDF-Expand-Label over SHA-384 is the one of RFC 5869, or is refused, for
  every label and context short of the length at which the 32-bit offset wraps.
-/

set_option autoImplicit false

namespace Kroopt.Native

open Kroopt.Crypto (KeySchedule.expandLabel KeySchedule.hkdfLabel)
open Memory (Allocator)

variable [HaclStar]

/-! ## Signatures by handle -/

section

variable {t : SecretTable} {m : FreshMap UInt64 Bytes} (h : t.Represents m)
  (mem : Allocator UInt8)

include h

theorem ed25519SignH_binding (keyId : UInt64) (msg : Bytes) :
    (binding t mem).ed25519SignH keyId msg =
      (m.live.lookup keyId).elim [] fun key ↦ ed25519Sign key msg := by
  change returned (ed25519SignH t keyId msg) = _
  rw [ed25519SignH_spec h]
  rfl

theorem ecdsaP256SignRawH_binding (msg : Bytes) (keyId : UInt64) (k : Bytes) :
    (binding t mem).ecdsaP256SignRawH msg keyId k =
      (m.live.lookup keyId).elim (failure 64) fun key ↦ ecdsaP256Sign msg key k := by
  change returned (ecdsaP256SignH t msg keyId k) = _
  rw [ecdsaP256SignH_spec h]
  rfl

theorem rsapssSignRawH_binding (n e : Bytes) (dId : UInt64) (salt msg : Bytes) :
    (binding t mem).rsapssSignRawH n e dId salt msg =
      (m.live.lookup dId).elim (failure n.length) fun d ↦ rsapssSign n e d salt msg := by
  change returned (rsapssSignH t n e dId salt msg) = _
  rw [rsapssSignH_spec h]
  rfl

end

/-! ## Key derivation -/

variable (t : SecretTable) (mem : Allocator UInt8) (prk info : Bytes) (len : UInt32)

theorem hkdfExpand384_binding (hfit : MessagesFit info.length len.toNat) :
    (binding t mem).hkdfExpand384 prk info len =
      if ExpandAdmitted mem prk info len then Hkdf.expand (mac384 prk) info 48 len.toNat
      else [] := by
  change returned ((hkdfExpand384 mem prk info len).map Expansion.returned) = _
  have hexpands : ExpandsAsRfc5869 mem prk info len := expands_of_messagesFit fun _ ↦ hfit
  rw [ExpandsAsRfc5869] at hexpands
  split
  · rename_i hadm
    rw [if_pos hadm] at hexpands
    obtain ⟨e, he, hreturned, -⟩ := hexpands
    rw [he, ← hreturned]
    rfl
  · rename_i hadm
    rw [if_neg hadm] at hexpands
    obtain ⟨e, he, hreturned⟩ := hexpands
    rw [he, ← hreturned]
    rfl

/-- Whatever the lengths, an expansion is as long as asked for unless it is refused. -/
theorem length_hkdfExpand384_binding :
    ((binding t mem).hkdfExpand384 prk info len).length =
      if ExpandAdmitted mem prk info len then len.toNat else 0 := by
  change (returned ((hkdfExpand384 mem prk info len).map Expansion.returned)).length = _
  split
  · rename_i hadm
    obtain ⟨st, hst, -, -⟩ := hkdfExpand384_spec hadm
    rw [hst]
    exact st.okm.length_cells
  · rename_i hadm
    rw [hkdfExpand384_refuses hadm]
    rfl

variable {secret context : Bytes} {label : String} {n : Nat}

/-- **HKDF-Expand-Label over SHA-384** is that of RFC 5869, or is refused. -/
theorem expandLabel_binding
    (hfit : 48 + (KeySchedule.hkdfLabel n label context).length + 1 < 2 ^ 32) :
    letI := binding t mem
    KeySchedule.expandLabel secret label context n .sha384 =
      if ExpandAdmitted mem secret (KeySchedule.hkdfLabel n label context) n.toUInt32 then
        Hkdf.expand (mac384 secret) (KeySchedule.hkdfLabel n label context) 48 n.toUInt32.toNat
      else [] :=
  hkdfExpand384_binding t mem _ _ _ (.inr (.inr hfit))

/-- An expansion over SHA-384 is empty only if it is refused, or nothing is asked for. -/
theorem expandLabel_binding_ne_nil (hn : n.toUInt32 ≠ 0) :
    letI := binding t mem
    KeySchedule.expandLabel secret label context n .sha384 ≠ [] ↔
      ExpandAdmitted mem secret (KeySchedule.hkdfLabel n label context) n.toUInt32 := by
  have hpos : 0 < n.toUInt32.toNat := Nat.pos_of_ne_zero fun h ↦ hn (UInt32.toNat_inj.mp h)
  have hlen := length_hkdfExpand384_binding t mem secret (KeySchedule.hkdfLabel n label context)
    n.toUInt32
  refine List.length_pos_iff.symm.trans ?_
  change 0 < ((binding t mem).hkdfExpand384 secret _ _).length ↔ _
  rw [hlen]
  split
  · rename_i hadm
    exact iff_of_true hpos hadm
  · rename_i hadm
    exact iff_of_false (Nat.lt_irrefl 0) hadm

end Kroopt.Native
