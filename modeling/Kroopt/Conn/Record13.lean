import Kroopt.Crypto.KeySchedule
import Kroopt.Parse.Wire

/-!
# Record protection

Turning a message and its content type into a protected record on the wire.
-/

set_option autoImplicit false

namespace Kroopt.Conn.Record13

open Kroopt.Core (ContentType CipherSuite)
open Kroopt.Crypto

/-- Inner plaintext: content, type byte, padding. -/
def innerPlaintext (content : Bytes) (ctype : ContentType) (pad : Nat) : Bytes :=
  content ++ [ctype.toByte] ++ List.replicate pad 0

/-- The header of a protected record, which is also the additional data of its seal. -/
def recordAAD (ciphertextLen : Nat) : Bytes :=
  [0x17, 0x03, 0x03] ++ Parse.Wire.be16 ciphertextLen.toUInt16

/-- Maximal plaintext of a record. -/
def maxRecordPlaintext : Nat := 16384

/-- Seal one record, or refuse an oversized content. -/
def sealRecord [Hacl] (key iv : Bytes) (seq : UInt64) (content : Bytes) (ctype : ContentType)
    (pad : Nat) (suite : CipherSuite) : Except ResourceLimitError Bytes :=
  if content.length > maxRecordPlaintext then .error .recordSize
  else
    let inner := innerPlaintext content ctype pad
    let ctLen := inner.length + 16
    let sealed := Real.aeadSealBySuite suite key (Real.nonce iv seq) (recordAAD ctLen) inner
    .ok ([0x17, 0x03, 0x03] ++ Parse.Wire.be16 ctLen.toUInt16 ++ sealed)

/-- A sealed record is an application-data record. -/
theorem sealRecord_head [Hacl] {key iv content wire : Bytes} {seq : UInt64} {ctype : ContentType}
    {pad : Nat} {suite : CipherSuite}
    (h : sealRecord key iv seq content ctype pad suite = .ok wire) : wire.head? = some 0x17 := by
  rw [sealRecord] at h
  split at h
  · cases h
  · cases h
    rfl

theorem sealRecord_eq_error [Hacl] {key iv content : Bytes} {seq : UInt64} {ctype : ContentType}
    {pad : Nat} {suite : CipherSuite} {e : ResourceLimitError} :
    sealRecord key iv seq content ctype pad suite = .error e ↔
      maxRecordPlaintext < content.length ∧ e = .recordSize := by
  rw [sealRecord]
  split
  · rename_i h
    simp [h, eq_comm]
  · rename_i h
    simp [h]

end Kroopt.Conn.Record13
