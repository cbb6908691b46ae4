import Kroopt.Core.Record

/-!
# The nonce of a record

The concrete nonce of TLS 1.3: the IV base xored with the sequence number, left-padded with zero
bytes to the length of the IV.
-/

set_option autoImplicit false

namespace Kroopt.Core

/-- The eight-byte big-endian encoding of a sequence number. -/
def seqBytesBE (seq : SeqNo) : Bytes :=
  let v := seq.value
  [(v >>> 56).toUInt8, (v >>> 48).toUInt8, (v >>> 40).toUInt8, (v >>> 32).toUInt8,
    (v >>> 24).toUInt8, (v >>> 16).toUInt8, (v >>> 8).toUInt8, v.toUInt8]

/-- The sequence number, left-padded to the length of the IV. -/
def paddedSeqBytes (ivLen : Nat) (seq : SeqNo) : Bytes :=
  let seqB := seqBytesBE seq
  let pad := ivLen - seqB.length
  List.replicate pad 0 ++ seqB

/-- The nonce of a record. -/
def nonceBytes (ivBase : Bytes) (ivLen : Nat) (seq : SeqNo) : Bytes :=
  ivBase.zipWith (· ^^^ ·) (paddedSeqBytes ivLen seq)

end Kroopt.Core
