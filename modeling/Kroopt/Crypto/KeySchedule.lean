import Kroopt.Core.Record

/-!
# Key derivation and record protection

The computations of the trusted zone that the interpreter performs itself: hashing a transcript,
deriving a record key and its nonce from a traffic secret, and sealing with the suite's AEAD.

The native primitives behind them are an assumption of everything that follows: the class `Hacl`
names them, and nothing is assumed about what they return.
-/

set_option autoImplicit false

namespace Kroopt.Crypto

open Kroopt.Core (CipherSuite HashAlgorithm)

/-- The native primitives. -/
class Hacl where
  sha256 : Bytes → Bytes
  sha384 : Bytes → Bytes
  hkdfExpand256 : (prk info : Bytes) → UInt32 → Bytes
  hkdfExpand384 : (prk info : Bytes) → UInt32 → Bytes
  chachaPolySeal : (key nonce aad pt : Bytes) → Bytes
  aes128GcmSeal : (key nonce aad pt : Bytes) → Bytes
  aes256GcmSeal : (key nonce aad pt : Bytes) → Bytes

/-- The bytes of a string. -/
def utf8 (s : String) : Bytes := s.toUTF8.data.toList

variable [Hacl]

namespace KeySchedule

/-- Output length of the hash of an algorithm. -/
def hashLen : HashAlgorithm → Nat
  | .sha256 => 32
  | .sha384 => 48

/-- The hash function of an algorithm. -/
def hashOf : HashAlgorithm → Bytes → Bytes
  | .sha256 => Hacl.sha256
  | .sha384 => Hacl.sha384

/-- HKDF-Expand of an algorithm. -/
def hkdfExpandH : HashAlgorithm → Bytes → Bytes → Nat → Bytes
  | .sha256, prk, info, len => Hacl.hkdfExpand256 prk info len.toUInt32
  | .sha384, prk, info, len => Hacl.hkdfExpand384 prk info len.toUInt32

/-- The HkdfLabel structure: length, label and context. -/
def hkdfLabel (length : Nat) (label : String) (context : Bytes) : Bytes :=
  let full := utf8 ("tls13 " ++ label)
  let hdr := [(length / 256 % 256).toUInt8, (length % 256).toUInt8, full.length.toUInt8]
  ((hdr ++ full) ++ [context.length.toUInt8]) ++ context

/-- HKDF-Expand-Label. -/
def expandLabel (secret : Bytes) (label : String) (context : Bytes) (length : Nat)
    (h : HashAlgorithm) : Bytes :=
  hkdfExpandH h secret (hkdfLabel length label context) length

/-- AEAD key length of a suite. -/
def aeadKeyLen : CipherSuite → Nat
  | .aes128GcmSha256 => 16
  | .aes256GcmSha384 => 32
  | .chacha20Poly1305Sha256 => 32

/-- AEAD IV length. -/
def aeadIvLen : Nat := 12

/-- The record key of a traffic secret. -/
def trafficKey (suite : CipherSuite) (secret : Bytes) : Bytes :=
  expandLabel secret "key" [] (aeadKeyLen suite) suite.hashAlg

/-- The record IV of a traffic secret. -/
def trafficIv (secret : Bytes) (h : HashAlgorithm) : Bytes :=
  expandLabel secret "iv" [] aeadIvLen h

/-- The Finished key of a traffic secret. -/
def finishedKey (secret : Bytes) (h : HashAlgorithm) : Bytes :=
  expandLabel secret "finished" [] (hashLen h) h

end KeySchedule

namespace Real

/-- The loop of `nonce`: the remaining rounds, the index, the rest of the number and the result. -/
def nonceGo (n : Nat) : Nat → Nat → UInt64 → Bytes → Bytes
  | 0, _, _, out => out
  | rounds + 1, i, s, out =>
    let out' := if n ≥ 1 + i then
        let idx := n - 1 - i
        out.set idx ((out.getD idx 0) ^^^ (s % 256).toUInt8)
      else out
    nonceGo n rounds (i + 1) (s / 256) out'

/-- The nonce of a record: the IV with the sequence number xored into its last eight bytes. -/
def nonce (iv : Bytes) (seq : UInt64) : Bytes := nonceGo iv.length 8 0 seq iv

/-- Seal with the suite's AEAD. -/
def aeadSealBySuite (suite : CipherSuite) (key nonce aad pt : Bytes) : Bytes :=
  match suite with
  | .aes128GcmSha256 => Hacl.aes128GcmSeal key nonce aad pt
  | .aes256GcmSha384 => Hacl.aes256GcmSeal key nonce aad pt
  | .chacha20Poly1305Sha256 => Hacl.chachaPolySeal key nonce aad pt

end Real

end Kroopt.Crypto
