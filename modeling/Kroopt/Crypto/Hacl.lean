import Kroopt.Crypto.KeySchedule

/-!
# The native binding

The remaining primitives of the FFI binding, which only the real provider calls, and the wrappers
around them.

A primitive reports a failure in its result.  One without a status byte returns the empty array;
one with a status byte sets it, and its wrapper turns that into `none`.  Which inputs fail is not
said here: the class `NativeHacl` leaves every primitive open, and only says that what a seal
returns, when it returns anything, is ciphertext and tag.
-/

set_option autoImplicit false

namespace Kroopt.Crypto

open Kroopt.Core (CipherSuite HashAlgorithm)

/-- The primitives of the binding. -/
class NativeHacl extends Hacl where
  x25519Public : (priv : Bytes) → Bytes
  x25519SharedRaw : (priv peer : Bytes) → Bytes
  p256Public : (priv : Bytes) → Bytes
  p256SharedRaw : (priv peer : Bytes) → Bytes
  ecdsaP256SignRaw : (m priv k : Bytes) → Bytes
  ecdsaP256SignRawH : (m : Bytes) → (keyId : UInt64) → (k : Bytes) → Bytes
  rsapssSignRaw : (n e d salt msg : Bytes) → Bytes
  rsapssSignRawH : (n e : Bytes) → (dId : UInt64) → (salt msg : Bytes) → Bytes
  chachaPolyOpenRaw : (key nonce aad ctTag : Bytes) → Bytes
  aes128GcmOpenRaw : (key nonce aad ctTag : Bytes) → Bytes
  aes256GcmOpenRaw : (key nonce aad ctTag : Bytes) → Bytes
  hkdfExtract256 : (salt ikm : Bytes) → Bytes
  hkdfExtract384 : (salt ikm : Bytes) → Bytes
  hmac256 : (key msg : Bytes) → Bytes
  hmac384 : (key msg : Bytes) → Bytes
  ed25519Sign : (priv msg : Bytes) → Bytes
  ed25519SignH : (keyId : UInt64) → (msg : Bytes) → Bytes
  /-- A seal returns `ciphertext ++ tag(16)`, or the empty array. -/
  sealed_length : ∀ suite key nonce aad pt, Real.aeadSealBySuite suite key nonce aad pt = [] ∨
    (Real.aeadSealBySuite suite key nonce aad pt).length = pt.length + 16

variable [NativeHacl]

namespace Hacl

/-- A result of `size` bytes behind the status byte, if the status says so. -/
def ofStatus (size : Nat) (r : Bytes) : Option Bytes :=
  if r.length = size + 1 ∧ r.headD 0 = 0 then some (r.drop 1) else none

/-- X25519; `none` for a low-order result. -/
def x25519Shared (priv peer : Bytes) : Option Bytes :=
  ofStatus 32 (NativeHacl.x25519SharedRaw priv peer)

/-- P-256 ECDH; `none` on failure. -/
def p256Shared (priv peer : Bytes) : Option Bytes :=
  ofStatus 32 (NativeHacl.p256SharedRaw priv peer)

/-- One component of a signature as an ASN.1 `INTEGER`. -/
def derInteger (bytes : Bytes) : Bytes :=
  let stripped := bytes.dropWhile (· == 0)
  let stripped := if stripped.isEmpty then [0] else stripped
  let content := if stripped.headD 0 &&& 0x80 != 0 then 0 :: stripped else stripped
  [0x02, content.length.toUInt8] ++ content

/-- A raw signature as the `SEQUENCE` of its two components. -/
def derEncodeEcdsaSig (raw : Bytes) : Option Bytes :=
  if raw.length != 64 then none
  else
    let body := derInteger (raw.take 32) ++ derInteger ((raw.take 64).drop 32)
    some ([0x30, body.length.toUInt8] ++ body)

/-- ECDSA P-256 signature, DER-encoded. -/
def ecdsaP256SignDer (m priv k : Bytes) : Option Bytes :=
  (ofStatus 64 (NativeHacl.ecdsaP256SignRaw m priv k)).bind derEncodeEcdsaSig

/-- ECDSA P-256 signature by handle, DER-encoded. -/
def ecdsaP256SignDerH (m : Bytes) (keyId : UInt64) (k : Bytes) : Option Bytes :=
  (ofStatus 64 (NativeHacl.ecdsaP256SignRawH m keyId k)).bind derEncodeEcdsaSig

/-- RSA-PSS signature. -/
def rsapssSign (n e d salt msg : Bytes) : Option Bytes :=
  ofStatus n.length (NativeHacl.rsapssSignRaw n e d salt msg)

/-- RSA-PSS signature by handle. -/
def rsapssSignH (n e : Bytes) (dId : UInt64) (salt msg : Bytes) : Option Bytes :=
  ofStatus n.length (NativeHacl.rsapssSignRawH n e dId salt msg)

/-- The plaintext behind the status byte, however long, if the status says so. -/
def ofOpen (r : Bytes) : Option Bytes :=
  if r.length ≥ 1 ∧ r.headD 0 = 0 then some (r.drop 1) else none

def chachaPolyOpen (key nonce aad ctTag : Bytes) : Option Bytes :=
  ofOpen (NativeHacl.chachaPolyOpenRaw key nonce aad ctTag)

def aes128GcmOpen (key nonce aad ctTag : Bytes) : Option Bytes :=
  ofOpen (NativeHacl.aes128GcmOpenRaw key nonce aad ctTag)

def aes256GcmOpen (key nonce aad ctTag : Bytes) : Option Bytes :=
  ofOpen (NativeHacl.aes256GcmOpenRaw key nonce aad ctTag)

omit [NativeHacl] in
theorem length_of_ofStatus {size : Nat} {r b : Bytes} (h : ofStatus size r = some b) :
    b.length = size := by
  rw [ofStatus] at h
  split at h
  · rename_i hr
    cases h
    rw [List.length_drop, hr.1]
    omega
  · cases h

omit [NativeHacl] in
/-- An encoded signature is not empty. -/
theorem ne_nil_of_derEncode {raw der : Bytes} (h : derEncodeEcdsaSig raw = some der) :
    der ≠ [] := by
  rw [derEncodeEcdsaSig] at h
  split at h
  · cases h
  · cases h
    exact List.cons_ne_nil _ _

end Hacl

namespace KeySchedule

/-- `n` zero bytes. -/
def zeros (n : Nat) : Bytes := List.replicate n 0

/-- HKDF-Extract of an algorithm. -/
def hkdfExtractH : HashAlgorithm → Bytes → Bytes → Bytes
  | .sha256 => NativeHacl.hkdfExtract256
  | .sha384 => NativeHacl.hkdfExtract384

/-- HMAC of an algorithm. -/
def hmacH : HashAlgorithm → Bytes → Bytes → Bytes
  | .sha256 => NativeHacl.hmac256
  | .sha384 => NativeHacl.hmac384

end KeySchedule

/-- Open with the suite's AEAD. -/
def Real.aeadOpenBySuite (suite : CipherSuite) (key nonce aad ctTag : Bytes) : Option Bytes :=
  match suite with
  | .aes128GcmSha256 => Hacl.aes128GcmOpen key nonce aad ctTag
  | .aes256GcmSha384 => Hacl.aes256GcmOpen key nonce aad ctTag
  | .chacha20Poly1305Sha256 => Hacl.chachaPolyOpen key nonce aad ctTag

end Kroopt.Crypto
