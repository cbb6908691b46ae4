import Kroopt.Error

/-!
# Identities, epochs and crypto operations

The small types the whole development speaks about.

* `ConnId`, `OperationId`, `ConfigGeneration`: correlation tokens.
* `CipherSuite`, `NamedGroup`, `SignatureScheme`, `HashAlgorithm`: what is negotiated.
* `Direction`, `Epoch`, `SeqNo`, `EpochState`: where a direction of the record layer stands.
  `SeqNo.next` refuses to wrap.
* `ContentType` and the two record size limits.
* `CryptoOp`, `CryptoResult` and the table of pending operations.
-/

set_option autoImplicit false

namespace Kroopt.Core

/-! ## Correlation tokens -/

/-- Stable connection identity. -/
structure ConnId where
  value : UInt64
  generation : UInt64
  deriving DecidableEq, Inhabited

/-- Identifies one outstanding crypto operation. -/
structure OperationId where
  value : UInt64
  deriving DecidableEq, Inhabited

/-- The configuration snapshot a connection was created with. -/
structure ConfigGeneration where
  value : UInt64
  deriving DecidableEq, Inhabited

/-! ## Negotiated parameters -/

/-- Hash algorithms of the transcript and the key schedule. -/
inductive HashAlgorithm
  | sha256
  | sha384
  deriving DecidableEq, Inhabited

/-- Output length of the hash in bytes. -/
def HashAlgorithm.digestLen : HashAlgorithm → Nat
  | sha256 => 32
  | sha384 => 48

/-- TLS 1.3 AEAD cipher suites. -/
inductive CipherSuite
  | aes128GcmSha256
  | aes256GcmSha384
  | chacha20Poly1305Sha256
  deriving DecidableEq, Inhabited

/-- The hash bound to a suite. -/
def CipherSuite.hashAlg : CipherSuite → HashAlgorithm
  | aes128GcmSha256 => .sha256
  | aes256GcmSha384 => .sha384
  | chacha20Poly1305Sha256 => .sha256

/-- Key-exchange groups. -/
inductive NamedGroup
  | x25519
  | secp256r1
  deriving DecidableEq, Inhabited

/-- Server-authentication signature schemes. -/
inductive SignatureScheme
  | ed25519
  | ecdsaSecp256r1Sha256
  | rsaPssRsaeSha256
  deriving DecidableEq, Inhabited

/-- How a connection is being closed. -/
inductive CloseMode
  | graceful
  | fatal (alert : AlertDescription)
  | abortive
  deriving DecidableEq, Inhabited

/-- Timers that surface as protocol events. -/
inductive TimeoutKind
  | handshake
  | idle
  | closeNotify
  deriving DecidableEq, Inhabited

/-! ## The record layer -/

/-- Record direction. -/
inductive Direction
  | read
  | write
  deriving DecidableEq, Inhabited

/-- Key epoch; `initial` carries no keys. -/
inductive Epoch
  | initial
  | handshake
  | application
  deriving DecidableEq, Inhabited

/-- Sequence number of a direction in an epoch. -/
structure SeqNo where
  value : UInt64
  deriving DecidableEq, Inhabited

namespace SeqNo

/-- The sequence number every epoch starts with. -/
def zero : SeqNo := ⟨0⟩

/-- The successor, or `none` where the value would wrap. -/
def next (s : SeqNo) : Option SeqNo :=
  let v := s.value + 1
  if v = 0 then none else some ⟨v⟩

theorem next_eq_some {s s' : SeqNo} (h : s.next = some s') :
    s'.value.toNat = s.value.toNat + 1 := by
  simp only [next] at h
  split at h
  · exact absurd h (by simp)
  · rename_i hne
    obtain rfl : ⟨s.value + 1⟩ = s' := by simpa using h
    have hlt : s.value.toNat < 2 ^ 64 := s.value.toNat_lt
    have hne' : (s.value + 1).toNat ≠ 0 := fun h0 ↦ hne (UInt64.toNat_inj.mp (by simpa using h0))
    have hadd : (s.value + 1).toNat = (s.value.toNat + 1) % 2 ^ 64 := UInt64.toNat_add _ _
    show (s.value + 1).toNat = s.value.toNat + 1
    omega

/-- A successor is a different number. -/
theorem ne_of_next {s s' : SeqNo} (h : s.next = some s') : s' ≠ s := by
  rintro rfl
  have := next_eq_some h
  omega

end SeqNo

/-- Where one direction of the record layer stands. -/
structure EpochState where
  epoch : Epoch
  seq : SeqNo
  keysInstalled : Bool
  deriving DecidableEq, Inhabited

/-- A fresh direction: no keys, sequence number zero. -/
def EpochState.fresh : EpochState where
  epoch := .initial
  seq := SeqNo.zero
  keysInstalled := false

/-- TLS record content type; unknown bytes are `invalid`. -/
inductive ContentType
  | changeCipherSpec
  | alert
  | handshake
  | applicationData
  | invalid
  deriving DecidableEq, Inhabited

namespace ContentType

/-- Wire byte of a content type. -/
def toByte : ContentType → UInt8
  | changeCipherSpec => 20
  | alert => 21
  | handshake => 22
  | applicationData => 23
  | invalid => 255

/-- The content type of a wire byte. -/
def ofByte (b : UInt8) : ContentType :=
  if b == 20 then changeCipherSpec
  else if b == 21 then alert
  else if b == 22 then handshake
  else if b == 23 then applicationData
  else invalid

end ContentType

/-- Maximal length of a plaintext fragment. -/
def maxPlaintextFragment : Nat := 16384

/-- Maximal length of a protected record. -/
def maxCiphertextFragment : Nat := 16384 + 256

/-- The contents of an opened record: the content, its real type and the padding. -/
structure TLSInnerPlaintext where
  content : Bytes
  ctype : ContentType
  paddingZeros : Nat

/-! ## Crypto operations -/

/-- Reference to secret bytes held by the provider. -/
structure SecretKeyHandle where
  id : UInt64
  generation : UInt64
  deriving DecidableEq, Inhabited

/-- What a record's plaintext is. -/
inductive RecordContentRole
  | handshake
  | applicationData
  | alert
  deriving DecidableEq, Inhabited

/-- Public data attached to every record seal and open. -/
structure RecordCryptoMeta where
  conn : ConnId
  direction : Direction
  epoch : Epoch
  seq : SeqNo
  suite : CipherSuite
  contentRole : RecordContentRole
  deriving DecidableEq, Inhabited

/-- Purpose of a crypto operation. -/
inductive CryptoOpKind
  | randomBytes
  | ecdhe
  | hkdfExtract
  | hkdfExpand
  | installTrafficKeys
  | aeadSeal
  | aeadOpen
  | signCertificateVerify
  | verifyFinished
  | computeServerFinished
  deriving DecidableEq, Inhabited

/-- A crypto operation the core asks for. -/
inductive CryptoOp
  | randomBytes (len : Nat)
  | ecdheX25519 (peerShare : Bytes)
  | ecdheP256 (peerShare : Bytes)
  | hkdfExtract (alg : HashAlgorithm) (salt ikm : Option SecretKeyHandle)
  | hkdfExpandLabel (alg : HashAlgorithm) (secret : SecretKeyHandle) (label : String)
      (context : Bytes) (len : Nat)
  | installTrafficKeys (suite : CipherSuite) (dir : Direction) (epoch : Epoch)
      (secret : SecretKeyHandle)
  | aeadSeal (rmeta : RecordCryptoMeta) (aad plaintext : Bytes)
  | aeadOpen (rmeta : RecordCryptoMeta) (aad ciphertext : Bytes)
  | signCertificateVerify (scheme : SignatureScheme) (input : Bytes)
  | verifyFinished (alg : HashAlgorithm) (transcriptHash received : Bytes)
  | computeServerFinished (alg : HashAlgorithm) (transcriptHash : Bytes)
  deriving DecidableEq

/-- The purpose of an operation. -/
def CryptoOp.kind : CryptoOp → CryptoOpKind
  | randomBytes _ => .randomBytes
  | ecdheX25519 _ => .ecdhe
  | ecdheP256 _ => .ecdhe
  | hkdfExtract _ _ _ => .hkdfExtract
  | hkdfExpandLabel _ _ _ _ _ => .hkdfExpand
  | installTrafficKeys _ _ _ _ => .installTrafficKeys
  | aeadSeal _ _ _ => .aeadSeal
  | aeadOpen _ _ _ => .aeadOpen
  | signCertificateVerify _ _ => .signCertificateVerify
  | verifyFinished _ _ _ => .verifyFinished
  | computeServerFinished _ _ => .computeServerFinished

/-- A crypto result re-entering the core. -/
inductive CryptoResult
  | randomBytes (b : Bytes)
  | ecdheComplete (serverShare : Bytes) (shared : SecretKeyHandle)
  | hkdfSecret (h : SecretKeyHandle)
  | keysInstalled
  | aeadSealed (ciphertext : Bytes)
  | aeadOpened (plaintext : Bytes)
  | signature (bytes : Bytes)
  | finishedMac (verifyData : Bytes)
  | verified
  | verifyFailed
  | failed (e : CryptoError)
  deriving DecidableEq

/-- A pending crypto operation, without its secret-bearing payload. -/
structure PendingCryptoOp where
  id : OperationId
  expectedKind : CryptoOpKind
  expectedEpoch : Epoch
  expectedDirection : Option Direction
  deriving DecidableEq, Inhabited

/-- The outstanding crypto operations of a connection. -/
structure PendingCryptoOps where
  ops : List PendingCryptoOp
  deriving DecidableEq, Inhabited

namespace PendingCryptoOps

/-- No operation is outstanding. -/
def empty : PendingCryptoOps := ⟨[]⟩

/-- Whether an operation id is outstanding. -/
def contains (p : PendingCryptoOps) (id : OperationId) : Bool :=
  p.ops.any fun o ↦ o.id == id

theorem contains_iff {p : PendingCryptoOps} {id : OperationId} :
    p.contains id = true ↔ ∃ o ∈ p.ops, o.id = id := by
  simp [contains]

end PendingCryptoOps

end Kroopt.Core
