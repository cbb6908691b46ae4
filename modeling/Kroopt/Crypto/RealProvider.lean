import Kroopt.Crypto.Hacl
import Kroopt.Crypto.Provider

/-!
# The real provider

The provider that answers crypto operations with the native primitives.  What a pure function cannot
draw or hold, the ephemeral private key and the certificate keys, comes in a `RealCryptoConfig`.
-/

set_option autoImplicit false

namespace Kroopt.Crypto

open Kroopt.Core (CryptoOp CryptoResult OperationId SecretKeyHandle)

/-- The static secrets of the provider.  A handle of 0 means that the key is given by its bytes. -/
structure RealCryptoConfig where
  ephemeralPrivate : Bytes
  certPrivate : Bytes
  certPublic : Bytes
  certKeyHandle : UInt64 := 0
  /-- Nonce of an ECDSA signature and salt of an RSA-PSS signature. -/
  signNonce : Bytes := []
  rsaN : Bytes := []
  rsaE : Bytes := []
  rsaD : Bytes := []
  ecdsaPriv : Bytes := []
  ecdsaKeyHandle : UInt64 := 0
  rsaKeyHandle : UInt64 := 0
  deriving DecidableEq, Inhabited

namespace RealProvider

/-- The bytes a handle names. -/
def need (a : SecretArena) (h : SecretKeyHandle) : Except CryptoError Bytes :=
  match a.get h with
  | some b => .ok b
  | none => .error .invalidHandle

variable [NativeHacl]

/-- The answer to an operation, and the arena after it. -/
def submit (cfg : RealCryptoConfig) (a : SecretArena) (_ : OperationId) :
    CryptoOp → Except CryptoError (SecretArena × CryptoResult)
  | .randomBytes _ => .error .providerInternal
  | .ecdheX25519 peerShare =>
    match NativeHacl.x25519Public cfg.ephemeralPrivate,
        Hacl.x25519Shared cfg.ephemeralPrivate peerShare with
    | serverShare, some shared => do
      let (h, a') ← a.store shared
      .ok (a', .ecdheComplete serverShare h)
    | _, none => .error .providerInternal
  | .ecdheP256 peerShare =>
    match NativeHacl.p256Public cfg.ephemeralPrivate,
        Hacl.p256Shared cfg.ephemeralPrivate peerShare with
    | serverShare, some shared => do
      let (h, a') ← a.store shared
      .ok (a', .ecdheComplete serverShare h)
    | serverShare, none =>
      if serverShare.isEmpty then .error .providerInternal else .error .peerInvalidKeyShare
  | .hkdfExtract alg salt ikm => do
    let z := KeySchedule.zeros (KeySchedule.hashLen alg)
    let saltBytes ← match salt with
      | some h => need a h
      | none => .ok z
    let ikmBytes ← match ikm with
      | some h => need a h
      | none => .ok z
    let (h, a') ← a.store (KeySchedule.hkdfExtractH alg saltBytes ikmBytes)
    .ok (a', .hkdfSecret h)
  | .hkdfExpandLabel alg secret label context len => do
    let secretBytes ← need a secret
    let (h, a') ← a.store (KeySchedule.expandLabel secretBytes label context len alg)
    .ok (a', .hkdfSecret h)
  | .installTrafficKeys suite dir epoch secret => do
    let secretBytes ← need a secret
    let key := KeySchedule.trafficKey suite secretBytes
    let iv := KeySchedule.trafficIv secretBytes suite.hashAlg
    let (kh, a1) ← a.store key
    let (ih, a2) ← a1.store iv
    let (bh, a3) ← a2.store secretBytes
    let a4 := ((a3.recordInstalled dir epoch kh.id ih.id).recordBaseSecret dir epoch
      bh.id).recordInstalledSuite dir epoch suite
    .ok (a4, .keysInstalled)
  | .aeadSeal rmeta aad plaintext =>
    match a.lookupInstalled rmeta.direction rmeta.epoch with
    | none => .error .invalidHandle
    | some (kId, ivId) =>
      match a.getById kId, a.getById ivId with
      | some key, some iv =>
        .ok (a, .aeadSealed (Real.aeadSealBySuite rmeta.suite key (Real.nonce iv rmeta.seq.value)
          aad plaintext))
      | _, _ => .error .invalidHandle
  | .aeadOpen rmeta aad ciphertext =>
    match a.lookupInstalled rmeta.direction rmeta.epoch with
    | none => .error .invalidHandle
    | some (kId, ivId) =>
      match a.getById kId, a.getById ivId with
      | some key, some iv =>
        match Real.aeadOpenBySuite rmeta.suite key (Real.nonce iv rmeta.seq.value) aad
            ciphertext with
        | some pt => .ok (a, .aeadOpened pt)
        | none => .ok (a, .verifyFailed)
      | _, _ => .error .invalidHandle
  | .signCertificateVerify scheme input =>
    match scheme with
    | .ed25519 =>
      let sig := if cfg.certKeyHandle != 0 then NativeHacl.ed25519SignH cfg.certKeyHandle input
        else NativeHacl.ed25519Sign cfg.certPrivate input
      .ok (a, .signature sig)
    | .ecdsaSecp256r1Sha256 =>
      let der := if cfg.ecdsaKeyHandle != 0 then
          Hacl.ecdsaP256SignDerH input cfg.ecdsaKeyHandle cfg.signNonce
        else Hacl.ecdsaP256SignDer input cfg.ecdsaPriv cfg.signNonce
      match der with
      | some der => .ok (a, .signature der)
      | none => .error .providerInternal
    | .rsaPssRsaeSha256 =>
      if cfg.rsaN.isEmpty then .error .unsupportedOperation
      else
        let sig := if cfg.rsaKeyHandle != 0 then
            Hacl.rsapssSignH cfg.rsaN cfg.rsaE cfg.rsaKeyHandle cfg.signNonce input
          else Hacl.rsapssSign cfg.rsaN cfg.rsaE cfg.rsaD cfg.signNonce input
        match sig with
        | some sig => .ok (a, .signature sig)
        | none => .error .providerInternal
  | .computeServerFinished alg transcriptHash =>
    match a.lookupBaseSecret .write .handshake with
    | none => .error .invalidHandle
    | some sid =>
      match a.getById sid with
      | none => .error .invalidHandle
      | some baseSecret =>
        let finKey := KeySchedule.finishedKey baseSecret alg
        .ok (a, .finishedMac (KeySchedule.hmacH alg finKey transcriptHash))
  | .verifyFinished alg transcriptHash received =>
    match a.lookupBaseSecret .read .handshake with
    | none => .error .invalidHandle
    | some sid =>
      match a.getById sid with
      | none => .error .invalidHandle
      | some baseSecret =>
        let finKey := KeySchedule.finishedKey baseSecret alg
        let expected := KeySchedule.hmacH alg finKey transcriptHash
        let verifyData := if received.length == expected.length + 4 then received.drop 4
          else received
        if expected == verifyData then .ok (a, .verified) else .ok (a, .verifyFailed)

end RealProvider

/-- The real provider under a configuration. -/
def mkRealProvider [NativeHacl] (cfg : RealCryptoConfig) : CryptoProvider where
  submit := RealProvider.submit cfg

end Kroopt.Crypto
