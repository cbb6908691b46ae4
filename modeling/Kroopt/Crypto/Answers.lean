import Kroopt.Crypto.RealProvider

/-!
# What the real provider answers

The answer to each operation, in terms of what its primitives return.

An operation looks its inputs up in the arena, calls its primitives and answers.  The provider's
code does the three in turn, with a failure between any two.  Here the first two parts are one
definition for each operation, which is `none` if an input is not in the arena, and a lemma says
what becomes of it.  The results about the provider start from these lemmas and do not look into its
code.

## Main definitions

* `extracted`, `expanded`, `sealed`, `opened`, `finished` and the three signatures: what the
  primitives of an operation return on its inputs.
* `stored`: a new secret is stored and answered with its handle, if there is room for it.

## Main results

* `submit_hkdfExtract` and its siblings, one for each operation: the answer of the provider.
* `beq_iff_carries`: what the comparison of a received Finished with a MAC comes to.
-/

set_option autoImplicit false

namespace Kroopt.Crypto

open Kroopt.Core (CryptoOp CryptoResult OperationId SecretKeyHandle Direction Epoch HashAlgorithm
  CipherSuite SignatureScheme RecordCryptoMeta)
open Kroopt.Crypto.RealProvider (submit)

/-! ## The arena -/

namespace SecretArena

variable {a : SecretArena} {b : Bytes}

/-- The record key and IV of a direction and epoch. -/
def recordKeys (a : SecretArena) (dir : Direction) (epoch : Epoch) : Option (Bytes × Bytes) :=
  (a.lookupInstalled dir epoch).bind fun (kId, ivId) ↦
    (a.getById kId).bind fun key ↦ (a.getById ivId).map fun iv ↦ (key, iv)

theorem recordKeys_eq {dir : Direction} {epoch : Epoch} {kId ivId : UInt64} {key iv : Bytes}
    (hids : a.lookupInstalled dir epoch = some (kId, ivId)) (hkey : a.getById kId = some key)
    (hiv : a.getById ivId = some iv) : a.recordKeys dir epoch = some (key, iv) := by
  rw [recordKeys, hids, Option.bind_some]
  dsimp only
  rw [hkey, Option.bind_some, hiv, Option.map_some]

/-- There is room for one more secret. -/
def HasRoom (a : SecretArena) : Prop := a.entries.length < a.capacity

/-- The arena after storing. -/
def push (a : SecretArena) (b : Bytes) : SecretArena :=
  { a with entries := (a.nextId, b) :: a.entries, nextId := a.nextId + 1 }

theorem store_of_room (h : a.HasRoom) :
    a.store b = .ok (⟨a.nextId, a.generation⟩, a.push b) :=
  if_neg (Nat.not_le.mpr h)

theorem store_of_full (h : ¬a.HasRoom) : a.store b = .error .providerInternal :=
  if_pos (Nat.not_lt.mp h)

/-- A handle names the bytes it was given for. -/
theorem get_push : (a.push b).get ⟨a.nextId, a.generation⟩ = some b := by
  simp [get, push]

/-- The arena with the keys of a direction and epoch, and the secret they come from. -/
def withTrafficKeys (a : SecretArena) (suite : CipherSuite) (dir : Direction) (epoch : Epoch)
    (key iv secret : Bytes) : SecretArena :=
  ((((a.push key).push iv).push secret).recordInstalled dir epoch a.nextId (a.nextId + 1)
    |>.recordBaseSecret dir epoch (a.nextId + 1 + 1)).recordInstalledSuite dir epoch suite

/-- The keys that were installed are the keys of their direction and epoch. -/
theorem recordKeys_withTrafficKeys {suite : CipherSuite} {dir : Direction} {epoch : Epoch}
    {key iv secret : Bytes} :
    (a.withTrafficKeys suite dir epoch key iv secret).recordKeys dir epoch = some (key, iv) := by
  have hids : (a.withTrafficKeys suite dir epoch key iv secret).lookupInstalled dir epoch =
      some (a.nextId, a.nextId + 1) := by
    simp [withTrafficKeys, lookupInstalled, recordInstalled, recordBaseSecret,
      recordInstalledSuite]
  have hentries : (a.withTrafficKeys suite dir epoch key iv secret).entries =
      (a.nextId + 1 + 1, secret) :: (a.nextId + 1, iv) :: (a.nextId, key) :: a.entries := rfl
  -- Three ids in a row are different, also where they wrap.
  have h₁ : ¬a.nextId + 1 + 1 = a.nextId + 1 := by grind
  have h₂ : ¬a.nextId + 1 + 1 = a.nextId := by grind
  have h₃ : ¬a.nextId + 1 = a.nextId := by grind
  refine recordKeys_eq hids ?_ ?_
  · simp [getById, hentries, h₂, h₃]
  · simp [getById, hentries, h₁]

end SecretArena

variable [NativeHacl]

/-! ## What the primitives return -/

/-- An input of HKDF-Extract: the secret a handle names, or zeros. -/
def resolve (a : SecretArena) (alg : HashAlgorithm) : Option SecretKeyHandle → Option Bytes
  | some h => a.get h
  | none => some (KeySchedule.zeros (KeySchedule.hashLen alg))

/-- The secret that is extracted. -/
def extracted (a : SecretArena) (alg : HashAlgorithm) (salt ikm : Option SecretKeyHandle) :
    Option Bytes :=
  (resolve a alg salt).bind fun saltBytes ↦
    (resolve a alg ikm).map fun ikmBytes ↦ KeySchedule.hkdfExtractH alg saltBytes ikmBytes

/-- The secret that is expanded. -/
def expanded (a : SecretArena) (alg : HashAlgorithm) (secret : SecretKeyHandle) (label : String)
    (context : Bytes) (len : Nat) : Option Bytes :=
  (a.get secret).map fun secretBytes ↦
    KeySchedule.expandLabel secretBytes label context len alg

/-- The sealed record. -/
def sealed (a : SecretArena) (rmeta : RecordCryptoMeta) (aad plaintext : Bytes) : Option Bytes :=
  (a.recordKeys rmeta.direction rmeta.epoch).map fun (key, iv) ↦
    Real.aeadSealBySuite rmeta.suite key (Real.nonce iv rmeta.seq.value) aad plaintext

/-- The opened record, `none` inside if the tag is wrong. -/
def opened (a : SecretArena) (rmeta : RecordCryptoMeta) (aad ciphertext : Bytes) :
    Option (Option Bytes) :=
  (a.recordKeys rmeta.direction rmeta.epoch).map fun (key, iv) ↦
    Real.aeadOpenBySuite rmeta.suite key (Real.nonce iv rmeta.seq.value) aad ciphertext

/-- The Ed25519 signature, by the handle of the key or by its bytes. -/
def ed25519Signature (cfg : RealCryptoConfig) (input : Bytes) : Bytes :=
  if cfg.certKeyHandle != 0 then NativeHacl.ed25519SignH cfg.certKeyHandle input
  else NativeHacl.ed25519Sign cfg.certPrivate input

/-- The ECDSA signature. -/
def ecdsaSignature (cfg : RealCryptoConfig) (input : Bytes) : Option Bytes :=
  if cfg.ecdsaKeyHandle != 0 then Hacl.ecdsaP256SignDerH input cfg.ecdsaKeyHandle cfg.signNonce
  else Hacl.ecdsaP256SignDer input cfg.ecdsaPriv cfg.signNonce

/-- The RSA-PSS signature. -/
def rsapssSignature (cfg : RealCryptoConfig) (input : Bytes) : Option Bytes :=
  if cfg.rsaKeyHandle != 0 then
    Hacl.rsapssSignH cfg.rsaN cfg.rsaE cfg.rsaKeyHandle cfg.signNonce input
  else Hacl.rsapssSign cfg.rsaN cfg.rsaE cfg.rsaD cfg.signNonce input

/-- The Finished key and the MAC under it, from the traffic secret of a direction. -/
def finished (a : SecretArena) (dir : Direction) (alg : HashAlgorithm) (transcriptHash : Bytes) :
    Option (Bytes × Bytes) :=
  (a.trafficSecret dir .handshake).map fun secret ↦
    let finKey := KeySchedule.finishedKey secret alg
    (finKey, KeySchedule.hmacH alg finKey transcriptHash)

theorem ne_nil_of_ecdsaSignature {cfg : RealCryptoConfig} {input sig : Bytes}
    (h : ecdsaSignature cfg input = some sig) : sig ≠ [] := by
  rw [ecdsaSignature] at h
  split at h
  · obtain ⟨raw, -, hder⟩ := Option.bind_eq_some_iff.mp h
    exact Hacl.ne_nil_of_derEncode hder
  · obtain ⟨raw, -, hder⟩ := Option.bind_eq_some_iff.mp h
    exact Hacl.ne_nil_of_derEncode hder

theorem length_of_rsapssSignature {cfg : RealCryptoConfig} {input sig : Bytes}
    (h : rsapssSignature cfg input = some sig) : sig.length = cfg.rsaN.length := by
  rw [rsapssSignature] at h
  split at h
  · exact Hacl.length_of_ofStatus h
  · exact Hacl.length_of_ofStatus h

/-! ## The answers -/

/-- The answer of an operation that stores a secret and hands out its handle. -/
def stored (a : SecretArena) (b : Bytes) (f : SecretKeyHandle → CryptoResult) :
    Except CryptoError (SecretArena × CryptoResult) :=
  a.store b >>= fun (h, a') ↦ .ok (a', f h)

/-- The Finished message is this MAC, with its header or without. -/
def Carries (received mac : Bytes) : Prop :=
  (if received.length = mac.length + 4 then received.drop 4 else received) = mac

instance (received mac : Bytes) : Decidable (Carries received mac) :=
  inferInstanceAs (Decidable (_ = _))

omit [NativeHacl] in
theorem beq_iff_carries {received mac : Bytes} :
    (mac == if received.length == mac.length + 4 then received.drop 4 else received) = true ↔
      Carries received mac := by
  rw [beq_iff_eq, Carries, eq_comm]
  simp only [beq_iff_eq]

section

variable {cfg : RealCryptoConfig} {a : SecretArena} {id : OperationId}

omit [NativeHacl] in
theorem stored_of_room {b : Bytes} {f : SecretKeyHandle → CryptoResult} (h : a.HasRoom) :
    stored a b f = .ok (a.push b, f ⟨a.nextId, a.generation⟩) := by
  rw [stored, SecretArena.store_of_room h]
  rfl

omit [NativeHacl] in
theorem stored_of_full {b : Bytes} {f : SecretKeyHandle → CryptoResult} (h : ¬a.HasRoom) :
    stored a b f = .error .providerInternal := by
  rw [stored, SecretArena.store_of_full h]
  rfl

omit [NativeHacl] in
theorem need_eq (h : SecretKeyHandle) :
    RealProvider.need a h = (a.get h).elim (.error .invalidHandle) .ok := by
  rw [RealProvider.need]
  cases a.get h <;> rfl

theorem submit_ecdheX25519 {peerShare : Bytes} :
    submit cfg a id (.ecdheX25519 peerShare) =
      (Hacl.x25519Shared cfg.ephemeralPrivate peerShare).elim (.error .providerInternal)
        fun shared ↦
          stored a shared (.ecdheComplete (NativeHacl.x25519Public cfg.ephemeralPrivate)) := by
  rw [submit]
  cases Hacl.x25519Shared cfg.ephemeralPrivate peerShare <;> rfl

theorem submit_ecdheP256 {peerShare : Bytes} :
    submit cfg a id (.ecdheP256 peerShare) =
      (Hacl.p256Shared cfg.ephemeralPrivate peerShare).elim
        (.error <| if (NativeHacl.p256Public cfg.ephemeralPrivate).isEmpty then .providerInternal
          else .peerInvalidKeyShare)
        fun shared ↦
          stored a shared (.ecdheComplete (NativeHacl.p256Public cfg.ephemeralPrivate)) := by
  rw [submit]
  cases Hacl.p256Shared cfg.ephemeralPrivate peerShare with
  | none => exact (apply_ite Except.error _ _ _).symm
  | some shared => rfl

theorem submit_hkdfExtract {alg : HashAlgorithm} {salt ikm : Option SecretKeyHandle} :
    submit cfg a id (.hkdfExtract alg salt ikm) =
      (extracted a alg salt ikm).elim (.error .invalidHandle) fun b ↦ stored a b .hkdfSecret := by
  have hneed : ∀ o : Option SecretKeyHandle,
      o.elim (.ok (KeySchedule.zeros (KeySchedule.hashLen alg))) (RealProvider.need a) =
        (resolve a alg o).elim (.error .invalidHandle) .ok := by
    intro o
    cases o with
    | none => rfl
    | some h => exact need_eq h
  have hsubmit : submit cfg a id (.hkdfExtract alg salt ikm) =
      salt.elim (.ok (KeySchedule.zeros (KeySchedule.hashLen alg))) (RealProvider.need a) >>=
        fun saltBytes ↦
          ikm.elim (.ok (KeySchedule.zeros (KeySchedule.hashLen alg))) (RealProvider.need a) >>=
            fun ikmBytes ↦
              stored a (KeySchedule.hkdfExtractH alg saltBytes ikmBytes) .hkdfSecret := by
    cases salt <;> cases ikm <;> rfl
  rw [hsubmit, hneed, hneed, extracted]
  cases resolve a alg salt with
  | none => rfl
  | some saltBytes => cases resolve a alg ikm <;> rfl

theorem submit_hkdfExpandLabel {alg : HashAlgorithm} {secret : SecretKeyHandle} {label : String}
    {context : Bytes} {len : Nat} :
    submit cfg a id (.hkdfExpandLabel alg secret label context len) =
      (expanded a alg secret label context len).elim (.error .invalidHandle)
        fun b ↦ stored a b .hkdfSecret := by
  rw [submit, need_eq, expanded]
  cases a.get secret <;> rfl

theorem submit_installTrafficKeys {suite : CipherSuite} {dir : Direction} {epoch : Epoch}
    {secret : SecretKeyHandle} :
    submit cfg a id (.installTrafficKeys suite dir epoch secret) =
      (a.get secret).elim (.error .invalidHandle) fun secretBytes ↦
        if a.entries.length + 2 < a.capacity then
          .ok (a.withTrafficKeys suite dir epoch (KeySchedule.trafficKey suite secretBytes)
            (KeySchedule.trafficIv secretBytes suite.hashAlg) secretBytes, .keysInstalled)
        else .error .providerInternal := by
  rw [submit, need_eq]
  cases a.get secret with
  | none => rfl
  | some secretBytes =>
    simp only [Option.elim, bind, Except.bind]
    by_cases h₀ : a.entries.length < a.capacity
    · rw [SecretArena.store_of_room h₀]
      dsimp only
      by_cases h₁ : a.entries.length + 1 < a.capacity
      · rw [SecretArena.store_of_room (a := a.push _) h₁]
        dsimp only
        by_cases h₂ : a.entries.length + 2 < a.capacity
        · rw [SecretArena.store_of_room (a := (a.push _).push _) h₂, if_pos h₂]
          rfl
        · rw [SecretArena.store_of_full (a := (a.push _).push _) h₂, if_neg h₂]
      · rw [SecretArena.store_of_full (a := a.push _) h₁, if_neg (by omega)]
    · rw [SecretArena.store_of_full h₀, if_neg (by omega)]

theorem submit_aeadSeal {rmeta : RecordCryptoMeta} {aad plaintext : Bytes} :
    submit cfg a id (.aeadSeal rmeta aad plaintext) =
      (sealed a rmeta aad plaintext).elim (.error .invalidHandle)
        fun ct ↦ .ok (a, .aeadSealed ct) := by
  rw [submit, sealed, SecretArena.recordKeys]
  cases a.lookupInstalled rmeta.direction rmeta.epoch with
  | none => rfl
  | some ids =>
    obtain ⟨kId, ivId⟩ := ids
    dsimp only [Option.bind]
    cases a.getById kId <;> cases a.getById ivId <;> rfl

theorem submit_aeadOpen {rmeta : RecordCryptoMeta} {aad ciphertext : Bytes} :
    submit cfg a id (.aeadOpen rmeta aad ciphertext) =
      (opened a rmeta aad ciphertext).elim (.error .invalidHandle)
        fun pt ↦ .ok (a, pt.elim .verifyFailed .aeadOpened) := by
  rw [submit, opened, SecretArena.recordKeys]
  cases a.lookupInstalled rmeta.direction rmeta.epoch with
  | none => rfl
  | some ids =>
    obtain ⟨kId, ivId⟩ := ids
    dsimp only [Option.bind]
    cases a.getById kId with
    | none => rfl
    | some key =>
      cases a.getById ivId with
      | none => rfl
      | some iv =>
        dsimp only [Option.map, Option.elim]
        cases Real.aeadOpenBySuite rmeta.suite key (Real.nonce iv rmeta.seq.value) aad ciphertext
          <;> rfl

theorem submit_ed25519 {input : Bytes} :
    submit cfg a id (.signCertificateVerify .ed25519 input) =
      .ok (a, .signature (ed25519Signature cfg input)) :=
  rfl

theorem submit_ecdsa {input : Bytes} :
    submit cfg a id (.signCertificateVerify .ecdsaSecp256r1Sha256 input) =
      (ecdsaSignature cfg input).elim (.error .providerInternal)
        fun sig ↦ .ok (a, .signature sig) := by
  rw [submit, ecdsaSignature]
  split
  · rename_i sig hsig
    rw [hsig]
    rfl
  · rename_i hnone
    rw [hnone]
    rfl

theorem submit_rsapss {input : Bytes} :
    submit cfg a id (.signCertificateVerify .rsaPssRsaeSha256 input) =
      if cfg.rsaN.isEmpty then .error .unsupportedOperation
      else (rsapssSignature cfg input).elim (.error .providerInternal)
        fun sig ↦ .ok (a, .signature sig) := by
  rw [submit, rsapssSignature]
  split
  · rfl
  · dsimp only
    split
    · rename_i sig hsig
      rw [hsig]
      rfl
    · rename_i hnone
      rw [hnone]
      rfl

theorem submit_computeServerFinished {alg : HashAlgorithm} {transcriptHash : Bytes} :
    submit cfg a id (.computeServerFinished alg transcriptHash) =
      (finished a .write alg transcriptHash).elim (.error .invalidHandle)
        fun (_, mac) ↦ .ok (a, .finishedMac mac) := by
  rw [submit, finished, SecretArena.trafficSecret]
  cases a.lookupBaseSecret .write .handshake with
  | none => rfl
  | some sid =>
    dsimp only [Option.bind]
    cases a.getById sid <;> rfl

theorem submit_verifyFinished {alg : HashAlgorithm} {transcriptHash received : Bytes} :
    submit cfg a id (.verifyFinished alg transcriptHash received) =
      (finished a .read alg transcriptHash).elim (.error .invalidHandle)
        fun (_, mac) ↦ .ok (a, if Carries received mac then .verified else .verifyFailed) := by
  rw [submit, finished, SecretArena.trafficSecret]
  cases a.lookupBaseSecret .read .handshake with
  | none => rfl
  | some sid =>
    dsimp only [Option.bind]
    cases a.getById sid with
    | none => rfl
    | some secret =>
      dsimp only [Option.map, Option.elim]
      generalize KeySchedule.hmacH alg (KeySchedule.finishedKey secret alg) transcriptHash = mac
      by_cases h : Carries received mac
      · rw [if_pos h]
        exact if_pos (beq_iff_carries.mpr h)
      · rw [if_neg h]
        exact if_neg (mt beq_iff_carries.mp h)

end

end Kroopt.Crypto
