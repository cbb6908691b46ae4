import Kroopt.Conn.Interpreter
import Kroopt.Crypto.Answers
import Kroopt.Properties.Binding

/-!
# Does the real provider fail closed?

A primitive reports a failure in what it returns: an empty array, or a status byte, which its
wrapper turns into `none`.  The provider fails closed if it turns every such report into an error or
a failed verification, and lets no result out that is too short to be one.

Some operations look at the report, and some pass it on as if it were a result: an empty signature,
an empty public share, an empty key.  Which they are can be read off the code, one operation after
the other, and that is the first half of the file.  But an operation that does not look may still be
stopped by something else, a full arena or the other half of a key exchange.  So the exceptions are
not a list of operations but a predicate on the arena and the operation (`Unchecked`), and with it
there is an exact answer for every one of them.

What this means for a connection is a matter of the interpreter, which feeds the answer back to the
core: the core hears of a failure exactly where the provider did.  And which failures there are is a
matter of the C code: over the glue an Ed25519 signature is empty if the handle of the key is dead,
and an AES-GCM record is a bare header on a machine without the instructions.

## Main definitions

* `reports` and `PrimitiveFails`: what the primitives of an operation report, and that one of them
  failed.
* `FailsClosed`: the property, for one operation on one arena.
* `Unchecked`: the operations that do not look at the report, where nothing else stops them.
* `HearsFailure`: the event that answers a call says that it failed.

## Main results

* `Settled`, for every operation: where a failure goes unnoticed, and what a success carries.
* `hearsFailure_iff`: what this comes to behind the interpreter.
* `realProvider_failsClosed_iff`: the exceptions are the unchecked operations, and for records the
  seals that return nothing.
* `failsClosed_ed25519_iff`, `failsClosed_installTrafficKeys_iff` and `not_hasBody_of_unsupported`:
  the same over the glue.
-/

set_option autoImplicit false

namespace Kroopt.Crypto

open Kroopt.Core (CryptoOp CryptoResult OperationId SecretKeyHandle Direction Epoch HashAlgorithm
  CipherSuite SignatureScheme ContentType RecordCryptoMeta)
open Kroopt.Crypto.RealProvider (submit)

variable [NativeHacl]

/-! ## The property

An operation whose inputs are missing calls no primitive, so there is nothing to report.  The
reports are listed in the order of the calls, without asking whether a call is reached when an
earlier one has failed: one failure is enough. -/

/-- The report of a primitive without a status byte: no bytes, no result. -/
def ofSentinel (b : Bytes) : Option Bytes := if b.isEmpty then none else some b

/-- **What the primitives of an operation report**, in the order of the calls.  An operation whose
inputs are missing calls none. -/
def reports (cfg : RealCryptoConfig) (a : SecretArena) : CryptoOp → List (Option Bytes)
  | .randomBytes _ => []
  | .ecdheX25519 peerShare =>
    [ofSentinel (NativeHacl.x25519Public cfg.ephemeralPrivate),
      Hacl.x25519Shared cfg.ephemeralPrivate peerShare]
  | .ecdheP256 peerShare =>
    [ofSentinel (NativeHacl.p256Public cfg.ephemeralPrivate),
      Hacl.p256Shared cfg.ephemeralPrivate peerShare]
  | .hkdfExtract alg salt ikm => (extracted a alg salt ikm).elim [] fun b ↦ [ofSentinel b]
  | .hkdfExpandLabel alg secret label context len =>
    (expanded a alg secret label context len).elim [] fun b ↦ [ofSentinel b]
  | .installTrafficKeys suite _ _ secret => (a.get secret).elim [] fun secretBytes ↦
    [ofSentinel (KeySchedule.trafficKey suite secretBytes),
      ofSentinel (KeySchedule.trafficIv secretBytes suite.hashAlg)]
  | .aeadSeal rmeta aad plaintext =>
    (sealed a rmeta aad plaintext).elim [] fun ct ↦ [ofSentinel ct]
  | .aeadOpen rmeta aad ciphertext => (opened a rmeta aad ciphertext).elim [] fun pt ↦ [pt]
  | .signCertificateVerify .ed25519 input => [ofSentinel (ed25519Signature cfg input)]
  | .signCertificateVerify .ecdsaSecp256r1Sha256 input => [ecdsaSignature cfg input]
  | .signCertificateVerify .rsaPssRsaeSha256 input =>
    if cfg.rsaN.isEmpty then [] else [rsapssSignature cfg input]
  | .verifyFinished alg transcriptHash _ =>
    (finished a .read alg transcriptHash).elim [] fun (finKey, mac) ↦
      [ofSentinel finKey, ofSentinel mac]
  | .computeServerFinished alg transcriptHash =>
    (finished a .write alg transcriptHash).elim [] fun (finKey, mac) ↦
      [ofSentinel finKey, ofSentinel mac]

/-- A primitive behind the operation signals failure. -/
def PrimitiveFails (cfg : RealCryptoConfig) (a : SecretArena) (op : CryptoOp) : Prop :=
  none ∈ reports cfg a op

/-- The answer is an error or a failed verification. -/
def Closed : Except CryptoError (SecretArena × CryptoResult) → Prop
  | .error _ => True
  | .ok (_, r) => r = .verifyFailed

/-- The result can be one: a sealed record is as long as its plaintext and the tag, and a signature,
a key share, a stored secret, an installed key or IV are not empty. -/
def WellFormed : CryptoOp → SecretArena → CryptoResult → Prop
  | .aeadSeal _ _ plaintext, _, .aeadSealed ct => ct.length = plaintext.length + 16
  | _, _, .signature sig => sig ≠ []
  | _, _, .ecdheComplete serverShare _ => serverShare ≠ []
  | _, a', .hkdfSecret h => a'.get h ≠ some []
  | .installTrafficKeys _ dir epoch _, a', .keysInstalled =>
    ∀ key iv, a'.recordKeys dir epoch = some (key, iv) → key ≠ [] ∧ iv ≠ []
  | _, _, _ => True

/-- **The provider fails closed** on an operation. -/
structure FailsClosed (cfg : RealCryptoConfig) (a : SecretArena) (id : OperationId)
    (op : CryptoOp) : Prop where
  closed : PrimitiveFails cfg a op → Closed (submit cfg a id op)
  wellFormed : ∀ a' r, submit cfg a id op = .ok (a', r) → WellFormed op a' r

/-- **The operations that do not look at a report**, where nothing else stops them: the arena has
room for what they store, the shared secret of the same key exchange is there, or the MAC computed
is the one received. -/
def Unchecked (cfg : RealCryptoConfig) (a : SecretArena) : CryptoOp → Prop
  | .ecdheX25519 peerShare =>
    (Hacl.x25519Shared cfg.ephemeralPrivate peerShare).isSome ∧ a.HasRoom
  | .ecdheP256 peerShare => (Hacl.p256Shared cfg.ephemeralPrivate peerShare).isSome ∧ a.HasRoom
  | .hkdfExtract _ _ _ => a.HasRoom
  | .hkdfExpandLabel _ _ _ _ _ => a.HasRoom
  | .installTrafficKeys _ _ _ _ => a.entries.length + 2 < a.capacity
  | .aeadSeal _ _ _ => True
  | .signCertificateVerify scheme _ => scheme = .ed25519
  | .computeServerFinished _ _ => True
  | .verifyFinished alg transcriptHash received =>
    ∃ keyMac ∈ finished a .read alg transcriptHash, Carries received keyMac.2
  | .randomBytes _ => False
  | .aeadOpen _ _ _ => False

/-! ## One operation

`Settled` is what has to be shown of an operation.  Operations that do alike share a lemma: those
whose inputs may be missing, those that store what they compute and need room for it, the two key
exchanges, and the signatures that come with a status byte. -/

/-- What a failure and a success of an operation come to. -/
structure Settled (cfg : RealCryptoConfig) (a : SecretArena) (id : OperationId)
    (op : CryptoOp) : Prop where
  /-- **Where a failure goes unnoticed.** -/
  failure : PrimitiveFails cfg a op → (Closed (submit cfg a id op) ↔ ¬Unchecked cfg a op)
  /-- **What a success carries**, when no primitive fails. -/
  success : ¬PrimitiveFails cfg a op → ∀ a' r, submit cfg a id op = .ok (a', r) → WellFormed op a' r

section

variable {cfg : RealCryptoConfig} {a a' : SecretArena} {id : OperationId} {op : CryptoOp}
  {b : Bytes} {f : SecretKeyHandle → CryptoResult} {r : CryptoResult}

/-- Such an operation fails closed unless a primitive fails and its report is not looked at. -/
theorem Settled.failsClosed_iff (h : Settled cfg a id op) :
    FailsClosed cfg a id op ↔ (PrimitiveFails cfg a op → ¬Unchecked cfg a op) := by
  constructor
  · intro hclosed hfails
    exact (h.failure hfails).mp (hclosed.closed hfails)
  · intro hchecked
    refine ⟨fun hfails ↦ (h.failure hfails).mpr (hchecked hfails), fun a' r hok ↦ ?_⟩
    by_cases hfails : PrimitiveFails cfg a op
    · have hclosed := (h.failure hfails).mpr (hchecked hfails)
      rw [hok] at hclosed
      cases hclosed
      cases op <;> exact trivial
    · exact h.success hfails a' r hok

omit [NativeHacl] in
theorem ofSentinel_eq_none : ofSentinel b = none ↔ b = [] := by
  cases b with
  | nil => exact iff_of_true rfl rfl
  | cons x b => exact iff_of_false nofun nofun

omit [NativeHacl] in
theorem ne_nil_of_reported {l : List (Option Bytes)} (h : none ∉ l) (hb : ofSentinel b ∈ l) :
    b ≠ [] := by
  rintro rfl
  exact h hb

/-- An operation whose inputs may be missing: if they are, it calls no primitive and is refused. -/
theorem Settled.of_inputs {α : Type} {o : Option α} {g : α → List (Option Bytes)}
    {f : α → Except CryptoError (SecretArena × CryptoResult)}
    (hreports : reports cfg a op = o.elim [] g)
    (hsubmit : submit cfg a id op = o.elim (.error .invalidHandle) f)
    (hfailure : ∀ x ∈ o, none ∈ g x → (Closed (f x) ↔ ¬Unchecked cfg a op))
    (hsuccess : ∀ x ∈ o, none ∉ g x → ∀ a' r, f x = .ok (a', r) → WellFormed op a' r) :
    Settled cfg a id op := by
  cases o with
  | none =>
    refine ⟨fun hfails ↦ ?_, fun _ a' r hok ↦ ?_⟩
    · rw [PrimitiveFails, hreports] at hfails
      exact absurd hfails List.not_mem_nil
    · exact nomatch hsubmit.symm.trans hok
  | some x =>
    refine ⟨fun hfails ↦ ?_, fun hfails a' r hok ↦ ?_⟩
    · rw [PrimitiveFails, hreports] at hfails
      rw [hsubmit]
      exact hfailure x rfl hfails
    · rw [PrimitiveFails, hreports] at hfails
      rw [hsubmit] at hok
      exact hsuccess x rfl hfails a' r hok

omit [NativeHacl] in
theorem closed_stored (hf : ∀ h, f h ≠ .verifyFailed) : Closed (stored a b f) ↔ ¬a.HasRoom := by
  by_cases h : a.HasRoom
  · rw [stored_of_room h]
    exact iff_of_false (hf _) (not_not.mpr h)
  · rw [stored_of_full h]
    exact iff_of_true trivial h

omit [NativeHacl] in
theorem stored_eq_ok (h : stored a b f = .ok (a', r)) :
    a' = a.push b ∧ r = f ⟨a.nextId, a.generation⟩ := by
  by_cases hroom : a.HasRoom
  · rw [stored_of_room hroom] at h
    cases h
    exact ⟨rfl, rfl⟩
  · rw [stored_of_full hroom] at h
    cases h

/-- A key exchange looks at its shared secret, and not at its own share. -/
theorem Settled.of_exchange {share : Bytes} {shared : Option Bytes} {e : CryptoError}
    (hreports : reports cfg a op = [ofSentinel share, shared])
    (hsubmit : submit cfg a id op =
      shared.elim (.error e) fun b ↦ stored a b (.ecdheComplete share))
    (hunchecked : Unchecked cfg a op ↔ shared.isSome ∧ a.HasRoom) : Settled cfg a id op := by
  refine ⟨fun _ ↦ ?_, fun hfails a' r hok ↦ ?_⟩
  · rw [hsubmit, hunchecked]
    cases shared with
    | none => exact iff_of_true trivial fun h ↦ nomatch h.1
    | some b =>
      rw [Option.isSome_some, eq_self, true_and]
      exact closed_stored nofun
  · rw [PrimitiveFails, hreports] at hfails
    rw [hsubmit] at hok
    cases shared with
    | none => cases hok
    | some b =>
      obtain ⟨rfl, rfl⟩ := stored_eq_ok hok
      have hshare : share ≠ [] := ne_nil_of_reported hfails List.mem_cons_self
      cases op <;> exact hshare

/-- A derived secret is stored as it comes. -/
theorem Settled.of_derivation {o : Option Bytes}
    (hreports : reports cfg a op = o.elim [] fun b ↦ [ofSentinel b])
    (hsubmit : submit cfg a id op = o.elim (.error .invalidHandle) fun b ↦ stored a b .hkdfSecret)
    (hunchecked : Unchecked cfg a op ↔ a.HasRoom) : Settled cfg a id op := by
  refine .of_inputs hreports hsubmit (fun b _ _ ↦ ?_) (fun b _ hfails a' r hok ↦ ?_)
  · rw [hunchecked]
    exact closed_stored nofun
  · obtain ⟨rfl, rfl⟩ := stored_eq_ok hok
    have hget : (a.push b).get ⟨a.nextId, a.generation⟩ ≠ some [] := by
      rw [SecretArena.get_push, Ne, Option.some.injEq]
      exact ne_nil_of_reported hfails List.mem_cons_self
    cases op <;> exact hget

theorem settled_installTrafficKeys {suite : CipherSuite} {dir : Direction} {epoch : Epoch}
    {secret : SecretKeyHandle} : Settled cfg a id (.installTrafficKeys suite dir epoch secret) := by
  refine .of_inputs rfl submit_installTrafficKeys (fun secretBytes _ _ ↦ ?_)
    (fun secretBytes _ hfails a' r hok ↦ ?_)
  · split
    · rename_i hroom
      exact iff_of_false nofun (not_not.mpr hroom)
    · rename_i hfull
      exact iff_of_true trivial hfull
  · split at hok
    · cases hok
      intro key iv hkeys
      cases SecretArena.recordKeys_withTrafficKeys.symm.trans hkeys
      exact ⟨ne_nil_of_reported hfails List.mem_cons_self,
        ne_nil_of_reported hfails (List.mem_cons_of_mem _ List.mem_cons_self)⟩
    · cases hok

theorem settled_aeadSeal {rmeta : RecordCryptoMeta} {aad plaintext : Bytes} :
    Settled cfg a id (.aeadSeal rmeta aad plaintext) := by
  refine .of_inputs rfl submit_aeadSeal (fun ct _ _ ↦ ?_) (fun ct hct hfails a' r hok ↦ ?_)
  · exact iff_of_false nofun (not_not.mpr trivial)
  · cases hok
    obtain ⟨keys, -, rfl⟩ := Option.map_eq_some_iff.mp hct
    exact (NativeHacl.sealed_length _ _ _ _ _).resolve_left
      (ne_nil_of_reported hfails List.mem_cons_self)

/-- Opening a record looks at its report. -/
theorem settled_aeadOpen {rmeta : RecordCryptoMeta} {aad ciphertext : Bytes} :
    Settled cfg a id (.aeadOpen rmeta aad ciphertext) := by
  refine .of_inputs rfl submit_aeadOpen (fun pt _ hfails ↦ ?_) (fun pt _ _ a' r hok ↦ ?_)
  · rw [← List.mem_singleton.mp hfails]
    exact iff_of_true rfl not_false
  · cases hok
    cases pt <;> exact trivial

theorem settled_computeServerFinished {alg : HashAlgorithm} {transcriptHash : Bytes} :
    Settled cfg a id (.computeServerFinished alg transcriptHash) := by
  refine .of_inputs rfl submit_computeServerFinished (fun keyMac _ _ ↦ ?_)
    (fun keyMac _ _ a' r hok ↦ ?_)
  · exact iff_of_false nofun (not_not.mpr trivial)
  · cases hok
    exact trivial

/-- A Finished message is compared with whatever HMAC returned. -/
theorem settled_verifyFinished {alg : HashAlgorithm} {transcriptHash received : Bytes} :
    Settled cfg a id (.verifyFinished alg transcriptHash received) := by
  refine .of_inputs rfl submit_verifyFinished (fun keyMac hkeyMac _ ↦ ?_)
    (fun keyMac _ _ a' r hok ↦ ?_)
  · dsimp only
    split
    · rename_i hcarries
      exact iff_of_false nofun (not_not.mpr ⟨keyMac, hkeyMac, hcarries⟩)
    · rename_i hcarries
      refine iff_of_true rfl ?_
      rintro ⟨keyMac', hkeyMac', hcarries'⟩
      cases Option.mem_unique hkeyMac hkeyMac'
      exact hcarries hcarries'
  · cases hok
    split <;> exact trivial

/-- A signature with a status byte is not handed out if the status is bad. -/
theorem Settled.of_status {scheme : SignatureScheme} {input : Bytes} {o : Option Bytes}
    (hreports : reports cfg a (.signCertificateVerify scheme input) = [o])
    (hsubmit : submit cfg a id (.signCertificateVerify scheme input) =
      o.elim (.error .providerInternal) fun sig ↦ .ok (a, .signature sig))
    (hchecked : scheme ≠ .ed25519) (hne : ∀ sig ∈ o, sig ≠ []) :
    Settled cfg a id (.signCertificateVerify scheme input) := by
  refine ⟨fun hfails ↦ ?_, fun _ a' r hok ↦ ?_⟩
  · rw [PrimitiveFails, hreports] at hfails
    rw [hsubmit, ← List.mem_singleton.mp hfails]
    exact iff_of_true trivial hchecked
  · rw [hsubmit] at hok
    cases o with
    | none => cases hok
    | some sig =>
      cases hok
      exact hne sig rfl

/-- ECDSA and RSA-PSS look at their report, Ed25519 does not. -/
theorem settled_signCertificateVerify {scheme : SignatureScheme} {input : Bytes} :
    Settled cfg a id (.signCertificateVerify scheme input) := by
  cases scheme with
  | ed25519 =>
    refine ⟨fun _ ↦ iff_of_false nofun (not_not.mpr rfl), fun hfails a' r hok ↦ ?_⟩
    cases submit_ed25519.symm.trans hok
    exact ne_nil_of_reported hfails List.mem_cons_self
  | ecdsaSecp256r1Sha256 =>
    exact .of_status rfl submit_ecdsa nofun fun sig hsig ↦ ne_nil_of_ecdsaSignature hsig
  | rsaPssRsaeSha256 =>
    by_cases hkey : cfg.rsaN.isEmpty
    · refine ⟨fun hfails ↦ ?_, fun _ a' r hok ↦ ?_⟩
      · rw [submit_rsapss, if_pos hkey]
        exact iff_of_true trivial nofun
      · rw [submit_rsapss, if_pos hkey] at hok
        cases hok
    · refine .of_status (if_neg hkey) (submit_rsapss.trans (if_neg hkey)) nofun fun sig hsig ↦ ?_
      rintro rfl
      have hlen := length_of_rsapssSignature hsig
      exact hkey (List.isEmpty_iff_length_eq_zero.mpr hlen.symm)

/-- **Every operation.** -/
theorem settled (cfg : RealCryptoConfig) (a : SecretArena) (id : OperationId) (op : CryptoOp) :
    Settled cfg a id op := by
  cases op with
  | randomBytes len =>
    exact ⟨fun hfails ↦ absurd hfails List.not_mem_nil, fun _ _ _ hok ↦ nomatch hok⟩
  | ecdheX25519 peerShare => exact .of_exchange rfl submit_ecdheX25519 .rfl
  | ecdheP256 peerShare => exact .of_exchange rfl submit_ecdheP256 .rfl
  | hkdfExtract alg salt ikm => exact .of_derivation rfl submit_hkdfExtract .rfl
  | hkdfExpandLabel alg secret label context len =>
    exact .of_derivation rfl submit_hkdfExpandLabel .rfl
  | installTrafficKeys suite dir epoch secret => exact settled_installTrafficKeys
  | aeadSeal rmeta aad plaintext => exact settled_aeadSeal
  | aeadOpen rmeta aad ciphertext => exact settled_aeadOpen
  | signCertificateVerify scheme input => exact settled_signCertificateVerify
  | computeServerFinished alg transcriptHash => exact settled_computeServerFinished
  | verifyFinished alg transcriptHash received => exact settled_verifyFinished

end

/-- An Ed25519 signature fails closed only if there is one. -/
theorem failsClosed_ed25519 {cfg : RealCryptoConfig} {a : SecretArena} {id : OperationId}
    {input : Bytes} : FailsClosed cfg a id (.signCertificateVerify .ed25519 input) ↔
      ed25519Signature cfg input ≠ [] := by
  rw [(settled cfg a id _).failsClosed_iff]
  constructor
  · intro h hnil
    refine h ?_ rfl
    rw [PrimitiveFails, reports, hnil]
    exact List.mem_cons_self
  · intro hne hfails
    exact absurd (ofSentinel_eq_none.mp (List.mem_singleton.mp hfails).symm) hne

/-- Installing keys that there is room for fails closed only if there are keys. -/
theorem failsClosed_installTrafficKeys {cfg : RealCryptoConfig} {a : SecretArena}
    {id : OperationId} {suite : CipherSuite} {dir : Direction} {epoch : Epoch}
    {secret : SecretKeyHandle} {secretBytes : Bytes} (hsecret : a.get secret = some secretBytes)
    (hroom : a.entries.length + 2 < a.capacity) :
    FailsClosed cfg a id (.installTrafficKeys suite dir epoch secret) ↔
      KeySchedule.trafficKey suite secretBytes ≠ [] ∧
        KeySchedule.trafficIv secretBytes suite.hashAlg ≠ [] := by
  have hreports : reports cfg a (.installTrafficKeys suite dir epoch secret) =
      [ofSentinel (KeySchedule.trafficKey suite secretBytes),
        ofSentinel (KeySchedule.trafficIv secretBytes suite.hashAlg)] := by
    rw [reports, hsecret]
    rfl
  rw [(settled cfg a id _).failsClosed_iff, PrimitiveFails, hreports]
  constructor
  · intro h
    have hmem := mt h (not_not.mpr hroom)
    exact ⟨ne_nil_of_reported hmem List.mem_cons_self,
      ne_nil_of_reported hmem (List.mem_cons_of_mem _ List.mem_cons_self)⟩
  · intro ⟨hkey, hiv⟩ hmem
    rcases List.mem_pair.mp hmem with h | h
    · exact absurd (ofSentinel_eq_none.mp h.symm) hkey
    · exact absurd (ofSentinel_eq_none.mp h.symm) hiv

/-! ## What the core hears

The interpreter fills in an operation, submits it and feeds the answer back to the core. -/

section

open Kroopt.Core (InputEvent ConnId)
open Kroopt.Conn (Transport RuntimeState execAction resultMatchesKind resolveCryptoTranscript
  resolveRecordAAD)

variable {cfg : RealCryptoConfig} {a : SecretArena} {id : OperationId} {op : CryptoOp}

omit [NativeHacl] in
theorem elim_eq_ok {α β ε : Type} {o : Option α} {e : ε} {f : α → Except ε β} {r : β}
    (h : o.elim (.error e) f = .ok r) : ∃ x ∈ o, f x = .ok r := by
  cases o with
  | none => cases h
  | some x => exact ⟨x, rfl, h⟩

omit [NativeHacl] in
theorem result_of_stored {o : Option Bytes} {e : CryptoError}
    {f : SecretKeyHandle → CryptoResult} {a' : SecretArena} {r : CryptoResult}
    (h : (o.elim (.error e) fun b ↦ stored a b f) = .ok (a', r)) : ∃ h, r = f h := by
  obtain ⟨b, -, hstored⟩ := elim_eq_ok h
  exact ⟨_, (stored_eq_ok hstored).2⟩

theorem result_of_sign {scheme : SignatureScheme} {input : Bytes} {a' : SecretArena}
    {r : CryptoResult} (h : submit cfg a id (.signCertificateVerify scheme input) = .ok (a', r)) :
    ∃ sig, r = .signature sig := by
  cases scheme with
  | ed25519 =>
    cases submit_ed25519.symm.trans h
    exact ⟨_, rfl⟩
  | ecdsaSecp256r1Sha256 =>
    obtain ⟨sig, -, hsig⟩ := elim_eq_ok (submit_ecdsa.symm.trans h)
    cases hsig
    exact ⟨sig, rfl⟩
  | rsaPssRsaeSha256 =>
    rw [submit_rsapss] at h
    split at h
    · cases h
    · obtain ⟨sig, -, hsig⟩ := elim_eq_ok h
      cases hsig
      exact ⟨sig, rfl⟩

/-- A result of the provider answers its operation, and is no failure in disguise. -/
theorem submit_answers {a' : SecretArena} {r : CryptoResult}
    (hok : submit cfg a id op = .ok (a', r)) :
    resultMatchesKind op.kind r = true ∧ ∀ e, r ≠ .failed e := by
  cases op with
  | randomBytes len => cases hok
  | ecdheX25519 peerShare =>
    obtain ⟨h, rfl⟩ := result_of_stored (submit_ecdheX25519.symm.trans hok)
    exact ⟨rfl, nofun⟩
  | ecdheP256 peerShare =>
    obtain ⟨h, rfl⟩ := result_of_stored (submit_ecdheP256.symm.trans hok)
    exact ⟨rfl, nofun⟩
  | hkdfExtract alg salt ikm =>
    obtain ⟨h, rfl⟩ := result_of_stored (submit_hkdfExtract.symm.trans hok)
    exact ⟨rfl, nofun⟩
  | hkdfExpandLabel alg secret label context len =>
    obtain ⟨h, rfl⟩ := result_of_stored (submit_hkdfExpandLabel.symm.trans hok)
    exact ⟨rfl, nofun⟩
  | installTrafficKeys suite dir epoch secret =>
    obtain ⟨secretBytes, -, hinstalled⟩ := elim_eq_ok (submit_installTrafficKeys.symm.trans hok)
    split at hinstalled
    · cases hinstalled
      exact ⟨rfl, nofun⟩
    · cases hinstalled
  | aeadSeal rmeta aad plaintext =>
    obtain ⟨ct, -, hsealed⟩ := elim_eq_ok (submit_aeadSeal.symm.trans hok)
    cases hsealed
    exact ⟨rfl, nofun⟩
  | aeadOpen rmeta aad ciphertext =>
    obtain ⟨pt, -, hopened⟩ := elim_eq_ok (submit_aeadOpen.symm.trans hok)
    cases hopened
    cases pt with
    | none => exact ⟨rfl, nofun⟩
    | some pt => exact ⟨rfl, nofun⟩
  | signCertificateVerify scheme input =>
    obtain ⟨sig, rfl⟩ := result_of_sign hok
    exact ⟨rfl, nofun⟩
  | computeServerFinished alg transcriptHash =>
    obtain ⟨keyMac, -, hmac⟩ := elim_eq_ok (submit_computeServerFinished.symm.trans hok)
    cases hmac
    exact ⟨rfl, nofun⟩
  | verifyFinished alg transcriptHash received =>
    obtain ⟨keyMac, -, hverified⟩ := elim_eq_ok (submit_verifyFinished.symm.trans hok)
    cases hverified
    split
    · exact ⟨rfl, nofun⟩
    · exact ⟨rfl, nofun⟩

/-- What becomes of an answer. -/
def heard : Except CryptoError (SecretArena × CryptoResult) → CryptoResult
  | .ok (_, r) => r
  | .error e => .failed e

/-- The operation as it is submitted: with hashes for transcripts, and the additional data. -/
def resolved (a : SecretArena) (op : CryptoOp) : CryptoOp :=
  resolveRecordAAD (resolveCryptoTranscript
    (((a.lookupInstalledSuite .write .handshake).map (·.hashAlg)).getD .sha256) op)

theorem kind_resolved : (resolved a op).kind = op.kind := by
  cases op with
  | hkdfExpandLabel alg secret label context len =>
    rw [resolved, resolveCryptoTranscript]
    split <;> rfl
  | _ => rfl

/-- **Every crypto call is answered**, once and under its own identifier. -/
theorem execAction_callCrypto {τ : Type} [Transport τ] {rt : RuntimeState} {tr : τ}
    {conn : ConnId} :
    (execAction (mkRealProvider cfg) rt tr (.callCrypto conn id op)).2.2 =
      [.cryptoResult conn id (heard (submit cfg rt.arena id (resolved rt.arena op)))] := by
  cases h : submit cfg rt.arena id (resolved rt.arena op) with
  | error e =>
    have h' : (mkRealProvider cfg).submit rt.arena id (resolved rt.arena op) = .error e := h
    rw [resolved] at h'
    rw [execAction, h']
    rfl
  | ok answer =>
    obtain ⟨a', r⟩ := answer
    have hkind := (submit_answers h).1
    rw [kind_resolved] at hkind
    have h' : (mkRealProvider cfg).submit rt.arena id (resolved rt.arena op) = .ok (a', r) := h
    rw [resolved] at h'
    rw [execAction, h']
    dsimp only
    rw [if_pos hkind]
    rfl

/-- The core is told of a failure. -/
def HearsFailure (r : CryptoResult) : Prop := r = .verifyFailed ∨ ∃ e, r = .failed e

/-- **Which failures the core hears of.**  If a primitive behind a crypto call fails, the event that
answers the call says so exactly where the report is looked at. -/
theorem hearsFailure_iff {op : CryptoOp} (hfails : PrimitiveFails cfg a (resolved a op)) :
    HearsFailure (heard (submit cfg a id (resolved a op))) ↔ ¬Unchecked cfg a (resolved a op) := by
  rw [← (settled cfg a id (resolved a op)).failure hfails]
  cases h : submit cfg a id (resolved a op) with
  | error e => exact iff_of_true (.inr ⟨e, rfl⟩) trivial
  | ok answer =>
    obtain ⟨a', r⟩ := answer
    have hfailed := (submit_answers h).2
    constructor
    · rintro (hr | ⟨e, hr⟩)
      · exact hr
      · exact absurd hr (hfailed e)
    · exact .inl

end

/-! ## The record layer

Records of the flight are sealed without an operation, by `sealRecord`, which has an error only for
contents that are too long.  A seal that fails leaves a header and nothing behind it. -/

open Kroopt.Conn.Record13 (sealRecord innerPlaintext recordAAD maxRecordPlaintext)

/-- What the seal of a record returns. -/
def recordSeal (key iv : Bytes) (seq : UInt64) (content : Bytes) (ctype : ContentType) (pad : Nat)
    (suite : CipherSuite) : Bytes :=
  let inner := innerPlaintext content ctype pad
  Real.aeadSealBySuite suite key (Real.nonce iv seq) (recordAAD (inner.length + 16)) inner

/-- A framed record has something behind the five bytes of its header. -/
def HasBody (r : Except ResourceLimitError Bytes) : Prop := ∀ wire, r = .ok wire → 5 < wire.length

theorem length_sealRecord {key iv content wire : Bytes} {seq : UInt64} {ctype : ContentType}
    {pad : Nat} {suite : CipherSuite}
    (h : sealRecord key iv seq content ctype pad suite = .ok wire) :
    wire.length = 5 + (recordSeal key iv seq content ctype pad suite).length := by
  rw [sealRecord] at h
  split at h
  · cases h
  · cases h
    rw [List.length_append, List.length_append]
    rfl

/-- A record is framed without a body where the seal returns nothing, unless the content was too
long to be sealed. -/
theorem hasBody_sealRecord {key iv : Bytes} {seq : UInt64} {content : Bytes} {ctype : ContentType}
    {pad : Nat} {suite : CipherSuite} :
    HasBody (sealRecord key iv seq content ctype pad suite) ↔
      (recordSeal key iv seq content ctype pad suite = [] →
        maxRecordPlaintext < content.length) := by
  constructor
  · intro h hseal
    by_contra hsmall
    have hbody := h _ (if_neg hsmall)
    rw [length_sealRecord (if_neg hsmall), hseal] at hbody
    exact Nat.lt_irrefl 5 hbody
  · intro h wire hok
    rw [length_sealRecord hok]
    refine Nat.lt_add_of_pos_right (List.length_pos_iff.mpr fun hseal ↦ ?_)
    cases (Conn.Record13.sealRecord_eq_error.mpr ⟨h hseal, rfl⟩).symm.trans hok

/-- **Where the provider fails closed.**  An operation does unless a primitive fails and its report
is not looked at, and a record is framed without a body only if its seal fails. -/
theorem realProvider_failsClosed_iff :
    (∀ cfg a id op, FailsClosed cfg a id op ↔ (PrimitiveFails cfg a op → ¬Unchecked cfg a op)) ∧
      ∀ key iv seq content ctype pad suite,
        HasBody (sealRecord key iv seq content ctype pad suite) ↔
          (recordSeal key iv seq content ctype pad suite = [] →
            maxRecordPlaintext < content.length) :=
  ⟨fun cfg a id op ↦ (settled cfg a id op).failsClosed_iff,
    fun _ _ _ _ _ _ _ ↦ hasBody_sealRecord⟩

end Kroopt.Crypto

namespace Kroopt.Native

open Kroopt.Core (OperationId CipherSuite ContentType Direction Epoch SecretKeyHandle)
open Kroopt.Conn.Record13 (sealRecord maxRecordPlaintext)
open Kroopt.Crypto
open Kroopt.Crypto.RealProvider (submit)
open Memory (Allocator)

/-! ## Over the glue

Which keys and which machines the exceptions are about. -/

section

variable [HaclStar]

theorem ed25519Sign_ne_nil {priv msg : Bytes} :
    ed25519Sign priv msg ≠ [] ↔ priv.length = 32 ∧ msg.length ≤ uint32Max := by
  rw [ed25519Sign]
  split
  · rename_i hbad
    refine iff_of_false (not_not.mpr rfl) fun hgood ↦ ?_
    exact hbad.elim (absurd hgood.1) fun h ↦ by simp [lenU32Ok, hgood.2] at h
  · rename_i hgood
    rw [not_or, not_not] at hgood
    refine iff_of_true (fun hnil ↦ ?_) ⟨hgood.1, by simpa [lenU32Ok] using hgood.2⟩
    have hlen := (HaclStar.ed25519Sign priv msg).length_cells
    rw [hnil] at hlen
    cases hlen

/-- The Ed25519 key of a configuration: what its handle names, or its bytes. -/
def signingKey (m : FreshMap UInt64 Bytes) (cfg : RealCryptoConfig) : Option Bytes :=
  if cfg.certKeyHandle != 0 then m.live.lookup cfg.certKeyHandle else some cfg.certPrivate

/-- **An Ed25519 signature** fails closed only where it succeeds: the key is live, it has the length
of a key, and the input fits. -/
theorem failsClosed_ed25519_iff {t : SecretTable} {m : FreshMap UInt64 Bytes}
    (h : t.Represents m) (mem : Allocator UInt8) (cfg : RealCryptoConfig) (a : SecretArena)
    (id : OperationId) (input : Bytes) :
    letI := binding t mem
    FailsClosed cfg a id (.signCertificateVerify .ed25519 input) ↔
      ∃ key ∈ signingKey m cfg, key.length = 32 ∧ input.length ≤ uint32Max := by
  let _ := binding t mem
  have hsignature : ed25519Signature cfg input =
      (signingKey m cfg).elim [] fun key ↦ ed25519Sign key input := by
    rw [ed25519Signature, signingKey]
    split
    · exact ed25519SignH_binding h mem cfg.certKeyHandle input
    · rfl
  rw [failsClosed_ed25519, hsignature]
  cases signingKey m cfg with
  | none => exact iff_of_false (not_not.mpr rfl) nofun
  | some key =>
    rw [Option.elim, ed25519Sign_ne_nil]
    exact ⟨fun h ↦ ⟨key, rfl, h⟩, fun ⟨_, hkey, h⟩ ↦ Option.some.inj hkey ▸ h⟩

/-- **Installing keys over SHA-384** fails closed only where both expansions are admitted: without
memory for the scratch buffer, the keys that are installed are empty. -/
theorem failsClosed_installTrafficKeys_iff (t : SecretTable) (mem : Allocator UInt8)
    (cfg : RealCryptoConfig) {a : SecretArena} (id : OperationId) (dir : Direction) (epoch : Epoch)
    {secret : SecretKeyHandle} {secretBytes : Bytes} (hsecret : a.get secret = some secretBytes)
    (hroom : a.entries.length + 2 < a.capacity) :
    letI := binding t mem
    FailsClosed cfg a id (.installTrafficKeys .aes256GcmSha384 dir epoch secret) ↔
      ExpandAdmitted mem secretBytes (KeySchedule.hkdfLabel 32 "key" []) 32 ∧
        ExpandAdmitted mem secretBytes (KeySchedule.hkdfLabel 12 "iv" []) 12 := by
  let _ := binding t mem
  rw [failsClosed_installTrafficKeys hsecret hroom]
  exact and_congr (expandLabel_binding_ne_nil t mem (n := 32) (by decide))
    (expandLabel_binding_ne_nil t mem (n := 12) (by decide))

/-- **On a machine without AES instructions** every AES-GCM record is a bare header. -/
theorem not_hasBody_of_unsupported (hcpu : HaclStar.cpu.supportsAesGcm = false) (t : SecretTable)
    (mem : Allocator UInt8) {key iv : Bytes} {seq : UInt64} {content : Bytes} {ctype : ContentType}
    {pad : Nat} {suite : CipherSuite} (hsuite : suite ≠ .chacha20Poly1305Sha256)
    (hcontent : content.length ≤ maxRecordPlaintext) :
    letI := binding t mem
    ¬HasBody (sealRecord key iv seq content ctype pad suite) := by
  let _ := binding t mem
  have hseal : ∀ alg keyLen nonce aad pt, gcmSeal alg keyLen key nonce aad pt = [] := by
    intro alg keyLen nonce aad pt
    rw [gcmSeal]
    split
    · rfl
    · rw [hcpu]
      rfl
  rw [hasBody_sealRecord]
  intro h
  refine Nat.not_lt.mpr hcontent (h ?_)
  cases suite with
  | aes128GcmSha256 => exact hseal .aes128Gcm 16 _ _ _
  | aes256GcmSha384 => exact hseal .aes256Gcm 32 _ _ _
  | chacha20Poly1305Sha256 => exact absurd rfl hsuite

end

namespace Session

/-- The library on a machine without AES instructions. -/
@[reducible] def plainCpu : HaclStar := { hacl with cpu := ⟨false, false, false, true, false⟩ }

/-- What provisioning makes of a key when the secret table is full: neither handle nor bytes. -/
def keyless : RealCryptoConfig where
  ephemeralPrivate := List.replicate 32 1
  certPrivate := []
  certPublic := List.replicate 32 2

end Session

section

attribute [local instance] Session.plainCpu

/-- A certificate that cannot be signed for is signed for with no bytes, and a record that cannot be
sealed is framed with no body. -/
theorem not_failsClosed_keyless :
    letI := binding .initial Session.memory
    (PrimitiveFails Session.keyless .empty (.signCertificateVerify .ed25519 [1, 2, 3]) ∧
      submit Session.keyless .empty ⟨1⟩ (.signCertificateVerify .ed25519 [1, 2, 3]) =
        .ok (.empty, .signature []) ∧
      ¬FailsClosed Session.keyless .empty ⟨1⟩ (.signCertificateVerify .ed25519 [1, 2, 3])) ∧
    sealRecord (List.replicate 16 1) (List.replicate 12 2) 0 [1, 2, 3] .handshake 0
      .aes128GcmSha256 = .ok [0x17, 0x03, 0x03, 0x00, 0x14] := by
  let _ := binding .initial Session.memory
  refine ⟨⟨List.mem_cons_self, rfl, fun h ↦ ?_⟩, ?_⟩
  · exact failsClosed_ed25519.mp h rfl
  · decide +kernel

end

end Kroopt.Native
