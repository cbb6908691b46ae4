import Kroopt.Core.Record

/-!
# The key-schedule driver

The pure orchestrator of the TLS 1.3 key schedule.  It decides which crypto operation comes next
and with which handles; it never computes a key.  The phases form one chain, from the shared
secret to the installed application keys, with a pause in the middle where the server flight is
sent.
-/

set_option autoImplicit false

namespace Kroopt.Core.KeyScheduleDriver

/-- Which result the driver is waiting for. -/
inductive Phase
  | awaitShared
  | awaitEarly
  | awaitDerivedHs
  | awaitHandshake
  | awaitServerHs
  | awaitClientHs
  | awaitInstallWriteHs
  | awaitInstallReadHs
  | handshakeKeysInstalled
  | awaitDerivedMs
  | awaitMaster
  | awaitServerAp
  | awaitClientAp
  | awaitInstallWriteAp
  | awaitInstallReadAp
  | complete
  deriving DecidableEq, Inhabited

/-- The secret handles collected so far. -/
structure Handles where
  shared : Option SecretKeyHandle := none
  early : Option SecretKeyHandle := none
  derivedHs : Option SecretKeyHandle := none
  handshake : Option SecretKeyHandle := none
  sHs : Option SecretKeyHandle := none
  cHs : Option SecretKeyHandle := none
  derivedMs : Option SecretKeyHandle := none
  master : Option SecretKeyHandle := none
  sAp : Option SecretKeyHandle := none
  cAp : Option SecretKeyHandle := none
  deriving DecidableEq, Inhabited

/-- The driver's state.  It holds two transcript texts: `hsTranscript` (ClientHello to ServerHello)
and `apTranscript` (ClientHello to server Finished). -/
structure State where
  phase : Phase
  handles : Handles
  suite : CipherSuite
  emptyHash : Bytes
  hsTranscript : Bytes
  apTranscript : Bytes := []
  deriving DecidableEq, Inhabited

/-- SHA-256 of the empty string. -/
def emptyHashSha256 : Bytes :=
  [0xe3, 0xb0, 0xc4, 0x42, 0x98, 0xfc, 0x1c, 0x14, 0x9a, 0xfb, 0xf4, 0xc8,
    0x99, 0x6f, 0xb9, 0x24, 0x27, 0xae, 0x41, 0xe4, 0x64, 0x9b, 0x93, 0x4c, 0xa4, 0x95,
    0x99, 0x1b, 0x78, 0x52, 0xb8, 0x55]

/-- SHA-384 of the empty string. -/
def emptyHashSha384 : Bytes :=
  [0x38, 0xb0, 0x60, 0xa7, 0x51, 0xac, 0x96, 0x38, 0x4c, 0xd9, 0x32, 0x7e,
    0xb1, 0xb1, 0xe3, 0x6a, 0x21, 0xfd, 0xb7, 0x11, 0x14, 0xbe, 0x07, 0x43, 0x4c, 0x0c,
    0xc7, 0xbf, 0x63, 0xf6, 0xe1, 0xda, 0x27, 0x4e, 0xde, 0xbf, 0xe7, 0x6f, 0x65, 0xfb,
    0xd5, 0x1a, 0xd2, 0xf1, 0x48, 0x98, 0xb9, 0x5b]

/-- The hash of the empty transcript. -/
def emptyHashFor : HashAlgorithm → Bytes
  | .sha256 => emptyHashSha256
  | .sha384 => emptyHashSha384

/-- Enter the handshake-key stage with the shared secret already known. -/
def startPostEcdhe (suite : CipherSuite) (emptyHash hsTranscript : Bytes)
    (shared : SecretKeyHandle) : State × CryptoOp :=
  ({ phase := .awaitEarly, handles := { shared := some shared }, suite := suite,
     emptyHash := emptyHash, hsTranscript := hsTranscript },
    CryptoOp.hkdfExtract suite.hashAlg none none)

/-- An HKDF-Expand-Label operation of the hash's length. -/
def expand (h : HashAlgorithm) (secret : SecretKeyHandle) (label : String) (ctx : Bytes) :
    CryptoOp :=
  CryptoOp.hkdfExpandLabel h secret label ctx h.digestLen

/-- Consume the awaited result, keep its handle and ask for the next operation. -/
def advance (s : State) (r : CryptoResult) : Except TlsError (State × List CryptoOp) :=
  let h := s.handles
  match s.phase, r with
  | .awaitShared, .ecdheComplete _ sh =>
    let h := { h with shared := some sh }
    .ok ({ s with phase := .awaitEarly, handles := h },
      [CryptoOp.hkdfExtract s.suite.hashAlg none none])
  | .awaitEarly, .hkdfSecret e =>
    let h := { h with early := some e }
    .ok ({ s with phase := .awaitDerivedHs, handles := h },
      [expand s.suite.hashAlg e "derived" s.emptyHash])
  | .awaitDerivedHs, .hkdfSecret d =>
    let h := { h with derivedHs := some d }
    .ok ({ s with phase := .awaitHandshake, handles := h },
      [CryptoOp.hkdfExtract s.suite.hashAlg (some d) h.shared])
  | .awaitHandshake, .hkdfSecret hs =>
    let h := { h with handshake := some hs }
    .ok ({ s with phase := .awaitServerHs, handles := h },
      [expand s.suite.hashAlg hs "s hs traffic" s.hsTranscript])
  | .awaitServerHs, .hkdfSecret shs =>
    let h := { h with sHs := some shs }
    .ok ({ s with phase := .awaitClientHs, handles := h },
      [expand s.suite.hashAlg (h.handshake.getD shs) "c hs traffic" s.hsTranscript])
  | .awaitClientHs, .hkdfSecret chs =>
    let h := { h with cHs := some chs }
    .ok ({ s with phase := .awaitInstallWriteHs, handles := h },
      [CryptoOp.installTrafficKeys s.suite .write .handshake (h.sHs.getD chs)])
  | .awaitInstallWriteHs, .keysInstalled =>
    .ok ({ s with phase := .awaitInstallReadHs },
      [CryptoOp.installTrafficKeys s.suite .read .handshake (h.cHs.getD ⟨0, 0⟩)])
  | .awaitInstallReadHs, .keysInstalled =>
    .ok ({ s with phase := .handshakeKeysInstalled }, [])
  | .handshakeKeysInstalled, _ => .ok (s, [])
  | .awaitDerivedMs, .hkdfSecret d =>
    let h := { h with derivedMs := some d }
    .ok ({ s with phase := .awaitMaster, handles := h },
      [CryptoOp.hkdfExtract s.suite.hashAlg (some d) none])
  | .awaitMaster, .hkdfSecret m =>
    let h := { h with master := some m }
    .ok ({ s with phase := .awaitServerAp, handles := h },
      [expand s.suite.hashAlg m "s ap traffic" s.apTranscript])
  | .awaitServerAp, .hkdfSecret sap =>
    let h := { h with sAp := some sap }
    .ok ({ s with phase := .awaitClientAp, handles := h },
      [expand s.suite.hashAlg (h.master.getD sap) "c ap traffic" s.apTranscript])
  | .awaitClientAp, .hkdfSecret cap =>
    let h := { h with cAp := some cap }
    .ok ({ s with phase := .awaitInstallWriteAp, handles := h },
      [CryptoOp.installTrafficKeys s.suite .write .application (h.sAp.getD cap)])
  | .awaitInstallWriteAp, .keysInstalled =>
    .ok ({ s with phase := .awaitInstallReadAp },
      [CryptoOp.installTrafficKeys s.suite .read .application (h.cAp.getD ⟨0, 0⟩)])
  | .awaitInstallReadAp, .keysInstalled =>
    .ok ({ s with phase := .complete }, [])
  | .complete, _ => .ok (s, [])
  | _, _ => .error .internalInvariantFailure

/-- Enter the application-key stage with the transcript of the whole server flight. -/
def resumeApplication (s : State) (apTranscript : Bytes) :
    Except TlsError (State × List CryptoOp) :=
  if s.phase = .handshakeKeysInstalled then
    .ok ({ s with phase := .awaitDerivedMs, apTranscript := apTranscript },
      [expand s.suite.hashAlg (s.handles.handshake.getD ⟨0, 0⟩) "derived" s.emptyHash])
  else
    .error .internalInvariantFailure

/-! ## What the driver keeps -/

/-- The operations the driver asks for. -/
def isScheduleKind : CryptoOpKind → Bool
  | .hkdfExtract => true
  | .hkdfExpand => true
  | .installTrafficKeys => true
  | _ => false

theorem isScheduleKind_ne_aeadSeal {kind : CryptoOpKind} (h : isScheduleKind kind = true) :
    kind ≠ .aeadSeal := by
  rintro rfl
  cases h

/-- **One step of the driver.**  It keeps both transcript texts, and asks only for key-schedule
operations. -/
theorem advance_spec {s s' : State} {r : CryptoResult} {ops : List CryptoOp}
    (h : advance s r = .ok (s', ops)) :
    s'.hsTranscript = s.hsTranscript ∧ s'.apTranscript = s.apTranscript ∧
      ∀ op ∈ ops, isScheduleKind op.kind = true := by
  unfold advance at h
  split at h
  all_goals
    cases h
    try exact ⟨rfl, rfl, by simp [expand, CryptoOp.kind, isScheduleKind]⟩

theorem resumeApplication_spec {s s' : State} {text : Bytes} {ops : List CryptoOp}
    (h : resumeApplication s text = .ok (s', ops)) :
    s'.hsTranscript = s.hsTranscript ∧ s'.apTranscript = text ∧
      ∀ op ∈ ops, isScheduleKind op.kind = true := by
  unfold resumeApplication at h
  split at h
  · cases h
    exact ⟨rfl, rfl, by simp [expand, CryptoOp.kind, isScheduleKind]⟩
  · cases h

end Kroopt.Core.KeyScheduleDriver
