import Kroopt.Core.State
import Kroopt.Parse.Wire

/-!
# The server handshake

The transitions of the TLS 1.3 server handshake: small functions that each check the phase, move
one edge forward and ask for the next crypto operation or frame the next flight.

* `onClientHello` negotiates and starts; `onServerRandomDone`, `onEcdheDone`, `onHsScheduleResult`,
  `onCertVerifySigned`, `onServerFinishedMac`, `onApScheduleResult` run the server flight;
  `onClientFinishedBytes` and `onClientFinishedVerified` finish.
* `handshakeOnGatingResult` routes a crypto result to one of them by phase.

How the transitions move the state is `Move` in `Kroopt.Core.Move`.
-/

set_option autoImplicit false

namespace Kroopt.Core

/-! ## Wire code points -/

/-- Code point of a signature scheme. -/
def sigSchemeToU16 : SignatureScheme → UInt16
  | .ed25519 => 0x0807
  | .ecdsaSecp256r1Sha256 => 0x0403
  | .rsaPssRsaeSha256 => 0x0804

/-- Code point of a cipher suite. -/
def cipherSuiteToU16 : CipherSuite → UInt16
  | .aes128GcmSha256 => 0x1301
  | .aes256GcmSha384 => 0x1302
  | .chacha20Poly1305Sha256 => 0x1303

/-- Code point of a named group. -/
def namedGroupToU16 : NamedGroup → UInt16
  | .x25519 => 0x001d
  | .secp256r1 => 0x0017

/-- The wire bytes of a flight message. -/
def serializeHandshakeOut : HandshakeOut → Bytes
  | .serverHello random sessionId share suite group version =>
    Parse.Wire.serverHello random sessionId suite group share version
  | .encryptedExtensions alpn =>
    let exts := match alpn with
      | none => []
      | some p => Parse.Wire.extension 0x10 (Parse.Wire.u16Len (Parse.Wire.u8Len p))
    Parse.Wire.encryptedExtensions exts
  | .certificateVerify scheme signature => Parse.Wire.certificateVerify scheme signature
  | .finished verifyData => Parse.Wire.finished verifyData

/-- The wire bytes of the server Certificate; an empty chain gives an empty list. -/
def serializeServerCertificate (der : Bytes) : Bytes :=
  let entries := if der.isEmpty then [] else Parse.Wire.certificateEntry der []
  Parse.Wire.certificate [] entries

/-- A parsed and validated ClientHello. -/
structure ValidClientHello where
  selectedSuite : CipherSuite
  /-- The recognised key shares, in client order. -/
  offeredShares : List (NamedGroup × Bytes)
  /-- The recognised signature schemes, in client order. -/
  offeredSigSchemes : List SignatureScheme
  sni : Option Bytes
  /-- The offered protocols; `none` if there was no ALPN extension. -/
  alpn : Option (List Bytes)
  sessionId : Bytes

/-! ## Failure and allocation -/

/-- Fail the handshake with an alert. -/
def hsFail (s : State) (a : AlertDescription) (e : TlsError) : StepResult :=
  .ok (s.fail a, failActions s a e)

/-- Allocate a pending operation and continue, or fail the connection at the ceiling. -/
def allocOpOrFail (s : State) (kind : CryptoOpKind) (epoch : Epoch) (dir : Option Direction)
    (k : OperationId → State → StepResult) : StepResult :=
  match s.allocOp kind epoch dir s.serverConfig.limits.maxPendingCryptoOps with
  | .error e => hsFail s (alertForResourceLimit e) (.resourceLimit e)
  | .ok r => k r.1 r.2

/-- A direction with the keys of an epoch installed. -/
def installEpoch (e : Epoch) : EpochState where
  epoch := e
  seq := SeqNo.zero
  keysInstalled := true

/-! ## Group selection -/

/-- The server's order of preference. -/
def groupPreference : List NamedGroup := [.x25519, .secp256r1]

/-- The client's share for a group. -/
def shareFor? (g : NamedGroup) (offered : List (NamedGroup × Bytes)) : Option Bytes :=
  (offered.find? fun p ↦ decide (p.fst = g)).map (·.snd)

/-- The first preferred group that the endpoint allows and the client offers. -/
def selectGroup (offered : List (NamedGroup × Bytes)) (allowed : List NamedGroup) :
    Option (NamedGroup × Bytes) :=
  groupPreference.findSome? fun g ↦
    if g ∈ allowed then
      match shareFor? g offered with
      | some sh => some (g, sh)
      | none => none
    else none

/-! ## The transitions -/

/-- `start → requestedServerRandom`: negotiate and commit the ClientHello. -/
def onClientHello (s : State) (vch : ValidClientHello) (chWire : Bytes) : StepResult :=
  if s.handshake = .start then
    match chargeClientHelloBytes s.serverConfig.limits s.budgets chWire.length with
    | .error e => hsFail s (alertForResourceLimit e) (.resourceLimit e)
    | .ok b' =>
    match (((selectEndpoint s.serverConfig vch.sni).map (·.signatureSchemes)).getD []).find?
        fun sc ↦ vch.offeredSigSchemes.contains sc with
    | none => hsFail s .handshakeFailure (.protocol .unsupportedSignatureScheme)
    | some sigScheme =>
    let s := { s with budgets := b' }
    let ep := selectEndpoint s.serverConfig vch.sni
    match negotiateAlpn s.serverConfig.alpnMode.preference (vch.alpn.map (·.map AlpnProtocol.mk))
        ((ep.map (·.allowedAlpn)).getD []), s.serverConfig.alpnMode.noOverlapPolicy with
    | .noOverlap, .fatal => hsFail s .noApplicationProtocol (.protocol .noApplicationProtocol)
    | alpnDec, _ =>
    let selAlpn := match alpnDec with | .selected p => some p | _ => none
    let cert := ep.map (·.chain)
    let certDer := (ep.map (·.der)).getD []
    let allowed := (ep.map (·.namedGroups)).getD []
    match selectGroup vch.offeredShares allowed with
    | none => hsFail s .handshakeFailure (.protocol .unsupportedGroup)
    | some (selGroup, selShare) =>
    let s := { s with
      negotiated := { selectedSuite := some vch.selectedSuite
                      selectedGroup := some selGroup
                      selectedSigScheme := some sigScheme
                      selectedSni := vch.sni
                      selectedAlpn := selAlpn
                      selectedCert := cert
                      serverShare := none
                      clientShare := some selShare
                      serverRandom := none
                      selectedCertDer := certDer
                      clientSessionId := vch.sessionId }
      transcript := { s.transcript.appendFramed .clientHello .read chWire with
                      hashAlg := vch.selectedSuite.hashAlg } }
    allocOpOrFail s .randomBytes .handshake (some .write) fun oid s ↦
    .ok ({ s with handshake := .requestedServerRandom },
      [.callCrypto s.connId oid (.randomBytes 32)])
  else
    hsFail s .unexpectedMessage (.protocol .illegalMessageForState)

/-- `requestedServerRandom → requestedEcdhe`. -/
def onServerRandomDone (s : State) (random : Bytes) : StepResult :=
  if s.handshake = .requestedServerRandom then
    let s := { s with negotiated := { s.negotiated with serverRandom := some random } }
    allocOpOrFail s .ecdhe .handshake (some .read) fun oid s ↦
    let peer := s.negotiated.clientShare.getD []
    let op := match s.negotiated.selectedGroup with
      | some .secp256r1 => CryptoOp.ecdheP256 peer
      | _ => CryptoOp.ecdheX25519 peer
    .ok ({ s with handshake := .requestedEcdhe }, [.callCrypto s.connId oid op])
  else
    hsFail s .unexpectedMessage (.protocol .illegalMessageForState)

/-- `requestedEcdhe → derivedHandshakeSecrets`: build and commit ServerHello, install the handshake
epoch in both directions and start the key schedule. -/
def onEcdheDone (s : State) (serverShare : Bytes) (secret : SecretKeyHandle) : StepResult :=
  if s.handshake = .requestedEcdhe then
    let shMsg : HandshakeOut :=
      .serverHello (s.negotiated.serverRandom.getD []) s.negotiated.clientSessionId serverShare
        (cipherSuiteToU16 (s.negotiated.selectedSuite.getD .chacha20Poly1305Sha256))
        (namedGroupToU16 (s.negotiated.selectedGroup.getD .x25519)) 0x0304
    let ts := s.transcript.appendFramed .serverHello .write (serializeHandshakeOut shMsg)
    let (snap, ts) := ts.snapshot
    let hsTh := ts.prefixBytes snap
    let s := { s with transcript := ts
                      negotiated := { s.negotiated with serverShare := some serverShare }
                      readEpoch := installEpoch .handshake
                      writeEpoch := installEpoch .handshake }
    let suite := s.negotiated.selectedSuite.getD .aes128GcmSha256
    let (ksd, earlyOp) := KeyScheduleDriver.startPostEcdhe suite
      (KeyScheduleDriver.emptyHashFor suite.hashAlg) hsTh secret
    allocOpOrFail s earlyOp.kind .handshake (some .write) fun oid s ↦
    .ok ({ s with handshake := .derivedHandshakeSecrets, keySched := some ksd },
      [.writeHandshake s.connId .initial 0 shMsg, .callCrypto s.connId oid earlyOp])
  else
    hsFail s .unexpectedMessage (.protocol .illegalMessageForState)

/-- Drive the handshake-key stage; at its pause send EncryptedExtensions and Certificate and ask
for the CertificateVerify signature. -/
def onHsScheduleResult (s : State) (r : CryptoResult) : StepResult :=
  if s.handshake = .derivedHandshakeSecrets then
    match s.keySched with
    | none => hsFail s .internalError (.protocol .illegalMessageForState)
    | some ksd =>
      match KeyScheduleDriver.advance ksd r with
      | .error e => hsFail s .internalError e
      | .ok (ksd, op :: _) =>
        allocOpOrFail s op.kind .handshake (some .write) fun oid s ↦
        .ok ({ s with keySched := some ksd }, [.callCrypto s.connId oid op])
      | .ok (ksd, []) =>
        if ksd.phase = .handshakeKeysInstalled then
          let eeMsg : HandshakeOut := .encryptedExtensions (s.negotiated.selectedAlpn.map (·.bytes))
          let certDer := s.negotiated.selectedCertDer
          let ts := s.transcript.appendFramed .encryptedExtensions .write
            (serializeHandshakeOut eeMsg)
          let ts := ts.appendFramed .certificate .write (serializeServerCertificate certDer)
          let (snap, ts) := ts.snapshot
          let s := { s with transcript := ts, keySched := some ksd }
          allocOpOrFail s .signCertificateVerify .handshake (some .write) fun oid s ↦
          let scheme := s.negotiated.selectedSigScheme.getD .ed25519
          .ok ({ s with handshake := .requestedCertificateVerifySignature },
            [.writeHandshake s.connId .handshake 0 eeMsg,
              .writeCertificate s.connId .handshake 1 certDer,
              .callCrypto s.connId oid (.signCertificateVerify scheme (ts.prefixBytes snap))])
        else
          .ok ({ s with keySched := some ksd }, [])
  else
    hsFail s .unexpectedMessage (.protocol .illegalMessageForState)

/-- `requestedCertificateVerifySignature → requestedServerFinishedMac`. -/
def onCertVerifySigned (s : State) (sig : Bytes) : StepResult :=
  if s.handshake = .requestedCertificateVerifySignature then
    let cvMsg : HandshakeOut :=
      .certificateVerify (sigSchemeToU16 (s.negotiated.selectedSigScheme.getD .ed25519)) sig
    let ts := s.transcript.appendFramed .certificateVerify .write (serializeHandshakeOut cvMsg)
    let (snap, ts) := ts.snapshot
    let cvTh := ts.prefixBytes snap
    let s := { s with transcript := ts }
    allocOpOrFail s .computeServerFinished .handshake (some .write) fun oid s ↦
    .ok ({ s with handshake := .requestedServerFinishedMac },
      [.writeHandshake s.connId .handshake 2 cvMsg,
        .callCrypto s.connId oid (.computeServerFinished s.transcript.hashAlg cvTh)])
  else
    hsFail s .unexpectedMessage (.protocol .illegalMessageForState)

/-- `requestedServerFinishedMac → sentCertificateVerify`: send Finished and resume the schedule. -/
def onServerFinishedMac (s : State) (verifyData : Bytes) : StepResult :=
  if s.handshake = .requestedServerFinishedMac then
    match s.keySched with
    | none => hsFail s .internalError (.protocol .illegalMessageForState)
    | some ksd =>
      let ts := s.transcript.appendFramed .finished .write
        (serializeHandshakeOut (.finished verifyData))
      let (snap, ts) := ts.snapshot
      let apTh := ts.prefixBytes snap
      match KeyScheduleDriver.resumeApplication ksd apTh with
      | .error e => hsFail s .internalError e
      | .ok (ksd, op :: _) =>
        let s := { s with transcript := ts }
        allocOpOrFail s op.kind .application (some .write) fun oid s ↦
        .ok ({ s with handshake := .sentCertificateVerify, keySched := some ksd },
          [.writeHandshake s.connId .handshake 3 (.finished verifyData),
            .callCrypto s.connId oid op])
      | .ok (_, []) => hsFail s .internalError (.protocol .illegalMessageForState)
  else
    hsFail s .unexpectedMessage (.protocol .illegalMessageForState)

/-- Drive the application-key stage; at its end install the application epoch for writing. -/
def onApScheduleResult (s : State) (r : CryptoResult) : StepResult :=
  if s.handshake = .sentCertificateVerify then
    match s.keySched with
    | none => hsFail s .internalError (.protocol .illegalMessageForState)
    | some ksd =>
      match KeyScheduleDriver.advance ksd r with
      | .error e => hsFail s .internalError e
      | .ok (ksd, op :: _) =>
        allocOpOrFail s op.kind .application (some .write) fun oid s ↦
        .ok ({ s with keySched := some ksd }, [.callCrypto s.connId oid op])
      | .ok (ksd, []) =>
        if ksd.phase = .complete then
          -- the client Finished is still under the handshake key: reading stays there
          .ok ({ s with handshake := .sentServerFinished, keySched := some ksd
                        readEpoch := installEpoch .handshake
                        writeEpoch := installEpoch .application }, [])
        else
          .ok ({ s with keySched := some ksd }, [])
  else
    hsFail s .unexpectedMessage (.protocol .illegalMessageForState)

/-- `sentServerFinished → requestedClientFinishedVerify`. -/
def onClientFinishedBytes (s : State) (cfWire : Bytes) : StepResult :=
  if s.handshake = .sentServerFinished then
    let (snap, ts) := s.transcript.snapshot
    let s := { s with transcript := ts, pendingClientFinished := some cfWire }
    allocOpOrFail s .verifyFinished .application (some .read) fun oid s ↦
    .ok ({ s with handshake := .requestedClientFinishedVerify },
      [.callCrypto s.connId oid
        (.verifyFinished s.transcript.hashAlg (ts.prefixBytes snap) cfWire)])
  else
    hsFail s .unexpectedMessage (.protocol .illegalMessageForState)

/-- `requestedClientFinishedVerify → connected`, only if the Finished verified. -/
def onClientFinishedVerified (s : State) (verified : Bool) (cfWire : Bytes) : StepResult :=
  if s.handshake = .requestedClientFinishedVerify then
    if verified then
      let s := { s with transcript := s.transcript.appendFramed .finished .read cfWire }
      .ok ({ s with handshake := .connected, readEpoch := installEpoch .application },
        [.reportHandshakeComplete s.connId
          { suite := s.negotiated.selectedSuite.getD .aes128GcmSha256, configGen := s.configGen }])
    else
      hsFail s .decryptError (.protocol .badFinished)
  else
    hsFail s .unexpectedMessage (.protocol .illegalMessageForState)

/-- Route a crypto result to the transition it gates; one that gates nothing is ignored. -/
def handshakeOnGatingResult (s0 : State) (op : OperationId) (r : CryptoResult) : StepResult :=
  let s := s0.clearOp op
  match r with
  | .ecdheComplete srv h =>
    if s.handshake = .requestedEcdhe then onEcdheDone s srv h else .ok (s, [])
  | .signature sig =>
    if s.handshake = .requestedCertificateVerifySignature then onCertVerifySigned s sig
    else .ok (s, [])
  | .verified =>
    if s.handshake = .requestedClientFinishedVerify then
      onClientFinishedVerified s true (s.pendingClientFinished.getD [])
    else .ok (s, [])
  | .randomBytes b =>
    if s.handshake = .requestedServerRandom then onServerRandomDone s b else .ok (s, [])
  | .finishedMac vd =>
    if s.handshake = .requestedServerFinishedMac then onServerFinishedMac s vd else .ok (s, [])
  | .hkdfSecret _ =>
    if s.handshake = .derivedHandshakeSecrets then onHsScheduleResult s r
    else if s.handshake = .sentCertificateVerify then onApScheduleResult s r
    else .ok (s, [])
  | .keysInstalled =>
    if s.handshake = .derivedHandshakeSecrets then onHsScheduleResult s r
    else if s.handshake = .sentCertificateVerify then onApScheduleResult s r
    else .ok (s, [])
  | .aeadSealed _ => .ok (s, [])
  | .aeadOpened _ => .ok (s, [])
  | .verifyFailed => hsFail s .badRecordMac (.crypto .authFailed)
  | .failed e => hsFail s ((alertForCryptoFailure e).getD .internalError) (.crypto e)

/-- A parsed ClientHello enters the handshake. -/
def handshakeOnClientHello (s : State) (vch : ValidClientHello) (chWire : Bytes) : StepResult :=
  onClientHello s vch chWire

end Kroopt.Core
