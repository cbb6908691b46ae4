import Kroopt.Core.Detail
import Kroopt.Core.Invariant

/-!
# The handshake as a machine of its own

A `View` is the part of the state that the handshake works on: its phase, what was negotiated, the
transcript and the driver of the key schedule.  `Edge v r v' reqs` lists the ways a live connection
can take it on: the result `r` that is consumed, and the operations `reqs` that are asked for, with
all the data that the key schedule, the signatures and the Finished messages depend on.

`Move` has the same edges, but for the whole state and with less about the data.  The two are kept
apart because they serve different readers: the invariants of the core do not care which text is
signed, and what a session is protected by does not depend on records, buffers or budgets.

## Main results

* `edge_of_steps`: every step between live states is an edge.
* `orderly_of_steps`: a step asks for one operation at most, and does not read the transport if it
  asks for one.
-/

set_option autoImplicit false

namespace Kroopt.Core

/-- What the handshake works on. -/
structure View where
  phase : HandshakeState
  negotiated : NegotiationState
  transcript : TranscriptState
  keySched : Option KeyScheduleDriver.State
  clientFinished : Option Bytes

def State.view (s : State) : View where
  phase := s.handshake
  negotiated := s.negotiated
  transcript := s.transcript
  keySched := s.keySched
  clientFinished := s.pendingClientFinished

/-- The operation that an action asks for. -/
def OutputAction.request? : OutputAction → Option CryptoOp
  | .callCrypto _ _ req => some req
  | _ => none

/-- The operations that a list of actions asks for. -/
def requests (acts : List OutputAction) : List CryptoOp := acts.filterMap OutputAction.request?

/-- The result that an event brings. -/
def InputEvent.result? : InputEvent → Option CryptoResult
  | .cryptoResult _ _ r => some r
  | _ => none

namespace View

/-- The key exchange for the negotiated group. -/
def exchange (v : View) : CryptoOp :=
  match v.negotiated.selectedGroup with
  | some .secp256r1 => .ecdheP256 (v.negotiated.clientShare.getD [])
  | _ => .ecdheX25519 (v.negotiated.clientShare.getD [])

/-- The suite that the key schedule runs under. -/
def suite (v : View) : CipherSuite := v.negotiated.selectedSuite.getD .aes128GcmSha256

/-- The scheme that the server signs with. -/
def scheme (v : View) : SignatureScheme := v.negotiated.selectedSigScheme.getD .ed25519

/-- The ServerHello with a share. -/
def serverHello (v : View) (share : Bytes) : HandshakeOut :=
  .serverHello (v.negotiated.serverRandom.getD []) v.negotiated.clientSessionId share
    (cipherSuiteToU16 (v.negotiated.selectedSuite.getD .chacha20Poly1305Sha256))
    (namedGroupToU16 (v.negotiated.selectedGroup.getD .x25519)) 0x0304

/-- The CertificateVerify with a signature. -/
def certificateVerify (v : View) (sig : Bytes) : HandshakeOut :=
  .certificateVerify (sigSchemeToU16 v.scheme) sig

/-- The EncryptedExtensions. -/
def encryptedExtensions (v : View) : HandshakeOut :=
  .encryptedExtensions (v.negotiated.selectedAlpn.map (·.bytes))

end View

/-- A message of the server joins the transcript, and a snapshot is taken. -/
def TranscriptState.say (ts : TranscriptState) (kind : HandshakeMessageType) (wire : Bytes) :
    TranscriptState :=
  (ts.appendFramed kind .write wire).snapshot.2

/-- **The edges of the handshake.** -/
inductive Edge (v : View) : Option CryptoResult → View → List CryptoOp → Prop
  /-- The handshake stays where it is, and at most a record is sealed or opened. -/
  | stay {r : Option CryptoResult} {reqs : List CryptoOp}
      (hreqs : ∀ req ∈ reqs, (v.phase = .connected ∨ v.phase = .sentServerFinished) ∧
        (req.kind = .aeadSeal ∨ req.kind = .aeadOpen)) : Edge v r v reqs
  | clientHello {r : Option CryptoResult} {neg : NegotiationState} {suite : CipherSuite}
      {wire : Bytes} (hphase : v.phase = .start) (hsuite : neg.selectedSuite = some suite) :
      Edge v r
        { v with phase := .requestedServerRandom, negotiated := neg
                 transcript := { v.transcript.appendFramed .clientHello .read wire with
                                 hashAlg := suite.hashAlg } }
        [.randomBytes 32]
  | serverRandom {random : Bytes} (hphase : v.phase = .requestedServerRandom) :
      Edge v (some (.randomBytes random))
        { v with phase := .requestedEcdhe
                 negotiated := { v.negotiated with serverRandom := some random } }
        [v.exchange]
  | ecdhe {share text : Bytes} {h : SecretKeyHandle} {ts : TranscriptState}
      {start : KeyScheduleDriver.State × CryptoOp} (hphase : v.phase = .requestedEcdhe)
      (hts : ts = v.transcript.say .serverHello (serializeHandshakeOut (v.serverHello share)))
      (htext : text = ts.text)
      (hstart : start = KeyScheduleDriver.startPostEcdhe v.suite
        (KeyScheduleDriver.emptyHashFor v.suite.hashAlg) text h) :
      Edge v (some (.ecdheComplete share h))
        { v with phase := .derivedHandshakeSecrets, transcript := ts, keySched := some start.1
                 negotiated := { v.negotiated with serverShare := some share } }
        [start.2]
  /-- The key-schedule driver asks for its next operation. -/
  | pump {r : CryptoResult} {k k' : KeyScheduleDriver.State} {op : CryptoOp} {ops : List CryptoOp}
      (hphase : v.phase = .derivedHandshakeSecrets ∨ v.phase = .sentCertificateVerify)
      (hk : v.keySched = some k) (hadv : KeyScheduleDriver.advance k r = .ok (k', op :: ops)) :
      Edge v (some r) { v with keySched := some k' } [op]
  /-- The key-schedule driver has nothing to ask, and its stage is not over. -/
  | rest {r : CryptoResult} {k k' : KeyScheduleDriver.State}
      (hphase : v.phase = .derivedHandshakeSecrets ∨ v.phase = .sentCertificateVerify)
      (hk : v.keySched = some k) (hadv : KeyScheduleDriver.advance k r = .ok (k', []))
      (hend : k'.phase ≠ if v.phase = .derivedHandshakeSecrets then .handshakeKeysInstalled
        else .complete) :
      Edge v (some r) { v with keySched := some k' } []
  | serverFlight {r : CryptoResult} {k k' : KeyScheduleDriver.State} {ts : TranscriptState}
      {text : Bytes}
      (hphase : v.phase = .derivedHandshakeSecrets) (hk : v.keySched = some k)
      (hadv : KeyScheduleDriver.advance k r = .ok (k', []))
      (hend : k'.phase = .handshakeKeysInstalled)
      (hts : ts = (v.transcript.appendFramed .encryptedExtensions .write
        (serializeHandshakeOut v.encryptedExtensions)).say .certificate
          (serializeServerCertificate v.negotiated.selectedCertDer))
      (htext : text = ts.text) :
      Edge v (some r)
        { v with phase := .requestedCertificateVerifySignature, transcript := ts
                 keySched := some k' }
        [.signCertificateVerify v.scheme text]
  | certificateVerify {sig text : Bytes} {ts : TranscriptState}
      (hphase : v.phase = .requestedCertificateVerifySignature)
      (hts : ts = v.transcript.say .certificateVerify
        (serializeHandshakeOut (v.certificateVerify sig)))
      (htext : text = ts.text) :
      Edge v (some (.signature sig))
        { v with phase := .requestedServerFinishedMac, transcript := ts }
        [.computeServerFinished ts.hashAlg text]
  | serverFinished {mac text : Bytes} {k k' : KeyScheduleDriver.State} {op : CryptoOp}
      {ops : List CryptoOp} {ts : TranscriptState} (hphase : v.phase = .requestedServerFinishedMac)
      (hk : v.keySched = some k)
      (hts : ts = v.transcript.say .finished (serializeHandshakeOut (.finished mac)))
      (htext : text = ts.text)
      (hres : KeyScheduleDriver.resumeApplication k text = .ok (k', op :: ops)) :
      Edge v (some (.finishedMac mac))
        { v with phase := .sentCertificateVerify, transcript := ts, keySched := some k' } [op]
  | applicationKeys {r : CryptoResult} {k k' : KeyScheduleDriver.State}
      (hphase : v.phase = .sentCertificateVerify) (hk : v.keySched = some k)
      (hadv : KeyScheduleDriver.advance k r = .ok (k', [])) (hend : k'.phase = .complete) :
      Edge v (some r) { v with phase := .sentServerFinished, keySched := some k' } []
  | clientFinished {r : Option CryptoResult} {wire text : Bytes}
      (hphase : v.phase = .sentServerFinished) (htext : text = v.transcript.text) :
      Edge v r
        { v with phase := .requestedClientFinishedVerify, transcript := v.transcript.snapshot.2
                 clientFinished := some wire }
        [.verifyFinished v.transcript.hashAlg text wire]
  | verified (hphase : v.phase = .requestedClientFinishedVerify) :
      Edge v (some .verified)
        { v with phase := .connected
                 transcript := v.transcript.appendFramed .finished .read
                   (v.clientFinished.getD []) }
        []

/-- Whatever a transition returns, if it leads to a live state, is an edge. -/
def Edges (v : View) (r : Option CryptoResult) (res : StepResult) : Prop :=
  ∀ s' acts, res = .ok (s', acts) → s'.handshake.isLive = true → Edge v r s'.view (requests acts)

namespace Edges

variable {v : View} {r : Option CryptoResult}

theorem ignored (s : State) : Edges s.view r (.ok (s, [])) := by
  intro s' acts h _
  cases h
  exact .stay (List.forall_mem_nil _)

theorem failed (s : State) (a : AlertDescription) (e : TlsError) : Edges v r (hsFail s a e) := by
  intro s' acts h hlive
  cases h
  cases hlive

theorem live {s' : State} {acts : List OutputAction}
    (h : Edge v r s'.view (requests acts)) : Edges v r (.ok (s', acts)) := by
  intro s'' acts' heq _
  cases heq
  exact h

theorem alloc {s : State} {kind : CryptoOpKind} {epoch : Epoch} {dir : Option Direction}
    {k : OperationId → State → StepResult}
    (hk : Edges v r (k ⟨s.nextOpId⟩ (s.withOp kind epoch dir))) :
    Edges v r (allocOpOrFail s kind epoch dir k) := by
  rw [allocOpOrFail_eq]
  split
  · exact hk
  · exact failed _ _ _

end Edges

/-! ## One lemma per transition -/

theorem onClientHello_edges (s : State) (r : Option CryptoResult) (vch : ValidClientHello)
    (wire : Bytes) : Edges s.view r (onClientHello s vch wire) := by
  rw [onClientHello]
  split
  · rename_i hphase
    split
    · exact .failed _ _ _
    · split
      · exact .failed _ _ _
      · dsimp only
        split
        · exact .failed _ _ _
        · split
          · exact .failed _ _ _
          · exact .alloc (.live (.clientHello hphase rfl))
  · exact .failed _ _ _

theorem onServerRandomDone_edges (s : State) (random : Bytes) :
    Edges s.view (some (.randomBytes random)) (onServerRandomDone s random) := by
  rw [onServerRandomDone]
  split
  · rename_i hphase
    exact .alloc (.live (.serverRandom hphase))
  · exact .failed _ _ _

theorem onEcdheDone_edges (s : State) (share : Bytes) (secret : SecretKeyHandle) :
    Edges s.view (some (.ecdheComplete share secret)) (onEcdheDone s share secret) := by
  rw [onEcdheDone]
  split
  · rename_i hphase
    exact .alloc (.live (.ecdhe hphase rfl (TranscriptState.prefixBytes_snapshot _) rfl))
  · exact .failed _ _ _

theorem onHsScheduleResult_edges (s : State) (r : CryptoResult) :
    Edges s.view (some r) (onHsScheduleResult s r) := by
  rw [onHsScheduleResult]
  split
  · rename_i hphase
    have hview : s.view.phase = .derivedHandshakeSecrets := hphase
    split
    · exact .failed _ _ _
    · rename_i k hk
      split
      · exact .failed _ _ _
      · rename_i hadv
        exact .alloc (.live (.pump (.inl hphase) hk hadv))
      · rename_i hadv
        split
        · rename_i hend
          exact .alloc (.live (.serverFlight hphase hk hadv hend rfl
            (TranscriptState.prefixBytes_snapshot _)))
        · rename_i hend
          exact .live (.rest (.inl hphase) hk hadv (by rwa [if_pos hview]))
  · exact .failed _ _ _

theorem onCertVerifySigned_edges (s : State) (sig : Bytes) :
    Edges s.view (some (.signature sig)) (onCertVerifySigned s sig) := by
  rw [onCertVerifySigned]
  split
  · rename_i hphase
    exact .alloc (.live (.certificateVerify hphase rfl (TranscriptState.prefixBytes_snapshot _)))
  · exact .failed _ _ _

theorem onServerFinishedMac_edges (s : State) (mac : Bytes) :
    Edges s.view (some (.finishedMac mac)) (onServerFinishedMac s mac) := by
  rw [onServerFinishedMac]
  split
  · rename_i hphase
    split
    · exact .failed _ _ _
    · rename_i k hk
      dsimp only
      split
      · exact .failed _ _ _
      · rename_i hres
        exact .alloc (.live (.serverFinished hphase hk rfl
          (TranscriptState.prefixBytes_snapshot _) hres))
      · exact .failed _ _ _
  · exact .failed _ _ _

theorem onApScheduleResult_edges (s : State) (r : CryptoResult) :
    Edges s.view (some r) (onApScheduleResult s r) := by
  rw [onApScheduleResult]
  split
  · rename_i hphase
    have hne : s.view.phase ≠ .derivedHandshakeSecrets := by simp [State.view, hphase]
    split
    · exact .failed _ _ _
    · rename_i k hk
      split
      · exact .failed _ _ _
      · rename_i hadv
        exact .alloc (.live (.pump (.inr hphase) hk hadv))
      · rename_i hadv
        split
        · rename_i hend
          exact .live (.applicationKeys hphase hk hadv hend)
        · rename_i hend
          exact .live (.rest (.inr hphase) hk hadv (by rwa [if_neg hne]))
  · exact .failed _ _ _

theorem onClientFinishedBytes_edges (s : State) (r : Option CryptoResult) (wire : Bytes) :
    Edges s.view r (onClientFinishedBytes s wire) := by
  rw [onClientFinishedBytes]
  split
  · rename_i hphase
    exact .alloc (.live (.clientFinished hphase (TranscriptState.prefixBytes_snapshot _)))
  · exact .failed _ _ _

theorem onClientFinishedVerified_edges (s : State) :
    Edges s.view (some .verified)
      (onClientFinishedVerified s true (s.pendingClientFinished.getD [])) := by
  rw [onClientFinishedVerified]
  split
  · rename_i hphase
    exact .live (.verified hphase)
  · exact .failed _ _ _

/-! ## The two entry points -/

theorem handshakeOnGatingResult_edges (s : State) (op : OperationId) (r : CryptoResult) :
    Edges s.view (some r) (handshakeOnGatingResult s op r) := by
  have hview : s.view = (s.clearOp op).view := rfl
  rw [handshakeOnGatingResult.eq_def, hview]
  dsimp only
  cases r with
  | randomBytes b =>
    dsimp only
    split
    · exact onServerRandomDone_edges _ b
    · exact .ignored _
  | ecdheComplete share secret =>
    dsimp only
    split
    · exact onEcdheDone_edges _ share secret
    · exact .ignored _
  | hkdfSecret h =>
    dsimp only
    split
    · exact onHsScheduleResult_edges _ _
    · split
      · exact onApScheduleResult_edges _ _
      · exact .ignored _
  | keysInstalled =>
    dsimp only
    split
    · exact onHsScheduleResult_edges _ _
    · split
      · exact onApScheduleResult_edges _ _
      · exact .ignored _
  | signature sig =>
    dsimp only
    split
    · exact onCertVerifySigned_edges _ sig
    · exact .ignored _
  | finishedMac mac =>
    dsimp only
    split
    · exact onServerFinishedMac_edges _ mac
    · exact .ignored _
  | verified =>
    dsimp only
    split
    · exact onClientFinishedVerified_edges _
    · exact .ignored _
  | aeadSealed ct => exact .ignored _
  | aeadOpened pt => exact .ignored _
  | verifyFailed => exact .failed _ _ _
  | failed e => exact .failed _ _ _

theorem handshakeOnPlaintextRecord_edges (s : State) (r : Option CryptoResult) (body : Bytes) :
    Edges s.view r (handshakeOnPlaintextRecord s body) := by
  rw [handshakeOnPlaintextRecord]
  split
  · split
    · exact .failed _ _ _
    · exact onClientHello_edges s r _ _
  · split
    · exact onClientFinishedBytes_edges s r body
    · exact .ignored s

/-! ## The whole step -/

theorem RecordOutcome.edge {s s' : State} {hdr : Parse.ValidRecordHeader} {body : Bytes}
    {acts : List OutputAction} (r : Option CryptoResult) (h : RecordOutcome s hdr body s' acts)
    (hlive : s'.handshake.isLive = true) : Edge s.view r s'.view (requests acts) := by
  cases h with
  | opens ht hphase => exact .stay (List.forall_mem_singleton.mpr ⟨hphase, .inr rfl⟩)
  | unread | ccsIgnored | hsPartial => exact .stay (List.forall_mem_nil _)
  | noRoom | ccsRefused | hsRefused | invalid => cases hlive
  | hsMessage ht hfits hframe hres =>
    have hedge := handshakeOnPlaintextRecord_edges _ r _ _ _ hres hlive
    exact hedge
  | alert ht h => cases h.isLive.symm.trans hlive

theorem ResultOutcome.edge {s s' : State} {op : OperationId} {r : CryptoResult}
    {acts : List OutputAction} (h : ResultOutcome s op r s' acts)
    (hlive : s'.handshake.isLive = true) : Edge s.view (some r) s'.view (requests acts) := by
  cases h with
  | unparsed | verifyFailed | failed => cases hlive
  | @opened pt _ _ _ hp h =>
    cases h with
    | data | skipped => exact .stay (List.forall_mem_nil _)
    | message ht hphase hseq hres =>
      have hedge := handshakeOnPlaintextRecord_edges _ (some (.aeadOpened pt)) _ _ _ hres hlive
      exact hedge
    | overflow | earlyData | invalid => cases hlive
    | alert ht h => cases h.isLive.symm.trans hlive
  | sealed =>
    refine .stay ?_
    split <;> exact List.forall_mem_nil _
  | gating hr hres => exact handshakeOnGatingResult_edges s op r _ _ hres hlive

/-- **One step.**  Between live states the handshake takes an edge. -/
theorem Outcome.edge {s s' : State} {ev : InputEvent} {acts : List OutputAction}
    (h : Outcome s ev s' acts) (hlive : s'.handshake.isLive = true) :
    Edge s.view ev.result? s'.view (requests acts) := by
  cases h with
  | bytes h =>
    cases h with
    | malformed => cases hlive
    | awaiting => exact .stay (List.forall_mem_nil _)
    | record hh h => exact h.edge _ hlive
  | result hop h => exact h.edge hlive
  | stale | noDelivery | writable | flush | deliver | reclose | readable =>
    exact .stay (List.forall_mem_nil _)
  | send hphase => exact .stay (List.forall_mem_singleton.mpr ⟨.inl hphase, .inl rfl⟩)
  | sendRefused | closeNotify | closeNotifyRefused | closeEarly | closeFatal | closeAbortive | eof
  | timeout => cases hlive

theorem edge_of_steps {t : CoreStep} (ht : Machine.Steps step t)
    (hlive : t.target.handshake.isLive = true) :
    Edge t.source.view t.input.result? t.target.view (requests t.output) := by
  have hsource := (HandshakeState.isLive_iff.mp (isLive_source ht hlive)).1
  exact (outcome_of_steps ht hsource).edge hlive

/-! ## Asking and reading -/

/-- A step that asks for an operation asks for one and does not read the transport, and no step
releases a secret. -/
structure Orderly (acts : List OutputAction) : Prop where
  asks : requests acts = [] ∨
    (∃ req, requests acts = [req]) ∧ ∀ c, OutputAction.readTransport c ∉ acts
  keeps : ∀ h, OutputAction.releaseSecret h ∉ acts

theorem orderly_nil : Orderly [] := ⟨.inl rfl, by simp⟩

theorem orderly_failActions (s : State) (a : AlertDescription) (e : TlsError) :
    Orderly (failActions s a e) := ⟨.inl rfl, by simp [failActions]⟩

theorem Move.orderly {s s' : State} {acts : List OutputAction} (h : Move s s' acts) :
    Orderly acts := by
  cases h with
  | failed => exact orderly_failActions _ _ _
  | ignored | rest | applicationKeys => exact orderly_nil
  | verified => exact ⟨.inl rfl, by simp⟩
  | clientHello | serverRandom | ecdhe | pump | serverFlight | certificateVerify | serverFinished
  | clientFinished => exact ⟨.inr ⟨⟨_, rfl⟩, by simp⟩, by simp⟩

theorem AlertOutcome.orderly {s s' : State} {body : Bytes} {acts : List OutputAction}
    (h : AlertOutcome s body s' acts) : Orderly acts := by
  cases h with
  | closeNotify | fatal => exact ⟨.inl rfl, by simp⟩
  | malformed => exact orderly_failActions _ _ _

theorem RecordOutcome.orderly {s s' : State} {hdr : Parse.ValidRecordHeader} {body : Bytes}
    {acts : List OutputAction} (h : RecordOutcome s hdr body s' acts) : Orderly acts := by
  cases h with
  | opens => exact ⟨.inr ⟨⟨_, rfl⟩, by simp⟩, by simp⟩
  | noRoom | ccsRefused | hsRefused | invalid => exact orderly_failActions _ _ _
  | unread | ccsIgnored => exact orderly_nil
  | hsPartial => exact ⟨.inl rfl, by simp⟩
  | hsMessage ht hfits hframe hres =>
    exact ((handshakeOnPlaintextRecord_moves _ _).move hres).orderly
  | alert ht h => exact h.orderly

theorem ResultOutcome.orderly {s s' : State} {op : OperationId} {r : CryptoResult}
    {acts : List OutputAction} (h : ResultOutcome s op r s' acts) : Orderly acts := by
  cases h with
  | opened hp h =>
    cases h with
    | data | skipped => exact orderly_nil
    | overflow | earlyData | invalid => exact orderly_failActions _ _ _
    | message ht hphase hseq hres =>
      exact ((handshakeOnPlaintextRecord_moves _ _).move hres).orderly
    | alert ht h => exact h.orderly
  | sealed => split <;> exact ⟨.inl rfl, by simp⟩
  | gating hr hres => exact ((handshakeOnGatingResult_moves _ _ _).move hres).orderly
  | unparsed | verifyFailed | failed => exact orderly_failActions _ _ _

theorem Outcome.orderly {s s' : State} {ev : InputEvent} {acts : List OutputAction}
    (h : Outcome s ev s' acts) : Orderly acts := by
  cases h with
  | bytes h =>
    cases h with
    | malformed => exact orderly_failActions _ _ _
    | awaiting => exact ⟨.inl rfl, by simp⟩
    | record hh h => exact h.orderly
  | result hop h => exact h.orderly
  | send | closeNotify => exact ⟨.inr ⟨⟨_, rfl⟩, by simp⟩, by simp⟩
  | sendRefused | closeNotifyRefused | timeout => exact orderly_failActions _ _ _
  | stale | deliver | noDelivery | closeEarly | closeFatal | closeAbortive | reclose | eof
  | readable | writable | flush => exact ⟨.inl rfl, by simp⟩

theorem orderly_of_steps {t : CoreStep} (ht : Machine.Steps step t) : Orderly t.output := by
  cases hterm : t.source.handshake.isTerminal with
  | true =>
    rw [(target_of_terminal ht hterm).2]
    exact orderly_nil
  | false => exact (outcome_of_steps ht hterm).orderly

end Kroopt.Core
