import Kroopt.Core.Step

/-!
# What the handshake transitions do

The transitions of the handshake are nine functions, two entry points that route to them, and a
driver that two of them feed.  Nearly every result about the core needs something about all of them,
and hardly ever the same thing.  So they are looked at once, and what is found is written down as a
relation: `Move s s' acts` lists every way a handshake transition can take a state.  It ignores the
event, fails the connection, or moves along one edge of the server handshake.

Each transition function returns a result, and its result is a move.  Everything later developments
need to know about the handshake is read off `Move`, with one short case for each edge, and never
off the functions.

A failure is the edge about which least is known: a transition may have staged a part of its work
before it fails, and the alert is sent from the staged state.  `Staged` says what that part can be.

## Main definitions

* `Move s s' acts`: the moves of the handshake.
* `Staged s s₀`: what a transition may have done to the state before it failed.

## Main results

* `handshakeOnGatingResult_moves` and `handshakeOnPlaintextRecord_moves`: the two entry points move.
-/

set_option autoImplicit false

namespace Kroopt.Core

/-- The event a message is committed to the transcript as. -/
def committed (kind : HandshakeMessageType) (dir : Direction) (wire : Bytes) : TranscriptEvent :=
  ⟨⟨kind, dir, wire.length⟩, wire⟩

/-- Two driver states over the same handshake transcript. -/
def SameSchedule (k k' : Option KeyScheduleDriver.State) : Prop :=
  k.map (·.hsTranscript) = k'.map (·.hsTranscript)

/-- What a transition may have staged in the state before it failed.  Messages of the server are
staged only where the failure is that no operation could be allocated. -/
structure Staged (s s₀ : State) : Prop where
  connId : s₀.connId = s.connId
  inbound : s₀.inboundCiphertext = s.inboundCiphertext
  config : s₀.serverConfig = s.serverConfig
  ops : s₀.pendingOps = s.pendingOps
  sched : SameSchedule s.keySched s₀.keySched
  events : ∃ new, s₀.transcript.events = s.transcript.events ++ new ∧
    ((∀ e ∈ new, e.eventMeta.direction = .read) ∨ (s.handshake.inFlight = true ∧ ¬ s.hasOpRoom))

/-- **The moves of the handshake.** -/
inductive Move (s : State) : State → List OutputAction → Prop
  /-- The event gates nothing. -/
  | ignored : Move s s []
  /-- The connection fails. -/
  | failed {s₀ : State} {a : AlertDescription} {e : TlsError} (hs : Staged s s₀)
      (ha : alertLevel a = .fatal) : Move s (s₀.fail a) (failActions s₀ a e)
  | clientHello {b : BudgetState} {neg : NegotiationState} {alg : HashAlgorithm} {wire : Bytes}
      (hphase : s.handshake = .start) (hroom : s.hasOpRoom) (hwire : wire ≠ []) :
      Move s
        { ({ s with budgets := b, negotiated := neg
                    transcript := { s.transcript.appendFramed .clientHello .read wire with
                                    hashAlg := alg } }).withOp
            .randomBytes .handshake (some .write) with
          handshake := .requestedServerRandom }
        [.callCrypto s.connId ⟨s.nextOpId⟩ (.randomBytes 32)]
  | serverRandom {random : Bytes} {op : CryptoOp} (hphase : s.handshake = .requestedServerRandom)
      (hroom : s.hasOpRoom) (hop : op.kind = .ecdhe) :
      Move s
        { ({ s with negotiated := { s.negotiated with serverRandom := some random } }).withOp
            .ecdhe .handshake (some .read) with
          handshake := .requestedEcdhe }
        [.callCrypto s.connId ⟨s.nextOpId⟩ op]
  | ecdhe {share : Bytes} {msg : HandshakeOut} {ts : TranscriptState}
      {ksd : KeyScheduleDriver.State} {op : CryptoOp} (hphase : s.handshake = .requestedEcdhe)
      (hroom : s.hasOpRoom) (hop : op.kind = .hkdfExtract)
      (hmsg : ∃ random suite group version, msg =
        .serverHello random s.negotiated.clientSessionId share suite group version)
      (hts : ts.events =
        s.transcript.events ++ [committed .serverHello .write (serializeHandshakeOut msg)])
      (hksd : ksd.hsTranscript = (ts.events.map (·.wireBytes)).flatten) :
      Move s
        { ({ s with transcript := ts
                    negotiated := { s.negotiated with serverShare := some share }
                    readEpoch := installEpoch .handshake
                    writeEpoch := installEpoch .handshake }).withOp
            .hkdfExtract .handshake (some .write) with
          handshake := .derivedHandshakeSecrets, keySched := some ksd }
        [.writeHandshake s.connId .initial 0 msg, .callCrypto s.connId ⟨s.nextOpId⟩ op]
  /-- The key-schedule driver asks for its next operation. -/
  | pump {epoch : Epoch} {ksd : KeyScheduleDriver.State} {op : CryptoOp}
      (hphase : s.handshake = .derivedHandshakeSecrets ∨ s.handshake = .sentCertificateVerify)
      (hroom : s.hasOpRoom) (hop : KeyScheduleDriver.isScheduleKind op.kind = true)
      (hksd : SameSchedule s.keySched (some ksd)) :
      Move s { s.withOp op.kind epoch (some .write) with keySched := some ksd }
        [.callCrypto s.connId ⟨s.nextOpId⟩ op]
  /-- The key-schedule driver has nothing to ask. -/
  | rest {ksd : KeyScheduleDriver.State}
      (hphase : s.handshake = .derivedHandshakeSecrets ∨ s.handshake = .sentCertificateVerify)
      (hksd : SameSchedule s.keySched (some ksd)) :
      Move s { s with keySched := some ksd } []
  | serverFlight {msg : HandshakeOut} {ts : TranscriptState} {ksd : KeyScheduleDriver.State}
      {input : Bytes} (hphase : s.handshake = .derivedHandshakeSecrets) (hroom : s.hasOpRoom)
      (hksd : SameSchedule s.keySched (some ksd))
      (hmsg : msg = .encryptedExtensions (s.negotiated.selectedAlpn.map (·.bytes)))
      (hts : ts.events = s.transcript.events ++
        [committed .encryptedExtensions .write (serializeHandshakeOut msg),
          committed .certificate .write
            (serializeServerCertificate s.negotiated.selectedCertDer)]) :
      Move s
        { ({ s with transcript := ts, keySched := some ksd }).withOp
            .signCertificateVerify .handshake (some .write) with
          handshake := .requestedCertificateVerifySignature }
        [.writeHandshake s.connId .handshake 0 msg,
          .writeCertificate s.connId .handshake 1 s.negotiated.selectedCertDer,
          .callCrypto s.connId ⟨s.nextOpId⟩ (.signCertificateVerify
            (s.negotiated.selectedSigScheme.getD .ed25519) input)]
  | certificateVerify {scheme : UInt16} {sig : Bytes} {ts : TranscriptState} {alg : HashAlgorithm}
      {input : Bytes} (hphase : s.handshake = .requestedCertificateVerifySignature)
      (hroom : s.hasOpRoom)
      (hts : ts.events = s.transcript.events ++ [committed .certificateVerify .write
        (serializeHandshakeOut (.certificateVerify scheme sig))]) :
      Move s
        { ({ s with transcript := ts }).withOp .computeServerFinished .handshake (some .write) with
          handshake := .requestedServerFinishedMac }
        [.writeHandshake s.connId .handshake 2 (.certificateVerify scheme sig),
          .callCrypto s.connId ⟨s.nextOpId⟩ (.computeServerFinished alg input)]
  | serverFinished {mac : Bytes} {ts : TranscriptState} {ksd : KeyScheduleDriver.State}
      {op : CryptoOp} (hphase : s.handshake = .requestedServerFinishedMac) (hroom : s.hasOpRoom)
      (hop : KeyScheduleDriver.isScheduleKind op.kind = true)
      (hksd : SameSchedule s.keySched (some ksd))
      (hts : ts.events = s.transcript.events ++
        [committed .finished .write (serializeHandshakeOut (.finished mac))]) :
      Move s
        { ({ s with transcript := ts }).withOp op.kind .application (some .write) with
          handshake := .sentCertificateVerify, keySched := some ksd }
        [.writeHandshake s.connId .handshake 3 (.finished mac),
          .callCrypto s.connId ⟨s.nextOpId⟩ op]
  | applicationKeys {ksd : KeyScheduleDriver.State} (hphase : s.handshake = .sentCertificateVerify)
      (hksd : SameSchedule s.keySched (some ksd)) :
      Move s
        { s with handshake := .sentServerFinished, keySched := some ksd
                 readEpoch := installEpoch .handshake, writeEpoch := installEpoch .application }
        []
  | clientFinished {wire : Bytes} {ts : TranscriptState} {alg : HashAlgorithm} {input : Bytes}
      (hphase : s.handshake = .sentServerFinished) (hroom : s.hasOpRoom)
      (hts : ts.events = s.transcript.events) :
      Move s
        { ({ s with transcript := ts, pendingClientFinished := some wire }).withOp
            .verifyFinished .application (some .read) with
          handshake := .requestedClientFinishedVerify }
        [.callCrypto s.connId ⟨s.nextOpId⟩ (.verifyFinished alg input wire)]
  | verified {wire : Bytes} {info : HandshakeInfo}
      (hphase : s.handshake = .requestedClientFinishedVerify) :
      Move s
        { s with transcript := s.transcript.appendFramed .finished .read wire
                 handshake := .connected, readEpoch := installEpoch .application }
        [.reportHandshakeComplete s.connId info]

/-- A transition that returns, and whose result is a move. -/
def Moves (s : State) (res : StepResult) : Prop := ∃ s' acts, res = .ok (s', acts) ∧ Move s s' acts

/-! ## Staging and allocation

Most transitions end in an allocation, which fails the connection above the ceiling.  One lemma
serves them all: the move with room, and the failure without. -/

theorem Staged.refl (s : State) : Staged s s where
  connId := rfl
  inbound := rfl
  config := rfl
  ops := rfl
  sched := rfl
  events := ⟨[], by simp⟩

theorem Moves.ignored (s : State) : Moves s (.ok (s, [])) := ⟨s, [], rfl, .ignored⟩

theorem Moves.failed {s s₀ : State} {a : AlertDescription} {e : TlsError} (hs : Staged s s₀)
    (ha : alertLevel a = .fatal) : Moves s (hsFail s₀ a e) :=
  ⟨s₀.fail a, failActions s₀ a e, rfl, .failed hs ha⟩

/-- Allocation either continues with a new operation or fails at the ceiling. -/
theorem allocOpOrFail_eq (s : State) (kind : CryptoOpKind) (epoch : Epoch)
    (dir : Option Direction) (k : OperationId → State → StepResult) :
    allocOpOrFail s kind epoch dir k =
      if s.hasOpRoom then k ⟨s.nextOpId⟩ (s.withOp kind epoch dir)
      else hsFail s .internalError (.resourceLimit .pendingCryptoOps) := by
  rw [allocOpOrFail, State.allocOp]
  by_cases h : s.hasOpRoom
  · rw [if_pos h, if_neg (Nat.not_le.mpr h)]
  · rw [if_neg h, if_pos (Nat.not_lt.mp h)]
    rfl

/-- A returned allocation went on under a new operation, or failed at the ceiling. -/
theorem allocOpOrFail_cases {s s' : State} {kind : CryptoOpKind} {epoch : Epoch}
    {dir : Option Direction} {k : OperationId → State → StepResult} {acts : List OutputAction}
    (h : allocOpOrFail s kind epoch dir k = .ok (s', acts)) :
    (s.hasOpRoom ∧ k ⟨s.nextOpId⟩ (s.withOp kind epoch dir) = .ok (s', acts)) ∨
      (¬ s.hasOpRoom ∧ s' = s.fail .internalError ∧
        acts = failActions s .internalError (.resourceLimit .pendingCryptoOps)) := by
  rw [allocOpOrFail_eq] at h
  by_cases hroom : s.hasOpRoom
  · rw [if_pos hroom] at h
    exact .inl ⟨hroom, h⟩
  · rw [if_neg hroom] at h
    cases h
    exact .inr ⟨hroom, rfl, rfl⟩

/-- An allocation that continues with a move, from a state that only staged something. -/
theorem moves_allocOpOrFail {s s₀ : State} {kind : CryptoOpKind} {epoch : Epoch}
    {dir : Option Direction} {k : OperationId → State → StepResult}
    (hfail : ¬ s₀.hasOpRoom → Staged s s₀)
    (hk : s₀.hasOpRoom → Moves s (k ⟨s₀.nextOpId⟩ (s₀.withOp kind epoch dir))) :
    Moves s (allocOpOrFail s₀ kind epoch dir k) := by
  rw [allocOpOrFail_eq]
  by_cases h : s₀.hasOpRoom
  · rw [if_pos h]
    exact hk h
  · rw [if_neg h]
    exact .failed (hfail h) rfl

/-- The move a returned result is. -/
theorem Moves.move {s s' : State} {acts : List OutputAction} {res : StepResult}
    (h : Moves s res) (hres : res = .ok (s', acts)) : Move s s' acts := by
  obtain ⟨s'', acts', hres', hmove⟩ := h
  obtain ⟨rfl, rfl⟩ := Prod.mk.inj (Except.ok.inj (hres'.symm.trans hres))
  exact hmove

/-! ## One lemma per transition -/

theorem onClientHello_moves (s : State) (vch : ValidClientHello) {wire : Bytes} (hw : wire ≠ []) :
    Moves s (onClientHello s vch wire) := by
  rw [onClientHello]
  split
  · rename_i hphase
    split
    · exact .failed (.refl s) rfl
    · split
      · exact .failed (.refl s) rfl
      · dsimp only
        split
        · exact .failed ⟨rfl, rfl, rfl, rfl, rfl, [], by simp⟩ rfl
        · split
          · exact .failed ⟨rfl, rfl, rfl, rfl, rfl, [], by simp⟩ rfl
          · refine moves_allocOpOrFail (fun _ ↦ ?_) fun hroom ↦ ?_
            · exact ⟨rfl, rfl, rfl, rfl, rfl, [committed .clientHello .read wire], rfl,
                .inl (by simp [committed])⟩
            · exact ⟨_, _, rfl, .clientHello hphase hroom hw⟩
  · exact .failed (.refl s) rfl

theorem onServerRandomDone_moves (s : State) (random : Bytes) :
    Moves s (onServerRandomDone s random) := by
  rw [onServerRandomDone]
  split
  · rename_i hphase
    refine moves_allocOpOrFail (fun _ ↦ ⟨rfl, rfl, rfl, rfl, rfl, [], by simp⟩) fun hroom ↦ ?_
    refine ⟨_, _, rfl, .serverRandom hphase hroom ?_⟩
    dsimp only
    split <;> rfl
  · exact .failed (.refl s) rfl

theorem onEcdheDone_moves (s : State) (share : Bytes) (secret : SecretKeyHandle) :
    Moves s (onEcdheDone s share secret) := by
  rw [onEcdheDone]
  split
  · rename_i hphase
    have hflight : s.handshake.inFlight = true := by simp [hphase, HandshakeState.inFlight]
    refine moves_allocOpOrFail (fun hroom ↦ ?_) fun hroom ↦ ?_
    · exact ⟨rfl, rfl, rfl, rfl, rfl, _, rfl, .inr ⟨hflight, hroom⟩⟩
    · refine ⟨_, _, rfl, .ecdhe hphase hroom rfl ⟨_, _, _, _, rfl⟩ rfl ?_⟩
      exact TranscriptState.prefixBytes_snapshot _
  · exact .failed (.refl s) rfl

theorem onHsScheduleResult_moves (s : State) (r : CryptoResult) :
    Moves s (onHsScheduleResult s r) := by
  rw [onHsScheduleResult]
  split
  · rename_i hphase
    have hflight : s.handshake.inFlight = true := by simp [hphase, HandshakeState.inFlight]
    cases hks : s.keySched with
    | none => exact .failed (.refl s) rfl
    | some ksd₀ =>
      dsimp only
      cases hadv : KeyScheduleDriver.advance ksd₀ r with
      | error e => exact .failed (.refl s) rfl
      | ok p =>
        obtain ⟨ksd, ops⟩ := p
        obtain ⟨hhs, -, hops⟩ := KeyScheduleDriver.advance_spec hadv
        have hsame : SameSchedule s.keySched (some ksd) := by simp [SameSchedule, hks, hhs]
        cases ops with
        | cons op ops =>
          refine moves_allocOpOrFail (fun _ ↦ .refl s) fun hroom ↦ ?_
          exact ⟨_, _, rfl, .pump (.inl hphase) hroom (hops op (by simp)) hsame⟩
        | nil =>
          dsimp only
          split
          · refine moves_allocOpOrFail (fun hroom ↦ ?_) fun hroom ↦ ?_
            · exact ⟨rfl, rfl, rfl, rfl, hsame, _, by simp [List.append_assoc]; rfl,
                .inr ⟨hflight, hroom⟩⟩
            · exact ⟨_, _, rfl, .serverFlight hphase hroom hsame rfl
                (by simp [List.append_assoc, committed])⟩
          · exact ⟨_, _, rfl, .rest (.inl hphase) hsame⟩
  · exact .failed (.refl s) rfl

theorem onCertVerifySigned_moves (s : State) (sig : Bytes) :
    Moves s (onCertVerifySigned s sig) := by
  rw [onCertVerifySigned]
  split
  · rename_i hphase
    have hflight : s.handshake.inFlight = true := by simp [hphase, HandshakeState.inFlight]
    refine moves_allocOpOrFail (fun hroom ↦ ?_) fun hroom ↦ ?_
    · exact ⟨rfl, rfl, rfl, rfl, rfl, _, rfl, .inr ⟨hflight, hroom⟩⟩
    · exact ⟨_, _, rfl, .certificateVerify hphase hroom rfl⟩
  · exact .failed (.refl s) rfl

theorem onServerFinishedMac_moves (s : State) (mac : Bytes) :
    Moves s (onServerFinishedMac s mac) := by
  rw [onServerFinishedMac]
  split
  · rename_i hphase
    have hflight : s.handshake.inFlight = true := by simp [hphase, HandshakeState.inFlight]
    cases hks : s.keySched with
    | none => exact .failed (.refl s) rfl
    | some ksd₀ =>
      dsimp only
      split
      · exact .failed (.refl s) rfl
      · rename_i ksd op ops hres
        obtain ⟨hhs, -, hops⟩ := KeyScheduleDriver.resumeApplication_spec hres
        have hsame : SameSchedule s.keySched (some ksd) := by simp [SameSchedule, hks, hhs]
        refine moves_allocOpOrFail (fun hroom ↦ ?_) fun hroom ↦ ?_
        · exact ⟨rfl, rfl, rfl, rfl, by simp [SameSchedule, hks], _, rfl, .inr ⟨hflight, hroom⟩⟩
        · exact ⟨_, _, rfl, .serverFinished hphase hroom (hops op (by simp)) hsame rfl⟩
      · exact .failed (.refl s) rfl
  · exact .failed (.refl s) rfl

theorem onApScheduleResult_moves (s : State) (r : CryptoResult) :
    Moves s (onApScheduleResult s r) := by
  rw [onApScheduleResult]
  split
  · rename_i hphase
    cases hks : s.keySched with
    | none => exact .failed (.refl s) rfl
    | some ksd₀ =>
      dsimp only
      cases hadv : KeyScheduleDriver.advance ksd₀ r with
      | error e => exact .failed (.refl s) rfl
      | ok p =>
        obtain ⟨ksd, ops⟩ := p
        obtain ⟨hhs, -, hops⟩ := KeyScheduleDriver.advance_spec hadv
        have hsame : SameSchedule s.keySched (some ksd) := by simp [SameSchedule, hks, hhs]
        cases ops with
        | cons op ops =>
          refine moves_allocOpOrFail (fun _ ↦ .refl s) fun hroom ↦ ?_
          exact ⟨_, _, rfl, .pump (.inr hphase) hroom (hops op (by simp)) hsame⟩
        | nil =>
          dsimp only
          split
          · exact ⟨_, _, rfl, .applicationKeys hphase hsame⟩
          · exact ⟨_, _, rfl, .rest (.inr hphase) hsame⟩
  · exact .failed (.refl s) rfl

theorem onClientFinishedBytes_moves (s : State) (wire : Bytes) :
    Moves s (onClientFinishedBytes s wire) := by
  rw [onClientFinishedBytes]
  split
  · rename_i hphase
    refine moves_allocOpOrFail (fun _ ↦ ⟨rfl, rfl, rfl, rfl, rfl, [], by simp⟩) fun hroom ↦ ?_
    exact ⟨_, _, rfl, .clientFinished hphase hroom rfl⟩
  · exact .failed (.refl s) rfl

theorem onClientFinishedVerified_moves (s : State) (wire : Bytes) :
    Moves s (onClientFinishedVerified s true wire) := by
  rw [onClientFinishedVerified]
  split
  · rename_i hphase
    exact ⟨_, _, rfl, .verified hphase⟩
  · exact .failed (.refl s) rfl

/-! ## The two entry points -/

/-- **Crypto results.**  A result either gates a move of the state without its operation, or is
ignored. -/
theorem handshakeOnGatingResult_moves (s : State) (op : OperationId) (r : CryptoResult) :
    Moves (s.clearOp op) (handshakeOnGatingResult s op r) := by
  rw [handshakeOnGatingResult.eq_def]
  dsimp only
  cases r with
  | randomBytes b =>
    dsimp only
    split
    · exact onServerRandomDone_moves _ b
    · exact .ignored _
  | ecdheComplete share secret =>
    dsimp only
    split
    · exact onEcdheDone_moves _ share secret
    · exact .ignored _
  | hkdfSecret h =>
    dsimp only
    split
    · exact onHsScheduleResult_moves _ _
    · split
      · exact onApScheduleResult_moves _ _
      · exact .ignored _
  | keysInstalled =>
    dsimp only
    split
    · exact onHsScheduleResult_moves _ _
    · split
      · exact onApScheduleResult_moves _ _
      · exact .ignored _
  | signature sig =>
    dsimp only
    split
    · exact onCertVerifySigned_moves _ sig
    · exact .ignored _
  | finishedMac mac =>
    dsimp only
    split
    · exact onServerFinishedMac_moves _ mac
    · exact .ignored _
  | verified =>
    dsimp only
    split
    · exact onClientFinishedVerified_moves _ _
    · exact .ignored _
  | aeadSealed ct => exact .ignored _
  | aeadOpened pt => exact .ignored _
  | verifyFailed => exact .failed (.refl _) rfl
  | failed e => exact .failed (.refl _) (alertLevel_crypto e)

/-- **Handshake messages.**  A framed message either is a move of the state or is ignored. -/
theorem handshakeOnPlaintextRecord_moves (s : State) (body : Bytes) :
    Moves s (handshakeOnPlaintextRecord s body) := by
  rw [handshakeOnPlaintextRecord]
  split
  · split
    · exact .failed (.refl s) (alertLevel_parse _)
    · rename_i wb hparse
      obtain ⟨hwire, hne⟩ := Parse.parseClientHello_wireBytes hparse
      exact onClientHello_moves s wb.value (by rwa [hwire])
  · split
    · exact onClientFinishedBytes_moves s body
    · exact .ignored s

/-- Outside `start` and `sentServerFinished` a handshake message is ignored. -/
theorem handshakeOnPlaintextRecord_ignored {s : State} (body : Bytes) (h₁ : s.handshake ≠ .start)
    (h₂ : s.handshake ≠ .sentServerFinished) :
    handshakeOnPlaintextRecord s body = .ok (s, []) := by
  rw [handshakeOnPlaintextRecord, if_neg h₁, if_neg h₂]

end Kroopt.Core
