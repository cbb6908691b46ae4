import Kroopt.Conn.Interpreter
import Kroopt.Core.Detail
import Kroopt.Core.Invariant
import Kroopt.Core.Session

/-!
# What is signed and authenticated is what was said

The transcript of a TLS handshake is what both sides have said so far, and it is what the signature
of the server and the two Finished messages are about.  The core keeps it as a list of events and
hands the concatenation of their bytes to the provider; beside that it emits the messages
themselves.  Nothing in the types connects the two.  This file does, along every run.

A phase prescribes which messages have been said, and by whom (`HandshakeState.script`).  One step
of a connection that stays live adds to the transcript what the script adds, emits the added
messages of the server, and hands over no text but the whole transcript (`Records`).  Since the
transcript only ever grows, a text that was handed over stays a prefix of it, and that makes the run
lemma.

The second half is about the last message, which the client says.  It is kept aside while the
provider verifies it and enters the transcript with the result, so what has to be carried is which
verification is outstanding, and over what (`Verifying`).

## Main definitions

* `HandshakeState.script`: the messages that have been said in a phase.
* `said` and `CryptoOp.covers`: the messages that actions emit, and how many messages an operation
  is about.
* `Recorded`: the transcript of a run is its script, its emitted messages and its texts.
* `Authenticated`: the client sent the Finished that the provider found to be the one over the
  messages before it.

## Main results

* `records_of_steps`: what one step adds.
* `recorded_of_run`: the transcript consists of the messages that the phase prescribes, in the order
  of the protocol; each message of the server in it is, byte for byte, one that was emitted; and
  what the provider was asked to sign or to authenticate are the messages up to Certificate, up to
  CertificateVerify and up to the server Finished.
* `authenticated_of_run`: a connection becomes connected only by a verified client Finished, over
  exactly the messages before it.
-/

set_option autoImplicit false

namespace Kroopt.Core

/-! ## The script of the handshake -/

/-- A message, by its kind and the side that says it. -/
abbrev Line := HandshakeMessageType × Direction

/-- The label of a committed message. -/
def TranscriptEvent.line (e : TranscriptEvent) : Line := (e.eventMeta.kind, e.eventMeta.direction)

/-- The first message. -/
def helloScript : List Line := [(.clientHello, .read)]

/-- What has been said in a phase. -/
def HandshakeState.script : HandshakeState → List Line
  | requestedServerRandom => helloScript
  | requestedEcdhe => helloScript
  | derivedHandshakeSecrets => helloScript ++ [(.serverHello, .write)]
  | requestedCertificateVerifySignature => helloScript ++
      [(.serverHello, .write), (.encryptedExtensions, .write), (.certificate, .write)]
  | requestedServerFinishedMac => helloScript ++
      [(.serverHello, .write), (.encryptedExtensions, .write), (.certificate, .write),
        (.certificateVerify, .write)]
  | sentCertificateVerify => helloScript ++ flightScript
  | sentServerFinished => helloScript ++ flightScript
  | requestedClientFinishedVerify => helloScript ++ flightScript
  | connected => helloScript ++ flightScript ++ [(.finished, .read)]
  | _ => []
where
  flightScript : List Line :=
    [(.serverHello, .write), (.encryptedExtensions, .write), (.certificate, .write),
      (.certificateVerify, .write), (.finished, .write)]

/-- The handshake message that an action emits. -/
def OutputAction.said? : OutputAction → Option Bytes
  | .writeHandshake _ _ _ msg => some (serializeHandshakeOut msg)
  | .writeCertificate _ _ _ der => some (serializeServerCertificate der)
  | _ => none

/-- The messages that a list of actions emits. -/
def said (acts : List OutputAction) : List Bytes := acts.filterMap OutputAction.said?

/-- The messages of a transcript that the server said. -/
def TranscriptState.written (ts : TranscriptState) : List Bytes :=
  (ts.events.filter fun e ↦ e.eventMeta.direction == .write).map (·.wireBytes)

/-- How many messages an operation signs or authenticates. -/
def CryptoOp.covers : CryptoOp → Nat
  | signCertificateVerify _ _ => 4
  | computeServerFinished _ _ => 5
  | verifyFinished _ _ _ => 6
  | _ => 0

/-! ## One step

The texts come from `Detail`, which says of every transition that what it hands over is the
transcript as it stands behind it.  Here this is counted: the script of the phase that is reached is
as long as the operation asks for. -/

/-- **What a step adds to the record.** -/
structure Records (s s' : State) (acts : List OutputAction) : Prop where
  events : ∃ new, s'.transcript.events = s.transcript.events ++ new ∧
    s'.handshake.script = s.handshake.script ++ new.map (·.line) ∧
    said acts = (new.filter fun e ↦ e.eventMeta.direction == .write).map (·.wireBytes)
  text : ∀ c op req text, OutputAction.callCrypto c op req ∈ acts → req.text? = some text →
    text = s'.transcript.text ∧ req.covers = s'.handshake.script.length

/-- No text is handed over. -/
def Textless (acts : List OutputAction) : Prop :=
  ∀ c op req, OutputAction.callCrypto c op req ∈ acts → req.text? = none

theorem Records.of_textless {s s' : State} {acts : List OutputAction} {new : List TranscriptEvent}
    (hevents : s'.transcript.events = s.transcript.events ++ new)
    (hscript : s'.handshake.script = s.handshake.script ++ new.map (·.line))
    (hsaid : said acts = (new.filter fun e ↦ e.eventMeta.direction == .write).map (·.wireBytes))
    (htext : Textless acts) : Records s s' acts where
  events := ⟨new, hevents, hscript, hsaid⟩
  text c op req text hmem hsome := by
    rw [htext c op req hmem] at hsome
    cases hsome

/-- A step that commits and emits nothing. -/
theorem Records.quiet {s s' : State} {acts : List OutputAction}
    (hphase : s'.handshake = s.handshake) (htr : s'.transcript.events = s.transcript.events)
    (hsaid : said acts = []) (htext : Textless acts) : Records s s' acts :=
  .of_textless (htr.trans (List.append_nil _).symm) (by rw [hphase, List.map_nil, List.append_nil])
    hsaid htext

theorem textless_singleton {c : ConnId} {op : OperationId} {req : CryptoOp}
    (h : req.text? = none) : Textless [.callCrypto c op req] := by
  intro c' op' req' hmem
  obtain ⟨-, -, rfl⟩ := OutputAction.callCrypto.inj (List.mem_singleton.mp hmem)
  exact h

theorem textless_cons {a : OutputAction} {acts : List OutputAction}
    (ha : ∀ c op req, a ≠ .callCrypto c op req) (h : Textless acts) : Textless (a :: acts) := by
  intro c op req hmem
  rcases List.mem_cons.mp hmem with rfl | hmem
  · exact absurd rfl (ha c op req)
  · exact h c op req hmem

/-- The text of a transition that asks for one operation over the whole transcript. -/
theorem text_of_detail {s s' : State} {acts : List OutputAction} (hd : Detail s s' acts)
    (req₀ : CryptoOp) (hone : ∀ c op req, OutputAction.callCrypto c op req ∈ acts → req = req₀)
    (hlen : req₀.covers = s'.handshake.script.length) (c : ConnId) (op : OperationId)
    (req : CryptoOp) (text : Bytes) (hmem : OutputAction.callCrypto c op req ∈ acts)
    (hsome : req.text? = some text) :
    text = s'.transcript.text ∧ req.covers = s'.handshake.script.length := by
  rw [hone c op req hmem]
  exact ⟨(hd.text _ hmem text hsome).symm, hlen⟩

/-- **Moves of the handshake** follow the script. -/
theorem Move.records {s s' : State} {acts : List OutputAction} (h : Move s s' acts)
    (hd : Detail s s' acts) (hlive : s'.handshake.isLive = true) : Records s s' acts := by
  cases h with
  | ignored => exact .quiet rfl rfl rfl (by simp [Textless])
  | failed => cases hlive
  | clientHello hphase hroom hwire =>
    exact .of_textless rfl (by rw [hphase]; rfl) rfl (textless_singleton rfl)
  | @serverRandom random op hphase hroom hop =>
    have htext : op.text? = none := by
      cases op <;> first | rfl | cases hop
    exact .of_textless (List.append_nil _).symm (by rw [hphase]; rfl) rfl (textless_singleton htext)
  | @ecdhe share msg ts ksd op hphase hroom hop hmsg hts hksd =>
    have htext : op.text? = none := by
      cases op <;> first | rfl | cases hop
    exact .of_textless hts (by rw [hphase]; rfl) rfl
      (textless_cons (by simp) (textless_singleton htext))
  | pump hphase hroom hop hksd =>
    exact .quiet rfl rfl rfl (textless_singleton (CryptoOp.text?_eq_none hop))
  | rest => exact .quiet rfl rfl rfl (by simp [Textless])
  | @serverFlight msg ts ksd input hphase hroom hksd hmsg hts =>
    exact ⟨⟨_, hts, by rw [hphase]; rfl, rfl⟩, text_of_detail hd
      (.signCertificateVerify (s.negotiated.selectedSigScheme.getD .ed25519) input)
      (by simp +contextual) rfl⟩
  | @certificateVerify scheme sig ts alg input hphase hroom hts =>
    exact ⟨⟨_, hts, by rw [hphase]; rfl, rfl⟩,
      text_of_detail hd (.computeServerFinished alg input) (by simp +contextual) rfl⟩
  | @serverFinished mac ts ksd op hphase hroom hop hksd hts =>
    exact .of_textless hts (by rw [hphase]; rfl) rfl
      (textless_cons (by simp) (textless_singleton (CryptoOp.text?_eq_none hop)))
  | applicationKeys hphase hksd =>
    exact .of_textless (List.append_nil _).symm (by rw [hphase]; rfl) rfl (by simp [Textless])
  | @clientFinished wire ts alg input hphase hroom hts =>
    exact ⟨⟨[], hts.trans (List.append_nil _).symm, by rw [hphase]; rfl, rfl⟩,
      text_of_detail hd (.verifyFinished alg input wire) (by simp +contextual) rfl⟩
  | verified hphase =>
    exact .of_textless rfl (by rw [hphase]; rfl) rfl
      (textless_cons (by simp) (by simp [Textless]))

theorem textless_nil : Textless [] := by simp [Textless]

theorem RecordOutcome.records {s s' : State} {hdr : Parse.ValidRecordHeader} {body : Bytes}
    {acts : List OutputAction} (h : RecordOutcome s hdr body s' acts)
    (hlive : s'.handshake.isLive = true) : Records s s' acts := by
  cases h with
  | opens => exact .quiet rfl rfl rfl (textless_singleton rfl)
  | unread | ccsIgnored => exact .quiet rfl rfl rfl textless_nil
  | noRoom | ccsRefused | hsRefused | invalid => cases hlive
  | hsPartial => exact .quiet rfl rfl rfl (textless_cons (by simp) textless_nil)
  | hsMessage ht hfits hframe hres =>
    have hrec := ((handshakeOnPlaintextRecord_moves _ _).move hres).records
      (handshakeOnPlaintextRecord_details _ _ _ _ hres) hlive
    exact ⟨hrec.events, hrec.text⟩
  | alert ht h => cases h.isLive.symm.trans hlive

theorem ResultOutcome.records {s s' : State} {op : OperationId} {r : CryptoResult}
    {acts : List OutputAction} (h : ResultOutcome s op r s' acts)
    (hlive : s'.handshake.isLive = true) : Records s s' acts := by
  cases h with
  | unparsed | verifyFailed | failed => cases hlive
  | opened hp h =>
    cases h with
    | data | skipped => exact .quiet rfl rfl rfl textless_nil
    | message ht hphase hseq hres =>
      have hrec := ((handshakeOnPlaintextRecord_moves _ _).move hres).records
        (handshakeOnPlaintextRecord_details _ _ _ _ hres) hlive
      exact ⟨hrec.events, hrec.text⟩
    | overflow | earlyData | invalid => cases hlive
    | alert ht h => cases h.isLive.symm.trans hlive
  | sealed =>
    refine .quiet rfl rfl ?_ (textless_cons (by simp) ?_)
    · split <;> rfl
    · split
      · exact textless_cons (by simp) textless_nil
      · exact textless_nil
  | gating hr hres =>
    have hrec := ((handshakeOnGatingResult_moves _ _ _).move hres).records
      (handshakeOnGatingResult_details _ _ _ _ _ hres) hlive
    exact ⟨hrec.events, hrec.text⟩

/-- **One step of a connection that stays live.** -/
theorem Outcome.records {s s' : State} {ev : InputEvent} {acts : List OutputAction}
    (h : Outcome s ev s' acts) (hlive : s'.handshake.isLive = true) : Records s s' acts := by
  cases h with
  | bytes h =>
    cases h with
    | malformed => cases hlive
    | awaiting => exact .quiet rfl rfl rfl (textless_cons (by simp) textless_nil)
    | record hh h => exact ⟨(h.records hlive).events, (h.records hlive).text⟩
  | result hop h => exact h.records hlive
  | stale | noDelivery | writable | flush => exact .quiet rfl rfl rfl textless_nil
  | deliver | reclose | readable =>
    exact .quiet rfl rfl rfl (textless_cons (by simp) textless_nil)
  | send =>
    refine .quiet rfl rfl rfl fun c op req hmem ↦ ?_
    rcases List.mem_cons.mp hmem with h | h
    · obtain ⟨-, -, rfl⟩ := OutputAction.callCrypto.inj h
      rfl
    · simp at h
  | sendRefused | closeNotify | closeNotifyRefused | closeEarly | closeFatal | closeAbortive | eof
  | timeout => cases hlive

theorem records_of_steps {t : CoreStep} (ht : Machine.Steps step t)
    (hlive : t.target.handshake.isLive = true) : Records t.source t.target t.output := by
  have hsource := (HandshakeState.isLive_iff.mp (isLive_source ht hlive)).1
  exact (outcome_of_steps ht hsource).records hlive

/-! ## Runs -/

/-- The messages of the server that a run emits, in order. -/
def saidOf (tr : List CoreStep) : List Bytes := tr.flatMap fun t ↦ said t.output

/-- A run asks the provider for an operation. -/
def Asks (tr : List CoreStep) (op : OperationId) (req : CryptoOp) : Prop :=
  ∃ t ∈ tr, ∃ c, OutputAction.callCrypto c op req ∈ t.output

/-- The text of the first messages of a transcript. -/
def TranscriptState.textUpTo (ts : TranscriptState) (n : Nat) : Bytes :=
  ((ts.events.take n).map (·.wireBytes)).flatten

/-- What joins a transcript later does not change the text of its first messages. -/
theorem TranscriptState.textUpTo_append {ts ts' : TranscriptState} {new : List TranscriptEvent}
    (h : ts'.events = ts.events ++ new) {n : Nat} (hn : n ≤ ts.events.length) :
    ts'.textUpTo n = ts.textUpTo n := by
  rw [textUpTo, textUpTo, h, List.take_append_of_le_length hn]

theorem TranscriptState.textUpTo_length {ts : TranscriptState} {n : Nat}
    (hn : n = ts.events.length) : ts.textUpTo n = ts.text := by
  rw [textUpTo, hn, List.take_length, text]

/-- **The record of a run.** -/
structure Recorded (tr : List CoreStep) (s : State) : Prop where
  script : s.transcript.events.map (·.line) = s.handshake.script
  written : saidOf tr = s.transcript.written
  text : ∀ op req text, Asks tr op req → req.text? = some text →
    req.covers ≤ s.transcript.events.length ∧ text = s.transcript.textUpTo req.covers

theorem Recorded.step {pre : List CoreStep} {t : CoreStep} (ht : Machine.Steps step t)
    (hlive : t.target.handshake.isLive = true) (h : Recorded pre t.source) :
    Recorded (pre ++ [t]) t.target := by
  have hrec := records_of_steps ht hlive
  obtain ⟨new, hevents, hscript, hsaid⟩ := hrec.events
  have hscript' : t.target.transcript.events.map (·.line) = t.target.handshake.script := by
    rw [hevents, List.map_append, h.script, hscript]
  refine ⟨hscript', ?_, ?_⟩
  · have hpre := h.written
    simp only [saidOf, TranscriptState.written] at hpre ⊢
    rw [List.flatMap_append, hpre, List.flatMap_singleton, hsaid, hevents, List.filter_append,
      List.map_append]
  · rintro op req text ⟨u, hu, c, hmem⟩ hsome
    rcases List.mem_append.mp hu with hu | hu
    · obtain ⟨hle, htext⟩ := h.text op req text ⟨u, hu, c, hmem⟩ hsome
      refine ⟨?_, ?_⟩
      · rw [hevents, List.length_append]
        exact Nat.le_add_right_of_le hle
      · rw [htext, TranscriptState.textUpTo_append hevents hle]
    · rw [List.mem_singleton.mp hu] at hmem
      obtain ⟨htext, hcovers⟩ := hrec.text c op req text hmem hsome
      have hlen : req.covers = t.target.transcript.events.length := by
        rw [hcovers, ← hscript', List.length_map]
      exact ⟨Nat.le_of_eq hlen, htext.trans (TranscriptState.textUpTo_length hlen).symm⟩

variable {conn : ConnId} {gen : ConfigGeneration} {alg : HashAlgorithm}
  {config : ValidatedServerConfig} {tr : List CoreStep} {s : State}

/-- **What is signed and authenticated is what was said.** -/
theorem recorded_of_run (h : CoreRun conn gen alg config tr s)
    (hlive : s.handshake.isLive = true) : Recorded tr s := by
  refine Machine.Run.history (J := fun pre s ↦ s.handshake.isLive = true → Recorded pre s)
    (C := fun _ ↦ True) (fun pre t ht _ hJ hlive ↦ ?_) h (fun _ _ ↦ trivial) (fun _ ↦ ?_) hlive
  · exact (hJ (isLive_source ht hlive)).step ht hlive
  · exact ⟨rfl, rfl, by simp [Asks]⟩

theorem recorded_connect : Recorded (Session.run Session.connectEvents)
    (Session.reached Session.connectEvents) :=
  recorded_of_run (Session.coreRun Session.connectEvents) (by decide +kernel)

/-! ## The client Finished

Nothing stops an application from feeding the result `verified` for an operation that asked for
something else, and the core would take it.  So the result is stated under the condition that
results are of a kind that answers their operation, which is what the interpreter makes sure of. -/

/-- The phases before the client Finished is looked at. -/
def HandshakeState.precedesVerify (h : HandshakeState) : Prop :=
  h ≠ .requestedClientFinishedVerify ∧ h ≠ .connected

/-- No verification of a Finished is outstanding that was not before. -/
def NoNewVerify (s s' : State) : Prop :=
  ∀ o ∈ s'.pendingOps.ops, o.expectedKind = .verifyFinished → o ∈ s.pendingOps.ops

theorem NoNewVerify.of_eq {s s' : State} (h : s'.pendingOps = s.pendingOps) : NoNewVerify s s' :=
  fun _ ho _ ↦ h ▸ ho

theorem NoNewVerify.withOp {s s' : State} {o : PendingCryptoOp}
    (h : s'.pendingOps.ops = o :: s.pendingOps.ops) (hkind : o.expectedKind ≠ .verifyFinished) :
    NoNewVerify s s' := by
  intro o' ho' hkind'
  rw [h] at ho'
  rcases List.mem_cons.mp ho' with rfl | ho'
  · exact absurd hkind' hkind
  · exact ho'

theorem NoNewVerify.of_clearOp {s s' : State} {op : OperationId}
    (h : NoNewVerify (s.clearOp op) s') : NoNewVerify s s' :=
  fun o ho hkind ↦ (s.clearOp_ops_sublist op).subset (h o ho hkind)

theorem isScheduleKind_ne_verifyFinished {kind : CryptoOpKind}
    (h : KeyScheduleDriver.isScheduleKind kind = true) : kind ≠ .verifyFinished := by
  rintro rfl
  cases h

/-- **What a step has to do with the client Finished.** -/
inductive VerifyStep (s : State) (ev : InputEvent) (s' : State) (acts : List OutputAction) : Prop
  | keeps (hphase : s'.handshake = s.handshake)
      (hwire : s'.pendingClientFinished = s.pendingClientFinished)
      (hts : s'.transcript.events = s.transcript.events) (hops : NoNewVerify s s')
  | moves (hphase : s.handshake.precedesVerify) (hphase' : s'.handshake.precedesVerify)
      (hops : NoNewVerify s s')
  /-- Its verification is asked for. -/
  | asks (o : PendingCryptoOp) (c : ConnId) (alg : HashAlgorithm) (wire : Bytes)
      (hphase : s.handshake.precedesVerify)
      (hphase' : s'.handshake = .requestedClientFinishedVerify)
      (hwire : s'.pendingClientFinished = some wire)
      (hops : ∀ o' ∈ s'.pendingOps.ops, o'.expectedKind = .verifyFinished →
        o' = o ∨ o' ∈ s.pendingOps.ops)
      (hmem : OutputAction.callCrypto c o.id (.verifyFinished alg s'.transcript.text wire) ∈ acts)
  /-- It is accepted. -/
  | verified {c : ConnId} {op : OperationId} (hphase : s.handshake = .requestedClientFinishedVerify)
      (hphase' : s'.handshake = .connected) (hev : ev = .cryptoResult c op .verified)
      (hop : s.pendingOps.contains op = true)
      (hts : s'.transcript.events = s.transcript.events ++
        [committed .finished .read (s.pendingClientFinished.getD [])])

/-- Nothing that has to do with the client Finished changed before the step. -/
theorem VerifyStep.of_source {s s₀ s' : State} {ev : InputEvent} {acts : List OutputAction}
    (h : VerifyStep s₀ ev s' acts) (hphase : s₀.handshake = s.handshake)
    (hwire : s₀.pendingClientFinished = s.pendingClientFinished)
    (hts : s₀.transcript = s.transcript) (hops : s₀.pendingOps.ops.Sublist s.pendingOps.ops) :
    VerifyStep s ev s' acts := by
  cases h with
  | keeps h₁ h₂ h₃ h₄ =>
    exact .keeps (h₁.trans hphase) (h₂.trans hwire) (by rw [h₃, hts])
      fun o ho hk ↦ hops.subset (h₄ o ho hk)
  | moves h₁ h₂ h₃ => exact .moves (hphase ▸ h₁) h₂ fun o ho hk ↦ hops.subset (h₃ o ho hk)
  | asks o c alg wire h₁ h₂ h₃ h₄ h₅ =>
    exact .asks o c alg wire (hphase ▸ h₁) h₂ h₃
      (fun o ho hk ↦ (h₄ o ho hk).imp_right (hops.subset ·)) h₅
  | @verified c op h₁ h₂ h₃ h₄ h₅ =>
    obtain ⟨o, ho, hid⟩ := PendingCryptoOps.contains_iff.mp h₄
    refine .verified (hphase ▸ h₁) h₂ h₃ ?_ (by rw [h₅, hts, hwire])
    exact PendingCryptoOps.contains_iff.mpr ⟨o, hops.subset ho, hid⟩

/-- Moves of the handshake before the client Finished is looked at. -/
theorem Move.verifyStep {s s' : State} {acts : List OutputAction} (ev : InputEvent)
    (h : Move s s' acts) (hd : Detail s s' acts) (hlive : s'.handshake.isLive = true)
    (hne : s.handshake ≠ .requestedClientFinishedVerify) : VerifyStep s ev s' acts := by
  cases h with
  | ignored => exact .keeps rfl rfl rfl (.of_eq rfl)
  | failed => cases hlive
  | clientHello hphase =>
    exact .moves (by simp [HandshakeState.precedesVerify, hphase])
      (by simp [HandshakeState.precedesVerify]) (.withOp rfl (by simp))
  | serverRandom hphase =>
    exact .moves (by simp [HandshakeState.precedesVerify, hphase])
      (by simp [HandshakeState.precedesVerify]) (.withOp rfl (by simp))
  | ecdhe hphase =>
    exact .moves (by simp [HandshakeState.precedesVerify, hphase])
      (by simp [HandshakeState.precedesVerify]) (.withOp rfl (by simp))
  | pump hphase hroom hop =>
    exact .keeps rfl rfl rfl (.withOp rfl (isScheduleKind_ne_verifyFinished hop))
  | rest => exact .keeps rfl rfl rfl (.of_eq rfl)
  | serverFlight hphase =>
    exact .moves (by simp [HandshakeState.precedesVerify, hphase])
      (by simp [HandshakeState.precedesVerify]) (.withOp rfl (by simp))
  | certificateVerify hphase =>
    exact .moves (by simp [HandshakeState.precedesVerify, hphase])
      (by simp [HandshakeState.precedesVerify]) (.withOp rfl (by simp))
  | serverFinished hphase hroom hop =>
    exact .moves (by simp [HandshakeState.precedesVerify, hphase])
      (by simp [HandshakeState.precedesVerify])
      (.withOp rfl (isScheduleKind_ne_verifyFinished hop))
  | applicationKeys hphase =>
    exact .moves (by simp [HandshakeState.precedesVerify, hphase])
      (by simp [HandshakeState.precedesVerify]) (.of_eq rfl)
  | @clientFinished wire ts alg input hphase hroom hts =>
    obtain rfl := hd.text _ List.mem_cons_self input rfl
    exact .asks ⟨⟨s.nextOpId⟩, .verifyFinished, .application, some .read⟩ s.connId alg wire
      (by simp [HandshakeState.precedesVerify, hphase]) rfl rfl
      (fun o ho _ ↦ List.mem_cons.mp ho) List.mem_cons_self
  | verified hphase => exact absurd hphase hne

/-- While the client Finished is being verified, only its verification goes on. -/
theorem gatingResult_verifyStep {s s' : State} (c : ConnId) {op : OperationId} {r : CryptoResult}
    {acts : List OutputAction} (hop : s.pendingOps.contains op = true)
    (hphase : s.handshake = .requestedClientFinishedVerify)
    (hres : handshakeOnGatingResult s op r = .ok (s', acts))
    (hlive : s'.handshake.isLive = true) : VerifyStep s (.cryptoResult c op r) s' acts := by
  have hkeeps : VerifyStep s (.cryptoResult c op r) (s.clearOp op) [] :=
    .keeps rfl rfl rfl (.of_clearOp (.of_eq rfl))
  rw [handshakeOnGatingResult.eq_def] at hres
  dsimp only at hres
  simp only [State.clearOp_handshake, hphase, reduceCtorEq, if_false, if_true] at hres
  cases r with
  | verified =>
    dsimp only at hres
    rw [onClientFinishedVerified, if_pos (by simp [hphase])] at hres
    cases hres
    exact .verified hphase rfl rfl hop rfl
  | verifyFailed | failed =>
    cases hres
    cases hlive
  | ecdheComplete | signature | randomBytes | finishedMac | hkdfSecret | keysInstalled | aeadSealed
  | aeadOpened =>
    cases hres
    exact hkeeps

theorem plaintextRecord_verifyStep {s s' : State} (ev : InputEvent) {msg : Bytes}
    {acts : List OutputAction} (hres : handshakeOnPlaintextRecord s msg = .ok (s', acts))
    (hlive : s'.handshake.isLive = true) : VerifyStep s ev s' acts := by
  by_cases hphase : s.handshake = .requestedClientFinishedVerify
  · rw [handshakeOnPlaintextRecord_ignored msg (by simp [hphase]) (by simp [hphase])] at hres
    cases hres
    exact .keeps rfl rfl rfl (.of_eq rfl)
  · exact ((handshakeOnPlaintextRecord_moves s msg).move hres).verifyStep ev
      (handshakeOnPlaintextRecord_details _ _ _ _ hres) hlive hphase

theorem RecordOutcome.verifyStep {s s' : State} {hdr : Parse.ValidRecordHeader} {body : Bytes}
    {acts : List OutputAction} (ev : InputEvent) (h : RecordOutcome s hdr body s' acts)
    (hlive : s'.handshake.isLive = true) : VerifyStep s ev s' acts := by
  cases h with
  | opens => exact .keeps rfl rfl rfl (.withOp rfl (by simp))
  | unread | ccsIgnored | hsPartial => exact .keeps rfl rfl rfl (.of_eq rfl)
  | noRoom | ccsRefused | hsRefused | invalid => cases hlive
  | hsMessage ht hfits hframe hres =>
    exact (plaintextRecord_verifyStep ev hres hlive).of_source rfl rfl rfl (.refl _)
  | alert ht h => cases h.isLive.symm.trans hlive

theorem ResultOutcome.verifyStep {s s' : State} (c : ConnId) {op : OperationId} {r : CryptoResult}
    {acts : List OutputAction} (hop : s.pendingOps.contains op = true)
    (h : ResultOutcome s op r s' acts) (hlive : s'.handshake.isLive = true) :
    VerifyStep s (.cryptoResult c op r) s' acts := by
  cases h with
  | unparsed | verifyFailed | failed => cases hlive
  | opened hp h =>
    cases h with
    | data | skipped => exact .keeps rfl rfl rfl (.of_clearOp (.of_eq rfl))
    | message ht hphase hseq hres =>
      exact (plaintextRecord_verifyStep _ hres hlive).of_source rfl rfl rfl
        (s.clearOp_ops_sublist op)
    | overflow | earlyData | invalid => cases hlive
    | alert ht h => cases h.isLive.symm.trans hlive
  | sealed => exact .keeps rfl rfl rfl (.of_clearOp (.of_eq rfl))
  | gating hr hres =>
    by_cases hphase : s.handshake = .requestedClientFinishedVerify
    · exact gatingResult_verifyStep c hop hphase hres hlive
    · exact (((handshakeOnGatingResult_moves s op r).move hres).verifyStep _
        (handshakeOnGatingResult_details _ _ _ _ _ hres) hlive hphase).of_source rfl rfl rfl
        (s.clearOp_ops_sublist op)

theorem Outcome.verifyStep {s s' : State} {ev : InputEvent} {acts : List OutputAction}
    (h : Outcome s ev s' acts) (hlive : s'.handshake.isLive = true) : VerifyStep s ev s' acts := by
  cases h with
  | bytes h =>
    cases h with
    | malformed => cases hlive
    | awaiting => exact .keeps rfl rfl rfl (.of_eq rfl)
    | record hh h => exact (h.verifyStep _ hlive).of_source rfl rfl rfl (.refl _)
  | result hop h => exact h.verifyStep _ hop hlive
  | stale | noDelivery | writable | flush | deliver | reclose | readable =>
    exact .keeps rfl rfl rfl (.of_eq rfl)
  | send => exact .keeps rfl rfl rfl (.withOp rfl (by simp))
  | sendRefused | closeNotify | closeNotifyRefused | closeEarly | closeFatal | closeAbortive | eof
  | timeout => cases hlive

/-- Whether an event, if it is the result of an operation, is of a kind that can answer it. -/
def InputEvent.fits (o : PendingCryptoOp) : InputEvent → Bool
  | .cryptoResult _ op r => o.id != op || Conn.resultMatchesKind o.expectedKind r
  | _ => true

/-- A step takes a result only for an operation that it can answer. -/
def AnswersKind (t : CoreStep) : Prop := ∀ o ∈ t.source.pendingOps.ops, t.input.fits o = true

instance (t : CoreStep) : Decidable (AnswersKind t) :=
  inferInstanceAs (Decidable (∀ o ∈ t.source.pendingOps.ops, _))

/-- **The client is authenticated**: the Finished it sent was found to be the one over the whole
transcript before it. -/
def Authenticated (tr : List CoreStep) (s : State) : Prop :=
  ∃ op alg wire, Asks tr op (.verifyFinished alg (s.transcript.textUpTo 6) wire) ∧
    (∃ t ∈ tr, ∃ c, t.input = .cryptoResult c op .verified) ∧
    s.transcript.events.drop 6 = [committed .finished .read wire]

/-- What is known of the client Finished in each phase. -/
structure Verifying (tr : List CoreStep) (s : State) : Prop where
  before : s.handshake.precedesVerify → ∀ o ∈ s.pendingOps.ops, o.expectedKind ≠ .verifyFinished
  during : s.handshake = .requestedClientFinishedVerify → ∃ wire,
    s.pendingClientFinished = some wire ∧ ∀ o ∈ s.pendingOps.ops,
      o.expectedKind = .verifyFinished → ∃ alg,
        Asks tr o.id (.verifyFinished alg s.transcript.text wire)
  done : s.handshake = .connected → Authenticated tr s

theorem Asks.append {tr tr' : List CoreStep} {op : OperationId} {req : CryptoOp}
    (h : Asks tr op req) : Asks (tr ++ tr') op req := by
  obtain ⟨t, ht, hask⟩ := h
  exact ⟨t, List.mem_append_left _ ht, hask⟩

theorem resultMatchesKind_verified {kind : CryptoOpKind}
    (h : Conn.resultMatchesKind kind .verified = true) : kind = .verifyFinished := by
  cases kind <;> first | rfl | cases h

theorem Verifying.step {pre : List CoreStep} {t : CoreStep} (ht : Machine.Steps step t)
    (hkind : AnswersKind t) (hlive : t.target.handshake.isLive = true)
    (hscript : t.source.transcript.events.map (·.line) = t.source.handshake.script)
    (h : Verifying pre t.source) : Verifying (pre ++ [t]) t.target := by
  have hsource := (HandshakeState.isLive_iff.mp (isLive_source ht hlive)).1
  have hstep := (outcome_of_steps ht hsource).verifyStep hlive
  cases hstep with
  | keeps hphase hwire hts hops =>
    refine ⟨fun hp o ho hk ↦ h.before (hphase ▸ hp) o (hops o ho hk) hk, fun hp ↦ ?_, fun hp ↦ ?_⟩
    · obtain ⟨wire, hsome, hall⟩ := h.during (hphase ▸ hp)
      refine ⟨wire, hwire.trans hsome, fun o ho hk ↦ ?_⟩
      obtain ⟨alg, hask⟩ := hall o (hops o ho hk) hk
      rw [TranscriptState.text, hts]
      exact ⟨alg, hask.append⟩
    · obtain ⟨op, alg, wire, hask, ⟨u, hu, hin⟩, hdrop⟩ := h.done (hphase ▸ hp)
      rw [Authenticated, TranscriptState.textUpTo, hts]
      exact ⟨op, alg, wire, hask.append, ⟨u, List.mem_append_left _ hu, hin⟩, hdrop⟩
  | moves hphase hphase' hops =>
    exact ⟨fun _ o ho hk ↦ h.before hphase o (hops o ho hk) hk, fun hp ↦ absurd hp hphase'.1,
      fun hp ↦ absurd hp hphase'.2⟩
  | asks o c alg wire hphase hphase' hwire hops hmem =>
    refine ⟨fun hp ↦ absurd hphase' hp.1, fun _ ↦ ⟨wire, hwire, fun o' ho' hk ↦ ?_⟩, fun hp ↦ ?_⟩
    · rcases hops o' ho' hk with rfl | hold
      · exact ⟨alg, t, by simp, c, hmem⟩
      · exact absurd hk (h.before hphase o' hold)
    · rw [hphase'] at hp
      cases hp
  | @verified c op hphase hphase' hev hop hts =>
    refine ⟨fun hp ↦ absurd hphase' hp.2, fun hp ↦ ?_, fun _ ↦ ?_⟩
    · rw [hphase'] at hp
      cases hp
    obtain ⟨o, ho, rfl⟩ := PendingCryptoOps.contains_iff.mp hop
    obtain ⟨wire, hsome, hall⟩ := h.during hphase
    have hfits := hkind o ho
    rw [hev] at hfits
    obtain ⟨alg, hask⟩ := hall o ho (resultMatchesKind_verified (by
      simpa [InputEvent.fits] using hfits))
    have hlen : t.source.transcript.events.length = 6 := by
      have hcount := congrArg List.length hscript
      rwa [List.length_map, hphase] at hcount
    have htext : t.target.transcript.textUpTo 6 = t.source.transcript.text := by
      rw [TranscriptState.textUpTo_append hts (Nat.le_of_eq hlen.symm),
        TranscriptState.textUpTo_length hlen.symm]
    refine ⟨o.id, alg, wire, ?_, ⟨t, by simp, c, hev⟩, ?_⟩
    · rw [htext]
      exact hask.append
    · rw [hts, ← hlen, List.drop_left, hsome]
      rfl

/-- **Only an authenticated client connects.**  If every result is of a kind that answers the
operation it is for, a connection becomes connected only by the verification of the Finished that
the client sent, over exactly the six messages before it. -/
theorem authenticated_of_run (h : CoreRun conn gen alg config tr s)
    (hkind : ∀ t ∈ tr, AnswersKind t) (hconn : s.handshake = .connected) : Authenticated tr s := by
  have hlive : s.handshake.isLive = true := by rw [hconn]; rfl
  refine (Machine.Run.history (J := fun pre s ↦ s.handshake.isLive = true →
    Recorded pre s ∧ Verifying pre s) (C := AnswersKind) (fun pre t ht hk hJ hlive ↦ ?_) h hkind
    (fun _ ↦ ⟨⟨rfl, rfl, by simp [Asks]⟩, ?_⟩) hlive).2.done hconn
  · obtain ⟨hrec, hver⟩ := hJ (isLive_source ht hlive)
    exact ⟨hrec.step ht hlive, hver.step ht hk hlive hrec.script⟩
  · exact ⟨fun _ o ho ↦ (List.not_mem_nil ho).elim, nofun, nofun⟩

theorem authenticated_connect : Authenticated (Session.run Session.connectEvents)
    (Session.reached Session.connectEvents) :=
  authenticated_of_run (Session.coreRun Session.connectEvents) (by decide +kernel)
    (by decide +kernel)

end Kroopt.Core
