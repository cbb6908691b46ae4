import Kroopt.Core.Move
import Kroopt.Library.Run

/-!
# What one step of the core can do

`Outcome s ev s' acts` lists every way `step` can answer the event `ev` in a live state, with the
exact condition under which it does.  It is built the way the event travels: what an alert does
(`AlertOutcome`), what a framed record does (`RecordOutcome`), what inbound bytes do
(`BytesOutcome`), what the inner content of an opened record does (`InnerOutcome`), what the result
of an operation does (`ResultOutcome`).

The conditions are exact and exclude each other, so an outcome can be used in both directions: to
see what a step did, and to see what the event must have been.  The results about the core use only
this.  A change to a handler of the source is a change to one constructor and its lemma here, and to
the case of that constructor elsewhere.

## Main results

* `step_outcome`: `step` always returns, and its answer is an outcome.
* `outcome_of_steps`: the same for a step of the machine.
* `target_of_terminal`: in a terminal state a step changes nothing and emits nothing.

`CoreRun`, at the end, is a run of the core from a fresh connection.
-/

set_option autoImplicit false

namespace Kroopt.Core

open Kroopt.Parse (headOf Head parseInnerPlaintext classifyCcs)

/-- The state with another inbound buffer. -/
def State.received (s : State) (buf : Bytes) : State := { s with inboundCiphertext := buf }

@[simp] theorem State.received_inbound (s : State) (buf : Bytes) :
    (s.received buf).inboundCiphertext = buf := rfl

@[simp] theorem State.received_keySched (s : State) (buf : Bytes) :
    (s.received buf).keySched = s.keySched := rfl

/-! ## Alerts -/

/-- What an inbound alert does. -/
inductive AlertOutcome (s : State) (body : Bytes) : State → List OutputAction → Prop
  | closeNotify (hlen : body.length = 2) (hdesc : body.getD 1 0 = 0) :
      AlertOutcome s body { s with handshake := .closing, closeState := .receivedCloseNotify }
        [.closeTransport s.connId .graceful]
  | fatal {a : AlertDescription} (hlen : body.length = 2) (hdesc : body.getD 1 0 ≠ 0)
      (ha : a = (AlertDescription.ofByte (body.getD 1 0)).getD .internalError) :
      AlertOutcome s body
        { s with handshake := .failed a, closeState := .fatalReceived a, pendingPlainOut := none }
        [.closeTransport s.connId .abortive]
  | malformed (hlen : body.length ≠ 2) :
      AlertOutcome s body (s.fail .decodeError) (failActions s .decodeError (.parse .truncated))

theorem onInboundAlert_outcome (s : State) (body : Bytes) :
    ∃ s' acts, onInboundAlert s body = .ok (s', acts) ∧ AlertOutcome s body s' acts := by
  rw [onInboundAlert]
  by_cases hlen : body.length = 2
  · rw [if_pos (by simpa using hlen)]
    by_cases hdesc : body.getD 1 0 = 0
    · rw [if_pos (by simpa using hdesc)]
      exact ⟨_, _, rfl, .closeNotify hlen hdesc⟩
    · rw [if_neg (by simpa using hdesc)]
      exact ⟨_, _, rfl, .fatal hlen hdesc rfl⟩
  · rw [if_neg (by simpa using hlen)]
    exact ⟨_, _, rfl, .malformed hlen⟩

/-! ## Framed records -/

/-- The phases in which a protected record is opened. -/
def HandshakeState.opensRecords (h : HandshakeState) : Prop :=
  h = .connected ∨ h = .sentServerFinished

/-- The phases in which the compatibility change_cipher_spec is looked at. -/
def HandshakeState.ccsWindow (h : HandshakeState) : Prop :=
  h ≠ .start ∧ h ≠ .connected ∧ h ≠ .closing ∧ h.isTerminal = false

/-- The state after charging `n` handshake bytes, with the given reassembly buffer. -/
def State.reassembled (s : State) (n : Nat) (buf : Bytes) : State :=
  { s with budgets := { s.budgets with handshakeBytesSeen := s.budgets.handshakeBytesSeen + n }
           handshakeReasm := buf }

/-- A handshake fragment stays within the handshake budget and the reassembly bound. -/
def State.fitsFragment (s : State) (body : Bytes) : Prop :=
  s.budgets.handshakeBytesSeen + body.length ≤ s.serverConfig.limits.maxHandshakeBytes ∧
    (s.handshakeReasm ++ body).length ≤ maxHandshakeReasmBytes

instance (s : State) (body : Bytes) : Decidable (s.fitsFragment body) :=
  inferInstanceAs (Decidable (_ ∧ _))

/-- What a framed record does. -/
inductive RecordOutcome (s : State) : Parse.ValidRecordHeader → Bytes → State →
    List OutputAction → Prop
  | opens {hdr : Parse.ValidRecordHeader} {body : Bytes} {epoch : Epoch}
      (ht : hdr.outerType = .applicationData) (hphase : s.handshake.opensRecords)
      (hroom : s.hasOpRoom)
      (hepoch : epoch = if s.handshake = .connected then .application else .handshake) :
      RecordOutcome s hdr body (s.withOp .aeadOpen epoch (some .read))
        [.callCrypto s.connId ⟨s.nextOpId⟩ (.aeadOpen (readMeta s) [] body)]
  | noRoom {hdr : Parse.ValidRecordHeader} {body : Bytes} (ht : hdr.outerType = .applicationData)
      (hphase : s.handshake.opensRecords) (hroom : ¬ s.hasOpRoom) :
      RecordOutcome s hdr body (s.fail .internalError)
        (failActions s .internalError (.resourceLimit .pendingCryptoOps))
  | unread {hdr : Parse.ValidRecordHeader} {body : Bytes} (ht : hdr.outerType = .applicationData)
      (hphase : ¬ s.handshake.opensRecords) : RecordOutcome s hdr body s []
  | ccsIgnored {hdr : Parse.ValidRecordHeader} {body : Bytes}
      (ht : hdr.outerType = .changeCipherSpec) (hphase : s.handshake.ccsWindow)
      (hbody : body = [1]) : RecordOutcome s hdr body s []
  | ccsRefused {hdr : Parse.ValidRecordHeader} {body : Bytes}
      (ht : hdr.outerType = .changeCipherSpec) (h : ¬ (s.handshake.ccsWindow ∧ body = [1])) :
      RecordOutcome s hdr body (s.fail .unexpectedMessage)
        (failActions s .unexpectedMessage (.protocol .illegalMessageForState))
  | hsRefused {hdr : Parse.ValidRecordHeader} {body : Bytes} {n : Nat}
      {a : AlertDescription} {e : TlsError} (ht : hdr.outerType = .handshake)
      (hfits : ¬ s.fitsFragment body) (ha : alertLevel a = .fatal) :
      RecordOutcome s hdr body ((s.reassembled n s.handshakeReasm).fail a) (failActions s a e)
  | hsPartial {hdr : Parse.ValidRecordHeader} {body : Bytes} (ht : hdr.outerType = .handshake)
      (hfits : s.fitsFragment body)
      (hframe : frameHandshakeMessage (s.handshakeReasm ++ body) = none) :
      RecordOutcome s hdr body (s.reassembled body.length (s.handshakeReasm ++ body))
        [.readTransport s.connId]
  | hsMessage {hdr : Parse.ValidRecordHeader} {body msg tail : Bytes} {s' : State}
      {acts : List OutputAction} (ht : hdr.outerType = .handshake)
      (hfits : s.fitsFragment body)
      (hframe : frameHandshakeMessage (s.handshakeReasm ++ body) = some (msg, tail))
      (hres : handshakeOnPlaintextRecord (s.reassembled body.length tail) msg = .ok (s', acts)) :
      RecordOutcome s hdr body s' acts
  | alert {hdr : Parse.ValidRecordHeader} {body : Bytes} {s' : State} {acts : List OutputAction}
      (ht : hdr.outerType = .alert) (h : AlertOutcome s body s' acts) :
      RecordOutcome s hdr body s' acts
  | invalid {hdr : Parse.ValidRecordHeader} {body : Bytes} (ht : hdr.outerType = .invalid) :
      RecordOutcome s hdr body (s.fail .unexpectedMessage)
        (failActions s .unexpectedMessage (.parse .invalidContentType))

/-- What inbound bytes do. -/
inductive BytesOutcome (s : State) (b : Bytes) : State → List OutputAction → Prop
  | malformed {e : Parse.ParseError} (hh : headOf (s.inboundCiphertext ++ b) = .malformed e) :
      BytesOutcome s b
        ((s.received (s.inboundCiphertext ++ b)).fail (alertForParseError e.toPublic))
        (failActions s (alertForParseError e.toPublic) (.parse e.toPublic))
  | awaiting (hh : headOf (s.inboundCiphertext ++ b) = .awaiting) :
      BytesOutcome s b (s.received (s.inboundCiphertext ++ b)) [.readTransport s.connId]
  | record {hdr : Parse.ValidRecordHeader} {body rest : Bytes} {s' : State}
      {acts : List OutputAction} (hh : headOf (s.inboundCiphertext ++ b) = .record hdr body rest)
      (h : RecordOutcome (s.received rest) hdr body s' acts) : BytesOutcome s b s' acts

theorem classifyCcs_eq_allowedCompat {body : Bytes} :
    classifyCcs body = .allowedCompat ↔ body = [1] := by
  match body with
  | [] => simp [classifyCcs]
  | [b] => by_cases h : b = 1 <;> simp [classifyCcs, h]
  | _ :: _ :: _ => simp [classifyCcs]

/-- A protected record is opened in the phases that open records, and goes unread in the others. -/
theorem routeRecord_applicationData (s : State) {hdr : Parse.ValidRecordHeader} (body : Bytes)
    (ht : hdr.outerType = .applicationData) :
    ∃ s' acts, routeRecord s hdr body = .ok (s', acts) ∧ RecordOutcome s hdr body s' acts := by
  rw [routeRecord, ht]
  by_cases hconn : s.handshake = .connected
  · have hphase : s.handshake.opensRecords := .inl hconn
    simp only [hconn, HandshakeState.isConnected_iff, if_true]
    rw [allocOpOrFail_eq]
    by_cases hroom : s.hasOpRoom
    · rw [if_pos hroom]
      exact ⟨_, _, rfl, .opens ht hphase hroom (by simp [hconn])⟩
    · rw [if_neg hroom]
      exact ⟨_, _, rfl, .noRoom ht hphase hroom⟩
  · simp only [HandshakeState.isConnected_iff, hconn, if_false]
    by_cases hssf : s.handshake = .sentServerFinished
    · have hphase : s.handshake.opensRecords := .inr hssf
      rw [if_pos hssf, allocOpOrFail_eq]
      by_cases hroom : s.hasOpRoom
      · rw [if_pos hroom]
        exact ⟨_, _, rfl, .opens ht hphase hroom (by simp [hssf])⟩
      · rw [if_neg hroom]
        exact ⟨_, _, rfl, .noRoom ht hphase hroom⟩
    · rw [if_neg hssf]
      refine ⟨_, _, rfl, .unread ht ?_⟩
      simp [HandshakeState.opensRecords, hconn, hssf]

/-- A change_cipher_spec is ignored if it is the compatibility record in its window. -/
theorem routeRecord_changeCipherSpec (s : State) (hlive : s.handshake.isTerminal = false)
    {hdr : Parse.ValidRecordHeader} (body : Bytes) (ht : hdr.outerType = .changeCipherSpec) :
    ∃ s' acts, routeRecord s hdr body = .ok (s', acts) ∧ RecordOutcome s hdr body s' acts := by
  rw [routeRecord, ht]
  dsimp only
  by_cases hwin : s.handshake.ccsWindow
  · obtain ⟨h1, h2, h3, h4⟩ := hwin
    have hguard : (s.handshake = .start || s.handshake.isConnected || s.handshake = .closing ||
        s.handshake.isTerminal) = false := by
      simp [h1, h3, h4, HandshakeState.isConnected_eq_false, h2]
    rw [hguard]
    cases hcls : classifyCcs body with
    | allowedCompat =>
      exact ⟨_, _, rfl, .ccsIgnored ht ⟨h1, h2, h3, h4⟩ (classifyCcs_eq_allowedCompat.mp hcls)⟩
    | rejected =>
      refine ⟨_, _, rfl, .ccsRefused ht fun h ↦ ?_⟩
      rw [classifyCcs_eq_allowedCompat.mpr h.2] at hcls
      cases hcls
  · have hguard : (s.handshake = .start || s.handshake.isConnected || s.handshake = .closing ||
        s.handshake.isTerminal) = true := by
      simp only [HandshakeState.ccsWindow] at hwin
      simp
      tauto
    rw [hguard]
    exact ⟨_, _, rfl, .ccsRefused ht fun h ↦ hwin h.1⟩

/-- A handshake fragment is charged and buffered, and handed on once it completes a message. -/
theorem routeRecord_handshake (s : State) {hdr : Parse.ValidRecordHeader} (body : Bytes)
    (ht : hdr.outerType = .handshake) :
    ∃ s' acts, routeRecord s hdr body = .ok (s', acts) ∧ RecordOutcome s hdr body s' acts := by
  rw [routeRecord, ht]
  dsimp only
  rw [chargeHandshakeBytes]
  by_cases hbudget : s.budgets.handshakeBytesSeen + body.length ≤
      s.serverConfig.limits.maxHandshakeBytes
  · rw [if_neg (Nat.not_lt.mpr hbudget)]
    dsimp only
    by_cases hbuf : (s.handshakeReasm ++ body).length ≤ maxHandshakeReasmBytes
    · rw [if_neg (Nat.not_lt.mpr hbuf)]
      cases hframe : frameHandshakeMessage (s.handshakeReasm ++ body) with
      | none => exact ⟨_, _, rfl, .hsPartial ht ⟨hbudget, hbuf⟩ hframe⟩
      | some p =>
        obtain ⟨msg, tail⟩ := p
        obtain ⟨s', acts, hres, -⟩ :=
          handshakeOnPlaintextRecord_moves (s.reassembled body.length tail) msg
        exact ⟨s', acts, hres, .hsMessage ht ⟨hbudget, hbuf⟩ hframe hres⟩
    · rw [if_pos (Nat.not_le.mp hbuf)]
      exact ⟨_, _, rfl, .hsRefused ht (fun h ↦ hbuf h.2) rfl⟩
  · rw [if_pos (Nat.not_le.mp hbudget)]
    exact ⟨_, _, rfl, .hsRefused (n := 0) ht (fun h ↦ hbudget h.1) rfl⟩

theorem routeRecord_outcome (s : State) (hlive : s.handshake.isTerminal = false)
    (hdr : Parse.ValidRecordHeader) (body : Bytes) :
    ∃ s' acts, routeRecord s hdr body = .ok (s', acts) ∧ RecordOutcome s hdr body s' acts := by
  cases ht : hdr.outerType with
  | applicationData => exact routeRecord_applicationData s body ht
  | changeCipherSpec => exact routeRecord_changeCipherSpec s hlive body ht
  | handshake => exact routeRecord_handshake s body ht
  | alert =>
    rw [routeRecord, ht]
    obtain ⟨s', acts, hres, h⟩ := onInboundAlert_outcome s body
    exact ⟨s', acts, hres, .alert ht h⟩
  | invalid =>
    rw [routeRecord, ht]
    exact ⟨_, _, rfl, .invalid ht⟩

theorem handleTransportBytes_outcome (s : State) (hlive : s.handshake.isTerminal = false)
    (b : Bytes) :
    ∃ s' acts, handleTransportBytes s b = .ok (s', acts) ∧ BytesOutcome s b s' acts := by
  rw [handleTransportBytes]
  dsimp only
  cases htake : (Parse.Reader.ofBytes (s.inboundCiphertext ++ b)).tryTakeRecord with
  | error e => exact ⟨_, _, rfl, .malformed (by rw [headOf, htake])⟩
  | ok p =>
    obtain ⟨head, r'⟩ := p
    cases head with
    | none => exact ⟨_, _, rfl, .awaiting (by rw [headOf, htake])⟩
    | some rec =>
      obtain ⟨hdr, body⟩ := rec
      obtain ⟨s', acts, hres, h⟩ := routeRecord_outcome
        (s.received (r'.input.extract r'.offset r'.input.length)) hlive hdr body
      exact ⟨s', acts, hres, .record (by rw [headOf, htake]) h⟩

/-! ## Crypto results -/

/-- The inner types that an opened record may have without the step looking at the read sequence
number: handshake, change_cipher_spec and unknown types once connected, change_cipher_spec before
that. -/
def HandshakeState.skipsInner (h : HandshakeState) (t : ContentType) : Prop :=
  t = .changeCipherSpec ∨ (h = .connected ∧ (t = .handshake ∨ t = .invalid))

instance (h : HandshakeState) (t : ContentType) : Decidable (h.skipsInner t) :=
  inferInstanceAs (Decidable (_ ∨ _))

/-- The state after an opened record was accounted for. -/
def State.advanced (s : State) (op : OperationId) (sq : SeqNo) : State :=
  { s.clearOp op with readEpoch := { s.readEpoch with seq := sq } }

/-- What the inner content of an opened record does. -/
inductive InnerOutcome (s : State) (op : OperationId) : TLSInnerPlaintext → State →
    List OutputAction → Prop
  | data {inner : TLSInnerPlaintext} {sq : SeqNo} (ht : inner.ctype = .applicationData)
      (hphase : s.handshake = .connected) (hseq : s.readEpoch.seq.next = some sq) :
      InnerOutcome s op inner { s.advanced op sq with pendingPlainOut := some inner.content } []
  | message {inner : TLSInnerPlaintext} {sq : SeqNo} {s' : State} {acts : List OutputAction}
      (ht : inner.ctype = .handshake) (hphase : s.handshake ≠ .connected)
      (hseq : s.readEpoch.seq.next = some sq)
      (hres : handshakeOnPlaintextRecord (s.advanced op sq) inner.content = .ok (s', acts)) :
      InnerOutcome s op inner s' acts
  | overflow {inner : TLSInnerPlaintext} (ht : inner.ctype =
        if s.handshake = .connected then .applicationData else .handshake)
      (hseq : s.readEpoch.seq.next = none) :
      InnerOutcome s op inner (s.fail .internalError)
        (failActions s .internalError (.protocol .sequenceOverflow))
  | earlyData {inner : TLSInnerPlaintext} (ht : inner.ctype = .applicationData)
      (hphase : s.handshake ≠ .connected) :
      InnerOutcome s op inner (s.fail .unexpectedMessage)
        (failActions s .unexpectedMessage (.protocol .illegalMessageForState))
  | invalid {inner : TLSInnerPlaintext} (ht : inner.ctype = .invalid)
      (hphase : s.handshake ≠ .connected) :
      InnerOutcome s op inner (s.fail .unexpectedMessage)
        (failActions s .unexpectedMessage (.parse .invalidContentType))
  | alert {inner : TLSInnerPlaintext} {s' : State} {acts : List OutputAction}
      (ht : inner.ctype = .alert) (h : AlertOutcome (s.clearOp op) inner.content s' acts) :
      InnerOutcome s op inner s' acts
  | skipped {inner : TLSInnerPlaintext} (ht : s.handshake.skipsInner inner.ctype) :
      InnerOutcome s op inner (s.clearOp op) []

/-- What the result of an outstanding operation does. -/
inductive ResultOutcome (s : State) (op : OperationId) : CryptoResult → State →
    List OutputAction → Prop
  | unparsed {pt : Bytes} {e : Parse.ParseError} (hp : parseInnerPlaintext pt = .error e) :
      ResultOutcome s op (.aeadOpened pt) (s.fail (alertForParseError e.toPublic))
        (failActions s (alertForParseError e.toPublic) (.parse e.toPublic))
  | opened {pt : Bytes} {inner : TLSInnerPlaintext} {s' : State} {acts : List OutputAction}
      (hp : parseInnerPlaintext pt = .ok inner) (h : InnerOutcome s op inner s' acts) :
      ResultOutcome s op (.aeadOpened pt) s' acts
  | sealed {ct : Bytes} :
      ResultOutcome s op (.aeadSealed ct)
        { s.clearOp op with outboundCiphertext := s.outboundCiphertext ++ ct }
        (.writeTransport s.connId ct :: if s.closeState = .sentCloseNotify
          then [.closeTransport s.connId .graceful] else [])
  | verifyFailed :
      ResultOutcome s op .verifyFailed ((s.clearOp op).fail .badRecordMac)
        (failActions s .badRecordMac (.crypto .authFailed))
  | failed {e : CryptoError} :
      ResultOutcome s op (.failed e)
        ((s.clearOp op).fail ((alertForCryptoFailure e).getD .internalError))
        (failActions s ((alertForCryptoFailure e).getD .internalError) (.crypto e))
  | gating {r : CryptoResult} {s' : State} {acts : List OutputAction}
      (hr : (∀ pt, r ≠ .aeadOpened pt) ∧ (∀ ct, r ≠ .aeadSealed ct) ∧ r ≠ .verifyFailed ∧
        ∀ e, r ≠ .failed e)
      (hres : handshakeOnGatingResult s op r = .ok (s', acts)) : ResultOutcome s op r s' acts

theorem handleInner_outcome (s : State) (op : OperationId) (pt : Bytes) :
    ∃ s' acts, handleCryptoResultCorrelated s op (.aeadOpened pt) = .ok (s', acts) ∧
      ResultOutcome s op (.aeadOpened pt) s' acts := by
  rw [handleCryptoResultCorrelated]
  dsimp only
  cases hp : parseInnerPlaintext pt with
  | error e =>
    refine ⟨_, _, ?_, .unparsed hp⟩
    dsimp only
    split <;> rfl
  | ok inner =>
    dsimp only
    by_cases hconn : s.handshake = .connected
    · rw [if_pos (by simp [hconn])]
      cases ht : inner.ctype with
      | applicationData =>
        dsimp only
        cases hseq : s.readEpoch.seq.next with
        | none => exact ⟨_, _, rfl, .opened hp (.overflow (by simp [ht, hconn]) hseq)⟩
        | some sq => exact ⟨_, _, rfl, .opened hp (.data ht hconn hseq)⟩
      | alert =>
        obtain ⟨s', acts, hres, h⟩ := onInboundAlert_outcome (s.clearOp op) inner.content
        exact ⟨s', acts, hres, .opened hp (.alert ht h)⟩
      | handshake =>
        exact ⟨_, _, rfl, .opened hp (.skipped (by simp [HandshakeState.skipsInner, ht, hconn]))⟩
      | changeCipherSpec =>
        exact ⟨_, _, rfl, .opened hp (.skipped (by simp [HandshakeState.skipsInner, ht]))⟩
      | invalid =>
        exact ⟨_, _, rfl, .opened hp (.skipped (by simp [HandshakeState.skipsInner, ht, hconn]))⟩
    · rw [if_neg (by simp [hconn])]
      cases ht : inner.ctype with
      | applicationData => exact ⟨_, _, rfl, .opened hp (.earlyData ht hconn)⟩
      | alert =>
        obtain ⟨s', acts, hres, h⟩ := onInboundAlert_outcome (s.clearOp op) inner.content
        exact ⟨s', acts, hres, .opened hp (.alert ht h)⟩
      | handshake =>
        dsimp only
        cases hseq : s.readEpoch.seq.next with
        | none => exact ⟨_, _, rfl, .opened hp (.overflow (by simp [ht, hconn]) hseq)⟩
        | some sq =>
          obtain ⟨s', acts, hres, -⟩ :=
            handshakeOnPlaintextRecord_moves (s.advanced op sq) inner.content
          exact ⟨s', acts, hres, .opened hp (.message ht hconn hseq hres)⟩
      | changeCipherSpec =>
        exact ⟨_, _, rfl, .opened hp (.skipped (by simp [HandshakeState.skipsInner, ht]))⟩
      | invalid => exact ⟨_, _, rfl, .opened hp (.invalid ht hconn)⟩

theorem handleCryptoResultCorrelated_outcome (s : State) (op : OperationId) (r : CryptoResult) :
    ∃ s' acts, handleCryptoResultCorrelated s op r = .ok (s', acts) ∧
      ResultOutcome s op r s' acts := by
  have hgate : ∀ r', handleCryptoResultCorrelated s op r' = handshakeOnGatingResult s op r' →
      ((∀ pt, r' ≠ .aeadOpened pt) ∧ (∀ ct, r' ≠ .aeadSealed ct) ∧ r' ≠ .verifyFailed ∧
        ∀ e, r' ≠ .failed e) →
      ∃ s' acts, handleCryptoResultCorrelated s op r' = .ok (s', acts) ∧
        ResultOutcome s op r' s' acts := by
    intro r' heq hr
    obtain ⟨s', acts, hres, -⟩ := handshakeOnGatingResult_moves s op r'
    exact ⟨s', acts, heq.trans hres, .gating hr hres⟩
  cases r with
  | aeadOpened pt => exact handleInner_outcome s op pt
  | aeadSealed ct => exact ⟨_, _, rfl, .sealed⟩
  | verifyFailed => exact ⟨_, _, rfl, .verifyFailed⟩
  | failed e => exact ⟨_, _, rfl, .failed⟩
  | randomBytes b => exact hgate _ rfl (by simp)
  | finishedMac vd => exact hgate _ rfl (by simp)
  | ecdheComplete srv h => exact hgate _ rfl (by simp)
  | hkdfSecret d => exact hgate _ rfl (by simp)
  | keysInstalled => exact hgate _ rfl (by simp)
  | signature sig => exact hgate _ rfl (by simp)
  | verified => exact hgate _ rfl (by simp)

/-! ## The whole step -/

/-- The state after sealing one more record. -/
def State.sealing (s : State) (sq : SeqNo) : State :=
  { s.withOp .aeadSeal .application (some .write) with
    writeEpoch := { s.writeEpoch with seq := sq } }

/-- What an event does in a live state. -/
inductive Outcome (s : State) : InputEvent → State → List OutputAction → Prop
  | bytes {c : ConnId} {b : Bytes} {s' : State} {acts : List OutputAction}
      (h : BytesOutcome s b s' acts) : Outcome s (.transportBytes c b) s' acts
  | stale {c : ConnId} {op : OperationId} {r : CryptoResult}
      (h : s.pendingOps.contains op = false) : Outcome s (.cryptoResult c op r) s []
  | result {c : ConnId} {op : OperationId} {r : CryptoResult} {s' : State}
      {acts : List OutputAction} (hop : s.pendingOps.contains op = true)
      (h : ResultOutcome s op r s' acts) : Outcome s (.cryptoResult c op r) s' acts
  | deliver {c : ConnId} {b : Bytes} (hphase : s.handshake = .connected)
      (hp : s.pendingPlainOut = some b) :
      Outcome s (.appRecvRequested c) { s with pendingPlainOut := none }
        [.emitPlaintext s.connId b]
  | noDelivery {c : ConnId} (h : s.handshake = .connected → s.pendingPlainOut = none) :
      Outcome s (.appRecvRequested c) s []
  | send {c : ConnId} {b : Bytes} {sq : SeqNo} (hphase : s.handshake = .connected)
      (hseq : s.writeEpoch.seq.next = some sq) (hroom : s.hasOpRoom) :
      Outcome s (.appSend c b) (s.sealing sq)
        [.callCrypto s.connId ⟨s.nextOpId⟩ (.aeadSeal (writeMeta s) []
            (b.extract 0 (min b.length maxPlaintextFragment) ++
              [ContentType.applicationData.toByte])),
          .acceptPlaintextBytes s.connId (min b.length maxPlaintextFragment)]
  | sendRefused {c : ConnId} {b : Bytes} {a : AlertDescription} {e : TlsError}
      (h : ¬ (s.handshake = .connected ∧ s.writeEpoch.seq.next.isSome ∧ s.hasOpRoom))
      (ha : alertLevel a = .fatal) :
      Outcome s (.appSend c b) (s.fail a) (failActions s a e)
  | closeNotify {c : ConnId} {sq : SeqNo} (hopen : s.closeState = .open)
      (hphase : s.handshake = .connected) (hseq : s.writeEpoch.seq.next = some sq)
      (hroom : s.hasOpRoom) :
      Outcome s (.appClose c .graceful)
        { s.sealing sq with handshake := .closing, closeState := .sentCloseNotify
                            pendingPlainOut := none }
        [.callCrypto s.connId ⟨s.nextOpId⟩ (.aeadSeal (writeMeta s) []
          [1, 0, ContentType.alert.toByte])]
  | closeNotifyRefused {c : ConnId} {a : AlertDescription} {e : TlsError}
      (hopen : s.closeState = .open) (hphase : s.handshake = .connected)
      (h : ¬ (s.writeEpoch.seq.next.isSome ∧ s.hasOpRoom)) (ha : alertLevel a = .fatal) :
      Outcome s (.appClose c .graceful) (s.fail a) (failActions s a e)
  | closeEarly {c : ConnId} (hopen : s.closeState = .open) (hphase : s.handshake ≠ .connected) :
      Outcome s (.appClose c .graceful)
        { s with handshake := .closing, closeState := .sentCloseNotify, pendingPlainOut := none }
        [.closeTransport s.connId .graceful]
  | closeFatal {c : ConnId} {a : AlertDescription} (hopen : s.closeState = .open) :
      Outcome s (.appClose c (.fatal a)) (s.fail a)
        [.writeAlert s.connId s.writeEpoch.epoch s.writeEpoch.seq.value a,
          .failWithAlert s.connId a, .closeTransport s.connId (.fatal a)]
  | closeAbortive {c : ConnId} (hopen : s.closeState = .open) :
      Outcome s (.appClose c .abortive)
        { s with handshake := .closed, closeState := .transportClosed, pendingPlainOut := none }
        [.closeTransport s.connId .abortive]
  | reclose {c : ConnId} {mode : CloseMode} (hopen : s.closeState ≠ .open) :
      Outcome s (.appClose c mode) s [.closeTransport s.connId mode]
  | eof {c : ConnId} :
      Outcome s (.transportEof c)
        { s with handshake := .failed .closeNotify, closeState := .transportEofBeforeCloseNotify
                 pendingPlainOut := none }
        [.reportError s.connId (.transport .eofBeforeCloseNotify)]
  | timeout {c : ConnId} {kind : TimeoutKind} :
      Outcome s (.timeout c kind) (s.fail .internalError)
        (failActions s .internalError (.resourceLimit .handshakeTimeout))
  | readable {c : ConnId} : Outcome s (.transportReadable c) s [.readTransport s.connId]
  | writable {c : ConnId} : Outcome s (.transportWritable c) s []
  | flush {c : ConnId} : Outcome s (.appFlush c) s []

theorem handleAppSend_outcome {s : State} (c : ConnId) (hconn : s.handshake = .connected)
    (b : Bytes) :
    ∃ s' acts, handleAppSend s b = .ok (s', acts) ∧ Outcome s (.appSend c b) s' acts := by
  rw [handleAppSend]
  cases hseq : s.writeEpoch.seq.next with
  | none => exact ⟨_, _, rfl, .sendRefused (by simp [hseq]) rfl⟩
  | some sq =>
    dsimp only
    rw [allocOpOrFail_eq]
    by_cases hroom : s.hasOpRoom
    · rw [if_pos hroom]
      exact ⟨_, _, rfl, .send hconn hseq hroom⟩
    · rw [if_neg hroom]
      exact ⟨_, _, rfl, .sendRefused (fun h ↦ hroom h.2.2) rfl⟩

theorem step_appClose_outcome {s : State} (hlive : s.handshake.isTerminal = false) (c : ConnId)
    (mode : CloseMode) :
    ∃ s' acts, step s (.appClose c mode) = .ok (s', acts) ∧
      Outcome s (.appClose c mode) s' acts := by
  rw [step.eq_def, if_neg (by simp [hlive])]
  dsimp only
  by_cases hopen : s.closeState = .open
  · rw [if_pos hopen]
    cases mode with
    | graceful =>
      dsimp only
      split
      · rename_i hconn
        cases hseq : s.writeEpoch.seq.next with
        | none => exact ⟨_, _, rfl, .closeNotifyRefused hopen hconn (by simp [hseq]) rfl⟩
        | some sq =>
          dsimp only
          rw [allocOpOrFail_eq]
          by_cases hroom : s.hasOpRoom
          · rw [if_pos hroom]
            exact ⟨_, _, rfl, .closeNotify hopen hconn hseq hroom⟩
          · rw [if_neg hroom]
            exact ⟨_, _, rfl, .closeNotifyRefused hopen hconn (fun h ↦ hroom h.2) rfl⟩
      · rename_i hconn
        exact ⟨_, _, rfl, .closeEarly hopen hconn⟩
    | fatal a => exact ⟨_, _, rfl, .closeFatal hopen⟩
    | abortive => exact ⟨_, _, rfl, .closeAbortive hopen⟩
  · rw [if_neg hopen]
    exact ⟨_, _, rfl, .reclose hopen⟩

/-! ## Failing

The core fails in one way: it marks the failure, and transmits a fatal alert. -/

/-- The connection failed with a fatal alert of its own, and transmits it. -/
def FailsFatally (s' : State) (acts : List OutputAction) : Prop :=
  ∃ a, s'.handshake = .failed a ∧ s'.closeState = .fatalSent a ∧ alertLevel a = .fatal ∧
    ∃ c e q, .writeAlert c e q a ∈ acts

theorem failsFatally_fail (s s₀ : State) {a : AlertDescription} (e : TlsError)
    (ha : alertLevel a = .fatal) : FailsFatally (s₀.fail a) (failActions s a e) :=
  ⟨a, rfl, rfl, ha, _, _, _, List.mem_cons_self⟩

theorem FailsFatally.isTerminal {s' : State} {acts : List OutputAction} (h : FailsFatally s' acts) :
    s'.handshake.isTerminal = true := by
  obtain ⟨a, hphase, -⟩ := h
  rw [hphase]
  rfl

theorem not_failsFatally_of_live {s' : State} {acts : List OutputAction}
    (h : s'.handshake.isTerminal = false) : ¬ FailsFatally s' acts :=
  fun hfail ↦ absurd hfail.isTerminal (by simp [h])

/-! ## Steps -/

/-- **One step.**  In a live state `step` returns, and what it returns is an outcome. -/
theorem step_outcome {s : State} (hlive : s.handshake.isTerminal = false) (ev : InputEvent) :
    ∃ s' acts, step s ev = .ok (s', acts) ∧ Outcome s ev s' acts := by
  cases ev with
  | appClose c mode => exact step_appClose_outcome hlive c mode
  | transportBytes c b =>
    rw [step, if_neg (by simp [hlive])]
    obtain ⟨s', acts, hres, h⟩ := handleTransportBytes_outcome s hlive b
    exact ⟨s', acts, hres, .bytes h⟩
  | cryptoResult c op r =>
    rw [step, if_neg (by simp [hlive])]
    rw [handleCryptoResult]
    cases hop : s.pendingOps.contains op with
    | false => exact ⟨_, _, rfl, .stale hop⟩
    | true =>
      obtain ⟨s', acts, hres, h⟩ := handleCryptoResultCorrelated_outcome s op r
      exact ⟨s', acts, hres, .result hop h⟩
  | appRecvRequested c =>
    rw [step, if_neg (by simp [hlive])]
    by_cases hconn : s.handshake = .connected
    · rw [if_pos (by simp [hconn])]
      cases hp : s.pendingPlainOut with
      | none => exact ⟨_, _, rfl, .noDelivery fun _ ↦ hp⟩
      | some b => exact ⟨_, _, rfl, .deliver hconn hp⟩
    · rw [if_neg (by simp [hconn])]
      exact ⟨_, _, rfl, .noDelivery fun h ↦ absurd h hconn⟩
  | appSend c b =>
    rw [step, if_neg (by simp [hlive])]
    by_cases hconn : s.handshake = .connected
    · rw [if_pos (by simp [hconn])]
      exact handleAppSend_outcome c hconn b
    · rw [if_neg (by simp [hconn])]
      exact ⟨_, _, rfl, .sendRefused (fun h ↦ hconn h.1) rfl⟩
  | transportEof c =>
    rw [step, if_neg (by simp [hlive])]
    exact ⟨_, _, rfl, .eof⟩
  | timeout c kind =>
    rw [step, if_neg (by simp [hlive])]
    exact ⟨_, _, rfl, .timeout⟩
  | transportReadable c =>
    rw [step, if_neg (by simp [hlive])]
    exact ⟨_, _, rfl, .readable⟩
  | transportWritable c =>
    rw [step, if_neg (by simp [hlive])]
    exact ⟨_, _, rfl, .writable⟩
  | appFlush c =>
    rw [step, if_neg (by simp [hlive])]
    exact ⟨_, _, rfl, .flush⟩

/-- A terminal phase absorbs every event. -/
theorem step_terminal {s : State} (h : s.handshake.isTerminal = true) (ev : InputEvent) :
    step s ev = .ok (s, []) := by
  rw [step.eq_def, if_pos h, absorbTerminal]

/-- `step` always returns. -/
theorem step_total (s : State) (ev : InputEvent) : ∃ s' acts, step s ev = .ok (s', acts) := by
  cases hlive : s.handshake.isTerminal with
  | true => exact ⟨s, [], step_terminal hlive ev⟩
  | false =>
    obtain ⟨s', acts, hres, -⟩ := step_outcome hlive ev
    exact ⟨s', acts, hres⟩

/-! ## Runs of the core -/

/-- One step of the core. -/
abbrev CoreStep := Machine.Transition State InputEvent (List OutputAction)

/-- A step of a run that starts in a live state is an outcome. -/
theorem outcome_of_steps {t : CoreStep} (ht : Machine.Steps step t)
    (hlive : t.source.handshake.isTerminal = false) :
    Outcome t.source t.input t.target t.output := by
  obtain ⟨s', acts, hres, h⟩ := step_outcome hlive t.input
  obtain ⟨rfl, rfl⟩ := Prod.mk.inj (Except.ok.inj (hres.symm.trans ht))
  exact h

theorem target_of_terminal {t : CoreStep} (ht : Machine.Steps step t)
    (h : t.source.handshake.isTerminal = true) : t.target = t.source ∧ t.output = [] := by
  obtain ⟨hs, ho⟩ := Prod.mk.inj (Except.ok.inj ((step_terminal h t.input).symm.trans ht))
  exact ⟨hs.symm, ho.symm⟩

/-- A run of the core from a fresh connection with any configuration. -/
def CoreRun (conn : ConnId) (gen : ConfigGeneration) (alg : HashAlgorithm)
    (config : ValidatedServerConfig) (tr : List CoreStep) (s : State) : Prop :=
  Machine.Run step (State.initialWith conn gen alg config) tr s

end Kroopt.Core
