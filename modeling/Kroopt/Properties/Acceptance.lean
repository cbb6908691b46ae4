import Kroopt.Properties.LocalClose
import Kroopt.Properties.Negotiation
import Kroopt.Properties.ReadSequence

/-!
# The acceptance matrix

The matrix says what a live connection is to do with every record and every opened content, by
phase and read epoch: accept the message the phase expects, ignore the compatibility
change_cipher_spec, and fail everything else with a fatal alert.  `State.recordDecision` and
`State.innerDecision` are that matrix, stated on its own; `Conforms t` compares a step of the core
with it.

The core looks at fewer things than the matrix, so there are cells in which it goes on where it
should fail.  `State.recordDeviates` and `State.innerDeviates` list them, by outer and by inner
type.

## Main definitions

* `State.expectsRecord` and `State.expectsContent`: what a phase expects of a record, with its
  version, and of an opened content.  In `start` that is a fragment of one ClientHello, and before
  `connected` one whole Finished message.
* `State.ignoresRecord`: the one cell that ignores.
* `RecordProcessed` and `ContentProcessed`: what it is to take the expected message.
* `FollowsRecord` and `FollowsContent`: the outcome is that of the matrix.  `FollowsMatrix` adds
  what is outside it: a refused header and a content without a type fail the connection.
* `Deviates`: the step is in one of the cells where the core goes on.

## Main results

* `RecordOutcome.follows_iff`: a framed record has the outcome of the matrix exactly if it is in
  none of the listed cells, one lemma for each outer type.
* `InnerOutcome.follows_iff`: the same for an opened content.
* `conforms_iff`: the list is complete along every run.

What the core admits as a ClientHello is `State.admitsHello`, the characterisation of what it
negotiates.
-/

set_option autoImplicit false

namespace Kroopt.Core

open Kroopt.Parse (headOf parseInnerPlaintext)

/-! ## The matrix

The matrix is a function of the state and of what arrived, with three values.  What is expected is
written as a predicate for each type, so that it can be compared with the specification of the
phase. -/

/-- A cell of the matrix. -/
inductive Decision
  | accept
  | ignore
  | fatal
  deriving DecidableEq

namespace State

/-- The legacy version is that of TLS 1.3, or the older one on the first record of the
ClientHello. -/
def allowsVersion (s : State) (hdr : Parse.ValidRecordHeader) : Prop :=
  hdr.legacyVersion = 0x0303 ∨
    (hdr.legacyVersion = 0x0301 ∧ hdr.outerType = .handshake ∧ s.handshake = .start ∧
      s.handshakeReasm = [])

/-- The fragment is a part of a ClientHello: it is not empty, and the message that it begins or goes
on with has the type of one. -/
def continuesHello (s : State) (body : Bytes) : Prop :=
  body ≠ [] ∧ (s.handshakeReasm ++ body).head? = some 1

/-- The bytes behind the handshake message that a fragment completes. -/
def leftover (s : State) (body : Bytes) : Bytes :=
  ((frameHandshakeMessage (s.handshakeReasm ++ body)).map (·.2)).getD []

/-- The body is what the phase expects under an outer type: a fragment of exactly one ClientHello, a
protected record where the phase opens one, or a fatal alert before read protection is installed. -/
def expectsBody (s : State) (body : Bytes) : ContentType → Prop
  | .handshake => s.handshake = .start ∧ s.continuesHello body ∧ s.leftover body = []
  | .applicationData => s.handshake.opensRecords
  | .alert => s.readEpoch.epoch = .initial ∧ s.handshake ≠ .closing ∧ body.getD 1 0 ≠ 0
  | _ => False

def expectsRecord (s : State) (hdr : Parse.ValidRecordHeader) (body : Bytes) : Prop :=
  s.allowsVersion hdr ∧ s.expectsBody body hdr.outerType

/-- The record is the compatibility change_cipher_spec, between the ClientHello and the client
Finished. -/
def ignoresRecord (s : State) (hdr : Parse.ValidRecordHeader) (body : Bytes) : Prop :=
  s.allowsVersion hdr ∧ hdr.outerType = .changeCipherSpec ∧ body = [1] ∧
    s.handshake.ccsWindow ∧ s.handshake ≠ .requestedClientFinishedVerify

/-- The content is one whole Finished message: the type, a length, as many bytes, and nothing behind
them. -/
def isFinished (content : Bytes) : Prop :=
  content.head? = some 20 ∧ frameHandshakeMessage content = some (content, [])

/-- The inner content is what the phase expects under an inner type: application data once
connected, the client Finished before that, or an alert.  A close_notify is expected only of a
connected peer, and of one that has been sent ours. -/
def expectsContent (s : State) (content : Bytes) : ContentType → Prop
  | .applicationData => s.handshake = .connected
  | .handshake => s.handshake = .sentServerFinished ∧ isFinished content
  | .alert =>
    s.handshake = .connected ∨ (s.handshake = .closing ∧ s.closeState = .sentCloseNotify) ∨
      (s.handshake ≠ .closing ∧ content.getD 1 0 ≠ 0)
  | _ => False

instance (content : Bytes) : Decidable (isFinished content) := inferInstanceAs (Decidable (_ ∧ _))

instance (s : State) (body : Bytes) : Decidable (s.continuesHello body) :=
  inferInstanceAs (Decidable (_ ∧ _))

instance (s : State) (hdr : Parse.ValidRecordHeader) : Decidable (s.allowsVersion hdr) :=
  inferInstanceAs (Decidable (_ ∨ _))

instance (s : State) (body : Bytes) : (t : ContentType) → Decidable (s.expectsBody body t)
  | .handshake => inferInstanceAs (Decidable (_ ∧ _))
  | .applicationData => inferInstanceAs (Decidable (_ ∨ _))
  | .alert => inferInstanceAs (Decidable (_ ∧ _))
  | .changeCipherSpec => inferInstanceAs (Decidable False)
  | .invalid => inferInstanceAs (Decidable False)

instance (s : State) (hdr : Parse.ValidRecordHeader) (body : Bytes) :
    Decidable (s.expectsRecord hdr body) := inferInstanceAs (Decidable (_ ∧ _))

instance (h : HandshakeState) : Decidable h.ccsWindow := inferInstanceAs (Decidable (_ ∧ _))

instance (s : State) (hdr : Parse.ValidRecordHeader) (body : Bytes) :
    Decidable (s.ignoresRecord hdr body) := inferInstanceAs (Decidable (_ ∧ _))

instance (s : State) (content : Bytes) : (t : ContentType) → Decidable (s.expectsContent content t)
  | .handshake => inferInstanceAs (Decidable (_ ∧ _))
  | .applicationData => inferInstanceAs (Decidable (s.handshake = .connected))
  | .alert => inferInstanceAs (Decidable (_ ∨ _))
  | .changeCipherSpec => inferInstanceAs (Decidable False)
  | .invalid => inferInstanceAs (Decidable False)

/-- The matrix, for a framed record. -/
def recordDecision (s : State) (hdr : Parse.ValidRecordHeader) (body : Bytes) : Decision :=
  if s.expectsRecord hdr body then .accept
  else if s.ignoresRecord hdr body then .ignore
  else .fatal

/-- The matrix, for the content of an opened record. -/
def innerDecision (s : State) (inner : TLSInnerPlaintext) : Decision :=
  if s.expectsContent inner.content inner.ctype then .accept else .fatal

end State

/-! ## Following the matrix -/

/-- The description that an alert carries. -/
def alertOf (body : Bytes) : AlertDescription :=
  (AlertDescription.ofByte (body.getD 1 0)).getD .internalError

/-- The state records the abort by the peer that an alert reports. -/
def RecordsAbort (body : Bytes) (s' : State) : Prop :=
  s'.handshake = .failed (alertOf body) ∧ s'.closeState = .fatalReceived (alertOf body)

/-- The record was processed as the expected message: the fragment was kept, or the ClientHello that
it completes joined the transcript; the record was handed to the provider; or the peer's abort was
recorded. -/
def RecordProcessed (s : State) (body : Bytes) (s' : State) (acts : List OutputAction) :
    ContentType → Prop
  | .handshake =>
    (frameHandshakeMessage (s.handshakeReasm ++ body) = none ∧ s'.handshake = .start ∧
        s'.handshakeReasm = s.handshakeReasm ++ body ∧ acts = [.readTransport s.connId]) ∨
      ∃ msg, frameHandshakeMessage (s.handshakeReasm ++ body) = some (msg, []) ∧
        s'.handshake = .requestedServerRandom ∧
        s'.transcript.events = s.transcript.events ++ [committed .clientHello .read msg]
  | .applicationData =>
    ∃ op, acts = [.callCrypto s.connId op (.aeadOpen (readMeta s) [] body)] ∧ s'.awaits op .aeadOpen
  | .alert => RecordsAbort body s'
  | _ => False

/-- The content was processed as the expected message: the plaintext was buffered, the client
Finished handed to the provider, or the peer's close or abort recorded. -/
def ContentProcessed (content : Bytes) (s' : State) : ContentType → Prop
  | .applicationData => s'.handshake = .connected ∧ s'.pendingPlainOut = some content
  | .handshake => s'.handshake = .requestedClientFinishedVerify ∧
      s'.pendingClientFinished = some content
  | .alert =>
    (content.getD 1 0 = 0 ∧ s'.handshake = .closing ∧ s'.closeState = .receivedCloseNotify) ∨
      (content.getD 1 0 ≠ 0 ∧ RecordsAbort content s')
  | _ => False

/-- The outcome of a framed record is the matrix's. -/
def FollowsRecord (s : State) (hdr : Parse.ValidRecordHeader) (body : Bytes) (s' : State)
    (acts : List OutputAction) : Prop :=
  match s.recordDecision hdr body with
  | .accept => RecordProcessed s body s' acts hdr.outerType ∨ FailsFatally s' acts
  | .ignore => s' = s ∧ acts = []
  | .fatal => FailsFatally s' acts

/-- The outcome of an opened content is the matrix's. -/
def FollowsContent (s : State) (inner : TLSInnerPlaintext) (s' : State)
    (acts : List OutputAction) : Prop :=
  match s.innerDecision inner with
  | .accept => ContentProcessed inner.content s' inner.ctype ∨ FailsFatally s' acts
  | _ => FailsFatally s' acts

/-- In a live state the outcome of every complete record, and of the content of every record opened
for an outstanding open, is the matrix's; and a header that is refused, or a content that has no
type, fails the connection. -/
structure FollowsMatrix (t : CoreStep) : Prop where
  record : ∀ c b hdr body rest, t.input = .transportBytes c b →
    headOf (t.source.inboundCiphertext ++ b) = .record hdr body rest →
    FollowsRecord (t.source.received rest) hdr body t.target t.output
  malformed : ∀ c b e, t.input = .transportBytes c b →
    headOf (t.source.inboundCiphertext ++ b) = .malformed e → FailsFatally t.target t.output
  content : ∀ c op pt inner, t.input = .cryptoResult c op (.aeadOpened pt) →
    t.source.awaits op .aeadOpen → parseInnerPlaintext pt = .ok inner →
    FollowsContent t.source inner t.target t.output
  unparsed : ∀ c op pt e, t.input = .cryptoResult c op (.aeadOpened pt) →
    t.source.awaits op .aeadOpen → parseInnerPlaintext pt = .error e →
    FailsFatally t.target t.output

def Conforms (t : CoreStep) : Prop :=
  t.source.handshake.isTerminal = false → FollowsMatrix t

/-! ## Where the core goes on

The other list: what the core lets pass although the matrix fails it.  It is read off the source,
and the rest of the file shows that it is complete. -/

namespace State

/-- A complete handshake message does not fail the connection. -/
def takesMessage (s : State) (msg : Bytes) : Prop :=
  match s.handshake with
  | .start => s.admitsHello msg
  | .sentServerFinished => s.hasOpRoom
  | _ => True

/-- The records that the matrix fails and the core does not: a protected record in a phase that
opens none, or of a wrong version; the change_cipher_spec of a wrong version, or behind the client
Finished; a fragment or a message that is acceptable to the core, of a wrong version, outside
`start`, of another message than a ClientHello or with bytes behind it; a well-formed alert of a
wrong version, under read protection, while closing, or saying close_notify in clear. -/
def recordDeviates (s : State) (hdr : Parse.ValidRecordHeader) (body : Bytes) : Prop :=
  match hdr.outerType with
  | .applicationData => ¬ s.handshake.opensRecords ∨ (¬ s.allowsVersion hdr ∧ s.hasOpRoom)
  | .changeCipherSpec => s.handshake.ccsWindow ∧ body = [1] ∧
      (¬ s.allowsVersion hdr ∨ s.handshake = .requestedClientFinishedVerify)
  | .handshake => s.fitsFragment body ∧
      (¬ s.allowsVersion hdr ∨ s.handshake ≠ .start ∨ ¬ s.continuesHello body ∨
        s.leftover body ≠ []) ∧
      ∀ msg tail, frameHandshakeMessage (s.handshakeReasm ++ body) = some (msg, tail) →
        s.takesMessage msg
  | .alert => body.length = 2 ∧ (¬ s.allowsVersion hdr ∨ s.readEpoch.epoch ≠ .initial ∨
      s.handshake = .closing ∨ body.getD 1 0 = 0)
  | .invalid => False

/-- The contents that the matrix fails and the core does not: a change_cipher_spec; anything
unknown and any handshake message once connected; before that anything that is not one whole client
Finished; a close_notify before `connected`, and any alert behind a close of the peer. -/
def innerDeviates (s : State) (op : OperationId) (inner : TLSInnerPlaintext) : Prop :=
  match inner.ctype with
  | .applicationData => False
  | .changeCipherSpec => True
  | .handshake => s.handshake = .connected ∨ (s.readEpoch.seq.next.isSome ∧
      (s.handshake = .sentServerFinished →
        ¬ isFinished inner.content ∧ (s.clearOp op).hasOpRoom))
  | .alert => inner.content.length = 2 ∧ s.handshake ≠ .connected ∧
      ¬ (s.handshake = .closing ∧ s.closeState = .sentCloseNotify) ∧
      (s.handshake = .closing ∨ inner.content.getD 1 0 = 0)
  | .invalid => s.handshake = .connected

end State

/-- The step deviates from the matrix. -/
inductive Deviates (t : CoreStep) : Prop
  | record {c : ConnId} {b body rest : Bytes} {hdr : Parse.ValidRecordHeader}
      (hev : t.input = .transportBytes c b)
      (hh : headOf (t.source.inboundCiphertext ++ b) = .record hdr body rest)
      (h : (t.source.received rest).recordDeviates hdr body)
  | inner {c : ConnId} {op : OperationId} {pt : Bytes} {inner : TLSInnerPlaintext}
      (hev : t.input = .cryptoResult c op (.aeadOpened pt)) (hop : t.source.awaits op .aeadOpen)
      (hp : parseInnerPlaintext pt = .ok inner) (h : t.source.innerDeviates op inner)

/-! ## The cells, one by one

For every type the outcome of the step is compared with the decision of the matrix.  A failure
follows the matrix unless the record is to be ignored, and a success follows it if the record is
expected and was processed. -/

/-- A record that fails follows the matrix, unless it is to be ignored. -/
theorem followsRecord_of_fails {s s' : State} {hdr : Parse.ValidRecordHeader} {body : Bytes}
    {acts : List OutputAction} (h : FailsFatally s' acts) (hni : ¬ s.ignoresRecord hdr body) :
    FollowsRecord s hdr body s' acts := by
  rw [FollowsRecord, State.recordDecision, if_neg hni]
  split
  · rename_i heq
    exact .inr h
  · rename_i heq
    split at heq <;> cases heq
  · exact h

/-- A record that does not fail follows the matrix exactly when it is expected and processed, or
ignored as it should be. -/
theorem followsRecord_iff_of_goesOn {s s' : State} {hdr : Parse.ValidRecordHeader} {body : Bytes}
    {acts : List OutputAction} (h : ¬ FailsFatally s' acts)
    (hexp : s.expectsRecord hdr body → RecordProcessed s body s' acts hdr.outerType)
    (hign : s.ignoresRecord hdr body → s' = s ∧ acts = []) :
    FollowsRecord s hdr body s' acts ↔ s.expectsRecord hdr body ∨ s.ignoresRecord hdr body := by
  rw [FollowsRecord, State.recordDecision]
  by_cases he : s.expectsRecord hdr body
  · rw [if_pos he]
    exact iff_of_true (.inl (hexp he)) (.inl he)
  · rw [if_neg he]
    by_cases hi : s.ignoresRecord hdr body
    · rw [if_pos hi]
      exact iff_of_true (hign hi) (.inr hi)
    · rw [if_neg hi]
      exact iff_of_false h (not_or.mpr ⟨he, hi⟩)

theorem State.takesMessage_reassembled (s : State) (n : Nat) (buf msg : Bytes) :
    (s.reassembled n buf).takesMessage msg ↔ s.takesMessage msg := by
  have hadm : (s.reassembled n buf).admitsHello msg ↔ s.admitsHello msg := Iff.rfl
  rw [takesMessage, takesMessage, show (s.reassembled n buf).handshake = s.handshake from rfl]
  split
  · exact hadm
  · exact Iff.rfl
  · exact Iff.rfl

/-- **Client Finished.**  In `sentServerFinished` a message is handed to the provider if there is
room for the operation, and fails the connection otherwise. -/
theorem handshakeOnPlaintextRecord_finished {s s' : State} {msg : Bytes} {acts : List OutputAction}
    (hphase : s.handshake = .sentServerFinished)
    (h : handshakeOnPlaintextRecord s msg = .ok (s', acts)) :
    (s.hasOpRoom ∧ s'.handshake = .requestedClientFinishedVerify ∧
        s'.pendingClientFinished = some msg) ∨
      (¬ s.hasOpRoom ∧ FailsFatally s' acts) := by
  rw [handshakeOnPlaintextRecord, if_neg (by simp [hphase]), if_pos hphase, onClientFinishedBytes,
    if_pos hphase] at h
  rcases allocOpOrFail_cases h with ⟨hroom, h⟩ | ⟨hroom, rfl, rfl⟩
  · cases h
    exact .inl ⟨hroom, rfl, rfl⟩
  · exact .inr ⟨hroom, failsFatally_fail _ _ _ rfl⟩

/-- **Messages.**  A complete message fails the connection, or it is taken: then the connection goes
on, and in `start` the handshake begins. -/
theorem handshakeOnPlaintextRecord_cases {s s' : State} {msg : Bytes} {acts : List OutputAction}
    (hlive : s.handshake.isTerminal = false)
    (h : handshakeOnPlaintextRecord s msg = .ok (s', acts)) :
    (s.takesMessage msg ∧ s'.handshake.isTerminal = false ∧
        (s.handshake = .start → s'.handshake = .requestedServerRandom ∧
          s'.transcript.events = s.transcript.events ++ [committed .clientHello .read msg])) ∨
      (¬ s.takesMessage msg ∧ FailsFatally s' acts) := by
  by_cases hstart : s.handshake = .start
  · rw [State.takesMessage, hstart]
    obtain ⟨s'', acts', hres, hcase⟩ := handshakeOnPlaintextRecord_greets hstart msg
    obtain ⟨rfl, rfl⟩ := Prod.mk.inj (Except.ok.inj (hres.symm.trans h))
    rcases hcase with ⟨hadm, hs', hevents⟩ | hfail
    · exact .inl ⟨hadm, by rw [hs']; rfl, fun _ ↦ ⟨hs', hevents⟩⟩
    · exact .inr hfail
  · by_cases hfin : s.handshake = .sentServerFinished
    · rw [State.takesMessage, hfin]
      rcases handshakeOnPlaintextRecord_finished hfin h with ⟨hroom, hs', -⟩ | hfail
      · exact .inl ⟨hroom, by rw [hs']; rfl, nofun⟩
      · exact .inr hfail
    · rw [handshakeOnPlaintextRecord_ignored msg hstart hfin] at h
      cases h
      refine .inl ⟨?_, hlive, fun h ↦ absurd h hstart⟩
      rw [State.takesMessage]
      split <;> trivial

/-- **Alerts.**  A malformed alert fails the connection; a close_notify closes it, and any other
ends it as the peer's abort, with nothing said in reply. -/
theorem AlertOutcome.goesOn_or_fails {s s' : State} {body : Bytes} {acts : List OutputAction}
    (h : AlertOutcome s body s' acts) :
    (body.length = 2 ∧ ¬ FailsFatally s' acts ∧
      ((body.getD 1 0 = 0 ∧ s'.handshake = .closing ∧ s'.closeState = .receivedCloseNotify) ∨
        (body.getD 1 0 ≠ 0 ∧ RecordsAbort body s'))) ∨
      (body.length ≠ 2 ∧ FailsFatally s' acts) := by
  cases h with
  | closeNotify hlen hdesc =>
    exact .inl ⟨hlen, not_failsFatally_of_live rfl, .inl ⟨hdesc, rfl, rfl⟩⟩
  | fatal hlen hdesc ha =>
    subst ha
    refine .inl ⟨hlen, ?_, .inr ⟨hdesc, rfl, rfl⟩⟩
    rintro ⟨a, -, hclose, -⟩
    cases hclose
  | malformed hlen => exact .inr ⟨hlen, failsFatally_fail _ _ _ rfl⟩

/-- **Protected records.** -/
theorem follows_protected {s s' : State} {hdr : Parse.ValidRecordHeader} {body : Bytes}
    {acts : List OutputAction} (ht : hdr.outerType = .applicationData)
    (h : RecordOutcome s hdr body s' acts) (hlive : s.handshake.isTerminal = false) :
    FollowsRecord s hdr body s' acts ↔ ¬ s.recordDeviates hdr body := by
  have hign : ¬ s.ignoresRecord hdr body := fun hi ↦ by cases ht.symm.trans hi.2.1
  have hexp : s.expectsRecord hdr body ↔ s.allowsVersion hdr ∧ s.handshake.opensRecords := by
    rw [State.expectsRecord, ht]
    rfl
  rw [State.recordDeviates, ht]
  cases h with
  | opens _ hphase hroom =>
    refine (followsRecord_iff_of_goesOn ?_ (fun _ ↦ ?_) fun hi ↦ absurd hi hign).trans ?_
    · exact not_failsFatally_of_live hlive
    · rw [ht]
      exact ⟨_, rfl, _, List.mem_cons_self, rfl, rfl⟩
    · simp [hexp, hign, hphase, hroom]
  | noRoom _ hphase hroom =>
    refine iff_of_true (followsRecord_of_fails (failsFatally_fail _ _ _ rfl) hign) ?_
    simp [hphase, hroom]
  | unread _ hphase =>
    refine (followsRecord_iff_of_goesOn ?_ (fun he ↦ ?_) fun hi ↦ absurd hi hign).trans ?_
    · exact not_failsFatally_of_live hlive
    · exact absurd (hexp.mp he).2 hphase
    · simp [hexp, hign, hphase]
  | ccsIgnored ht' | ccsRefused ht' | hsRefused ht' | hsPartial ht' | hsMessage ht' | alert ht'
  | invalid ht' => cases ht.symm.trans ht'

/-- **Plaintext handshake records.** -/
theorem follows_handshake {s s' : State} {hdr : Parse.ValidRecordHeader} {body : Bytes}
    {acts : List OutputAction} (ht : hdr.outerType = .handshake)
    (h : RecordOutcome s hdr body s' acts) (hlive : s.handshake.isTerminal = false) :
    FollowsRecord s hdr body s' acts ↔ ¬ s.recordDeviates hdr body := by
  have hign : ¬ s.ignoresRecord hdr body := fun hi ↦ by cases ht.symm.trans hi.2.1
  have hexp : s.expectsRecord hdr body ↔
      s.allowsVersion hdr ∧ s.handshake = .start ∧ s.continuesHello body ∧
        s.leftover body = [] := by
    rw [State.expectsRecord, ht]
    rfl
  rw [State.recordDeviates, ht]
  cases h with
  | hsRefused _ hfits ha =>
    refine iff_of_true (followsRecord_of_fails (failsFatally_fail _ _ _ ha) hign) ?_
    exact fun hd ↦ hfits hd.1
  | hsPartial _ hfits hframe =>
    refine (followsRecord_iff_of_goesOn ?_ (fun he ↦ ?_) fun hi ↦ absurd hi hign).trans ?_
    · exact not_failsFatally_of_live hlive
    · rw [ht]
      exact .inl ⟨hframe, (hexp.mp he).2.1, rfl, rfl⟩
    · simp [hexp, hign, hfits, hframe]
  | @hsMessage msg tail _ _ _ hfits hframe hres =>
    have hmsg : (∀ m r, frameHandshakeMessage (s.handshakeReasm ++ body) = some (m, r) →
        s.takesMessage m) ↔ (s.reassembled body.length tail).takesMessage msg := by
      rw [hframe, s.takesMessage_reassembled]
      simp
    have hlive₀ : (s.reassembled body.length tail).handshake.isTerminal = false := hlive
    rcases handshakeOnPlaintextRecord_cases hlive₀ hres with
      ⟨htake, hlive', hstart⟩ | ⟨htake, hfail⟩
    · refine (followsRecord_iff_of_goesOn ?_ (fun he ↦ ?_) fun hi ↦ absurd hi hign).trans ?_
      · exact not_failsFatally_of_live hlive'
      · have hrest := (hexp.mp he).2.2.2
        rw [State.leftover, hframe] at hrest
        have hrest : tail = [] := hrest
        rw [hrest] at hframe
        rw [ht]
        exact .inr ⟨msg, hframe, hstart (hexp.mp he).2.1⟩
      · simp [hexp, hign, hfits, hmsg, htake]
    · refine iff_of_true (followsRecord_of_fails hfail hign) fun hd ↦ ?_
      exact htake (hmsg.mp hd.2.2)
  | opens ht' | noRoom ht' | unread ht' | ccsIgnored ht' | ccsRefused ht' | alert ht'
  | invalid ht' => cases ht.symm.trans ht'

/-- **Plaintext change_cipher_spec records.** -/
theorem follows_ccs {s s' : State} {hdr : Parse.ValidRecordHeader} {body : Bytes}
    {acts : List OutputAction} (ht : hdr.outerType = .changeCipherSpec)
    (h : RecordOutcome s hdr body s' acts) (hlive : s.handshake.isTerminal = false) :
    FollowsRecord s hdr body s' acts ↔ ¬ s.recordDeviates hdr body := by
  have hexp : ¬ s.expectsRecord hdr body := by
    rw [State.expectsRecord, ht]
    exact fun he ↦ he.2
  rw [State.recordDeviates, ht]
  cases h with
  | ccsIgnored _ hphase hbody =>
    refine (followsRecord_iff_of_goesOn ?_ (fun he ↦ absurd he hexp) fun _ ↦ ⟨rfl, rfl⟩).trans ?_
    · exact not_failsFatally_of_live hlive
    · subst hbody
      simp [hexp, State.ignoresRecord, ht, hphase]
  | ccsRefused _ h =>
    refine iff_of_true (followsRecord_of_fails (failsFatally_fail _ _ _ rfl) fun hi ↦ ?_) ?_
    · exact h ⟨hi.2.2.2.1, hi.2.2.1⟩
    · exact fun hd ↦ h ⟨hd.1, hd.2.1⟩
  | opens ht' | noRoom ht' | unread ht' | hsRefused ht' | hsPartial ht' | hsMessage ht' | alert ht'
  | invalid ht' => cases ht.symm.trans ht'

/-- **Plaintext alerts.** -/
theorem follows_alert {s s' : State} {hdr : Parse.ValidRecordHeader} {body : Bytes}
    {acts : List OutputAction} (ht : hdr.outerType = .alert) (h : AlertOutcome s body s' acts) :
    FollowsRecord s hdr body s' acts ↔ ¬ s.recordDeviates hdr body := by
  have hign : ¬ s.ignoresRecord hdr body := fun hi ↦ by cases ht.symm.trans hi.2.1
  have hexp : s.expectsRecord hdr body ↔ s.allowsVersion hdr ∧ s.readEpoch.epoch = .initial ∧
      s.handshake ≠ .closing ∧ body.getD 1 0 ≠ 0 := by
    rw [State.expectsRecord, ht]
    rfl
  rw [State.recordDeviates, ht]
  rcases h.goesOn_or_fails with ⟨hlen, hgo, hdesc⟩ | ⟨hlen, hfail⟩
  · refine (followsRecord_iff_of_goesOn hgo (fun he ↦ ?_) fun hi ↦ absurd hi hign).trans ?_
    · rw [ht]
      rcases hdesc with ⟨hzero, -⟩ | ⟨-, hdesc⟩
      · exact absurd hzero (hexp.mp he).2.2.2
      · exact hdesc
    · simp [hexp, hign, hlen]
  · exact iff_of_true (followsRecord_of_fails hfail hign) fun hd ↦ hlen hd.1

/-- **Records.**  A framed record follows the matrix exactly when it is none of those listed. -/
theorem RecordOutcome.follows_iff {s s' : State} {hdr : Parse.ValidRecordHeader} {body : Bytes}
    {acts : List OutputAction} (h : RecordOutcome s hdr body s' acts)
    (hlive : s.handshake.isTerminal = false) :
    FollowsRecord s hdr body s' acts ↔ ¬ s.recordDeviates hdr body := by
  cases ht : hdr.outerType with
  | applicationData => exact follows_protected ht h hlive
  | handshake => exact follows_handshake ht h hlive
  | changeCipherSpec => exact follows_ccs ht h hlive
  | alert =>
    cases h with
    | alert _ h => exact follows_alert ht h
    | opens ht' | noRoom ht' | unread ht' | ccsIgnored ht' | ccsRefused ht' | hsRefused ht'
    | hsPartial ht' | hsMessage ht' | invalid ht' => cases ht.symm.trans ht'
  | invalid =>
    have hfail : FailsFatally s' acts := by
      cases h with
      | invalid => exact failsFatally_fail _ _ _ rfl
      | opens ht' | noRoom ht' | unread ht' | ccsIgnored ht' | ccsRefused ht' | hsRefused ht'
      | hsPartial ht' | hsMessage ht' | alert ht' => cases ht.symm.trans ht'
    rw [State.recordDeviates, ht]
    exact iff_of_true (followsRecord_of_fails hfail fun hi ↦ by cases ht.symm.trans hi.2.1) id

/-! ## Opened contents

The same for the contents of opened records.  Here nothing is to be ignored. -/

theorem followsContent_of_fails {s s' : State} {inner : TLSInnerPlaintext}
    {acts : List OutputAction} (h : FailsFatally s' acts) : FollowsContent s inner s' acts := by
  rw [FollowsContent]
  split
  · exact .inr h
  · exact h

/-- A content that does not fail follows the matrix exactly when it is expected and processed. -/
theorem followsContent_iff_of_goesOn {s s' : State} {inner : TLSInnerPlaintext}
    {acts : List OutputAction} (h : ¬ FailsFatally s' acts)
    (hexp : s.expectsContent inner.content inner.ctype →
      ContentProcessed inner.content s' inner.ctype) :
    FollowsContent s inner s' acts ↔ s.expectsContent inner.content inner.ctype := by
  rw [FollowsContent, State.innerDecision]
  by_cases he : s.expectsContent inner.content inner.ctype
  · rw [if_pos he]
    exact iff_of_true (.inl (hexp he)) he
  · rw [if_neg he]
    exact iff_of_false h he

/-- **Protected handshake messages**, before the connection is established. -/
theorem follows_message {s s' : State} {op : OperationId} {sq : SeqNo} {inner : TLSInnerPlaintext}
    {acts : List OutputAction} (ht : inner.ctype = .handshake) (hphase : s.handshake ≠ .connected)
    (hlive : s.handshake.isTerminal = false) (hstart : s.handshake ≠ .start)
    (hseq : s.readEpoch.seq.next = some sq)
    (hres : handshakeOnPlaintextRecord (s.advanced op sq) inner.content = .ok (s', acts)) :
    FollowsContent s inner s' acts ↔ ¬ s.innerDeviates op inner := by
  have hexp : s.expectsContent inner.content inner.ctype ↔
      s.handshake = .sentServerFinished ∧ State.isFinished inner.content := by
    rw [ht]
    rfl
  have hroom : (s.advanced op sq).hasOpRoom ↔ (s.clearOp op).hasOpRoom := Iff.rfl
  rw [State.innerDeviates, ht]
  by_cases hfin : s.handshake = .sentServerFinished
  · rcases handshakeOnPlaintextRecord_finished (s := s.advanced op sq) hfin hres with
      ⟨hr, hs', hpend⟩ | ⟨hr, hfail⟩
    · refine (followsContent_iff_of_goesOn ?_ fun _ ↦ ?_).trans ?_
      · exact not_failsFatally_of_live (by rw [hs']; rfl)
      · rw [ht]
        exact ⟨hs', hpend⟩
      · simp [hexp, hfin, hseq, hroom.mp hr]
    · refine iff_of_true (followsContent_of_fails hfail) fun hd ↦ ?_
      exact hr (hroom.mpr ((hd.resolve_left hphase).2 hfin).2)
  · rw [handshakeOnPlaintextRecord_ignored (s := s.advanced op sq) _ hstart hfin] at hres
    cases hres
    refine (followsContent_iff_of_goesOn ?_ fun he ↦ absurd (hexp.mp he).1 hfin).trans ?_
    · exact not_failsFatally_of_live hlive
    · simp [hexp, hfin, hseq]

/-- **Protected alerts.** -/
theorem follows_innerAlert {s s' : State} {op : OperationId} {inner : TLSInnerPlaintext}
    {acts : List OutputAction} (ht : inner.ctype = .alert)
    (h : AlertOutcome (s.clearOp op) inner.content s' acts) :
    FollowsContent s inner s' acts ↔ ¬ s.innerDeviates op inner := by
  have hexp : s.expectsContent inner.content inner.ctype ↔
      s.handshake = .connected ∨ (s.handshake = .closing ∧ s.closeState = .sentCloseNotify) ∨
        (s.handshake ≠ .closing ∧ inner.content.getD 1 0 ≠ 0) := by
    rw [ht]
    rfl
  rw [State.innerDeviates, ht]
  rcases h.goesOn_or_fails with ⟨hlen, hgo, hdesc⟩ | ⟨hlen, hfail⟩
  · refine (followsContent_iff_of_goesOn hgo fun _ ↦ ?_).trans ?_
    · rw [ht]
      exact hdesc
    · rw [hexp]
      simp only [hlen, true_and]
      rw [not_and_or, not_ne_iff, not_and_or, not_not, not_or]
  · exact iff_of_true (followsContent_of_fails hfail) fun hd ↦ hlen hd.1

/-- **Contents.**  The content of an opened record follows the matrix exactly when it is none of
those listed. -/
theorem InnerOutcome.follows_iff {s s' : State} {op : OperationId} {inner : TLSInnerPlaintext}
    {acts : List OutputAction} (h : InnerOutcome s op inner s' acts)
    (hlive : s.handshake.isTerminal = false) (hstart : s.handshake ≠ .start) :
    FollowsContent s inner s' acts ↔ ¬ s.innerDeviates op inner := by
  cases h with
  | message ht hphase hseq hres => exact follows_message ht hphase hlive hstart hseq hres
  | alert ht h => exact follows_innerAlert ht h
  | data ht hphase hseq =>
    refine (followsContent_iff_of_goesOn ?_ fun _ ↦ ?_).trans ?_
    · exact not_failsFatally_of_live hlive
    · rw [ht]
      exact ⟨hphase, rfl⟩
    · rw [State.innerDeviates, ht]
      exact iff_of_true hphase id
  | overflow ht hseq =>
    refine iff_of_true (followsContent_of_fails (failsFatally_fail _ _ _ rfl)) ?_
    by_cases hconn : s.handshake = .connected
    · simp [State.innerDeviates, ht, hconn]
    · simp [State.innerDeviates, ht, hconn, hseq]
  | earlyData ht hphase =>
    refine iff_of_true (followsContent_of_fails (failsFatally_fail _ _ _ rfl)) ?_
    rw [State.innerDeviates, ht]
    exact id
  | invalid ht hphase =>
    refine iff_of_true (followsContent_of_fails (failsFatally_fail _ _ _ rfl)) ?_
    rw [State.innerDeviates, ht]
    exact hphase
  | skipped ht =>
    have hexp : ¬ s.expectsContent inner.content inner.ctype := by
      rcases ht with ht | ⟨hphase, ht | ht⟩ <;> rw [ht]
      · exact id
      · exact fun he ↦ by cases hphase.symm.trans he.1
      · exact id
    refine iff_of_false (fun h ↦ hexp ?_) (not_not.mpr ?_)
    · exact (followsContent_iff_of_goesOn (not_failsFatally_of_live hlive) fun he ↦
        absurd he hexp).mp h
    · rw [State.innerDeviates]
      rcases ht with ht | ⟨hphase, ht | ht⟩ <;> rw [ht]
      · trivial
      · exact .inl hphase
      · exact hphase

/-! ## Steps and runs -/

/-- A framed record has the outcome of its head. -/
theorem Outcome.framed {s s' : State} {c : ConnId} {b : Bytes} {acts : List OutputAction}
    {hdr : Parse.ValidRecordHeader} {body rest : Bytes}
    (h : Outcome s (.transportBytes c b) s' acts)
    (hh : headOf (s.inboundCiphertext ++ b) = .record hdr body rest) :
    RecordOutcome (s.received rest) hdr body s' acts := by
  cases h with
  | bytes h =>
    cases h with
    | malformed hh' => cases hh'.symm.trans hh
    | awaiting hh' => cases hh'.symm.trans hh
    | record hh' h =>
      cases hh'.symm.trans hh
      exact h

/-- The content of a record opened for an outstanding open has the outcome of its type. -/
theorem Outcome.content {s s' : State} {c : ConnId} {op : OperationId} {pt : Bytes}
    {inner : TLSInnerPlaintext} {acts : List OutputAction}
    (h : Outcome s (.cryptoResult c op (.aeadOpened pt)) s' acts) (hop : s.awaits op .aeadOpen)
    (hp : parseInnerPlaintext pt = .ok inner) : InnerOutcome s op inner s' acts := by
  cases h.opened rfl (contains_of_awaits hop) with
  | unparsed hp' => cases hp'.symm.trans hp
  | opened hp' h =>
    cases hp'.symm.trans hp
    exact h
  | gating hr => exact absurd rfl (hr.1 pt)

/-- A header that is refused fails the connection. -/
theorem Outcome.malformed {s s' : State} {c : ConnId} {b : Bytes} {acts : List OutputAction}
    {e : Parse.ParseError} (h : Outcome s (.transportBytes c b) s' acts)
    (hh : headOf (s.inboundCiphertext ++ b) = .malformed e) : FailsFatally s' acts := by
  cases h with
  | bytes h =>
    cases h with
    | malformed => exact failsFatally_fail _ _ _ (alertLevel_parse _)
    | awaiting hh' => cases hh'.symm.trans hh
    | record hh' => cases hh'.symm.trans hh

/-- A content without a type fails the connection. -/
theorem Outcome.unparsed {s s' : State} {c : ConnId} {op : OperationId} {pt : Bytes}
    {e : Parse.ParseError} {acts : List OutputAction}
    (h : Outcome s (.cryptoResult c op (.aeadOpened pt)) s' acts) (hop : s.awaits op .aeadOpen)
    (hp : parseInnerPlaintext pt = .error e) : FailsFatally s' acts := by
  cases h.opened rfl (contains_of_awaits hop) with
  | unparsed => exact failsFatally_fail _ _ _ (alertLevel_parse _)
  | opened hp' => cases hp'.symm.trans hp
  | gating hr => exact absurd rfl (hr.1 pt)

/-- While an open is outstanding the handshake has begun. -/
theorem Invariant.ne_start {s : State} (hI : Invariant s) {op : OperationId}
    (hop : s.awaits op .aeadOpen) : s.handshake ≠ .start := by
  intro hstart
  obtain ⟨o, ho, -⟩ := hop
  rw [hI.idle hstart] at ho
  cases ho

/-- **One step** conforms exactly when it starts in a terminal state or does not deviate. -/
theorem conforms_step_iff {t : CoreStep} (ht : Machine.Steps step t) (hI : Invariant t.source) :
    Conforms t ↔ (t.source.handshake.isTerminal = false → ¬ Deviates t) := by
  refine imp_congr_right fun hlive ↦ ?_
  have hout := outcome_of_steps ht hlive
  constructor
  · intro hfollows hdev
    cases hdev with
    | record hev hh h =>
      rw [hev] at hout
      exact ((hout.framed hh).follows_iff hlive).mp (hfollows.record _ _ _ _ _ hev hh) h
    | inner hev hop hp h =>
      rw [hev] at hout
      have hcontent := (hout.content hop hp).follows_iff hlive (hI.ne_start hop)
      exact hcontent.mp (hfollows.content _ _ _ _ hev hop hp) h
  · intro hdev
    constructor
    · intro c b hdr body rest hev hh
      rw [hev] at hout
      exact ((hout.framed hh).follows_iff hlive).mpr fun h ↦ hdev (.record hev hh h)
    · intro c b e hev hh
      rw [hev] at hout
      exact hout.malformed hh
    · intro c op pt inner hev hop hp
      rw [hev] at hout
      have hcontent := (hout.content hop hp).follows_iff hlive (hI.ne_start hop)
      exact hcontent.mpr fun h ↦ hdev (.inner hev hop hp h)
    · intro c op pt e hev hop hp
      rw [hev] at hout
      exact hout.unparsed hop hp

/-- **The acceptance matrix.**  In every run all records and contents have the outcome of the
matrix, if and only if no step taken in a live state is one of the listed deviations. -/
theorem conforms_iff {conn : ConnId} {gen : ConfigGeneration} {alg : HashAlgorithm}
    {config : ValidatedServerConfig} {tr : List CoreStep} {s : State}
    (h : CoreRun conn gen alg config tr s) :
    (∀ t ∈ tr, Conforms t) ↔
      ∀ t ∈ tr, t.source.handshake.isTerminal = false → ¬ Deviates t :=
  h.forall_iff (fun _ ht hI ↦ hI.step ht) (fun _ ht hI ↦ conforms_step_iff ht hI)
    (.initial conn gen alg config)

theorem conforms_iff_session :
    (∀ t ∈ Session.run Session.connectEvents, Conforms t) ↔
      ∀ t ∈ Session.run Session.connectEvents,
        t.source.handshake.isTerminal = false → ¬ Deviates t :=
  conforms_iff (Session.coreRun _)

/-- A key update of a connected peer is skipped, and the connection goes on. -/
theorem not_conforms :
    ¬ ∀ t ∈ Session.run (Session.connectEvents ++
      [.transportBytes Session.conn (frameRecord .applicationData [0]),
        Session.answer 19 (.aeadOpened [24, 0, 0, 1, 0, 22])]), Conforms t := by
  have hskip : ∃ t ∈ Session.run (Session.connectEvents ++
      [.transportBytes Session.conn (frameRecord .applicationData [0]),
        Session.answer 19 (.aeadOpened [24, 0, 0, 1, 0, 22])]),
      t.input = Session.answer 19 (.aeadOpened [24, 0, 0, 1, 0, 22]) ∧
        t.source.awaits ⟨19⟩ .aeadOpen ∧ t.source.handshake = .connected ∧
        t.target.handshake = .connected := by
    decide +kernel
  intro h
  obtain ⟨t, ht, hin, hop, hphase, hphase'⟩ := hskip
  have hfollows := (h t ht (by rw [hphase]; rfl)).content _ _ _ ⟨[24, 0, 0, 1, 0], .handshake, 0⟩
    hin hop rfl
  have hexp : ¬ t.source.expectsContent [24, 0, 0, 1, 0] .handshake := by
    rintro ⟨hfin, -⟩
    cases hphase.symm.trans hfin
  rw [FollowsContent, State.innerDecision, if_neg hexp] at hfollows
  exact not_failsFatally_of_live (by rw [hphase']; rfl) hfollows

end Kroopt.Core
