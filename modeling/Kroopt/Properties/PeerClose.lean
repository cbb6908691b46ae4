import Kroopt.Core.Session

/-!
# Who closes a connection on the peer's behalf

The close state records that the peer closed or aborted the connection.  Once records are protected,
only an opened record should do that: whoever is on the path can insert a record in clear, and a
close that cannot be told from a forged one is an invitation to truncate.

The code has one function for alerts, `onInboundAlert`, and calls it from two places: from the
record layer, for an outer record of type alert, and behind the opening of a record, for an inner
content of that type.  Nothing in the first place looks at the read epoch, so the outer form is as
good under installed read protection as before it.

The proof goes through all outcomes of a step once and sorts out which of them record a close by the
peer.  All others leave the close state as it is or fail the connection, and a failure is recorded
under another name.  What is left are the two places, and an alert that they take is one whose body
is two bytes long, unless it repeats a close_notify.

## Main definitions

* `PeerClosed s s'`: the change from `s` to `s'` records a close or an abort by the peer.
* `State.ReadsAlert s ev`: the event delivers a two-byte alert, in one of the two forms.
* `AuthenticatedClose t`: if the step `t` records a close or an abort by the peer under read
  protection, it does so on the alert inside a record opened for an outstanding open.
* `State.ForgesAlert s ev`: the alert of the event was not authenticated.

## Main results

* `Outcome.peerClosed_iff`: a step of a live state records a close by the peer exactly when it reads
  an alert.
* `State.forgesAlert_iff`: the forged alerts are the alerts that were not opened.
* `authenticatedClose_iff`: the steps of a run are all authenticated exactly when none of them reads
  a forged alert.
-/

set_option autoImplicit false

namespace Kroopt.Core

open Kroopt.Parse (headOf parseInnerPlaintext)

/-- The close states that record a close or an abort by the peer. -/
def CloseState.byPeer : CloseState → Bool
  | receivedCloseNotify => true
  | fatalReceived _ => true
  | _ => false

/-- The close state changed to one recording a close or an abort by the peer. -/
def PeerClosed (s s' : State) : Prop :=
  s'.closeState ≠ s.closeState ∧ s'.closeState.byPeer = true

instance (s s' : State) : Decidable (PeerClosed s s') := inferInstanceAs (Decidable (_ ∧ _))

/-- An alert that changes the close state: two bytes, and not a repeated close_notify. -/
def State.closedByAlert (s : State) (body : Bytes) : Prop :=
  body.length = 2 ∧ (s.closeState = .receivedCloseNotify → body.getD 1 0 ≠ 0)

/-- The event delivers an alert that changes the close state. -/
inductive State.ReadsAlert (s : State) : InputEvent → Prop
  | outer {c : ConnId} {b body rest : Bytes} {hdr : Parse.ValidRecordHeader}
      (hh : headOf (s.inboundCiphertext ++ b) = .record hdr body rest)
      (ht : hdr.outerType = .alert) (hbody : s.closedByAlert body) :
      s.ReadsAlert (.transportBytes c b)
  | opened {c : ConnId} {op : OperationId} {pt : Bytes} {inner : TLSInnerPlaintext}
      (hop : s.pendingOps.contains op = true) (hp : parseInnerPlaintext pt = .ok inner)
      (ht : inner.ctype = .alert) (hbody : s.closedByAlert inner.content) :
      s.ReadsAlert (.cryptoResult c op (.aeadOpened pt))

/-! ## What changes the close state -/

theorem not_peerClosed_fail {s s₀ : State} {a : AlertDescription} :
    ¬ PeerClosed s (s₀.fail a) := fun h ↦ by cases h.2

theorem not_peerClosed_of_eq {s s' : State} (h : s'.closeState = s.closeState) :
    ¬ PeerClosed s s' := fun hc ↦ hc.1 h

theorem Move.not_peerClosed {s s' : State} {acts : List OutputAction} (h : Move s s' acts) :
    ¬ PeerClosed s s' := by
  cases h with
  | failed => exact not_peerClosed_fail
  | _ => exact not_peerClosed_of_eq rfl

theorem AlertOutcome.peerClosed_iff {s s' : State} {body : Bytes} {acts : List OutputAction}
    (h : AlertOutcome s body s' acts) (hs : ∀ a, s.closeState ≠ .fatalReceived a) :
    PeerClosed s s' ↔ s.closedByAlert body := by
  cases h with
  | closeNotify hlen hdesc =>
    have hdesc' : body.getD 1 0 ≠ 0 ↔ False := by simp only [hdesc, ne_eq, not_true_eq_false]
    rw [PeerClosed, State.closedByAlert, hdesc', eq_comm (a := s.closeState)]
    exact ⟨fun h ↦ ⟨hlen, h.1⟩, fun h ↦ ⟨h.2, rfl⟩⟩
  | @fatal a hlen hdesc =>
    exact iff_of_true ⟨(hs a).symm, rfl⟩ ⟨hlen, fun _ ↦ hdesc⟩
  | malformed hlen =>
    refine ⟨fun h ↦ absurd h not_peerClosed_fail, fun h ↦ absurd h.1 hlen⟩

/-- In a live state nothing is recorded about the peer but its close_notify. -/
theorem Invariant.closeState_ne_fatal {s : State} (hI : Invariant s)
    (hlive : s.handshake.isTerminal = false) (a : AlertDescription) :
    s.closeState ≠ .fatalReceived a := by
  by_cases hc : s.handshake = .closing
  · rcases hI.isClosing hc with h | h <;> simp [h]
  · simp [hI.isOpen hlive hc]

theorem RecordOutcome.peerClosed_iff {s s' : State} {hdr : Parse.ValidRecordHeader} {body : Bytes}
    {acts : List OutputAction} (h : RecordOutcome s hdr body s' acts)
    (hs : ∀ a, s.closeState ≠ .fatalReceived a) :
    PeerClosed s s' ↔ hdr.outerType = .alert ∧ s.closedByAlert body := by
  cases h with
  | alert ht h => rw [h.peerClosed_iff hs, and_iff_right ht]
  | hsMessage ht hfits hframe hres =>
    have hmove := (handshakeOnPlaintextRecord_moves _ _).move hres
    simpa [ht] using show ¬ PeerClosed s s' from hmove.not_peerClosed
  | opens ht => simp [ht, PeerClosed]
  | unread ht => simp [ht, PeerClosed]
  | ccsIgnored ht => simp [ht, PeerClosed]
  | hsPartial ht => simp [ht, PeerClosed, State.reassembled]
  | noRoom ht => simpa [ht] using not_peerClosed_fail
  | ccsRefused ht => simpa [ht] using not_peerClosed_fail
  | hsRefused ht => simpa [ht] using not_peerClosed_fail
  | invalid ht => simpa [ht] using not_peerClosed_fail

theorem InnerOutcome.peerClosed_iff {s s' : State} {op : OperationId} {inner : TLSInnerPlaintext}
    {acts : List OutputAction} (h : InnerOutcome s op inner s' acts)
    (hs : ∀ a, s.closeState ≠ .fatalReceived a) :
    PeerClosed s s' ↔ inner.ctype = .alert ∧ s.closedByAlert inner.content := by
  cases h with
  | alert ht h => exact (h.peerClosed_iff hs).trans (and_iff_right ht).symm
  | message ht hphase hseq hres =>
    have hmove := (handshakeOnPlaintextRecord_moves _ _).move hres
    simpa [ht] using show ¬ PeerClosed s s' from hmove.not_peerClosed
  | data ht => simp [ht, PeerClosed, State.advanced]
  | skipped ht =>
    have hne : inner.ctype ≠ .alert := by
      rcases ht with h | ⟨-, h | h⟩ <;> simp [h]
    simp [hne, PeerClosed]
  | overflow ht =>
    have hne : inner.ctype ≠ .alert := by
      rw [ht]
      split <;> simp
    simpa [hne] using not_peerClosed_fail
  | earlyData ht => simpa [ht] using not_peerClosed_fail
  | invalid ht => simpa [ht] using not_peerClosed_fail

theorem ResultOutcome.peerClosed_iff {s s' : State} {c : ConnId} {op : OperationId}
    {r : CryptoResult} {acts : List OutputAction} (h : ResultOutcome s op r s' acts)
    (hop : s.pendingOps.contains op = true) (hs : ∀ a, s.closeState ≠ .fatalReceived a) :
    PeerClosed s s' ↔ s.ReadsAlert (.cryptoResult c op r) := by
  cases h with
  | @opened pt inner _ _ hp h =>
    rw [h.peerClosed_iff hs]
    refine ⟨fun h ↦ .opened hop hp h.1 h.2, fun h ↦ ?_⟩
    cases h with
    | opened _ hp' ht hbody =>
      cases hp.symm.trans hp'
      exact ⟨ht, hbody⟩
  | unparsed hp =>
    refine iff_of_false not_peerClosed_fail fun h ↦ ?_
    cases h with
    | opened _ hp' => cases hp.symm.trans hp'
  | sealed => exact iff_of_false (not_peerClosed_of_eq rfl) nofun
  | verifyFailed => exact iff_of_false not_peerClosed_fail nofun
  | failed => exact iff_of_false not_peerClosed_fail nofun
  | gating hr hres =>
    have hmove := (handshakeOnGatingResult_moves _ _ _).move hres
    refine iff_of_false (show ¬ PeerClosed s s' from hmove.not_peerClosed) fun h ↦ ?_
    cases h with
    | opened => exact hr.1 _ rfl

theorem BytesOutcome.peerClosed_iff {s s' : State} {c : ConnId} {b : Bytes}
    {acts : List OutputAction} (h : BytesOutcome s b s' acts)
    (hs : ∀ a, s.closeState ≠ .fatalReceived a) :
    PeerClosed s s' ↔ s.ReadsAlert (.transportBytes c b) := by
  have hother : (∀ hdr body rest, headOf (s.inboundCiphertext ++ b) ≠ .record hdr body rest) →
      ¬ s.ReadsAlert (.transportBytes c b) := by
    intro hne h
    cases h with
    | outer hh => exact hne _ _ _ hh
  cases h with
  | malformed hh => exact iff_of_false not_peerClosed_fail (hother (by simp [hh]))
  | awaiting hh => exact iff_of_false (not_peerClosed_of_eq rfl) (hother (by simp [hh]))
  | record hh h =>
    refine (h.peerClosed_iff hs).trans ⟨fun h ↦ .outer hh h.1 h.2, fun h ↦ ?_⟩
    cases h with
    | outer hh' ht hbody =>
      cases hh.symm.trans hh'
      exact ⟨ht, hbody⟩

/-- **What closes a connection on the peer's behalf.**  A step of a live state records a close or an
abort by the peer exactly when it reads an alert. -/
theorem Outcome.peerClosed_iff {s s' : State} {ev : InputEvent} {acts : List OutputAction}
    (h : Outcome s ev s' acts) (hs : ∀ a, s.closeState ≠ .fatalReceived a) :
    PeerClosed s s' ↔ s.ReadsAlert ev := by
  cases h with
  | bytes h => exact h.peerClosed_iff hs
  | result hop h => exact h.peerClosed_iff hop hs
  | stale hop =>
    refine iff_of_false (not_peerClosed_of_eq rfl) fun h ↦ ?_
    cases h with
    | opened hop' => cases hop.symm.trans hop'
  | closeNotify | closeEarly | closeAbortive | eof =>
    exact iff_of_false (fun h ↦ by cases h.2) nofun
  | sendRefused | closeNotifyRefused | closeFatal | timeout =>
    exact iff_of_false not_peerClosed_fail nofun
  | deliver | noDelivery | send | reclose | readable | writable | flush =>
    exact iff_of_false (not_peerClosed_of_eq rfl) nofun

/-! ## Authenticated closes

A run can hand in the result of an open for an outstanding operation that opens no record, since the
core compares ids and not kinds.  The alert in it was not authenticated either, so this is part of
`State.ForgesAlert` too. -/

/-- The event is the result of an outstanding open, and the opened record holds an alert. -/
inductive State.OpensAlert (s : State) : InputEvent → Prop
  | opened {c : ConnId} {op : OperationId} {pt : Bytes} {inner : TLSInnerPlaintext}
      (hop : s.awaits op .aeadOpen) (hp : parseInnerPlaintext pt = .ok inner)
      (ht : inner.ctype = .alert) : s.OpensAlert (.cryptoResult c op (.aeadOpened pt))

/-- Read protection is installed and the connection is live. -/
def State.isProtected (s : State) : Prop :=
  s.handshake.isTerminal = false ∧ s.readEpoch.epoch ≠ .initial

instance (s : State) : Decidable s.isProtected := inferInstanceAs (Decidable (_ ∧ _))

/-- Under read protection the step records a close or an abort by the peer only on an alert inside a
record opened for an outstanding open. -/
def AuthenticatedClose (t : CoreStep) : Prop :=
  t.source.isProtected → PeerClosed t.source t.target → t.source.OpensAlert t.input

/-- The event delivers an alert that changes the close state and was not authenticated: it is the
body of an outer alert record, or it answers an outstanding operation that opens no record. -/
inductive State.ForgesAlert (s : State) : InputEvent → Prop
  | outer {c : ConnId} {b body rest : Bytes} {hdr : Parse.ValidRecordHeader}
      (hh : headOf (s.inboundCiphertext ++ b) = .record hdr body rest)
      (ht : hdr.outerType = .alert) (hbody : s.closedByAlert body) :
      s.ForgesAlert (.transportBytes c b)
  | opened {c : ConnId} {op : OperationId} {pt : Bytes} {inner : TLSInnerPlaintext}
      (hop : s.pendingOps.contains op = true) (hkind : ¬ s.awaits op .aeadOpen)
      (hp : parseInnerPlaintext pt = .ok inner) (ht : inner.ctype = .alert)
      (hbody : s.closedByAlert inner.content) :
      s.ForgesAlert (.cryptoResult c op (.aeadOpened pt))

theorem State.forgesAlert_iff {s : State} {ev : InputEvent} :
    s.ForgesAlert ev ↔ s.ReadsAlert ev ∧ ¬ s.OpensAlert ev := by
  constructor
  · rintro (⟨hh, ht, hbody⟩ | ⟨hop, hkind, hp, ht, hbody⟩)
    · exact ⟨.outer hh ht hbody, nofun⟩
    · exact ⟨.opened hop hp ht hbody, fun h ↦ by cases h with | opened hop' => exact hkind hop'⟩
  · rintro ⟨⟨hh, ht, hbody⟩ | ⟨hop, hp, ht, hbody⟩, hopens⟩
    · exact .outer hh ht hbody
    · exact .opened hop (fun hkind ↦ hopens (.opened hkind hp ht)) hp ht hbody

/-- **Closes by the peer are authenticated exactly when no forged alert is read.**  In a run from a
fresh connection, every step taken under read protection closes or aborts on the peer's behalf only
on an authenticated alert, if and only if no such step reads a forged one. -/
theorem authenticatedClose_iff {conn : ConnId} {gen : ConfigGeneration} {alg : HashAlgorithm}
    {config : ValidatedServerConfig} {tr : List CoreStep} {s : State}
    (h : CoreRun conn gen alg config tr s) :
    (∀ t ∈ tr, AuthenticatedClose t) ↔
      ∀ t ∈ tr, t.source.isProtected → ¬ t.source.ForgesAlert t.input := by
  refine Machine.Run.forall_iff (fun _ ht ↦ Invariant.step ht) (fun t ht hI ↦ ?_) h
    (.initial conn gen alg config)
  refine forall_congr' fun hprot ↦ ?_
  have hout := outcome_of_steps ht hprot.1
  rw [hout.peerClosed_iff (hI.closeState_ne_fatal hprot.1), State.forgesAlert_iff]
  tauto

theorem authenticatedClose_iff_session :
    (∀ t ∈ Session.run Session.connectEvents, AuthenticatedClose t) ↔
      ∀ t ∈ Session.run Session.connectEvents,
        t.source.isProtected → ¬ t.source.ForgesAlert t.input :=
  authenticatedClose_iff (Session.coreRun _)

/-- **A cleartext alert aborts a protected connection.**  After the ServerHello has installed read
protection, an unprotected alert record carrying `close_notify` begins a close by the peer. -/
theorem not_authenticatedClose :
    ¬ ∀ t ∈ Session.run (Session.helloEvents ++
      [.transportBytes Session.conn (frameRecord .alert [1, 0])]), AuthenticatedClose t := by
  have hforged : ∃ t ∈ Session.run (Session.helloEvents ++
      [.transportBytes Session.conn (frameRecord .alert [1, 0])]),
      t.input = .transportBytes Session.conn (frameRecord .alert [1, 0]) ∧
        t.source.isProtected ∧ PeerClosed t.source t.target := by
    decide +kernel
  intro h
  obtain ⟨t, ht, hin, hprot, hclosed⟩ := hforged
  have hopens := h t ht hprot hclosed
  rw [hin] at hopens
  cases hopens

end Kroopt.Core
