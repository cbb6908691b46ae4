import Kroopt.Core.Session

/-!
# After the local close_notify

The graceful close of a connected session seals a close_notify and enters `closing`.  From then on
the connection is to say nothing more: what is still to come is the sealed close_notify itself, and
behind it the close of the transport.  But `closing` is not a terminal phase, so every event is
still handled, and the handlers that fail a connection fail this one as they would any other, with
an alert.

So the question is which events a closing connection refuses.  `State.refusesEvent` answers it by
the event, one definition for each level of nesting: the outer record, its head, the content of an
opened record, the result of an operation.  The rest of the events leave the connection closing, end
it without a word, or hand over a sealed record.  That last case is the other condition of the
result: in `closing` the core writes any sealed record it is handed, whichever operation it was for.

## Main definitions

* `State.refusesEvent s ev`: the closing state `s` answers the event with a fatal failure.
* `ClosingOutcome`: what a closing connection does with an event.
* `ClosesGracefully t`: the step `t` is the graceful close of a connected session.
* `QuietAfter t u` and `AcceptedAfter t u`: what the later step `u` may do, and the condition on its
  event under which it does no more.

## Main results

* `Outcome.closing`: in `closing` an event is refused, hands over a sealed record, reports the end
  of the stream, or is answered without a word to the peer.
* `quietAfter_iff`: one step behind the close is quiet exactly when it is accepted.
* `quietAfterClose_iff`: everything after the close is quiet exactly when no later event is refused
  and every sealed record answers a seal that was outstanding when the close began.
-/

set_option autoImplicit false

namespace Kroopt.Core

open Kroopt.Parse (headOf Head parseInnerPlaintext)

/-! ## What a closing connection refuses -/

namespace State

/-- The framed record fails the closing connection. -/
def refusesRecord (s : State) (body : Bytes) : ContentType → Prop
  | .changeCipherSpec => True
  | .invalid => True
  | .alert => body.length ≠ 2
  | .handshake => ¬ s.fitsFragment body
  | .applicationData => False

/-- The front of the buffer fails the closing connection. -/
def refusesHead (s : State) : Head → Prop
  | .awaiting => False
  | .malformed _ => True
  | .record hdr body _ => s.refusesRecord body hdr.outerType

/-- The inner content fails the closing connection. -/
def refusesInner (s : State) (inner : TLSInnerPlaintext) : Prop :=
  match inner.ctype with
  | .applicationData => True
  | .invalid => True
  | .alert => inner.content.length ≠ 2
  | .handshake => s.readEpoch.seq.next = none
  | .changeCipherSpec => False

/-- The result of an outstanding operation fails the closing connection. -/
def refusesResult (s : State) : CryptoResult → Prop
  | .verifyFailed => True
  | .failed _ => True
  | .aeadOpened pt =>
    match parseInnerPlaintext pt with
    | .error _ => True
    | .ok inner => s.refusesInner inner
  | _ => False

/-- The event fails the closing connection. -/
def refusesEvent (s : State) : InputEvent → Prop
  | .appSend _ _ => True
  | .timeout _ _ => True
  | .transportBytes _ b => s.refusesHead (headOf (s.inboundCiphertext ++ b))
  | .cryptoResult _ op r => s.pendingOps.contains op = true ∧ s.refusesResult r
  | _ => False

end State

/-! ## What a closing connection emits -/

/-- The action says nothing to the peer. -/
def OutputAction.isSilent : OutputAction → Bool
  | .writeTransport _ _ => false
  | .writeHandshake _ _ _ _ => false
  | .writeCertificate _ _ _ _ => false
  | .writeAlert _ _ _ _ => false
  | .acceptPlaintextBytes _ _ => false
  | .callCrypto _ _ req => req.kind != .aeadSeal
  | _ => true

/-- The action transmits an alert. -/
def OutputAction.isAlert : OutputAction → Bool
  | .writeAlert _ _ _ _ => true
  | _ => false

/-- The sealed record an event hands over. -/
def InputEvent.sealResult : InputEvent → Option (OperationId × Bytes)
  | .cryptoResult _ op (.aeadSealed ct) => some (op, ct)
  | _ => none

/-- The action asks the transport to read or to close. -/
def OutputAction.isRequest : OutputAction → Bool
  | .readTransport _ => true
  | .closeTransport _ _ => true
  | _ => false

theorem OutputAction.isSilent_of_isRequest {a : OutputAction} (h : a.isRequest = true) :
    a.isSilent = true := by
  cases a with
  | readTransport | closeTransport => rfl
  | _ => cases h

/-- The connection failed with an alert of its own. -/
def Refused (s' : State) (acts : List OutputAction) : Prop :=
  (∃ a ∈ acts, a.isAlert = true) ∧ ∃ a, s'.handshake = .failed a ∧ s'.closeState = .fatalSent a

/-- Nothing was said to the peer, and the connection is still closing unless the peer aborted it. -/
def Answered (s s' : State) (acts : List OutputAction) : Prop :=
  (∀ a ∈ acts, a.isRequest = true) ∧
    ((s'.handshake = .closing ∧
        (s'.closeState = s.closeState ∨ s'.closeState = .receivedCloseNotify)) ∨
      ∃ a, s'.handshake = .failed a ∧ s'.closeState = .fatalReceived a)

theorem refused_fail (s s₀ : State) (a : AlertDescription) (e : TlsError) :
    Refused (s₀.fail a) (failActions s a e) :=
  ⟨⟨_, List.mem_cons_self, rfl⟩, a, rfl, rfl⟩

theorem answered_of_eq {s s' : State} {acts : List OutputAction} (hc : s'.handshake = .closing)
    (hclose : s'.closeState = s.closeState) (hacts : ∀ a ∈ acts, a.isRequest = true) :
    Answered s s' acts :=
  ⟨hacts, .inl ⟨hc, .inl hclose⟩⟩

/-- What a closing connection does with an event. -/
inductive ClosingOutcome (s : State) (ev : InputEvent) (s' : State) (acts : List OutputAction) :
    Prop
  | refused (h : s.refusesEvent ev) (hs' : Refused s' acts)
  | sealed {op : OperationId} {ct : Bytes} (hev : ev.sealResult = some (op, ct))
      (hop : s.pendingOps.contains op = true) (h : ¬ s.refusesEvent ev)
      (hacts : ∃ tail, acts = .writeTransport s.connId ct :: tail ∧
        ∀ a ∈ tail, a.isRequest = true)
      (hs' : s'.handshake = .closing ∧ s'.closeState = s.closeState)
  | eof {c : ConnId} (hev : ev = .transportEof c)
      (hacts : acts = [.reportError s.connId (.transport .eofBeforeCloseNotify)])
      (hs' : s'.handshake = .failed .closeNotify ∧ s'.closeState = .transportEofBeforeCloseNotify)
  | quiet (h : ¬ s.refusesEvent ev) (hne : ∀ c, ev ≠ .transportEof c)
      (hev : ∀ op ct, ev.sealResult = some (op, ct) → s.pendingOps.contains op = false)
      (hs' : Answered s s' acts)

/-- In `closing` a handshake result gates nothing. -/
theorem handshakeOnGatingResult_closing {s : State} (hc : s.handshake = .closing)
    (op : OperationId) {r : CryptoResult} (h₁ : r ≠ .verifyFailed) (h₂ : ∀ e, r ≠ .failed e) :
    handshakeOnGatingResult s op r = .ok (s.clearOp op, []) := by
  rw [handshakeOnGatingResult.eq_def]
  cases r with
  | verifyFailed => exact absurd rfl h₁
  | failed e => exact absurd rfl (h₂ e)
  | _ => simp [hc]

theorem AlertOutcome.closing {s s' : State} {body : Bytes} {acts : List OutputAction}
    (h : AlertOutcome s body s' acts) :
    (body.length ≠ 2 ∧ Refused s' acts) ∨ (¬ body.length ≠ 2 ∧ Answered s s' acts) := by
  cases h with
  | closeNotify hlen =>
    exact .inr ⟨not_not.mpr hlen, by simp [OutputAction.isRequest], .inl ⟨rfl, .inr rfl⟩⟩
  | fatal hlen =>
    exact .inr ⟨not_not.mpr hlen, by simp [OutputAction.isRequest], .inr ⟨_, rfl, rfl⟩⟩
  | malformed hlen => exact .inl ⟨hlen, refused_fail s s .decodeError _⟩

theorem RecordOutcome.closing {s s' : State} {hdr : Parse.ValidRecordHeader} {body : Bytes}
    {acts : List OutputAction} (h : RecordOutcome s hdr body s' acts)
    (hc : s.handshake = .closing) :
    (s.refusesRecord body hdr.outerType ∧ Refused s' acts) ∨
      (¬ s.refusesRecord body hdr.outerType ∧ Answered s s' acts) := by
  cases h with
  | opens ht hphase => simp [HandshakeState.opensRecords, hc] at hphase
  | noRoom ht hphase => simp [HandshakeState.opensRecords, hc] at hphase
  | unread ht => exact .inr ⟨by simp [ht, State.refusesRecord], answered_of_eq hc rfl (by simp)⟩
  | ccsIgnored ht hphase => exact absurd hc hphase.2.2.1
  | ccsRefused ht => exact .inl ⟨by simp [ht, State.refusesRecord], refused_fail _ _ _ _⟩
  | hsRefused ht hfits =>
    exact .inl ⟨by simpa [ht, State.refusesRecord] using hfits, refused_fail _ _ _ _⟩
  | hsPartial ht hfits =>
    refine .inr ⟨by simpa [ht, State.refusesRecord] using hfits, answered_of_eq hc rfl ?_⟩
    simp [OutputAction.isRequest]
  | @hsMessage msg tail _ _ ht hfits hframe hres =>
    have hphase : (s.reassembled body.length tail).handshake = .closing := hc
    rw [handshakeOnPlaintextRecord_ignored msg (by simp [hphase]) (by simp [hphase])] at hres
    cases hres
    refine .inr ⟨by simpa [ht, State.refusesRecord] using hfits, answered_of_eq hc rfl ?_⟩
    simp
  | alert ht h =>
    rw [ht]
    exact h.closing
  | invalid ht => exact .inl ⟨by simp [ht, State.refusesRecord], refused_fail _ _ _ _⟩

theorem InnerOutcome.closing {s s' : State} {op : OperationId} {inner : TLSInnerPlaintext}
    {acts : List OutputAction} (h : InnerOutcome s op inner s' acts) (hc : s.handshake = .closing) :
    (s.refusesInner inner ∧ Refused s' acts) ∨
      (¬ s.refusesInner inner ∧ Answered s s' acts) := by
  cases h with
  | data ht hphase => simp [hc] at hphase
  | @message sq _ _ ht hphase hseq hres =>
    have hphase : (s.advanced op sq).handshake = .closing := hc
    rw [handshakeOnPlaintextRecord_ignored _ (by simp [hphase]) (by simp [hphase])] at hres
    cases hres
    exact .inr ⟨by simp [State.refusesInner, ht, hseq], answered_of_eq hc rfl (by simp)⟩
  | overflow ht hseq =>
    exact .inl ⟨by simp [State.refusesInner, ht, hc, hseq], refused_fail _ _ _ _⟩
  | earlyData ht => exact .inl ⟨by simp [State.refusesInner, ht], refused_fail _ _ _ _⟩
  | invalid ht => exact .inl ⟨by simp [State.refusesInner, ht], refused_fail _ _ _ _⟩
  | alert ht h =>
    rw [State.refusesInner, ht]
    exact h.closing
  | skipped ht =>
    have hccs : inner.ctype = .changeCipherSpec := by
      simpa [HandshakeState.skipsInner, hc] using ht
    exact .inr ⟨by simp [State.refusesInner, hccs], answered_of_eq hc rfl (by simp)⟩

theorem BytesOutcome.closing {s s' : State} {c : ConnId} {b : Bytes} {acts : List OutputAction}
    (h : BytesOutcome s b s' acts) (hc : s.handshake = .closing) :
    ClosingOutcome s (.transportBytes c b) s' acts := by
  cases h with
  | malformed hh =>
    exact .refused (by simp [State.refusesEvent, State.refusesHead, hh]) (refused_fail _ _ _ _)
  | awaiting hh =>
    refine .quiet (by simp [State.refusesEvent, State.refusesHead, hh]) nofun nofun ?_
    exact answered_of_eq hc rfl (by simp [OutputAction.isRequest])
  | record hh h =>
    rcases h.closing hc with ⟨href, hs'⟩ | ⟨href, hs'⟩
    · refine .refused ?_ hs'
      rw [State.refusesEvent, hh]
      exact href
    · refine .quiet ?_ nofun nofun hs'
      rw [State.refusesEvent, hh]
      exact href

theorem ResultOutcome.closing {s s' : State} {c : ConnId} {op : OperationId} {r : CryptoResult}
    {acts : List OutputAction} (h : ResultOutcome s op r s' acts)
    (hop : s.pendingOps.contains op = true) (hc : s.handshake = .closing) :
    ClosingOutcome s (.cryptoResult c op r) s' acts := by
  cases h with
  | unparsed hp =>
    exact .refused ⟨hop, by simp [State.refusesResult, hp]⟩ (refused_fail _ _ _ _)
  | opened hp h =>
    rcases h.closing hc with ⟨href, hs'⟩ | ⟨href, hs'⟩
    · exact .refused ⟨hop, by simpa [State.refusesResult, hp] using href⟩ hs'
    · exact .quiet (fun h ↦ href (by simpa [State.refusesResult, hp] using h.2)) nofun nofun hs'
  | @sealed ct =>
    refine .sealed rfl hop (fun h ↦ h.2) ⟨_, rfl, ?_⟩ ⟨hc, rfl⟩
    split <;> simp [OutputAction.isRequest]
  | verifyFailed => exact .refused ⟨hop, trivial⟩ (refused_fail _ _ _ _)
  | failed => exact .refused ⟨hop, trivial⟩ (refused_fail _ _ _ _)
  | gating hr hres =>
    rw [handshakeOnGatingResult_closing hc _ hr.2.2.1 hr.2.2.2] at hres
    cases hres
    refine .quiet (fun h ↦ ?_) nofun (fun op' ct hev ↦ ?_) (answered_of_eq hc rfl (by simp))
    · cases r with
      | aeadOpened pt => exact hr.1 pt rfl
      | verifyFailed => exact hr.2.2.1 rfl
      | failed e => exact hr.2.2.2 e rfl
      | _ => exact h.2
    · cases r with
      | aeadSealed ct => exact absurd rfl (hr.2.1 ct)
      | _ => cases hev

/-- **Closing.**  What a closing connection does with an event. -/
theorem Outcome.closing {s s' : State} {ev : InputEvent} {acts : List OutputAction}
    (h : Outcome s ev s' acts) (hc : s.handshake = .closing) (hopen : s.closeState ≠ .open) :
    ClosingOutcome s ev s' acts := by
  cases h with
  | bytes h => exact h.closing hc
  | result hop h => exact h.closing hop hc
  | @stale _ op r hop =>
    refine .quiet (fun h ↦ ?_) nofun (fun op' ct hev ↦ ?_) (answered_of_eq hc rfl (by simp))
    · exact absurd (hop.symm.trans h.1) (by simp)
    · cases r with
      | aeadSealed ct' =>
        cases hev
        exact hop
      | _ => cases hev
  | deliver hphase => cases hc.symm.trans hphase
  | send hphase => cases hc.symm.trans hphase
  | closeNotify hopen' | closeNotifyRefused hopen' | closeEarly hopen' | closeFatal hopen'
  | closeAbortive hopen' => exact absurd hopen' hopen
  | sendRefused => exact .refused trivial (refused_fail _ _ _ _)
  | timeout => exact .refused trivial (refused_fail _ _ _ _)
  | eof => exact .eof rfl rfl ⟨rfl, rfl⟩
  | noDelivery | writable | flush =>
    exact .quiet id nofun nofun (answered_of_eq hc rfl (by simp))
  | reclose | readable =>
    exact .quiet id nofun nofun (answered_of_eq hc rfl (by simp [OutputAction.isRequest]))

/-! ## After the close

Behind the close a run stays in `closing`, or has ended and does nothing.  So the condition can be
asked of each later step by itself, with the state it starts from. -/

/-- The step begins the graceful close of a connected session. -/
def ClosesGracefully (t : CoreStep) : Prop :=
  t.source.handshake = .connected ∧ t.target.closeState = .sentCloseNotify

instance (t : CoreStep) : Decidable (ClosesGracefully t) := inferInstanceAs (Decidable (_ ∧ _))

/-- The action is allowed in a step `u` behind the closing step `t`: it says nothing to the peer, or
it hands over the ciphertext of a seal that was outstanding when the close began. -/
def AllowedAfter (t u : CoreStep) : OutputAction → Prop
  | .writeTransport _ b =>
    ∃ op, u.input.sealResult = some (op, b) ∧ t.target.awaits op .aeadSeal
  | a => a.isSilent = true

def QuietAfter (t u : CoreStep) : Prop := ∀ a ∈ u.output, AllowedAfter t u a

/-- The step `u` is not refused, and a sealed record it hands over answers a seal that was
outstanding when the close `t` began. -/
def AcceptedAfter (t u : CoreStep) : Prop :=
  u.source.handshake.isTerminal = false → ¬ u.source.refusesEvent u.input ∧
    ∀ op ct, u.input.sealResult = some (op, ct) → u.source.pendingOps.contains op = true →
      t.target.awaits op .aeadSeal

theorem allowedAfter_of_isSilent (t u : CoreStep) {a : OutputAction} (h : a.isSilent = true) :
    AllowedAfter t u a := by
  cases a with
  | writeTransport => cases h
  | _ => exact h

theorem not_allowedAfter_of_isAlert (t u : CoreStep) {a : OutputAction} (h : a.isAlert = true) :
    ¬ AllowedAfter t u a := by
  cases a with
  | writeAlert => exact nofun
  | _ => cases h

/-- **One step** behind the close is quiet exactly when it is accepted. -/
theorem quietAfter_iff (t : CoreStep) {u : CoreStep} (hu : Machine.Steps step u)
    (hI : Invariant u.source) (hlive : u.source.handshake.isLive = false) :
    QuietAfter t u ↔ AcceptedAfter t u := by
  cases hterm : u.source.handshake.isTerminal with
  | true =>
    refine iff_of_true (fun a ha ↦ ?_) fun h ↦ ?_
    · rw [(target_of_terminal hu hterm).2] at ha
      cases ha
    · cases hterm.symm.trans h
  | false =>
    have hc : u.source.handshake = .closing := by
      by_contra hne
      cases hlive.symm.trans (HandshakeState.isLive_iff.mpr ⟨hterm, hne⟩)
    have hopen : u.source.closeState ≠ .open := by
      rcases hI.isClosing hc with h | h <;> simp [h]
    rw [AcceptedAfter, forall_prop_of_true hterm]
    cases (outcome_of_steps hu hterm).closing hc hopen with
    | refused href hs' =>
      obtain ⟨⟨a, ha, halert⟩, -⟩ := hs'
      refine iff_of_false (fun h ↦ not_allowedAfter_of_isAlert t u halert (h a ha)) ?_
      exact fun h ↦ h.1 href
    | eof hev hacts =>
      refine iff_of_true (fun a ha ↦ allowedAfter_of_isSilent t u ?_) ?_
      · rw [hacts, List.mem_singleton] at ha
        rw [ha]
        rfl
      · rw [hev]
        exact ⟨id, nofun⟩
    | quiet href hne hev hs' =>
      refine iff_of_true (fun a ha ↦ ?_) ⟨href, ?_⟩
      · exact allowedAfter_of_isSilent t u (OutputAction.isSilent_of_isRequest (hs'.1 a ha))
      intro op ct hseal hop
      cases hop.symm.trans (hev op ct hseal)
    | sealed hev hop href hacts =>
      obtain ⟨tail, hacts, hrequest⟩ := hacts
      constructor
      · intro hquiet
        refine ⟨href, fun op' ct' hseal _ ↦ ?_⟩
        obtain ⟨op'', hseal', hop''⟩ := hquiet _ (by rw [hacts]; exact List.mem_cons_self)
        cases hev.symm.trans hseal
        cases hev.symm.trans hseal'
        exact hop''
      · rintro ⟨-, hseal⟩ a ha
        rw [hacts] at ha
        rcases List.mem_cons.mp ha with rfl | ha
        · exact ⟨_, hev, hseal _ _ hev hop⟩
        · exact allowedAfter_of_isSilent t u (OutputAction.isSilent_of_isRequest (hrequest a ha))

/-- Behind the close a run is quiet exactly when it is accepted. -/
theorem quiet_behind_iff {t : CoreStep} {post : List CoreStep} {s : State}
    (hI : Invariant t.target) (h : Machine.Run step t.target post s)
    (hclose : t.target.closeState = .sentCloseNotify) :
    (∀ u ∈ post, QuietAfter t u) ↔ ∀ u ∈ post, AcceptedAfter t u := by
  have hlive : t.target.handshake.isLive = false := by
    cases hl : t.target.handshake.isLive with
    | false => rfl
    | true =>
      obtain ⟨hterm, hne⟩ := HandshakeState.isLive_iff.mp hl
      cases hclose.symm.trans (hI.isOpen hterm hne)
  refine h.forall_iff (I := fun s ↦ Invariant s ∧ s.handshake.isLive = false)
    (fun u hu hJ ↦ ⟨Invariant.step hu hJ.1, ?_⟩) (fun u hu hJ ↦ quietAfter_iff t hu hJ.1 hJ.2)
    ⟨hI, hlive⟩
  cases hl : u.target.handshake.isLive with
  | false => rfl
  | true => cases hJ.2.symm.trans (isLive_source hu hl)

/-- **After the local close everything is quiet exactly when everything is accepted.**  In a run
from a fresh connection, behind the step that begins the graceful close, no step emits another
seal, an acceptance of plaintext, a handshake message or an alert, and only records sealed before
the close are written, if and only if no later event is refused and every sealed record answers a
seal that was outstanding when the close began. -/
theorem quietAfterClose_iff {conn : ConnId} {gen : ConfigGeneration} {alg : HashAlgorithm}
    {config : ValidatedServerConfig} {tr : List CoreStep} {s : State}
    (h : CoreRun conn gen alg config tr s) :
    tr.Pairwise (fun t u ↦ ClosesGracefully t → QuietAfter t u) ↔
      tr.Pairwise (fun t u ↦ ClosesGracefully t → AcceptedAfter t u) := by
  refine h.pairwise_iff fun pre t post hpre ht hpost ↦ ?_
  by_cases hclose : ClosesGracefully t
  · have hI : Invariant t.target := Invariant.step ht (CoreRun.invariant hpre)
    simpa [hclose] using quiet_behind_iff hI hpost hclose.2
  · simp [hclose]

theorem quietAfterClose_iff_session :
    (Session.run Session.connectEvents).Pairwise
        (fun t u ↦ ClosesGracefully t → QuietAfter t u) ↔
      (Session.run Session.connectEvents).Pairwise
        (fun t u ↦ ClosesGracefully t → AcceptedAfter t u) :=
  quietAfterClose_iff (Session.coreRun _)

/-- A send behind the close is answered with an alert record. -/
theorem not_quietAfterClose :
    ¬ (Session.run (Session.connectEvents ++
      [.appClose Session.conn .graceful, .appSend Session.conn [1]])).Pairwise
        (fun t u ↦ ClosesGracefully t → QuietAfter t u) := by
  have halert : ¬ (Session.run (Session.connectEvents ++
      [.appClose Session.conn .graceful, .appSend Session.conn [1]])).Pairwise
        (fun t u ↦ ClosesGracefully t → ∀ a ∈ u.output, a.isAlert = false) := by
    decide +kernel
  refine fun h ↦ halert (h.imp fun {t u} hquiet hclose a ha ↦ ?_)
  have hallowed := hquiet hclose a ha
  cases hb : a.isAlert with
  | false => rfl
  | true => exact absurd hallowed (not_allowedAfter_of_isAlert t u hb)

end Kroopt.Core
