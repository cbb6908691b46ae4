import Kroopt.Conn.TlsConn
import Kroopt.Properties.LocalClose
import Kroopt.Properties.PeerClose

/-!
# After the peer's close_notify

An authenticated close_notify in `connected` leaves the connection in `closing`, with the peer's
close on record.  Two things are asked of it: later events do not reclassify it, and `recv` reports
the end of the stream from then on.

The first is a matter of the events.  A closing connection still fails on what it refuses, takes the
end of the transport for a truncation, and lets a later alert of the peer overwrite the record.
`State.losesClose` lists these, and everything else leaves the close as it is.

The second fails altogether.  `recv` asks the core for plaintext and hands out what comes.  If
nothing does, it reports how the connection ended if it has, and otherwise pulls a record and tries
once more.  There is no path that returns `eof`, so no connection ever reads to a clean end, and
this needs no run: it is true of every value of the type.

## Main definitions

* `CleanlyClosed s` and `AcceptsClose t`: the peer's close is on record, and the step that records
  it.
* `KeepsClose u`: the step leaves it on record, and reports no truncation.
* `State.losesClose s ev`: the event reclassifies the close.
* `TlsConn.ReadsCleanly c`: the reads from here on hand out what is buffered, and then the end of
  the stream.

## Main results

* `Outcome.cleanlyClosed`: an event behind the close either loses it, or leaves it as it is.
* `TlsConn.recv_ne_eof`: `recv` never reports the end of the stream, on any connection.
* `cleanClose_iff`: the durable runs are those in which no event loses the close, and no connection
  at all reads cleanly.
-/

set_option autoImplicit false

namespace Kroopt.Core

/-- The peer's clean close is on record. -/
def CleanlyClosed (s : State) : Prop :=
  s.handshake = .closing ∧ s.closeState = .receivedCloseNotify

instance (s : State) : Decidable (CleanlyClosed s) := inferInstanceAs (Decidable (_ ∧ _))

/-- The step accepts an authenticated close_notify of the peer in `connected`. -/
def AcceptsClose (t : CoreStep) : Prop :=
  t.source.handshake = .connected ∧ t.source.OpensAlert t.input ∧ CleanlyClosed t.target

/-- The close states that a clean close must not turn into. -/
def CloseState.isLoss : CloseState → Bool
  | transportEofBeforeCloseNotify => true
  | fatalSent _ => true
  | fatalReceived _ => true
  | _ => false

def OutputAction.reportsTruncation : OutputAction → Bool
  | .reportError _ e => decide (e = .transport .eofBeforeCloseNotify)
  | _ => false

/-- The step leaves the clean close alone. -/
def KeepsClose (u : CoreStep) : Prop :=
  (u.target.closeState ≠ u.source.closeState → u.target.closeState.isLoss = false) ∧
    ∀ a ∈ u.output, a.reportsTruncation = false

instance (u : CoreStep) : Decidable (KeepsClose u) := inferInstanceAs (Decidable (_ ∧ _))

/-- The event loses the close: it is the end of the stream, it is refused, or it delivers a fatal
alert. -/
def State.losesClose (s : State) (ev : InputEvent) : Prop :=
  (∃ c, ev = .transportEof c) ∨ s.refusesEvent ev ∨ s.ReadsAlert ev

theorem reportsTruncation_of_isRequest {a : OutputAction} (h : a.isRequest = true) :
    a.reportsTruncation = false := by
  cases a with
  | reportError => cases h
  | _ => rfl

/-- **Behind a clean close** an event either loses it, or leaves it as it is. -/
theorem Outcome.cleanlyClosed {s s' : State} {ev : InputEvent} {acts : List OutputAction}
    (h : Outcome s ev s' acts) (hc : CleanlyClosed s) :
    (s.losesClose ev ∧ s'.handshake.isTerminal = true ∧
      s'.closeState ≠ s.closeState ∧ s'.closeState.isLoss = true) ∨
    (¬ s.losesClose ev ∧ CleanlyClosed s' ∧ ∀ a ∈ acts, a.reportsTruncation = false) := by
  have hpeer := h.peerClosed_iff (fun a ↦ by simp [hc.2])
  cases h.closing hc.1 (by simp [hc.2]) with
  | refused href hs' =>
    obtain ⟨-, a, hphase, hclose⟩ := hs'
    exact .inl ⟨.inr (.inl href), by rw [hphase]; rfl, by simp [hclose, hc.2],
      by rw [hclose]; rfl⟩
  | eof hev hacts hs' =>
    exact .inl ⟨.inl ⟨_, hev⟩, by rw [hs'.1]; rfl, by simp [hs'.2, hc.2], by rw [hs'.2]; rfl⟩
  | sealed hev hop href hacts hs' =>
    obtain ⟨tail, rfl, hrequest⟩ := hacts
    refine .inr ⟨?_, ⟨hs'.1, hs'.2.trans hc.2⟩, fun a ha ↦ ?_⟩
    · rintro (⟨c, rfl⟩ | href' | hread)
      · cases hev
      · exact href href'
      · exact (hpeer.mpr hread).1 hs'.2
    · rcases List.mem_cons.mp ha with rfl | ha
      · rfl
      · exact reportsTruncation_of_isRequest (hrequest a ha)
  | quiet href hne hev hs' =>
    obtain ⟨hrequest, ⟨hphase, hclose⟩ | ⟨a, hphase, hclose⟩⟩ := hs'
    · have hclose : s'.closeState = .receivedCloseNotify := by
        rcases hclose with h | h
        · exact h.trans hc.2
        · exact h
      refine .inr ⟨?_, ⟨hphase, hclose⟩, fun a ha ↦ reportsTruncation_of_isRequest (hrequest a ha)⟩
      rintro (⟨c, rfl⟩ | href' | hread)
      · exact hne c rfl
      · exact href href'
      · exact (hpeer.mpr hread).1 (hclose.trans hc.2.symm)
    · have hread : s.ReadsAlert ev := by
        refine hpeer.mp ⟨by simp [hclose, hc.2], ?_⟩
        rw [hclose]
        rfl
      exact .inl ⟨.inr (.inr hread), by rw [hphase]; rfl, by simp [hclose, hc.2],
        by rw [hclose]; rfl⟩

/-- The clean close is on record, or it has been lost. -/
def ClosedOnce (s : State) : Prop := s.handshake.isTerminal = true ∨ CleanlyClosed s

theorem ClosedOnce.step {u : CoreStep} (hu : Machine.Steps step u) (h : ClosedOnce u.source) :
    ClosedOnce u.target := by
  cases hterm : u.source.handshake.isTerminal with
  | true => exact .inl (by rw [(target_of_terminal hu hterm).1]; exact hterm)
  | false =>
    have hc : CleanlyClosed u.source := h.resolve_left (by simp [hterm])
    rcases (outcome_of_steps hu hterm).cleanlyClosed hc with ⟨-, h, -⟩ | ⟨-, h, -⟩
    · exact .inl h
    · exact .inr h

/-- **One step** behind the close keeps it exactly when its event does not lose it. -/
theorem keepsClose_iff {u : CoreStep} (hu : Machine.Steps step u) (h : ClosedOnce u.source) :
    KeepsClose u ↔ (u.source.handshake.isTerminal = false → ¬ u.source.losesClose u.input) := by
  cases hterm : u.source.handshake.isTerminal with
  | true =>
    obtain ⟨htarget, hout⟩ := target_of_terminal hu hterm
    refine iff_of_true ⟨fun hne ↦ absurd (by rw [htarget]) hne, ?_⟩ nofun
    simp [hout]
  | false =>
    have hc : CleanlyClosed u.source := h.resolve_left (by simp [hterm])
    rw [forall_prop_of_true rfl]
    rcases (outcome_of_steps hu hterm).cleanlyClosed hc with
      ⟨hlose, -, hne, hloss⟩ | ⟨hlose, hc', ha⟩
    · refine iff_of_false (fun h ↦ ?_) (not_not.mpr hlose)
      cases hloss.symm.trans (h.1 hne)
    · refine iff_of_true ⟨fun hne ↦ absurd (hc'.2.trans hc.2.symm) hne, ha⟩ hlose

end Kroopt.Core

namespace Kroopt.Conn

open Kroopt.Crypto (Hacl)

namespace TlsConn

variable [Hacl] {τ : Type} [Transport τ]

omit [Hacl] [Transport τ] in
theorem deliver_ne_eof {c : TlsConn τ} {r : TlsConn τ × TlsReadResult}
    (h : c.deliver = some r) : r.2 ≠ .eof := by
  rw [deliver] at h
  split at h
  · cases h
    simp
  · cases h

omit [Hacl] [Transport τ] in
theorem readEnded_ne_eof (c : TlsConn τ) : c.readEnded.2 ≠ .eof := by
  rw [readEnded]
  split <;> simp

/-- **`recv` never reports the end of the stream**, whatever the connection has been through. -/
theorem recv_ne_eof (c : TlsConn τ) : c.recv.2 ≠ .eof := by
  rw [recv]
  dsimp only
  split
  · exact deliver_ne_eof ‹_›
  · split
    · exact readEnded_ne_eof _
    · split
      · exact deliver_ne_eof ‹_›
      · split
        · exact readEnded_ne_eof _
        · simp

/-- What a number of `recv` calls in a row return. -/
def recvAll (c : TlsConn τ) : Nat → List TlsReadResult
  | 0 => []
  | n + 1 => c.recv.2 :: c.recv.1.recvAll n

omit [Hacl] [Transport τ] in
/-- The authenticated plaintext a connection holds. -/
def buffered (c : TlsConn τ) : List Bytes :=
  c.rt.plaintextOut.toList ++ c.core.pendingPlainOut.toList

/-- However often `recv` is called, it returns the buffered plaintext and then the end of the
stream. -/
def ReadsCleanly (c : TlsConn τ) : Prop :=
  ∀ n, c.recvAll n =
    (c.buffered.map TlsReadResult.bytes ++ List.replicate n TlsReadResult.eof).take n

theorem eof_notMem_recvAll (c : TlsConn τ) (n : Nat) : .eof ∉ c.recvAll n := by
  induction n generalizing c with
  | zero => simp [recvAll]
  | succ n ih =>
    rw [recvAll, List.mem_cons, not_or]
    exact ⟨(recv_ne_eof c).symm, ih c.recv.1⟩

theorem not_readsCleanly (c : TlsConn τ) : ¬ c.ReadsCleanly := by
  intro h
  have hmem : TlsReadResult.eof ∈ c.recvAll (c.buffered.length + 1) := by
    rw [h, List.mem_iff_getElem?]
    refine ⟨c.buffered.length, ?_⟩
    rw [List.getElem?_take_of_lt (Nat.lt_succ_self _), List.getElem?_append_right (by simp)]
    simp
  exact eof_notMem_recvAll c _ hmem

end TlsConn

/-- **A clean close.**  In a run from a fresh connection no event behind an authenticated
close_notify reclassifies it or reports a truncation, if and only if no such event loses the
close.  And no connection, over any transport and provider, answers further reads with its buffered
plaintext and then the end of the stream. -/
theorem cleanClose_iff {conn : Core.ConnId} {gen : Core.ConfigGeneration}
    {alg : Core.HashAlgorithm} {config : Core.ValidatedServerConfig} {tr : List Core.CoreStep}
    {s : Core.State} (h : Core.CoreRun conn gen alg config tr s) :
    (tr.Pairwise (fun t u ↦ Core.AcceptsClose t → Core.KeepsClose u) ↔
      tr.Pairwise (fun t u ↦ Core.AcceptsClose t → u.source.handshake.isTerminal = false →
        ¬ u.source.losesClose u.input)) ∧
    ∀ (τ : Type) [Transport τ] [Hacl] (c : TlsConn τ), ¬ c.ReadsCleanly := by
  refine ⟨h.pairwise_iff fun pre t post hpre ht hpost ↦ ?_, fun τ _ _ c ↦ c.not_readsCleanly⟩
  by_cases hacc : Core.AcceptsClose t
  · have hafter := hpost.forall_iff (fun u hu ↦ Core.ClosedOnce.step hu)
      (fun u hu hJ ↦ Core.keepsClose_iff hu hJ) (.inr hacc.2.2)
    simpa [hacc] using hafter
  · simp [hacc]

theorem cleanClose_iff_session :
    ((Core.Session.run Core.Session.connectEvents).Pairwise
        (fun t u ↦ Core.AcceptsClose t → Core.KeepsClose u) ↔
      (Core.Session.run Core.Session.connectEvents).Pairwise
        (fun t u ↦ Core.AcceptsClose t → u.source.handshake.isTerminal = false →
          ¬ u.source.losesClose u.input)) ∧
    ∀ (τ : Type) [Transport τ] [Hacl] (c : TlsConn τ), ¬ c.ReadsCleanly :=
  cleanClose_iff (Core.Session.coreRun _)

/-- The end of the stream behind an authenticated close_notify is reported as a truncation. -/
theorem not_keepsClose :
    ¬ (Core.Session.run (Core.Session.connectEvents ++
      [.transportBytes Core.Session.conn (Core.frameRecord .applicationData [0]),
        Core.Session.answer 19 (.aeadOpened [1, 0, 21]), .transportEof Core.Session.conn])).Pairwise
      (fun t u ↦ Core.AcceptsClose t → Core.KeepsClose u) := by
  have hlost : ¬ (Core.Session.run (Core.Session.connectEvents ++
      [.transportBytes Core.Session.conn (Core.frameRecord .applicationData [0]),
        Core.Session.answer 19 (.aeadOpened [1, 0, 21]), .transportEof Core.Session.conn])).Pairwise
      (fun t u ↦ t.source.handshake = .connected → t.source.awaits ⟨19⟩ .aeadOpen →
        t.input = Core.Session.answer 19 (.aeadOpened [1, 0, 21]) →
        Core.CleanlyClosed t.target → Core.KeepsClose u) := by
    decide +kernel
  refine fun h ↦ hlost (h.imp fun {t u} hkeeps hphase hop hin hclosed ↦
    hkeeps ⟨hphase, ?_, hclosed⟩)
  rw [hin]
  exact .opened hop rfl rfl

end Kroopt.Conn
