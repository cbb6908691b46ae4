import Kroopt.Conn.Drive
import Kroopt.Core.Session
import Mathlib.Algebra.GroupWithZero.Nat
import Mathlib.Data.List.Infix

/-!
# Retained inbound bytes

`inboundOwnership` charges a connection for the bytes of the peer that it retains, field by field:
the two inbound buffers, the plaintext that waits, the messages of the client in the transcript, the
ClientFinished that is being verified, and what was negotiated from the ClientHello.
`TlsConn.retainedBytes` counts them on its own: the same fields, and every copy of the client's
bytes that another part of the state holds.

The key schedule is the part that is not charged.  When it is started it takes the text of the
transcript, and with it the ClientHello, and keeps it for the rest of the connection; later it takes
the text up to the server Finished as well.  So the charge stops being an upper bound at the moment
in which the key schedule starts, and since nothing ever stops it again, that is the only moment to
look for.  Along a run it is one event: the answer to the key exchange.

## Main definitions

* `StartsSchedule t`: the step reads the answer to the key exchange, in the phase that waits for it.
* `copiedBytes` and `duplicatedBytes`: the bytes of the client in a copied text, and those that only
  a copy holds: in the key schedule, and in the messages of the server that repeat them.
* `TlsConn.retainedBytes`: everything that is retained.

## Main results

* `keySched_step_iff`: one step leaves the key schedule unstarted exactly when it does not read that
  answer.
* `CoreRun.keySched_iff`: the key schedule has not been started exactly if no step has started it.
* `retainedBytes_eq`: what is retained is the charge and the copies.
* `duplicatedBytes_eq_zero_iff`: in a reachable state there are no copies exactly as long as the key
  schedule has not been started.
* `ownedInboundBytes_bound_iff`: the charge is an upper bound up to there and no further.
-/

set_option autoImplicit false

namespace Kroopt.Core

/-! ## When the key schedule starts -/

/-- The step reads the answer to the key exchange, which starts the key schedule. -/
def StartsSchedule (t : CoreStep) : Prop :=
  t.source.handshake = .requestedEcdhe ∧ ∃ c op share secret,
    t.input = .cryptoResult c op (.ecdheComplete share secret) ∧
      t.source.pendingOps.contains op = true

theorem SameSchedule.none_iff {k k' : Option KeyScheduleDriver.State} (h : SameSchedule k k') :
    k' = none ↔ k = none := by
  rw [SameSchedule] at h
  cases k <;> cases k' <;> simp_all

theorem Move.keySched_iff {s s' : State} {acts : List OutputAction} (h : Move s s' acts)
    (hphase : s.handshake ≠ .requestedEcdhe) : s'.keySched = none ↔ s.keySched = none := by
  cases h with
  | ignored | clientHello | serverRandom | certificateVerify | clientFinished | verified =>
    exact Iff.rfl
  | failed hs => exact hs.sched.none_iff
  | ecdhe hphase' => exact absurd hphase' hphase
  | pump _ _ _ hksd => exact hksd.none_iff
  | rest _ hksd => exact hksd.none_iff
  | serverFlight _ _ hksd => exact hksd.none_iff
  | serverFinished _ _ _ hksd => exact hksd.none_iff
  | applicationKeys _ hksd => exact hksd.none_iff

/-- While the key exchange is awaited, any other result leaves the key schedule alone. -/
theorem keySched_of_gating {s s' : State} {op : OperationId} {r : CryptoResult}
    {acts : List OutputAction} (hphase : s.handshake = .requestedEcdhe)
    (hr : ∀ share secret, r ≠ .ecdheComplete share secret)
    (h : handshakeOnGatingResult s op r = .ok (s', acts)) : s'.keySched = s.keySched := by
  rw [handshakeOnGatingResult.eq_def] at h
  cases r with
  | ecdheComplete share secret => exact absurd rfl (hr share secret)
  | _ =>
    simp only [State.clearOp_handshake, hphase, reduceCtorEq, if_false] at h
    cases h
    rfl

/-- The answer to the key exchange starts the key schedule. -/
theorem keySched_of_answer {s s' : State} {op : OperationId} {share : Bytes}
    {secret : SecretKeyHandle} {acts : List OutputAction} (hI : Invariant s)
    (hphase : s.handshake = .requestedEcdhe) (hop : s.pendingOps.contains op = true)
    (h : handshakeOnGatingResult s op (.ecdheComplete share secret) = .ok (s', acts)) :
    s'.keySched ≠ none := by
  have hflight : s.handshake.inFlight = true := by rw [hphase]; rfl
  have hphase' : (s.clearOp op).handshake = .requestedEcdhe := hphase
  rw [handshakeOnGatingResult, if_pos hphase', onEcdheDone, if_pos hphase'] at h
  rcases allocOpOrFail_cases h with ⟨-, h⟩ | ⟨hfull, -⟩
  · cases h
    simp
  · exact absurd ((hI.clearOp op).room hflight (hI.ops_clearOp hop hflight)) hfull

theorem keySched_of_message {s s' : State} {msg : Bytes} {acts : List OutputAction}
    (h : handshakeOnPlaintextRecord s msg = .ok (s', acts)) :
    s'.keySched = none ↔ s.keySched = none := by
  by_cases hphase : s.handshake = .requestedEcdhe
  · rw [handshakeOnPlaintextRecord_ignored msg (by simp [hphase]) (by simp [hphase])] at h
    cases h
    exact Iff.rfl
  · exact ((handshakeOnPlaintextRecord_moves s msg).move h).keySched_iff hphase

theorem AlertOutcome.keySched {s s' : State} {body : Bytes} {acts : List OutputAction}
    (h : AlertOutcome s body s' acts) : s'.keySched = s.keySched := by
  cases h <;> rfl

theorem BytesOutcome.keySched_iff {s s' : State} {b : Bytes} {acts : List OutputAction}
    (h : BytesOutcome s b s' acts) : s'.keySched = none ↔ s.keySched = none := by
  cases h with
  | malformed | awaiting => exact Iff.rfl
  | record hh h =>
    cases h with
    | hsMessage _ _ _ hres =>
      have hkept := keySched_of_message hres
      exact hkept
    | alert _ h => rw [h.keySched, State.received_keySched]
    | opens | noRoom | unread | ccsIgnored | ccsRefused | hsRefused | hsPartial | invalid =>
      exact Iff.rfl

theorem ResultOutcome.keySched_iff {s s' : State} {op : OperationId} {r : CryptoResult}
    {acts : List OutputAction} (h : ResultOutcome s op r s' acts)
    (hr : s.handshake = .requestedEcdhe → ∀ share secret, r ≠ .ecdheComplete share secret) :
    s'.keySched = none ↔ s.keySched = none := by
  cases h with
  | opened hp h =>
    cases h with
    | message _ _ _ hres =>
      have hkept := keySched_of_message hres
      exact hkept
    | alert _ h =>
      rw [h.keySched]
      exact Iff.rfl
    | data | overflow | earlyData | invalid | skipped => exact Iff.rfl
  | gating _ hres =>
    by_cases hphase : s.handshake = .requestedEcdhe
    · rw [keySched_of_gating hphase (hr hphase) hres]
    · exact ((handshakeOnGatingResult_moves s op r).move hres).keySched_iff hphase
  | unparsed | sealed | verifyFailed | failed => exact Iff.rfl

/-- Only the answer to the key exchange starts the key schedule. -/
theorem Outcome.keySched_iff {s s' : State} {ev : InputEvent} {acts : List OutputAction}
    (h : Outcome s ev s' acts) (hstart : ¬ StartsSchedule ⟨s, ev, acts, s'⟩) :
    s'.keySched = none ↔ s.keySched = none := by
  cases h with
  | bytes h => exact h.keySched_iff
  | @result c op r _ _ hop h =>
    refine h.keySched_iff fun hphase share secret heq ↦
      hstart ⟨hphase, c, op, share, secret, ?_, hop⟩
    rw [heq]
  | stale | deliver | noDelivery | send | sendRefused | closeNotify | closeNotifyRefused
  | closeEarly | closeFatal | closeAbortive | reclose | eof | timeout | readable | writable
  | flush => exact Iff.rfl

/-- **One step** leaves the key schedule unstarted exactly when it finds it so and does not read the
answer to the key exchange. -/
theorem keySched_step_iff {t : CoreStep} (ht : Machine.Steps step t) (hI : Invariant t.source) :
    t.target.keySched = none ↔ t.source.keySched = none ∧ ¬ StartsSchedule t := by
  cases hlive : t.source.handshake.isTerminal with
  | true =>
    have hno : ¬ StartsSchedule t := fun h ↦ by simp [h.1, HandshakeState.isTerminal] at hlive
    rw [(target_of_terminal ht hlive).1]
    simp [hno]
  | false =>
    have hout := outcome_of_steps ht hlive
    by_cases hstart : StartsSchedule t
    · refine iff_of_false ?_ fun h ↦ h.2 hstart
      obtain ⟨s, ev, acts, s'⟩ := t
      obtain ⟨hphase, c, op, share, secret, rfl, hop⟩ := hstart
      cases hout with
      | stale hstale => cases hstale.symm.trans hop
      | result _ h =>
        cases h with
        | gating _ hres => exact keySched_of_answer hI hphase hop hres
    · exact (hout.keySched_iff hstart).trans (and_iff_left hstart).symm

/-- In a run from a fresh connection the key schedule is unstarted as long as no step starts it. -/
theorem CoreRun.keySched_iff {conn : ConnId} {gen : ConfigGeneration} {alg : HashAlgorithm}
    {config : ValidatedServerConfig} {tr : List CoreStep} {s : State}
    (h : CoreRun conn gen alg config tr s) :
    s.keySched = none ↔ ∀ t ∈ tr, ¬ StartsSchedule t := by
  have hend := h.end_iff (P := fun s ↦ s.keySched = none) (fun _ ht hI ↦ hI.step ht)
    (fun _ ht hI ↦ keySched_step_iff ht hI) (.initial conn gen alg config)
  exact hend.trans (and_iff_right rfl)

end Kroopt.Core

namespace Kroopt.Conn

open Kroopt.Core (State TranscriptEvent ConnId ConfigGeneration HashAlgorithm ValidatedServerConfig
  StartsSchedule)
open Kroopt.Crypto (CryptoProvider Hacl)

/-! ## What is retained

A copied text is the concatenation of the transcript as it stood, so how much of it is the client's
is found by comparing it with the messages of the client, one by one. -/

/-- The bytes of the client's messages that occur in a text. -/
def copiedBytes (events : List TranscriptEvent) (text : Bytes) : Nat :=
  ((events.filter fun e ↦ decide (e.eventMeta.direction = .read ∧ e.wireBytes <:+: text)).map
    (·.wireBytes.length)).sum

/-- The bytes of the client that a message of the server repeats: its session id, and the protocol
it offered. -/
def echoedBytes (s : State) (e : TranscriptEvent) : Nat :=
  match e.eventMeta.direction, e.eventMeta.kind with
  | .write, .serverHello => s.negotiated.clientSessionId.length
  | .write, .encryptedExtensions => (s.negotiated.selectedAlpn.map (·.bytes.length)).getD 0
  | _, _ => 0

/-- The bytes of the client that only a copy holds: in the texts of the key schedule, and in the
server's own messages. -/
def duplicatedBytes (s : State) : Nat :=
  ((s.keySched.map fun k ↦ copiedBytes s.transcript.events k.hsTranscript +
    copiedBytes s.transcript.events k.apTranscript).getD 0) +
    (s.transcript.events.map (echoedBytes s)).sum

namespace TlsConn

variable {τ : Type}

/-- The bytes of the client that a connection retains, every copy counted. -/
def retainedBytes (c : TlsConn τ) : Nat :=
  c.core.inboundCiphertext.length + c.core.handshakeReasm.length +
    optionByteSize c.core.pendingPlainOut + optionByteSize c.rt.plaintextOut +
    ((c.core.transcript.events.filter fun e ↦ decide (e.eventMeta.direction = .read)).map
      (·.wireBytes.length)).sum +
    optionByteSize c.core.pendingClientFinished + optionByteSize c.core.negotiated.selectedSni +
    optionByteSize c.core.negotiated.clientShare + c.core.negotiated.clientSessionId.length +
    (c.core.negotiated.selectedAlpn.map (·.bytes.length)).getD 0 + duplicatedBytes c.core

/-- The transcript is charged for the messages of the client. -/
theorem foldl_addRead (events : List TranscriptEvent) (n : Nat) :
    events.foldl addRead n =
      n + ((events.filter fun e ↦ decide (e.eventMeta.direction = .read)).map
        (·.wireBytes.length)).sum := by
  induction events generalizing n with
  | nil => rfl
  | cons e events ih =>
    rw [List.foldl_cons, ih, addRead]
    cases hdir : e.eventMeta.direction <;> simp [hdir, Nat.add_assoc]

/-- **The charge** covers everything but the copies. -/
theorem retainedBytes_eq (c : TlsConn τ) :
    c.retainedBytes = c.ownedInboundBytes + duplicatedBytes c.core := by
  simp only [retainedBytes, ownedInboundBytes, inboundOwnership, InboundOwnership.total,
    foldl_addRead]
  omega

end TlsConn

/-- A message of the client that occurs in a text is counted there. -/
theorem copiedBytes_pos {events : List TranscriptEvent} {text : Bytes} {e : TranscriptEvent}
    (he : e ∈ events) (hfrom : e.fromClient) (htext : e.wireBytes <:+: text) :
    0 < copiedBytes events text := by
  obtain ⟨hdir, hne⟩ := hfrom
  rw [copiedBytes, List.sum_pos_iff_exists_pos_nat]
  refine ⟨e.wireBytes.length, List.mem_map_of_mem ?_, List.length_pos_of_ne_nil hne⟩
  simp [he, hdir, htext]

/-- **The copies.**  In a reachable state there are none exactly as long as the key schedule has not
started. -/
theorem duplicatedBytes_eq_zero_iff {s : State} (hI : Core.Invariant s) :
    duplicatedBytes s = 0 ↔ s.keySched = none := by
  cases hks : s.keySched with
  | none =>
    refine iff_of_true ?_ rfl
    rw [duplicatedBytes, hks, Option.map_none, Option.getD_none, Nat.zero_add]
    refine List.sum_eq_zero_iff_forall_eq_nat.mpr fun n hn ↦ ?_
    obtain ⟨e, he, rfl⟩ := List.mem_map.mp hn
    rw [echoedBytes, hI.unscheduled hks e he]
  | some k =>
    obtain ⟨e, he, hfrom, htext⟩ := hI.scheduled k hks
    have hpos := copiedBytes_pos he hfrom htext
    refine iff_of_false ?_ (Option.some_ne_none k)
    simp only [duplicatedBytes, hks, Option.map_some, Option.getD_some]
    omega

section Bound

variable [Hacl] {τ : Type} [Transport τ]

/-- **Retained inbound bytes.**  The charge of the connection a run of calls leads to is an upper
bound of what it retains, if and only if no round of the run started the key schedule. -/
theorem ownedInboundBytes_bound_iff {tr₀ : τ} {conn : ConnId} {gen : ConfigGeneration}
    {alg : HashAlgorithm} {prov : CryptoProvider} {config : ValidatedServerConfig}
    {tr : List (CallStep τ)} {c : TlsConn τ} (h : CallRun tr₀ conn gen alg prov config tr c) :
    c.retainedBytes ≤ c.ownedInboundBytes ↔
      ∀ t ∈ tr, ∀ r ∈ t.rounds, ¬ StartsSchedule r.coreStep := by
  have hcore := h.core
  have hcharge : c.retainedBytes ≤ c.ownedInboundBytes ↔ duplicatedBytes c.core = 0 := by
    rw [c.retainedBytes_eq]
    omega
  rw [hcharge, duplicatedBytes_eq_zero_iff hcore.invariant, hcore.keySched_iff]
  simp only [List.forall_mem_flatMap, List.forall_mem_map]

end Bound

attribute [local instance] Session.primitives

theorem ownedInboundBytes_bound_iff_session :
    (Session.reached [] Session.connectCalls).retainedBytes ≤
        (Session.reached [] Session.connectCalls).ownedInboundBytes ↔
      ∀ t ∈ Session.steps [] Session.connectCalls, ∀ r ∈ t.rounds, ¬ StartsSchedule r.coreStep :=
  ownedInboundBytes_bound_iff (Session.callRun [] Session.connectCalls)

/-- Once the ServerHello is sent, the connection retains more than it is charged for. -/
theorem not_ownedInboundBytes_bound :
    ¬ (Session.reached [] Session.helloCalls).retainedBytes ≤
      (Session.reached [] Session.helloCalls).ownedInboundBytes := by
  decide +kernel

end Kroopt.Conn
