import Kroopt.Core.Outcome

/-!
# What holds in every reachable state of the core

`Invariant s` collects what the results need to know about a reachable state: how the phase, the
close state and the read epoch belong together, which crypto operations can be outstanding, and
what the key schedule has copied out of the transcript.  It holds initially and every step keeps it,
so it holds along every run.

The phases are described by a few predicates, so that the invariant has one line for a group of them
and not one for each.  The phases that the source names and never enters are left out by the first
line, and with them the cases in which nothing is known.

## Main definitions

* `HandshakeState.isUsed`, `keyed`, `readsUnder` and `isLive`: what a phase says about the rest.
* `Invariant s`: the invariant of reachable states.

## Main results

* `Invariant.step`: one step keeps it.
* `CoreRun.invariant`: it holds along every run.
* `isLive_source`: a connection that is closing or has ended never comes back.
-/

set_option autoImplicit false

namespace Kroopt.Core

namespace HandshakeState

/-- The phases a connection can be in; the source also names five it never enters. -/
def isUsed : HandshakeState → Bool
  | recvdClientHello => false
  | sentServerHello => false
  | sentEncryptedExtensions => false
  | sentCertificate => false
  | recvdClientFinished => false
  | _ => true

/-- The phases in which the key schedule is running or has run, up to the client Finished. -/
def keyed : HandshakeState → Bool
  | derivedHandshakeSecrets => true
  | requestedCertificateVerifySignature => true
  | requestedServerFinishedMac => true
  | sentCertificateVerify => true
  | sentServerFinished => true
  | requestedClientFinishedVerify => true
  | _ => false

/-- The epoch a live connection reads under. -/
def readsUnder : HandshakeState → Option Epoch
  | start => some .initial
  | requestedServerRandom => some .initial
  | requestedEcdhe => some .initial
  | connected => some .application
  | h => if h.keyed then some .handshake else none

/-- The connection is neither closing nor ended. -/
def isLive : HandshakeState → Bool
  | closing => false
  | closed => false
  | failed _ => false
  | _ => true

theorem isLive_iff {h : HandshakeState} : h.isLive = true ↔ h.isTerminal = false ∧ h ≠ closing := by
  cases h <;> simp [isLive, isTerminal]

theorem of_inFlight {h : HandshakeState} (hf : h.inFlight = true) :
    h.isUsed = true ∧ h ≠ .start ∧ h ≠ .closing ∧ h.isTerminal = false := by
  cases h <;> simp_all [inFlight, isUsed, isTerminal]

end HandshakeState

/-- A message of the client, with at least one byte. -/
def TranscriptEvent.fromClient (e : TranscriptEvent) : Prop :=
  e.eventMeta.direction = .read ∧ e.wireBytes ≠ []

/-- **The invariant of reachable states.** -/
structure Invariant (s : State) : Prop where
  used : s.handshake.isUsed = true
  /-- Before any close begins, nothing is closed. -/
  isOpen : s.handshake.isTerminal = false → s.handshake ≠ .closing → s.closeState = .open
  isClosing : s.handshake = .closing →
    s.closeState = .sentCloseNotify ∨ s.closeState = .receivedCloseNotify
  epoch : ∀ e, s.handshake.readsUnder = some e → s.readEpoch.epoch = e
  idle : s.handshake = .start → s.pendingOps.ops = []
  /-- During the server flight at most one operation is outstanding, and it opens no record. -/
  flight : s.handshake.inFlight = true → s.pendingOps.ops.length ≤ 1 ∧
    0 < s.serverConfig.limits.maxPendingCryptoOps ∧
    ∀ o ∈ s.pendingOps.ops, o.expectedKind ≠ .aeadOpen
  hello : s.handshake.inFlight = true → ∃ e ∈ s.transcript.events, e.fromClient
  keyed : s.handshake.keyed = true → s.keySched ≠ none
  /-- Until the key schedule starts, only messages of the client are committed. -/
  unscheduled : s.keySched = none → ∀ e ∈ s.transcript.events, e.eventMeta.direction = .read
  /-- The key schedule holds a copy of a message of the client. -/
  scheduled : ∀ k, s.keySched = some k → ∃ e ∈ s.transcript.events,
    e.fromClient ∧ e.wireBytes <:+: k.hsTranscript

theorem Invariant.initial (conn : ConnId) (gen : ConfigGeneration) (alg : HashAlgorithm)
    (config : ValidatedServerConfig) : Invariant (State.initialWith conn gen alg config) where
  used := rfl
  isOpen _ _ := rfl
  isClosing h := by cases h
  epoch e h := by cases h; rfl
  idle _ := rfl
  flight h := by cases h
  hello h := by cases h
  keyed h := by cases h
  unscheduled _ e he := by cases he
  scheduled k h := by cases h

/-! ## How it is kept

Most outcomes change nothing that the invariant looks at (`Invariant.of_eq`), or end the connection,
where nearly nothing is left to hold.  What remains are the edges of the handshake. -/

/-- The invariant survives a change of anything it does not look at, and fewer operations. -/
theorem Invariant.of_eq {s s' : State} (hI : Invariant s) (hphase : s'.handshake = s.handshake)
    (hclose : s'.closeState = s.closeState) (hepoch : s'.readEpoch.epoch = s.readEpoch.epoch)
    (hconfig : s'.serverConfig = s.serverConfig) (htr : s'.transcript = s.transcript)
    (hks : s'.keySched = s.keySched) (hops : s'.pendingOps.ops.Sublist s.pendingOps.ops) :
    Invariant s' where
  used := by rw [hphase]; exact hI.used
  isOpen := by rw [hphase, hclose]; exact hI.isOpen
  isClosing := by rw [hphase, hclose]; exact hI.isClosing
  epoch := by rw [hphase, hepoch]; exact hI.epoch
  idle h := by
    rw [hI.idle (hphase ▸ h)] at hops
    exact List.sublist_nil.mp hops
  flight h := by
    obtain ⟨hlen, hlim, hkind⟩ := hI.flight (hphase ▸ h)
    rw [hconfig]
    exact ⟨Nat.le_trans hops.length_le hlen, hlim, fun o ho ↦ hkind o (hops.subset ho)⟩
  hello := by rw [hphase, htr]; exact hI.hello
  keyed := by rw [hphase, hks]; exact hI.keyed
  unscheduled := by rw [hks, htr]; exact hI.unscheduled
  scheduled := by rw [hks, htr]; exact hI.scheduled

/-- The invariant holds of a terminal state and of a closing one, whatever else changed, as long as
the transcript only grew by messages of the client. -/
theorem Invariant.of_ended {s s' : State} (hI : Invariant s)
    (hphase : s'.handshake.isTerminal = true ∨ (s'.handshake = .closing ∧
      (s'.closeState = .sentCloseNotify ∨ s'.closeState = .receivedCloseNotify)))
    (hks : SameSchedule s.keySched s'.keySched)
    (htr : ∃ new, s'.transcript.events = s.transcript.events ++ new ∧
      ∀ e ∈ new, e.eventMeta.direction = .read) : Invariant s' := by
  obtain ⟨new, hnew, hread⟩ := htr
  have hphases : s'.handshake.isUsed = true ∧ s'.handshake.inFlight = false ∧
      s'.handshake.keyed = false ∧ s'.handshake.readsUnder = none ∧ s'.handshake ≠ .start := by
    rcases hphase with h | ⟨h, -⟩
    · cases hp : s'.handshake <;> simp_all [HandshakeState.isTerminal] <;>
        exact ⟨rfl, rfl, rfl, rfl⟩
    · rw [h]
      exact ⟨rfl, rfl, rfl, rfl, by simp⟩
  obtain ⟨hused, hflight, hkeyed, hreads, hstart⟩ := hphases
  refine ⟨hused, ?_, ?_, ?_, ?_, ?_, ?_, ?_, ?_, ?_⟩
  · intro hlive hne
    rcases hphase with h | ⟨h, -⟩
    · rw [h] at hlive
      cases hlive
    · exact absurd h hne
  · intro h
    rcases hphase with h' | ⟨-, h'⟩
    · rw [h] at h'
      cases h'
    · exact h'
  · intro e he
    rw [hreads] at he
    cases he
  · exact fun h ↦ absurd h hstart
  · intro h
    rw [hflight] at h
    cases h
  · intro h
    rw [hflight] at h
    cases h
  · intro h
    rw [hkeyed] at h
    cases h
  · intro h e he
    have hnone : s.keySched = none := by simpa [SameSchedule, h] using hks
    rw [hnew, List.mem_append] at he
    rcases he with he | he
    · exact hI.unscheduled hnone e he
    · exact hread e he
  · intro k hk
    obtain ⟨k₀, hk₀, htext⟩ : ∃ k₀, s.keySched = some k₀ ∧ k₀.hsTranscript = k.hsTranscript := by
      simpa [SameSchedule, hk] using hks
    obtain ⟨e, he, hfrom, hin⟩ := hI.scheduled k₀ hk₀
    exact ⟨e, by rw [hnew]; exact List.mem_append_left _ he, hfrom, htext ▸ hin⟩

theorem Invariant.fail {s : State} (hI : Invariant s) (a : AlertDescription) :
    Invariant (s.fail a) :=
  hI.of_ended (.inl rfl) rfl ⟨[], by simp⟩

theorem Invariant.clearOp {s : State} (hI : Invariant s) (op : OperationId) :
    Invariant (s.clearOp op) :=
  hI.of_eq rfl rfl rfl rfl rfl rfl (s.clearOp_ops_sublist op)

/-- In the server flight a state without outstanding operations has room for one. -/
theorem Invariant.room {s : State} (hI : Invariant s) (hflight : s.handshake.inFlight = true)
    (hops : s.pendingOps.ops = []) : s.hasOpRoom := by
  rw [State.hasOpRoom, hops]
  exact (hI.flight hflight).2.1

/-- A phase of the server flight is entered with one fresh operation. -/
theorem Invariant.of_flight {s s' : State} {o : PendingCryptoOp} (hI : Invariant s)
    (hlive : s.handshake.isTerminal = false) (hnc : s.handshake ≠ .closing)
    (hphase : s'.handshake.inFlight = true) (hclose : s'.closeState = s.closeState)
    (hepoch : ∀ e, s'.handshake.readsUnder = some e → s'.readEpoch.epoch = e)
    (hops : s'.pendingOps.ops = o :: s.pendingOps.ops) (hnil : s.pendingOps.ops = [])
    (hkind : o.expectedKind ≠ .aeadOpen)
    (hlim : 0 < s'.serverConfig.limits.maxPendingCryptoOps)
    (hello : ∃ e ∈ s'.transcript.events, e.fromClient)
    (keyed : s'.handshake.keyed = true → s'.keySched ≠ none)
    (unscheduled : s'.keySched = none → ∀ e ∈ s'.transcript.events, e.eventMeta.direction = .read)
    (scheduled : ∀ k, s'.keySched = some k → ∃ e ∈ s'.transcript.events,
      e.fromClient ∧ e.wireBytes <:+: k.hsTranscript) : Invariant s' := by
  obtain ⟨hused, hstart, hclosing, -⟩ := HandshakeState.of_inFlight hphase
  refine ⟨hused, fun _ _ ↦ ?_, fun h ↦ absurd h hclosing, hepoch, fun h ↦ absurd h hstart,
    fun _ ↦ ?_, fun _ ↦ hello, keyed, unscheduled, scheduled⟩
  · rw [hclose]
    exact hI.isOpen hlive hnc
  · rw [hops, hnil]
    exact ⟨Nat.le_refl 1, hlim, by simpa using hkind⟩

/-- A move within the server flight starts the next operation, and the transcript only grows. -/
theorem Invariant.next_flight {s s' : State} {o : PendingCryptoOp} {new : List TranscriptEvent}
    (hI : Invariant s) (hflight : s.handshake.inFlight = true) (hnil : s.pendingOps.ops = [])
    (hphase : s'.handshake.inFlight = true) (hclose : s'.closeState = s.closeState)
    (hepoch : ∀ e, s'.handshake.readsUnder = some e → s'.readEpoch.epoch = e)
    (hconfig : s'.serverConfig = s.serverConfig)
    (hops : s'.pendingOps.ops = o :: s.pendingOps.ops) (hkind : o.expectedKind ≠ .aeadOpen)
    (htr : s'.transcript.events = s.transcript.events ++ new)
    (keyed : s'.handshake.keyed = true → s'.keySched ≠ none)
    (unscheduled : s'.keySched = none → ∀ e ∈ s'.transcript.events, e.eventMeta.direction = .read)
    (scheduled : ∀ k, s'.keySched = some k → ∃ e ∈ s'.transcript.events,
      e.fromClient ∧ e.wireBytes <:+: k.hsTranscript) : Invariant s' := by
  obtain ⟨-, -, hnc, hlive⟩ := HandshakeState.of_inFlight hflight
  obtain ⟨e, he, hfrom⟩ := hI.hello hflight
  refine hI.of_flight hlive hnc hphase hclose hepoch hops hnil hkind ?_ ?_ keyed unscheduled
    scheduled
  · rw [hconfig]
    exact (hI.flight hflight).2.1
  · exact ⟨e, by rw [htr]; exact List.mem_append_left _ he, hfrom⟩

theorem isScheduleKind_ne_aeadOpen {kind : CryptoOpKind}
    (h : KeyScheduleDriver.isScheduleKind kind = true) : kind ≠ .aeadOpen := by
  rintro rfl
  cases h

/-- Scheduled transcripts stay scheduled when the transcript grows. -/
theorem Invariant.scheduled_of_append {s : State} (hI : Invariant s)
    {ksd : KeyScheduleDriver.State} (hksd : SameSchedule s.keySched (some ksd))
    (new : List TranscriptEvent) : ∃ e ∈ s.transcript.events ++ new,
      e.fromClient ∧ e.wireBytes <:+: ksd.hsTranscript := by
  obtain ⟨k₀, hk₀, htext⟩ : ∃ k₀, s.keySched = some k₀ ∧ k₀.hsTranscript = ksd.hsTranscript := by
    simpa [SameSchedule] using hksd
  obtain ⟨e, he, hfrom, hin⟩ := hI.scheduled k₀ hk₀
  exact ⟨e, List.mem_append_left _ he, hfrom, htext ▸ hin⟩

/-- A message of the client is part of the text the key schedule starts with. -/
theorem wireBytes_infix_flatten {es : List TranscriptEvent} {e : TranscriptEvent} (he : e ∈ es) :
    e.wireBytes <:+: (es.map (·.wireBytes)).flatten := by
  obtain ⟨pre, post, rfl⟩ := List.append_of_mem he
  simp only [List.map_append, List.map_cons, List.flatten_append, List.flatten_cons]
  exact (List.prefix_append _ _).isInfix.trans (List.suffix_append _ _).isInfix

/-- **Moves keep the invariant.**  In the server flight a move may start only once the operation it
was waiting for is retired. -/
theorem Move.invariant {s s' : State} {acts : List OutputAction} (h : Move s s' acts)
    (hI : Invariant s) (hidle : s.handshake.inFlight = true → s.pendingOps.ops = []) :
    Invariant s' := by
  cases h with
  | ignored => exact hI
  | @failed s₀ a e hs ha =>
    obtain ⟨new, hnew, hread⟩ := hs.events
    refine hI.of_ended (.inl rfl) hs.sched ⟨new, hnew, ?_⟩
    rcases hread with hread | ⟨hflight, hroom⟩
    · exact hread
    · exact absurd (hI.room hflight (hidle hflight)) hroom
  | @clientHello b neg alg wire hphase hroom hwire =>
    have hnil : s.pendingOps.ops = [] := hI.idle hphase
    rw [State.hasOpRoom, hnil] at hroom
    refine hI.of_flight (by simp [hphase, HandshakeState.isTerminal]) (by simp [hphase]) rfl rfl
      (fun e he ↦ ?_) rfl hnil (by simp) hroom ?_ (by simp [HandshakeState.keyed])
      (fun h e he ↦ ?_) fun k hk ↦ ?_
    · exact hI.epoch e (by rw [hphase]; exact he)
    · exact ⟨committed .clientHello .read wire, by simp [committed], rfl, hwire⟩
    · simp only [State.withOp_transcript, TranscriptState.appendFramed_events,
        List.mem_append, List.mem_singleton] at he
      rcases he with he | rfl
      · exact hI.unscheduled h e he
      · rfl
    · exact hI.scheduled_of_append (by simp [SameSchedule, show s.keySched = some k from hk]) _
  | @serverRandom random op hphase hroom hop =>
    have hflight : s.handshake.inFlight = true := by rw [hphase]; rfl
    refine hI.next_flight hflight (hidle hflight) rfl rfl (fun e he ↦ ?_) rfl rfl (by simp)
      (List.append_nil _).symm (by simp [HandshakeState.keyed]) hI.unscheduled hI.scheduled
    exact hI.epoch e (by rw [hphase]; exact he)
  | @ecdhe share msg ts ksd op hphase hroom hop hmsg hts hksd =>
    have hflight : s.handshake.inFlight = true := by rw [hphase]; rfl
    obtain ⟨e, he, hfrom⟩ := hI.hello hflight
    have hmem : e ∈ ts.events := by rw [hts]; exact List.mem_append_left _ he
    refine hI.next_flight hflight (hidle hflight) rfl rfl (fun e he ↦ ?_) rfl rfl (by simp) hts
      (by simp) (by simp) fun k hk ↦ ?_
    · cases he
      rfl
    · cases hk
      exact ⟨e, hmem, hfrom, by rw [hksd]; exact wireBytes_infix_flatten hmem⟩
  | @pump epoch ksd op hphase hroom hop hksd =>
    have hflight : s.handshake.inFlight = true := by rcases hphase with h | h <;> rw [h] <;> rfl
    refine hI.next_flight hflight (hidle hflight) hflight rfl hI.epoch rfl rfl
      (isScheduleKind_ne_aeadOpen hop) (List.append_nil _).symm (by simp) (by simp) fun k hk ↦ ?_
    cases hk
    simpa using hI.scheduled_of_append hksd []
  | @rest ksd hphase hksd =>
    refine ⟨hI.used, hI.isOpen, hI.isClosing, hI.epoch, hI.idle, hI.flight, hI.hello, by simp,
      by simp, fun k hk ↦ ?_⟩
    cases hk
    simpa using hI.scheduled_of_append hksd []
  | @serverFlight msg ts ksd input hphase hroom hksd hmsg hts =>
    have hflight : s.handshake.inFlight = true := by rw [hphase]; rfl
    refine hI.next_flight hflight (hidle hflight) rfl rfl (fun e he ↦ ?_) rfl rfl (by simp) hts
      (by simp) (by simp) fun k hk ↦ ?_
    · exact hI.epoch e (by rw [hphase]; exact he)
    · cases hk
      exact hts ▸ hI.scheduled_of_append hksd _
  | @certificateVerify scheme sig ts alg input hphase hroom hts =>
    have hflight : s.handshake.inFlight = true := by rw [hphase]; rfl
    have hsome : s.keySched ≠ none := hI.keyed (by rw [hphase]; rfl)
    refine hI.next_flight hflight (hidle hflight) rfl rfl (fun e he ↦ ?_) rfl rfl (by simp) hts
      (fun _ ↦ hsome) (fun h ↦ absurd h hsome) fun k hk ↦ ?_
    · exact hI.epoch e (by rw [hphase]; exact he)
    · exact hts ▸ hI.scheduled_of_append (by rw [show s.keySched = some k from hk]; rfl) _
  | @serverFinished mac ts ksd op hphase hroom hop hksd hts =>
    have hflight : s.handshake.inFlight = true := by rw [hphase]; rfl
    refine hI.next_flight hflight (hidle hflight) rfl rfl (fun e he ↦ ?_) rfl rfl
      (isScheduleKind_ne_aeadOpen hop) hts (by simp) (by simp) fun k hk ↦ ?_
    · exact hI.epoch e (by rw [hphase]; exact he)
    · cases hk
      exact hts ▸ hI.scheduled_of_append hksd _
  | @applicationKeys ksd hphase hksd =>
    refine ⟨rfl, fun _ _ ↦ ?_, by simp, fun e he ↦ ?_, by simp, by simp [HandshakeState.inFlight],
      by simp [HandshakeState.inFlight], by simp, by simp, fun k hk ↦ ?_⟩
    · exact hI.isOpen (by rw [hphase]; rfl) (by simp [hphase])
    · cases he
      rfl
    · cases hk
      simpa using hI.scheduled_of_append hksd []
  | @clientFinished wire ts alg input hphase hroom hts =>
    have hsome : s.keySched ≠ none := hI.keyed (by rw [hphase]; rfl)
    refine ⟨rfl, fun _ _ ↦ ?_, by simp, fun e he ↦ ?_, by simp, by simp [HandshakeState.inFlight],
      by simp [HandshakeState.inFlight], fun _ ↦ hsome, fun h ↦ absurd h hsome, fun k hk ↦ ?_⟩
    · exact hI.isOpen (by rw [hphase]; rfl) (by simp [hphase])
    · exact hI.epoch e (by rw [hphase]; exact he)
    · exact hts ▸ hI.scheduled k hk
  | @verified wire info hphase =>
    refine ⟨rfl, fun _ _ ↦ ?_, by simp, fun e he ↦ ?_, by simp, by simp [HandshakeState.inFlight],
      by simp [HandshakeState.inFlight], by simp [HandshakeState.keyed], fun h e he ↦ ?_,
      fun k hk ↦ ?_⟩
    · exact hI.isOpen (by rw [hphase]; rfl) (by simp [hphase])
    · cases he
      rfl
    · simp only [TranscriptState.appendFramed_events, List.mem_append, List.mem_singleton] at he
      rcases he with he | rfl
      · exact hI.unscheduled h e he
      · rfl
    · exact hI.scheduled_of_append (by rw [show s.keySched = some k from hk]; rfl) _

theorem AlertOutcome.invariant {s s' : State} {body : Bytes} {acts : List OutputAction}
    (h : AlertOutcome s body s' acts) (hI : Invariant s) : Invariant s' := by
  cases h with
  | closeNotify => exact hI.of_ended (.inr ⟨rfl, .inr rfl⟩) rfl ⟨[], by simp⟩
  | fatal => exact hI.of_ended (.inl rfl) rfl ⟨[], by simp⟩
  | malformed => exact hI.fail _

theorem Invariant.plaintextRecord {s s' : State} {msg : Bytes} {acts : List OutputAction}
    (hI : Invariant s) (h : handshakeOnPlaintextRecord s msg = .ok (s', acts)) :
    Invariant s' := by
  cases hflight : s.handshake.inFlight with
  | true =>
    have hne : s.handshake ≠ .start ∧ s.handshake ≠ .sentServerFinished := by
      constructor <;> rintro hp <;> rw [hp] at hflight <;> cases hflight
    rw [handshakeOnPlaintextRecord_ignored msg hne.1 hne.2] at h
    cases h
    exact hI
  | false =>
    refine ((handshakeOnPlaintextRecord_moves s msg).move h).invariant hI fun hf ↦ ?_
    rw [hflight] at hf
    cases hf

/-- In the server flight nothing is outstanding once the awaited operation is retired. -/
theorem Invariant.ops_clearOp {s : State} (hI : Invariant s) {op : OperationId}
    (hop : s.pendingOps.contains op = true) (hflight : s.handshake.inFlight = true) :
    (s.clearOp op).pendingOps.ops = [] := by
  have hlt := s.clearOp_length_lt op hop
  have hle := (hI.flight hflight).1
  exact List.eq_nil_of_length_eq_zero (by omega)

theorem Invariant.gatingResult {s s' : State} {op : OperationId} {r : CryptoResult}
    {acts : List OutputAction} (hI : Invariant s) (hop : s.pendingOps.contains op = true)
    (h : handshakeOnGatingResult s op r = .ok (s', acts)) : Invariant s' :=
  ((handshakeOnGatingResult_moves s op r).move h).invariant (hI.clearOp op) (hI.ops_clearOp hop)

theorem RecordOutcome.invariant {s s' : State} {hdr : Parse.ValidRecordHeader} {body : Bytes}
    {acts : List OutputAction} (h : RecordOutcome s hdr body s' acts) (hI : Invariant s) :
    Invariant s' := by
  have hreasm : ∀ b buf, Invariant (s.reassembled b buf) := fun b buf ↦
    hI.of_eq rfl rfl rfl rfl rfl rfl (.refl _)
  cases h with
  | opens ht hphase hroom hepoch =>
    have hidle : s.handshake ≠ .start ∧ s.handshake.inFlight = false := by
      rcases hphase with hp | hp <;> rw [hp] <;> exact ⟨by simp, rfl⟩
    exact ⟨hI.used, hI.isOpen, hI.isClosing, hI.epoch, fun h ↦ absurd h hidle.1,
      fun h ↦ absurd (hidle.2.symm.trans h) (by simp), hI.hello, hI.keyed, hI.unscheduled,
      hI.scheduled⟩
  | noRoom => exact hI.fail _
  | unread => exact hI
  | ccsIgnored => exact hI
  | ccsRefused => exact hI.fail _
  | hsRefused => exact (hreasm _ _).fail _
  | hsPartial => exact hreasm _ _
  | hsMessage ht hfits hframe hres => exact (hreasm _ _).plaintextRecord hres
  | alert ht h => exact h.invariant hI
  | invalid => exact hI.fail _

theorem BytesOutcome.invariant {s s' : State} {b : Bytes} {acts : List OutputAction}
    (h : BytesOutcome s b s' acts) (hI : Invariant s) : Invariant s' := by
  have hrecv : ∀ buf, Invariant (s.received buf) := fun buf ↦
    hI.of_eq rfl rfl rfl rfl rfl rfl (.refl _)
  cases h with
  | malformed => exact (hrecv _).fail _
  | awaiting => exact hrecv _
  | record hh h => exact h.invariant (hrecv _)

theorem Invariant.advanced {s : State} (hI : Invariant s) (op : OperationId) (sq : SeqNo) :
    Invariant (s.advanced op sq) :=
  hI.of_eq rfl rfl rfl rfl rfl rfl (s.clearOp_ops_sublist op)

theorem ResultOutcome.invariant {s s' : State} {op : OperationId} {r : CryptoResult}
    {acts : List OutputAction} (h : ResultOutcome s op r s' acts)
    (hop : s.pendingOps.contains op = true) (hI : Invariant s) : Invariant s' := by
  cases h with
  | unparsed => exact hI.fail _
  | opened hp h =>
    cases h with
    | data => exact (hI.advanced op _).of_eq rfl rfl rfl rfl rfl rfl (.refl _)
    | message ht hphase hseq hres => exact (hI.advanced op _).plaintextRecord hres
    | overflow => exact hI.fail _
    | earlyData => exact hI.fail _
    | invalid => exact hI.fail _
    | alert ht h => exact h.invariant (hI.clearOp op)
    | skipped => exact hI.clearOp op
  | sealed => exact (hI.clearOp op).of_eq rfl rfl rfl rfl rfl rfl (.refl _)
  | verifyFailed => exact (hI.clearOp op).fail _
  | failed => exact (hI.clearOp op).fail _
  | gating hr hres => exact hI.gatingResult hop hres

/-- **One step keeps the invariant.** -/
theorem Outcome.invariant {s s' : State} {ev : InputEvent} {acts : List OutputAction}
    (h : Outcome s ev s' acts) (hI : Invariant s) : Invariant s' := by
  cases h with
  | bytes h => exact h.invariant hI
  | result hop h => exact h.invariant hop hI
  | deliver => exact hI.of_eq rfl rfl rfl rfl rfl rfl (.refl _)
  | @send _ _ sq hphase hseq hroom =>
    exact ⟨hI.used, hI.isOpen, hI.isClosing, hI.epoch, by simp [State.sealing, hphase],
      by simp [State.sealing, hphase, HandshakeState.inFlight], hI.hello, hI.keyed,
      hI.unscheduled, hI.scheduled⟩
  | closeNotify => exact hI.of_ended (.inr ⟨rfl, .inl rfl⟩) rfl ⟨[], by simp [State.sealing]⟩
  | closeEarly => exact hI.of_ended (.inr ⟨rfl, .inl rfl⟩) rfl ⟨[], by simp⟩
  | closeAbortive => exact hI.of_ended (.inl rfl) rfl ⟨[], by simp⟩
  | eof => exact hI.of_ended (.inl rfl) rfl ⟨[], by simp⟩
  | sendRefused => exact hI.fail _
  | closeNotifyRefused => exact hI.fail _
  | closeFatal => exact hI.fail _
  | timeout => exact hI.fail _
  | stale => exact hI
  | noDelivery => exact hI
  | reclose => exact hI
  | readable => exact hI
  | writable => exact hI
  | flush => exact hI

theorem Invariant.step {t : CoreStep} (ht : Machine.Steps step t) (hI : Invariant t.source) :
    Invariant t.target := by
  cases hlive : t.source.handshake.isTerminal with
  | true =>
    rw [(target_of_terminal ht hlive).1]
    exact hI
  | false => exact (outcome_of_steps ht hlive).invariant hI

/-! ## Closing is never left -/

theorem Move.isLive {s s' : State} {acts : List OutputAction} (h : Move s s' acts)
    (hlive : s'.handshake.isLive = true) : s.handshake.isLive = true := by
  cases h with
  | ignored => exact hlive
  | failed => cases hlive
  | clientHello hphase | serverRandom hphase | ecdhe hphase | serverFlight hphase
  | certificateVerify hphase | serverFinished hphase | applicationKeys hphase
  | clientFinished hphase | verified hphase => rw [hphase]; rfl
  | pump => exact hlive
  | rest => exact hlive

theorem AlertOutcome.isLive {s s' : State} {body : Bytes} {acts : List OutputAction}
    (h : AlertOutcome s body s' acts) : s'.handshake.isLive = false := by
  cases h <;> rfl

theorem RecordOutcome.isLive {s s' : State} {hdr : Parse.ValidRecordHeader} {body : Bytes}
    {acts : List OutputAction} (h : RecordOutcome s hdr body s' acts)
    (hlive : s'.handshake.isLive = true) : s.handshake.isLive = true := by
  cases h with
  | opens | unread | ccsIgnored | hsPartial => exact hlive
  | noRoom | ccsRefused | hsRefused | invalid => cases hlive
  | hsMessage ht hfits hframe hres =>
    exact ((handshakeOnPlaintextRecord_moves _ _).move hres).isLive hlive
  | alert ht h => cases h.isLive.symm.trans hlive

theorem ResultOutcome.isLive {s s' : State} {op : OperationId} {r : CryptoResult}
    {acts : List OutputAction} (h : ResultOutcome s op r s' acts)
    (hlive : s'.handshake.isLive = true) : s.handshake.isLive = true := by
  cases h with
  | opened hp h =>
    cases h with
    | data | skipped => exact hlive
    | overflow | earlyData | invalid => cases hlive
    | message ht hphase hseq hres =>
      exact ((handshakeOnPlaintextRecord_moves _ _).move hres).isLive hlive
    | alert ht h => cases h.isLive.symm.trans hlive
  | gating hr hres => exact ((handshakeOnGatingResult_moves _ _ _).move hres).isLive hlive
  | sealed => exact hlive
  | unparsed | verifyFailed | failed => cases hlive

/-- A step that leads to a live connection starts in one. -/
theorem Outcome.isLive {s s' : State} {ev : InputEvent} {acts : List OutputAction}
    (h : Outcome s ev s' acts) (hlive : s'.handshake.isLive = true) :
    s.handshake.isLive = true := by
  cases h with
  | bytes h =>
    cases h with
    | malformed => cases hlive
    | awaiting => exact hlive
    | record hh h => exact h.isLive hlive
  | result hop h => exact h.isLive hlive
  | stale | deliver | noDelivery | send | reclose | readable | writable | flush => exact hlive
  | sendRefused | closeNotify | closeNotifyRefused | closeEarly | closeFatal | closeAbortive | eof
  | timeout => cases hlive

theorem isLive_source {t : CoreStep} (ht : Machine.Steps step t)
    (hlive : t.target.handshake.isLive = true) : t.source.handshake.isLive = true := by
  cases hterm : t.source.handshake.isTerminal with
  | true =>
    rw [(target_of_terminal ht hterm).1] at hlive
    exact hlive
  | false => exact (outcome_of_steps ht hterm).isLive hlive

/-! ## Runs -/

/-- A run that leads to a live connection starts in one. -/
theorem isLive_of_run {s s' : State} {tr : List CoreStep} (h : Machine.Run step s tr s')
    (hlive : s'.handshake.isLive = true) : s.handshake.isLive = true := by
  induction h with
  | nil => exact hlive
  | cons ht _ ih => exact isLive_source ht (ih hlive)

/-- **Every reachable state satisfies the invariant.** -/
theorem CoreRun.invariant {conn : ConnId} {gen : ConfigGeneration} {alg : HashAlgorithm}
    {config : ValidatedServerConfig} {tr : List CoreStep} {s : State}
    (h : CoreRun conn gen alg config tr s) : Invariant s :=
  Machine.Run.invariant (fun _ ht ↦ Invariant.step ht) h (.initial conn gen alg config)

end Kroopt.Core
