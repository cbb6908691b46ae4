import Kroopt.Conn.Drive
import Kroopt.Properties.SoundHandshake

/-!
# What a connection is protected by

A server connection over the real provider, along every run of calls.  The core decides what to ask
for and the provider what to answer; here the two meet.  As long as the runtime goes on, every
answer that reaches the core is the right one for what it asked, so the handshake stays sound: its
driver has computed the RFC's key schedule of the transcript, and its messages carry what they
should.

## Main definitions

* `Answered`: how an operation is answered, by the provider's result or by its failure.
* `Queued`: a connection with the events that wait in its drive loop.  Only the first of them may
  bring a result, and that one is right.
* `slotsOf`: the slots whose keys a phase of the handshake has installed.
* `scheduleOf`: what the key schedule of a handshake is computed from.
* `serverMessages`: the five messages of the server's flight.

## Main results

* `Queued.round` is one round of the drive loop: the edge that the handshake takes, and the answer
  to what it asks for.
* `queued_of_run`: every run of calls keeps the handshake sound.
* `sessionKeys_of_run`: every slot that the driver has installed holds the keys of the schedule,
  also where a small step limit leaves a connection in the middle of it.
* `serverFlight_of_run`: what the server has said, byte for byte.
* `clientFinished_of_run`: what a connected client has proved.

All three rest on the same assumptions: the driver's constant hashes of the empty string are what
the native hash returns, the application feeds no results of its own, and the runtime has not been
terminated.
-/

set_option autoImplicit false

namespace Kroopt.Conn

open Kroopt.Core (State InputEvent OutputAction CryptoOp CryptoResult OperationId HandshakeState
  TranscriptEvent View committed serializeHandshakeOut requests)
open Kroopt.Core.KeyScheduleDriver (Secret Slot Phase)
open Kroopt.Crypto (NativeHacl CryptoProvider RealCryptoConfig SecretArena Inputs Installed Carries
  inputs resolved liveProvider)
open Kroopt.Crypto.KeySchedule (hashOf)

/-! ## One live session -/

namespace Session

/-- Primitives that hand their input through, with tags of zeros. -/
@[reducible] def handThrough : NativeHacl where
  sha256 b := if b = [] then Core.KeyScheduleDriver.emptyHashSha256 else b
  sha384 b := if b = [] then Core.KeyScheduleDriver.emptyHashSha384 else b
  hkdfExpand256 prk _ _ := prk
  hkdfExpand384 prk _ _ := prk
  chachaPolySeal _ _ _ pt := pt ++ List.replicate 16 0
  aes128GcmSeal _ _ _ pt := pt ++ List.replicate 16 0
  aes256GcmSeal _ _ _ pt := pt ++ List.replicate 16 0
  x25519Public priv := priv
  x25519SharedRaw priv _ := 0 :: priv
  p256Public priv := priv
  p256SharedRaw priv _ := 0 :: priv
  ecdsaP256SignRaw _ _ _ := []
  ecdsaP256SignRawH _ _ _ := []
  rsapssSignRaw _ _ _ _ _ := []
  rsapssSignRawH _ _ _ _ _ := []
  chachaPolyOpenRaw _ _ _ ct := 0 :: ct.take (ct.length - 16)
  aes128GcmOpenRaw _ _ _ ct := 0 :: ct.take (ct.length - 16)
  aes256GcmOpenRaw _ _ _ ct := 0 :: ct.take (ct.length - 16)
  hkdfExtract256 _ ikm := ikm
  hkdfExtract384 _ ikm := ikm
  hmac256 key _ := key
  hmac384 key _ := key
  ed25519Sign priv _ := priv
  ed25519SignH _ _ := []
  sealed_length suite key nonce aad pt := by
    cases suite <;> exact .inr (by simp [Crypto.Real.aeadSealBySuite])

/-- The keys of the server. -/
def keys : RealCryptoConfig where
  ephemeralPrivate := List.replicate 32 1
  certPrivate := [5]
  certPublic := List.replicate 32 2

/-- A fresh server over the real provider. -/
def liveServer [NativeHacl] : TlsConn FakeTransport :=
  .serverWith (transport []) Core.Session.conn ⟨0⟩ .sha256 (liveProvider keys [3]) config

/-- The ClientHello, and the client Finished in a record. -/
def liveCalls : List TlsConn.Call :=
  helloCalls ++ [.progress (.transportBytes Core.Session.conn
    (Core.frameRecord .applicationData ([20, 0, 0, 32] ++ keys.ephemeralPrivate ++ [22] ++
      List.replicate 16 0)))]

/-- The steps of the calls. -/
def liveSteps [NativeHacl] : List (CallStep FakeTransport) :=
  Machine.exec TlsConn.call liveServer liveCalls

/-- The connection that the calls lead to. -/
def live [NativeHacl] : TlsConn FakeTransport :=
  Machine.execState TlsConn.call liveServer liveCalls

theorem live_callRun [NativeHacl] : CallRun (transport []) Core.Session.conn ⟨0⟩ .sha256
    (liveProvider keys [3]) config liveSteps live :=
  Machine.run_exec liveServer liveCalls

end Session

variable [NativeHacl] {cfg : RealCryptoConfig} {random : Bytes}

variable {a a' : SecretArena} {v : View} {k : Core.KeyScheduleDriver.State} {shared : Bytes}
  {id : OperationId} {op : CryptoOp}

/-! ## The interpreter executes

What the interpreter does to the arena and which events it returns, for one action and for a list of
them with at most one operation.  The operation is answered in the arena in front of the list,
because the actions before it leave the arena alone as long as the runtime goes on. -/

section Exec

variable {τ : Type} [Transport τ] {prov : CryptoProvider} {rt : RuntimeState} {tr : τ}
  {act : OutputAction} {acts : List OutputAction}

/-- **The answer** to an operation: what the provider returned, or its failure. -/
inductive Answered (prov : CryptoProvider) (a : SecretArena) (req : CryptoOp) :
    SecretArena → List InputEvent → Prop
  | result {conn : Core.ConnId} {id : OperationId} {a' : SecretArena} {r : CryptoResult}
      (h : prov.submit a id (resolved a req) = .ok (a', r)) :
      Answered prov a req a' [.cryptoResult conn id r]
  | failure {conn : Core.ConnId} {id : OperationId} {e : CryptoError} :
      Answered prov a req a [.cryptoResult conn id (.failed e)]

omit [NativeHacl] in
theorem enqueue_terminal {rt : RuntimeState} {tr : τ} {wire : Bytes}
    (h : (enqueue rt tr wire).1.terminal = false) :
    rt.terminal = false ∧ (enqueue rt tr wire).1.arena = rt.arena :=
  ⟨drain_terminal { rt with outbound := rt.outbound ++ wire } h, drain_arena _ _⟩

/-- Without an operation an action leaves the arena. -/
theorem execAction_arena (hreq : act.request? = none) (hkeep : ∀ h, act ≠ .releaseSecret h)
    (h : (execAction prov rt tr act).1.terminal = false) :
    rt.terminal = false ∧ (execAction prov rt tr act).1.arena = rt.arena := by
  cases act with
  | writeTransport conn b => exact enqueue_terminal h
  | writeHandshake conn epoch seq msg =>
    rw [execAction] at h ⊢
    dsimp only at h ⊢
    cases hw : handshakeWire rt.arena epoch seq (serializeHandshakeOut msg) with
    | ok wire =>
      rw [hw] at h
      exact enqueue_terminal h
    | error e =>
      rw [hw] at h
      cases h
  | writeCertificate conn epoch seq der =>
    rw [execAction] at h ⊢
    dsimp only at h ⊢
    cases hw : handshakeWire rt.arena epoch seq (Core.serializeServerCertificate der) with
    | ok wire =>
      rw [hw] at h
      exact enqueue_terminal h
    | error e =>
      rw [hw] at h
      cases h
  | writeAlert conn epoch seq al =>
    rw [execAction] at h ⊢
    cases hw : alertWire rt.arena epoch seq al with
    | some wire =>
      rw [hw] at h
      dsimp only at h ⊢
      split at h
      · rename_i htrace
        rw [if_pos htrace]
        exact enqueue_terminal h
      · rename_i htrace
        rw [if_neg htrace]
        exact enqueue_terminal h
    | none =>
      rw [hw] at h
      exact ⟨h, rfl⟩
  | readTransport conn =>
    rw [execAction] at h ⊢
    split at h <;> exact ⟨h, rfl⟩
  | callCrypto conn op req => cases hreq
  | releaseSecret hd => exact absurd rfl (hkeep hd)
  | reportError | failWithAlert | closeTransport => cases h
  | enableWriteInterest | disableWriteInterest | emitPlaintext | acceptPlaintextBytes
  | reportHandshakeComplete => exact ⟨h, rfl⟩

/-- Without an operation an action brings no result, and without reading it brings no event. -/
theorem execAction_events (prov : CryptoProvider) (rt : RuntimeState) (tr : τ)
    (hreq : act.request? = none) :
    (∀ ev ∈ (execAction prov rt tr act).2.2, ev.result? = none) ∧
      ((∀ c, act ≠ .readTransport c) → (execAction prov rt tr act).2.2 = []) := by
  have hnone : ∀ {evs : List InputEvent}, evs = [] →
      (∀ ev ∈ evs, ev.result? = none) ∧ ((∀ c, act ≠ .readTransport c) → evs = []) :=
    fun h ↦ ⟨by simp [h], fun _ ↦ h⟩
  cases act with
  | writeHandshake conn epoch seq msg | writeCertificate conn epoch seq msg =>
    rw [execAction]
    split <;> exact hnone rfl
  | writeAlert conn epoch seq al =>
    rw [execAction]
    split <;> exact hnone rfl
  | readTransport conn =>
    refine ⟨?_, fun h ↦ absurd rfl (h conn)⟩
    rw [execAction]
    split <;> simp [InputEvent.result?]
  | callCrypto conn op req => cases hreq
  | writeTransport | releaseSecret | reportError | failWithAlert | closeTransport
  | enableWriteInterest | disableWriteInterest | emitPlaintext | acceptPlaintextBytes
  | reportHandshakeComplete => exact hnone rfl

/-- **An operation is answered.** -/
theorem execAction_answered {conn : Core.ConnId} {req : CryptoOp}
    (h : (execAction prov rt tr (.callCrypto conn id req)).1.terminal = false) :
    rt.terminal = false ∧ Answered prov rt.arena req
      (execAction prov rt tr (.callCrypto conn id req)).1.arena
      (execAction prov rt tr (.callCrypto conn id req)).2.2 := by
  rw [execAction] at h ⊢
  split at h
  · rename_i hok
    split at h
    · rename_i hmatch
      rw [if_pos hmatch]
      exact ⟨h, .result hok⟩
    · cases h
  · exact ⟨h, .failure⟩

/-- Without an operation a list of actions leaves the arena. -/
theorem execActions_arena (hreq : requests acts = [])
    (hkeep : ∀ h, OutputAction.releaseSecret h ∉ acts)
    (h : (execActions prov rt tr acts).1.terminal = false) :
    rt.terminal = false ∧ (execActions prov rt tr acts).1.arena = rt.arena := by
  induction acts generalizing rt tr with
  | nil => exact ⟨h, rfl⟩
  | cons act acts ih =>
    rw [execActions_cons] at h ⊢
    rw [requests, List.filterMap_eq_nil_iff] at hreq
    obtain ⟨hterm, harena⟩ := ih (List.filterMap_eq_nil_iff.mpr fun b hb ↦
      hreq b (List.mem_cons_of_mem _ hb)) (fun hd hmem ↦ hkeep hd (List.mem_cons_of_mem _ hmem)) h
    rw [traceAction_terminal] at hterm
    obtain ⟨hterm', harena'⟩ := execAction_arena (hreq act List.mem_cons_self)
      (fun hd heq ↦ hkeep hd (heq ▸ List.mem_cons_self)) hterm
    exact ⟨hterm', harena.trans ((traceAction_arena _ _).trans harena')⟩

/-- Without an operation a list of actions brings no result, and without reading no event. -/
theorem execActions_events (prov : CryptoProvider) (rt : RuntimeState) (tr : τ)
    (hreq : requests acts = []) :
    (∀ ev ∈ (execActions prov rt tr acts).2.2, ev.result? = none) ∧
      ((∀ c, OutputAction.readTransport c ∉ acts) → (execActions prov rt tr acts).2.2 = []) := by
  induction acts generalizing rt tr with
  | nil => exact ⟨List.forall_mem_nil _, fun _ ↦ rfl⟩
  | cons act acts ih =>
    rw [execActions_cons]
    rw [requests, List.filterMap_eq_nil_iff] at hreq
    obtain ⟨hresults, hevents⟩ := execAction_events prov rt tr
      (hreq act List.mem_cons_self)
    obtain ⟨hresults', hevents'⟩ := ih (traceAction (execAction prov rt tr act).1 act)
      (execAction prov rt tr act).2.1
      (List.filterMap_eq_nil_iff.mpr fun b hb ↦ hreq b (List.mem_cons_of_mem _ hb))
    refine ⟨fun ev hev ↦ ?_, fun hread ↦ ?_⟩
    · rcases List.mem_append.mp hev with hev | hev
      · exact hresults ev hev
      · exact hresults' ev hev
    · dsimp only
      rw [hevents fun c heq ↦ hread c (heq ▸ List.mem_cons_self),
        hevents' fun c hmem ↦ hread c (List.mem_cons_of_mem _ hmem)]
      rfl

/-- **One operation** in a list of actions is answered in the arena before them. -/
theorem execActions_answered {req : CryptoOp} (hreq : requests acts = [req])
    (hread : ∀ c, OutputAction.readTransport c ∉ acts)
    (hkeep : ∀ h, OutputAction.releaseSecret h ∉ acts)
    (h : (execActions prov rt tr acts).1.terminal = false) :
    rt.terminal = false ∧ Answered prov rt.arena req (execActions prov rt tr acts).1.arena
      (execActions prov rt tr acts).2.2 := by
  induction acts generalizing rt tr with
  | nil => cases hreq
  | cons act acts ih =>
    have hread' : ∀ c, OutputAction.readTransport c ∉ acts :=
      fun c hmem ↦ hread c (List.mem_cons_of_mem _ hmem)
    have hkeep' : ∀ hd, OutputAction.releaseSecret hd ∉ acts :=
      fun hd hmem ↦ hkeep hd (List.mem_cons_of_mem _ hmem)
    rw [execActions_cons] at h ⊢
    dsimp only at h ⊢
    cases hact : act.request? with
    | some req' =>
      -- this is the one, and the actions behind it change nothing
      obtain ⟨conn, id, rfl⟩ : ∃ conn id, act = .callCrypto conn id req' := by
        cases act <;> cases hact
        exact ⟨_, _, rfl⟩
      rw [requests, List.filterMap_cons_some hact] at hreq
      obtain ⟨rfl, hrest⟩ := List.cons.inj hreq
      obtain ⟨hterm, harena⟩ := execActions_arena hrest hkeep' h
      rw [traceAction_terminal] at hterm
      obtain ⟨hterm', hanswered⟩ := execAction_answered hterm
      refine ⟨hterm', ?_⟩
      rw [harena, traceAction_arena, (execActions_events _ _ _ hrest).2 hread', List.append_nil]
      exact hanswered
    | none =>
      rw [requests, List.filterMap_cons_none hact] at hreq
      obtain ⟨hterm, hanswered⟩ := ih hreq hread' hkeep' h
      rw [traceAction_terminal] at hterm
      obtain ⟨hterm', harena⟩ := execAction_arena hact
        (fun hd heq ↦ hkeep hd (heq ▸ List.mem_cons_self)) hterm
      rw [traceAction_arena, harena] at hanswered
      refine ⟨hterm', ?_⟩
      rw [(execAction_events _ _ _ hact).2 fun c heq ↦ hread c (heq ▸ List.mem_cons_self)]
      exact hanswered

/-! ## Rounds

Here the two halves of `Sound` meet.  A round consumes the result that waits in the queue, which
takes the handshake over an edge, and the operation that it asks for is answered, which is the next
result to wait. -/

/-- **A connection with what waits in its queue**: as long as it goes on, its handshake is sound,
and only the first event may bring a result, which is the right one. -/
def Queued (cfg : RealCryptoConfig) (c : TlsConn τ) (evs : List InputEvent) : Prop :=
  c.rt.terminal = false → c.core.handshake.isLive = true →
    Sound cfg c.rt.arena c.core.view ∧
      (∀ ev ∈ evs.head?, ∀ r, ev.result? = some r → RightResult cfg c.rt.arena c.core.view r) ∧
      ∀ ev ∈ evs.tail, ev.result? = none

omit [Transport τ] in
/-- The queue may be dropped. -/
theorem Queued.done {c : TlsConn τ} {evs : List InputEvent} (h : Queued cfg c evs) :
    Queued cfg c [] :=
  fun hterm hlive ↦ ⟨(h hterm hlive).1, nofun, nofun⟩

/-- What an answer means to a sound handshake. -/
theorem Sound.answered {evs : List InputEvent} (h : Sound cfg a v) (hreq : Requested v op)
    (ha : Answered (liveProvider cfg random) a op a' evs) :
    Sound cfg a' v ∧ (∀ ev ∈ evs.head?, ∀ r, ev.result? = some r → RightResult cfg a' v r) ∧
      evs.tail = [] := by
  cases ha with
  | result hok =>
    obtain ⟨hsound, hright⟩ := h.answer hreq hok
    refine ⟨hsound, fun ev hev r hr ↦ ?_, rfl⟩
    cases hev
    cases hr
    exact hright
  | failure =>
    refine ⟨h, fun ev hev r hr ↦ ?_, rfl⟩
    cases hev
    cases hr
    exact ⟨fun _ _ _ heq ↦ (nomatch heq), fun _ _ _ _ ↦ rightAnswer_of_other nofun nofun,
      fun _ _ heq ↦ (nomatch heq), fun _ _ _ _ _ _ heq ↦ (nomatch heq),
      fun _ _ _ _ _ heq ↦ (nomatch heq)⟩

/-- **One round.** -/
theorem Queued.round (hempty : ∀ alg, Core.KeyScheduleDriver.emptyHashFor alg =
      Crypto.KeySchedule.emptyHash alg) {c : TlsConn τ} (hprov : c.prov = liveProvider cfg random)
    {ev : InputEvent} {rest : List InputEvent} (h : Queued cfg c (ev :: rest)) {core' : State}
    {acts : List OutputAction} (hstep : Core.step c.core ev = .ok (core', acts))
    (metrics : Metrics) :
    Queued cfg { c with
      core := core'
      rt := { (execActions c.prov c.rt c.tr acts).1 with metrics := metrics }
      tr := (execActions c.prov c.rt c.tr acts).2.1 }
      ((execActions c.prov c.rt c.tr acts).2.2 ++ rest) := by
  intro hterm hlive
  have hsteps : Machine.Steps Core.step ⟨c.core, ev, acts, core'⟩ := hstep
  obtain ⟨hasks, hkeep⟩ := Core.orderly_of_steps hsteps
  have hsource := Core.isLive_source hsteps hlive
  have hedge := Core.edge_of_steps hsteps hlive
  dsimp only at hterm hlive hasks hkeep hsource hedge ⊢
  -- the runtime has not been terminated on the way, so the handshake was sound before
  have hbefore : c.rt.terminal = false → Sound cfg c.rt.arena core'.view ∧
      (∀ req ∈ requests acts, Requested core'.view req) ∧ ∀ ev ∈ rest, ev.result? = none := by
    intro hbefore
    obtain ⟨hsound, hright, hrest⟩ := h hbefore hsource
    obtain ⟨hsound', hreqs⟩ := hsound.edge hempty (hright ev rfl) hedge
    exact ⟨hsound', hreqs, hrest⟩
  rcases hasks with hnone | ⟨⟨req, hone⟩, hread⟩
  · obtain ⟨hterm', harena⟩ := execActions_arena hnone hkeep hterm
    obtain ⟨hsound, -, hrest⟩ := hbefore hterm'
    have hresults : ∀ ev' ∈ (execActions c.prov c.rt c.tr acts).2.2 ++ rest,
        ev'.result? = none := by
      intro ev' hev'
      rcases List.mem_append.mp hev' with hev' | hev'
      · exact (execActions_events _ _ _ hnone).1 ev' hev'
      · exact hrest ev' hev'
    rw [harena]
    refine ⟨hsound, fun ev' hev' r hr ↦ ?_, fun ev' hev' ↦ hresults ev' (List.mem_of_mem_tail hev')⟩
    rw [hresults ev' (List.mem_of_mem_head? hev')] at hr
    cases hr
  · obtain ⟨hterm', hanswered⟩ := execActions_answered hone hread hkeep hterm
    obtain ⟨hsound, hreqs, hrest⟩ := hbefore hterm'
    rw [hprov] at hanswered ⊢
    have hreq := hreqs req (hone ▸ List.mem_cons_self)
    obtain ⟨hsound', hhead, htail⟩ := hsound.answered hreq hanswered
    refine ⟨hsound', ?_⟩
    cases hevs : (execActions (liveProvider cfg random) c.rt c.tr acts).2.2 with
    | nil =>
      refine ⟨fun ev' hev' r hr ↦ ?_, fun ev' hev' ↦ hrest ev' (List.mem_of_mem_tail hev')⟩
      rw [hrest ev' (List.mem_of_mem_head? hev')] at hr
      cases hr
    | cons first others =>
      rw [hevs] at hhead htail
      refine ⟨hhead, fun ev' hev' ↦ hrest ev' ?_⟩
      rwa [show others = [] from htail] at hev'

/-- **The drive loop.** -/
theorem Queued.driveWith (hempty : ∀ alg, Core.KeyScheduleDriver.emptyHashFor alg =
      Crypto.KeySchedule.emptyHash alg) (fuel : Nat) {c : TlsConn τ}
    (hprov : c.prov = liveProvider cfg random) {evs : List InputEvent} (h : Queued cfg c evs) :
    Queued cfg (c.driveWith fuel evs) [] := by
  induction fuel generalizing c evs with
  | zero =>
    rw [TlsConn.driveWith, driveEvents]
    exact h.done
  | succ fuel ih =>
    cases evs with
    | nil =>
      rw [TlsConn.driveWith, driveEvents]
      · exact h.done
      all_goals simp
    | cons ev rest =>
      obtain ⟨core', acts, hstep⟩ := Core.step_total c.core ev
      rw [TlsConn.driveWith, driveEvents, hstep]
      have hround := h.round hempty hprov hstep
        (observeMetrics (execActions c.prov c.rt c.tr acts).1.metrics core' acts)
      exact ih (by exact hprov) hround

/-! ## Calls

A call feeds the core with its own event, which must not be a result, and the queue is empty before
it and after it. -/

/-- The result that a call brings. -/
def TlsConn.Call.result? : TlsConn.Call → Option CryptoResult
  | .progress ev => ev.result?
  | _ => none

omit [Transport τ] in
/-- A connection whose queue is empty goes on with an event that brings no result. -/
theorem Queued.feed {c : TlsConn τ} {ev : InputEvent} (h : Queued cfg c [])
    (hev : ev.result? = none) : Queued cfg c [ev] := by
  intro hterm hlive
  refine ⟨(h hterm hlive).1, fun ev' hev' r hr ↦ ?_, nofun⟩
  cases hev'
  rw [hev] at hr
  cases hr

omit [Transport τ] in
/-- What a method does to the runtime beside driving the core does not matter. -/
theorem Queued.of_rt {c c' : TlsConn τ} (h : Queued cfg c []) (hcore : c'.core = c.core)
    (harena : c'.rt.arena = c.rt.arena)
    (hterm : c'.rt.terminal = false → c.rt.terminal = false) : Queued cfg c' [] := by
  intro ht hlive
  rw [hcore] at hlive ⊢
  rw [harena]
  exact h.done (hterm ht) hlive

omit [Transport τ] in
theorem Queued.deliver {c : TlsConn τ} {r : TlsConn τ × TlsReadResult} (h : Queued cfg c [])
    (hr : c.deliver = some r) : Queued cfg r.1 [] := by
  rw [TlsConn.deliver] at hr
  split at hr <;> cases hr
  exact h.of_rt rfl rfl id

section Call

variable (hempty : ∀ alg, Core.KeyScheduleDriver.emptyHashFor alg =
  Crypto.KeySchedule.emptyHash alg)

include hempty

theorem Queued.drive {c : TlsConn τ} (h : Queued cfg c [])
    (hprov : c.prov = liveProvider cfg random) (ev : InputEvent) (hev : ev.result? = none) :
    Queued cfg (c.drive ev) [] :=
  (h.feed hev).driveWith hempty _ hprov

theorem Queued.recv {c : TlsConn τ} (h : Queued cfg c [])
    (hprov : c.prov = liveProvider cfg random) : Queued cfg c.recv.1 [] := by
  have hasked := h.drive hempty hprov (.appRecvRequested c.core.connId) rfl
  have hprov₁ : (c.drive (.appRecvRequested c.core.connId)).prov = liveProvider cfg random := hprov
  rw [TlsConn.recv]
  dsimp only
  generalize c.drive (.appRecvRequested c.core.connId) = c₁ at hasked hprov₁ ⊢
  split
  · rename_i hr
    exact hasked.deliver hr
  · split
    · rw [TlsConn.readEnded_fst]
      exact hasked
    · have hread := hasked.drive hempty hprov₁ (.transportReadable c₁.core.connId) rfl
      have hprov₂ : (c₁.drive (.transportReadable c₁.core.connId)).prov = liveProvider cfg random :=
        hprov₁
      generalize c₁.drive (.transportReadable c₁.core.connId) = c₂ at hread hprov₂ ⊢
      have hasked' := hread.drive hempty hprov₂ (.appRecvRequested c₂.core.connId) rfl
      split
      · rename_i hr
        exact hasked'.deliver hr
      · split
        · rw [TlsConn.readEnded_fst]
          exact hasked'
        · exact hasked'

/-- **A call.** -/
theorem Queued.perform {c : TlsConn τ} (h : Queued cfg c [])
    (hprov : c.prov = liveProvider cfg random) (k : TlsConn.Call) (hk : k.result? = none) :
    Queued cfg (c.perform k).1 [] := by
  cases k with
  | recv => exact h.recv hempty hprov
  | send plaintext =>
    rw [TlsConn.perform, TlsConn.send]
    split
    · rw [TlsConn.writeEnded_fst]
      exact h
    · dsimp only
      split
      · split <;> exact h
      · have hcounted : Queued cfg { c with rt := { c.rt with acceptedBytes := 0 } } [] :=
          h.of_rt rfl rfl id
        have hsent := hcounted.drive hempty hprov
          (.appSend c.core.connId (plaintext.extract 0 (c.admitted plaintext))) rfl
        split
        · rw [TlsConn.writeEnded_fst]
          exact hsent
        · split <;> exact hsent
  | flush =>
    have hdriven := h.drive hempty hprov (.appFlush c.core.connId) rfl
    have hflushed : Queued cfg { c.drive (.appFlush c.core.connId) with
        rt := (drainOutbound (c.drive (.appFlush c.core.connId)).rt
          (c.drive (.appFlush c.core.connId)).tr).1
        tr := (drainOutbound (c.drive (.appFlush c.core.connId)).rt
          (c.drive (.appFlush c.core.connId)).tr).2 } [] :=
      hdriven.of_rt rfl (drain_arena _ _) (drain_terminal _)
    rw [TlsConn.perform, TlsConn.flush]
    dsimp only
    split
    · exact hflushed
    · split <;> exact hflushed
  | close mode =>
    have hclosed := h.drive hempty hprov (.appClose c.core.connId mode) rfl
    rw [TlsConn.perform, TlsConn.close]
    dsimp only
    split <;> exact hclosed
  | progress ev => exact h.drive hempty hprov ev hk

/-- **A run of calls** keeps a connection sound. -/
theorem queued_of_run {tr₀ : τ} {conn : Core.ConnId} {gen : Core.ConfigGeneration}
    {alg : Core.HashAlgorithm} {config : Core.ValidatedServerConfig} {tr : List (CallStep τ)}
    {c : TlsConn τ} (h : CallRun tr₀ conn gen alg (liveProvider cfg random) config tr c)
    (hresults : ∀ t ∈ tr, t.input.result? = none) : Queued cfg c [] := by
  refine (Machine.Run.history (J := fun _ c ↦ c.prov = liveProvider cfg random ∧ Queued cfg c [])
    (C := fun t ↦ t.input.result? = none) (fun pre t ht hk hJ ↦ ?_) h hresults ⟨rfl, ?_⟩).2
  · have htarget : (t.source.perform t.input).1 = t.target := (Prod.mk.inj (Except.ok.inj ht)).1
    rw [← htarget]
    exact ⟨(TlsConn.perform_prov _ _).trans hJ.1, hJ.2.perform hempty hJ.1 t.input hk⟩
  · intro _ _
    exact ⟨⟨Crypto.SecretArena.ordered_empty, rfl, fun hp ↦ absurd rfl hp, fun _ ↦ rfl, nofun⟩,
      nofun, nofun⟩

end Call

/-! ## What a connection has come to

The invariant, read for the application: keys, messages and proofs in terms of the key schedule of
the transcript. -/

/-- The slots whose keys are installed, by the phase of the handshake. -/
def slotsOf : HandshakeState → List Slot
  | .requestedCertificateVerifySignature => Phase.handshakeKeysInstalled.installed
  | .requestedServerFinishedMac => Phase.handshakeKeysInstalled.installed
  | .sentCertificateVerify => Phase.handshakeKeysInstalled.installed
  | .sentServerFinished => Phase.complete.installed
  | .requestedClientFinishedVerify => Phase.complete.installed
  | .connected => Phase.complete.installed
  | _ => []

/-- What the key schedule of a handshake is computed from. -/
def scheduleOf (v : View) (shared : Bytes) : Inputs where
  suite := v.suite
  shared := shared
  hello := hashOf v.suite.hashAlg (v.transcript.textUpTo 2)
  flight := hashOf v.suite.hashAlg (v.transcript.textUpTo 6)

/-- The driver computes the schedule of its handshake, up to what it has not been given yet. -/
theorem Driven.inputs_eq (h : Driven cfg a v k shared) : inputs k shared =
    { scheduleOf v shared with flight := hashOf v.suite.hashAlg k.apTranscript } := by
  rw [inputs, h.suite, h.hello]
  rfl

theorem Driven.secret (h : Driven cfg a v k shared) {x : Secret}
    (hx : x ∈ Phase.known.handshakeSecrets ∨ k.phase.resumed = true) :
    (inputs k shared).secret x = (scheduleOf v shared).secret x := by
  rw [h.inputs_eq]
  rcases hx with hx | hres
  · exact Crypto.secret_of_handshake (by rfl) (by rfl) (by rfl) hx
  · rw [h.flight hres]
    rfl

omit [NativeHacl] in
/-- In each phase of the handshake the driver has installed the slots of the phase. -/
theorem installed_of_drives {q : HandshakeState} {p : Phase} (h : drives q p = true) :
    ∀ slot ∈ slotsOf q, slot ∈ p.installed := by
  cases q
  case requestedCertificateVerifySignature | requestedServerFinishedMac =>
    rw [beq_iff_eq.mp h]
    decide
  case sentCertificateVerify => cases p <;> first | decide | cases h
  case sentServerFinished | requestedClientFinishedVerify | connected =>
    rw [beq_iff_eq.mp h]
    decide
  all_goals exact List.forall_mem_nil _

omit [NativeHacl] in
/-- Before the flight is out, only keys of the handshake are installed. -/
theorem secret_of_installed (p : Phase) :
    ∀ slot ∈ p.installed, slot.secret ∈ Phase.known.handshakeSecrets ∨ p.resumed = true := by
  cases p <;> decide

/-- The keys that the driver has installed are those of the schedule of the handshake. -/
theorem Driven.installed (h : Driven cfg a v k shared) {slot : Slot}
    (hslot : slot ∈ k.phase.installed) : Installed a (scheduleOf v shared) slot := by
  have hold := h.scheduled.slots slot hslot
  have hsecret := h.secret (secret_of_installed k.phase slot hslot)
  have hkeys : (inputs k shared).keys slot.secret = (scheduleOf v shared).keys slot.secret := by
    rw [Inputs.keys, Inputs.keys, hsecret, h.inputs_eq]
    rfl
  exact ⟨hold.keys.trans (congrArg some hkeys), hold.base.trans (congrArg some hsecret),
    hold.suite.trans (congrArg some h.suite)⟩

section Run

variable {tr₀ : τ} {conn : Core.ConnId} {gen : Core.ConfigGeneration} {alg : Core.HashAlgorithm}
  {config : Core.ValidatedServerConfig} {tr : List (CallStep τ)} {c : TlsConn τ}

/-- **The keys of a connection are those of the key schedule.**  The empty hashes of the driver
being right, wherever a run rests behind the key exchange, the traffic keys of every slot that the
driver has installed are derived from the result of the key exchange and the hashes of the messages
up to ServerHello and up to the server Finished.  The slots of the handshake's own phase are among
them; in the middle of the schedule there may be more. -/
theorem sessionKeys_of_run
    (hempty : ∀ alg, Core.KeyScheduleDriver.emptyHashFor alg = Crypto.KeySchedule.emptyHash alg)
    (h : CallRun tr₀ conn gen alg (liveProvider cfg random) config tr c)
    (hresults : ∀ t ∈ tr, t.input.result? = none) (hterm : c.rt.terminal = false)
    (hlive : c.core.handshake.isLive = true)
    (hphase : precedesSchedule c.core.handshake = false) :
    ∃ k shared, c.core.keySched = some k ∧ exchanged cfg c.core.view = some shared ∧
      (∀ slot ∈ slotsOf c.core.handshake, slot ∈ k.phase.installed) ∧
      ∀ slot ∈ k.phase.installed, Installed c.rt.arena (scheduleOf c.core.view shared) slot := by
  obtain ⟨hsound, -, -⟩ := queued_of_run hempty h hresults hterm hlive
  obtain ⟨k, shared, hk, hd, -⟩ := hsound.keyed hphase
  exact ⟨k, shared, hk, hd.exchange, installed_of_drives hd.phase,
    fun slot hslot ↦ hd.installed hslot⟩

omit [NativeHacl] in
theorem sessionKeys_live : letI := Session.handThrough
    ∃ k shared, Session.live.core.keySched = some k ∧
      exchanged Session.keys Session.live.core.view = some shared ∧
      (∀ slot ∈ slotsOf Session.live.core.handshake, slot ∈ k.phase.installed) ∧
      ∀ slot ∈ k.phase.installed, Installed Session.live.rt.arena
        (scheduleOf Session.live.core.view shared) slot := by
  let _ := Session.handThrough
  exact sessionKeys_of_run (fun alg ↦ by cases alg <;> rfl) Session.live_callRun
    (by decide +kernel) (by decide +kernel) (by decide +kernel) (by decide +kernel)

/-- What the messages of a sound handshake carry. -/
theorem Sound.carried (h : Sound cfg a v) (hphase : precedesSchedule v.phase = false) :
    ∃ shared, exchanged cfg v = some shared ∧
      ∀ n < v.transcript.events.length, Carried cfg v (scheduleOf v shared) n := by
  obtain ⟨k, shared, -, hd, hcarried⟩ := h.keyed hphase
  refine ⟨shared, hd.exchange, fun n hn ↦ (hcarried n hn).mono hn (List.append_nil _).symm rfl ?_
    (hd.secret (.inl (by decide))).symm (hd.secret (.inl (by decide))).symm⟩
  rw [hd.inputs_eq]
  rfl

/-- The messages of the server in its flight, with a signature and a MAC. -/
def serverMessages (cfg : RealCryptoConfig) (v : View) (sig mac : Bytes) : List TranscriptEvent :=
  [committed .serverHello .write (serializeHandshakeOut (v.serverHello (ownShare cfg v))),
    committed .encryptedExtensions .write (serializeHandshakeOut v.encryptedExtensions),
    committed .certificate .write (Core.serializeServerCertificate v.negotiated.selectedCertDer),
    committed .certificateVerify .write (serializeHandshakeOut (v.certificateVerify sig)),
    committed .finished .write (serializeHandshakeOut (.finished mac))]

omit [Transport τ] in
/-- The flight of a sound handshake. -/
theorem Sound.flight (h : Sound cfg a v) (hlen : 6 ≤ v.transcript.events.length) :
    ∃ shared sig, exchanged cfg v = some shared ∧
      certificateSignature cfg v.scheme
        (certVerifyContent (hashOf v.suite.hashAlg (v.transcript.textUpTo 4))) = some sig ∧
      (v.transcript.events.drop 1).take 5 = serverMessages cfg v sig
        (finishedMac (scheduleOf v shared) .sHs (v.transcript.textUpTo 5)) := by
  have hafter : precedesSchedule v.phase = false := by
    rw [h.length rfl] at hlen
    cases hp : v.phase <;> rw [hp] at hlen <;> first | rfl | exact absurd hlen (by decide)
  obtain ⟨shared, hexchange, hcarried⟩ := h.carried hafter
  have h₁ := hcarried 1 (by omega)
  have h₂ := hcarried 2 (by omega)
  have h₃ := hcarried 3 (by omega)
  obtain ⟨sig, hsig, h₄⟩ := hcarried 4 (by omega)
  have h₅ := hcarried 5 (by omega)
  refine ⟨shared, sig, hexchange, hsig, List.ext_getElem? fun n ↦ ?_⟩
  by_cases hn : n < 5
  · rw [List.getElem?_take_of_lt hn, List.getElem?_drop]
    match n with
    | 0 => exact h₁
    | 1 => exact h₂
    | 2 => exact h₃
    | 3 => exact h₄
    | 4 => exact h₅
  · rw [List.getElem?_eq_none (by simp; omega), List.getElem?_eq_none]
    exact Nat.not_lt.mp hn

/-- **The flight of the server** says what it should: behind the ClientHello, the share of the
server, the signature over the hash of the messages before it, and the MAC under the secret of the
schedule over the hash of the messages before it. -/
theorem serverFlight_of_run
    (hempty : ∀ alg, Core.KeyScheduleDriver.emptyHashFor alg = Crypto.KeySchedule.emptyHash alg)
    (h : CallRun tr₀ conn gen alg (liveProvider cfg random) config tr c)
    (hresults : ∀ t ∈ tr, t.input.result? = none) (hterm : c.rt.terminal = false)
    (hlive : c.core.handshake.isLive = true) (hflight : 6 ≤ c.core.transcript.events.length) :
    ∃ shared sig, exchanged cfg c.core.view = some shared ∧
      certificateSignature cfg c.core.view.scheme (certVerifyContent
        (hashOf c.core.view.suite.hashAlg (c.core.transcript.textUpTo 4))) = some sig ∧
      (c.core.transcript.events.drop 1).take 5 = serverMessages cfg c.core.view sig
        (finishedMac (scheduleOf c.core.view shared) .sHs (c.core.transcript.textUpTo 5)) := by
  obtain ⟨hsound, -, -⟩ := queued_of_run hempty h hresults hterm hlive
  exact hsound.flight hflight

omit [NativeHacl] in
theorem serverFlight_live : letI := Session.handThrough
    ∃ shared sig, exchanged Session.keys Session.live.core.view = some shared ∧
      certificateSignature Session.keys Session.live.core.view.scheme (certVerifyContent
        (hashOf Session.live.core.view.suite.hashAlg
          (Session.live.core.transcript.textUpTo 4))) = some sig ∧
      (Session.live.core.transcript.events.drop 1).take 5 =
        serverMessages Session.keys Session.live.core.view sig
          (finishedMac (scheduleOf Session.live.core.view shared) .sHs
            (Session.live.core.transcript.textUpTo 5)) := by
  let _ := Session.handThrough
  exact serverFlight_of_run (fun alg ↦ by cases alg <;> rfl) Session.live_callRun
    (by decide +kernel) (by decide +kernel) (by decide +kernel) (by decide +kernel)

omit [Transport τ] in
/-- The client Finished of a sound handshake. -/
theorem Sound.clientFinished (h : Sound cfg a v) (hphase : v.phase = .connected) :
    ∃ shared wire, exchanged cfg v = some shared ∧
      v.transcript.events.drop 6 = [committed .finished .read wire] ∧
      Carries wire (finishedMac (scheduleOf v shared) .cHs (v.transcript.textUpTo 6)) := by
  have hlen : v.transcript.events.length = 7 := h.length hphase
  obtain ⟨shared, hexchange, hcarried⟩ := h.carried (by rw [hphase]; rfl)
  obtain ⟨wire, hevent, hmac⟩ := hcarried 6 (by omega)
  refine ⟨shared, wire, hexchange, ?_, hmac⟩
  obtain ⟨hlt, hget⟩ := List.getElem?_eq_some_iff.mp hevent
  rw [List.drop_eq_getElem_cons hlt, hget, List.drop_eq_nil_of_le (Nat.le_of_eq hlen)]

/-- **A connected client has proved itself**: its Finished carries the MAC under the client secret
of the schedule, over the hash of the messages before it. -/
theorem clientFinished_of_run
    (hempty : ∀ alg, Core.KeyScheduleDriver.emptyHashFor alg = Crypto.KeySchedule.emptyHash alg)
    (h : CallRun tr₀ conn gen alg (liveProvider cfg random) config tr c)
    (hresults : ∀ t ∈ tr, t.input.result? = none) (hterm : c.rt.terminal = false)
    (hconn : c.core.handshake = .connected) :
    ∃ shared wire, exchanged cfg c.core.view = some shared ∧
      c.core.transcript.events.drop 6 = [committed .finished .read wire] ∧
      Carries wire (finishedMac (scheduleOf c.core.view shared) .cHs
        (c.core.transcript.textUpTo 6)) := by
  obtain ⟨hsound, -, -⟩ := queued_of_run hempty h hresults hterm (by rw [hconn]; rfl)
  exact hsound.clientFinished hconn

omit [NativeHacl] in
theorem clientFinished_live : letI := Session.handThrough
    ∃ shared wire, exchanged Session.keys Session.live.core.view = some shared ∧
      Session.live.core.transcript.events.drop 6 = [committed .finished .read wire] ∧
      Carries wire (finishedMac (scheduleOf Session.live.core.view shared) .cHs
        (Session.live.core.transcript.textUpTo 6)) := by
  let _ := Session.handThrough
  exact clientFinished_of_run (fun alg ↦ by cases alg <;> rfl) Session.live_callRun
    (by decide +kernel) (by decide +kernel) (by decide +kernel)

end Run

end Exec

end Kroopt.Conn
