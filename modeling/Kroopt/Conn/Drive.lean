import Kroopt.Conn.TlsConn
import Kroopt.Core.Session

/-!
# What a connection executes

`driveEvents` and the methods of `TlsConn` return only the connection they end with.  Here is what
they do on the way: the rounds of the drive loop, and in each round the actions in the order they
are executed, each with the runtime and the transport it is executed in.

The loop is a machine like the core: a round takes the first event of the queue, has the core answer
it, executes the actions and puts the events that come back in front of the queue.  So a run of
calls is a run of rounds, and the rounds, read without the runtime, are a run of the core.  That is
how results about the core become results about connections, without being proved again.

## Main definitions

* `appended`: what an action puts into the outbound queue.
* `execLog`: the executions of a list of actions, and `CallStep.log` those of a call.
* `TlsConn.react` and `TlsConn.rounds`: one round, and the rounds of the loop.
* `TlsConn.callRounds`: the rounds of a call.
* `CallRun`: a run of calls from a fresh connection.

## Main results

* `rounds_run`: the rounds lead where `driveWith` does.
* `callRounds_run`: a call is the run of its rounds, but for a field that a write resets and what a
  read or a flush does in the end.
* `callRounds_core` and `CallRun.core`: the rounds as a run of the core, so that whatever holds
  along every run of the core holds of the core of every connection.
-/

set_option autoImplicit false

namespace Kroopt.Conn

open Kroopt.Core (State InputEvent OutputAction CoreStep ConnId ConfigGeneration HashAlgorithm
  ValidatedServerConfig)
open Kroopt.Crypto (CryptoProvider SecretArena Hacl)

/-- A round of the drive loop; it emits the actions of the core and the follow-up events. -/
abbrev Round (τ : Type) :=
  Machine.Transition (TlsConn τ) InputEvent (List OutputAction × List InputEvent)

/-- The core's part of a round. -/
def Round.coreStep {τ : Type} (r : Round τ) : CoreStep :=
  ⟨r.source.core, r.input, r.output.1, r.target.core⟩

/-- An action, with the runtime and the transport it is executed in. -/
structure Executed (τ : Type) where
  rt : RuntimeState
  tr : τ
  action : OutputAction

section Drive

variable [Hacl] {τ : Type} [Transport τ]

/-! ## The outbound queue -/

omit [Transport τ] in
/-- The bytes an action queues for the transport. -/
def appended (arena : SecretArena) : OutputAction → Bytes
  | .writeTransport _ b => Record13.recordAAD b.length ++ b
  | .writeHandshake _ epoch seq msg =>
    (handshakeWire arena epoch seq (Core.serializeHandshakeOut msg)).toOption.getD []
  | .writeCertificate _ epoch seq der =>
    (handshakeWire arena epoch seq (Core.serializeServerCertificate der)).toOption.getD []
  | .writeAlert _ epoch seq a => (alertWire arena epoch seq a).getD []
  | _ => []

/-! ## Executions -/

/-- The executions of a list of actions. -/
def execLog (prov : CryptoProvider) : RuntimeState → τ → List OutputAction → List (Executed τ)
  | _, _, [] => []
  | rt, tr, a :: acts =>
    ⟨rt, tr, a⟩ :: execLog prov (traceAction (execAction prov rt tr a).1 a)
      (execAction prov rt tr a).2.1 acts

/-- Executions are of the actions of the list. -/
theorem action_mem_of_execLog {prov : CryptoProvider} {rt : RuntimeState} {tr : τ}
    {acts : List OutputAction} {e : Executed τ} (h : e ∈ execLog prov rt tr acts) :
    e.action ∈ acts := by
  induction acts generalizing rt tr with
  | nil => cases h
  | cons a acts ih =>
    rcases List.mem_cons.mp h with rfl | h
    · exact List.mem_cons_self
    · exact List.mem_cons_of_mem _ (ih h)

/-- The follow-up events already collected do not matter to what is executed next. -/
theorem foldl_execNext (prov : CryptoProvider) (acts : List OutputAction) (rt : RuntimeState)
    (tr : τ) (evs : List InputEvent) :
    acts.foldl (execNext prov) (rt, tr, evs) =
      ((execActions prov rt tr acts).1, (execActions prov rt tr acts).2.1,
        evs ++ (execActions prov rt tr acts).2.2) := by
  rw [execActions]
  induction acts generalizing rt tr evs with
  | nil => simp
  | cons a acts ih =>
    simp only [List.foldl_cons, execNext]
    rw [ih, ih _ _ ([] ++ _)]
    simp

@[simp] theorem execActions_nil (prov : CryptoProvider) (rt : RuntimeState) (tr : τ) :
    execActions prov rt tr [] = (rt, tr, []) := rfl

theorem execActions_cons (prov : CryptoProvider) (rt : RuntimeState) (tr : τ) (a : OutputAction)
    (acts : List OutputAction) :
    execActions prov rt tr (a :: acts) =
      ((execActions prov (traceAction (execAction prov rt tr a).1 a) (execAction prov rt tr a).2.1
          acts).1,
        (execActions prov (traceAction (execAction prov rt tr a).1 a) (execAction prov rt tr a).2.1
          acts).2.1,
        (execAction prov rt tr a).2.2 ++
          (execActions prov (traceAction (execAction prov rt tr a).1 a)
            (execAction prov rt tr a).2.1 acts).2.2) := by
  rw [execActions, List.foldl_cons, execNext, foldl_execNext]
  simp

/-- The last of a list of actions, by its results. -/
theorem execActions_concat (prov : CryptoProvider) (rt : RuntimeState) (tr : τ)
    (acts : List OutputAction) (a : OutputAction) :
    (execActions prov rt tr (acts ++ [a])).1 =
      traceAction (execAction prov (execActions prov rt tr acts).1
        (execActions prov rt tr acts).2.1 a).1 a := by
  induction acts generalizing rt tr with
  | nil => rfl
  | cons b acts ih => rw [List.cons_append, execActions_cons, execActions_cons, ih]

/-- The executions of a round. -/
def Round.log (r : Round τ) : List (Executed τ) :=
  execLog r.source.prov r.source.rt r.source.tr r.output.1

/-- The last of a list of actions is executed in what the others leave behind. -/
theorem execLog_concat (prov : CryptoProvider) (rt : RuntimeState) (tr : τ)
    (acts : List OutputAction) (a : OutputAction) :
    execLog prov rt tr (acts ++ [a]) = execLog prov rt tr acts ++
      [⟨(execActions prov rt tr acts).1, (execActions prov rt tr acts).2.1, a⟩] := by
  induction acts generalizing rt tr with
  | nil => rfl
  | cons b acts ih =>
    rw [List.cons_append, execLog, execLog, ih, execActions_cons]
    rfl

/-! ## Rounds -/

namespace TlsConn

/-- One round of the drive loop: the step of the core on one event, and the execution of its
actions. -/
def react (c : TlsConn τ) (ev : InputEvent) :
    Except TlsError (TlsConn τ × (List OutputAction × List InputEvent)) :=
  match Core.step c.core ev with
  | .error e => .error e
  | .ok (core', acts) =>
    let (rt', tr', newEvs) := execActions c.prov c.rt c.tr acts
    .ok ({ c with core := core'
                  rt := { rt' with metrics := observeMetrics rt'.metrics core' acts }
                  tr := tr' }, acts, newEvs)

/-- The rounds of the drive loop. -/
def rounds : Nat → TlsConn τ → List InputEvent → List (Round τ)
  | 0, _, _ => []
  | _, _, [] => []
  | fuel + 1, c, ev :: rest =>
    match c.react ev with
    | .error _ => []
    | .ok (c', acts, newEvs) => ⟨c, ev, (acts, newEvs), c'⟩ :: rounds fuel c' (newEvs ++ rest)

/-- A round always succeeds. -/
theorem react_eq {c : TlsConn τ} {ev : InputEvent} {core' : State} {acts : List OutputAction}
    (h : Core.step c.core ev = .ok (core', acts)) :
    c.react ev = .ok ({ c with
      core := core'
      rt := { (execActions c.prov c.rt c.tr acts).1 with
        metrics := observeMetrics (execActions c.prov c.rt c.tr acts).1.metrics core' acts }
      tr := (execActions c.prov c.rt c.tr acts).2.1 }, acts,
      (execActions c.prov c.rt c.tr acts).2.2) := by
  rw [react, h]

/-- **The drive loop is a run of rounds.** -/
theorem rounds_run (fuel : Nat) (c : TlsConn τ) (evs : List InputEvent) :
    Machine.Run react c (c.rounds fuel evs) (c.driveWith fuel evs) := by
  induction fuel generalizing c evs with
  | zero =>
    rw [rounds, driveWith, driveEvents]
    exact .nil c
  | succ fuel ih =>
    cases evs with
    | nil =>
      rw [rounds, driveWith, driveEvents]
      · exact .nil c
      all_goals exact nofun
    | cons ev rest =>
      obtain ⟨core', acts, hstep⟩ := Core.step_total c.core ev
      have hreact := react_eq hstep
      rw [rounds, hreact, driveWith, driveEvents, hstep]
      exact Machine.Run.cons (t := ⟨c, ev, (acts, _), _⟩) hreact (ih _ _)

/-- The core's part of a round is a step of the core. -/
theorem steps_coreStep {r : Round τ} (h : Machine.Steps react r) :
    Machine.Steps Core.step r.coreStep := by
  obtain ⟨core', acts, hstep⟩ := Core.step_total r.source.core r.input
  have hreact := (react_eq hstep).symm.trans h
  obtain ⟨htarget, houtput⟩ := Prod.mk.inj (Except.ok.inj hreact)
  rw [Machine.Steps, Round.coreStep, ← htarget, ← houtput]
  exact hstep

/-- The core's part of a run of rounds is a run of the core. -/
theorem rounds_core {c c' : TlsConn τ} {rs : List (Round τ)} (h : Machine.Run react c rs c') :
    Machine.Run Core.step c.core (rs.map Round.coreStep) c'.core :=
  h.map (φ := TlsConn.core) fun _ ht ↦ ⟨steps_coreStep ht, rfl, rfl⟩

/-- The executions of the drive loop. -/
def driveLog (c : TlsConn τ) (fuel : Nat) (evs : List InputEvent) : List (Executed τ) :=
  (c.rounds fuel evs).flatMap Round.log

/-- What the loop executes are actions of a step of the core. -/
theorem step_of_mem_driveLog {c : TlsConn τ} {fuel : Nat} {evs : List InputEvent} {e : Executed τ}
    (h : e ∈ c.driveLog fuel evs) :
    ∃ t : CoreStep, Machine.Steps Core.step t ∧ e.action ∈ t.output := by
  obtain ⟨r, hr, he⟩ := List.mem_flatMap.mp h
  have hsteps := steps_coreStep ((rounds_run fuel c evs).steps_of_mem hr)
  exact ⟨r.coreStep, hsteps, action_mem_of_execLog he⟩

/-! ## Calls

A read and a flush do more than drive the core: the one takes the waiting plaintext, and the other
drains the queue.  `Prepares` and `Settles` are what a call does to the connection before its rounds
and after them. -/

/-- The rounds of one event, with the configured fuel. -/
def driveRounds (c : TlsConn τ) (ev : InputEvent) : List (Round τ) :=
  c.rounds c.core.serverConfig.limits.maxProgressStepsPerCall [ev]

/-- The rounds of a call. -/
def callRounds (c : TlsConn τ) : Call → List (Round τ)
  | .recv =>
    let asked := InputEvent.appRecvRequested c.core.connId
    let c₁ := c.drive asked
    if c₁.rt.plaintextOut.isSome || c₁.core.handshake.isTerminal then c.driveRounds asked
    else
      let c₂ := c₁.drive (.transportReadable c₁.core.connId)
      c.driveRounds asked ++ c₁.driveRounds (.transportReadable c₁.core.connId) ++
        c₂.driveRounds (.appRecvRequested c₂.core.connId)
  | .send plaintext =>
    let n := c.admitted plaintext
    if c.core.handshake.isTerminal || n = 0 then []
    else { c with rt := { c.rt with acceptedBytes := 0 } }.driveRounds
      (.appSend c.core.connId (plaintext.extract 0 n))
  | .flush => c.driveRounds (.appFlush c.core.connId)
  | .close mode => c.driveRounds (.appClose c.core.connId mode)
  | .progress ev => c.driveRounds ev

/-- A call, as a step of a machine. -/
def call (c : TlsConn τ) (k : Call) : Except TlsError (TlsConn τ × Answer) := .ok (c.perform k)

omit [Hacl] [Transport τ] in
@[simp] theorem readEnded_fst (c : TlsConn τ) : c.readEnded.1 = c := by
  rw [readEnded]
  split <;> rfl

omit [Hacl] [Transport τ] in
@[simp] theorem writeEnded_fst (c : TlsConn τ) : c.writeEnded.1 = c := by
  rw [writeEnded]
  split <;> rfl

/-- What a call does before its rounds: a write resets the count of accepted bytes. -/
inductive Prepares (c : TlsConn τ) : TlsConn τ → Prop
  | same : Prepares c c
  | counting : Prepares c { c with rt := { c.rt with acceptedBytes := 0 } }

/-- What a call does behind its rounds: a read hands out the plaintext, and a flush drains once
more. -/
inductive Settles (c : TlsConn τ) : TlsConn τ → Prop
  | same : Settles c c
  | delivered : Settles c { c with rt := { c.rt with plaintextOut := none } }
  | drained : Settles c
      { c with rt := (drainOutbound c.rt c.tr).1, tr := (drainOutbound c.rt c.tr).2 }

omit [Hacl] [Transport τ] in
theorem Prepares.core_eq {c c₀ : TlsConn τ} (h : c.Prepares c₀) : c₀.core = c.core := by
  cases h <;> rfl

omit [Hacl] [Transport τ] in
theorem Prepares.prov_eq {c c₀ : TlsConn τ} (h : c.Prepares c₀) : c₀.prov = c.prov := by
  cases h <;> rfl

omit [Hacl] in
theorem Settles.core_eq {c c' : TlsConn τ} (h : c.Settles c') : c'.core = c.core := by
  cases h <;> rfl

omit [Hacl] in
theorem Settles.prov_eq {c c' : TlsConn τ} (h : c.Settles c') : c'.prov = c.prov := by
  cases h <;> rfl

omit [Hacl] in
/-- Handing out plaintext settles a read. -/
theorem settles_deliver {c : TlsConn τ} {r : TlsConn τ × TlsReadResult} (h : c.deliver = some r) :
    c.Settles r.1 := by
  rw [deliver] at h
  split at h
  · rw [← Option.some.inj h]
    exact .delivered
  · exact absurd h (by simp)

omit [Hacl] [Transport τ] in
theorem isSome_deliver (c : TlsConn τ) : c.rt.plaintextOut.isSome = c.deliver.isSome := by
  rw [deliver]
  cases c.rt.plaintextOut <;> rfl

/-- **A read** asks once, and if nothing came and the connection goes on, it reads the transport and
asks again. -/
theorem recv_run (c : TlsConn τ) :
    ∃ c₁, Machine.Run react c (c.callRounds .recv) c₁ ∧ c₁.Settles c.recv.1 := by
  have hfirst := rounds_run c.core.serverConfig.limits.maxProgressStepsPerCall c
    [.appRecvRequested c.core.connId]
  rw [callRounds, recv]
  dsimp only
  change Machine.Run react c (c.driveRounds _) (c.drive _) at hfirst
  generalize c.drive (.appRecvRequested c.core.connId) = c₁ at hfirst ⊢
  have hsome := isSome_deliver c₁
  cases hp : c₁.deliver with
  | some r =>
    rw [hp, Option.isSome_some] at hsome
    rw [hsome, Bool.true_or, if_pos rfl]
    exact ⟨c₁, hfirst, settles_deliver hp⟩
  | none =>
    rw [hp, Option.isSome_none] at hsome
    rw [hsome, Bool.false_or]
    by_cases hend : c₁.core.handshake.isTerminal = true
    · rw [if_pos hend]
      simp only [hend, if_true]
      exact ⟨c₁, hfirst, by rw [readEnded_fst]; exact .same⟩
    · have hread := rounds_run c₁.core.serverConfig.limits.maxProgressStepsPerCall c₁
        [.transportReadable c₁.core.connId]
      rw [if_neg hend]
      simp only [hend, Bool.false_eq_true, if_false]
      change Machine.Run react c₁ (c₁.driveRounds _) (c₁.drive _) at hread
      generalize c₁.drive (.transportReadable c₁.core.connId) = c₂ at hread ⊢
      have hlast := rounds_run c₂.core.serverConfig.limits.maxProgressStepsPerCall c₂
        [.appRecvRequested c₂.core.connId]
      change Machine.Run react c₂ (c₂.driveRounds _) (c₂.drive _) at hlast
      generalize c₂.drive (.appRecvRequested c₂.core.connId) = c₃ at hlast ⊢
      refine ⟨c₃, (hfirst.append hread).append hlast, ?_⟩
      cases hp₃ : c₃.deliver with
      | some r => exact settles_deliver hp₃
      | none =>
        dsimp only
        split
        · rw [readEnded_fst]
          exact .same
        · exact .same

/-- **A call is a run of rounds**, between what it prepares and what it settles. -/
theorem callRounds_run (c : TlsConn τ) (k : Call) :
    ∃ c₀ c₁, c.Prepares c₀ ∧ Machine.Run react c₀ (c.callRounds k) c₁ ∧
      c₁.Settles (c.perform k).1 := by
  have hdrive : ∀ (c : TlsConn τ) (ev : InputEvent),
      Machine.Run react c (c.driveRounds ev) (c.drive ev) := fun c ev ↦ rounds_run _ c [ev]
  cases k with
  | recv =>
    obtain ⟨c₁, hrun, hsettles⟩ := c.recv_run
    exact ⟨c, c₁, .same, hrun, hsettles⟩
  | send plaintext =>
    rw [callRounds, perform, send]
    by_cases hend : c.core.handshake.isTerminal = true
    · simp only [hend, if_true, Bool.true_or]
      exact ⟨c, c, .same, .nil c, by rw [writeEnded_fst]; exact .same⟩
    · by_cases hn : c.admitted plaintext = 0
      · simp only [hend, hn, Bool.false_eq_true, if_false, if_true, decide_true, Bool.or_true]
        refine ⟨c, c, .same, .nil c, ?_⟩
        split <;> exact .same
      · simp only [hend, hn, Bool.false_eq_true, if_false, decide_false, Bool.or_self]
        refine ⟨_, _, .counting, hdrive _ _, ?_⟩
        dsimp only
        split
        · rw [writeEnded_fst]
          exact .same
        · split <;> exact .same
  | flush =>
    refine ⟨c, _, .same, hdrive c _, ?_⟩
    rw [perform, flush]
    dsimp only
    split
    · exact .drained
    · split <;> exact .drained
  | close mode =>
    refine ⟨c, _, .same, hdrive c _, ?_⟩
    rw [perform, close]
    dsimp only
    split <;> exact .same
  | progress ev => exact ⟨c, _, .same, hdrive c ev, .same⟩

/-- The rounds of a call are rounds. -/
theorem steps_of_mem_callRounds {c : TlsConn τ} {k : Call} {r : Round τ} (h : r ∈ c.callRounds k) :
    Machine.Steps react r := by
  obtain ⟨c₀, c₁, -, hrun, -⟩ := c.callRounds_run k
  exact hrun.steps_of_mem h

/-- **A call is a run of the core.** -/
theorem callRounds_core (c : TlsConn τ) (k : Call) :
    Machine.Run Core.step c.core ((c.callRounds k).map Round.coreStep) (c.perform k).1.core := by
  obtain ⟨c₀, c₁, hprep, hrun, hsettles⟩ := c.callRounds_run k
  rw [← hprep.core_eq, hsettles.core_eq]
  exact rounds_core hrun

/-- A round leaves the provider alone. -/
theorem steps_prov {r : Round τ} (h : Machine.Steps react r) : r.target.prov = r.source.prov := by
  obtain ⟨core', acts, hstep⟩ := Core.step_total r.source.core r.input
  have htarget := (Prod.mk.inj (Except.ok.inj ((react_eq hstep).symm.trans h))).1
  rw [← htarget]

/-- The rounds of a call have its provider. -/
theorem prov_of_mem_callRounds {c : TlsConn τ} {k : Call} {r : Round τ} (h : r ∈ c.callRounds k) :
    r.source.prov = c.prov := by
  obtain ⟨c₀, c₁, hprep, hrun, -⟩ := c.callRounds_run k
  rw [← hprep.prov_eq]
  exact hrun.invariant_source (I := fun d ↦ d.prov = c₀.prov)
    (fun _ hr hprov ↦ (steps_prov hr).trans hprov) rfl h

/-- A call leaves the provider alone. -/
theorem perform_prov (c : TlsConn τ) (k : Call) : (c.perform k).1.prov = c.prov := by
  obtain ⟨c₀, c₁, hprep, hrun, hsettles⟩ := c.callRounds_run k
  rw [hsettles.prov_eq, ← hprep.prov_eq]
  refine Machine.Run.invariant (I := fun c ↦ c.prov = c₀.prov) (fun r hr hprov ↦ ?_) hrun rfl
  rw [steps_prov hr, hprov]

end TlsConn

/-- A call, with the connection it is made on and the one it returns. -/
abbrev CallStep (τ : Type) := Machine.Transition (TlsConn τ) TlsConn.Call TlsConn.Answer

/-- The rounds of a call. -/
def CallStep.rounds (t : CallStep τ) : List (Round τ) := t.source.callRounds t.input

/-- The executions of a call. -/
def CallStep.log (t : CallStep τ) : List (Executed τ) := t.rounds.flatMap Round.log

/-- A run of calls from a fresh server connection. -/
def CallRun (tr₀ : τ) (conn : ConnId) (gen : ConfigGeneration) (alg : HashAlgorithm)
    (prov : CryptoProvider) (config : ValidatedServerConfig) (tr : List (CallStep τ))
    (c : TlsConn τ) : Prop :=
  Machine.Run TlsConn.call (TlsConn.serverWith tr₀ conn gen alg prov config) tr c

/-- **Calls refine the core.**  The rounds of a run of calls are a run of the core. -/
theorem core_run_of_calls {c c' : TlsConn τ} {tr : List (CallStep τ)}
    (h : Machine.Run TlsConn.call c tr c') :
    Machine.Run Core.step c.core (tr.flatMap fun t ↦ t.rounds.map Round.coreStep) c'.core := by
  refine h.flatMap (φ := TlsConn.core) fun t ht ↦ ?_
  have htarget : (t.source.perform t.input).1 = t.target := (Prod.mk.inj (Except.ok.inj ht)).1
  rw [← htarget]
  exact t.source.callRounds_core t.input

theorem CallRun.core {tr₀ : τ} {conn : ConnId} {gen : ConfigGeneration} {alg : HashAlgorithm}
    {prov : CryptoProvider} {config : ValidatedServerConfig} {tr : List (CallStep τ)}
    {c : TlsConn τ} (h : CallRun tr₀ conn gen alg prov config tr c) :
    Core.CoreRun conn gen alg config (tr.flatMap fun t ↦ t.rounds.map Round.coreStep) c.core :=
  core_run_of_calls h

theorem CallRun.prov_eq {tr₀ : τ} {conn : ConnId} {gen : ConfigGeneration} {alg : HashAlgorithm}
    {prov : CryptoProvider} {config : ValidatedServerConfig} {tr : List (CallStep τ)}
    {c : TlsConn τ} (h : CallRun tr₀ conn gen alg prov config tr c) : c.prov = prov := by
  refine Machine.Run.invariant (I := fun c ↦ c.prov = prov) (fun t ht hprov ↦ ?_) h rfl
  have htarget : (t.source.perform t.input).1 = t.target := (Prod.mk.inj (Except.ok.inj ht)).1
  rw [← htarget, TlsConn.perform_prov, hprov]

end Drive

/-! ## One server

The connection of the tests: the scripted transport and the fake provider, under a configuration
that the validation accepts. -/

namespace Session

/-- Primitives that hash, derive and seal by doing nothing. -/
@[reducible] def primitives : Hacl where
  sha256 b := b
  sha384 b := b
  hkdfExpand256 prk _ _ := prk
  hkdfExpand384 prk _ _ := prk
  chachaPolySeal _ _ _ pt := pt
  aes128GcmSeal _ _ _ pt := pt
  aes256GcmSeal _ _ _ pt := pt

/-- An endpoint with an Ed25519 certificate. -/
def endpoint : Core.EndpointConfig :=
  { (default : Core.EndpointConfig) with
    chain := { (default : Core.CertificateChainHandle) with chainLen := 1 }
    signatureSchemes := [.ed25519]
    cipherSuites := [.chacha20Poly1305Sha256]
    der := [9] }

def serverConfig : Core.ServerConfig where
  defaultEndpoint := some endpoint
  sniRoutes := []
  alpnMode := .serverPreference

/-- The validated configuration. -/
def config : ValidatedServerConfig where
  generation := ⟨0⟩
  defaultEndpoint := some endpoint
  sniRoutes := []
  alpnMode := .serverPreference
  limits := Core.ResourceLimits.standard

theorem validateServerConfig_eq : Core.validateServerConfig serverConfig ⟨0⟩ = .ok config := by
  decide +kernel

/-- A scripted transport with outcomes for its sends. -/
def transport (schedule : List SendOutcome) : FakeTransport where
  fd := ⟨0, 0⟩
  inbound := []
  writeSchedule := schedule

/-- A fresh server. -/
def server (schedule : List SendOutcome) : TlsConn FakeTransport :=
  .serverWith (transport schedule) Core.Session.conn ⟨0⟩ .sha256 Crypto.fakeProvider config

variable [Hacl]

/-- The steps of a list of calls. -/
def steps (schedule : List SendOutcome) (calls : List TlsConn.Call) :
    List (CallStep FakeTransport) :=
  Machine.exec TlsConn.call (server schedule) calls

/-- The connection a list of calls leads to. -/
def reached (schedule : List SendOutcome) (calls : List TlsConn.Call) : TlsConn FakeTransport :=
  Machine.execState TlsConn.call (server schedule) calls

theorem callRun (schedule : List SendOutcome) (calls : List TlsConn.Call) :
    CallRun (transport schedule) Core.Session.conn ⟨0⟩ .sha256 Crypto.fakeProvider config
      (steps schedule calls) (reached schedule calls) :=
  Machine.run_exec (server schedule) calls

/-- The ClientHello, which the fake provider answers with the whole server flight. -/
def helloCalls : List TlsConn.Call :=
  [.progress (.transportBytes Core.Session.conn (Core.frameRecord .handshake Core.Session.hello))]

/-- The ClientHello and the client Finished. -/
def connectCalls : List TlsConn.Call :=
  helloCalls ++ [.progress (.transportBytes Core.Session.conn
    (Core.frameRecord .applicationData [20, 0, 0, 0, 22]))]

end Session

end Kroopt.Conn
