import Kroopt.Properties.FlightProtection
import Kroopt.Properties.SessionKeys

/-!
# The keys of the flight

Over the real provider the server flight finds its keys.  A message that must be protected is sent
in one of three transitions, and by then the key schedule has installed the slot that it is sealed
under.  In such a transition the messages go before the one operation that is asked for, so they are
executed in the arena that the transition started from, as long as the runtime is not terminated on
the way.

What can go wrong is the runtime itself: a message that is too long, or a failed send, terminates it
and drops the keys, and what is executed behind that is not covered.

## Main definitions

* `SendsFlight`: the step sends no message that must be protected, or sends its messages before its
  operation, in a phase whose slots are installed.

## Main results

* `arena_of_mem_execLog`: messages of the flight are executed in the arena the round started from.
* `Queued.keyed`: one round.
* `flightKeyed_of_run`: along every run of calls, every message of the flight that is executed in a
  runtime that goes on finds its key, and is protected.
-/

set_option autoImplicit false

namespace Kroopt.Conn

open Kroopt.Core (State InputEvent OutputAction CryptoOp OperationId ConnId Move)
open Kroopt.Core.KeyScheduleDriver (Slot)
open Kroopt.Crypto (NativeHacl CryptoProvider RealCryptoConfig SecretArena Installed liveProvider)

/-! ## What a step sends -/

/-- The slot that the flight is sealed under. -/
def flightSlot : Slot := ⟨.write, .handshake, .sHs⟩

/-- The step sends no message that must be protected, or its messages come first, and the slot of
the flight is installed in the phase they lead to. -/
inductive SendsFlight (s' : State) (acts : List OutputAction) : Prop
  | nothing (h : ∀ a ∈ acts, ¬ a.mustProtect)
  | messages {msgs : List OutputAction} {conn : ConnId} {op : OperationId} {req : CryptoOp}
      (hslot : flightSlot ∈ slotsOf s'.handshake) (hacts : acts = msgs ++ [.callCrypto conn op req])
      (hmsgs : ∀ a ∈ msgs, a.flight ≠ none)

theorem not_mustProtect {a : OutputAction} (h : a.flight = none) : ¬ a.mustProtect := by
  rintro (⟨m, hm⟩ | hbehind)
  · cases h.symm.trans hm
  · cases a with
    | writeHandshake | writeCertificate => cases h
    | _ => cases hbehind

theorem sendsFlight_of_move {s s' : State} {acts : List OutputAction} (h : Move s s' acts) :
    SendsFlight s' acts := by
  cases h with
  | failed => exact .nothing fun a ha ↦ not_mustProtect (by
      revert ha
      revert a
      simp [Core.failActions])
  | ecdhe _ _ _ hmsg =>
    obtain ⟨random, suite, group, version, rfl⟩ := hmsg
    exact .nothing (by simp [OutputAction.mustProtect])
  | serverFlight =>
    exact .messages List.mem_cons_self (show _ = [_, _] ++ [_] from rfl) (by simp)
  | certificateVerify | serverFinished =>
    exact .messages List.mem_cons_self (show _ = [_] ++ [_] from rfl) (by simp)
  | ignored | clientHello | serverRandom | pump | rest | applicationKeys | clientFinished
  | verified => exact .nothing (by simp [OutputAction.mustProtect])

theorem sendsFlight_of_steps {t : Core.CoreStep} (ht : Machine.Steps Core.step t) :
    SendsFlight t.target t.output :=
  (Core.movesFlight_of_steps ht).elim (fun ⟨_, hmove⟩ ↦ sendsFlight_of_move hmove)
    fun hnone ↦ .nothing fun a ha ↦ not_mustProtect (hnone a ha)

/-! ## Where it is executed -/

variable [NativeHacl] {cfg : RealCryptoConfig} {random : Bytes} {τ : Type} [Transport τ]

/-- **Messages of the flight** that go first are executed in the arena that the list started
from, if the runtime goes on. -/
theorem arena_of_mem_execLog {prov : CryptoProvider} {rt : RuntimeState} {tr : τ}
    {msgs rest : List OutputAction} (hmsgs : ∀ a ∈ msgs, a.flight ≠ none)
    (hrest : ∀ a ∈ rest, a.flight = none) {e : Executed τ}
    (he : e ∈ execLog prov rt tr (msgs ++ rest)) (hflight : e.action.flight ≠ none)
    (hterm : e.rt.terminal = false) : rt.terminal = false ∧ e.rt.arena = rt.arena := by
  induction msgs generalizing rt tr with
  | nil => exact absurd (hrest _ (action_mem_of_execLog he)) hflight
  | cons a msgs ih =>
    rcases List.mem_cons.mp he with rfl | he
    · exact ⟨hterm, rfl⟩
    · obtain ⟨hterm', harena⟩ := ih (fun b hb ↦ hmsgs b (List.mem_cons_of_mem _ hb)) he
      rw [traceAction_terminal] at hterm'
      rw [traceAction_arena] at harena
      have hmsg := hmsgs a List.mem_cons_self
      have hasks : a.request? = none := by
        cases a <;> first | rfl | exact absurd rfl hmsg
      have hkeeps : ∀ hd, a ≠ .releaseSecret hd := by
        rintro hd rfl
        exact hmsg rfl
      obtain ⟨hbefore, harena'⟩ := execAction_arena hasks hkeeps hterm'
      exact ⟨hbefore, harena.trans harena'⟩

/-! ## Rounds -/

section Run

variable (hempty : ∀ alg, Core.KeyScheduleDriver.emptyHashFor alg =
  Crypto.KeySchedule.emptyHash alg)

include hempty

/-- **One round.**  A message that must be protected finds its key. -/
theorem Queued.keyed {r : Round τ} (hr : Machine.Steps TlsConn.react r) {rest : List InputEvent}
    (h : Queued cfg r.source (r.input :: rest)) {e : Executed τ} (he : e ∈ r.log)
    (hterm : e.rt.terminal = false) : e.Keyed := by
  intro hmust
  have hstep := TlsConn.steps_coreStep hr
  have hmem : e.action ∈ r.output.1 := action_mem_of_execLog he
  have hflight : e.action.flight ≠ none := fun hnone ↦ not_mustProtect hnone hmust
  cases sendsFlight_of_steps hstep with
  | nothing hnone => exact absurd hmust (hnone _ hmem)
  | @messages msgs conn op req hslot hacts hmsgs =>
    have hacts : r.output.1 = msgs ++ [.callCrypto conn op req] := hacts
    have hslot : flightSlot ∈ slotsOf r.target.core.handshake := hslot
    rw [Round.log, hacts] at he
    obtain ⟨hsource, harena⟩ := arena_of_mem_execLog hmsgs (by simp) he hflight hterm
    -- the slot is installed only in phases of a live handshake, behind the key exchange
    have hphase : r.target.core.handshake.isLive = true ∧
        precedesSchedule r.target.core.handshake = false := by
      generalize r.target.core.handshake = p at hslot
      cases p <;> first | exact ⟨rfl, rfl⟩ | cases hslot
    obtain ⟨hsound, hright, -⟩ := h hsource (Core.isLive_source hstep hphase.1)
    have hedge := Core.edge_of_steps hstep hphase.1
    obtain ⟨hsound', -⟩ := hsound.edge hempty (hright r.input rfl) hedge
    obtain ⟨k, shared, -, hd, -⟩ := hsound'.keyed hphase.2
    have hinstalled := hd.installed (installed_of_drives hd.phase _ hslot)
    rw [harena]
    obtain ⟨m, hm⟩ := Option.ne_none_iff_exists'.mp hflight
    refine ⟨m, hm, ?_, .inl ?_⟩
    · exact Option.ne_none_iff_exists'.mpr ⟨_, hinstalled.base⟩
    · exact Option.ne_none_iff_exists'.mpr ⟨_, hinstalled.suite⟩

/-- What waits in each round of a drive. -/
theorem Queued.rounds (fuel : Nat) {c : TlsConn τ} (hprov : c.prov = liveProvider cfg random)
    {evs : List InputEvent} (h : Queued cfg c evs) :
    ∀ r ∈ c.rounds fuel evs, ∃ rest, Queued cfg r.source (r.input :: rest) := by
  induction fuel generalizing c evs with
  | zero =>
    rw [TlsConn.rounds]
    exact List.forall_mem_nil _
  | succ fuel ih =>
    cases evs with
    | nil =>
      rw [TlsConn.rounds]
      · exact List.forall_mem_nil _
      all_goals simp
    | cons ev rest =>
      obtain ⟨core', acts, hstep⟩ := Core.step_total c.core ev
      rw [TlsConn.rounds, TlsConn.react_eq hstep]
      have hround := h.round hempty hprov hstep
        (observeMetrics (execActions c.prov c.rt c.tr acts).1.metrics core' acts)
      exact List.forall_mem_cons.mpr ⟨⟨rest, h⟩, ih (by exact hprov) hround⟩

/-- What waits in each round of a call. -/
theorem Queued.callRounds {c : TlsConn τ} (h : Queued cfg c [])
    (hprov : c.prov = liveProvider cfg random) (k : TlsConn.Call) (hk : k.result? = none) :
    ∀ r ∈ c.callRounds k, ∃ rest, Queued cfg r.source (r.input :: rest) := by
  have hdrive : ∀ {c : TlsConn τ}, Queued cfg c [] → c.prov = liveProvider cfg random →
      ∀ ev : InputEvent, ev.result? = none →
        ∀ r ∈ c.driveRounds ev, ∃ rest, Queued cfg r.source (r.input :: rest) :=
    fun h hprov _ hev ↦ (h.feed hev).rounds hempty _ hprov
  cases k with
  | recv =>
    have hasked := h.drive hempty hprov (.appRecvRequested c.core.connId) rfl
    have hprov₁ : (c.drive (.appRecvRequested c.core.connId)).prov = liveProvider cfg random :=
      hprov
    have hfirst := hdrive h hprov (.appRecvRequested c.core.connId) rfl
    rw [TlsConn.callRounds]
    dsimp only
    generalize c.drive (.appRecvRequested c.core.connId) = c₁ at hasked hprov₁ ⊢
    split
    · exact hfirst
    · have hread := hasked.drive hempty hprov₁ (.transportReadable c₁.core.connId) rfl
      rw [List.forall_mem_append, List.forall_mem_append]
      exact ⟨⟨hfirst, hdrive hasked hprov₁ _ rfl⟩, hdrive hread hprov₁ _ rfl⟩
  | send plaintext =>
    rw [TlsConn.callRounds]
    dsimp only
    split
    · exact List.forall_mem_nil _
    · have hcounted : Queued cfg { c with rt := { c.rt with acceptedBytes := 0 } } [] :=
        h.of_rt rfl rfl id
      exact hdrive hcounted hprov _ rfl
  | flush => exact hdrive h hprov _ rfl
  | close mode => exact hdrive h hprov _ rfl
  | progress ev => exact hdrive h hprov ev hk

/-- **The flight finds its keys.**  Over the real provider, the empty hashes of the driver being
right and no result fed in from outside, whatever is executed of the flight in a runtime that has
not been terminated finds the key of the handshake epoch, and is protected. -/
theorem flightKeyed_of_run {tr₀ : τ} {conn : ConnId} {gen : Core.ConfigGeneration}
    {alg : Core.HashAlgorithm} {config : Core.ValidatedServerConfig} {tr : List (CallStep τ)}
    {c : TlsConn τ} (h : CallRun tr₀ conn gen alg (liveProvider cfg random) config tr c)
    (hresults : ∀ t ∈ tr, t.input.result? = none) :
    ∀ e ∈ tr.flatMap CallStep.log, e.rt.terminal = false → e.Keyed ∧ e.Protected := by
  intro e hexec hterm
  obtain ⟨t, ht, hlog⟩ := List.mem_flatMap.mp hexec
  obtain ⟨r, hr, he⟩ := List.mem_flatMap.mp hlog
  obtain ⟨pre, post, rfl⟩ := List.append_of_mem ht
  obtain ⟨hpre, -, -⟩ := Machine.Run.split_at h
  have hsource := queued_of_run hempty hpre fun u hu ↦ hresults u (List.mem_append_left _ hu)
  have hround := TlsConn.steps_of_mem_callRounds hr
  obtain ⟨rest, hqueued⟩ :=
    hsource.callRounds hempty (CallRun.prov_eq hpre) t.input (hresults t ht) r hr
  have hkeyed := hqueued.keyed hempty hround he hterm
  refine ⟨hkeyed, (protected_iff_keyed fun hbehind ↦ ?_).mpr hkeyed⟩
  exact Core.wellPlaced_of_steps (TlsConn.steps_coreStep hround) e.action
    (action_mem_of_execLog he) hbehind

end Run

omit [NativeHacl] in
theorem flightKeyed_live : letI := Session.handThrough
    ∃ e ∈ Session.liveSteps.flatMap CallStep.log,
      e.action.mustProtect ∧ e.Keyed ∧ e.Protected := by
  let _ := Session.handThrough
  have hsent : ∃ e ∈ Session.liveSteps.flatMap CallStep.log,
      e.rt.terminal = false ∧ e.action.isBehindHello = true := by
    decide +kernel
  obtain ⟨e, he, hterm, hbehind⟩ := hsent
  exact ⟨e, he, .inr hbehind, flightKeyed_of_run (fun alg ↦ by cases alg <;> rfl)
    Session.live_callRun (by decide +kernel) e he hterm⟩

end Kroopt.Conn
