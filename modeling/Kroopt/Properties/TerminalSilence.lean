import Kroopt.Properties.Silence
import Kroopt.Properties.TransportClose

/-!
# Terminal silence

A terminated runtime is to stay silent: whatever is done with it, it queues nothing, accepts and
hands out no plaintext, and asks nothing of the provider.  But the mark `rt.terminal` is written and
never read.  The interpreter executes what it is given, and the drive loop and the calls look at the
phase of the core.  So a terminated connection is silent only as far as nothing is left that would
speak.

The mark is set in five ways: the core fails, the transport is closed, the provider answers with a
result of the wrong kind, a flight message is too long to be sealed, and a send fails
(`terminates_iff`).  They differ in what they leave behind.

* A failure of the core ends the core in the same step, and a core that has ended answers nothing.
  What is left is plaintext that was waiting to be read.
* A close leaves a core that may be waiting: for the peer, or for results.  But the keys are
  dropped, so failures go unheard, and if no operation is outstanding there is nothing else to say.
* The other three are failures of the interpreter, and the core does not learn of them.  Its list of
  actions is executed to the end, and it goes on with the next event as if nothing had happened.

## Main definitions

* `Terminates`: what makes an execution set the mark, for each kind of action.
* `TlsConn.StaysSilent`: from here on nothing is heard.
* `TlsConn.Muted`: the core has ended, or it is closing and there is nothing left to say.

## Main results

* `terminates_iff`: the mark is set in these ways and no others, and never taken back.
* `TlsConn.staysSilent_iff_muted`: where the core waits for nothing from outside, a connection stays
  silent exactly if it is muted.
* `TlsConn.staysSilent_iff_of_ended` and `Round.staysSilent_iff_of_closes`: what this comes to
  behind a failure and behind a close.
* `silence_iff`: what a connection with a terminal runtime does, under every drive and along every
  run of calls.
-/

set_option autoImplicit false

namespace Kroopt.Conn

open Kroopt.Core (State InputEvent OutputAction Epoch)
open Kroopt.Crypto (CryptoProvider SecretArena Hacl)

section Mark

variable {τ : Type} [Transport τ]

/-! ## The mark

Nothing clears it: there is no branch of the interpreter that writes `false`.  So it is set along a
list of actions, a round or a run of calls if one execution sets it. -/

/-- A send fails, with or without taking a part of the queue before. -/
inductive SendFails : τ → Bytes → Prop
  | now {tr tr' : τ} {q : Bytes} {e : TransportError} (hq : q ≠ [])
      (hsend : Transport.send tr (Transport.fd tr) q = (.error e, tr')) : SendFails tr q
  | later {tr tr' : τ} {q : Bytes} {n : Nat}
      (hsend : Transport.send tr (Transport.fd tr) q = (.sent n, tr')) (hpos : 0 < n)
      (hmore : n < q.length) (h : SendFails tr' (q.drop n)) : SendFails tr q

/-- **Draining** sets the mark exactly when a send fails. -/
theorem drainOutbound_terminal_iff (rt : RuntimeState) (tr : τ) :
    (drainOutbound rt tr).1.terminal = true ↔ rt.terminal = true ∨ SendFails tr rt.outbound := by
  induction hlen : rt.outbound.length using Nat.strongRecOn generalizing rt tr with
  | ind len ih =>
    rw [drainOutbound_eq]
    by_cases hempty : rt.outbound = []
    · rw [if_pos (by simp [hempty]), or_iff_left]
      intro hfails
      cases hfails with
      | now hq => exact hq hempty
      | later _ _ hmore => simp [hempty] at hmore
    · rw [if_neg (by simpa using hempty)]
      cases hsend : Transport.send tr (Transport.fd tr) rt.outbound with
      | mk out tr' =>
        have hcases : SendFails tr rt.outbound → (∃ e, out = .error e) ∨
            ∃ n, out = .sent n ∧ 0 < n ∧ n < rt.outbound.length ∧
              SendFails tr' (rt.outbound.drop n) := by
          intro hfails
          cases hfails with
          | now _ h =>
            rw [hsend] at h
            exact .inl ⟨_, (Prod.mk.inj h).1⟩
          | later h hpos hmore hrest =>
            rw [hsend] at h
            obtain ⟨hout, htr⟩ := Prod.mk.inj h
            exact .inr ⟨_, hout, hpos, hmore, htr ▸ hrest⟩
        cases out with
        | sent n =>
          dsimp only
          by_cases hlast : n = 0 ∨ n ≥ rt.outbound.length
          · rw [if_pos hlast, or_iff_left]
            intro hfails
            rcases hcases hfails with ⟨e, he⟩ | ⟨m, hm, hpos, hmore, -⟩
            · cases he
            · cases hm
              omega
          · rw [if_neg hlast, ih _ (by rw [extract_to_end, List.length_drop]; omega) _ _ rfl,
              extract_to_end]
            refine or_congr_right ⟨fun h ↦ .later hsend (by omega) (by omega) h, fun hfails ↦ ?_⟩
            rcases hcases hfails with ⟨e, he⟩ | ⟨m, hm, -, -, hrest⟩
            · cases he
            · cases hm
              exact hrest
        | wouldBlock =>
          dsimp only
          rw [or_iff_left]
          intro hfails
          rcases hcases hfails with ⟨e, he⟩ | ⟨m, hm, -⟩
          · cases he
          · cases hm
        | error e => exact iff_of_true rfl (.inr (.now hempty hsend))

theorem enqueue_terminal_iff (rt : RuntimeState) (tr : τ) (wire : Bytes) :
    (enqueue rt tr wire).1.terminal = true ↔
      rt.terminal = true ∨ SendFails tr (rt.outbound ++ wire) :=
  drainOutbound_terminal_iff { rt with outbound := rt.outbound ++ wire } tr

variable [Hacl]

/-- **What makes an execution set the mark**, for each kind of action. -/
def Terminates (prov : CryptoProvider) (rt : RuntimeState) (tr : τ) (a : OutputAction) : Prop :=
  match a with
  | .reportError _ _ => True
  | .failWithAlert _ _ => True
  | .closeTransport _ _ => True
  | .callCrypto _ op req =>
    let hsHash := ((rt.arena.lookupInstalledSuite .write .handshake).map (·.hashAlg)).getD .sha256
    ∃ arena r, prov.submit rt.arena op (resolveRecordAAD (resolveCryptoTranscript hsHash req)) =
      .ok (arena, r) ∧ resultMatchesKind req.kind r = false
  | .writeHandshake _ epoch _ msg =>
    rt.Refuses epoch (Core.serializeHandshakeOut msg) ∨
      SendFails tr (rt.outbound ++ appended rt.arena a)
  | .writeCertificate _ epoch _ der =>
    rt.Refuses epoch (Core.serializeServerCertificate der) ∨
      SendFails tr (rt.outbound ++ appended rt.arena a)
  | .writeAlert _ epoch _ _ => rt.CanFrame epoch ∧ SendFails tr (rt.outbound ++ appended rt.arena a)
  | .writeTransport _ _ => SendFails tr (rt.outbound ++ appended rt.arena a)
  | _ => False

/-- **The mark** is set in these ways and no others, and never taken back. -/
theorem terminates_iff (prov : CryptoProvider) (rt : RuntimeState) (tr : τ) (a : OutputAction) :
    (execAction prov rt tr a).1.terminal = true ↔
      rt.terminal = true ∨ Terminates prov rt tr a := by
  cases a with
  | writeTransport conn b => exact enqueue_terminal_iff rt tr _
  | writeHandshake conn epoch seq msg =>
    rw [execAction, Terminates, appended]
    dsimp only
    rcases handshakeWire_cases rt epoch seq (Core.serializeHandshakeOut msg) with
      ⟨hnot, b, bs, hwire⟩ | ⟨hrefuses, e, hwire⟩
    · rw [hwire, or_iff_right hnot]
      exact enqueue_terminal_iff rt tr _
    · rw [hwire]
      exact iff_of_true rfl (.inr (.inl hrefuses))
  | writeCertificate conn epoch seq der =>
    rw [execAction, Terminates, appended]
    dsimp only
    rcases handshakeWire_cases rt epoch seq (Core.serializeServerCertificate der) with
      ⟨hnot, b, bs, hwire⟩ | ⟨hrefuses, e, hwire⟩
    · rw [hwire, or_iff_right hnot]
      exact enqueue_terminal_iff rt tr _
    · rw [hwire]
      exact iff_of_true rfl (.inr (.inl hrefuses))
  | writeAlert conn epoch seq al =>
    rw [execAction, Terminates, appended]
    rcases alertWire_cases rt epoch seq al with ⟨hframe, b, bs, hwire⟩ | ⟨hnot, hwire⟩
    · rw [hwire, and_iff_right hframe]
      dsimp only
      split <;> exact enqueue_terminal_iff _ tr _
    · rw [hwire, or_iff_left fun h ↦ hnot h.1]
  | callCrypto conn op req =>
    rw [execAction, Terminates]
    split
    · rename_i arena r hsubmit
      by_cases hmatch : resultMatchesKind req.kind r = true
      · rw [if_pos hmatch, or_iff_left]
        rintro ⟨arena', r', hsubmit', hnot⟩
        obtain ⟨-, rfl⟩ := Prod.mk.inj (Except.ok.inj (hsubmit.symm.trans hsubmit'))
        cases hmatch.symm.trans hnot
      · rw [if_neg hmatch]
        exact iff_of_true rfl (.inr ⟨arena, r, hsubmit, by simpa using hmatch⟩)
    · rename_i e hsubmit
      rw [or_iff_left]
      rintro ⟨arena, r, hsubmit', -⟩
      cases hsubmit.symm.trans hsubmit'
  | readTransport conn =>
    rw [execAction]
    split <;> exact (or_iff_left id).symm
  | reportError | failWithAlert | closeTransport => exact iff_of_true rfl (.inr trivial)
  | enableWriteInterest | disableWriteInterest | emitPlaintext | acceptPlaintextBytes
  | reportHandshakeComplete | releaseSecret => exact (or_iff_left id).symm

/-- **A list of actions** sets the mark if one of its executions does. -/
theorem execActions_terminal_iff (prov : CryptoProvider) (rt : RuntimeState) (tr : τ)
    (acts : List OutputAction) :
    (execActions prov rt tr acts).1.terminal = true ↔
      rt.terminal = true ∨
        ∃ e ∈ execLog prov rt tr acts, Terminates prov e.rt e.tr e.action := by
  induction acts generalizing rt tr with
  | nil => simp [execLog]
  | cons a acts ih =>
    rw [execActions_cons, ih, traceAction_terminal, terminates_iff, execLog]
    simp only [List.mem_cons, exists_eq_or_imp, or_assoc]

/-- Every action behind the mark is executed in a terminal runtime. -/
theorem terminal_of_mem_execLog {prov : CryptoProvider} {rt : RuntimeState} {tr : τ}
    {acts : List OutputAction} {e : Executed τ} (h : rt.terminal = true)
    (he : e ∈ execLog prov rt tr acts) : e.rt.terminal = true := by
  induction acts generalizing rt tr with
  | nil => cases he
  | cons a acts ih =>
    rcases List.mem_cons.mp he with rfl | he
    · exact h
    · refine ih ?_ he
      rw [traceAction_terminal]
      exact (terminates_iff prov rt tr a).mpr (.inl h)

/-- What a round leaves behind. -/
theorem Round.target_rt {r : Round τ} (h : Machine.Steps TlsConn.react r) :
    ∃ m, r.target.rt =
      { (execActions r.source.prov r.source.rt r.source.tr r.output.1).1 with metrics := m } := by
  obtain ⟨core', acts, hstep⟩ := Core.step_total r.source.core r.input
  obtain ⟨htarget, hout⟩ :=
    Prod.mk.inj (Except.ok.inj ((TlsConn.react_eq hstep).symm.trans h))
  rw [← htarget, ← hout]
  exact ⟨_, rfl⟩

/-- **A round** sets the mark if one of its executions does. -/
theorem Round.terminal_iff {r : Round τ} (h : Machine.Steps TlsConn.react r) :
    r.target.rt.terminal = true ↔ r.source.rt.terminal = true ∨
      ∃ e ∈ r.log, Terminates r.source.prov e.rt e.tr e.action := by
  obtain ⟨m, htarget⟩ := r.target_rt h
  rw [htarget]
  exact execActions_terminal_iff _ _ _ _

namespace TlsConn

omit [Hacl] [Transport τ] in
theorem terminal_of_prepares {c c₀ : TlsConn τ} (h : c.Prepares c₀) :
    c₀.rt.terminal = c.rt.terminal := by
  cases h <;> rfl

omit [Hacl] in
theorem terminal_of_settles {c c' : TlsConn τ} (h : c.Settles c') (hterm : c.rt.terminal = true) :
    c'.rt.terminal = true := by
  cases h with
  | same | delivered => exact hterm
  | drained => exact (drainOutbound_terminal_iff c.rt c.tr).mpr (.inl hterm)

/-- A call does not take the mark back. -/
theorem terminal_of_call {t : CallStep τ} (ht : Machine.Steps call t)
    (hterm : t.source.rt.terminal = true) : t.target.rt.terminal = true := by
  obtain ⟨c₀, c₁, hprep, hrun, hsettles⟩ := t.source.callRounds_run t.input
  have htarget : (t.source.perform t.input).1 = t.target := (Prod.mk.inj (Except.ok.inj ht)).1
  rw [← htarget]
  refine terminal_of_settles hsettles (hrun.invariant (I := fun c ↦ c.rt.terminal = true) ?_ ?_)
  · exact fun r hr hterm ↦ (Round.terminal_iff hr).mpr (.inl hterm)
  · rw [terminal_of_prepares hprep, hterm]

/-- Behind the mark a drive executes in terminal runtimes only. -/
theorem terminal_of_mem_driveLog {c : TlsConn τ} {fuel : Nat} {evs : List InputEvent}
    {e : Executed τ} (hterm : c.rt.terminal = true) (he : e ∈ c.driveLog fuel evs) :
    e.rt.terminal = true := by
  obtain ⟨r, hr, he⟩ := List.mem_flatMap.mp he
  have hsource : r.source.rt.terminal = true :=
    (rounds_run fuel c evs).invariant_source (I := fun c ↦ c.rt.terminal = true)
      (fun r hr hterm ↦ (Round.terminal_iff hr).mpr (.inl hterm)) hterm hr
  exact terminal_of_mem_execLog hsource he

end TlsConn

/-! ## The keys -/

omit [Hacl] [Transport τ] in
/-- Without secrets only the initial epoch can be framed. -/
theorem canFrame_terminate {rt : RuntimeState} {err : Option TlsError} {epoch : Epoch}
    (h : (terminate rt err).CanFrame epoch) : rt.CanFrame epoch :=
  h.elim .inl fun h ↦ absurd rfl h.1

omit [Hacl] [Transport τ] in
/-- Releasing a secret brings none back. -/
theorem trafficSecret_release {arena : SecretArena} {h : Core.SecretKeyHandle} {epoch : Epoch}
    (hsome : (arena.release h).trafficSecret .write epoch ≠ none) :
    arena.trafficSecret .write epoch ≠ none := by
  rw [SecretArena.trafficSecret] at hsome ⊢
  change (arena.lookupBaseSecret .write epoch).bind _ ≠ none at hsome
  cases hbase : arena.lookupBaseSecret .write epoch with
  | none =>
    rw [hbase] at hsome
    exact hsome
  | some id =>
    rw [hbase, Option.bind_some, SecretArena.getById, SecretArena.release] at hsome
    rw [Option.bind_some, SecretArena.getById]
    simp only [ne_eq, Option.map_eq_none_iff, List.find?_eq_none, not_forall] at hsome ⊢
    obtain ⟨entry, hmem, hid⟩ := hsome
    exact ⟨entry, List.mem_of_mem_filter hmem, hid⟩

/-- Only the provider gives keys. -/
theorem canFrame_execAction {prov : CryptoProvider} {rt : RuntimeState} {tr : τ} {a : OutputAction}
    (hsilent : submits a = false) {epoch : Epoch}
    (h : (execAction prov rt tr a).1.CanFrame epoch) : rt.CanFrame epoch := by
  have hsame : ∀ {rt' : RuntimeState}, (execAction prov rt tr a).1 = rt' →
      rt'.arena = rt.arena → rt.CanFrame epoch := by
    rintro _ rfl harena
    rwa [RuntimeState.CanFrame, harena] at h
  cases a with
  | callCrypto => cases hsilent
  | writeTransport => exact hsame rfl (drain_arena _ _)
  | writeHandshake conn e seq msg =>
    rw [execAction] at h hsame
    dsimp only at h hsame
    split at h
    · exact hsame rfl (by rw [‹handshakeWire _ _ _ _ = _›]; exact drain_arena _ _)
    · exact canFrame_terminate h
  | writeCertificate conn e seq der =>
    rw [execAction] at h hsame
    dsimp only at h hsame
    split at h
    · exact hsame rfl (by rw [‹handshakeWire _ _ _ _ = _›]; exact drain_arena _ _)
    · exact canFrame_terminate h
  | writeAlert conn e seq al =>
    refine hsame rfl ?_
    rw [execAction]
    split
    · dsimp only
      rw [enqueue, drain_arena]
      split <;> rfl
    · rfl
  | readTransport conn =>
    refine hsame rfl ?_
    rw [execAction]
    split <;> rfl
  | reportError | failWithAlert | closeTransport => exact canFrame_terminate h
  | releaseSecret handle =>
    exact h.elim .inl fun h ↦ .inr ⟨trafficSecret_release h.1, h.2⟩
  | enableWriteInterest | disableWriteInterest | emitPlaintext | acceptPlaintextBytes
  | reportHandshakeComplete => exact hsame rfl rfl

theorem canFrame_execActions {prov : CryptoProvider} {rt : RuntimeState} {tr : τ}
    {acts : List OutputAction} (hsilent : ∀ a ∈ acts, submits a = false) {epoch : Epoch}
    (h : (execActions prov rt tr acts).1.CanFrame epoch) : rt.CanFrame epoch := by
  induction acts generalizing rt tr with
  | nil => exact h
  | cons a acts ih =>
    rw [execActions_cons] at h
    have hbehind := ih (fun b hb ↦ hsilent b (List.mem_cons_of_mem _ hb)) h
    rw [RuntimeState.CanFrame, traceAction_arena] at hbehind
    exact canFrame_execAction (hsilent a List.mem_cons_self) hbehind

/-! ## Nothing left to say

`Muted` is the invariant.  That it is kept, and that a muted connection is not heard, is one
direction; for the other, a connection that is not muted is shown an event on which it speaks. -/

namespace TlsConn

/-- From here on no drive of the connection and no call is heard, and no answer is loud. -/
def StaysSilent (c : TlsConn τ) : Prop :=
  (∀ fuel evs, ∀ e ∈ c.driveLog fuel evs, ¬ e.Speaks c.prov) ∧
    ∀ (tr : List (CallStep τ)) c', Machine.Run call c tr c' →
      ∀ t ∈ tr, (∀ e ∈ t.log, ¬ e.Speaks t.source.prov) ∧ t.output.isLoud = false

omit [Hacl] [Transport τ] in
/-- **Nothing is left to say**: the runtime is terminal, no plaintext waits, and the core has ended,
or it waits for nothing and cannot frame an alert. -/
structure Muted (c : TlsConn τ) : Prop where
  rt : c.rt.terminal = true
  plaintext : c.rt.plaintextOut = none
  core : c.core.handshake.isTerminal = true ∨ (c.core.handshake.listens = false ∧
    c.core.pendingOps.ops = [] ∧ ¬ c.rt.CanFrame c.core.writeEpoch.epoch)

omit [Hacl] [Transport τ] in
theorem Muted.not_utters {r : Round τ} (h : r.source.Muted) : ¬ r.Utters := by
  rintro ⟨hlive, hutters⟩
  rcases h.core with hend | ⟨hdeaf, hops, hframe⟩
  · cases hlive.symm.trans hend
  · exact State.not_utters (l := r.source.rt.listener) hdeaf hops hframe r.input hutters

/-- **One round** of a muted connection. -/
theorem Muted.round {r : Round τ} (hr : Machine.Steps react r) (h : r.source.Muted) :
    r.target.Muted := by
  have hsilent : ∀ e ∈ r.log, ¬ e.Speaks r.source.prov := fun e he hspeaks ↦
    h.not_utters ((Round.speaks_iff hr).mp ⟨e, he, hspeaks⟩)
  obtain ⟨m, hrt⟩ := r.target_rt hr
  refine ⟨(Round.terminal_iff hr).mpr (.inl h.rt), ?_, ?_⟩
  · rw [hrt]
    exact (execActions_kept _ _ _ hsilent).1.trans h.plaintext
  · have hstep := steps_coreStep hr
    rcases h.core with hend | ⟨hdeaf, hops, hframe⟩
    · have hsame : r.target.core = r.source.core := (Core.target_of_terminal hstep hend).1
      rw [hsame]
      exact .inl hend
    · cases hlive : r.source.core.handshake.isTerminal with
      | true =>
        have hsame : r.target.core = r.source.core := (Core.target_of_terminal hstep hlive).1
        rw [hsame]
        exact .inl hlive
      | false =>
        refine ((Core.outcome_of_steps hstep hlive).waits hdeaf hops).imp_right ?_
        rintro ⟨hdeaf', hops', hwrite⟩
        have hops' : r.target.core.pendingOps = r.source.core.pendingOps := hops'
        have hwrite : r.target.core.writeEpoch = r.source.core.writeEpoch := hwrite
        rw [hops', hwrite, hrt]
        refine ⟨hdeaf', hops, fun hframe' ↦ hframe ?_⟩
        have hasked : ∀ a ∈ r.output.1, submits a = false := by
          intro a ha
          obtain ⟨e, he, rfl⟩ := exists_execLog r.source.prov r.source.rt r.source.tr ha
          exact Bool.eq_false_iff.mpr fun hsubmits ↦
            hsilent e he (.inr (.inr (.inr ((asks_iff e).mpr hsubmits))))
        exact canFrame_execActions hasked hframe'

omit [Hacl] [Transport τ] in
theorem Muted.prepares {c c₀ : TlsConn τ} (h : c.Muted) (hprep : c.Prepares c₀) : c₀.Muted := by
  cases hprep with
  | same => exact h
  | counting => exact ⟨h.rt, h.plaintext, h.core⟩

omit [Hacl] in
theorem Muted.settles {c c' : TlsConn τ} (h : c.Muted) (hsettles : c.Settles c') : c'.Muted := by
  refine ⟨terminal_of_settles hsettles h.rt, ?_, ?_⟩
  · cases hsettles with
    | same => exact h.plaintext
    | delivered => rfl
    | drained =>
      obtain ⟨n, err, term, heq, -⟩ := drainOutbound_spec c.rt c.tr
      rw [heq]
      exact h.plaintext
  · cases hsettles with
    | same | delivered => exact h.core
    | drained =>
      rw [RuntimeState.CanFrame, drain_arena]
      exact h.core

/-- **One call** on a muted connection. -/
theorem Muted.call {t : CallStep τ} (ht : Machine.Steps TlsConn.call t) (h : t.source.Muted) :
    (∀ r ∈ t.rounds, ¬ r.Utters) ∧ t.target.Muted := by
  obtain ⟨c₀, c₁, hprep, hrun, hsettles⟩ := t.source.callRounds_run t.input
  have htarget : (t.source.perform t.input).1 = t.target := (Prod.mk.inj (Except.ok.inj ht)).1
  have hround : ∀ r : Round τ, Machine.Steps react r → r.source.Muted → r.target.Muted :=
    fun r hr hmuted ↦ hmuted.round hr
  rw [← htarget]
  refine ⟨fun r hr ↦ ?_, (hrun.invariant hround (h.prepares hprep)).settles hsettles⟩
  exact Muted.not_utters (hrun.invariant_source hround (h.prepares hprep) hr)

/-- **A muted connection stays silent.** -/
theorem Muted.staysSilent {c : TlsConn τ} (h : c.Muted) : c.StaysSilent := by
  constructor
  · intro fuel evs
    rw [drive_silent_iff]
    intro r hr
    exact Muted.not_utters
      ((rounds_run fuel c evs).invariant_source (fun r hr h ↦ h.round hr) h hr)
  · intro tr c' hrun t ht
    have hmuted : t.source.Muted :=
      hrun.invariant_source (I := Muted) (fun t ht h ↦ (h.call ht).2) h ht
    have hcall := hrun.steps_of_mem ht
    exact (call_silent_iff hcall).mpr ⟨(hmuted.call hcall).1, fun _ ↦ hmuted.plaintext⟩

/-- Whatever event the core would speak on, a silent connection is not silent under it. -/
theorem StaysSilent.not_utters {c : TlsConn τ} (h : c.StaysSilent)
    (hlive : c.core.handshake.isTerminal = false) (ev : InputEvent) :
    ¬ c.core.Utters c.rt.listener ev := by
  intro hutters
  obtain ⟨core', acts, hstep⟩ := Core.step_total c.core ev
  have hrounds := (drive_silent_iff c 1 [ev]).mp (h.1 1 [ev])
  rw [rounds, react_eq hstep] at hrounds
  exact hrounds _ List.mem_cons_self ⟨hlive, hutters⟩

/-- **Silence of one connection.**  Outside the phases in which the core waits for something from
outside, a connection with a terminal runtime stays silent exactly if nothing is left to say. -/
theorem staysSilent_iff_muted {c : TlsConn τ} (hterm : c.rt.terminal = true)
    (hdeaf : c.core.handshake.listens = false) : c.StaysSilent ↔ c.Muted := by
  refine ⟨fun h ↦ ⟨hterm, ?_, ?_⟩, Muted.staysSilent⟩
  · -- a read would hand it out
    have hrun := Machine.run_exec (f := call) c [.recv]
    have hcall := h.2 _ _ hrun _ List.mem_cons_self
    exact ((call_silent_iff (hrun.steps_of_mem List.mem_cons_self)).mp hcall).2 rfl
  · cases hlive : c.core.handshake.isTerminal with
    | true => exact .inl rfl
    | false =>
      have hquiet := h.not_utters hlive
      refine .inr ⟨hdeaf, ?_, fun hframe ↦ hquiet (.timeout c.core.connId .handshake) hframe⟩
      -- a sealed record would be written, whatever was asked for
      cases hops : c.core.pendingOps.ops with
      | nil => rfl
      | cons o ops =>
        refine absurd ⟨?_, trivial⟩ (hquiet (.cryptoResult c.core.connId o.id (.aeadSealed [])))
        rw [Core.PendingCryptoOps.contains, hops]
        simp

end TlsConn

/-! ## What a failure and a close leave

The two ways in which the core itself has the runtime terminated, each with what is then left of the
condition. -/

/-- **A failure of the core** ends the core as well. -/
theorem Round.ended_of_failure {r : Round τ} (hr : Machine.Steps TlsConn.react r)
    (hfails : ∃ a ∈ r.output.1, a.isFailure = true) :
    r.target.rt.terminal = true ∧ r.target.core.handshake.isTerminal = true := by
  have hstep := TlsConn.steps_coreStep hr
  obtain ⟨a, ha, hfail⟩ := hfails
  constructor
  · obtain ⟨e, he, haction⟩ := exists_execLog r.source.prov r.source.rt r.source.tr ha
    refine (r.terminal_iff hr).mpr (.inr ⟨e, he, ?_⟩)
    rw [haction]
    cases a with
    | reportError | failWithAlert => trivial
    | _ => cases hfail
  · cases hlive : r.source.core.handshake.isTerminal with
    | true =>
      have hnil : r.output.1 = [] := (Core.target_of_terminal hstep hlive).2
      rw [hnil] at ha
      cases ha
    | false =>
      rcases (Core.outcome_of_steps hstep hlive).failsAtEnd with hend | hnone
      · exact hend
      · cases (hnone a ha).symm.trans hfail

/-- **A close** drops the keys: alerts can be framed in clear only. -/
theorem Round.canFrame_of_closes {r : Round τ} (hr : Machine.Steps TlsConn.react r)
    (hcloses : r.closes = true) :
    r.target.rt.terminal = true ∧ ∀ epoch, r.target.rt.CanFrame epoch ↔ epoch = .initial := by
  have hstep := TlsConn.steps_coreStep hr
  rw [Round.closes, Bool.and_eq_true, Bool.not_eq_true'] at hcloses
  cases (Core.outcome_of_steps hstep hcloses.1).closes with
  | keeps hev => cases hev.symm.trans hcloses.2
  | closes mode _ _ hacts =>
    have hout : r.output.1 = r.source.core.beforeClose r.input ++
      [.closeTransport r.source.core.connId mode] := hacts
    obtain ⟨m, hrt⟩ := r.target_rt hr
    rw [hout, execActions_concat] at hrt
    rw [hrt]
    dsimp only
    rw [traceAction_terminal]
    refine ⟨rfl, fun epoch ↦ ?_⟩
    rw [RuntimeState.CanFrame]
    dsimp only
    rw [traceAction_arena]
    exact or_iff_left fun h ↦ h.1 rfl

/-- Behind a failure, only plaintext that waits is left. -/
theorem TlsConn.staysSilent_iff_of_ended {c : TlsConn τ} (hterm : c.rt.terminal = true)
    (hend : c.core.handshake.isTerminal = true) : c.StaysSilent ↔ c.rt.plaintextOut = none := by
  have hdeaf : c.core.handshake.listens = false := by
    generalize c.core.handshake = h at hend
    cases h <;> first | rfl | cases hend
  rw [TlsConn.staysSilent_iff_muted hterm hdeaf]
  exact ⟨fun h ↦ h.plaintext, fun h ↦ ⟨hterm, h, .inl hend⟩⟩

/-- Behind a close, plaintext that waits is left, and what the core waits for, and alerts in
clear. -/
theorem Round.staysSilent_iff_of_closes {r : Round τ} (hr : Machine.Steps TlsConn.react r)
    (hI : Core.Invariant r.source.core) (hcloses : r.closes = true) :
    r.target.StaysSilent ↔ r.target.rt.plaintextOut = none ∧
      (r.target.core.handshake.isTerminal = true ∨
        (r.target.core.pendingOps.ops = [] ∧ r.target.core.writeEpoch.epoch ≠ .initial)) := by
  obtain ⟨hterm, hframe⟩ := r.canFrame_of_closes hr hcloses
  have hdeaf : r.target.core.handshake.listens = false := by
    have hlive := r.not_isLive_of_closes hr hI hcloses
    generalize r.target.core.handshake = h at hlive
    cases h <;> first | rfl | cases hlive
  rw [TlsConn.staysSilent_iff_muted hterm hdeaf]
  constructor
  · intro h
    refine ⟨h.plaintext, h.core.imp_right fun ⟨_, hops, hnot⟩ ↦ ⟨hops, ?_⟩⟩
    exact fun hinitial ↦ hnot ((hframe _).mpr hinitial)
  · rintro ⟨hplain, hcore⟩
    refine ⟨hterm, hplain, hcore.imp_right fun ⟨hops, hne⟩ ↦ ⟨hdeaf, hops, ?_⟩⟩
    exact fun h ↦ hne ((hframe _).mp h)

/-! ## Silence -/

/-- **Terminal silence.**  Let the runtime of a connection be terminal.  An action is silent in it
if it is one of the quiet ones there; a drive, if none of its rounds has an event on which the core
speaks; a run of calls, if the same holds of it and no read finds plaintext.  Outside the phases in
which the core waits for something from outside, this can be read off the connection: it stays
silent exactly if it is muted.  And of the five ways that lead here, a failure of the core leaves
nothing but plaintext that waits, and a close may leave results and alerts in clear as well. -/
theorem silence_iff {c : TlsConn τ} (hterm : c.rt.terminal = true) :
    (∀ a, ¬ Executed.Speaks c.prov ⟨c.rt, c.tr, a⟩ ↔ QuietIn c.rt a) ∧
    (∀ fuel evs, (∀ e ∈ c.driveLog fuel evs, e.rt.terminal = true) ∧
      ((∀ e ∈ c.driveLog fuel evs, ¬ e.Speaks c.prov) ↔
        ∀ r ∈ c.rounds fuel evs, ¬ r.Utters)) ∧
    (∀ (tr : List (CallStep τ)) c', Machine.Run TlsConn.call c tr c' →
      (∀ t ∈ tr, t.source.rt.terminal = true) ∧
      ((∀ t ∈ tr, (∀ e ∈ t.log, ¬ e.Speaks t.source.prov) ∧ t.output.isLoud = false) ↔
        (∀ r ∈ tr.flatMap CallStep.rounds, ¬ r.Utters) ∧
          ∀ t ∈ tr, t.input = .recv → t.source.rt.plaintextOut = none)) ∧
    (c.core.handshake.listens = false → (c.StaysSilent ↔ c.Muted)) ∧
    (∀ r : Round τ, Machine.Steps TlsConn.react r → r.target = c → r.source.rt.terminal = false →
      (∃ e ∈ r.log, Terminates r.source.prov e.rt e.tr e.action) ∧
      ((∃ a ∈ r.output.1, a.isFailure = true) →
        (c.StaysSilent ↔ c.rt.plaintextOut = none)) ∧
      (Core.Invariant r.source.core → r.closes = true →
        (c.StaysSilent ↔ c.rt.plaintextOut = none ∧ (c.core.handshake.isTerminal = true ∨
          (c.core.pendingOps.ops = [] ∧ c.core.writeEpoch.epoch ≠ .initial))))) := by
  refine ⟨fun a ↦ ?_, fun fuel evs ↦ ?_, fun tr c' hrun ↦ ?_, ?_, ?_⟩
  · rw [speaks_iff, not_not]
  · exact ⟨fun e he ↦ TlsConn.terminal_of_mem_driveLog hterm he,
      TlsConn.drive_silent_iff c fuel evs⟩
  · refine ⟨fun t ht ↦ hrun.invariant_source (I := fun c ↦ c.rt.terminal = true)
      (fun t ht h ↦ TlsConn.terminal_of_call ht h) hterm ht, ?_⟩
    rw [List.forall_mem_flatMap, ← forall₂_and]
    exact forall₂_congr fun t ht ↦ call_silent_iff (hrun.steps_of_mem ht)
  · exact TlsConn.staysSilent_iff_muted hterm
  · rintro r hr rfl hsource
    refine ⟨((r.terminal_iff hr).mp hterm).resolve_left (by simp [hsource]), fun hfails ↦ ?_,
      fun hI hcloses ↦ r.staysSilent_iff_of_closes hr hI hcloses⟩
    exact TlsConn.staysSilent_iff_of_ended hterm (r.ended_of_failure hr hfails).2

end Mark

instance (rt : RuntimeState) (epoch : Epoch) : Decidable (rt.CanFrame epoch) :=
  inferInstanceAs (Decidable (_ ∨ _ ∧ _))

attribute [local instance] Session.primitives

/-- **An ordinary close** leaves nothing to say. -/
theorem silence_iff_session :
    (Session.reached [] (Session.connectCalls ++ [.close .graceful])).StaysSilent :=
  ((silence_iff (by decide +kernel)).2.2.2.1 (by decide +kernel)).mpr
    ⟨by decide +kernel, by decide +kernel, .inr (by decide +kernel)⟩

/-- The ServerHello meets a broken pipe, which terminates the runtime; the rest of the flight is
produced and queued all the same. -/
theorem not_silent_behind_sendError :
    ¬ ∀ e ∈ (Session.server [.error .brokenPipe]).driveLog 256
        [.transportBytes Core.Session.conn (Core.frameRecord .handshake Core.Session.hello)],
      e.rt.terminal = true → ¬ e.Speaks Crypto.fakeProvider := by
  have hspeaks : ∃ e ∈ (Session.server [.error .brokenPipe]).driveLog 256
      [.transportBytes Core.Session.conn (Core.frameRecord .handshake Core.Session.hello)],
      e.rt.terminal = true ∧ appended e.rt.arena e.action ≠ [] := by
    decide +kernel
  intro h
  obtain ⟨e, he, hrt, happ⟩ := hspeaks
  refine h e he hrt (.inl ?_)
  rw [Executed.said_eq]
  exact happ

end Kroopt.Conn
