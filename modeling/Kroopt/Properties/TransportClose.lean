import Kroopt.Conn.Drive

/-!
# Closing the transport

The core closes the transport with the action `closeTransport`, and the interpreter executes it on
the spot, whatever the outbound queue holds.  This file says when that happens, and what is queued
then.

Three kinds of event close: a well-formed alert of the peer, in clear or opened; the sealed
close_notify, behind its own write; and a close of the application that does not have to seal one.
Everything else leaves the transport open.  A core that is closed or has failed emits nothing, but
one that waits for its close_notify to be sealed is neither, so a second close, or an alert that
arrives in between, closes the transport a second time.

The queue at the close is what it was before the round and what the round itself writes first, as
far as the transport did not take it.  A drain goes on while the transport takes something, so it
empties the queue exactly when the transport takes all of it (`TakesAll`).

## Main definitions

* `State.closesTransport`: the events on which the core closes the transport, and `beforeClose`,
  what it asks for before.
* `Round.closes` and `Round.Flushes`: the round closes the transport, and the transport has taken
  everything by then.
* `ClosesEmpty log`: the transport is closed once, and with nothing queued.

## Main results

* `Outcome.closes`: one step of the core closes on these events and no others, once, and last.
* `drainOutbound_takesAll`: draining empties the queue exactly when the transport takes all of it.
* `closesEmpty_iff_rounds`: what `ClosesEmpty` means for a whole list of rounds.
* `CallRun.keepsOpen`: on the way to a live connection nothing closes.
-/

set_option autoImplicit false

namespace Kroopt.Core

open Kroopt.Parse (headOf parseInnerPlaintext)

/-! ## The events that close

Whether an event closes can be computed from the event and the state before it, and so can the
actions that go before the close.  What follows the close is nothing: it is the last action of its
list. -/

/-- The action closes the transport. -/
@[simp] def OutputAction.isClose : OutputAction → Bool
  | .closeTransport _ _ => true
  | _ => false

/-- The event makes a live core close the transport: it delivers a well-formed alert, or the sealed
close_notify, or it is a close that does not have to seal one. -/
def State.closesTransport (s : State) : InputEvent → Bool
  | .transportBytes _ b =>
    match headOf (s.inboundCiphertext ++ b) with
    | .record hdr body _ => decide (hdr.outerType = .alert ∧ body.length = 2)
    | _ => false
  | .cryptoResult _ op (.aeadSealed _) =>
    s.pendingOps.contains op && decide (s.closeState = .sentCloseNotify)
  | .cryptoResult _ op (.aeadOpened pt) =>
    s.pendingOps.contains op &&
      match parseInnerPlaintext pt with
      | .ok inner => decide (inner.ctype = .alert ∧ inner.content.length = 2)
      | .error _ => false
  | .appClose _ mode =>
    !decide (mode = .graceful ∧ s.closeState = .open ∧ s.handshake = .connected)
  | _ => false

/-- What the core asks for before it closes the transport: the write of the sealed close_notify, or
the alert of a fatal close. -/
def State.beforeClose (s : State) : InputEvent → List OutputAction
  | .cryptoResult _ _ (.aeadSealed ct) => [.writeTransport s.connId ct]
  | .appClose _ (.fatal a) =>
    if s.closeState = .open then
      [.writeAlert s.connId s.writeEpoch.epoch s.writeEpoch.seq.value a, .failWithAlert s.connId a]
    else []
  | _ => []

/-- No action closes the transport. -/
def NoClose (acts : List OutputAction) : Prop := ∀ a ∈ acts, a.isClose = false

theorem noClose_beforeClose (s : State) (ev : InputEvent) : NoClose (s.beforeClose ev) := by
  rw [State.beforeClose.eq_def]
  split
  · simp [NoClose]
  · split <;> simp [NoClose]
  · simp [NoClose]

theorem noClose_failActions (s : State) (a : AlertDescription) (e : TlsError) :
    NoClose (failActions s a e) := by
  simp [NoClose, failActions]

theorem Move.noClose {s s' : State} {acts : List OutputAction} (h : Move s s' acts) :
    NoClose acts := by
  cases h with
  | failed => exact noClose_failActions _ _ _
  | ignored | clientHello | serverRandom | ecdhe | pump | rest | serverFlight | certificateVerify
  | serverFinished | applicationKeys | clientFinished | verified => simp [NoClose]

/-- The connection closes if the alert is well-formed, and then ends at once. -/
def ClosesOn (wellFormed : Prop) (s s' : State) (acts : List OutputAction) : Prop :=
  (wellFormed ∧ s'.handshake.isLive = false ∧ ∃ mode, acts = [.closeTransport s.connId mode]) ∨
    (¬ wellFormed ∧ NoClose acts)

theorem AlertOutcome.closesOn {s s' : State} {body : Bytes} {acts : List OutputAction}
    (h : AlertOutcome s body s' acts) : ClosesOn (body.length = 2) s s' acts := by
  cases h with
  | closeNotify hlen => exact .inl ⟨hlen, rfl, _, rfl⟩
  | fatal hlen => exact .inl ⟨hlen, rfl, _, rfl⟩
  | malformed hlen => exact .inr ⟨hlen, noClose_failActions _ _ _⟩

theorem RecordOutcome.closesOn {s s' : State} {hdr : Parse.ValidRecordHeader} {body : Bytes}
    {acts : List OutputAction} (h : RecordOutcome s hdr body s' acts) :
    ClosesOn (hdr.outerType = .alert ∧ body.length = 2) s s' acts := by
  cases h with
  | alert ht h => simpa [ht] using h.closesOn
  | hsMessage ht _ _ hres =>
    exact .inr ⟨by simp [ht], ((handshakeOnPlaintextRecord_moves _ _).move hres).noClose⟩
  | noRoom ht => exact .inr ⟨by simp [ht], noClose_failActions _ _ _⟩
  | ccsRefused ht => exact .inr ⟨by simp [ht], noClose_failActions _ _ _⟩
  | hsRefused ht => exact .inr ⟨by simp [ht], noClose_failActions _ _ _⟩
  | invalid ht => exact .inr ⟨by simp [ht], noClose_failActions _ _ _⟩
  | opens ht | unread ht | ccsIgnored ht | hsPartial ht =>
    exact .inr ⟨by simp [ht], by simp [NoClose]⟩

theorem InnerOutcome.closesOn {s s' : State} {op : OperationId} {inner : TLSInnerPlaintext}
    {acts : List OutputAction} (h : InnerOutcome s op inner s' acts) :
    ClosesOn (inner.ctype = .alert ∧ inner.content.length = 2) s s' acts := by
  cases h with
  | alert ht h => simpa [ht, ClosesOn] using h.closesOn
  | message ht _ _ hres =>
    exact .inr ⟨by simp [ht], ((handshakeOnPlaintextRecord_moves _ _).move hres).noClose⟩
  | overflow ht =>
    have hne : inner.ctype ≠ .alert := by rw [ht]; split <;> simp
    exact .inr ⟨fun h ↦ hne h.1, noClose_failActions _ _ _⟩
  | earlyData ht => exact .inr ⟨by simp [ht], noClose_failActions _ _ _⟩
  | invalid ht => exact .inr ⟨by simp [ht], noClose_failActions _ _ _⟩
  | data ht => exact .inr ⟨by simp [ht], by simp [NoClose]⟩
  | skipped ht =>
    have hne : inner.ctype ≠ .alert := by
      rcases ht with ht | ⟨-, ht | ht⟩ <;> simp [ht]
    exact .inr ⟨fun h ↦ hne h.1, by simp [NoClose]⟩

/-- What an event means for the transport. -/
inductive CloseOutcome (s : State) (ev : InputEvent) (s' : State) (acts : List OutputAction) : Prop
  | closes (mode : CloseMode) (h : s.closesTransport ev = true)
      (hlive : s.closeState = .open → s'.handshake.isLive = false)
      (hacts : acts = s.beforeClose ev ++ [.closeTransport s.connId mode])
  | keeps (h : s.closesTransport ev = false) (hacts : NoClose acts)

theorem CloseOutcome.of_closesOn {s s' : State} {ev : InputEvent} {acts : List OutputAction}
    {wellFormed : Prop} [Decidable wellFormed] (h : ClosesOn wellFormed s s' acts)
    (hev : s.closesTransport ev = decide wellFormed) (hbefore : s.beforeClose ev = []) :
    CloseOutcome s ev s' acts := by
  rcases h with ⟨hw, hlive, mode, hacts⟩ | ⟨hw, hacts⟩
  · refine .closes mode (hev.trans (decide_eq_true hw)) (fun _ ↦ hlive) ?_
    rw [hbefore, hacts, List.nil_append]
  · exact .keeps (hev.trans (decide_eq_false hw)) hacts

theorem ResultOutcome.closes {s s' : State} {c : ConnId} {op : OperationId}
    {r : CryptoResult} {acts : List OutputAction} (h : ResultOutcome s op r s' acts)
    (hop : s.pendingOps.contains op = true) :
    CloseOutcome s (.cryptoResult c op r) s' acts := by
  cases h with
  | opened hp h =>
    exact .of_closesOn h.closesOn (by rw [State.closesTransport, hop, hp]; rfl) rfl
  | unparsed hp =>
    exact .keeps (by rw [State.closesTransport, hp, Bool.and_false]) (noClose_failActions _ _ _)
  | «sealed» =>
    by_cases hclose : s.closeState = .sentCloseNotify
    · refine .closes .graceful (by simp [State.closesTransport, hop, hclose]) (fun hopen ↦ ?_)
        (by rw [if_pos hclose]; rfl)
      cases hclose.symm.trans hopen
    · exact .keeps (by simp [State.closesTransport, hclose]) (by simp [NoClose, hclose])
  | verifyFailed => exact .keeps rfl (noClose_failActions _ _ _)
  | failed => exact .keeps rfl (noClose_failActions _ _ _)
  | gating hr hres =>
    refine .keeps ?_ ((handshakeOnGatingResult_moves _ _ _).move hres).noClose
    cases r with
    | aeadOpened pt => exact absurd rfl (hr.1 pt)
    | aeadSealed ct => exact absurd rfl (hr.2.1 ct)
    | _ => rfl

/-- **One step** of a live core closes the transport exactly on the events listed, once and last. -/
theorem Outcome.closes {s s' : State} {ev : InputEvent} {acts : List OutputAction}
    (h : Outcome s ev s' acts) : CloseOutcome s ev s' acts := by
  cases h with
  | bytes h =>
    cases h with
    | malformed hh =>
      exact .keeps (by rw [State.closesTransport, hh]) (noClose_failActions _ _ _)
    | awaiting hh => exact .keeps (by rw [State.closesTransport, hh]) (by simp [NoClose])
    | record hh h => exact .of_closesOn h.closesOn (by rw [State.closesTransport, hh]) rfl
  | result hop h => exact h.closes hop
  | @stale c op r hstale =>
    refine .keeps ?_ (by simp [NoClose])
    cases r <;> simp [State.closesTransport, hstale]
  | sendRefused => exact .keeps rfl (noClose_failActions _ _ _)
  | timeout => exact .keeps rfl (noClose_failActions _ _ _)
  | closeNotify hopen hphase =>
    exact .keeps (by simp [State.closesTransport, hopen, hphase]) (by simp [NoClose])
  | closeNotifyRefused hopen hphase =>
    exact .keeps (by simp [State.closesTransport, hopen, hphase]) (noClose_failActions _ _ _)
  | closeEarly hopen hphase =>
    exact .closes _ (by simp [State.closesTransport, hphase]) (fun _ ↦ rfl) rfl
  | closeFatal hopen =>
    exact .closes _ rfl (fun _ ↦ rfl) (by rw [State.beforeClose, if_pos hopen]; rfl)
  | closeAbortive => exact .closes _ rfl (fun _ ↦ rfl) rfl
  | @reclose _ mode hopen =>
    refine .closes mode (by simp [State.closesTransport, hopen])
      (fun h ↦ absurd h hopen) ?_
    cases mode with
    | fatal a => rw [State.beforeClose, if_neg hopen, List.nil_append]
    | graceful | abortive => rfl
  | deliver | noDelivery | send | eof | readable | writable | flush =>
    exact .keeps rfl (by simp [NoClose])

end Kroopt.Core

namespace Kroopt.Conn

open Kroopt.Core (State InputEvent OutputAction ConnId ConfigGeneration HashAlgorithm
  ValidatedServerConfig NoClose)
open Kroopt.Crypto (CryptoProvider SecretArena Hacl)

/-! ## What the transport takes

The drain sends until the transport takes no more, so it empties the queue exactly when the
transport takes all of it in sends that each take something. -/

section Transport

variable {τ : Type} [Transport τ]

/-- The transport takes all the bytes, without a send that takes none. -/
inductive TakesAll : τ → Bytes → Prop
  | nothing (tr : τ) : TakesAll tr []
  | part {tr tr' : τ} {q : Bytes} {n : Nat}
      (hsend : Transport.send tr (Transport.fd tr) q = (.sent n, tr')) (hpos : 0 < n)
      (h : TakesAll tr' (q.drop n)) : TakesAll tr q

theorem takesAll_iff {tr : τ} {q : Bytes} (hq : q ≠ []) :
    TakesAll tr q ↔ ∃ n tr', Transport.send tr (Transport.fd tr) q = (.sent n, tr') ∧ 0 < n ∧
      TakesAll tr' (q.drop n) := by
  constructor
  · intro h
    cases h with
    | nothing => exact absurd rfl hq
    | part hsend hpos h => exact ⟨_, _, hsend, hpos, h⟩
  · rintro ⟨n, tr', hsend, hpos, h⟩
    exact .part hsend hpos h

/-- **Draining** empties the queue exactly when the transport takes all of it. -/
theorem drainOutbound_takesAll (rt : RuntimeState) (tr : τ) :
    (drainOutbound rt tr).1.outbound = [] ↔ TakesAll tr rt.outbound := by
  induction hlen : rt.outbound.length using Nat.strongRecOn generalizing rt tr with
  | ind len ih =>
    rw [drainOutbound_eq]
    by_cases hempty : rt.outbound = []
    · simpa [hempty] using TakesAll.nothing tr
    · have hlength := List.length_pos_iff.mpr hempty
      rw [if_neg (by simpa using hempty), takesAll_iff hempty]
      rcases Transport.send tr (Transport.fd tr) rt.outbound with ⟨out, tr'⟩
      cases out with
      | sent n =>
        simp only [Prod.mk.injEq, SendOutcome.sent.injEq, extract_to_end]
        -- the last send takes none, or the rest
        by_cases hzero : n = 0
        · subst hzero
          simp [hempty]
        · by_cases hrest : rt.outbound.length ≤ n
          · rw [if_pos (.inr hrest)]
            have hdrop : rt.outbound.drop n = [] := List.drop_eq_nil_of_le hrest
            exact iff_of_true hdrop
              ⟨n, tr', ⟨rfl, rfl⟩, Nat.pos_of_ne_zero hzero, hdrop ▸ .nothing tr'⟩
          · rw [if_neg (by omega), ih _ (by rw [List.length_drop]; omega) _ _ rfl]
            constructor
            · intro h
              exact ⟨n, tr', ⟨rfl, rfl⟩, Nat.pos_of_ne_zero hzero, h⟩
            · rintro ⟨_, _, ⟨rfl, rfl⟩, -, h⟩
              exact h
      | wouldBlock | error => simpa using hempty

end Transport

/-! ## Rounds that close -/

section Closes

variable {τ : Type}

/-- The transport is closed once, and with nothing queued. -/
def ClosesEmpty (log : List (Executed τ)) : Prop :=
  (∀ e ∈ log, e.action.isClose = true → e.rt.outbound = []) ∧
    log.countP (fun e ↦ e.action.isClose) = 1

/-- The event of the round closes the transport. -/
def Round.closes (r : Round τ) : Bool :=
  !r.source.core.handshake.isTerminal && r.source.core.closesTransport r.input

/-- The wire form of a sealed record. -/
def sealedRecord (ct : Bytes) : Bytes := Record13.recordAAD ct.length ++ ct

variable [Hacl] [Transport τ]

/-- Nothing is queued when the round closes the transport: the transport takes what was queued
together with the record that the round writes first, or, if it writes none, nothing was queued. -/
def Round.Flushes (r : Round τ) : Prop :=
  match r.input with
  | .cryptoResult _ _ (.aeadSealed ct) =>
    TakesAll r.source.tr (r.source.rt.outbound ++ sealedRecord ct)
  | .appClose _ (.fatal a) =>
    if r.source.core.closeState = .open then
      match alertWire r.source.rt.arena r.source.core.writeEpoch.epoch
        r.source.core.writeEpoch.seq.value a with
      | some wire => TakesAll r.source.tr (r.source.rt.outbound ++ wire)
      | none => r.source.rt.outbound = []
    else r.source.rt.outbound = []
  | _ => r.source.rt.outbound = []

omit [Hacl] in
theorem enqueue_takesAll (rt : RuntimeState) (tr : τ) (wire : Bytes) :
    (enqueue rt tr wire).1.outbound = [] ↔ TakesAll tr (rt.outbound ++ wire) :=
  drainOutbound_takesAll _ tr

/-- What is queued when the transport is closed. -/
theorem Round.flushes_iff (r : Round τ) :
    (execActions r.source.prov r.source.rt r.source.tr
      (r.source.core.beforeClose r.input)).1.outbound = [] ↔ r.Flushes := by
  rw [Round.Flushes]
  cases r.input with
  | cryptoResult conn op res =>
    cases res with
    | aeadSealed ct =>
      rw [State.beforeClose, execActions_cons, execActions_nil, traceAction_outbound]
      exact enqueue_takesAll _ _ _
    | _ => exact Iff.rfl
  | appClose conn mode =>
    cases mode with
    | fatal a =>
      rw [State.beforeClose]
      dsimp only
      split
      · -- the failure behind the alert leaves the queue alone
        rw [execActions_cons, execActions_cons, execActions_nil, traceAction_outbound]
        change (traceAction _ _).outbound = [] ↔ _
        rw [traceAction_outbound, execAction]
        cases alertWire r.source.rt.arena r.source.core.writeEpoch.epoch
          r.source.core.writeEpoch.seq.value a with
        | none => exact Iff.rfl
        | some wire =>
          dsimp only
          split <;> exact enqueue_takesAll _ _ _
      · exact Iff.rfl
    | _ => exact Iff.rfl
  | _ => exact Iff.rfl

/-- **One round.**  If its event closes, it executes what goes before the close and then closes;
otherwise it does not close. -/
theorem Round.log_cases {r : Round τ} (h : Machine.Steps TlsConn.react r) :
    (r.closes = false ∧ ∀ e ∈ r.log, e.action.isClose = false) ∨
      (r.closes = true ∧ ∃ log mode,
        r.log = log ++ [⟨(execActions r.source.prov r.source.rt r.source.tr
          (r.source.core.beforeClose r.input)).1, (execActions r.source.prov r.source.rt
          r.source.tr (r.source.core.beforeClose r.input)).2.1,
          .closeTransport r.source.core.connId mode⟩] ∧
        ∀ e ∈ log, e.action.isClose = false) := by
  have hstep := TlsConn.steps_coreStep h
  cases hlive : r.source.core.handshake.isTerminal with
  | true =>
    have hnil : r.output.1 = [] := (Core.target_of_terminal hstep hlive).2
    refine .inl ⟨by rw [Round.closes, hlive]; rfl, fun e he ↦ ?_⟩
    have hmem : e.action ∈ r.output.1 := action_mem_of_execLog he
    rw [hnil] at hmem
    cases hmem
  | false =>
    have hcloses : r.closes = r.source.core.closesTransport r.input := by
      rw [Round.closes, hlive, Bool.not_false, Bool.true_and]
    rw [hcloses]
    cases (Core.outcome_of_steps hstep hlive).closes with
    | keeps hev hacts => exact .inl ⟨hev, fun e he ↦ hacts _ (action_mem_of_execLog he)⟩
    | closes mode hev _ hacts =>
      have hout : r.output.1 = r.source.core.beforeClose r.input ++
        [.closeTransport r.source.core.connId mode] := hacts
      refine .inr ⟨hev, execLog r.source.prov r.source.rt r.source.tr
        (r.source.core.beforeClose r.input), mode, ?_, fun e he ↦ ?_⟩
      · rw [Round.log, hout, execLog_concat]
      · exact Core.noClose_beforeClose _ _ _ (action_mem_of_execLog he)

/-- A round closes the transport once if its event does, and with nothing queued if it flushes. -/
theorem Round.log_closes {r : Round τ} (h : Machine.Steps TlsConn.react r) :
    r.log.countP (fun e ↦ e.action.isClose) = r.closes.toNat ∧
      ((∀ e ∈ r.log, e.action.isClose = true → e.rt.outbound = []) ↔
        (r.closes = true → r.Flushes)) := by
  rcases r.log_cases h with ⟨hcloses, hnone⟩ | ⟨hcloses, log, mode, hlog, hbefore⟩
  · rw [hcloses]
    refine ⟨List.countP_eq_zero.mpr (by simpa using hnone), iff_of_true ?_ nofun⟩
    intro e he hclose
    cases (hnone e he).symm.trans hclose
  · rw [hlog, List.countP_append, List.countP_eq_zero.mpr (by simpa using hbefore), hcloses,
      ← r.flushes_iff]
    refine ⟨rfl, fun hall _ ↦ ?_, fun hqueue e he hclose ↦ ?_⟩
    · exact hall _ (List.mem_append_right _ List.mem_cons_self) rfl
    · rcases List.mem_append.mp he with he | he
      · cases (hbefore e he).symm.trans hclose
      · obtain rfl := List.mem_singleton.mp he
        exact hqueue rfl

/-- **Rounds.**  A list of rounds closes once and with nothing queued exactly when one of them
closes, and flushes. -/
theorem closesEmpty_iff_rounds {rs : List (Round τ)}
    (hrs : ∀ r ∈ rs, Machine.Steps TlsConn.react r) :
    ClosesEmpty (rs.flatMap Round.log) ↔
      rs.countP Round.closes = 1 ∧ ∀ r ∈ rs, r.closes = true → r.Flushes := by
  have hcount : (rs.flatMap Round.log).countP (fun e ↦ e.action.isClose) =
      rs.countP Round.closes := by
    induction rs with
    | nil => rfl
    | cons r rs ih =>
      have hone := (Round.log_closes (hrs r List.mem_cons_self)).1
      rw [List.flatMap_cons, List.countP_append, ih fun q hq ↦ hrs q (List.mem_cons_of_mem _ hq),
        List.countP_cons, hone, Nat.add_comm]
      cases r.closes <;> rfl
  have hqueue : (∀ e ∈ rs.flatMap Round.log, e.action.isClose = true → e.rt.outbound = []) ↔
      ∀ r ∈ rs, r.closes = true → r.Flushes := by
    rw [List.forall_mem_flatMap]
    exact forall₂_congr fun r hr ↦ (Round.log_closes (hrs r hr)).2
  rw [ClosesEmpty, hcount, hqueue, and_comm]

/-- A round that closes the transport leaves no live connection. -/
theorem Round.not_isLive_of_closes {r : Round τ} (hr : Machine.Steps TlsConn.react r)
    (hI : Core.Invariant r.source.core) (hcloses : r.closes = true) :
    r.target.core.handshake.isLive = false := by
  have hstep := TlsConn.steps_coreStep hr
  rw [← Bool.not_eq_true]
  intro htarget
  have hsource : r.source.core.handshake.isLive = true := Core.isLive_source hstep htarget
  obtain ⟨hterm, hne⟩ := Core.HandshakeState.isLive_iff.mp hsource
  rw [Round.closes, hterm, Bool.not_false, Bool.true_and] at hcloses
  cases (Core.outcome_of_steps hstep hterm).closes with
  | closes _ _ hended => cases (hended (hI.isOpen hterm hne)).symm.trans htarget
  | keeps hev => cases hev.symm.trans hcloses

/-- On the way to a live connection nothing closes. -/
theorem CallRun.keepsOpen {tr₀ : τ} {conn : ConnId} {gen : ConfigGeneration} {alg : HashAlgorithm}
    {prov : CryptoProvider} {config : ValidatedServerConfig} {pre : List (CallStep τ)}
    {c : TlsConn τ} (h : CallRun tr₀ conn gen alg prov config pre c)
    (hlive : c.core.handshake.isLive = true) :
    ∀ r ∈ pre.flatMap CallStep.rounds, r.closes = false := by
  intro r hr
  have hcore : Core.CoreRun conn gen alg config
      ((pre.flatMap CallStep.rounds).map Round.coreStep) c.core := by
    rw [List.map_flatMap]
    exact h.core
  obtain ⟨before, behind, hsplit⟩ :=
    List.append_of_mem (List.mem_map_of_mem (f := Round.coreStep) hr)
  rw [hsplit] at hcore
  obtain ⟨hbefore, -, hbehind⟩ := Machine.Run.split_at hcore
  have htarget : r.target.core.handshake.isLive = true := Core.isLive_of_run hbehind hlive
  obtain ⟨t, -, ht⟩ := List.mem_flatMap.mp hr
  rw [← Bool.not_eq_true]
  intro hcloses
  have hended := r.not_isLive_of_closes (TlsConn.steps_of_mem_callRounds ht)
    (Core.CoreRun.invariant hbefore) hcloses
  cases hended.symm.trans htarget

/-- Behind calls that do not close, the law is about the calls that follow. -/
theorem closesEmpty_behind {pre : List (CallStep τ)}
    (hkeeps : ∀ r ∈ pre.flatMap CallStep.rounds, r.closes = false) (post : List (CallStep τ)) :
    ClosesEmpty ((pre ++ post).flatMap CallStep.log) ↔
      (post.flatMap CallStep.rounds).countP Round.closes = 1 ∧
        ∀ r ∈ post.flatMap CallStep.rounds, r.closes = true → r.Flushes := by
  have hsteps : ∀ r ∈ (pre ++ post).flatMap CallStep.rounds, Machine.Steps TlsConn.react r := by
    intro r hr
    obtain ⟨u, -, hr⟩ := List.mem_flatMap.mp hr
    exact TlsConn.steps_of_mem_callRounds hr
  have hlog : (pre ++ post).flatMap CallStep.log =
      ((pre ++ post).flatMap CallStep.rounds).flatMap Round.log := by
    rw [List.flatMap_assoc]
    rfl
  have hnone : (pre.flatMap CallStep.rounds).countP Round.closes = 0 :=
    List.countP_eq_zero.mpr (by simpa using hkeeps)
  rw [hlog, closesEmpty_iff_rounds hsteps, List.flatMap_append, List.countP_append, hnone,
    Nat.zero_add]
  refine and_congr_right fun _ ↦
    ⟨fun h r hr ↦ h r (List.mem_append_right _ hr), fun h r hr hc ↦ ?_⟩
  rcases List.mem_append.mp hr with hr | hr
  · cases (hkeeps r hr).symm.trans hc
  · exact h r hr hc

end Closes

end Kroopt.Conn
