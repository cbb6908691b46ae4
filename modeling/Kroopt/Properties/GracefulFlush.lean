import Kroopt.Conn.Recorded
import Kroopt.Properties.SealedWrites
import Kroopt.Properties.TransportClose

/-!
# Flushing before closing

A graceful close is to close the transport once, and only when everything accepted before it and the
close_notify itself have been taken by the transport.

The law is about what the transport was given, so it is stated over `Recorded τ`, which keeps what
the transport has taken and what it had taken each time it was closed; every run over `τ` is such a
run with the record forgotten (`CallRun.recorded`).

The law is the sum of four facts.  What is accepted is sealed.  What is sealed, the close_notify
with the rest, is written.  What is written is queued.  And the one close comes when the transport
has taken all that was queued.

The first two are a matter of the drive loop: a record is sealed in one round and written in the
next, so they need two rounds a call.  The last is where the code goes wrong.  The core asks for the
write of the close_notify and for the close in one breath, and the interpreter does both at once:
whatever the transport did not take in the one drain in between is still queued when it is closed.
And several later events close it again.

## Main definitions

* `ClosesFlushed prov log r`: the law, for what was executed and the record of the transport.
* `TlsConn.CanSeal`: the connection can seal a close_notify, in the two rounds that this takes.

## Main results

* `record_of_calls`: what the record says about a run of calls.
* `TlsConn.rounds_close`: the two rounds of the graceful close of a connected session.
* `closesFlushed_of_canSeal`: the law where the close_notify can be sealed.
* `not_closesFlushed_of_oneRound` and `not_closesFlushed_of_refused`: where it cannot.
* `gracefulFlush_iff`: when the law holds, for every run of calls that goes on behind the close.
-/

set_option autoImplicit false

namespace Kroopt.Conn

open Kroopt.Core (State InputEvent OutputAction ConnId ConfigGeneration HashAlgorithm
  ValidatedServerConfig)
open Kroopt.Crypto (CryptoProvider SecretArena Hacl)

/-! ## What the transport was given

Two accounts are kept along a run: the bytes, which are taken or still queued, and the closes, each
with what had been taken by then. -/

section Recorded

/-- A map that forgets a part of a transport keeps what it takes. -/
theorem TransportHom.takesAll_iff {σ τ : Type} [Transport σ] [Transport τ] {φ : σ → τ}
    (h : TransportHom φ) (tr : σ) (q : Bytes) : TakesAll (φ tr) q ↔ TakesAll tr q := by
  constructor
  · intro htakes
    generalize htr : φ tr = tr' at htakes
    induction htakes generalizing tr with
    | nothing => exact .nothing tr
    | @part _ _ q n hsend hpos _ ih =>
      rw [← htr, h.fd, h.send] at hsend
      obtain ⟨hout, hrest⟩ := Prod.mk.inj hsend
      exact .part (Prod.ext hout rfl) hpos (ih _ hrest)
  · intro htakes
    induction htakes with
    | nothing tr => exact .nothing (φ tr)
    | part hsend hpos _ ih => exact .part (by rw [h.fd, h.send, hsend]) hpos ih

variable {τ : Type} [Transport τ]

theorem Recorded.drain_closes (rt : RuntimeState) (r : Recorded τ) :
    (drainOutbound rt r).2.closes = r.closes := by
  suffices h : ∀ fuel (rt : RuntimeState) (r : Recorded τ),
      (drainOutboundGo fuel rt r).2.closes = r.closes from h _ rt r
  intro fuel
  induction fuel with
  | zero => exact fun _ _ ↦ rfl
  | succ fuel ih =>
    intro rt r
    have hsent : ∀ out r', Transport.send r (Transport.fd r) rt.outbound = (out, r') →
        r'.closes = r.closes := by
      intro out r' hsend
      rw [← (Prod.mk.inj hsend).2, Recorded.sentAs.eq_def]
      split <;> rfl
    rw [drainOutboundGo]
    split
    · rfl
    · split
      · rename_i n r' hsend
        split
        · exact hsent _ _ hsend
        · exact (ih _ r').trans (hsent _ _ hsend)
      · rename_i r' hsend
        exact hsent _ _ hsend
      · rename_i e r' hsend
        exact hsent _ _ hsend

variable [Hacl]

/-- Every close is recorded, with what the transport has taken by then. -/
def closesAccount : Account (Recorded τ) Bytes where
  total _ r := r.closes
  entry e := if e.action.isClose then [e.tr.taken] else []
  drain := Recorded.drain_closes
  exec prov rt r a := by
    have hqueue : ∀ (rt : RuntimeState) (wire : Bytes),
        (enqueue rt r wire).2.closes = r.closes := fun _ _ ↦ Recorded.drain_closes _ r
    cases a with
    | closeTransport => rfl
    | writeTransport => simpa [execAction] using hqueue rt _
    | writeHandshake conn epoch seq msg =>
      rw [execAction]
      cases handshakeWire rt.arena epoch seq (Core.serializeHandshakeOut msg) with
      | ok wire => simpa using hqueue rt wire
      | error e => simp
    | writeCertificate conn epoch seq der =>
      rw [execAction]
      cases handshakeWire rt.arena epoch seq (Core.serializeServerCertificate der) with
      | ok wire => simpa using hqueue rt wire
      | error e => simp
    | writeAlert conn epoch seq al =>
      rw [execAction]
      cases alertWire rt.arena epoch seq al with
      | none => simp
      | some wire => simpa using hqueue _ wire
    | readTransport conn =>
      rw [execAction]
      split <;> rename_i hrecv <;> simp [← (Prod.mk.inj hrecv).2]
    | callCrypto conn op req =>
      rw [execAction]
      split
      · split <;> simp
      · simp
    | enableWriteInterest | disableWriteInterest | emitPlaintext | acceptPlaintextBytes
    | reportHandshakeComplete | reportError | failWithAlert | releaseSecret =>
      exact (List.append_nil _).symm

end Recorded

/-! ## The law

What is asked for before the close is read off the log of executions up to the first close.  With
the account of the bytes, closing once with nothing queued is the same as closing when everything
queued has been taken. -/

section Law

variable {τ : Type}

/-- What is executed before the transport is first closed. -/
def untilClose (log : List (Executed τ)) : List (Executed τ) :=
  log.takeWhile fun e ↦ !e.action.isClose

/-- The execution asks the provider to seal the close_notify. -/
def Executed.SealsCloseNotify (e : Executed τ) : Prop :=
  ∃ conn op rmeta, e.action =
    .callCrypto conn op (.aeadSeal rmeta [] [1, 0, Core.ContentType.alert.toByte])

/-- A list of which one element satisfies `p` splits there. -/
theorem eq_takeWhile_append {α : Type} {p : α → Bool} {l : List α} (h : l.countP p = 1) :
    ∃ x behind, l = l.takeWhile (fun y ↦ !p y) ++ x :: behind ∧ p x = true ∧
      ∀ y ∈ l.takeWhile (fun y ↦ !p y) ++ behind, p y = false := by
  induction l with
  | nil => cases h
  | cons a l ih =>
    cases ha : p a with
    | true =>
      rw [List.countP_cons_of_pos ha] at h
      have hnone := List.countP_eq_zero.mp (Nat.succ.inj h)
      refine ⟨a, l, by rw [List.takeWhile_cons_of_neg (by simp [ha])]; rfl, ha, fun y hy ↦ ?_⟩
      rw [List.takeWhile_cons_of_neg (by simp [ha])] at hy
      simpa using hnone y hy
    | false =>
      rw [List.countP_cons_of_neg (by simp [ha])] at h
      obtain ⟨x, behind, hsplit, hx, hnone⟩ := ih h
      rw [List.takeWhile_cons_of_pos (by simp [ha])]
      refine ⟨x, behind, congrArg (a :: ·) hsplit, hx, fun y hy ↦ ?_⟩
      rcases List.mem_cons.mp hy with rfl | hy
      · exact ha
      · exact hnone y hy

/-- A log that closes at its end and not before. -/
theorem untilClose_append {log behind : List (Executed τ)} {e : Executed τ}
    (hlog : ∀ e' ∈ log, e'.action.isClose = false) (he : e.action.isClose = true) :
    untilClose (log ++ e :: behind) = log := by
  rw [untilClose, List.takeWhile_append_of_pos fun e' he' ↦ by rw [hlog e' he']; rfl,
    List.takeWhile_cons_of_neg (by rw [he]; exact Bool.false_ne_true), List.append_nil]

variable [Hacl] [Transport τ]

/-- **The law.** -/
structure ClosesFlushed (prov : CryptoProvider) (log : List (Executed (Recorded τ)))
    (r : Recorded τ) : Prop where
  /-- Nothing is queued when the transport is closed. -/
  empty : ∀ e ∈ log, e.action.isClose = true → e.rt.outbound = []
  /-- It is closed once, when it has taken all that was queued before. -/
  once : r.closes = [(untilClose log).flatMap Executed.queued]
  /-- What was accepted has been sealed, -/
  accepted : AcceptsSealed prov log
  /-- and so has the close_notify; -/
  closeNotify : ∃ e ∈ log, e.SealsCloseNotify ∧ (e.sealed? prov).isSome
  /-- and what was sealed has been written before the close. -/
  written : (sealedBy prov log).Sublist (writtenBy (untilClose log))

variable {tr₀ : τ} {conn : ConnId} {gen : ConfigGeneration} {alg : HashAlgorithm}
  {prov : CryptoProvider} {config : ValidatedServerConfig} {tr : List (CallStep (Recorded τ))}
  {c : TlsConn (Recorded τ)}

/-- **The record** of a run of calls: the closes, with what was taken by then; and before each
execution, what was taken and what was queued are all that was ever queued. -/
theorem record_of_calls (h : CallRun (⟨tr₀, [], []⟩ : Recorded τ) conn gen alg prov config tr c) :
    c.tr.closes = (tr.flatMap CallStep.log).flatMap closesAccount.entry ∧
      ∀ before e behind, tr.flatMap CallStep.log = before ++ e :: behind →
        e.tr.taken ++ e.rt.outbound = before.flatMap Executed.queued := by
  refine ⟨(closesAccount.of_calls h).1, fun before e behind hsplit ↦ ?_⟩
  have halong := (Recorded.logsSends.account.of_calls h).2
  rw [hsplit] at halong
  exact halong.split

/-- Closing once and with nothing queued is closing when all that was queued has been taken. -/
theorem ClosesEmpty.once (h : CallRun (⟨tr₀, [], []⟩ : Recorded τ) conn gen alg prov config tr c)
    (hempty : ClosesEmpty (tr.flatMap CallStep.log)) :
    c.tr.closes = [(untilClose (tr.flatMap CallStep.log)).flatMap Executed.queued] := by
  obtain ⟨hcloses, htaken⟩ := record_of_calls h
  obtain ⟨e, behind, hsplit, he, hnone⟩ := eq_takeWhile_append hempty.2
  have hqueue : e.rt.outbound = [] := by
    refine hempty.1 e ?_ he
    rw [hsplit]
    exact List.mem_append_right _ List.mem_cons_self
  have htotal := htaken _ e behind hsplit
  rw [hqueue, List.append_nil] at htotal
  have hentries : ∀ {log : List (Executed (Recorded τ))},
      (∀ e ∈ log, e.action.isClose = false) → log.flatMap closesAccount.entry = [] := fun hlog ↦
    List.flatMap_eq_nil_iff.mpr fun e he ↦ if_neg (by rw [hlog e he]; exact Bool.false_ne_true)
  rw [hcloses]
  conv_lhs => rw [hsplit]
  rw [List.flatMap_append, List.flatMap_cons,
    hentries fun e' he' ↦ hnone e' (List.mem_append_left _ he'),
    hentries fun e' he' ↦ hnone e' (List.mem_append_right _ he'),
    show closesAccount.entry e = [e.tr.taken] from if_pos he, htotal]
  rfl

/-- The law needs one close, with nothing queued. -/
theorem ClosesFlushed.closesEmpty
    (h : CallRun (⟨tr₀, [], []⟩ : Recorded τ) conn gen alg prov config tr c)
    (hlaw : ClosesFlushed prov (tr.flatMap CallStep.log) c.tr) :
    ClosesEmpty (tr.flatMap CallStep.log) := by
  have hcount : ∀ log : List (Executed (Recorded τ)),
      (log.flatMap closesAccount.entry).length = log.countP fun e ↦ e.action.isClose := by
    intro log
    induction log with
    | nil => rfl
    | cons e log ih =>
      rw [List.flatMap_cons, List.length_append, ih, List.countP_cons, Nat.add_comm]
      rw [show closesAccount.entry e = if e.action.isClose then [e.tr.taken] else [] from rfl]
      split <;> rfl
  refine ⟨hlaw.empty, ?_⟩
  rw [← hcount, ← (record_of_calls h).1, hlaw.once]
  rfl

end Law

/-! ## The close call

A graceful close of a connected session takes two rounds, and they can be computed: the first asks
for the seal, and the second writes the sealed record and closes the transport. -/

section CloseCall

variable [Hacl] {τ : Type} [Transport τ]

/-- The seal of the close_notify, as it reaches the provider. -/
def closeNotifyOp (s : State) : Core.CryptoOp :=
  .aeadSeal (Core.writeMeta s) (Record13.recordAAD 19) [1, 0, Core.ContentType.alert.toByte]

namespace TlsConn

omit [Hacl] in
/-- The connection can seal a close_notify, and its drive loop lasts for the two rounds that takes.
-/
structure CanSeal (c : TlsConn τ) : Prop where
  fuel : 2 ≤ c.core.serverConfig.limits.maxProgressStepsPerCall
  seq : c.core.writeEpoch.seq.next.isSome
  room : c.core.hasOpRoom

/-- The seal of the close_notify, executed. -/
theorem execAction_closeNotify {c : TlsConn τ} {arena' : SecretArena} {ct : Bytes}
    (hsub : c.prov.submit c.rt.arena ⟨c.core.nextOpId⟩ (closeNotifyOp c.core) =
      .ok (arena', .aeadSealed ct)) :
    execAction c.prov c.rt c.tr (.callCrypto c.core.connId ⟨c.core.nextOpId⟩
        (.aeadSeal (Core.writeMeta c.core) [] [1, 0, Core.ContentType.alert.toByte])) =
      ({ c.rt with arena := arena' }, c.tr,
        [.cryptoResult c.core.connId ⟨c.core.nextOpId⟩ (.aeadSealed ct)]) := by
  have hresolve : ∀ alg, resolveRecordAAD (resolveCryptoTranscript alg
      (.aeadSeal (Core.writeMeta c.core) [] [1, 0, Core.ContentType.alert.toByte])) =
      closeNotifyOp c.core := fun _ ↦ rfl
  rw [execAction]
  dsimp only
  rw [hresolve, hsub]
  rfl

/-- The first round of a graceful close asks for the seal of the close_notify, and gets it. -/
theorem react_close {c : TlsConn τ} (hphase : c.core.handshake = .connected)
    (hopen : c.core.closeState = .open) (hseq : c.core.writeEpoch.seq.next.isSome)
    (hroom : c.core.hasOpRoom) {arena' : SecretArena} {ct : Bytes}
    (hsub : c.prov.submit c.rt.arena ⟨c.core.nextOpId⟩ (closeNotifyOp c.core) =
      .ok (arena', .aeadSealed ct)) :
    ∃ c₁, c.react (.appClose c.core.connId .graceful) =
        .ok (c₁, [.callCrypto c.core.connId ⟨c.core.nextOpId⟩ (.aeadSeal (Core.writeMeta c.core) []
            [1, 0, Core.ContentType.alert.toByte])],
          [.cryptoResult c.core.connId ⟨c.core.nextOpId⟩ (.aeadSealed ct)]) ∧
      c₁.core.handshake = .closing ∧ c₁.core.closeState = .sentCloseNotify ∧
      c₁.core.pendingOps.contains ⟨c.core.nextOpId⟩ = true ∧
      c₁.rt.outbound = c.rt.outbound ∧ c₁.tr = c.tr := by
  have hlive : c.core.handshake.isTerminal = false := by rw [hphase]; rfl
  obtain ⟨s', acts, hstep, hout⟩ := Core.step_outcome hlive (.appClose c.core.connId .graceful)
  cases hout with
  | closeNotifyRefused _ _ hrefused => exact absurd ⟨hseq, hroom⟩ hrefused
  | closeEarly _ hphase' => exact absurd hphase hphase'
  | reclose hopen' => exact absurd hopen hopen'
  | @closeNotify _ sq =>
    have hreact := react_eq hstep
    rw [execActions_cons, execAction_closeNotify hsub, execActions_nil] at hreact
    refine ⟨_, hreact, rfl, rfl, ?_, traceAction_outbound _ _, rfl⟩
    exact Core.PendingCryptoOps.contains_iff.mpr ⟨_, List.mem_cons_self, rfl⟩

/-- Where the close_notify cannot be sealed, the first round ends the connection. -/
theorem react_refused {c : TlsConn τ} (hphase : c.core.handshake = .connected)
    (hopen : c.core.closeState = .open)
    (hrefused : ¬ (c.core.writeEpoch.seq.next.isSome ∧ c.core.hasOpRoom)) :
    ∃ c₁ acts evs, c.react (.appClose c.core.connId .graceful) = .ok (c₁, acts, evs) ∧
      c₁.core.handshake.isTerminal = true := by
  have hlive : c.core.handshake.isTerminal = false := by rw [hphase]; rfl
  obtain ⟨s', acts, hstep, hout⟩ := Core.step_outcome hlive (.appClose c.core.connId .graceful)
  refine ⟨_, acts, _, react_eq hstep, ?_⟩
  cases hout with
  | closeNotifyRefused => rfl
  | closeNotify _ _ hseq hroom => exact absurd ⟨by rw [hseq]; rfl, hroom⟩ hrefused
  | closeEarly _ hphase' => exact absurd hphase hphase'
  | reclose hopen' => exact absurd hopen hopen'

/-- The second round writes the sealed close_notify and closes the transport. -/
theorem react_sealed {c : TlsConn τ} (hphase : c.core.handshake = .closing)
    (hclose : c.core.closeState = .sentCloseNotify) (conn : ConnId) {op : Core.OperationId}
    (hop : c.core.pendingOps.contains op = true) (ct : Bytes) :
    ∃ c₁ acts, c.react (.cryptoResult conn op (.aeadSealed ct)) = .ok (c₁, acts, []) := by
  have hlive : c.core.handshake.isTerminal = false := by rw [hphase]; rfl
  obtain ⟨s', acts, hstep, hout⟩ := Core.step_outcome hlive (.cryptoResult conn op (.aeadSealed ct))
  have hreact := react_eq hstep
  cases hout with
  | stale hstale => cases hstale.symm.trans hop
  | result _ h =>
    cases h with
    | «sealed» =>
      rw [if_pos hclose, execActions_cons, execActions_cons, execActions_nil] at hreact
      exact ⟨_, _, hreact⟩
    | gating hr => exact absurd rfl (hr.2.1 ct)

/-- The first round of a graceful close. -/
theorem callRounds_close {c c₁ : TlsConn τ} {acts : List OutputAction} {evs : List InputEvent}
    (hfuel : 1 ≤ c.core.serverConfig.limits.maxProgressStepsPerCall)
    (hreact : c.react (.appClose c.core.connId .graceful) = .ok (c₁, acts, evs)) :
    c.callRounds (.close .graceful) = ⟨c, .appClose c.core.connId .graceful, (acts, evs), c₁⟩ ::
      c₁.rounds (c.core.serverConfig.limits.maxProgressStepsPerCall - 1) evs := by
  obtain ⟨fuel, hfuel⟩ := Nat.exists_eq_add_of_le' hfuel
  rw [callRounds, driveRounds, hfuel, rounds, hreact]
  dsimp only
  rw [List.append_nil, Nat.add_sub_cancel]

/-- **The rounds** of a graceful close.  The first has the close_notify sealed and keeps the
transport open; the second closes it. -/
theorem rounds_close {c : TlsConn τ} (hphase : c.core.handshake = .connected)
    (hopen : c.core.closeState = .open) (hseal : c.CanSeal) {arena' : SecretArena} {ct : Bytes}
    (hsub : c.prov.submit c.rt.arena ⟨c.core.nextOpId⟩ (closeNotifyOp c.core) =
      .ok (arena', .aeadSealed ct)) :
    ∃ r₁ r₂, c.callRounds (.close .graceful) = [r₁, r₂] ∧ r₁.closes = false ∧ r₂.closes = true ∧
      r₁.target.core.handshake = .closing ∧
      (∃ e ∈ r₁.log, e.SealsCloseNotify ∧ (e.sealed? c.prov).isSome) ∧
      (r₂.Flushes ↔ TakesAll c.tr (c.rt.outbound ++ sealedRecord ct)) := by
  obtain ⟨c₁, hreact, hphase₁, hclose₁, hop₁, hout₁, htr₁⟩ :=
    react_close hphase hopen hseal.seq hseal.room hsub
  obtain ⟨c₂, acts₂, hreact₂⟩ := react_sealed hphase₁ hclose₁ c.core.connId hop₁ ct
  obtain ⟨fuel, hfuel⟩ := Nat.exists_eq_add_of_le' hseal.fuel
  have hrounds := callRounds_close (Nat.le_of_succ_le hseal.fuel) hreact
  rw [hfuel, Nat.add_sub_assoc (by decide), rounds, hreact₂] at hrounds
  dsimp only at hrounds
  refine ⟨_, _, hrounds.trans (congrArg _ (congrArg _ ?_)), ?_, ?_, hphase₁, ?_, ?_⟩
  · cases fuel <;> rfl
  · simp [Round.closes, State.closesTransport, hphase, hopen]
  · simp [Round.closes, Core.State.closesTransport, hphase₁, hclose₁, hop₁,
      Core.HandshakeState.isTerminal]
  · refine ⟨_, List.mem_cons_self, ⟨_, _, _, rfl⟩, ?_⟩
    rw [Executed.sealed?, execAction_closeNotify hsub]
    rfl
  · rw [Round.Flushes, hout₁, htr₁]

end TlsConn

/-- What the core keeps from its first round on holds before each later round. -/
theorem source_behind {c c' : TlsConn τ} {tr : List (CallStep τ)} {r₁ : Round τ}
    {rest : List (Round τ)} (h : Machine.Run TlsConn.call c tr c')
    (hrounds : tr.flatMap CallStep.rounds = r₁ :: rest) {I : State → Prop}
    (hI : ∀ u, Machine.Steps Core.step u → I u.source → I u.target)
    (h₁ : I r₁.target.core) : ∀ r ∈ rest, I r.source.core := by
  intro r hr
  have hcore := core_run_of_calls h
  change Machine.Run Core.step c.core (tr.flatMap fun t ↦ (CallStep.rounds t).map Round.coreStep)
    c'.core at hcore
  rw [← List.map_flatMap, hrounds] at hcore
  obtain ⟨-, -, hrest⟩ := hcore.uncons
  exact hrest.invariant_source hI h₁ (List.mem_map_of_mem hr)

/-- A connection that is no longer live has nothing sealed. -/
theorem sealedBy_behind {c c' : TlsConn τ} {tr : List (CallStep τ)} (prov : CryptoProvider)
    (h : Machine.Run TlsConn.call c tr c') (hend : c.core.handshake.isLive = false) :
    sealedBy prov (tr.flatMap CallStep.log) = [] := by
  refine sealedBy_eq_nil prov fun e he ↦ ?_
  obtain ⟨t, ht, he⟩ := List.mem_flatMap.mp he
  obtain ⟨r, hr, he⟩ := List.mem_flatMap.mp he
  have hsource : r.source.core.handshake.isLive = false := by
    refine (core_run_of_calls h).invariant_source (I := fun s ↦ s.handshake.isLive = false)
      (fun u hu hs ↦ ?_) hend (t := r.coreStep)
      (List.mem_flatMap.mpr ⟨t, ht, List.mem_map_of_mem hr⟩)
    cases hlive : u.target.handshake.isLive with
    | false => rfl
    | true => cases hs.symm.trans (Core.isLive_source hu hlive)
  refine Round.noSeal (TlsConn.steps_of_mem_callRounds hr) (.inr fun hphase ↦ ?_) _
    (action_mem_of_execLog he)
  rw [hphase] at hsource
  cases hsource

end CloseCall

/-! ## When it flushes

The law fails in a different way for each condition that is missing, so there are three lemmas for
that and one for the case in which all is well. -/

section Flush

variable [Hacl] {τ : Type} [Transport τ]

theorem isClose_false_of_closes {r : Round τ} (h : Machine.Steps TlsConn.react r)
    (hcloses : r.closes = false) : ∀ e ∈ r.log, e.action.isClose = false := by
  rcases r.log_cases h with ⟨-, hnone⟩ | ⟨htrue, -⟩
  · exact hnone
  · cases hcloses.symm.trans htrue

/-- What is sealed up to a close call is written before its last round closes. -/
theorem written_untilClose {c c' : TlsConn τ} {pre post : List (CallStep τ)} {t : CallStep τ}
    {r₁ r₂ : Round τ} (h : Machine.Run TlsConn.call c (pre ++ t :: post) c')
    (hprov : SealsSucceed c.prov)
    (hfuel : 2 ≤ c.core.serverConfig.limits.maxProgressStepsPerCall)
    (hkeeps : ∀ r ∈ pre.flatMap CallStep.rounds, r.closes = false)
    (ht : CallStep.rounds t = [r₁, r₂]) (h₁ : r₁.closes = false) (h₂ : r₂.closes = true)
    (hend : t.target.core.handshake.isLive = false) :
    (sealedBy c.prov ((pre ++ t :: post).flatMap CallStep.log)).Sublist
      (writtenBy (untilClose ((pre ++ t :: post).flatMap CallStep.log))) := by
  obtain ⟨hpre, hstep, hpost⟩ := Machine.Run.split_at h
  have hsteps : ∀ r ∈ CallStep.rounds t, Machine.Steps TlsConn.react r :=
    fun r hr ↦ TlsConn.steps_of_mem_callRounds hr
  rw [ht] at hsteps
  obtain ⟨log₂, e, hlog₂, he, hwritten₂, hnone₂⟩ : ∃ log₂ e, r₂.log = log₂ ++ [e] ∧
      e.action.isClose = true ∧ e.written? = none ∧
        ∀ e' ∈ log₂, e'.action.isClose = false := by
    rcases r₂.log_cases (hsteps r₂ (by simp)) with ⟨hfalse, -⟩ | ⟨-, log₂, mode, hlog₂, hnone₂⟩
    · cases h₂.symm.trans hfalse
    · exact ⟨log₂, _, hlog₂, rfl, rfl, hnone₂⟩
  -- the log up to the close, and the close itself
  have hlog : CallStep.log t = r₁.log ++ r₂.log := by
    rw [CallStep.log, ht, List.flatMap_cons, List.flatMap_singleton]
  have hnone : ∀ e ∈ pre.flatMap CallStep.log ++ (r₁.log ++ log₂), e.action.isClose = false := by
    intro e he
    rcases List.mem_append.mp he with he | he
    · obtain ⟨u, hu, he⟩ := List.mem_flatMap.mp he
      obtain ⟨r, hr, he⟩ := List.mem_flatMap.mp he
      exact isClose_false_of_closes (TlsConn.steps_of_mem_callRounds hr)
        (hkeeps r (List.mem_flatMap.mpr ⟨u, hu, hr⟩)) e he
    · rcases List.mem_append.mp he with he | he
      · exact isClose_false_of_closes (hsteps r₁ (by simp)) h₁ e he
      · exact hnone₂ e he
  have huntil : untilClose ((pre ++ t :: post).flatMap CallStep.log) =
      pre.flatMap CallStep.log ++ (r₁.log ++ log₂) := by
    have hsplit : (pre ++ t :: post).flatMap CallStep.log =
        pre.flatMap CallStep.log ++ (r₁.log ++ log₂) ++ e :: post.flatMap CallStep.log := by
      rw [List.flatMap_append, List.flatMap_cons, hlog, hlog₂]
      simp only [List.append_assoc, List.cons_append, List.nil_append]
    rw [hsplit]
    exact untilClose_append hnone he
  -- behind the call nothing is sealed, and the close itself writes nothing
  have hwritten := sealed_sublist_written (hpre.append (.cons hstep (.nil t.target))) hprov hfuel
  have hnil : writtenBy [e] = [] := by
    rw [writtenBy, List.filterMap_cons_none hwritten₂, List.filterMap_nil]
  rw [List.flatMap_append, List.flatMap_singleton, hlog, hlog₂, ← List.append_assoc r₁.log,
    ← List.append_assoc (pre.flatMap CallStep.log), writtenBy_append, hnil,
    List.append_nil] at hwritten
  rw [huntil, List.flatMap_append, List.flatMap_cons, hlog, hlog₂, sealedBy_append,
    sealedBy_append, sealedBy_behind c.prov hpost hend, List.append_nil, ← sealedBy_append]
  rw [List.append_assoc, List.append_assoc] at hwritten
  exact hwritten

variable {tr₀ : τ} {conn : ConnId} {gen : ConfigGeneration} {alg : HashAlgorithm}
  {prov : CryptoProvider} {config : ValidatedServerConfig}
  {pre post : List (CallStep (Recorded τ))} {t : CallStep (Recorded τ)}
  {c c' : TlsConn (Recorded τ)}

/-- **Where the close_notify can be sealed**, the law is about the drain of the close call and about
what closes behind it. -/
theorem closesFlushed_of_canSeal (hprov : SealsSucceed prov)
    (hpre : CallRun (⟨tr₀, [], []⟩ : Recorded τ) conn gen alg prov config pre c)
    (hphase : c.core.handshake = .connected) (hpost : Machine.Run TlsConn.call c (t :: post) c')
    (ht : t.input = .close .graceful) (hseal : c.CanSeal) {arena' : SecretArena} {ct : Bytes}
    (hsub : prov.submit c.rt.arena ⟨c.core.nextOpId⟩ (closeNotifyOp c.core) =
      .ok (arena', .aeadSealed ct)) :
    ClosesFlushed prov ((pre ++ t :: post).flatMap CallStep.log) c'.tr ↔
      TakesAll c.tr.tr (c.rt.outbound ++ sealedRecord ct) ∧
        ∀ r ∈ post.flatMap CallStep.rounds, r.closes = false := by
  have hrun : CallRun (⟨tr₀, [], []⟩ : Recorded τ) conn gen alg prov config (pre ++ t :: post) c' :=
    hpre.append hpost
  have hkeeps := hpre.keepsOpen (by rw [hphase]; rfl)
  have hopen : c.core.closeState = .open :=
    (Core.CoreRun.invariant hpre.core).isOpen (by rw [hphase]; rfl) (by rw [hphase]; exact nofun)
  obtain ⟨hsource, hstep, -⟩ := hpost.uncons
  obtain ⟨r₁, r₂, hrounds, h₁, h₂, hphase₁, hnotify, hflush⟩ :=
    TlsConn.rounds_close hphase hopen hseal (by rw [hpre.prov_eq]; exact hsub)
  have hcall : CallStep.rounds t = [r₁, r₂] := by rw [CallStep.rounds, hsource, ht, hrounds]
  rw [hpre.prov_eq] at hnotify
  rw [Recorded.forgets.takesAll_iff]
  have hempty : ClosesEmpty ((pre ++ t :: post).flatMap CallStep.log) ↔
      TakesAll c.tr (c.rt.outbound ++ sealedRecord ct) ∧
        ∀ r ∈ post.flatMap CallStep.rounds, r.closes = false := by
    rw [closesEmpty_behind hkeeps, List.flatMap_cons, hcall, ← hflush]
    simp only [List.cons_append, List.nil_append, List.countP_cons, h₁, h₂, if_true, if_false,
      Bool.false_eq_true, List.forall_mem_cons, Nat.add_zero, Nat.add_eq_right, forall_const,
      IsEmpty.forall_iff, true_and, List.countP_eq_zero, Bool.not_eq_true]
    constructor
    · rintro ⟨hnone, hfirst, -⟩
      exact ⟨hfirst, hnone⟩
    · rintro ⟨hfirst, hnone⟩
      refine ⟨hnone, hfirst, fun r hr hc ↦ ?_⟩
      cases (hnone r hr).symm.trans hc
  rw [← hempty]
  refine ⟨fun hlaw ↦ hlaw.closesEmpty hrun, fun hlaw ↦ ?_⟩
  -- behind its first round the connection is closing
  have hend : t.target.core.handshake.isLive = false := by
    have hcore := core_run_of_calls (.cons hstep (.nil t.target))
    rw [List.flatMap_singleton, hcall] at hcore
    obtain ⟨-, -, hrest⟩ := Machine.Run.uncons hcore
    cases hlive : t.target.core.handshake.isLive with
    | false => rfl
    | true =>
      have hcontra := Core.isLive_of_run hrest hlive
      rw [show r₁.coreStep.target.handshake = .closing from hphase₁] at hcontra
      cases hcontra
  have hconfig := config_of_calls hpre
  have hstart : SealsSucceed (TlsConn.serverWith (⟨tr₀, [], []⟩ : Recorded τ) conn gen alg prov
    config).prov := hprov
  refine ⟨hlaw.1, hlaw.once hrun, acceptsSealed_of_calls hrun hstart, ?_, ?_⟩
  · obtain ⟨e, he, hseals⟩ := hnotify
    refine ⟨e, List.mem_flatMap.mpr ⟨t, by simp, ?_⟩, hseals⟩
    exact List.mem_flatMap.mpr ⟨r₁, by rw [hcall]; exact List.mem_cons_self, he⟩
  · exact written_untilClose hrun hstart (hconfig ▸ hseal.fuel) hkeeps hcall h₁ h₂ hend

/-- **With one round a call** the close_notify is sealed and never written. -/
theorem not_closesFlushed_of_oneRound (hpre : CallRun (⟨tr₀, [], []⟩ : Recorded τ) conn gen alg prov
      config pre c) (hfuel : c.core.serverConfig.limits.maxProgressStepsPerCall ≤ 1)
    (hcalls : ∀ u ∈ pre, u.input.sealed? = none) :
    ¬ ClosesFlushed prov (pre.flatMap CallStep.log) c.tr := by
  intro hlaw
  obtain ⟨e, he, -, hsealed⟩ := hlaw.closeNotify
  obtain ⟨ct, hct⟩ := Option.isSome_iff_exists.mp hsealed
  have hnil : writtenBy (pre.flatMap CallStep.log) = [] :=
    written_eq_nil hpre ((config_of_calls hpre) ▸ hfuel) hcalls
  have huntil : writtenBy (untilClose (pre.flatMap CallStep.log)) = [] := by
    refine List.sublist_nil.mp (hnil ▸ ?_)
    exact (List.takeWhile_sublist _).filterMap _
  have hnone := List.sublist_nil.mp (huntil ▸ hlaw.written)
  cases (List.filterMap_eq_nil_iff.mp hnone e he).symm.trans hct

/-- **Where the close_notify cannot be sealed** the connection ends, and the transport is never
closed. -/
theorem not_closesFlushed_of_refused
    (hpre : CallRun (⟨tr₀, [], []⟩ : Recorded τ) conn gen alg prov config pre c)
    (hphase : c.core.handshake = .connected) (hpost : Machine.Run TlsConn.call c (t :: post) c')
    (ht : t.input = .close .graceful)
    (hfuel : 1 ≤ c.core.serverConfig.limits.maxProgressStepsPerCall)
    (hrefused : ¬ (c.core.writeEpoch.seq.next.isSome ∧ c.core.hasOpRoom)) :
    ¬ ClosesFlushed prov ((pre ++ t :: post).flatMap CallStep.log) c'.tr := by
  intro hlaw
  have hopen : c.core.closeState = .open :=
    (Core.CoreRun.invariant hpre.core).isOpen (by rw [hphase]; rfl) (by rw [hphase]; exact nofun)
  obtain ⟨hsource, -, -⟩ := hpost.uncons
  obtain ⟨c₁, acts, evs, hreact, hend⟩ := TlsConn.react_refused hphase hopen hrefused
  have hrounds := TlsConn.callRounds_close hfuel hreact
  rw [← ht, ← hsource] at hrounds
  -- no round from the close on closes: the first does not, and behind it the core has ended
  have hnone : ∀ r ∈ (t :: post).flatMap CallStep.rounds, r.closes = false := by
    have hsplit : (t :: post).flatMap CallStep.rounds = t.source.callRounds t.input ++
      post.flatMap CallStep.rounds := List.flatMap_cons
    rw [hrounds, List.cons_append] at hsplit
    intro r hr
    rw [hsplit] at hr
    rcases List.mem_cons.mp hr with rfl | hr
    · simp [Round.closes, State.closesTransport, hsource, hphase, hopen]
    · have hterm := source_behind hpost hsplit (I := fun s ↦ s.handshake.isTerminal = true)
        (fun u hu hs ↦ by rw [(Core.target_of_terminal hu hs).1]; exact hs) hend r hr
      rw [Round.closes, hterm]
      rfl
  have hempty := (closesEmpty_behind (hpre.keepsOpen (by rw [hphase]; rfl)) (t :: post)).mp
    (hlaw.closesEmpty (hpre.append hpost))
  rw [List.countP_eq_zero.mpr (by simpa using hnone)] at hempty
  cases hempty.1

/-- **A graceful close flushes before it closes exactly when** the close_notify can be sealed and
written, the transport takes what is queued and the close_notify within the call, and nothing behind
the call closes again.

Where it cannot be sealed and written the law fails, unless there is one round a call and the
application hands in what the provider sealed. -/
theorem gracefulFlush_iff (hprov : SealsSucceed prov)
    (hpre : CallRun (⟨tr₀, [], []⟩ : Recorded τ) conn gen alg prov config pre c)
    (hphase : c.core.handshake = .connected) (hpost : Machine.Run TlsConn.call c (t :: post) c')
    (ht : t.input = .close .graceful) :
    (c.CanSeal → ∃ arena' ct, prov.submit c.rt.arena ⟨c.core.nextOpId⟩ (closeNotifyOp c.core) =
        .ok (arena', .aeadSealed ct) ∧
      (ClosesFlushed prov ((pre ++ t :: post).flatMap CallStep.log) c'.tr ↔
        TakesAll c.tr.tr (c.rt.outbound ++ sealedRecord ct) ∧
          ∀ r ∈ post.flatMap CallStep.rounds, r.closes = false)) ∧
    (¬ c.CanSeal → (c.core.serverConfig.limits.maxProgressStepsPerCall ≤ 1 →
        ∀ u ∈ pre ++ t :: post, u.input.sealed? = none) →
      ¬ ClosesFlushed prov ((pre ++ t :: post).flatMap CallStep.log) c'.tr) := by
  refine ⟨fun hseal ↦ ?_, fun hseal hcalls ↦ ?_⟩
  · obtain ⟨arena', ct, hsub⟩ := hprov c.rt.arena ⟨c.core.nextOpId⟩ (Core.writeMeta c.core)
      (Record13.recordAAD 19) [1, 0, Core.ContentType.alert.toByte]
    exact ⟨arena', ct, hsub, closesFlushed_of_canSeal hprov hpre hphase hpost ht hseal hsub⟩
  · by_cases hfuel : c.core.serverConfig.limits.maxProgressStepsPerCall ≤ 1
    · refine not_closesFlushed_of_oneRound (hpre.append hpost) ?_ (hcalls hfuel)
      rw [config_of_calls hpost]
      exact hfuel
    · refine not_closesFlushed_of_refused hpre hphase hpost ht (by omega) fun h ↦ ?_
      exact hseal ⟨by omega, h.1, h.2⟩

end Flush

/-! ## One close -/

attribute [local instance] Session.primitives

/-- The fake provider seals everything. -/
theorem sealsSucceed_fakeProvider : SealsSucceed Crypto.fakeProvider :=
  fun arena _ _ _ pt ↦ ⟨arena, pt, rfl⟩

/-- The graceful close, as a step of the machine of calls. -/
def closeStep {τ : Type} [Transport τ] (c : TlsConn τ) : CallStep τ :=
  ⟨c, .close .graceful, (c.perform (.close .graceful)).2, (c.perform (.close .graceful)).1⟩

theorem closeStep_run {τ : Type} [Transport τ] (c : TlsConn τ) (calls : List TlsConn.Call) :
    Machine.Run TlsConn.call c (closeStep c :: Machine.exec TlsConn.call (closeStep c).target calls)
      (Machine.execState TlsConn.call (closeStep c).target calls) :=
  .cons (t := closeStep c) rfl (Machine.run_exec _ calls)

/-- A fresh server over a recorded transport, with outcomes for its sends. -/
def recordedServer (schedule : List SendOutcome) : TlsConn (Recorded FakeTransport) :=
  .serverWith ⟨Session.transport schedule, [], []⟩ Core.Session.conn ⟨0⟩ .sha256
    Crypto.fakeProvider Session.config

/-- The calls that connect the session. -/
def connecting (schedule : List SendOutcome) : List (CallStep (Recorded FakeTransport)) :=
  Machine.exec TlsConn.call (recordedServer schedule) Session.connectCalls

/-- The connected session. -/
def connected (schedule : List SendOutcome) : TlsConn (Recorded FakeTransport) :=
  Machine.execState TlsConn.call (recordedServer schedule) Session.connectCalls

theorem gracefulFlush_iff_session :
    ∃ arena' ct, Crypto.fakeProvider.submit (connected []).rt.arena ⟨(connected []).core.nextOpId⟩
        (closeNotifyOp (connected []).core) = .ok (arena', .aeadSealed ct) ∧
      (ClosesFlushed Crypto.fakeProvider ((connecting [] ++ closeStep (connected []) ::
          Machine.exec TlsConn.call (closeStep (connected [])).target [.flush]).flatMap
            CallStep.log)
          (Machine.execState TlsConn.call (closeStep (connected [])).target [.flush]).tr ↔
        TakesAll (connected []).tr.tr ((connected []).rt.outbound ++ sealedRecord ct) ∧
          ∀ r ∈ (Machine.exec TlsConn.call (closeStep (connected [])).target [.flush]).flatMap
            CallStep.rounds, r.closes = false) :=
  (gracefulFlush_iff (c := connected []) sealsSucceed_fakeProvider
    (Machine.run_exec (recordedServer []) Session.connectCalls) (by decide +kernel)
    (closeStep_run (connected []) [.flush]) rfl).1
    ⟨by decide +kernel, by decide +kernel, by decide +kernel⟩

/-- A transport that takes the server flight and then nothing. -/
def blocked : List SendOutcome := .replicate 5 (.sent 10000) ++ [.wouldBlock]

/-- The close_notify is still queued when the transport is closed. -/
theorem not_closesFlushed :
    ¬ ((connected blocked).core.handshake = .connected →
      ClosesFlushed Crypto.fakeProvider ((connecting blocked ++
        [closeStep (connected blocked)]).flatMap CallStep.log)
          (closeStep (connected blocked)).target.tr) := by
  have hqueued : (connected blocked).core.handshake = .connected ∧
      ∃ e ∈ (connecting blocked ++ [closeStep (connected blocked)]).flatMap CallStep.log,
        e.action.isClose = true ∧ e.rt.outbound ≠ [] := by
    decide +kernel
  intro h
  obtain ⟨hphase, e, he, hclose, hqueue⟩ := hqueued
  exact hqueue ((h hphase).empty e he hclose)

end Kroopt.Conn
