import Kroopt.Conn.Account

/-!
# Recording a transport

What a connection does to its transport is seen by the transport alone.  `Recorded τ` is a transport
`τ` that keeps a record: the bytes it has taken, and what it had taken each time it was told to
close.  Nothing that is executed can tell the difference, so whatever is said about a connection
over `Recorded τ` is about the connection over `τ`.

## Main definitions

* `Recorded τ`, with its instance of `Transport`.
* `TransportHom φ`: `φ` forgets a part of a transport that none of its functions depends on.
* `Executed.said`: what an execution puts behind the queue, read off the queue and the transport
  that `execAction` returns.

## Main results

* `TransportHom.perform`: a call does the same over both transports, and `TransportHom.lift` carries
  a run over the second to one over the first.  `Recorded.forgets` is the instance.
* `CallRun.recorded`: every run of calls from a fresh connection can be recorded.
* `Recorded.logsSends`: the record is kept as a transport that keeps its word would.
* `Executed.said_eq`: what an execution says is what `appended` computes.
-/

set_option autoImplicit false

namespace Kroopt.Conn

open Kroopt.Core (State InputEvent OutputAction)
open Kroopt.Crypto (CryptoProvider Hacl)

/-! ## The record -/

/-- A transport with a record of what it took, and of what it had taken each time it was closed. -/
structure Recorded (τ : Type) where
  tr : τ
  taken : Bytes := []
  closes : List Bytes := []
  deriving DecidableEq

namespace Recorded

variable {τ : Type} [Transport τ]

/-- What a send leaves, by its outcome. -/
def sentAs (r : Recorded τ) (b : Bytes) (tr' : τ) : SendOutcome → Recorded τ
  | .sent n => { r with tr := tr', taken := r.taken ++ b.take n }
  | _ => { r with tr := tr' }

instance : Transport (Recorded τ) where
  fd r := Transport.fd r.tr
  recv r fd n := ((Transport.recv r.tr fd n).1, { r with tr := (Transport.recv r.tr fd n).2 })
  send r fd b := ((Transport.send r.tr fd b).1,
    r.sentAs b (Transport.send r.tr fd b).2 (Transport.send r.tr fd b).1)
  enableWrite r fd := { r with tr := Transport.enableWrite r.tr fd }
  disableWrite r fd := { r with tr := Transport.disableWrite r.tr fd }
  closeConnection r fd :=
    { r with tr := Transport.closeConnection r.tr fd, closes := r.closes ++ [r.taken] }

/-- The record is that of a transport that keeps its word. -/
theorem logsSends : LogsSends (Recorded.taken (τ := τ)) where
  sent r fd b n r' h := by
    obtain ⟨hout, hr⟩ := Prod.mk.inj h
    rw [← hr, hout]
    rfl
  blocked r fd b r' h := by
    obtain ⟨hout, hr⟩ := Prod.mk.inj h
    rw [← hr, hout]
    rfl
  failed r fd b e r' h := by
    obtain ⟨hout, hr⟩ := Prod.mk.inj h
    rw [← hr, hout]
    rfl
  recv _ _ _ := rfl
  enableWrite _ _ := rfl
  disableWrite _ _ := rfl
  closeConnection _ _ := rfl

end Recorded

/-! ## Forgetting a part of a transport -/

section Hom

variable {σ τ : Type} [Transport σ] [Transport τ]

/-- **A map that forgets** a part of a transport: every function of the transport passes through
it. -/
structure TransportHom (φ : σ → τ) : Prop where
  fd : ∀ tr, Transport.fd (φ tr) = Transport.fd tr
  recv : ∀ tr fd n, Transport.recv (φ tr) fd n =
    ((Transport.recv tr fd n).1, φ (Transport.recv tr fd n).2)
  send : ∀ tr fd b, Transport.send (φ tr) fd b =
    ((Transport.send tr fd b).1, φ (Transport.send tr fd b).2)
  enableWrite : ∀ tr fd, Transport.enableWrite (φ tr) fd = φ (Transport.enableWrite tr fd)
  disableWrite : ∀ tr fd, Transport.disableWrite (φ tr) fd = φ (Transport.disableWrite tr fd)
  closeConnection : ∀ tr fd,
    Transport.closeConnection (φ tr) fd = φ (Transport.closeConnection tr fd)

/-- The record can be forgotten. -/
theorem Recorded.forgets : TransportHom (Recorded.tr (τ := τ)) where
  fd _ := rfl
  recv _ _ _ := rfl
  send r fd b := by
    refine Prod.ext rfl ?_
    change _ = (r.sentAs b (Transport.send r.tr fd b).2 (Transport.send r.tr fd b).1).tr
    rw [Recorded.sentAs.eq_def]
    split <;> rfl
  enableWrite _ _ := rfl
  disableWrite _ _ := rfl
  closeConnection _ _ := rfl

/-- The connection over the other transport. -/
def TlsConn.mapTransport (φ : σ → τ) (c : TlsConn σ) : TlsConn τ :=
  { core := c.core, rt := c.rt, tr := φ c.tr, prov := c.prov }

/-- The call over the other transport. -/
def CallStep.mapTransport (φ : σ → τ) (t : CallStep σ) : CallStep τ :=
  ⟨t.source.mapTransport φ, t.input, t.output, t.target.mapTransport φ⟩

namespace TransportHom

variable {φ : σ → τ}

theorem drain (h : TransportHom φ) (rt : RuntimeState) (tr : σ) :
    drainOutbound rt (φ tr) = ((drainOutbound rt tr).1, φ (drainOutbound rt tr).2) := by
  suffices hgo : ∀ fuel (rt : RuntimeState) (tr : σ), drainOutboundGo fuel rt (φ tr) =
      ((drainOutboundGo fuel rt tr).1, φ (drainOutboundGo fuel rt tr).2) from hgo _ rt tr
  intro fuel
  induction fuel with
  | zero => exact fun _ _ ↦ rfl
  | succ fuel ih =>
    intro rt tr
    rw [drainOutboundGo, drainOutboundGo, h.fd, h.send]
    split
    · rfl
    · rcases Transport.send tr (Transport.fd tr) rt.outbound with ⟨out, tr'⟩
      cases out with
      | sent n =>
        dsimp only
        split
        · rfl
        · exact ih _ _
      | wouldBlock | error => rfl

variable [Hacl]

/-- **An action** does the same over both transports. -/
theorem exec (h : TransportHom φ) (prov : CryptoProvider) (rt : RuntimeState) (tr : σ)
    (a : OutputAction) :
    execAction prov rt (φ tr) a = ((execAction prov rt tr a).1, φ (execAction prov rt tr a).2.1,
      (execAction prov rt tr a).2.2) := by
  have hqueue : ∀ (rt : RuntimeState) (wire : Bytes),
      enqueue rt (φ tr) wire = ((enqueue rt tr wire).1, φ (enqueue rt tr wire).2) :=
    fun rt wire ↦ h.drain _ tr
  cases a with
  | readTransport conn =>
    rw [execAction, execAction, h.fd, h.recv]
    rcases Transport.recv tr (Transport.fd tr) maxReadChunk with ⟨out, tr'⟩
    cases out <;> rfl
  | writeTransport conn b => rw [execAction, execAction, hqueue]
  | writeHandshake conn epoch seq msg =>
    rw [execAction, execAction]
    dsimp only
    cases handshakeWire rt.arena epoch seq (Core.serializeHandshakeOut msg) with
    | ok wire => dsimp only; rw [hqueue]
    | error e => rfl
  | writeCertificate conn epoch seq der =>
    rw [execAction, execAction]
    dsimp only
    cases handshakeWire rt.arena epoch seq (Core.serializeServerCertificate der) with
    | ok wire => dsimp only; rw [hqueue]
    | error e => rfl
  | writeAlert conn epoch seq al =>
    rw [execAction, execAction]
    cases alertWire rt.arena epoch seq al with
    | some wire => dsimp only; rw [hqueue]
    | none => rfl
  | callCrypto conn op req =>
    rw [execAction, execAction]
    split
    · split <;> rfl
    · rfl
  | enableWriteInterest conn => rw [execAction, execAction, h.fd, h.enableWrite]
  | disableWriteInterest conn => rw [execAction, execAction, h.fd, h.disableWrite]
  | closeTransport conn mode => rw [execAction, execAction, h.fd, h.closeConnection]
  | emitPlaintext | acceptPlaintextBytes | reportHandshakeComplete | reportError | failWithAlert
  | releaseSecret => rfl

theorem execActions (h : TransportHom φ) (prov : CryptoProvider) (rt : RuntimeState) (tr : σ)
    (acts : List OutputAction) :
    execActions prov rt (φ tr) acts = ((execActions prov rt tr acts).1,
      φ (execActions prov rt tr acts).2.1, (execActions prov rt tr acts).2.2) := by
  induction acts generalizing rt tr with
  | nil => rfl
  | cons a acts ih => rw [execActions_cons, execActions_cons, h.exec, ih]

/-- **A drive.** -/
theorem driveWith (h : TransportHom φ) (c : TlsConn σ) (fuel : Nat) (evs : List InputEvent) :
    (c.mapTransport φ).driveWith fuel evs = (c.driveWith fuel evs).mapTransport φ := by
  induction fuel generalizing c evs with
  | zero =>
    rw [TlsConn.driveWith, TlsConn.driveWith, driveEvents, driveEvents]
  | succ fuel ih =>
    cases evs with
    | nil => simp [TlsConn.driveWith, driveEvents, TlsConn.mapTransport]
    | cons ev rest =>
      obtain ⟨core', acts, hstep⟩ := Core.step_total c.core ev
      have hrest := ih { c with
        core := core'
        rt := { (Conn.execActions c.prov c.rt c.tr acts).1 with
          metrics := observeMetrics (Conn.execActions c.prov c.rt c.tr acts).1.metrics core' acts }
        tr := (Conn.execActions c.prov c.rt c.tr acts).2.1 }
        ((Conn.execActions c.prov c.rt c.tr acts).2.2 ++ rest)
      rw [TlsConn.driveWith, TlsConn.driveWith] at hrest ⊢
      rw [driveEvents, driveEvents, hstep, show (c.mapTransport φ).core = c.core from rfl, hstep]
      dsimp only [TlsConn.mapTransport] at hrest ⊢
      rw [h.execActions]
      exact hrest

theorem drive (h : TransportHom φ) (c : TlsConn σ) (ev : InputEvent) :
    (c.mapTransport φ).drive ev = (c.drive ev).mapTransport φ :=
  h.driveWith c _ [ev]

omit [Transport σ] [Transport τ] [Hacl] in
theorem deliver_mapTransport (φ : σ → τ) (c : TlsConn σ) :
    (c.mapTransport φ).deliver = c.deliver.map fun r ↦ (r.1.mapTransport φ, r.2) := by
  rw [TlsConn.deliver, TlsConn.deliver, show (c.mapTransport φ).rt = c.rt from rfl]
  split <;> rfl

omit [Transport σ] [Transport τ] [Hacl] in
theorem readEnded_mapTransport (φ : σ → τ) (c : TlsConn σ) :
    (c.mapTransport φ).readEnded = (c.readEnded.1.mapTransport φ, c.readEnded.2) := by
  rw [TlsConn.readEnded, TlsConn.readEnded, show (c.mapTransport φ).rt = c.rt from rfl]
  split <;> rfl

omit [Transport σ] [Transport τ] [Hacl] in
theorem writeEnded_mapTransport (φ : σ → τ) (c : TlsConn σ) :
    (c.mapTransport φ).writeEnded = (c.writeEnded.1.mapTransport φ, c.writeEnded.2) := by
  rw [TlsConn.writeEnded, TlsConn.writeEnded, show (c.mapTransport φ).rt = c.rt from rfl]
  split <;> rfl

theorem recv_mapTransport (h : TransportHom φ) (c : TlsConn σ) :
    (c.mapTransport φ).recv = (c.recv.1.mapTransport φ, c.recv.2) := by
  rw [TlsConn.recv, TlsConn.recv, h.drive]
  dsimp only
  rw [show (c.mapTransport φ).core = c.core from rfl]
  generalize c.drive (.appRecvRequested c.core.connId) = c₁
  rw [deliver_mapTransport]
  cases c₁.deliver with
  | some r => rfl
  | none =>
    dsimp only [Option.map_none]
    rw [show (c₁.mapTransport φ).core = c₁.core from rfl, readEnded_mapTransport, h.drive]
    split
    · rfl
    · generalize c₁.drive (.transportReadable c₁.core.connId) = c₂
      rw [show (c₂.mapTransport φ).core = c₂.core from rfl, h.drive]
      generalize c₂.drive (.appRecvRequested c₂.core.connId) = c₃
      rw [deliver_mapTransport]
      cases c₃.deliver with
      | some r => rfl
      | none =>
        dsimp only [Option.map_none]
        rw [show (c₃.mapTransport φ).core = c₃.core from rfl, readEnded_mapTransport]
        split <;> rfl

theorem send_mapTransport (h : TransportHom φ) (c : TlsConn σ) (plaintext : Bytes) :
    (c.mapTransport φ).send plaintext =
      ((c.send plaintext).1.mapTransport φ, (c.send plaintext).2) := by
  have hdrive := h.drive { c with rt := { c.rt with acceptedBytes := 0 } }
    (.appSend c.core.connId (plaintext.extract 0 (c.admitted plaintext)))
  rw [TlsConn.send, TlsConn.send, writeEnded_mapTransport,
    show (c.mapTransport φ).admitted plaintext = c.admitted plaintext from rfl,
    show (c.mapTransport φ).core = c.core from rfl]
  dsimp only [TlsConn.mapTransport] at hdrive ⊢
  split
  · rfl
  · split
    · split <;> rfl
    · rw [hdrive]
      generalize TlsConn.drive { c with rt := { c.rt with acceptedBytes := 0 } } _ = c₁
      dsimp only
      split
      · exact writeEnded_mapTransport φ c₁
      · split <;> rfl

theorem flush_mapTransport (h : TransportHom φ) (c : TlsConn σ) :
    (c.mapTransport φ).flush = (c.flush.1.mapTransport φ, c.flush.2) := by
  rw [TlsConn.flush, TlsConn.flush, h.drive]
  rw [show (c.mapTransport φ).core = c.core from rfl]
  generalize c.drive (.appFlush c.core.connId) = c₁
  dsimp only [TlsConn.mapTransport]
  rw [h.drain]
  dsimp only
  split
  · rfl
  · split <;> rfl

theorem close_mapTransport (h : TransportHom φ) (c : TlsConn σ) (mode : Core.CloseMode) :
    (c.mapTransport φ).close mode = ((c.close mode).1.mapTransport φ, (c.close mode).2) := by
  rw [TlsConn.close, TlsConn.close, h.drive]
  rw [show (c.mapTransport φ).core = c.core from rfl]
  generalize c.drive (.appClose c.core.connId mode) = c₁
  have hiff : ((c₁.mapTransport φ).core.handshake = .closed ∨
      (c₁.mapTransport φ).rt.terminal = true) ↔
        (c₁.core.handshake = .closed ∨ c₁.rt.terminal = true) := Iff.rfl
  by_cases hend : c₁.core.handshake = .closed ∨ c₁.rt.terminal = true
  · rw [if_pos hend, if_pos (hiff.mpr hend)]
  · rw [if_neg hend, if_neg (hiff.not.mpr hend)]

/-- **A call** does the same over both transports. -/
theorem perform (h : TransportHom φ) (c : TlsConn σ) (k : TlsConn.Call) :
    (c.mapTransport φ).perform k = ((c.perform k).1.mapTransport φ, (c.perform k).2) := by
  cases k with
  | recv => rw [TlsConn.perform, TlsConn.perform, h.recv_mapTransport]
  | send plaintext => rw [TlsConn.perform, TlsConn.perform, h.send_mapTransport]
  | flush => rw [TlsConn.perform, TlsConn.perform, h.flush_mapTransport]
  | close mode => rw [TlsConn.perform, TlsConn.perform, h.close_mapTransport]
  | progress ev =>
    rw [TlsConn.perform, TlsConn.perform, TlsConn.progress, TlsConn.progress, h.drive]

/-- **Runs.**  Every run of calls over the transport that forgets is that of a run over the one that
does not: the same calls, with the same answers. -/
theorem lift (h : TransportHom φ) {c : TlsConn σ} {c' : TlsConn τ} {tr : List (CallStep τ)}
    (hrun : Machine.Run TlsConn.call (c.mapTransport φ) tr c') :
    ∃ tr₀ c₀, Machine.Run TlsConn.call c tr₀ c₀ ∧ tr₀.map (CallStep.mapTransport φ) = tr ∧
      c₀.mapTransport φ = c' := by
  induction tr generalizing c with
  | nil =>
    generalize hc : c.mapTransport φ = d at hrun
    cases hrun
    exact ⟨[], c, .nil c, rfl, hc⟩
  | cons t tr ih =>
    obtain ⟨source, k, answer, target⟩ := t
    generalize hc : c.mapTransport φ = d at hrun
    cases hrun with
    | cons ht hrest =>
      have hstep : source.perform k = (target, answer) := Except.ok.inj ht
      subst hc
      rw [h.perform] at hstep
      obtain ⟨rfl, rfl⟩ := Prod.mk.inj hstep
      obtain ⟨tr₀, c₀, hrun₀, rfl, rfl⟩ := ih hrest
      refine ⟨⟨c, k, (c.perform k).2, (c.perform k).1⟩ :: tr₀, c₀, ?_, rfl, rfl⟩
      exact Machine.Run.cons (t := ⟨c, k, (c.perform k).2, (c.perform k).1⟩) rfl hrun₀

end TransportHom

/-- **Every run of calls can be recorded**: it is what a run over the recording transport leaves
when the record is forgotten. -/
theorem CallRun.recorded [Hacl] {tr₀ : τ} {conn : Core.ConnId} {gen : Core.ConfigGeneration}
    {alg : Core.HashAlgorithm} {prov : CryptoProvider} {config : Core.ValidatedServerConfig}
    {tr : List (CallStep τ)} {c : TlsConn τ} (h : CallRun tr₀ conn gen alg prov config tr c) :
    ∃ tr' c', CallRun (⟨tr₀, [], []⟩ : Recorded τ) conn gen alg prov config tr' c' ∧
      tr'.map (CallStep.mapTransport Recorded.tr) = tr ∧ c'.mapTransport Recorded.tr = c :=
  TransportHom.lift Recorded.forgets
    (c := .serverWith ⟨tr₀, [], []⟩ conn gen alg prov config) h

end Hom

/-! ## What an execution says -/

section Said

variable {τ : Type} [Transport τ] [Hacl]

/-- What an execution puts behind the queue: what the transport took and what is queued afterwards,
less what was queued before. -/
def Executed.said (prov : CryptoProvider) (e : Executed τ) : Bytes :=
  let r := execAction prov e.rt (⟨e.tr, [], []⟩ : Recorded τ) e.action
  (r.2.1.taken ++ r.1.outbound).drop e.rt.outbound.length

/-- **What an execution says** is what the action appends to the queue. -/
theorem Executed.said_eq (prov : CryptoProvider) (e : Executed τ) : e.said prov = e.queued := by
  have hledger := execAction_ledger Recorded.logsSends prov e.rt ⟨e.tr, [], []⟩ e.action
  rw [Executed.said, hledger, List.nil_append, List.drop_left]
  rfl

end Said

end Kroopt.Conn
