import Kroopt.Conn.Drive

/-!
# What executions add up to

Many things that are said about a connection are sums over what it has executed: the bytes it has
queued, the times it has closed the transport.  Such a sum is a total that can be read off the
outbound queue and the transport, together with what each execution adds to it.

## Main definitions

* `Account τ α` is a total with its entries.  Draining leaves the total, and executing an action
  adds its entry; a value of this type carries both proofs.
* `Account.Along x log`: wherever the log executes something, the total is `x` and the entries of
  what was executed before.
* `LogsSends written` is what a transport promises: `written` grows by the prefix that a send
  reports, and by nothing else.  `LogsSends.account` is the ledger of such a transport: what it has
  taken and what is still queued.

## Main results

* `Account.of_calls`: along every run of calls the total grows by the entries of the executions.
* `Account.along_calls`: the same in the middle of a call, before each execution.

The two have one proof: a total is carried through the actions of a round, the rounds of a call and
the calls of a run.
-/

set_option autoImplicit false

namespace Kroopt.Conn

open Kroopt.Core (State InputEvent OutputAction)
open Kroopt.Crypto (CryptoProvider Hacl)

section Account

variable [Hacl] {τ : Type} [Transport τ] {α : Type}

/-- **An account** of what is executed. -/
structure Account (τ : Type) [Transport τ] (α : Type) where
  /-- The total, for a queue and a transport. -/
  total : Bytes → τ → List α
  /-- What an execution adds. -/
  entry : Executed τ → List α
  drain : ∀ rt tr, total (drainOutbound rt tr).1.outbound (drainOutbound rt tr).2 =
    total rt.outbound tr
  exec : ∀ prov rt tr a,
    total (execAction prov rt tr a).1.outbound (execAction prov rt tr a).2.1 =
      total rt.outbound tr ++ entry ⟨rt, tr, a⟩

namespace Account

variable (A : Account τ α)

/-- The total of a connection. -/
def of (c : TlsConn τ) : List α := A.total c.rt.outbound c.tr

/-- Before each execution of the log, the total is `x` with the entries so far. -/
def Along : List α → List (Executed τ) → Prop
  | _, [] => True
  | x, e :: log => A.total e.rt.outbound e.tr = x ∧ Along (x ++ A.entry e) log

variable {A}

theorem Along.append {x : List α} {log log' : List (Executed τ)} (h : A.Along x log)
    (h' : A.Along (x ++ log.flatMap A.entry) log') : A.Along x (log ++ log') := by
  induction log generalizing x with
  | nil => simpa using h'
  | cons e log ih =>
    obtain ⟨htotal, hrest⟩ := h
    refine ⟨htotal, ih hrest ?_⟩
    rw [List.append_assoc]
    exact h'

/-- The total before an execution in the middle of the log. -/
theorem Along.split {x : List α} {log log' : List (Executed τ)} {e : Executed τ}
    (h : A.Along x (log ++ e :: log')) :
    A.total e.rt.outbound e.tr = x ++ log.flatMap A.entry := by
  induction log generalizing x with
  | nil => exact h.1.trans (List.append_nil x).symm
  | cons e' log ih =>
    rw [ih h.2, List.flatMap_cons, List.append_assoc]

variable (A)

@[simp] theorem total_traceAction (rt : RuntimeState) (tr : τ) (a : OutputAction) :
    A.total (traceAction rt a).outbound tr = A.total rt.outbound tr := by
  rw [traceAction]
  split <;> rfl

/-- **The actions of a round.** -/
theorem of_execActions (prov : CryptoProvider) (rt : RuntimeState) (tr : τ)
    (acts : List OutputAction) :
    A.total (execActions prov rt tr acts).1.outbound (execActions prov rt tr acts).2.1 =
        A.total rt.outbound tr ++ (execLog prov rt tr acts).flatMap A.entry ∧
      A.Along (A.total rt.outbound tr) (execLog prov rt tr acts) := by
  induction acts generalizing rt tr with
  | nil => exact ⟨(List.append_nil _).symm, trivial⟩
  | cons a acts ih =>
    have hexec := A.exec prov rt tr a
    obtain ⟨htotal, halong⟩ :=
      ih (traceAction (execAction prov rt tr a).1 a) (execAction prov rt tr a).2.1
    rw [total_traceAction, hexec] at htotal halong
    rw [execActions_cons, execLog, List.flatMap_cons, ← List.append_assoc]
    exact ⟨htotal, rfl, halong⟩

/-- **A round.** -/
theorem of_react {r : Round τ} (h : Machine.Steps TlsConn.react r) :
    A.of r.target = A.of r.source ++ r.log.flatMap A.entry ∧ A.Along (A.of r.source) r.log := by
  obtain ⟨core', acts, hstep⟩ := Core.step_total r.source.core r.input
  have hreact := (TlsConn.react_eq hstep).symm.trans h
  obtain ⟨htarget, houtput⟩ := Prod.mk.inj (Except.ok.inj hreact)
  rw [Round.log, ← houtput, ← htarget]
  exact A.of_execActions _ _ _ acts

/-- **The rounds of a drive.** -/
theorem of_rounds {c c' : TlsConn τ} {rs : List (Round τ)}
    (h : Machine.Run TlsConn.react c rs c') :
    A.of c' = A.of c ++ (rs.flatMap Round.log).flatMap A.entry ∧
      A.Along (A.of c) (rs.flatMap Round.log) := by
  induction h with
  | nil => exact ⟨(List.append_nil _).symm, trivial⟩
  | cons ht _ ih =>
    obtain ⟨htotal, halong⟩ := A.of_react ht
    rw [htotal] at ih
    rw [List.flatMap_cons, List.flatMap_append, ← List.append_assoc]
    exact ⟨ih.1, halong.append ih.2⟩

theorem of_prepares {c c₀ : TlsConn τ} (h : c.Prepares c₀) : A.of c₀ = A.of c := by
  cases h <;> rfl

theorem of_settles {c c' : TlsConn τ} (h : c.Settles c') : A.of c' = A.of c := by
  cases h with
  | same | delivered => rfl
  | drained => exact A.drain c.rt c.tr

/-- **A call.** -/
theorem of_call {t : CallStep τ} (h : Machine.Steps TlsConn.call t) :
    A.of t.target = A.of t.source ++ t.log.flatMap A.entry ∧ A.Along (A.of t.source) t.log := by
  have htarget : (t.source.perform t.input).1 = t.target := (Prod.mk.inj (Except.ok.inj h)).1
  obtain ⟨c₀, c₁, hprep, hrun, hsettles⟩ := t.source.callRounds_run t.input
  have hrounds := A.of_rounds hrun
  rw [htarget] at hsettles
  rw [A.of_prepares hprep] at hrounds
  rw [A.of_settles hsettles]
  exact hrounds

/-- **A run of calls.** -/
theorem of_calls {c c' : TlsConn τ} {tr : List (CallStep τ)}
    (h : Machine.Run TlsConn.call c tr c') :
    A.of c' = A.of c ++ (tr.flatMap CallStep.log).flatMap A.entry ∧
      A.Along (A.of c) (tr.flatMap CallStep.log) := by
  induction h with
  | nil => exact ⟨(List.append_nil _).symm, trivial⟩
  | cons ht _ ih =>
    obtain ⟨htotal, halong⟩ := A.of_call ht
    rw [htotal] at ih
    rw [List.flatMap_cons, List.flatMap_append, ← List.append_assoc]
    exact ⟨ih.1, halong.append ih.2⟩

end Account

end Account

/-! ## The ledger -/

section Ledger

variable {τ : Type} [Transport τ]

/-- **A transport that keeps its word**: it has written the prefixes that its sends reported. -/
structure LogsSends (written : τ → Bytes) : Prop where
  sent : ∀ tr fd b n tr', Transport.send tr fd b = (.sent n, tr') →
    written tr' = written tr ++ b.take n
  blocked : ∀ tr fd b tr', Transport.send tr fd b = (.wouldBlock, tr') → written tr' = written tr
  failed : ∀ tr fd b e tr', Transport.send tr fd b = (.error e, tr') → written tr' = written tr
  recv : ∀ tr fd n, written (Transport.recv tr fd n).2 = written tr
  enableWrite : ∀ tr fd, written (Transport.enableWrite tr fd) = written tr
  disableWrite : ∀ tr fd, written (Transport.disableWrite tr fd) = written tr
  closeConnection : ∀ tr fd, written (Transport.closeConnection tr fd) = written tr

variable {written : τ → Bytes}

/-- **Draining** moves bytes from the queue to the transport. -/
theorem drainOutbound_ledger (hlog : LogsSends written) (rt : RuntimeState) (tr : τ) :
    written (drainOutbound rt tr).2 ++ (drainOutbound rt tr).1.outbound =
      written tr ++ rt.outbound := by
  suffices h : ∀ fuel (rt : RuntimeState) (tr : τ), written (drainOutboundGo fuel rt tr).2 ++
      (drainOutboundGo fuel rt tr).1.outbound = written tr ++ rt.outbound from h _ rt tr
  intro fuel
  induction fuel with
  | zero => exact fun _ _ ↦ rfl
  | succ fuel ih =>
    intro rt tr
    have htaken : ∀ n tr', Transport.send tr (Transport.fd tr) rt.outbound = (.sent n, tr') →
        written tr' ++ rt.outbound.extract n rt.outbound.length = written tr ++ rt.outbound := by
      intro n tr' hsend
      rw [hlog.sent _ _ _ _ _ hsend, extract_to_end, List.append_assoc, List.take_append_drop]
    rw [drainOutboundGo]
    split
    · rfl
    · split
      · rename_i n tr' hsend
        split
        · exact htaken n tr' hsend
        · exact (ih _ tr').trans (htaken n tr' hsend)
      · rename_i tr' hsend
        rw [hlog.blocked _ _ _ _ hsend]
      · rename_i e tr' hsend
        rw [hlog.failed _ _ _ _ _ hsend]

theorem enqueue_ledger (hlog : LogsSends written) (rt : RuntimeState) (tr : τ) (wire : Bytes) :
    written (enqueue rt tr wire).2 ++ (enqueue rt tr wire).1.outbound =
      written tr ++ rt.outbound ++ wire := by
  rw [enqueue, drainOutbound_ledger hlog, List.append_assoc]

variable [Hacl]

/-- What an execution queues. -/
def Executed.queued (e : Executed τ) : Bytes := appended e.rt.arena e.action

/-- **An action** queues its bytes behind what is there. -/
theorem execAction_ledger (hlog : LogsSends written) (prov : CryptoProvider) (rt : RuntimeState)
    (tr : τ) (a : OutputAction) :
    written (execAction prov rt tr a).2.1 ++ (execAction prov rt tr a).1.outbound =
      written tr ++ rt.outbound ++ appended rt.arena a := by
  have hkept : ∀ (rt' : RuntimeState) (tr' : τ), rt'.outbound = rt.outbound →
      written tr' = written tr → written tr' ++ rt'.outbound = written tr ++ rt.outbound ++ [] := by
    intro rt' tr' hout htr
    rw [hout, htr, List.append_nil]
  cases a with
  | writeTransport conn b => exact enqueue_ledger hlog rt tr _
  | writeHandshake conn epoch seq msg =>
    rw [execAction, appended]
    cases handshakeWire rt.arena epoch seq (Core.serializeHandshakeOut msg) with
    | ok wire => exact enqueue_ledger hlog rt tr wire
    | error e => exact hkept _ _ rfl rfl
  | writeCertificate conn epoch seq der =>
    rw [execAction, appended]
    cases handshakeWire rt.arena epoch seq (Core.serializeServerCertificate der) with
    | ok wire => exact enqueue_ledger hlog rt tr wire
    | error e => exact hkept _ _ rfl rfl
  | writeAlert conn epoch seq al =>
    rw [execAction, appended]
    cases alertWire rt.arena epoch seq al with
    | none => exact hkept _ _ rfl rfl
    | some wire =>
      dsimp only
      split
      · exact enqueue_ledger hlog _ tr wire
      · exact enqueue_ledger hlog _ tr wire
  | readTransport conn =>
    have hrecv := hlog.recv tr (Transport.fd tr) maxReadChunk
    rw [execAction]
    split <;> rename_i heq <;> rw [heq] at hrecv <;> exact hkept _ _ rfl hrecv
  | callCrypto conn op req =>
    rw [execAction]
    split
    · split <;> exact hkept _ _ rfl rfl
    · exact hkept _ _ rfl rfl
  | enableWriteInterest conn => exact hkept _ _ rfl (hlog.enableWrite _ _)
  | disableWriteInterest conn => exact hkept _ _ rfl (hlog.disableWrite _ _)
  | closeTransport conn mode => exact hkept _ _ rfl (hlog.closeConnection _ _)
  | emitPlaintext | acceptPlaintextBytes | reportHandshakeComplete | reportError | failWithAlert
  | releaseSecret => exact hkept _ _ rfl rfl

/-- **The ledger** of a transport that keeps its word: what it has taken, and what is still
queued. -/
def LogsSends.account (hlog : LogsSends written) : Account τ UInt8 where
  total queue tr := written tr ++ queue
  entry := Executed.queued
  drain := drainOutbound_ledger hlog
  exec := execAction_ledger hlog

end Ledger

end Kroopt.Conn
