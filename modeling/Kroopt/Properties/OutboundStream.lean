import Kroopt.Conn.Account

/-!
# The stream to the client

Everything an action queues goes through one queue, and the transport takes prefixes of it, of any
length and at any time.  The ledger of the transport, what it has taken and what is still queued, is
an account: nothing but an execution adds to it, and an execution adds what it queues.

* `outboundStream_of_run`: along every run of calls the ledger is what the executed actions queued,
  in their order, over every transport that reports its sends truthfully (`LogsSends`).
* `FakeTransport.logsSends`: the scripted transport of the tests is one.
-/

set_option autoImplicit false

namespace Kroopt.Conn

open Kroopt.Core (State InputEvent OutputAction ConnId ConfigGeneration HashAlgorithm
  ValidatedServerConfig)
open Kroopt.Crypto (CryptoProvider Hacl)

variable {τ : Type} [Transport τ]

section Run

variable [Hacl] {written : τ → Bytes}

/-- **The stream to the client.**  Along every run of calls, what the transport has taken followed
by what is still queued is what the executed actions queued, in the order of their execution: no
byte is lost, repeated or moved, however the transport splits, blocks or fails. -/
theorem outboundStream_of_run (hlog : LogsSends written) {tr₀ : τ} {conn : ConnId}
    {gen : ConfigGeneration} {alg : HashAlgorithm} {prov : CryptoProvider}
    {config : ValidatedServerConfig} {tr : List (CallStep τ)} {c : TlsConn τ}
    (h : CallRun tr₀ conn gen alg prov config tr c) :
    written c.tr ++ c.rt.outbound =
      written tr₀ ++ tr.flatMap fun t ↦ (CallStep.log t).flatMap Executed.queued := by
  have hledger := (hlog.account.of_calls h).1
  rw [List.flatMap_assoc] at hledger
  simpa [Account.of, LogsSends.account, TlsConn.serverWith] using hledger

end Run

/-! ## The scripted transport -/

/-- The scripted transport keeps its word. -/
theorem FakeTransport.logsSends : LogsSends fun tr : FakeTransport ↦ tr.outbound.flatten where
  sent tr fd b n tr' h := by
    change FakeTransport.send tr fd b = _ at h
    rw [FakeTransport.send] at h
    split at h
    · exact absurd (Prod.mk.inj h).1 (by simp)
    · exact absurd (Prod.mk.inj h).1 (by simp)
    · obtain ⟨hn, htr⟩ := Prod.mk.inj h
      rw [← htr, ← SendOutcome.sent.inj hn]
      simp
    · obtain ⟨hn, htr⟩ := Prod.mk.inj h
      rw [← htr, ← SendOutcome.sent.inj hn]
      simp
  blocked tr fd b tr' h := by
    change FakeTransport.send tr fd b = _ at h
    rw [FakeTransport.send] at h
    split at h
    · rw [← (Prod.mk.inj h).2]
    all_goals exact absurd (Prod.mk.inj h).1 (by simp)
  failed tr fd b e tr' h := by
    change FakeTransport.send tr fd b = _ at h
    rw [FakeTransport.send] at h
    split at h
    · exact absurd (Prod.mk.inj h).1 (by simp)
    · rw [← (Prod.mk.inj h).2]
    all_goals exact absurd (Prod.mk.inj h).1 (by simp)
  recv tr fd n := by
    change (FakeTransport.recv tr fd n).2.outbound.flatten = _
    rw [FakeTransport.recv]
    split
    · rfl
    · split
      · split <;> rfl
      · rfl
  enableWrite tr fd := rfl
  disableWrite tr fd := rfl
  closeConnection tr fd := rfl

/-- The first send takes three bytes and the second none: the session of the tests still hands over
what its handshake queues. -/
theorem outboundStream_blocked :
    letI := Session.primitives
    (Session.reached [.sent 3, .wouldBlock] Session.connectCalls).tr.outbound.flatten ++
        (Session.reached [.sent 3, .wouldBlock] Session.connectCalls).rt.outbound =
      (Session.transport [.sent 3, .wouldBlock]).outbound.flatten ++
        (Session.steps [.sent 3, .wouldBlock] Session.connectCalls).flatMap
          fun t ↦ (CallStep.log t).flatMap Executed.queued :=
  let _ := Session.primitives
  outboundStream_of_run FakeTransport.logsSends
    (Session.callRun [.sent 3, .wouldBlock] Session.connectCalls)

end Kroopt.Conn
