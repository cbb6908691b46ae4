import Kroopt.Error

/-!
# The transport

The non-blocking byte channel a connection is driven over, as a class of functions, and the
deterministic transport of the source's tests as one instance of it.
-/

set_option autoImplicit false

namespace Kroopt.Conn

/-- A generation-protected descriptor. -/
structure FdKey where
  fd : UInt64
  generation : UInt64
  deriving DecidableEq, Inhabited

/-- Outcome of a receive. -/
inductive RecvOutcome
  | bytes (b : Bytes)
  | wouldBlock
  | eof
  | error (e : TransportError)
  deriving DecidableEq, Inhabited

/-- Outcome of a send; `sent n` accepts a prefix of `n` bytes. -/
inductive SendOutcome
  | sent (n : Nat)
  | wouldBlock
  | error (e : TransportError)
  deriving DecidableEq, Inhabited

/-- The transport a connection needs. -/
class Transport (τ : Type) where
  fd : τ → FdKey
  recv : τ → FdKey → Nat → RecvOutcome × τ
  send : τ → FdKey → Bytes → SendOutcome × τ
  enableWrite : τ → FdKey → τ
  disableWrite : τ → FdKey → τ
  closeConnection : τ → FdKey → τ

/-- A scripted transport: chunks to deliver, outcomes of the sends to come, and a log of what was
written. -/
structure FakeTransport where
  fd : FdKey
  inbound : List Bytes
  outbound : List Bytes := []
  writeSchedule : List SendOutcome := []
  writeInterest : Bool := false
  closed : Bool := false
  emptyReads : Nat := 0
  eofAfter : Option Nat := none
  deriving DecidableEq, Inhabited

namespace FakeTransport

/-- Deliver the next chunk, else report `wouldBlock` or end of stream. -/
def recv (t : FakeTransport) (_ : FdKey) (_max : Nat) : RecvOutcome × FakeTransport :=
  match t.inbound with
  | chunk :: rest => (.bytes chunk, { t with inbound := rest })
  | [] =>
    match t.eofAfter with
    | some n =>
      if t.emptyReads ≥ n then (.eof, t)
      else (.wouldBlock, { t with emptyReads := t.emptyReads + 1 })
    | none => (.wouldBlock, { t with emptyReads := t.emptyReads + 1 })

/-- Send as the schedule says, else accept everything. -/
def send (t : FakeTransport) (_ : FdKey) (b : Bytes) : SendOutcome × FakeTransport :=
  match t.writeSchedule with
  | .wouldBlock :: rest => (.wouldBlock, { t with writeSchedule := rest })
  | .error e :: rest => (.error e, { t with writeSchedule := rest })
  | .sent n :: rest =>
    let k := min n b.length
    (.sent k, { t with writeSchedule := rest, outbound := t.outbound ++ [b.extract 0 k] })
  | [] => (.sent b.length, { t with outbound := t.outbound ++ [b] })

def enableWrite (t : FakeTransport) (_ : FdKey) : FakeTransport := { t with writeInterest := true }

def disableWrite (t : FakeTransport) (_ : FdKey) : FakeTransport :=
  { t with writeInterest := false }

def closeConnection (t : FakeTransport) (_ : FdKey) : FakeTransport := { t with closed := true }

end FakeTransport

instance : Transport FakeTransport where
  fd := FakeTransport.fd
  recv := FakeTransport.recv
  send := FakeTransport.send
  enableWrite := FakeTransport.enableWrite
  disableWrite := FakeTransport.disableWrite
  closeConnection := FakeTransport.closeConnection

end Kroopt.Conn
