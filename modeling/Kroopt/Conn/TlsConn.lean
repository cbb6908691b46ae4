import Kroopt.Conn.Interpreter

/-!
# The connection handle

The public API of a connection: a handle around the core state, the interpreter's bookkeeping, the
transport and the provider.  Every method feeds the core one event through the drive loop and then
reads the runtime.

* `TlsConn.recv`, `send`, `flush`, `close` and `progress` are the methods.
* `TlsConn.perform` is any one of them, as a `Call` with its `Answer`.
* `TlsConn.inboundOwnership` is the accounting of retained inbound bytes.
-/

set_option autoImplicit false

namespace Kroopt.Conn

open Kroopt.Core (State InputEvent HashAlgorithm ConfigGeneration ConnId CloseMode
  ValidatedServerConfig TranscriptEvent maxPlaintextForProtectedBudget)
open Kroopt.Crypto (CryptoProvider Hacl)

inductive TlsReadResult
  | bytes (b : Bytes)
  | wouldBlock
  | eof
  | closed
  | error (e : TlsError)
  deriving DecidableEq, Inhabited

inductive TlsWriteResult
  | wrote (n : Nat)
  | wouldBlock
  | closed
  | error (e : TlsError)
  deriving DecidableEq, Inhabited

inductive TlsFlushResult
  | flushed
  | needWrite
  | closed
  | error (e : TlsError)
  deriving DecidableEq, Inhabited

inductive TlsCloseResult
  | closeStarted
  | closed
  | error (e : TlsError)
  deriving DecidableEq, Inhabited

/-- The charge for retained inbound bytes, by where they are retained. -/
structure InboundOwnership where
  recordReassembly : Nat
  handshakeReassembly : Nat
  authenticatedPlaintext : Nat
  retainedHandshake : Nat
  deriving DecidableEq, Inhabited

def InboundOwnership.total (o : InboundOwnership) : Nat :=
  o.recordReassembly + o.handshakeReassembly + o.authenticatedPlaintext + o.retainedHandshake

/-- A connection over a transport `τ`. -/
structure TlsConn (τ : Type) where
  core : State
  rt : RuntimeState
  tr : τ
  prov : CryptoProvider

namespace TlsConn

variable {τ : Type}

/-- A fresh server connection. -/
def serverWith (tr0 : τ) (conn : ConnId) (cfg : ConfigGeneration) (alg : HashAlgorithm)
    (prov : CryptoProvider) (config : ValidatedServerConfig) : TlsConn τ where
  core := State.initialWith conn cfg alg config
  rt := {}
  tr := tr0
  prov := prov

/-! ## The methods -/

section Methods

variable [Hacl] [Transport τ]

/-- Run the drive loop on a list of events. -/
def driveWith (c : TlsConn τ) (fuel : Nat) (evs : List InputEvent) : TlsConn τ :=
  let (core', rt', tr') := driveEvents c.prov fuel c.core c.rt c.tr evs
  { c with core := core', rt := rt', tr := tr' }

/-- Run the drive loop on one event, with the configured fuel. -/
def drive (c : TlsConn τ) (ev : InputEvent) : TlsConn τ :=
  c.driveWith c.core.serverConfig.limits.maxProgressStepsPerCall [ev]

omit [Hacl] [Transport τ] in
/-- Hand out the plaintext the runtime holds. -/
def deliver (c : TlsConn τ) : Option (TlsConn τ × TlsReadResult) :=
  match c.rt.plaintextOut with
  | some b => some ({ c with rt := { c.rt with plaintextOut := none } }, .bytes b)
  | none => none

omit [Hacl] [Transport τ] in
/-- What a read reports on a terminal connection. -/
def readEnded (c : TlsConn τ) : TlsConn τ × TlsReadResult :=
  match c.rt.lastError with
  | some e => (c, .error e)
  | none => (c, .closed)

/-- Read plaintext; if none is buffered, pull one record off the transport and try again. -/
def recv (c : TlsConn τ) : TlsConn τ × TlsReadResult :=
  let c := c.drive (.appRecvRequested c.core.connId)
  match c.deliver with
  | some r => r
  | none =>
    if c.core.handshake.isTerminal then c.readEnded
    else
      let c := c.drive (.transportReadable c.core.connId)
      let c := c.drive (.appRecvRequested c.core.connId)
      match c.deliver with
      | some r => r
      | none => if c.core.handshake.isTerminal then c.readEnded else (c, .wouldBlock)

omit [Hacl] [Transport τ] in
/-- What a write reports on a terminal connection. -/
def writeEnded (c : TlsConn τ) : TlsConn τ × TlsWriteResult :=
  match c.rt.lastError with
  | some e => (c, .error e)
  | none => (c, .closed)

omit [Hacl] [Transport τ] in
/-- How many plaintext bytes the outbound queue has room for. -/
def admitted (c : TlsConn τ) (plaintext : Bytes) : Nat :=
  let suite := c.core.negotiated.selectedSuite.getD .aes128GcmSha256
  let cap := c.core.serverConfig.limits.maxPendingCiphertextBytes
  let remaining := cap - c.rt.outbound.length
  min plaintext.length (maxPlaintextForProtectedBudget suite remaining)

/-- Accept plaintext for encryption; the accepted prefix is the core's from then on. -/
def send (c : TlsConn τ) (plaintext : Bytes) : TlsConn τ × TlsWriteResult :=
  if c.core.handshake.isTerminal then c.writeEnded
  else
    let n := c.admitted plaintext
    if n = 0 then
      if plaintext.isEmpty && c.core.handshake.isConnected then (c, .wrote 0)
      else (c, .wouldBlock)
    else
      let pfx := plaintext.extract 0 n
      let c := { c with rt := { c.rt with acceptedBytes := 0 } }
      let c := c.drive (.appSend c.core.connId pfx)
      if c.core.handshake.isTerminal then c.writeEnded
      else if c.rt.acceptedBytes > 0 then (c, .wrote c.rt.acceptedBytes)
      else (c, .wouldBlock)

/-- Push the queue toward the transport. -/
def flush (c : TlsConn τ) : TlsConn τ × TlsFlushResult :=
  let c := c.drive (.appFlush c.core.connId)
  let (rt', tr') := drainOutbound c.rt c.tr
  let c := { c with rt := rt', tr := tr' }
  match c.rt.lastError with
  | some e => (c, .error e)
  | none => if c.rt.outbound.isEmpty then (c, .flushed) else (c, .needWrite)

/-- Begin closing. -/
def close (c : TlsConn τ) (mode : CloseMode) : TlsConn τ × TlsCloseResult :=
  let c := c.drive (.appClose c.core.connId mode)
  if c.core.handshake = .closed ∨ c.rt.terminal then (c, .closed) else (c, .closeStarted)

/-- Feed a readiness or timeout event. -/
def progress (c : TlsConn τ) (ev : InputEvent) : TlsConn τ := c.drive ev

end Methods

/-! ## Accounting -/

def optionByteSize (b : Option Bytes) : Nat := (b.map (·.length)).getD 0

/-- Add a transcript event of the peer to a running total. -/
def addRead (n : Nat) (e : TranscriptEvent) : Nat :=
  match e.eventMeta.direction with
  | .read => n + e.wireBytes.length
  | .write => n

/-- The charge for retained inbound bytes. -/
def inboundOwnership (c : TlsConn τ) : InboundOwnership :=
  let readTranscript := c.core.transcript.events.foldl addRead 0
  let negotiatedInbound :=
    optionByteSize c.core.negotiated.selectedSni
      + optionByteSize c.core.negotiated.clientShare
      + c.core.negotiated.clientSessionId.length
      + (c.core.negotiated.selectedAlpn.map (·.bytes.length)).getD 0
  { recordReassembly := c.core.inboundCiphertext.length
    handshakeReassembly := c.core.handshakeReasm.length
    authenticatedPlaintext :=
      optionByteSize c.core.pendingPlainOut + optionByteSize c.rt.plaintextOut
    retainedHandshake :=
      readTranscript + negotiatedInbound + optionByteSize c.core.pendingClientFinished }

/-- The total charge for retained inbound bytes. -/
def ownedInboundBytes (c : TlsConn τ) : Nat := c.inboundOwnership.total

/-! ## Calls -/

/-- A call of the application. -/
inductive Call
  | recv
  | send (plaintext : Bytes)
  | flush
  | close (mode : CloseMode)
  | progress (ev : InputEvent)
  deriving DecidableEq

/-- What a call returns. -/
inductive Answer
  | read (r : TlsReadResult)
  | write (r : TlsWriteResult)
  | flush (r : TlsFlushResult)
  | close (r : TlsCloseResult)
  | progress
  deriving DecidableEq

section Calls

variable [Hacl] [Transport τ]

/-- Perform a call. -/
def perform (c : TlsConn τ) : Call → TlsConn τ × Answer
  | .recv => (c.recv.1, .read c.recv.2)
  | .send plaintext => ((c.send plaintext).1, .write (c.send plaintext).2)
  | .flush => (c.flush.1, .flush c.flush.2)
  | .close mode => ((c.close mode).1, .close (c.close mode).2)
  | .progress ev => (c.progress ev, .progress)

end Calls

end TlsConn

end Kroopt.Conn
