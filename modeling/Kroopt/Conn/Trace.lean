import Kroopt.Core.State

/-!
# Metrics and the diagnostic trace

The two passive observers of the interpreter: counters, and a trace of events that carry only
public data.  The source renders each trace event to a line of text; here the events are kept.
-/

set_option autoImplicit false

namespace Kroopt.Conn

open Kroopt.Core (OutputAction HandshakeOut CryptoOpKind CloseMode ConnId Epoch CipherSuite State)

/-- Coarse error categories. -/
inductive ErrorCategory
  | protocol | parse | crypto | config | resource | transport | closed | internal
  deriving DecidableEq, Inhabited

def categoryOf : TlsError → ErrorCategory
  | .protocol _ => .protocol
  | .parse _ => .parse
  | .crypto _ => .crypto
  | .config _ => .config
  | .resourceLimit _ => .resource
  | .transport _ => .transport
  | .closed => .closed
  | .internalInvariantFailure => .internal

/-- Operational counters. -/
structure Metrics where
  handshakesCompleted : Nat := 0
  handshakesFailed : Nat := 0
  alertsClassified : Nat := 0
  alertsSent : Nat := 0
  resourceFailures : Nat := 0
  alpnSelected : Nat := 0
  deriving DecidableEq, Inhabited

namespace Metrics

def recordHandshakeComplete (m : Metrics) (alpnNegotiated : Bool) : Metrics :=
  { m with handshakesCompleted := m.handshakesCompleted + 1
           alpnSelected := m.alpnSelected + (if alpnNegotiated then 1 else 0) }

def recordFailure (m : Metrics) (cat : ErrorCategory) : Metrics :=
  { m with handshakesFailed := m.handshakesFailed + 1
           resourceFailures := m.resourceFailures + (if cat == .resource then 1 else 0) }

def recordAlertClassified (m : Metrics) : Metrics :=
  { m with alertsClassified := m.alertsClassified + 1 }

def recordAlertSent (m : Metrics) : Metrics := { m with alertsSent := m.alertsSent + 1 }

end Metrics

/-- A trace event: ids, kinds, lengths and categories. -/
inductive TraceEvent
  | transportRead (conn : ConnId)
  | transportWrite (conn : ConnId) (length : Nat)
  | handshakeOut (conn : ConnId) (epoch : Epoch) (seq : UInt64) (msg : String)
  | certificateOut (conn : ConnId) (epoch : Epoch) (seq : UInt64) (derLength : Nat)
  | writeInterest (conn : ConnId) (enabled : Bool)
  | cryptoCall (conn : ConnId) (op : UInt64) (kind : CryptoOpKind)
  | plaintextEmit (conn : ConnId) (length : Nat)
  | plaintextAccept (conn : ConnId) (n : Nat)
  | handshakeComplete (conn : ConnId) (suite : CipherSuite)
  | errorReported (conn : ConnId) (category : String)
  | alertClassified (conn : ConnId) (desc : AlertDescription) (level : AlertLevel)
  | alertSent (conn : ConnId) (desc : AlertDescription)
  | transportClose (conn : ConnId) (mode : String)
  | secretReleased
  deriving DecidableEq

namespace TraceEvent

def hsOutLabel : HandshakeOut → String
  | .serverHello .. => "ServerHello"
  | .encryptedExtensions .. => "EncryptedExtensions"
  | .certificateVerify .. => "CertificateVerify"
  | .finished .. => "Finished"

def closeModeLabel : CloseMode → String
  | .graceful => "graceful"
  | .fatal _ => "fatal"
  | .abortive => "abortive"

def errorCategory : TlsError → String
  | .protocol _ => "protocol"
  | .parse _ => "parse"
  | .crypto _ => "crypto"
  | .config _ => "config"
  | .resourceLimit _ => "resourceLimit"
  | .transport _ => "transport"
  | .closed => "closed"
  | .internalInvariantFailure => "internal"

end TraceEvent

open TraceEvent in
/-- The trace event of an action.  A sent alert is traced where its record is framed. -/
def traceOfAction : OutputAction → Option TraceEvent
  | .readTransport c => some (.transportRead c)
  | .writeTransport c b => some (.transportWrite c b.length)
  | .writeHandshake c e s msg => some (.handshakeOut c e s (hsOutLabel msg))
  | .writeCertificate c e s der => some (.certificateOut c e s der.length)
  | .enableWriteInterest c => some (.writeInterest c true)
  | .disableWriteInterest c => some (.writeInterest c false)
  | .callCrypto c op req => some (.cryptoCall c op.value req.kind)
  | .emitPlaintext c b => some (.plaintextEmit c b.length)
  | .acceptPlaintextBytes c n => some (.plaintextAccept c n)
  | .reportHandshakeComplete c i => some (.handshakeComplete c i.suite)
  | .reportError c e => some (.errorReported c (errorCategory e))
  | .failWithAlert c a => some (.alertClassified c a (Core.alertLevel a))
  | .writeAlert _ _ _ _ => none
  | .closeTransport c m => some (.transportClose c (closeModeLabel m))
  | .releaseSecret _ => some .secretReleased

/-- Fold the actions of one step into the counters. -/
def observeMetrics (m : Metrics) (core : State) (acts : List OutputAction) : Metrics :=
  acts.foldl (fun m a ↦ match a with
    | .reportHandshakeComplete _ _ => m.recordHandshakeComplete core.negotiated.selectedAlpn.isSome
    | .reportError _ e => m.recordFailure (categoryOf e)
    | .failWithAlert _ _ => m.recordAlertClassified
    | _ => m) m

end Kroopt.Conn
