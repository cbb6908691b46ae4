import Kroopt.Core.Config
import Kroopt.Core.KeyScheduleDriver
import Kroopt.Core.Transcript

/-!
# The connection state, its events and its actions

`State` is the one authoritative record of a connection.  The core reads an `InputEvent` in it and
answers with a new state and a list of `OutputAction`s.

* `HandshakeState` and `CloseState` are the two enumerations the results are about.
* `State.initial` is the state of a fresh connection.
* `State.withOp` and `State.clearOp` register and retire a pending crypto operation; `allocOp`
  refuses above the configured ceiling.
* `State.fail` and `failActions` are the common shape of every fatal failure.
-/

set_option autoImplicit false

namespace Kroopt.Core

/-- The phases of the TLS 1.3 server handshake. -/
inductive HandshakeState
  | start
  | recvdClientHello
  | requestedServerRandom
  | requestedEcdhe
  | derivedHandshakeSecrets
  | sentServerHello
  | sentEncryptedExtensions
  | sentCertificate
  | requestedCertificateVerifySignature
  | requestedServerFinishedMac
  | sentCertificateVerify
  | sentServerFinished
  | requestedClientFinishedVerify
  | recvdClientFinished
  | connected
  | closing
  | closed
  | failed (alert : AlertDescription)
  deriving DecidableEq, Inhabited

namespace HandshakeState

/-- The absorbing phases. -/
def isTerminal : HandshakeState → Bool
  | closed => true
  | failed _ => true
  | _ => false

/-- The phase in which application data may cross the boundary. -/
def isConnected : HandshakeState → Bool
  | connected => true
  | _ => false

/-- The phases between the ClientHello and the end of the server flight, in which the connection
waits for exactly one crypto result. -/
def inFlight : HandshakeState → Bool
  | requestedServerRandom => true
  | requestedEcdhe => true
  | derivedHandshakeSecrets => true
  | requestedCertificateVerifySignature => true
  | requestedServerFinishedMac => true
  | sentCertificateVerify => true
  | _ => false

@[simp] theorem isConnected_iff {h : HandshakeState} : h.isConnected = true ↔ h = connected := by
  cases h <;> simp [isConnected]

theorem isConnected_eq_false {h : HandshakeState} : h.isConnected = false ↔ h ≠ connected := by
  rw [← Bool.not_eq_true, isConnected_iff]

end HandshakeState

/-- How far the connection is closed, and by whom. -/
inductive CloseState
  | «open»
  | sentCloseNotify
  | receivedCloseNotify
  | bidirectionalClose
  | transportEofBeforeCloseNotify
  | fatalSent (alert : AlertDescription)
  | fatalReceived (alert : AlertDescription)
  | transportClosed
  deriving DecidableEq, Inhabited

/-- The result of negotiation so far. -/
structure NegotiationState where
  selectedSuite : Option CipherSuite
  selectedGroup : Option NamedGroup
  selectedSigScheme : Option SignatureScheme
  selectedSni : Option Bytes
  selectedAlpn : Option AlpnProtocol
  selectedCert : Option CertificateChainHandle
  serverShare : Option Bytes
  clientShare : Option Bytes
  serverRandom : Option Bytes
  selectedCertDer : Bytes := []
  clientSessionId : Bytes := []
  deriving DecidableEq, Inhabited

/-- Nothing is negotiated. -/
def NegotiationState.empty : NegotiationState where
  selectedSuite := none
  selectedGroup := none
  selectedSigScheme := none
  selectedSni := none
  selectedAlpn := none
  selectedCert := none
  serverShare := none
  clientShare := none
  serverRandom := none
  selectedCertDer := []
  clientSessionId := []

/-! ## Budgets -/

/-- Resource counters of a connection. -/
structure BudgetState where
  handshakeBytesSeen : Nat
  clientHelloBytesSeen : Nat
  deriving DecidableEq, Inhabited

def BudgetState.empty : BudgetState where
  handshakeBytesSeen := 0
  clientHelloBytesSeen := 0

/-- Charge handshake bytes against the total handshake budget. -/
def chargeHandshakeBytes (lim : ResourceLimits) (b : BudgetState) (n : Nat) :
    Except ResourceLimitError BudgetState :=
  let total := b.handshakeBytesSeen + n
  if total > lim.maxHandshakeBytes then .error .handshakeBytes
  else .ok { b with handshakeBytesSeen := total }

/-- Charge ClientHello bytes against the ClientHello budget. -/
def chargeClientHelloBytes (lim : ResourceLimits) (b : BudgetState) (n : Nat) :
    Except ResourceLimitError BudgetState :=
  let total := b.clientHelloBytesSeen + n
  if total > lim.maxClientHelloBytes then .error .clientHelloBytes
  else .ok { b with clientHelloBytesSeen := total }

/-! ## The state -/

/-- The authoritative connection state. -/
structure State where
  connId : ConnId
  configGen : ConfigGeneration
  handshake : HandshakeState
  readEpoch : EpochState
  writeEpoch : EpochState
  pendingOps : PendingCryptoOps
  nextOpId : UInt64
  inboundCiphertext : Bytes
  outboundCiphertext : Bytes
  /-- The unframed remainder of the handshake byte stream. -/
  handshakeReasm : Bytes
  /-- One record of authenticated plaintext waiting for the caller. -/
  pendingPlainOut : Option Bytes
  pendingClientFinished : Option Bytes
  transcript : TranscriptState
  /-- The key-schedule driver, once the handshake has started it. -/
  keySched : Option KeyScheduleDriver.State := none
  negotiated : NegotiationState
  serverConfig : ValidatedServerConfig
  closeState : CloseState
  budgets : BudgetState
  deriving DecidableEq

/-! ## Events and actions -/

/-- The events the core reads. -/
inductive InputEvent
  | transportBytes (conn : ConnId) (b : Bytes)
  | transportReadable (conn : ConnId)
  | transportWritable (conn : ConnId)
  | transportEof (conn : ConnId)
  | cryptoResult (conn : ConnId) (op : OperationId) (r : CryptoResult)
  | appSend (conn : ConnId) (b : Bytes)
  | appRecvRequested (conn : ConnId)
  | appFlush (conn : ConnId)
  | appClose (conn : ConnId) (mode : CloseMode)
  | timeout (conn : ConnId) (kind : TimeoutKind)
  deriving DecidableEq

/-- What is reported when the handshake completes. -/
structure HandshakeInfo where
  suite : CipherSuite
  configGen : ConfigGeneration
  deriving DecidableEq, Inhabited

/-- A typed message of the server flight. -/
inductive HandshakeOut
  | serverHello (random sessionId share : Bytes) (suite group version : UInt16)
  | encryptedExtensions (alpn : Option Bytes)
  | certificateVerify (scheme : UInt16) (signature : Bytes)
  | finished (verifyData : Bytes)
  deriving DecidableEq

/-- The actions the core emits. -/
inductive OutputAction
  | readTransport (conn : ConnId)
  /-- Queue sealed application ciphertext. -/
  | writeTransport (conn : ConnId) (b : Bytes)
  /-- Emit a message of the server flight. -/
  | writeHandshake (conn : ConnId) (epoch : Epoch) (seq : UInt64) (msg : HandshakeOut)
  /-- Emit the server Certificate. -/
  | writeCertificate (conn : ConnId) (epoch : Epoch) (seq : UInt64) (der : Bytes)
  | enableWriteInterest (conn : ConnId)
  | disableWriteInterest (conn : ConnId)
  | callCrypto (conn : ConnId) (op : OperationId) (request : CryptoOp)
  | emitPlaintext (conn : ConnId) (b : Bytes)
  | acceptPlaintextBytes (conn : ConnId) (n : Nat)
  | reportHandshakeComplete (conn : ConnId) (info : HandshakeInfo)
  | reportError (conn : ConnId) (e : TlsError)
  /-- Classify a fatal alert and terminate. -/
  | failWithAlert (conn : ConnId) (a : AlertDescription)
  /-- Transmit a fatal alert record. -/
  | writeAlert (conn : ConnId) (epoch : Epoch) (seq : UInt64) (a : AlertDescription)
  | closeTransport (conn : ConnId) (mode : CloseMode)
  | releaseSecret (handle : SecretKeyHandle)
  deriving DecidableEq

namespace State

/-- The state of a freshly accepted connection. -/
def initial (conn : ConnId) (cfg : ConfigGeneration) (alg : HashAlgorithm) : State where
  connId := conn
  configGen := cfg
  handshake := .start
  readEpoch := EpochState.fresh
  writeEpoch := EpochState.fresh
  pendingOps := PendingCryptoOps.empty
  nextOpId := 0
  inboundCiphertext := []
  outboundCiphertext := []
  handshakeReasm := []
  pendingPlainOut := none
  pendingClientFinished := none
  transcript := TranscriptState.fresh alg
  negotiated := NegotiationState.empty
  serverConfig := ValidatedServerConfig.baseline
  closeState := .open
  budgets := BudgetState.empty

/-- The initial state of a connection that is given a configuration. -/
def initialWith (conn : ConnId) (cfg : ConfigGeneration) (alg : HashAlgorithm)
    (config : ValidatedServerConfig) : State :=
  { initial conn cfg alg with serverConfig := config }

/-- The state with one more pending operation, under the next operation id. -/
def withOp (s : State) (kind : CryptoOpKind) (epoch : Epoch) (dir : Option Direction) : State :=
  { s with
    nextOpId := s.nextOpId + 1
    pendingOps := ⟨{ id := ⟨s.nextOpId⟩, expectedKind := kind, expectedEpoch := epoch,
                     expectedDirection := dir } :: s.pendingOps.ops⟩ }

/-- Register a pending crypto operation, unless the ceiling is reached. -/
def allocOp (s : State) (kind : CryptoOpKind) (epoch : Epoch) (dir : Option Direction)
    (maxOps : Nat) : Except ResourceLimitError (OperationId × State) :=
  if s.pendingOps.ops.length ≥ maxOps then
    .error .pendingCryptoOps
  else
    .ok (⟨s.nextOpId⟩, s.withOp kind epoch dir)

/-- Retire a pending crypto operation. -/
def clearOp (s : State) (op : OperationId) : State :=
  { s with pendingOps := ⟨s.pendingOps.ops.filter fun o ↦ o.id != op⟩ }

/-- The state of a connection that has failed with an alert. -/
def fail (s : State) (a : AlertDescription) : State :=
  { s with handshake := .failed a, closeState := .fatalSent a, pendingPlainOut := none }

/-- Whether an outstanding operation of a given kind has this id. -/
def awaits (s : State) (op : OperationId) (kind : CryptoOpKind) : Prop :=
  ∃ o ∈ s.pendingOps.ops, o.id = op ∧ o.expectedKind = kind

instance (s : State) (op : OperationId) (kind : CryptoOpKind) : Decidable (s.awaits op kind) :=
  inferInstanceAs (Decidable (∃ o ∈ s.pendingOps.ops, o.id = op ∧ o.expectedKind = kind))

/-- Fewer operations are pending than the configuration allows. -/
def hasOpRoom (s : State) : Prop :=
  s.pendingOps.ops.length < s.serverConfig.limits.maxPendingCryptoOps

instance (s : State) : Decidable s.hasOpRoom :=
  inferInstanceAs (Decidable (s.pendingOps.ops.length < _))

end State

/-- The actions of a fatal failure: the alert record, its classification and the typed error. -/
def failActions (s : State) (a : AlertDescription) (e : TlsError) : List OutputAction :=
  [.writeAlert s.connId s.writeEpoch.epoch s.writeEpoch.seq.value a,
    .failWithAlert s.connId a,
    .reportError s.connId e]

/-- The result of a step of the core. -/
abbrev StepResult := Except TlsError (State × List OutputAction)

/-! ## The fields each operation touches -/

namespace State

variable (s : State) (kind : CryptoOpKind) (epoch : Epoch) (dir : Option Direction)
  (op : OperationId) (a : AlertDescription)

@[simp] theorem withOp_handshake : (s.withOp kind epoch dir).handshake = s.handshake := rfl
@[simp] theorem withOp_transcript : (s.withOp kind epoch dir).transcript = s.transcript := rfl
@[simp] theorem withOp_keySched : (s.withOp kind epoch dir).keySched = s.keySched := rfl
@[simp] theorem withOp_closeState : (s.withOp kind epoch dir).closeState = s.closeState := rfl

@[simp] theorem clearOp_connId : (s.clearOp op).connId = s.connId := rfl
@[simp] theorem clearOp_handshake : (s.clearOp op).handshake = s.handshake := rfl
@[simp] theorem clearOp_closeState : (s.clearOp op).closeState = s.closeState := rfl

theorem clearOp_ops_sublist : (s.clearOp op).pendingOps.ops.Sublist s.pendingOps.ops :=
  List.filter_sublist

@[simp] theorem fail_inbound : (s.fail a).inboundCiphertext = s.inboundCiphertext := rfl
@[simp] theorem fail_transcript : (s.fail a).transcript = s.transcript := rfl

/-- Retiring an operation that was outstanding leaves fewer of them. -/
theorem clearOp_length_lt (h : s.pendingOps.contains op = true) :
    (s.clearOp op).pendingOps.ops.length < s.pendingOps.ops.length := by
  obtain ⟨o, ho, hid⟩ := PendingCryptoOps.contains_iff.mp h
  refine List.length_filter_lt_length_iff_exists.mpr ⟨o, ho, ?_⟩
  simp [hid]

end State

end Kroopt.Core
