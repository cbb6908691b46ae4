import Kroopt.Parse.Handshake
import Kroopt.Parse.Record

/-!
# The record path

The record-layer transitions of the core: pure functions from a state to a state and actions.
`handleTransportBytes` frames one record and routes it by its outer type; `handleCryptoResult`
takes the answer to an outstanding operation; `handleAppSend` asks for a seal.

`onInboundAlert` serves both an outer alert record and the alert inside an opened record.
-/

set_option autoImplicit false

namespace Kroopt.Core

open Kroopt.Parse (parseInnerPlaintext classifyCcs)

/-- Fail the connection with an alert. -/
def recordFailAlert (s : State) (a : AlertDescription) (e : TlsError) : StepResult :=
  .ok (s.fail a, failActions s a e)

/-- Dispatch an inbound alert.  `close_notify` begins a peer close; every other description is
fatal and is not answered; a body that is not two bytes long is a decode error. -/
def onInboundAlert (s : State) (alertBytes : Bytes) : StepResult :=
  if alertBytes.length == 2 then
    if alertBytes.getD 1 0 == 0 then
      .ok ({ s with handshake := .closing, closeState := .receivedCloseNotify },
        [.closeTransport s.connId .graceful])
    else
      let a := (AlertDescription.ofByte (alertBytes.getD 1 0)).getD .internalError
      .ok ({ s with handshake := .failed a, closeState := .fatalReceived a,
                    pendingPlainOut := none },
        [.closeTransport s.connId .abortive])
  else
    recordFailAlert s (alertForParseError .truncated) (.parse .truncated)

/-- Record metadata for reading; it follows the installed read epoch. -/
def readMeta (s : State) : RecordCryptoMeta where
  conn := s.connId
  direction := .read
  epoch := s.readEpoch.epoch
  seq := s.readEpoch.seq
  suite := s.negotiated.selectedSuite.getD .aes128GcmSha256
  contentRole := .applicationData

/-- Record metadata for writing application data. -/
def writeMeta (s : State) : RecordCryptoMeta where
  conn := s.connId
  direction := .write
  epoch := .application
  seq := s.writeEpoch.seq
  suite := s.negotiated.selectedSuite.getD .aes128GcmSha256
  contentRole := .applicationData

/-- Upper bound of the handshake reassembly buffer. -/
def maxHandshakeReasmBytes : Nat := 65536

/-- Take one complete handshake message off a buffer. -/
def frameHandshakeMessage (buf : Bytes) : Option (Bytes × Bytes) :=
  if buf.length < 4 then none
  else
    let len := (buf.getD 1 0).toNat * 65536 + (buf.getD 2 0).toNat * 256 + (buf.getD 3 0).toNat
    let total := 4 + len
    if buf.length < total then none
    else some (buf.extract 0 total, buf.extract total buf.length)

/-- Route a handshake message by phase: ClientHello in `start`, the client Finished in
`sentServerFinished`; any other phase ignores it. -/
def handshakeOnPlaintextRecord (s : State) (body : Bytes) : StepResult :=
  if s.handshake = .start then
    match Parse.parseClientHello body with
    | .error e => recordFailAlert s (alertForParseError e.toPublic) (.parse e.toPublic)
    | .ok wb => handshakeOnClientHello s wb.value wb.wireBytes
  else if s.handshake = .sentServerFinished then
    onClientFinishedBytes s body
  else
    .ok (s, [])

/-- Route a framed record by its outer type: the second half of `handleTransportBytes`. -/
def routeRecord (s : State) (hdr : Parse.ValidRecordHeader) (body : Bytes) : StepResult :=
  match hdr.outerType with
  | .applicationData =>
    if s.handshake.isConnected then
      allocOpOrFail s .aeadOpen .application (some .read) fun oid s ↦
      .ok (s, [.callCrypto s.connId oid (.aeadOpen (readMeta s) [] body)])
    else if s.handshake = .sentServerFinished then
      allocOpOrFail s .aeadOpen .handshake (some .read) fun oid s ↦
      .ok (s, [.callCrypto s.connId oid (.aeadOpen (readMeta s) [] body)])
    else
      .ok (s, [])
  | .changeCipherSpec =>
    if s.handshake = .start || s.handshake.isConnected
        || s.handshake = .closing || s.handshake.isTerminal then
      recordFailAlert s .unexpectedMessage (.protocol .illegalMessageForState)
    else
      match classifyCcs body with
      | .allowedCompat => .ok (s, [])
      | .rejected => recordFailAlert s .unexpectedMessage (.protocol .illegalMessageForState)
  | .handshake =>
    match chargeHandshakeBytes s.serverConfig.limits s.budgets body.length with
    | .error e => recordFailAlert s (alertForResourceLimit e) (.resourceLimit e)
    | .ok b' =>
      let s := { s with budgets := b' }
      let buf := s.handshakeReasm ++ body
      if buf.length > maxHandshakeReasmBytes then
        recordFailAlert s (alertForParseError .oversizedRecord) (.parse .oversizedRecord)
      else
        match frameHandshakeMessage buf with
        | none => .ok ({ s with handshakeReasm := buf }, [.readTransport s.connId])
        | some (msg, rest) => handshakeOnPlaintextRecord { s with handshakeReasm := rest } msg
  | .alert => onInboundAlert s body
  | .invalid =>
    recordFailAlert s (alertForParseError .invalidContentType) (.parse .invalidContentType)

/-- Handle inbound bytes: frame one record and route it by its outer type. -/
def handleTransportBytes (s0 : State) (b : Bytes) : StepResult :=
  let s := { s0 with inboundCiphertext := s0.inboundCiphertext ++ b }
  match (Parse.Reader.ofBytes s.inboundCiphertext).tryTakeRecord with
  | .error e => recordFailAlert s (alertForParseError e.toPublic) (.parse e.toPublic)
  | .ok (none, _) => .ok (s, [.readTransport s.connId])
  | .ok (some (hdr, body), r') =>
    -- one record is consumed; whatever is behind it stays buffered
    let rest := r'.input.extract r'.offset r'.input.length
    routeRecord { s with inboundCiphertext := rest } hdr body

/-- Handle the result of an outstanding operation. -/
def handleCryptoResultCorrelated (s : State) (op : OperationId) (r : CryptoResult) : StepResult :=
  match r with
  | .aeadOpened pt =>
    if s.handshake.isConnected then
      match parseInnerPlaintext pt with
      | .error e => recordFailAlert s (alertForParseError e.toPublic) (.parse e.toPublic)
      | .ok inner =>
        match inner.ctype with
        | .applicationData =>
          match s.readEpoch.seq.next with
          | none => recordFailAlert s .internalError (.protocol .sequenceOverflow)
          | some sq =>
            .ok ((s.clearOp op |> fun s ↦
              { s with pendingPlainOut := some inner.content
                       readEpoch := { s.readEpoch with seq := sq } }), [])
        | .alert => onInboundAlert (s.clearOp op) inner.content
        | .handshake => .ok (s.clearOp op, [])
        | .changeCipherSpec => .ok (s.clearOp op, [])
        | .invalid => .ok (s.clearOp op, [])
    else
      match parseInnerPlaintext pt with
      | .error e => recordFailAlert s (alertForParseError e.toPublic) (.parse e.toPublic)
      | .ok inner =>
        match inner.ctype with
        | .handshake =>
          match s.readEpoch.seq.next with
          | none => recordFailAlert s .internalError (.protocol .sequenceOverflow)
          | some sq =>
            let s := { (s.clearOp op) with readEpoch := { s.readEpoch with seq := sq } }
            handshakeOnPlaintextRecord s inner.content
        | .applicationData =>
          recordFailAlert s .unexpectedMessage (.protocol .illegalMessageForState)
        | .alert => onInboundAlert (s.clearOp op) inner.content
        | .changeCipherSpec => .ok (s.clearOp op, [])
        | .invalid =>
          recordFailAlert s (alertForParseError .invalidContentType) (.parse .invalidContentType)
  | .aeadSealed ct =>
    let s := { (s.clearOp op) with
      outboundCiphertext := (s.clearOp op).outboundCiphertext ++ ct }
    let closeTail := if s.closeState = .sentCloseNotify
      then [OutputAction.closeTransport s.connId .graceful] else []
    .ok (s, .writeTransport s.connId ct :: closeTail)
  | .verifyFailed => recordFailAlert (s.clearOp op) .badRecordMac (.crypto .authFailed)
  | .failed e =>
    recordFailAlert (s.clearOp op) ((alertForCryptoFailure e).getD .internalError) (.crypto e)
  | .randomBytes b => handshakeOnGatingResult s op (.randomBytes b)
  | .finishedMac vd => handshakeOnGatingResult s op (.finishedMac vd)
  | .ecdheComplete srv h => handshakeOnGatingResult s op (.ecdheComplete srv h)
  | .hkdfSecret d => handshakeOnGatingResult s op (.hkdfSecret d)
  | .keysInstalled => handshakeOnGatingResult s op .keysInstalled
  | .signature sig => handshakeOnGatingResult s op (.signature sig)
  | .verified => handshakeOnGatingResult s op .verified

/-- Handle a crypto result: one whose operation is not outstanding is dropped. -/
def handleCryptoResult (s : State) (op : OperationId) (r : CryptoResult) : StepResult :=
  if s.pendingOps.contains op then handleCryptoResultCorrelated s op r else .ok (s, [])

/-- Handle an application send: accept one fragment and ask for its seal. -/
def handleAppSend (s : State) (b : Bytes) : StepResult :=
  match s.writeEpoch.seq.next with
  | none => recordFailAlert s .internalError (.protocol .sequenceOverflow)
  | some sq =>
    let n := min b.length maxPlaintextFragment
    let frag := b.extract 0 n
    let inner := frag ++ [ContentType.applicationData.toByte]
    let sealMeta := writeMeta s
    allocOpOrFail s .aeadSeal .application (some .write) fun oid s ↦
    let s := { s with writeEpoch := { s.writeEpoch with seq := sq } }
    .ok (s, [.callCrypto s.connId oid (.aeadSeal sealMeta [] inner),
      .acceptPlaintextBytes s.connId n])

end Kroopt.Core
