import Kroopt.Core.RecordPath

/-!
# The step function

`step` is the one place where a protocol decision is made: it reads an event in a state and
answers with the next state and the actions to execute.  Terminal phases absorb every event.
-/

set_option autoImplicit false

namespace Kroopt.Core

/-- Fail terminally with an alert. -/
def failAlert (s : State) (a : AlertDescription) (e : TlsError) : StepResult :=
  .ok (s.fail a, failActions s a e)

/-- A terminal phase ignores the event. -/
def absorbTerminal (s : State) : StepResult := .ok (s, [])

/-- The transition function of the core. -/
def step (s : State) (ev : InputEvent) : StepResult :=
  if s.handshake.isTerminal then
    absorbTerminal s
  else
    match ev with
    | .appRecvRequested _ =>
      if s.handshake.isConnected then
        match s.pendingPlainOut with
        | some b => .ok ({ s with pendingPlainOut := none }, [.emitPlaintext s.connId b])
        | none => .ok (s, [])
      else
        .ok (s, [])
    | .appSend _ b =>
      if s.handshake.isConnected then
        handleAppSend s b
      else
        failAlert s .unexpectedMessage (.protocol .illegalMessageForState)
    | .appClose _ mode =>
      if s.closeState = .open then
        match mode with
        | .graceful =>
          match s.handshake with
          | .connected =>
            match s.writeEpoch.seq.next with
            | none => failAlert s .internalError (.protocol .sequenceOverflow)
            | some sq =>
              -- a close_notify alert: level warning, description zero
              let inner : Bytes := [1, 0, ContentType.alert.toByte]
              let sealMeta := writeMeta s
              allocOpOrFail s .aeadSeal .application (some .write) fun oid s ↦
              let s := { s with writeEpoch := { s.writeEpoch with seq := sq }
                                handshake := .closing
                                closeState := .sentCloseNotify
                                pendingPlainOut := none }
              .ok (s, [.callCrypto s.connId oid (.aeadSeal sealMeta [] inner)])
          | _ =>
            .ok ({ s with handshake := .closing
                          closeState := .sentCloseNotify
                          pendingPlainOut := none },
              [.closeTransport s.connId .graceful])
        | .fatal a =>
          .ok ({ s with handshake := .failed a
                        closeState := .fatalSent a
                        pendingPlainOut := none },
            [.writeAlert s.connId s.writeEpoch.epoch s.writeEpoch.seq.value a,
              .failWithAlert s.connId a,
              .closeTransport s.connId (.fatal a)])
        | .abortive =>
          .ok ({ s with handshake := .closed
                        closeState := .transportClosed
                        pendingPlainOut := none },
            [.closeTransport s.connId .abortive])
      else
        .ok (s, [.closeTransport s.connId mode])
    | .transportEof _ =>
      .ok ({ s with handshake := .failed .closeNotify
                    closeState := .transportEofBeforeCloseNotify
                    pendingPlainOut := none },
        [.reportError s.connId (.transport .eofBeforeCloseNotify)])
    | .timeout _ _ => failAlert s .internalError (.resourceLimit .handshakeTimeout)
    | .transportBytes _ b => handleTransportBytes s b
    | .cryptoResult _ op r => handleCryptoResult s op r
    | .transportReadable _ => .ok (s, [.readTransport s.connId])
    | .transportWritable _ => .ok (s, [])
    | .appFlush _ => .ok (s, [])

end Kroopt.Core
