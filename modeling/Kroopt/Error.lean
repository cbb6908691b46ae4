import Mathlib.Data.List.Basic

/-!
# Errors and alerts

The public error taxonomy of the connection and the alerts it may send or receive.  Every error is
a coarse category: none carries bytes of the peer.

* `AlertDescription` with its wire byte (`toByte`) and the decoder (`ofByte`).
* `TlsError`, the one error type a caller sees, and the categories it is made of.
* `alertForParseError`, `alertForCryptoFailure`, `alertForResourceLimit`: the places an alert is
  chosen for a failure.
-/

set_option autoImplicit false

namespace Kroopt

/-- A byte string. -/
abbrev Bytes := List UInt8

/-- The TLS 1.3 alert descriptions the connection may send or receive. -/
inductive AlertDescription
  | closeNotify
  | unexpectedMessage
  | badRecordMac
  | recordOverflow
  | handshakeFailure
  | illegalParameter
  | decodeError
  | decryptError
  | protocolVersion
  | missingExtension
  | unsupportedExtension
  | noApplicationProtocol
  | internalError
  | userCanceled
  deriving DecidableEq, Inhabited

/-- The description a wire byte stands for. -/
def AlertDescription.ofByte : UInt8 → Option AlertDescription
  | 0 => some .closeNotify
  | 10 => some .unexpectedMessage
  | 20 => some .badRecordMac
  | 22 => some .recordOverflow
  | 40 => some .handshakeFailure
  | 47 => some .illegalParameter
  | 50 => some .decodeError
  | 51 => some .decryptError
  | 70 => some .protocolVersion
  | 80 => some .internalError
  | 90 => some .userCanceled
  | 109 => some .missingExtension
  | 110 => some .unsupportedExtension
  | 120 => some .noApplicationProtocol
  | _ => none

/-- The wire byte of a description. -/
def AlertDescription.toByte : AlertDescription → UInt8
  | .closeNotify => 0
  | .unexpectedMessage => 10
  | .badRecordMac => 20
  | .recordOverflow => 22
  | .handshakeFailure => 40
  | .illegalParameter => 47
  | .decodeError => 50
  | .decryptError => 51
  | .protocolVersion => 70
  | .internalError => 80
  | .userCanceled => 90
  | .missingExtension => 109
  | .unsupportedExtension => 110
  | .noApplicationProtocol => 120

theorem AlertDescription.ofByte_toByte (a : AlertDescription) : ofByte a.toByte = some a := by
  cases a <;> rfl

/-- Alert level. -/
inductive AlertLevel
  | warning
  | fatal
  deriving DecidableEq, Inhabited

/-- Protocol-level failures. -/
inductive ProtocolError
  | unsupportedVersion
  | unsupportedCipherSuite
  | unsupportedGroup
  | unsupportedSignatureScheme
  | missingRequiredExtension
  | duplicateExtension
  | illegalMessageForState
  | unexpectedPostHandshakeMessage
  | badFinished
  | closeNotifyReceived
  | sequenceOverflow
  | noApplicationProtocol
  deriving DecidableEq, Inhabited

/-- Public categories of parser failures. -/
inductive ParseError
  | truncated
  | trailingBytes
  | lengthOverflow
  | valueOutOfRange
  | oversizedRecord
  | malformedVector
  | malformedExtension
  | invalidContentType
  | invalidDer
  deriving DecidableEq, Inhabited

/-- Failures of the crypto provider. -/
inductive CryptoError
  | authFailed
  | unsupportedOperation
  | invalidHandle
  | randomFailed
  | providerInternal
  | peerInvalidKeyShare
  deriving DecidableEq, Inhabited

/-- Configuration failures. -/
inductive ConfigError
  | noCipherSuite
  | certKeyMismatch
  | emptyChain
  | oversizedDer
  | ambiguousSni
  | invalidSniPattern
  | invalidAlpn
  | capabilityMissing
  | invalidLimits
  deriving DecidableEq, Inhabited

/-- Exhausted resource budgets. -/
inductive ResourceLimitError
  | handshakeBytes
  | clientHelloBytes
  | extensionCount
  | extensionBytes
  | recordSize
  | pendingCiphertext
  | pendingCryptoOps
  | progressSteps
  | handshakeTimeout
  deriving DecidableEq, Inhabited

/-- Transport failures.  `eofBeforeCloseNotify` is truncation, never a clean close. -/
inductive TransportError
  | eofBeforeCloseNotify
  | resetByPeer
  | brokenPipe
  | generic
  deriving DecidableEq, Inhabited

/-- The one error type callers see. -/
inductive TlsError
  | protocol (e : ProtocolError)
  | parse (e : ParseError)
  | crypto (e : CryptoError)
  | config (e : ConfigError)
  | resourceLimit (e : ResourceLimitError)
  | transport (e : TransportError)
  | closed
  | internalInvariantFailure
  deriving DecidableEq, Inhabited

/-! ## The choice of an alert -/

namespace Core

/-- Only `closeNotify` and `userCanceled` are warnings. -/
def alertLevel : AlertDescription → AlertLevel
  | .closeNotify => .warning
  | .userCanceled => .warning
  | _ => .fatal

/-- The alert for a parse error. -/
def alertForParseError : ParseError → AlertDescription
  | .truncated => .decodeError
  | .trailingBytes => .decodeError
  | .lengthOverflow => .decodeError
  | .valueOutOfRange => .illegalParameter
  | .oversizedRecord => .recordOverflow
  | .malformedVector => .decodeError
  | .malformedExtension => .decodeError
  | .invalidContentType => .unexpectedMessage
  | .invalidDer => .decodeError

/-- The alert for a crypto failure; internal failures have none. -/
def alertForCryptoFailure : CryptoError → Option AlertDescription
  | .authFailed => some .badRecordMac
  | .unsupportedOperation => some .handshakeFailure
  | .invalidHandle => none
  | .randomFailed => none
  | .providerInternal => none
  | .peerInvalidKeyShare => some .illegalParameter

/-- The alert for an exhausted budget. -/
def alertForResourceLimit : ResourceLimitError → AlertDescription
  | _ => .internalError

@[simp] theorem alertLevel_parse (e : ParseError) : alertLevel (alertForParseError e) = .fatal := by
  cases e <;> rfl

@[simp] theorem alertLevel_crypto (e : CryptoError) :
    alertLevel ((alertForCryptoFailure e).getD .internalError) = .fatal := by
  cases e <;> rfl

end Core

end Kroopt
