import Kroopt.Crypto.Hacl

/-!
# The secret chain

The key schedule of TLS 1.3 as functions of bytes: each secret of the chain from the one before it.
The driver and the provider compute the same chain one operation at a time, over handles.
-/

set_option autoImplicit false

namespace Kroopt.Crypto.KeySchedule

open Kroopt.Core (HashAlgorithm)

variable [NativeHacl]

/-- Derive-Secret, over the hash of the messages. -/
def deriveSecret (secret : Bytes) (label : String) (transcriptHash : Bytes) (h : HashAlgorithm) :
    Bytes :=
  expandLabel secret label transcriptHash (hashLen h) h

/-- The hash of no messages. -/
def emptyHash (h : HashAlgorithm) : Bytes := hashOf h []

/-- The Early Secret, without a PSK. -/
def earlySecret (h : HashAlgorithm) : Bytes :=
  hkdfExtractH h (zeros (hashLen h)) (zeros (hashLen h))

/-- The salt of the Handshake Secret. -/
def derivedForHandshake (early : Bytes) (h : HashAlgorithm) : Bytes :=
  deriveSecret early "derived" (emptyHash h) h

/-- The Handshake Secret. -/
def handshakeSecret (early ecdhe : Bytes) (h : HashAlgorithm) : Bytes :=
  hkdfExtractH h (derivedForHandshake early h) ecdhe

/-- client_handshake_traffic_secret. -/
def clientHandshakeTrafficSecret (hs transcriptHash : Bytes) (h : HashAlgorithm) : Bytes :=
  deriveSecret hs "c hs traffic" transcriptHash h

/-- server_handshake_traffic_secret. -/
def serverHandshakeTrafficSecret (hs transcriptHash : Bytes) (h : HashAlgorithm) : Bytes :=
  deriveSecret hs "s hs traffic" transcriptHash h

/-- The salt of the Master Secret. -/
def derivedForMaster (hs : Bytes) (h : HashAlgorithm) : Bytes :=
  deriveSecret hs "derived" (emptyHash h) h

/-- The Master Secret. -/
def masterSecret (hs : Bytes) (h : HashAlgorithm) : Bytes :=
  hkdfExtractH h (derivedForMaster hs h) (zeros (hashLen h))

/-- client_application_traffic_secret_0. -/
def clientAppTrafficSecret (ms transcriptHash : Bytes) (h : HashAlgorithm) : Bytes :=
  deriveSecret ms "c ap traffic" transcriptHash h

/-- server_application_traffic_secret_0. -/
def serverAppTrafficSecret (ms transcriptHash : Bytes) (h : HashAlgorithm) : Bytes :=
  deriveSecret ms "s ap traffic" transcriptHash h

end Kroopt.Crypto.KeySchedule
