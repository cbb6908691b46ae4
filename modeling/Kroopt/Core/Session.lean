import Kroopt.Core.Invariant
import Kroopt.Parse.Wire

/-!
# Records on the wire, and one session

`frameRecord` is what a peer puts on the wire, and `headOf_frameRecord` says that framing takes
exactly that off again.  The rest of the file is one session with a fresh connection, as the events
the core reads: a ClientHello, the results of the server flight, and the client Finished.
-/

set_option autoImplicit false

namespace Kroopt.Core

open Kroopt.Parse (headOf headOf_cons)
open Kroopt.Parse.Wire (be16 u16Len)

/-- A record with the legacy version of TLS 1.3. -/
def frameRecord (t : ContentType) (body : Bytes) : Bytes := [t.toByte, 0x03, 0x03] ++ u16Len body

theorem toNat_be16 (n : UInt16) :
    (n >>> 8).toUInt8.toNat * 256 + n.toUInt8.toNat = n.toNat := by
  have h := n.toNat_lt
  have hpow : 2 ^ (8 % 16) = 256 := rfl
  simp only [UInt16.toNat_toUInt8, UInt16.toNat_shiftRight, UInt16.reduceToNat,
    Nat.shiftRight_eq_div_pow, hpow]
  omega

theorem ContentType.ofByte_toByte (t : ContentType) : ContentType.ofByte t.toByte = t := by
  cases t <;> rfl

/-- **A framed record is taken off the stream whole**, and what is behind it is kept. -/
theorem headOf_frameRecord (t : ContentType) {body : Bytes}
    (h : body.length ≤ maxCiphertextFragment) (rest : Bytes) :
    ∃ hdr, headOf (frameRecord t body ++ rest) = .record hdr body rest ∧ hdr.outerType = t ∧
      hdr.legacyVersion = 0x0303 := by
  have hlen : body.length.toUInt16.toNat = body.length := by
    rw [Nat.toUInt16, UInt16.toNat_ofNat']
    exact Nat.mod_eq_of_lt (Nat.lt_of_le_of_lt h (by decide))
  have hframe : frameRecord t body ++ rest = t.toByte :: 0x03 :: 0x03 ::
      (body.length.toUInt16 >>> 8).toUInt8 :: body.length.toUInt16.toUInt8 :: (body ++ rest) := rfl
  have hnat := (toNat_be16 body.length.toUInt16).trans hlen
  rw [hframe, headOf_cons]
  simp only [hnat, h, dite_true, List.length_append, Nat.not_lt.mpr (Nat.le_add_right _ _),
    if_false, List.take_left', List.drop_left']
  exact ⟨_, rfl, ContentType.ofByte_toByte t, rfl⟩

/-! ## One session -/

namespace Session

def conn : ConnId := ⟨1, 0⟩

/-- A fresh connection with the baseline configuration. -/
def fresh : State := State.initialWith conn ⟨0⟩ .sha256 ValidatedServerConfig.baseline

/-- TLS 1.3, x25519 with a share, and Ed25519. -/
def helloExtensions : Bytes :=
  [0, 43, 0, 3, 2, 3, 4] ++ [0, 10, 0, 4, 0, 2, 0, 0x1d] ++ [0, 51, 0, 38, 0, 36, 0, 0x1d, 0, 32] ++
    List.replicate 32 7 ++ [0, 13, 0, 4, 0, 2, 8, 7]

/-- A ClientHello that offers one suite and an empty session id. -/
def hello : Bytes :=
  Parse.Wire.handshake 1 ([3, 3] ++ List.replicate 32 0xAA ++ [0] ++ [0, 2, 0x13, 3] ++ [1, 0] ++
    u16Len helloExtensions)

/-- The answer to an operation of this connection. -/
def answer (op : UInt64) (r : CryptoResult) : InputEvent := .cryptoResult conn ⟨op⟩ r

/-- A handle the provider hands out. -/
def handle : SecretKeyHandle := ⟨1, 0⟩

/-- Up to the ServerHello, which installs read protection. -/
def helloEvents : List InputEvent :=
  [.transportBytes conn (frameRecord .handshake hello), answer 0 (.randomBytes [1]),
    answer 1 (.ecdheComplete [2] handle)]

/-- Up to the end of the server flight. -/
def flightEvents : List InputEvent :=
  helloEvents ++
    [answer 2 (.hkdfSecret handle), answer 3 (.hkdfSecret handle), answer 4 (.hkdfSecret handle),
      answer 5 (.hkdfSecret handle), answer 6 (.hkdfSecret handle), answer 7 .keysInstalled,
      answer 8 .keysInstalled, answer 9 (.signature [5]), answer 10 (.finishedMac [6]),
      answer 11 (.hkdfSecret handle), answer 12 (.hkdfSecret handle),
      answer 13 (.hkdfSecret handle), answer 14 (.hkdfSecret handle), answer 15 .keysInstalled,
      answer 16 .keysInstalled]

/-- Up to `connected`. -/
def connectEvents : List InputEvent :=
  flightEvents ++
    [.transportBytes conn (frameRecord .applicationData [20, 0, 0]),
      answer 17 (.aeadOpened [20, 0, 0, 0, 22]), answer 18 .verified]

/-- The steps of a session with the fresh connection. -/
def run (evs : List InputEvent) : List CoreStep := Machine.exec step fresh evs

/-- The state a session with the fresh connection reaches. -/
def reached (evs : List InputEvent) : State := Machine.execState step fresh evs

theorem coreRun (evs : List InputEvent) :
    CoreRun conn ⟨0⟩ .sha256 ValidatedServerConfig.baseline (run evs) (reached evs) :=
  Machine.run_exec fresh evs

@[simp] theorem fresh_handshake : fresh.handshake = .start := rfl

end Session

end Kroopt.Core
