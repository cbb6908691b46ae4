import Kroopt.Conn.Record13
import Kroopt.Conn.Trace
import Kroopt.Conn.Transport
import Kroopt.Core.Step
import Kroopt.Crypto.Provider

/-!
# The interpreter

The imperative half of a connection: it executes the core's actions over a transport and a crypto
provider and feeds the results back as events.  It makes no protocol decision.

* `RuntimeState` is its bookkeeping; `terminal` is its own notion of a terminated connection.
* `drainOutbound` pushes queued ciphertext toward the transport.
* `execAction` executes one action, `execActions` a list of them.
* `driveEvents` is the fuel-bounded loop: the follow-up events of a step come before the others.

The native primitives, the provider and the transport are parameters throughout.
-/

set_option autoImplicit false

namespace Kroopt.Conn

open Kroopt.Core (State InputEvent OutputAction HandshakeInfo CryptoOp CryptoOpKind CryptoResult
  HashAlgorithm CipherSuite Epoch)
open Kroopt.Crypto (CryptoProvider SecretArena Hacl)

/-- Bytes a single read asks for. -/
def maxReadChunk : Nat := 16384

/-- The interpreter's bookkeeping. -/
structure RuntimeState where
  outbound : Bytes := []
  plaintextOut : Option Bytes := none
  acceptedBytes : Nat := 0
  writeInterest : Bool := false
  metadata : Option HandshakeInfo := none
  lastError : Option TlsError := none
  terminal : Bool := false
  arena : SecretArena := SecretArena.empty
  traceEnabled : Bool := false
  trace : List TraceEvent := []
  metrics : Metrics := {}
  deriving DecidableEq, Inhabited

/-! ## The outbound queue -/

section Drain

variable {τ : Type} [Transport τ]

/-- `drainOutbound` with a bound on the number of sends. -/
def drainOutboundGo : Nat → RuntimeState → τ → RuntimeState × τ
  | 0, rt, tr => (rt, tr)
  | fuel + 1, rt, tr =>
    if rt.outbound.isEmpty then (rt, tr)
    else
      match Transport.send tr (Transport.fd tr) rt.outbound with
      | (.sent n, tr') =>
        if n = 0 ∨ n ≥ rt.outbound.length then
          ({ rt with outbound := rt.outbound.extract n rt.outbound.length }, tr')
        else
          drainOutboundGo fuel { rt with outbound := rt.outbound.extract n rt.outbound.length } tr'
      | (.wouldBlock, tr') => (rt, tr')
      | (.error e, tr') => ({ rt with lastError := some (.transport e), terminal := true }, tr')

/-- Push the queue toward the transport.  Every send but the last one shortens the queue, so its
length bounds their number. -/
def drainOutbound (rt : RuntimeState) (tr : τ) : RuntimeState × τ :=
  drainOutboundGo rt.outbound.length rt tr

end Drain

/-! ## Completing operations -/

section Resolve

variable [Hacl]

/-- The content a CertificateVerify signs. -/
def certVerifyContent (transcriptHash : Bytes) : Bytes :=
  List.replicate 64 0x20 ++ Crypto.utf8 "TLS 1.3, server CertificateVerify" ++ [0x00] ++
    transcriptHash

/-- Replace the transcript text of an operation by its hash. -/
def resolveCryptoTranscript (hsHash : HashAlgorithm) : CryptoOp → CryptoOp
  | .signCertificateVerify scheme pfx =>
    .signCertificateVerify scheme (certVerifyContent (Crypto.KeySchedule.hashOf hsHash pfx))
  | .computeServerFinished alg pfx =>
    .computeServerFinished alg (Crypto.KeySchedule.hashOf alg pfx)
  | .verifyFinished alg pfx received =>
    .verifyFinished alg (Crypto.KeySchedule.hashOf alg pfx) received
  | .hkdfExpandLabel alg secret label ctx len =>
    if label == "s hs traffic" || label == "c hs traffic" || label == "s ap traffic"
        || label == "c ap traffic" || label == "exp master" then
      .hkdfExpandLabel alg secret label (Crypto.KeySchedule.hashOf alg ctx) len
    else
      .hkdfExpandLabel alg secret label ctx len
  | op => op

omit [Hacl] in
/-- Fill in the record header as the additional data of a seal or an open. -/
def resolveRecordAAD : CryptoOp → CryptoOp
  | .aeadOpen rmeta _ ct => .aeadOpen rmeta (Record13.recordAAD ct.length) ct
  | .aeadSeal rmeta _ pt => .aeadSeal rmeta (Record13.recordAAD (pt.length + 16)) pt
  | op => op

omit [Hacl] in
/-- Whether a result can answer an operation of a kind. -/
def resultMatchesKind : CryptoOpKind → CryptoResult → Bool
  | _, .failed _ => true
  | .randomBytes, .randomBytes _ => true
  | .ecdhe, .ecdheComplete _ _ => true
  | .hkdfExtract, .hkdfSecret _ => true
  | .hkdfExpand, .hkdfSecret _ => true
  | .installTrafficKeys, .keysInstalled => true
  | .aeadSeal, .aeadSealed _ => true
  | .aeadOpen, .aeadOpened _ => true
  | .aeadOpen, .verifyFailed => true
  | .verifyFinished, .verified => true
  | .verifyFinished, .verifyFailed => true
  | .signCertificateVerify, .signature _ => true
  | .computeServerFinished, .finishedMac _ => true
  | _, _ => false

/-! ## Framing -/

omit [Hacl] in
/-- A cleartext handshake record. -/
def plaintextHandshakeRecord (plain : Bytes) : Bytes :=
  [22, 0x03, 0x03] ++ Parse.Wire.be16 plain.length.toUInt16 ++ plain

omit [Hacl] in
/-- A cleartext fatal alert record. -/
def plaintextAlertRecord (a : AlertDescription) : Bytes :=
  [21, 0x03, 0x03, 0x00, 0x02, 2, a.toByte]

/-- Seal a flight message under the installed handshake key; `none` if there is no key. -/
def sealHandshakeRecord (arena : SecretArena) (seq : UInt64) (plain : Bytes) :
    Except ResourceLimitError (Option Bytes) :=
  match arena.lookupBaseSecret .write .handshake with
  | none => .ok none
  | some sid =>
    match arena.getById sid with
    | none => .ok none
    | some secret =>
      let suite := (arena.lookupInstalledSuite .write .handshake).getD .chacha20Poly1305Sha256
      let key := Crypto.KeySchedule.trafficKey suite secret
      let iv := Crypto.KeySchedule.trafficIv secret suite.hashAlg
      (Record13.sealRecord key iv seq plain .handshake 0 suite).map some

/-- Seal a fatal alert under the installed key of an epoch; `none` if the key or its suite is
missing. -/
def sealAlertRecord (arena : SecretArena) (epoch : Epoch) (seq : UInt64) (a : AlertDescription) :
    Except ResourceLimitError (Option Bytes) :=
  match arena.lookupBaseSecret .write epoch with
  | none => .ok none
  | some sid =>
    match arena.getById sid with
    | none => .ok none
    | some secret =>
      match arena.lookupInstalledSuite .write epoch with
      | none => .ok none
      | some suite =>
        let key := Crypto.KeySchedule.trafficKey suite secret
        let iv := Crypto.KeySchedule.trafficIv secret suite.hashAlg
        (Record13.sealRecord key iv seq [2, a.toByte] .alert 0 suite).map some

/-- The wire bytes of a flight message at its epoch. -/
def handshakeWire (arena : SecretArena) (epoch : Epoch) (seq : UInt64) (plain : Bytes) :
    Except ResourceLimitError Bytes :=
  match epoch with
  | .handshake =>
    match sealHandshakeRecord arena seq plain with
    | .ok (some r) => .ok r
    | .ok none => .ok (plaintextHandshakeRecord plain)
    | .error e => .error e
  | _ => .ok (plaintextHandshakeRecord plain)

/-- The record of a fatal alert at its epoch, if one can be framed. -/
def alertWire (arena : SecretArena) (epoch : Epoch) (seq : UInt64) (a : AlertDescription) :
    Option Bytes :=
  match epoch with
  | .initial => some (plaintextAlertRecord a)
  | _ =>
    match sealAlertRecord arena epoch seq a with
    | .ok (some wire) => some wire
    | _ => none

end Resolve

/-- Mark the runtime terminal and drop every secret. -/
def terminate (rt : RuntimeState) (err : Option TlsError) : RuntimeState :=
  { rt with terminal := true
            arena := rt.arena.bumpGeneration
            lastError := match err with | some e => some e | none => rt.lastError }

/-! ## Execution -/

section Exec

variable [Hacl] {τ : Type} [Transport τ]

/-- Queue bytes and push the queue toward the transport. -/
def enqueue (rt : RuntimeState) (tr : τ) (wire : Bytes) : RuntimeState × τ :=
  drainOutbound { rt with outbound := rt.outbound ++ wire } tr

/-- Execute one action; the follow-up events come back with the new runtime and transport. -/
def execAction (prov : CryptoProvider) (rt : RuntimeState) (tr : τ) :
    OutputAction → RuntimeState × τ × List InputEvent
  | .readTransport conn =>
    match Transport.recv tr (Transport.fd tr) maxReadChunk with
    | (.bytes b, tr') => (rt, tr', [.transportBytes conn b])
    | (.wouldBlock, tr') => (rt, tr', [])
    | (.eof, tr') => (rt, tr', [.transportEof conn])
    | (.error e, tr') => ({ rt with lastError := some (.transport e) }, tr', [.transportEof conn])
  | .writeTransport _ b =>
    let record := Record13.recordAAD b.length ++ b
    let (rt', tr') := enqueue rt tr record
    (rt', tr', [])
  | .writeHandshake _ epoch seq msg =>
    let plain := Core.serializeHandshakeOut msg
    match handshakeWire rt.arena epoch seq plain with
    | .ok wire =>
      let (rt', tr') := enqueue rt tr wire
      (rt', tr', [])
    | .error e => (terminate rt (some (.resourceLimit e)), tr, [])
  | .writeCertificate _ epoch seq der =>
    let plain := Core.serializeServerCertificate der
    match handshakeWire rt.arena epoch seq plain with
    | .ok wire =>
      let (rt', tr') := enqueue rt tr wire
      (rt', tr', [])
    | .error e => (terminate rt (some (.resourceLimit e)), tr, [])
  | .writeAlert c epoch seq a =>
    match alertWire rt.arena epoch seq a with
    | some wire =>
      let rt := { rt with metrics := rt.metrics.recordAlertSent }
      let rt := if rt.traceEnabled then { rt with trace := rt.trace ++ [.alertSent c a] } else rt
      let (rt', tr') := enqueue rt tr wire
      (rt', tr', [])
    | none => (rt, tr, [])
  | .enableWriteInterest _ =>
    ({ rt with writeInterest := true }, Transport.enableWrite tr (Transport.fd tr), [])
  | .disableWriteInterest _ =>
    ({ rt with writeInterest := false }, Transport.disableWrite tr (Transport.fd tr), [])
  | .callCrypto conn op req =>
    let hsHash := ((rt.arena.lookupInstalledSuite .write .handshake).map (·.hashAlg)).getD .sha256
    match prov.submit rt.arena op (resolveRecordAAD (resolveCryptoTranscript hsHash req)) with
    | .ok (arena', r) =>
      if resultMatchesKind req.kind r then
        ({ rt with arena := arena' }, tr, [.cryptoResult conn op r])
      else
        -- the result cannot answer the operation: terminate, and feed nothing back
        (terminate { rt with arena := arena' } (some .internalInvariantFailure), tr, [])
    | .error e => (rt, tr, [.cryptoResult conn op (.failed e)])
  | .emitPlaintext _ b => ({ rt with plaintextOut := some b }, tr, [])
  | .acceptPlaintextBytes _ n => ({ rt with acceptedBytes := rt.acceptedBytes + n }, tr, [])
  | .reportHandshakeComplete _ info => ({ rt with metadata := some info }, tr, [])
  | .reportError _ e => (terminate rt (some e), tr, [])
  | .failWithAlert _ _ => (terminate rt none, tr, [])
  | .closeTransport _ _ =>
    (terminate rt none, Transport.closeConnection tr (Transport.fd tr), [])
  | .releaseSecret h => ({ rt with arena := rt.arena.release h }, tr, [])

/-- Trace an executed action, if tracing is on. -/
def traceAction (rt : RuntimeState) (a : OutputAction) : RuntimeState :=
  if rt.traceEnabled then { rt with trace := rt.trace ++ (traceOfAction a).toList } else rt

/-- One round of `execActions`. -/
def execNext (prov : CryptoProvider) (acc : RuntimeState × τ × List InputEvent)
    (a : OutputAction) : RuntimeState × τ × List InputEvent :=
  let (rt', tr', evs) := execAction prov acc.1 acc.2.1 a
  (traceAction rt' a, tr', acc.2.2 ++ evs)

/-- Execute actions in order, collecting the follow-up events. -/
def execActions (prov : CryptoProvider) (rt : RuntimeState) (tr : τ) (acts : List OutputAction) :
    RuntimeState × τ × List InputEvent :=
  acts.foldl (execNext prov) (rt, tr, [])

/-- The fuel-bounded drive loop. -/
def driveEvents (prov : CryptoProvider) :
    Nat → State → RuntimeState → τ → List InputEvent → State × RuntimeState × τ
  | 0, core, rt, tr, _ => (core, rt, tr)
  | _, core, rt, tr, [] => (core, rt, tr)
  | fuel + 1, core, rt, tr, ev :: rest =>
    match Core.step core ev with
    | .error e => (core, { rt with lastError := some e, terminal := true }, tr)
    | .ok (core', acts) =>
      let (rt', tr', newEvs) := execActions prov rt tr acts
      let rt' := { rt' with metrics := observeMetrics rt'.metrics core' acts }
      driveEvents prov fuel core' rt' tr' (newEvs ++ rest)

end Exec

/-! ## What draining does -/

section DrainSpec

variable {τ : Type} [Transport τ]

theorem extract_to_end (l : Bytes) (n : Nat) : l.extract n l.length = l.drop n := by
  rw [List.extract_eq_take_drop]
  exact List.take_of_length_le (by simp)

/-- Once the fuel covers the queue, more of it changes nothing. -/
theorem drainOutboundGo_fuel {fuel fuel' : Nat} {rt : RuntimeState} (tr : τ)
    (h : rt.outbound.length ≤ fuel) (h' : rt.outbound.length ≤ fuel') :
    drainOutboundGo fuel rt tr = drainOutboundGo fuel' rt tr := by
  induction fuel generalizing fuel' rt tr with
  | zero =>
    have hnil : rt.outbound = [] := List.eq_nil_of_length_eq_zero (Nat.le_zero.mp h)
    cases fuel' with
    | zero => rfl
    | succ fuel' => simp [drainOutboundGo, hnil]
  | succ fuel ih =>
    cases fuel' with
    | zero =>
      have hnil : rt.outbound = [] := List.eq_nil_of_length_eq_zero (Nat.le_zero.mp h')
      simp [drainOutboundGo, hnil]
    | succ fuel' =>
      rw [drainOutboundGo, drainOutboundGo]
      split
      · rfl
      · split
        · split
          · rfl
          · rename_i n tr' _ hmore
            -- the send took a proper, non-empty prefix
            have hlen : (rt.outbound.extract n rt.outbound.length).length < rt.outbound.length := by
              rw [extract_to_end, List.length_drop]
              omega
            exact ih tr' (by dsimp only; omega) (by dsimp only; omega)
        · rfl
        · rfl

/-- **The queue is pushed as the source pushes it**: one send, and again as long as the transport
takes a proper prefix. -/
theorem drainOutbound_eq (rt : RuntimeState) (tr : τ) :
    drainOutbound rt tr =
      if rt.outbound.isEmpty then (rt, tr)
      else
        match Transport.send tr (Transport.fd tr) rt.outbound with
        | (.sent n, tr') =>
          if n = 0 ∨ n ≥ rt.outbound.length then
            ({ rt with outbound := rt.outbound.extract n rt.outbound.length }, tr')
          else
            drainOutbound { rt with outbound := rt.outbound.extract n rt.outbound.length } tr'
        | (.wouldBlock, tr') => (rt, tr')
        | (.error e, tr') =>
          ({ rt with lastError := some (.transport e), terminal := true }, tr') := by
  rw [drainOutbound, drainOutboundGo_fuel tr (Nat.le_refl _) (Nat.le_succ _), drainOutboundGo]
  split
  · rfl
  · split
    · split
      · rfl
      · refine drainOutboundGo_fuel _ ?_ (Nat.le_refl _)
        rw [extract_to_end, List.length_drop]
        omega
    · rfl
    · rfl

/-- What draining cannot change: everything but the queue, the last error and the terminal mark. -/
theorem drainOutbound_spec (rt : RuntimeState) (tr : τ) :
    ∃ n err term, (drainOutbound rt tr).1 =
      { rt with outbound := rt.outbound.drop n, lastError := err, terminal := term } ∧
      (rt.terminal = true → term = true) := by
  suffices h : ∀ fuel (rt : RuntimeState) (tr : τ), ∃ n err term,
      (drainOutboundGo fuel rt tr).1 =
        { rt with outbound := rt.outbound.drop n, lastError := err, terminal := term } ∧
        (rt.terminal = true → term = true) from h _ rt tr
  intro fuel
  induction fuel with
  | zero => exact fun rt _ ↦ ⟨0, rt.lastError, rt.terminal, by simp [drainOutboundGo], id⟩
  | succ fuel ih =>
    intro rt tr
    rw [drainOutboundGo]
    split
    · exact ⟨0, rt.lastError, rt.terminal, by simp, id⟩
    · split
      · rename_i n tr' _
        split
        · refine ⟨n, rt.lastError, rt.terminal, ?_, id⟩
          rw [extract_to_end]
        · obtain ⟨m, err, term, heq, hterm⟩ :=
            ih { rt with outbound := rt.outbound.extract n rt.outbound.length } tr'
          refine ⟨n + m, err, term, ?_, hterm⟩
          rw [heq]
          simp only [extract_to_end, List.drop_drop]
      · exact ⟨0, rt.lastError, rt.terminal, by simp, id⟩
      · exact ⟨0, _, _, by rw [List.drop_zero], fun _ ↦ rfl⟩

theorem drain_arena (rt : RuntimeState) (tr : τ) : (drainOutbound rt tr).1.arena = rt.arena := by
  obtain ⟨n, err, term, heq, -⟩ := drainOutbound_spec rt tr
  rw [heq]

theorem drain_terminal (rt : RuntimeState) {tr : τ} (h : (drainOutbound rt tr).1.terminal = false) :
    rt.terminal = false := by
  obtain ⟨n, err, term, heq, hterm⟩ := drainOutbound_spec rt tr
  rw [heq] at h
  exact Bool.eq_false_iff.mpr fun ht ↦ Bool.eq_false_iff.mp h (hterm ht)

end DrainSpec

/-! ## What tracing leaves alone -/

section TraceSpec

variable (rt : RuntimeState) (a : OutputAction)

@[simp] theorem traceAction_arena : (traceAction rt a).arena = rt.arena := by
  rw [traceAction]
  split <;> rfl

@[simp] theorem traceAction_terminal : (traceAction rt a).terminal = rt.terminal := by
  rw [traceAction]
  split <;> rfl

@[simp] theorem traceAction_outbound : (traceAction rt a).outbound = rt.outbound := by
  rw [traceAction]
  split <;> rfl

@[simp] theorem traceAction_acceptedBytes :
    (traceAction rt a).acceptedBytes = rt.acceptedBytes := by
  rw [traceAction]
  split <;> rfl

@[simp] theorem traceAction_plaintextOut : (traceAction rt a).plaintextOut = rt.plaintextOut := by
  rw [traceAction]
  split <;> rfl

end TraceSpec

end Kroopt.Conn
