import Kroopt.Conn.Recorded

/-!
# The protected flight

Behind the ServerHello every message of the server flight is to go out sealed, or not at all.  The
interpreter seals under the key it finds in the arena, and where it finds none it falls back on a
cleartext record.  Whether there is a key is up to the provider, and up to everything that was
executed before: a terminated runtime has dropped its keys, and goes on executing.

The core has its part in this: it sends the messages of the flight in transitions of the handshake,
and all but the ServerHello under the handshake epoch.  What is left is a question about the arena,
and it is answered for each action on its own: the message is protected exactly if the arena holds
the traffic secret, and the suite to go with it unless the message is too long to be sent anyway.

## Main definitions

* `OutputAction.mustProtect`: the messages in question.
* `Executed.Protected`: what an execution queues is nothing, or its message sealed under the
  recorded keys.  `Executed.protected_iff_said` reads the same off the queue of the interpreter.
* `Executed.Keyed`: the action finds its key.

## Main results

* `movesFlight_of_steps` and `wellPlaced_of_steps`: what the core does with the flight.
* `handshakeWire_eq`: what the interpreter makes of such a message.
* `protectedFlight_iff`: a drive of the connection protects its flight exactly when each message
  finds the key, and a suite unless it is too long to be sent.
-/

set_option autoImplicit false

namespace Kroopt.Core

/-! ## The messages of the flight

The core sends them in three transitions.  All of them but the ServerHello are to be protected, and
each of these carries the handshake epoch, so the interpreter would not take it for a cleartext
message. -/

namespace OutputAction

/-- The message an action puts into the server flight, with its epoch and sequence number. -/
@[simp] def flight : OutputAction → Option (Epoch × UInt64 × Bytes)
  | .writeHandshake _ epoch seq msg => some (epoch, seq, serializeHandshakeOut msg)
  | .writeCertificate _ epoch seq der => some (epoch, seq, serializeServerCertificate der)
  | _ => none

/-- The action sends EncryptedExtensions, Certificate, CertificateVerify or Finished. -/
@[simp] def isBehindHello : OutputAction → Bool
  | .writeHandshake _ _ _ (.serverHello _ _ _ _ _ _) => false
  | .writeHandshake _ _ _ _ => true
  | .writeCertificate _ _ _ _ => true
  | _ => false

/-- The action sends a message that must not be seen in clear: one of the handshake epoch, or any
message behind the ServerHello. -/
def mustProtect (a : OutputAction) : Prop :=
  (∃ m, a.flight = some (.handshake, m)) ∨ a.isBehindHello = true

end OutputAction

/-- The step is a transition of the handshake, or sends no message of the flight. -/
def MovesFlight (s' : State) (acts : List OutputAction) : Prop :=
  (∃ s, Move s s' acts) ∨ ∀ a ∈ acts, a.flight = none

theorem movesFlight_failActions {s' : State} (s : State) (a : AlertDescription) (e : TlsError) :
    MovesFlight s' (failActions s a e) :=
  .inr (by simp [failActions])

theorem AlertOutcome.movesFlight {s s' : State} {body : Bytes} {acts : List OutputAction}
    (h : AlertOutcome s body s' acts) : MovesFlight s' acts := by
  cases h with
  | malformed => exact movesFlight_failActions _ _ _
  | closeNotify | fatal => exact .inr (by simp)

theorem BytesOutcome.movesFlight {s s' : State} {b : Bytes} {acts : List OutputAction}
    (h : BytesOutcome s b s' acts) : MovesFlight s' acts := by
  cases h with
  | malformed => exact movesFlight_failActions _ _ _
  | awaiting => exact .inr (by simp)
  | record _ h =>
    cases h with
    | noRoom | ccsRefused | hsRefused | invalid => exact movesFlight_failActions _ _ _
    | hsMessage _ _ _ hres => exact .inl ⟨_, (handshakeOnPlaintextRecord_moves _ _).move hres⟩
    | alert _ h => exact h.movesFlight
    | opens | unread | ccsIgnored | hsPartial => exact .inr (by simp)

theorem ResultOutcome.movesFlight {s s' : State} {op : OperationId} {r : CryptoResult}
    {acts : List OutputAction} (h : ResultOutcome s op r s' acts) : MovesFlight s' acts := by
  cases h with
  | unparsed | verifyFailed | failed => exact movesFlight_failActions _ _ _
  | gating _ hres => exact .inl ⟨_, (handshakeOnGatingResult_moves _ _ _).move hres⟩
  | «sealed» => exact .inr (by split <;> simp)
  | opened _ h =>
    cases h with
    | overflow | earlyData | invalid => exact movesFlight_failActions _ _ _
    | message _ _ _ hres => exact .inl ⟨_, (handshakeOnPlaintextRecord_moves _ _).move hres⟩
    | alert _ h => exact h.movesFlight
    | data | skipped => exact .inr (by simp)

theorem Outcome.movesFlight {s s' : State} {ev : InputEvent} {acts : List OutputAction}
    (h : Outcome s ev s' acts) : MovesFlight s' acts := by
  cases h with
  | bytes h => exact h.movesFlight
  | result _ h => exact h.movesFlight
  | sendRefused | closeNotifyRefused | timeout => exact movesFlight_failActions _ _ _
  | stale | deliver | noDelivery | send | closeNotify | closeEarly | closeFatal | closeAbortive
  | reclose | eof | readable | writable | flush => exact .inr (by simp)

/-- **One step** of the core sends its flight in transitions of the handshake. -/
theorem movesFlight_of_steps {t : CoreStep} (ht : Machine.Steps step t) :
    MovesFlight t.target t.output := by
  cases hlive : t.source.handshake.isTerminal with
  | true => exact .inr (by simp [(target_of_terminal ht hlive).2])
  | false => exact (outcome_of_steps ht hlive).movesFlight

/-- The actions send every message behind the ServerHello under the handshake epoch. -/
def WellPlaced (acts : List OutputAction) : Prop :=
  ∀ a ∈ acts, a.isBehindHello = true → ∃ m, a.flight = some (.handshake, m)

theorem Move.wellPlaced {s s' : State} {acts : List OutputAction} (h : Move s s' acts) :
    WellPlaced acts := by
  cases h with
  | failed => simp [WellPlaced, failActions]
  | ecdhe _ _ _ hmsg =>
    obtain ⟨random, suite, group, version, rfl⟩ := hmsg
    simp [WellPlaced]
  | ignored | clientHello | serverRandom | pump | rest | serverFlight | certificateVerify
  | serverFinished | applicationKeys | clientFinished | verified => simp [WellPlaced]

/-- **One step** of the core sends no message behind the ServerHello under another epoch. -/
theorem wellPlaced_of_steps {t : CoreStep} (ht : Machine.Steps step t) : WellPlaced t.output := by
  rcases movesFlight_of_steps ht with ⟨s, hmove⟩ | hnone
  · exact hmove.wellPlaced
  · intro a ha hbehind
    have hflight := hnone a ha
    cases a with
    | writeHandshake | writeCertificate => cases hflight
    | _ => cases hbehind

end Kroopt.Core

namespace Kroopt.Conn

open Kroopt.Core (InputEvent OutputAction Epoch)
open Kroopt.Crypto (SecretArena Hacl)

/-! ## What the interpreter makes of it

It looks up the traffic secret, and where that is missing it frames the message in clear.  Where
only the suite is missing it seals under ChaCha20-Poly1305, whatever was negotiated.  A message that
is too long to be sealed is not sent at all, so it does not matter for that one whether a suite is
recorded. -/

/-- The record that protects a message of the flight under the keys recorded in the arena. -/
def protectedRecord [Hacl] (arena : SecretArena) (seq : UInt64) (plain : Bytes) : Option Bytes :=
  match arena.trafficSecret .write .handshake, arena.lookupInstalledSuite .write .handshake with
  | some secret, some suite =>
    (Record13.sealRecord (Crypto.KeySchedule.trafficKey suite secret)
      (Crypto.KeySchedule.trafficIv secret suite.hashAlg) seq plain .handshake 0 suite).toOption
  | _, _ => none

/-- The action leaks nothing: what it queues is nothing, or its message in an application-data
record sealed under the recorded keys. -/
def Executed.Protected [Hacl] {τ : Type} (e : Executed τ) : Prop :=
  e.action.mustProtect → appended e.rt.arena e.action = [] ∨
    ∃ epoch seq plain, e.action.flight = some (epoch, seq, plain) ∧
      protectedRecord e.rt.arena seq plain = some (appended e.rt.arena e.action) ∧
      (appended e.rt.arena e.action).head? = some 0x17

/-- What an execution leaks, read off what it says: the bytes that `execAction` puts behind the
queue. -/
theorem Executed.protected_iff_said [Hacl] {τ : Type} [Transport τ] (prov : Crypto.CryptoProvider)
    (e : Executed τ) : e.Protected ↔ (e.action.mustProtect → e.said prov = [] ∨
      ∃ epoch seq plain, e.action.flight = some (epoch, seq, plain) ∧
        protectedRecord e.rt.arena seq plain = some (e.said prov) ∧
        (e.said prov).head? = some 0x17) := by
  rw [Executed.said_eq]
  rfl

/-- The action finds the key of the handshake epoch in the arena, and its suite unless the message
is too long for a record. -/
def Executed.Keyed {τ : Type} (e : Executed τ) : Prop :=
  e.action.mustProtect → ∃ m ∈ e.action.flight,
    e.rt.arena.trafficSecret .write .handshake ≠ none ∧
      (e.rt.arena.lookupInstalledSuite .write .handshake ≠ none ∨
        Record13.maxRecordPlaintext < m.2.2.length)

section Wire

variable [Hacl]

/-- A message of the handshake epoch is sealed if the traffic secret is there, under
ChaCha20-Poly1305 if no suite is recorded, and goes out in clear otherwise. -/
theorem handshakeWire_eq (arena : SecretArena) (seq : UInt64) (plain : Bytes) :
    handshakeWire arena .handshake seq plain =
      match arena.trafficSecret .write .handshake with
      | none => .ok (plaintextHandshakeRecord plain)
      | some secret =>
        let suite :=
          (arena.lookupInstalledSuite .write .handshake).getD .chacha20Poly1305Sha256
        Record13.sealRecord (Crypto.KeySchedule.trafficKey suite secret)
          (Crypto.KeySchedule.trafficIv secret suite.hashAlg) seq plain .handshake 0 suite := by
  rw [handshakeWire, sealHandshakeRecord, SecretArena.trafficSecret]
  cases arena.lookupBaseSecret .write .handshake with
  | none => rfl
  | some sid =>
    rw [Option.bind_some]
    dsimp only
    cases arena.getById sid with
    | none => rfl
    | some secret =>
      dsimp only
      generalize Record13.sealRecord _ _ _ _ _ _ _ = res
      cases res <;> rfl

/-- What a flight action queues is the wire form of its message. -/
theorem appended_of_flight {arena : SecretArena} {a : OutputAction} {epoch : Epoch} {seq : UInt64}
    {plain : Bytes} (h : a.flight = some (epoch, seq, plain)) :
    appended arena a = (handshakeWire arena epoch seq plain).toOption.getD [] := by
  cases a with
  | writeHandshake | writeCertificate =>
    cases h
    rfl
  | _ => cases h

/-- Sealing fails exactly on a content that is too long. -/
theorem sealRecord_cases (key iv : Bytes) (seq : UInt64) (content : Bytes) (t : Core.ContentType)
    (pad : Nat) (suite : Core.CipherSuite) :
    (Record13.maxRecordPlaintext < content.length ∧
        (Record13.sealRecord key iv seq content t pad suite).toOption = none) ∨
      (content.length ≤ Record13.maxRecordPlaintext ∧
        ∃ wire, (Record13.sealRecord key iv seq content t pad suite).toOption = some wire ∧
          wire.head? = some 0x17) := by
  cases h : Record13.sealRecord key iv seq content t pad suite with
  | error e => exact .inl ⟨(Record13.sealRecord_eq_error.mp h).1, rfl⟩
  | ok wire =>
    refine .inr ⟨Nat.not_lt.mp fun hlong ↦ ?_, wire, rfl, Record13.sealRecord_head h⟩
    cases h.symm.trans (Record13.sealRecord_eq_error.mpr ⟨hlong, rfl⟩)

/-- **One action** leaks nothing exactly when it finds the key. -/
theorem protected_iff_keyed {τ : Type} {e : Executed τ}
    (hplace : e.action.isBehindHello = true → ∃ m, e.action.flight = some (.handshake, m)) :
    e.Protected ↔ e.Keyed := by
  refine imp_congr_right fun hmust ↦ ?_
  obtain ⟨⟨seq, plain⟩, hflight⟩ := hmust.elim id hplace
  simp only [appended_of_flight hflight, handshakeWire_eq, protectedRecord, hflight,
    Option.mem_def, Option.some.injEq, Prod.mk.injEq, exists_eq_left']
  cases hsecret : e.rt.arena.trafficSecret .write .handshake with
  | none => simp [Except.toOption, plaintextHandshakeRecord]
  | some secret =>
    cases hsuite : e.rt.arena.lookupInstalledSuite .write .handshake with
    | none =>
      rcases sealRecord_cases (Crypto.KeySchedule.trafficKey .chacha20Poly1305Sha256 secret)
          (Crypto.KeySchedule.trafficIv secret Core.CipherSuite.chacha20Poly1305Sha256.hashAlg) seq
          plain .handshake 0 .chacha20Poly1305Sha256 with
          ⟨hlong, hres⟩ | ⟨hshort, wire, hres, hhead⟩
      · simp [hres, hlong]
      · have hne : wire ≠ [] := by
          rintro rfl
          cases hhead
        simp [hres, hne, Nat.not_lt.mpr hshort]
    | some suite =>
      rcases sealRecord_cases (Crypto.KeySchedule.trafficKey suite secret)
          (Crypto.KeySchedule.trafficIv secret suite.hashAlg) seq plain .handshake 0 suite with
        ⟨hlong, hres⟩ | ⟨hshort, wire, hres, hhead⟩
      · simp [hres]
      · simp [hres, hhead]

end Wire

section Drive

variable [Hacl] {τ : Type} [Transport τ]

/-- **The protected flight.**  Whatever a connection is driven with, and however long, what it
executes leaks no message of the flight, if and only if each of them finds the key of the handshake
epoch in the arena, and the suite unless it is too long for a record. -/
theorem protectedFlight_iff (c : TlsConn τ) (fuel : Nat) (evs : List InputEvent) :
    (∀ e ∈ c.driveLog fuel evs, e.Protected) ↔ ∀ e ∈ c.driveLog fuel evs, e.Keyed := by
  refine forall₂_congr fun e he ↦ ?_
  obtain ⟨t, ht, hact⟩ := TlsConn.step_of_mem_driveLog he
  exact protected_iff_keyed (Core.wellPlaced_of_steps ht e.action hact)

end Drive

attribute [local instance] Session.primitives

/-- A provider that acknowledges the installation of keys and installs none: the server flight goes
out in clear. -/
theorem not_protectedFlight :
    ¬ ∀ e ∈ (Session.server []).driveLog 256
        [.transportBytes Core.Session.conn (Core.frameRecord .handshake Core.Session.hello)],
      e.Protected := by
  have hclear : ∃ e ∈ (Session.server []).driveLog 256
      [.transportBytes Core.Session.conn (Core.frameRecord .handshake Core.Session.hello)],
      e.action.isBehindHello = true ∧ (appended e.rt.arena e.action).head? = some 0x16 := by
    decide +kernel
  intro h
  obtain ⟨e, he, hact, hhead⟩ := hclear
  rcases h e he (.inr hact) with hnil | ⟨epoch, seq, plain, -, -, hhead'⟩
  · rw [hnil] at hhead
    cases hhead
  · cases hhead.symm.trans hhead'

end Kroopt.Conn
