import Kroopt.Properties.Negotiation

/-!
# What an event makes the core say

The core speaks in four ways: it asks the provider for an operation, it has a sealed record written,
it sends an alert, and it hands plaintext to the application.  The first two are always heard.  An
alert is heard only where it can be framed, and plaintext only where it is not waiting already; both
depend on the runtime, so they are parameters here, collected in a `Listener`.

`State.Utters` is a table of the events on which a live core speaks, by phase and by what the event
carries.  Most lines of it have one of two shapes.  An event that fails the connection is heard if
its alert is (`fails`), and one that goes on with a new operation is heard if there is room for the
operation, and otherwise as the failure that this is (`asks`).  The exception is the ECDHE result:
by the time the room is looked for, the handshake epoch is installed, so its failure goes out under
that.

## Main definitions

* `Listener`, and `OutputAction.speaks`, what it hears of an action.
* `State.Utters`: the table.

## Main results

* `Outcome.heard_iff`: one step of a live core speaks exactly on the events of the table.
* `Outcome.voiced`: a flight message and accepted plaintext come with a question to the provider, so
  the table need not look at them.
-/

set_option autoImplicit false

namespace Kroopt.Core

open Kroopt.Parse (headOf parseInnerPlaintext)

/-- What is heard of the core: alerts under the epochs whose keys are there, and plaintext that is
not waiting yet. -/
structure Listener where
  frames : Epoch → Prop
  news : Bytes → Prop

/-- The action is heard. -/
@[simp] def OutputAction.speaks (l : Listener) : OutputAction → Prop
  | .callCrypto _ _ _ => True
  | .writeTransport _ _ => True
  | .writeAlert _ epoch _ _ => l.frames epoch
  | .emitPlaintext _ b => l.news b
  | _ => False

/-- One of the actions is heard. -/
def Heard (l : Listener) (acts : List OutputAction) : Prop := ∃ a ∈ acts, a.speaks l

/-! ## The table

One definition for each level at which the core distinguishes events, with the source's own
conditions in the source's order. -/

namespace State

variable (s : State) (l : Listener)

/-- A failure is heard. -/
def fails : Prop := l.frames s.writeEpoch.epoch

/-- A question for a new operation is heard, or the failure if there is no room for it. -/
def asks : Prop := s.hasOpRoom ∨ s.fails l

def uttersMessage (msg : Bytes) : Prop :=
  match s.handshake with
  | .start => s.admitsHello msg ∨ s.fails l
  | .sentServerFinished => s.asks l
  | _ => False

def uttersAlert (body : Bytes) : Prop := body.length ≠ 2 ∧ s.fails l

def uttersRecord (hdr : Parse.ValidRecordHeader) (body : Bytes) : Prop :=
  match hdr.outerType with
  | .applicationData => s.handshake.opensRecords ∧ s.asks l
  | .changeCipherSpec => ¬ (s.handshake.ccsWindow ∧ body = [1]) ∧ s.fails l
  | .handshake =>
    if s.fitsFragment body then
      match frameHandshakeMessage (s.handshakeReasm ++ body) with
      | none => False
      | some (msg, tail) => (s.reassembled body.length tail).uttersMessage l msg
    else s.fails l
  | .alert => s.uttersAlert l body
  | .invalid => s.fails l

def uttersBytes (b : Bytes) : Prop :=
  match headOf (s.inboundCiphertext ++ b) with
  | .malformed _ => s.fails l
  | .awaiting => False
  | .record hdr body rest => (s.received rest).uttersRecord l hdr body

def uttersInner (op : OperationId) (inner : TLSInnerPlaintext) : Prop :=
  match inner.ctype with
  | .applicationData => (s.handshake = .connected → s.readEpoch.seq.next = none) ∧ s.fails l
  | .handshake =>
    s.handshake ≠ .connected ∧
      match s.readEpoch.seq.next with
      | none => s.fails l
      | some sq => (s.advanced op sq).uttersMessage l inner.content
  | .alert => s.uttersAlert l inner.content
  | .changeCipherSpec => False
  | .invalid => s.handshake ≠ .connected ∧ s.fails l

/-- The key-schedule driver goes on, or pauses for the next flight message. -/
def uttersSchedule (r : CryptoResult) : Prop :=
  match s.keySched with
  | none => s.fails l
  | some ksd =>
    match KeyScheduleDriver.advance ksd r with
    | .error _ => s.fails l
    | .ok (_, _ :: _) => s.asks l
    | .ok (ksd, []) =>
      s.handshake = .derivedHandshakeSecrets ∧ ksd.phase = .handshakeKeysInstalled ∧ s.asks l

/-- The state is that without the operation. -/
def uttersGating (r : CryptoResult) : Prop :=
  match r with
  | .randomBytes _ => s.handshake = .requestedServerRandom ∧ s.asks l
  | .ecdheComplete _ _ => s.handshake = .requestedEcdhe ∧ (s.hasOpRoom ∨ l.frames .handshake)
  | .hkdfSecret _ =>
    (s.handshake = .derivedHandshakeSecrets ∨ s.handshake = .sentCertificateVerify) ∧
      s.uttersSchedule l r
  | .keysInstalled =>
    (s.handshake = .derivedHandshakeSecrets ∨ s.handshake = .sentCertificateVerify) ∧
      s.uttersSchedule l r
  | .signature _ => s.handshake = .requestedCertificateVerifySignature ∧ s.asks l
  | .finishedMac _ =>
    s.handshake = .requestedServerFinishedMac ∧
      if s.keySched.map (·.phase) = some .handshakeKeysInstalled then s.asks l else s.fails l
  | _ => False

def uttersResult (op : OperationId) (r : CryptoResult) : Prop :=
  match r with
  | .aeadSealed _ => True
  | .aeadOpened pt =>
    match parseInnerPlaintext pt with
    | .error _ => s.fails l
    | .ok inner => s.uttersInner l op inner
  | .verifyFailed => s.fails l
  | .failed _ => s.fails l
  | r => (s.clearOp op).uttersGating l r

/-- **The events on which a live core speaks.** -/
def Utters (ev : InputEvent) : Prop :=
  match ev with
  | .transportBytes _ b => s.uttersBytes l b
  | .cryptoResult _ op r => s.pendingOps.contains op = true ∧ s.uttersResult l op r
  | .appRecvRequested _ => s.handshake = .connected ∧ ∃ b, s.pendingPlainOut = some b ∧ l.news b
  | .appSend _ _ =>
    (s.handshake = .connected ∧ s.writeEpoch.seq.next.isSome ∧ s.hasOpRoom) ∨ s.fails l
  | .appClose _ .graceful =>
    s.closeState = .open ∧ s.handshake = .connected ∧
      ((s.writeEpoch.seq.next.isSome ∧ s.hasOpRoom) ∨ s.fails l)
  | .appClose _ (.fatal _) => s.closeState = .open ∧ s.fails l
  | .timeout _ _ => s.fails l
  | _ => False

end State

/-! ## Handshake transitions

What each transition returns is a failure, or ends in an allocation that goes on with a question, or
is nothing.  `HeardIff` says of such a result when it is heard, and there is one lemma for each of
the three, and one for a transition that is taken in one phase only. -/

variable {s s' : State} {l : Listener} {acts : List OutputAction}

@[simp] theorem not_heard_nil : ¬ Heard l [] := by
  rintro ⟨a, ha, -⟩
  cases ha

theorem heard_cons {a : OutputAction} : Heard l (a :: acts) ↔ a.speaks l ∨ Heard l acts := by
  simp [Heard]

/-- A failure is heard if its alert is. -/
theorem heard_failActions (s : State) (a : AlertDescription) (e : TlsError) :
    Heard l (failActions s a e) ↔ s.fails l := by
  simp [failActions, heard_cons, State.fails]

/-- What is heard of what a transition returns. -/
def HeardIff (l : Listener) (res : StepResult) (P : Prop) : Prop :=
  ∀ s' acts, res = .ok (s', acts) → (Heard l acts ↔ P)

theorem HeardIff.ignored (s : State) : HeardIff l (.ok (s, [])) False := by
  intro s' acts h
  obtain ⟨-, rfl⟩ := Prod.mk.inj (Except.ok.inj h)
  exact iff_of_false not_heard_nil id

theorem HeardIff.failed (s : State) (a : AlertDescription) (e : TlsError) :
    HeardIff l (hsFail s a e) (s.fails l) := by
  intro s' acts h
  obtain ⟨-, rfl⟩ := Prod.mk.inj (Except.ok.inj h)
  exact heard_failActions s a e

theorem HeardIff.ok {s : State} (h : Heard l acts) : HeardIff l (.ok (s, acts)) True := by
  intro s' acts' hres
  obtain ⟨-, rfl⟩ := Prod.mk.inj (Except.ok.inj hres)
  exact iff_of_true h trivial

/-- A result that is looked at in one phase only, and otherwise ignored. -/
theorem HeardIff.guarded {s : State} {phase : HandshakeState} {res : StepResult} {P : Prop}
    (h : s.handshake = phase → HeardIff l res P) :
    HeardIff l (if s.handshake = phase then res else .ok (s, [])) (s.handshake = phase ∧ P) := by
  split
  · rename_i hphase
    rw [and_iff_right hphase]
    exact h hphase
  · rename_i hphase
    rw [eq_false (fun hP : s.handshake = phase ∧ P ↦ hphase hP.1)]
    exact .ignored s

/-- An allocation that goes on with a question. -/
theorem HeardIff.asked {s : State} {kind : CryptoOpKind} {epoch : Epoch}
    {dir : Option Direction} {k : OperationId → State → StepResult}
    (hk : ∀ op s₁, HeardIff l (k op s₁) True) :
    HeardIff l (allocOpOrFail s kind epoch dir k) (s.asks l) := by
  intro s' acts h
  rcases allocOpOrFail_cases h with ⟨hroom, hres⟩ | ⟨hroom, -, rfl⟩
  · exact iff_of_true ((hk _ _ _ _ hres).mpr trivial) (.inl hroom)
  · rw [heard_failActions, State.asks, or_iff_right hroom]

theorem onServerRandomDone_heard (hphase : s.handshake = .requestedServerRandom)
    (random : Bytes) : HeardIff l (onServerRandomDone s random) (s.asks l) := by
  rw [onServerRandomDone, if_pos hphase]
  exact .asked fun op s₁ ↦ .ok (by simp [heard_cons])

theorem onEcdheDone_heard (hphase : s.handshake = .requestedEcdhe) (share : Bytes)
    (secret : SecretKeyHandle) :
    HeardIff l (onEcdheDone s share secret) (s.hasOpRoom ∨ l.frames .handshake) := by
  rw [onEcdheDone, if_pos hphase]
  exact .asked fun op s₁ ↦ .ok (by simp [heard_cons])

theorem onHsScheduleResult_heard (hphase : s.handshake = .derivedHandshakeSecrets)
    (r : CryptoResult) : HeardIff l (onHsScheduleResult s r) (s.uttersSchedule l r) := by
  rw [onHsScheduleResult, if_pos hphase, State.uttersSchedule]
  cases s.keySched with
  | none => exact .failed s _ _
  | some ksd₀ =>
    dsimp only
    cases KeyScheduleDriver.advance ksd₀ r with
    | error e => exact .failed s _ _
    | ok p =>
      obtain ⟨ksd, ops⟩ := p
      cases ops with
      | cons op ops =>
        exact .asked fun op s₁ ↦ .ok (by simp [heard_cons])
      | nil =>
        dsimp only
        by_cases hksd : ksd.phase = .handshakeKeysInstalled
        · rw [if_pos hksd]
          simp only [hphase, hksd, true_and]
          exact .asked fun op s₁ ↦ .ok (by simp [heard_cons])
        · rw [if_neg hksd]
          simp only [hphase, hksd, true_and, false_and]
          exact .ignored _

theorem onApScheduleResult_heard (hphase : s.handshake = .sentCertificateVerify)
    (r : CryptoResult) : HeardIff l (onApScheduleResult s r) (s.uttersSchedule l r) := by
  rw [onApScheduleResult, if_pos hphase, State.uttersSchedule]
  cases s.keySched with
  | none => exact .failed s _ _
  | some ksd₀ =>
    dsimp only
    cases KeyScheduleDriver.advance ksd₀ r with
    | error e => exact .failed s _ _
    | ok p =>
      obtain ⟨ksd, ops⟩ := p
      cases ops with
      | cons op ops =>
        exact .asked fun op s₁ ↦ .ok (by simp [heard_cons])
      | nil =>
        dsimp only
        simp only [hphase, reduceCtorEq, false_and]
        split <;> exact .ignored _

/-- A result of the key schedule goes to the driver of the epoch that is being keyed. -/
theorem scheduleResult_heard (s : State) (r : CryptoResult) :
    HeardIff l (if s.handshake = .derivedHandshakeSecrets then onHsScheduleResult s r
        else if s.handshake = .sentCertificateVerify then onApScheduleResult s r else .ok (s, []))
      ((s.handshake = .derivedHandshakeSecrets ∨ s.handshake = .sentCertificateVerify) ∧
        s.uttersSchedule l r) := by
  by_cases hphase : s.handshake = .derivedHandshakeSecrets
  · rw [if_pos hphase, and_iff_right (.inl hphase)]
    exact onHsScheduleResult_heard hphase r
  · rw [if_neg hphase, or_iff_right hphase]
    exact .guarded fun hap ↦ onApScheduleResult_heard hap r

theorem onCertVerifySigned_heard (hphase : s.handshake = .requestedCertificateVerifySignature)
    (sig : Bytes) : HeardIff l (onCertVerifySigned s sig) (s.asks l) := by
  rw [onCertVerifySigned, if_pos hphase]
  exact .asked fun op s₁ ↦ .ok (by simp [heard_cons])

theorem onServerFinishedMac_heard (hphase : s.handshake = .requestedServerFinishedMac)
    (mac : Bytes) : HeardIff l (onServerFinishedMac s mac)
      (if s.keySched.map (·.phase) = some .handshakeKeysInstalled then s.asks l
        else s.fails l) := by
  rw [onServerFinishedMac, if_pos hphase]
  cases s.keySched with
  | none => exact .failed s _ _
  | some ksd =>
    dsimp only
    rw [KeyScheduleDriver.resumeApplication]
    simp only [Option.map_some, Option.some.injEq]
    by_cases hksd : ksd.phase = .handshakeKeysInstalled
    · rw [if_pos hksd, if_pos hksd]
      exact .asked fun op s₁ ↦ .ok (by simp [heard_cons])
    · rw [if_neg hksd, if_neg hksd]
      exact .failed s _ _

theorem onClientFinishedBytes_heard (hphase : s.handshake = .sentServerFinished) (wire : Bytes) :
    HeardIff l (onClientFinishedBytes s wire) (s.asks l) := by
  rw [onClientFinishedBytes, if_pos hphase]
  exact .asked fun op s₁ ↦ .ok (by simp [heard_cons])

/-- A ClientHello that fails the connection does so under the epoch it is in. -/
theorem onClientHello_failed (hphase : s.handshake = .start) {hello : ValidClientHello}
    {wire : Bytes} (h : onClientHello s hello wire = .ok (s', acts))
    (hend : s'.handshake.isTerminal = true) : Heard l acts ↔ s.fails l := by
  have hfail : ∀ {s₀ : State} {a : AlertDescription} {e : TlsError},
      hsFail s₀ a e = .ok (s', acts) → s₀.writeEpoch = s.writeEpoch →
        (Heard l acts ↔ s.fails l) := fun hres hwrite ↦ by
    rw [HeardIff.failed _ _ _ _ _ hres, State.fails, hwrite, State.fails]
  rw [onClientHello, if_pos hphase] at h
  split at h
  · exact hfail h rfl
  · split at h
    · exact hfail h rfl
    · dsimp only at h
      split at h
      · exact hfail h rfl
      · split at h
        · exact hfail h rfl
        · rcases allocOpOrFail_cases h with ⟨-, hres⟩ | ⟨-, -, rfl⟩
          · obtain ⟨rfl, -⟩ := Prod.mk.inj (Except.ok.inj hres)
            cases hend
          · exact heard_failActions _ _ _

/-! ## The two entry points -/

/-- **Crypto results.** -/
theorem handshakeOnGatingResult_heard (s : State) (op : OperationId) {r : CryptoResult}
    (hr : (∀ pt, r ≠ .aeadOpened pt) ∧ (∀ ct, r ≠ .aeadSealed ct) ∧ r ≠ .verifyFailed ∧
      ∀ e, r ≠ .failed e) :
    HeardIff l (handshakeOnGatingResult s op r) ((s.clearOp op).uttersGating l r) := by
  rw [handshakeOnGatingResult.eq_def, State.uttersGating.eq_def]
  dsimp only
  cases r with
  | randomBytes b => exact .guarded fun hphase ↦ onServerRandomDone_heard hphase b
  | ecdheComplete share secret => exact .guarded fun hphase ↦ onEcdheDone_heard hphase share secret
  | signature sig => exact .guarded fun hphase ↦ onCertVerifySigned_heard hphase sig
  | finishedMac mac => exact .guarded fun hphase ↦ onServerFinishedMac_heard hphase mac
  | hkdfSecret h => exact scheduleResult_heard _ _
  | keysInstalled => exact scheduleResult_heard _ _
  | verified =>
    dsimp only
    split
    · rename_i hphase
      intro s' acts h
      rw [onClientFinishedVerified, if_pos hphase, if_pos rfl] at h
      obtain ⟨-, rfl⟩ := Prod.mk.inj (Except.ok.inj h)
      simp [heard_cons]
    · exact .ignored _
  | aeadOpened pt => exact absurd rfl (hr.1 pt)
  | aeadSealed ct => exact absurd rfl (hr.2.1 ct)
  | verifyFailed => exact absurd rfl hr.2.2.1
  | failed e => exact absurd rfl (hr.2.2.2 e)

/-- **Handshake messages.** -/
theorem handshakeOnPlaintextRecord_heard (s : State) (msg : Bytes) :
    HeardIff l (handshakeOnPlaintextRecord s msg) (s.uttersMessage l msg) := by
  intro s' acts h
  by_cases hstart : s.handshake = .start
  · simp only [State.uttersMessage, hstart]
    obtain ⟨s₁, acts₁, hres, hcase⟩ := handshakeOnPlaintextRecord_greets hstart msg
    obtain ⟨rfl, rfl⟩ := Prod.mk.inj (Except.ok.inj (hres.symm.trans h))
    rcases hcase with ⟨hadm, hrandom, -⟩ | ⟨hnot, hfail⟩
    · -- of the moves from here only the one of the ClientHello leads on
      refine iff_of_true ?_ (.inl hadm)
      cases (handshakeOnPlaintextRecord_moves s msg).move h with
      | clientHello => simp [heard_cons]
      | ignored => cases hstart.symm.trans hrandom
      | failed => cases hrandom
      | _ => simp_all
    · rw [or_iff_right hnot]
      rw [handshakeOnPlaintextRecord, if_pos hstart] at h
      split at h
      · exact HeardIff.failed s _ _ _ _ h
      · exact onClientHello_failed hstart h hfail.isTerminal
  · by_cases hfin : s.handshake = .sentServerFinished
    · simp only [State.uttersMessage, hfin]
      rw [handshakeOnPlaintextRecord, if_neg hstart, if_pos hfin] at h
      exact onClientFinishedBytes_heard hfin msg s' acts h
    · rw [handshakeOnPlaintextRecord_ignored msg hstart hfin] at h
      have hnone : ¬ s.uttersMessage l msg := by
        rw [State.uttersMessage]
        split
        · exact absurd ‹_› hstart
        · exact absurd ‹_› hfin
        · exact id
      rw [iff_false_intro hnone]
      exact HeardIff.ignored s s' acts h

/-! ## One step -/

theorem AlertOutcome.heard {body : Bytes} (h : AlertOutcome s body s' acts) :
    Heard l acts ↔ s.uttersAlert l body := by
  cases h with
  | malformed hlen => rw [heard_failActions, State.uttersAlert, and_iff_right hlen]
  | closeNotify hlen => simp [heard_cons, State.uttersAlert, hlen]
  | fatal hlen => simp [heard_cons, State.uttersAlert, hlen]

theorem RecordOutcome.heard {hdr : Parse.ValidRecordHeader} {body : Bytes}
    (h : RecordOutcome s hdr body s' acts) : Heard l acts ↔ s.uttersRecord l hdr body := by
  rw [State.uttersRecord]
  cases h with
  | opens ht hphase hroom => simp [ht, heard_cons, hphase, State.asks, hroom]
  | noRoom ht hphase hroom => simp [ht, heard_failActions, hphase, State.asks, hroom]
  | unread ht hphase => simp [ht, hphase]
  | ccsIgnored ht hphase hbody => simp [ht, hphase, hbody]
  | ccsRefused ht hnot => simp [ht, heard_failActions, hnot]
  | hsRefused ht hfits => simp [ht, heard_failActions, hfits]
  | hsPartial ht hfits hframe => simp [ht, heard_cons, hfits, hframe]
  | hsMessage ht hfits hframe hres =>
    simp only [ht, if_pos hfits, hframe]
    exact handshakeOnPlaintextRecord_heard _ _ _ _ hres
  | alert ht h => simp only [ht, h.heard]
  | invalid ht => simp only [ht, heard_failActions]

theorem BytesOutcome.heard {b : Bytes} (h : BytesOutcome s b s' acts) :
    Heard l acts ↔ s.uttersBytes l b := by
  rw [State.uttersBytes]
  cases h with
  | malformed hh => simp only [hh, heard_failActions]
  | awaiting hh => simp [hh, heard_cons]
  | record hh h => simp only [hh, h.heard]

theorem InnerOutcome.heard {op : OperationId} {inner : TLSInnerPlaintext}
    (h : InnerOutcome s op inner s' acts) : Heard l acts ↔ s.uttersInner l op inner := by
  rw [State.uttersInner]
  cases h with
  | data ht hphase hseq => simp [ht, hphase, hseq]
  | message ht hphase hseq hres =>
    simp only [ht, hseq, and_iff_right hphase]
    exact handshakeOnPlaintextRecord_heard _ _ _ _ hres
  | overflow ht hseq =>
    rw [heard_failActions]
    by_cases hphase : s.handshake = .connected <;> simp [ht, hphase, hseq]
  | earlyData ht hphase => simp [ht, heard_failActions, hphase]
  | invalid ht hphase => simp [ht, heard_failActions, hphase]
  | alert ht h => simp only [ht, h.heard]; exact Iff.rfl
  | skipped ht =>
    rcases ht with ht | ⟨hphase, ht | ht⟩ <;> simp [ht]
    · exact fun h ↦ absurd hphase h
    · exact fun h ↦ absurd hphase h

theorem ResultOutcome.heard {op : OperationId} {r : CryptoResult}
    (h : ResultOutcome s op r s' acts) : Heard l acts ↔ s.uttersResult l op r := by
  rw [State.uttersResult.eq_def]
  cases h with
  | unparsed hp => simp only [hp, heard_failActions]
  | opened hp h => simp only [hp, h.heard]
  | «sealed» => simp [heard_cons]
  | verifyFailed | failed => exact heard_failActions _ _ _
  | gating hr hres =>
    rw [handshakeOnGatingResult_heard s op hr _ _ hres]
    split
    · exact absurd rfl (hr.2.1 _)
    · exact absurd rfl (hr.1 _)
    · exact absurd rfl hr.2.2.1
    · exact absurd rfl (hr.2.2.2 _)
    · rfl

/-- **One step** of a live core is heard exactly on the events of the table. -/
theorem Outcome.heard_iff {ev : InputEvent} (h : Outcome s ev s' acts) :
    Heard l acts ↔ s.Utters l ev := by
  rw [State.Utters.eq_def]
  cases h with
  | bytes h => exact h.heard
  | stale hstale => simp [hstale]
  | result hop h => simp only [hop, true_and, h.heard]
  | deliver hphase hp => simp [heard_cons, hphase, hp]
  | noDelivery h =>
    refine iff_of_false not_heard_nil ?_
    rintro ⟨hphase, b, hp, -⟩
    cases (h hphase).symm.trans hp
  | send hphase hseq hroom => simp [heard_cons, hphase, hseq, hroom]
  | sendRefused h => rw [heard_failActions, or_iff_right h]
  | closeNotify hopen hphase hseq hroom => simp [heard_cons, hopen, hphase, hseq, hroom]
  | closeNotifyRefused hopen hphase h =>
    rw [heard_failActions]
    exact ⟨fun hf ↦ ⟨hopen, hphase, .inr hf⟩, fun hf ↦ hf.2.2.resolve_left h⟩
  | closeEarly hopen hphase => simp [heard_cons, hphase]
  | closeFatal hopen => simp [heard_cons, hopen, State.fails]
  | closeAbortive => simp [heard_cons]
  | @reclose _ mode hopen => cases mode <;> simp [heard_cons, hopen]
  | timeout => exact heard_failActions _ _ _
  | eof | readable | writable | flush => simp [heard_cons]

/-! ## What comes with a question

The interpreter may refuse a flight message that is too long, and it always raises the count of
accepted bytes.  Neither needs a line in the table, since neither stands alone in its list of
actions. -/

/-- The action can be heard only in the list it stands in: it sends a flight message, or accepts
plaintext. -/
@[simp] def OutputAction.comesAlong : OutputAction → Bool
  | .writeHandshake _ _ _ _ => true
  | .writeCertificate _ _ _ _ => true
  | .acceptPlaintextBytes _ _ => true
  | _ => false

/-- Whether the action is heard depends on the runtime. -/
@[simp] def OutputAction.depends : OutputAction → Bool
  | .writeAlert _ _ _ _ => true
  | .emitPlaintext _ _ => true
  | _ => false

/-- The actions of a step: what comes along has a question in its list, and what depends on the
runtime comes first. -/
structure Voiced (acts : List OutputAction) : Prop where
  asked : (∃ a ∈ acts, a.comesAlong = true) → ∃ conn op req, .callCrypto conn op req ∈ acts
  first : ∀ a ∈ acts.tail, a.depends = false

theorem voiced_failActions (s : State) (a : AlertDescription) (e : TlsError) :
    Voiced (failActions s a e) where
  asked := by simp [failActions]
  first := by simp [failActions]

theorem voiced_asked {conn : ConnId} {op : OperationId} {req : CryptoOp}
    (hask : .callCrypto conn op req ∈ acts) (hfirst : ∀ a ∈ acts.tail, a.depends = false) :
    Voiced acts :=
  ⟨fun _ ↦ ⟨conn, op, req, hask⟩, hfirst⟩

theorem voiced_quiet (halong : ∀ a ∈ acts, a.comesAlong = false)
    (hfirst : ∀ a ∈ acts.tail, a.depends = false) : Voiced acts := by
  refine ⟨?_, hfirst⟩
  rintro ⟨a, ha, h⟩
  cases (halong a ha).symm.trans h

theorem Move.voiced (h : Move s s' acts) : Voiced acts := by
  cases h with
  | failed => exact voiced_failActions _ _ _
  | ignored | rest | applicationKeys | verified => exact voiced_quiet (by simp) (by simp)
  | clientHello | serverRandom | pump | clientFinished =>
    exact voiced_asked List.mem_cons_self (by simp)
  | ecdhe | certificateVerify | serverFinished =>
    exact voiced_asked (List.mem_cons_of_mem _ List.mem_cons_self) (by simp)
  | serverFlight =>
    exact voiced_asked
      (List.mem_cons_of_mem _ (List.mem_cons_of_mem _ List.mem_cons_self)) (by simp)

theorem AlertOutcome.voiced {body : Bytes} (h : AlertOutcome s body s' acts) : Voiced acts := by
  cases h with
  | malformed => exact voiced_failActions _ _ _
  | closeNotify | fatal => exact voiced_quiet (by simp) (by simp)

theorem BytesOutcome.voiced {b : Bytes} (h : BytesOutcome s b s' acts) : Voiced acts := by
  cases h with
  | malformed => exact voiced_failActions _ _ _
  | awaiting => exact voiced_quiet (by simp) (by simp)
  | record _ h =>
    cases h with
    | noRoom | ccsRefused | hsRefused | invalid => exact voiced_failActions _ _ _
    | hsMessage _ _ _ hres => exact ((handshakeOnPlaintextRecord_moves _ _).move hres).voiced
    | alert _ h => exact h.voiced
    | opens => exact voiced_asked List.mem_cons_self (by simp)
    | unread | ccsIgnored | hsPartial => exact voiced_quiet (by simp) (by simp)

theorem ResultOutcome.voiced {op : OperationId} {r : CryptoResult}
    (h : ResultOutcome s op r s' acts) : Voiced acts := by
  cases h with
  | unparsed | verifyFailed | failed => exact voiced_failActions _ _ _
  | gating _ hres => exact ((handshakeOnGatingResult_moves _ _ _).move hres).voiced
  | «sealed» =>
    split <;> exact voiced_quiet (by simp) (by simp)
  | opened _ h =>
    cases h with
    | overflow | earlyData | invalid => exact voiced_failActions _ _ _
    | message _ _ _ hres => exact ((handshakeOnPlaintextRecord_moves _ _).move hres).voiced
    | alert _ h => exact h.voiced
    | data | skipped => exact voiced_quiet (by simp) (by simp)

/-- **One step** of a live core. -/
theorem Outcome.voiced {ev : InputEvent} (h : Outcome s ev s' acts) : Voiced acts := by
  cases h with
  | bytes h => exact h.voiced
  | result _ h => exact h.voiced
  | sendRefused | closeNotifyRefused | timeout => exact voiced_failActions _ _ _
  | send | closeNotify => exact voiced_asked List.mem_cons_self (by simp)
  | stale | deliver | noDelivery | closeEarly | closeFatal | closeAbortive | reclose | eof
  | readable | writable | flush => exact voiced_quiet (by simp) (by simp)

/-! ## A core that has nothing left to say

A core in a phase that waits for results only, and with no operation outstanding, has nothing to
answer.  The failures that are left to it are heard only if its alert can be framed. -/

/-- The phases in which the core waits for something from outside. -/
def HandshakeState.listens : HandshakeState → Bool
  | .start => true
  | .sentServerFinished => true
  | .connected => true
  | _ => false

theorem HandshakeState.ne_of_not_listens {h : HandshakeState} (hl : h.listens = false) :
    h ≠ .start ∧ h ≠ .sentServerFinished ∧ h ≠ .connected := by
  refine ⟨?_, ?_, ?_⟩ <;>
  · rintro rfl
    cases hl

theorem not_opensRecords_of_not_listens {h : HandshakeState} (hl : h.listens = false) :
    ¬ h.opensRecords :=
  fun ho ↦ ho.elim (HandshakeState.ne_of_not_listens hl).2.2
    (HandshakeState.ne_of_not_listens hl).2.1

theorem State.not_uttersMessage {msg : Bytes} (hdeaf : s.handshake.listens = false) :
    ¬ s.uttersMessage l msg := by
  obtain ⟨hstart, hfin, -⟩ := HandshakeState.ne_of_not_listens hdeaf
  rw [State.uttersMessage]
  split
  · rename_i h
    exact absurd h hstart
  · rename_i h
    exact absurd h hfin
  · exact id

/-- **A core that waits** neither for something from outside nor for a result says nothing, if its
failures go unheard. -/
theorem State.not_utters (hdeaf : s.handshake.listens = false) (hops : s.pendingOps.ops = [])
    (hfails : ¬ s.fails l) (ev : InputEvent) : ¬ s.Utters l ev := by
  have hconn := (HandshakeState.ne_of_not_listens hdeaf).2.2
  have hstale : ∀ op, s.pendingOps.contains op = false := fun op ↦ by
    rw [PendingCryptoOps.contains, hops]
    rfl
  have hbytes : ∀ b, ¬ s.uttersBytes l b := by
    intro b
    rw [State.uttersBytes]
    split
    · exact hfails
    · exact id
    · rw [State.uttersRecord]
      split
      · exact fun h ↦ not_opensRecords_of_not_listens hdeaf h.1
      · exact fun h ↦ hfails h.2
      · split
        · split
          · exact id
          · exact State.not_uttersMessage hdeaf
        · exact hfails
      · exact fun h ↦ hfails h.2
      · exact hfails
  rw [State.Utters.eq_def]
  split
  · exact hbytes _
  · exact fun h ↦ by cases (hstale _).symm.trans h.1
  · exact fun h ↦ hconn h.1
  · exact fun h ↦ h.elim (fun h ↦ hconn h.1) hfails
  · exact fun h ↦ hconn h.2.1
  · exact fun h ↦ hfails h.2
  · exact hfails
  · exact id

/-- It waits on, begins to close, or ends. -/
theorem Outcome.waits {ev : InputEvent} (h : Outcome s ev s' acts)
    (hdeaf : s.handshake.listens = false) (hops : s.pendingOps.ops = []) :
    s'.handshake.isTerminal = true ∨ (s'.handshake.listens = false ∧
      s'.pendingOps = s.pendingOps ∧ s'.writeEpoch = s.writeEpoch) := by
  obtain ⟨hstart, hfin, hconn⟩ := HandshakeState.ne_of_not_listens hdeaf
  cases h with
  | bytes h =>
    cases h with
    | malformed => exact .inl rfl
    | awaiting => exact .inr ⟨hdeaf, rfl, rfl⟩
    | record _ h =>
      cases h with
      | noRoom | ccsRefused | hsRefused | invalid => exact .inl rfl
      | opens _ hopens => exact absurd hopens (not_opensRecords_of_not_listens hdeaf)
      | hsMessage _ _ _ hres =>
        have hignored := hres.symm.trans (handshakeOnPlaintextRecord_ignored _ hstart hfin)
        obtain ⟨rfl, -⟩ := Prod.mk.inj (Except.ok.inj hignored)
        exact .inr ⟨hdeaf, rfl, rfl⟩
      | alert _ h =>
        cases h with
        | closeNotify => exact .inr ⟨rfl, rfl, rfl⟩
        | fatal | malformed => exact .inl rfl
      | unread | ccsIgnored | hsPartial => exact .inr ⟨hdeaf, rfl, rfl⟩
  | result hop =>
    rw [PendingCryptoOps.contains, hops] at hop
    cases hop
  | deliver hphase | send hphase | closeNotify _ hphase => exact absurd hphase hconn
  | sendRefused | closeNotifyRefused | closeFatal | closeAbortive | eof | timeout => exact .inl rfl
  | closeEarly => exact .inr ⟨rfl, rfl, rfl⟩
  | stale | noDelivery | reclose | readable | writable | flush => exact .inr ⟨hdeaf, rfl, rfl⟩

/-! ## Failing -/

/-- The action reports a failure. -/
@[simp] def OutputAction.isFailure : OutputAction → Bool
  | .reportError _ _ => true
  | .failWithAlert _ _ => true
  | _ => false

/-- A failure is reported only by a step that ends the connection. -/
def FailsAtEnd (s' : State) (acts : List OutputAction) : Prop :=
  s'.handshake.isTerminal = true ∨ ∀ a ∈ acts, a.isFailure = false

theorem Move.failsAtEnd (h : Move s s' acts) : FailsAtEnd s' acts := by
  cases h with
  | failed => exact .inl rfl
  | ignored | clientHello | serverRandom | ecdhe | pump | rest | serverFlight | certificateVerify
  | serverFinished | applicationKeys | clientFinished | verified => exact .inr (by simp)

theorem AlertOutcome.failsAtEnd {body : Bytes} (h : AlertOutcome s body s' acts) :
    FailsAtEnd s' acts := by
  cases h with
  | malformed | fatal => exact .inl rfl
  | closeNotify => exact .inr (by simp)

theorem BytesOutcome.failsAtEnd {b : Bytes} (h : BytesOutcome s b s' acts) :
    FailsAtEnd s' acts := by
  cases h with
  | malformed => exact .inl rfl
  | awaiting => exact .inr (by simp)
  | record _ h =>
    cases h with
    | noRoom | ccsRefused | hsRefused | invalid => exact .inl rfl
    | hsMessage _ _ _ hres => exact ((handshakeOnPlaintextRecord_moves _ _).move hres).failsAtEnd
    | alert _ h => exact h.failsAtEnd
    | opens | unread | ccsIgnored | hsPartial => exact .inr (by simp)

theorem ResultOutcome.failsAtEnd {op : OperationId} {r : CryptoResult}
    (h : ResultOutcome s op r s' acts) : FailsAtEnd s' acts := by
  cases h with
  | unparsed | verifyFailed | failed => exact .inl rfl
  | gating _ hres => exact ((handshakeOnGatingResult_moves _ _ _).move hres).failsAtEnd
  | «sealed» => exact .inr (by split <;> simp)
  | opened _ h =>
    cases h with
    | overflow | earlyData | invalid => exact .inl rfl
    | message _ _ _ hres => exact ((handshakeOnPlaintextRecord_moves _ _).move hres).failsAtEnd
    | alert _ h => exact h.failsAtEnd
    | data | skipped => exact .inr (by simp)

/-- **One step** of a live core. -/
theorem Outcome.failsAtEnd {ev : InputEvent} (h : Outcome s ev s' acts) : FailsAtEnd s' acts := by
  cases h with
  | bytes h => exact h.failsAtEnd
  | result _ h => exact h.failsAtEnd
  | sendRefused | closeNotifyRefused | closeFatal | timeout | eof => exact .inl rfl
  | stale | deliver | noDelivery | send | closeNotify | closeEarly | closeAbortive | reclose
  | readable | writable | flush => exact .inr (by simp)

end Kroopt.Core
