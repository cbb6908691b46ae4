import Kroopt.Conn.Account
import Kroopt.Properties.Operations

/-!
# What is sealed is written

A record reaches the outbound queue in two rounds of the drive loop.  In the first the core asks the
provider to seal a fragment, or the close_notify; in the second the sealed record comes back as a
result and is written.  So a loop that stops after its first round loses the record, although the
fragment was accepted.

## Main definitions

* `SealOutcome`: what a step asks to have sealed.  It asks for nothing, or for one record, and
  accepts exactly the fragment in it.
* `SealsSucceed prov`: the provider seals whatever it is asked to.
* `Executed.sealed?` and `Executed.written?`: the record that the provider seals in an execution,
  and the record that an execution writes.

## Main results

* `Outcome.seals`: one step of the core, for every event.
* `sealed_sublist_written`: with two rounds or more a call, every record that the provider seals in
  a run of calls is written, in the order of the seals.
* `written_eq_nil`: with one round a call, no record is written at all, unless the application hands
  in the provider's result itself.
-/

set_option autoImplicit false

namespace Kroopt.Core

/-! ## What a step asks to have sealed

Only a connected session asks for a seal, and only when the application writes or closes.
Everything else that a step can do has to be looked at once, to see that it handles no record at
all. -/

/-- The action asks the provider to seal a record. -/
@[simp] def OutputAction.asksSeal : OutputAction → Bool
  | .callCrypto _ _ req => decide (req.kind = .aeadSeal)
  | _ => false

/-- The action is a step on the way of a record to the peer: it accepts plaintext, asks for a seal,
or writes what was sealed. -/
@[simp] def OutputAction.handlesRecord : OutputAction → Bool
  | .callCrypto _ _ req => decide (req.kind = .aeadSeal)
  | .acceptPlaintextBytes _ _ => true
  | .writeTransport _ _ => true
  | _ => false

/-- No action asks for a seal. -/
def NoSeal (acts : List OutputAction) : Prop := ∀ a ∈ acts, a.asksSeal = false

/-- No action handles a record. -/
def NoRecord (acts : List OutputAction) : Prop := ∀ a ∈ acts, a.handlesRecord = false

theorem NoRecord.noSeal {acts : List OutputAction} (h : NoRecord acts) : NoSeal acts := by
  intro a ha
  have hrecord := h a ha
  cases a <;> first | rfl | exact hrecord

/-- The application writes, or closes. -/
@[simp] def InputEvent.isAppWrite : InputEvent → Bool
  | .appSend _ _ => true
  | .appClose _ _ => true
  | _ => false

/-- The sealed record that an event brings. -/
@[simp] def InputEvent.sealed? : InputEvent → Option Bytes
  | .cryptoResult _ _ (.aeadSealed ct) => some ct
  | _ => none

/-- What goes with the seal of a content: it is the close_notify, or a fragment of the application,
which is accepted. -/
def SealedFor (s : State) (content : Bytes) (tail : List OutputAction) : Prop :=
  (content = [1, 0, ContentType.alert.toByte] ∧ tail = []) ∨
    ∃ frag, content = frag ++ [ContentType.applicationData.toByte] ∧
      tail = [.acceptPlaintextBytes s.connId frag.length]

/-- **What a step does for a record**: nothing; or it asks for one seal, when the application writes
to a connected session; or it writes the record that comes back. -/
inductive SealOutcome (s : State) (ev : InputEvent) (s' : State) (acts : List OutputAction) : Prop
  | keeps (h : NoRecord acts)
  | writes {ct : Bytes} {rest : List OutputAction} (hev : ev.sealed? = some ct)
      (hacts : acts = .writeTransport s.connId ct :: rest) (hrest : NoRecord rest)
  | asks {content : Bytes} {tail : List OutputAction} (hev : ev.isAppWrite = true)
      (hphase : s.handshake = .connected) (hlive : s'.handshake.isTerminal = false)
      (hop : s'.pendingOps.contains ⟨s.nextOpId⟩ = true)
      (hacts : acts = .callCrypto s.connId ⟨s.nextOpId⟩ (.aeadSeal (writeMeta s) [] content) ::
        tail) (htail : SealedFor s content tail)

theorem noRecord_failActions (s : State) (a : AlertDescription) (e : TlsError) :
    NoRecord (failActions s a e) := by
  simp [NoRecord, failActions]

theorem Move.noRecord {s s' : State} {acts : List OutputAction} (h : Move s s' acts) :
    NoRecord acts := by
  cases h with
  | failed => exact noRecord_failActions _ _ _
  | serverRandom _ _ hop | ecdhe _ _ hop => simp [NoRecord, hop]
  | pump _ _ hop | serverFinished _ _ hop =>
    simp [NoRecord, KeyScheduleDriver.isScheduleKind_ne_aeadSeal hop]
  | ignored | clientHello | rest | serverFlight | certificateVerify | applicationKeys
  | clientFinished | verified => simp [NoRecord, CryptoOp.kind]

theorem AlertOutcome.noRecord {s s' : State} {body : Bytes} {acts : List OutputAction}
    (h : AlertOutcome s body s' acts) : NoRecord acts := by
  cases h with
  | malformed => exact noRecord_failActions _ _ _
  | closeNotify | fatal => simp [NoRecord]

theorem BytesOutcome.noRecord {s s' : State} {b : Bytes} {acts : List OutputAction}
    (h : BytesOutcome s b s' acts) : NoRecord acts := by
  cases h with
  | malformed => exact noRecord_failActions _ _ _
  | awaiting => simp [NoRecord]
  | record _ h =>
    cases h with
    | noRoom | ccsRefused | hsRefused | invalid => exact noRecord_failActions _ _ _
    | hsMessage _ _ _ hres => exact ((handshakeOnPlaintextRecord_moves _ _).move hres).noRecord
    | alert _ h => exact h.noRecord
    | opens | unread | ccsIgnored | hsPartial => simp [NoRecord, CryptoOp.kind]

theorem ResultOutcome.seals {s s' : State} {c : ConnId} {op : OperationId} {r : CryptoResult}
    {acts : List OutputAction} (h : ResultOutcome s op r s' acts) :
    SealOutcome s (.cryptoResult c op r) s' acts := by
  cases h with
  | unparsed | verifyFailed | failed => exact .keeps (noRecord_failActions _ _ _)
  | gating _ hres => exact .keeps ((handshakeOnGatingResult_moves _ _ _).move hres).noRecord
  | «sealed» =>
    refine .writes rfl rfl ?_
    split <;> simp [NoRecord]
  | opened _ h =>
    cases h with
    | overflow | earlyData | invalid => exact .keeps (noRecord_failActions _ _ _)
    | message _ _ _ hres => exact .keeps ((handshakeOnPlaintextRecord_moves _ _).move hres).noRecord
    | alert _ h => exact .keeps h.noRecord
    | data | skipped => exact .keeps (by simp [NoRecord])

/-- **One step** of a live core. -/
theorem Outcome.seals {s s' : State} {ev : InputEvent} {acts : List OutputAction}
    (h : Outcome s ev s' acts) : SealOutcome s ev s' acts := by
  cases h with
  | bytes h => exact .keeps h.noRecord
  | result _ h => exact h.seals
  | @send c b sq hphase =>
    refine .asks rfl hphase ?_ ?_ rfl (.inr ⟨_, rfl, ?_⟩)
    · rw [show (s.sealing sq).handshake = s.handshake from rfl, hphase]
      rfl
    · exact PendingCryptoOps.contains_iff.mpr ⟨_, List.mem_cons_self, rfl⟩
    · simp [List.extract_eq_take_drop]
  | closeNotify _ hphase =>
    refine .asks rfl hphase rfl ?_ rfl (.inl ⟨rfl, rfl⟩)
    exact PendingCryptoOps.contains_iff.mpr ⟨_, List.mem_cons_self, rfl⟩
  | sendRefused | closeNotifyRefused | timeout => exact .keeps (noRecord_failActions _ _ _)
  | stale | deliver | noDelivery | closeEarly | closeFatal | closeAbortive | reclose | eof
  | readable | writable | flush => exact .keeps (by simp [NoRecord])

end Kroopt.Core

namespace Kroopt.Conn

open Kroopt.Core (State InputEvent OutputAction CryptoOp CryptoResult ConnId ConfigGeneration
  HashAlgorithm ValidatedServerConfig NoSeal NoRecord SealOutcome)
open Kroopt.Crypto (CryptoProvider SecretArena Hacl)

/-- The provider seals whatever it is asked to. -/
def SealsSucceed (prov : CryptoProvider) : Prop :=
  ∀ arena op m aad pt, ∃ arena' ct, prov.submit arena op (.aeadSeal m aad pt) =
    .ok (arena', .aeadSealed ct)

section Seals

variable [Hacl] {τ : Type} [Transport τ]

/-! ## What is sealed, and what is written

Both are read off the log of executions: what was sealed with the answer of the provider in the
arena at that moment, and what was written with the action itself. -/

/-- The record that the provider seals in an execution. -/
def Executed.sealed? (prov : CryptoProvider) (e : Executed τ) : Option Bytes :=
  (execAction prov e.rt e.tr e.action).2.2.findSome? InputEvent.sealed?

omit [Hacl] [Transport τ] in
/-- The record that an execution writes. -/
def Executed.written? (e : Executed τ) : Option Bytes :=
  match e.action with
  | .writeTransport _ ct => some ct
  | _ => none

/-- The records that the provider seals. -/
def sealedBy (prov : CryptoProvider) (log : List (Executed τ)) : List Bytes :=
  log.filterMap (Executed.sealed? prov)

omit [Hacl] [Transport τ] in
/-- The records that are written. -/
def writtenBy (log : List (Executed τ)) : List Bytes := log.filterMap Executed.written?

@[simp] theorem sealedBy_append (prov : CryptoProvider) (log log' : List (Executed τ)) :
    sealedBy prov (log ++ log') = sealedBy prov log ++ sealedBy prov log' :=
  List.filterMap_append

omit [Hacl] [Transport τ] in
@[simp] theorem writtenBy_append (log log' : List (Executed τ)) :
    writtenBy (log ++ log') = writtenBy log ++ writtenBy log' :=
  List.filterMap_append

omit [Hacl] in
theorem kind_of_matches_aeadSealed {kind : Core.CryptoOpKind} {ct : Bytes}
    (h : resultMatchesKind kind (.aeadSealed ct) = true) : kind = .aeadSeal := by
  cases kind <;> first | rfl | cases h

/-- Only an action that asks for a seal gets one, and no action brings a call of the application. -/
theorem execAction_followUps (prov : CryptoProvider) (rt : RuntimeState) (tr : τ)
    (a : OutputAction) :
    (a.asksSeal = false → (execAction prov rt tr a).2.2.findSome? InputEvent.sealed? = none) ∧
      ∀ ev ∈ (execAction prov rt tr a).2.2, ev.isAppWrite = false := by
  have hnone : ∀ {evs : List InputEvent}, evs = [] →
      (a.asksSeal = false → evs.findSome? InputEvent.sealed? = none) ∧
        ∀ ev ∈ evs, ev.isAppWrite = false := fun h ↦ by simp [h]
  cases a with
  | readTransport conn =>
    rw [execAction]
    split <;> simp
  | writeHandshake conn epoch seq msg | writeCertificate conn epoch seq msg =>
    rw [execAction]
    split <;> exact hnone rfl
  | writeAlert conn epoch seq al =>
    rw [execAction]
    split <;> exact hnone rfl
  | callCrypto conn op req =>
    rw [execAction]
    split
    · split
      · rename_i r _ hmatch
        refine ⟨fun hseal ↦ ?_, by simp⟩
        have hkind : req.kind ≠ .aeadSeal := by simpa using hseal
        cases r with
        | aeadSealed ct => exact absurd (kind_of_matches_aeadSealed hmatch) hkind
        | _ => rfl
      · exact hnone rfl
    · simp
  | writeTransport | enableWriteInterest | disableWriteInterest | emitPlaintext
  | acceptPlaintextBytes | reportHandshakeComplete | reportError | failWithAlert | closeTransport
  | releaseSecret => exact hnone rfl

theorem execActions_followUps (prov : CryptoProvider) (rt : RuntimeState) (tr : τ)
    (acts : List OutputAction) :
    ∀ ev ∈ (execActions prov rt tr acts).2.2, ev.isAppWrite = false := by
  induction acts generalizing rt tr with
  | nil => simp
  | cons a acts ih =>
    intro ev hev
    rw [execActions_cons] at hev
    rcases List.mem_append.mp hev with hev | hev
    · exact (execAction_followUps prov rt tr a).2 ev hev
    · exact ih _ _ ev hev

theorem sealedBy_eq_nil (prov : CryptoProvider) {log : List (Executed τ)}
    (h : ∀ e ∈ log, e.action.asksSeal = false) : sealedBy prov log = [] :=
  List.filterMap_eq_nil_iff.mpr fun e he ↦
    (execAction_followUps prov e.rt e.tr e.action).1 (h e he)

/-! ## Rounds

The first round of a drive asks for the seal, and the sealed record is the first thing that comes
back, so the second round writes it.  Behind the first round the application is not heard, so
nothing more is sealed. -/

/-- What a round does for a record. -/
theorem Round.seals {r : Round τ} (h : Machine.Steps TlsConn.react r) :
    SealOutcome r.source.core r.input r.target.core r.output.1 := by
  have hstep := TlsConn.steps_coreStep h
  cases hlive : r.source.core.handshake.isTerminal with
  | true =>
    have hnil : r.output.1 = [] := (Core.target_of_terminal hstep hlive).2
    exact .keeps (by simp [hnil, NoRecord])
  | false => exact (Core.outcome_of_steps hstep hlive).seals

/-- Only a connected session asks for a seal, and only when the application writes. -/
theorem Round.noSeal {r : Round τ} (h : Machine.Steps TlsConn.react r)
    (hev : r.input.isAppWrite = false ∨ r.source.core.handshake ≠ .connected) :
    NoSeal r.output.1 := by
  cases r.seals h with
  | keeps hno => exact hno.noSeal
  | writes _ hacts hrest =>
    intro a ha
    rw [hacts] at ha
    rcases List.mem_cons.mp ha with rfl | ha
    · rfl
    · exact hrest.noSeal a ha
  | asks hev' hphase =>
    rcases hev with hev | hev
    · exact absurd (hev.symm.trans hev') (by simp)
    · exact absurd hphase hev

theorem Round.sealedBy_log {r : Round τ} (prov : CryptoProvider) (h : NoSeal r.output.1) :
    sealedBy prov r.log = [] :=
  sealedBy_eq_nil prov fun _ he ↦ h _ (action_mem_of_execLog he)

namespace TlsConn

/-- Behind the first round of a drive nothing is asked to be sealed. -/
theorem sealedBy_rounds (prov : CryptoProvider) (fuel : Nat) (c : TlsConn τ)
    (evs : List InputEvent) (hevs : ∀ ev ∈ evs, ev.isAppWrite = false) :
    sealedBy prov ((c.rounds fuel evs).flatMap Round.log) = [] := by
  induction fuel generalizing c evs with
  | zero => rfl
  | succ fuel ih =>
    cases evs with
    | nil => rfl
    | cons ev rest =>
      obtain ⟨core', acts, hstep⟩ := Core.step_total c.core ev
      have hreact := react_eq hstep
      rw [rounds, hreact]
      dsimp only
      rw [List.flatMap_cons, sealedBy_append, ih, List.append_nil]
      · exact Round.sealedBy_log prov (Round.noSeal hreact (.inl (hevs ev List.mem_cons_self)))
      · intro ev' hev'
        rcases List.mem_append.mp hev' with hev' | hev'
        · exact execActions_followUps _ _ _ _ ev' hev'
        · exact hevs ev' (List.mem_cons_of_mem _ hev')

/-- The seal that a round asks for is the first thing that comes back. -/
theorem execActions_seal {c : TlsConn τ} (hprov : SealsSucceed c.prov) (conn : ConnId)
    (op : Core.OperationId) (rmeta : Core.RecordCryptoMeta) {content : Bytes}
    {tail : List OutputAction} (htail : Core.SealedFor c.core content tail) :
    ∃ ct, Executed.sealed? c.prov ⟨c.rt, c.tr,
        .callCrypto conn op (.aeadSeal rmeta [] content)⟩ = some ct ∧
      sealedBy c.prov (execLog c.prov c.rt c.tr
        (.callCrypto conn op (.aeadSeal rmeta [] content) :: tail)) = [ct] ∧
      (execActions c.prov c.rt c.tr
        (.callCrypto conn op (.aeadSeal rmeta [] content) :: tail)).2.2 =
          [.cryptoResult conn op (.aeadSealed ct)] := by
  obtain ⟨arena', ct, hsub⟩ := hprov c.rt.arena op rmeta (Record13.recordAAD (content.length + 16))
    content
  have hresolve : ∀ alg, resolveRecordAAD (resolveCryptoTranscript alg
      (.aeadSeal rmeta [] content)) =
        .aeadSeal rmeta (Record13.recordAAD (content.length + 16)) content := fun _ ↦ rfl
  have hexec :
      (execAction c.prov c.rt c.tr (.callCrypto conn op (.aeadSeal rmeta [] content))).2.2 =
        [.cryptoResult conn op (.aeadSealed ct)] := by
    rw [execAction, hresolve, hsub]
    rfl
  have hseal : Executed.sealed? c.prov ⟨c.rt, c.tr,
      .callCrypto conn op (.aeadSeal rmeta [] content)⟩ = some ct := by
    rw [Executed.sealed?, hexec]
    rfl
  refine ⟨ct, hseal, ?_, ?_⟩
  · rw [execLog, sealedBy, List.filterMap_cons_some hseal]
    rcases htail with ⟨-, rfl⟩ | ⟨frag, -, rfl⟩ <;> rfl
  · rw [execActions_cons, hexec]
    rcases htail with ⟨-, rfl⟩ | ⟨frag, -, rfl⟩ <;> rfl

/-- The sealed record of an outstanding operation is written. -/
theorem writtenBy_sealed {c : TlsConn τ} (hlive : c.core.handshake.isTerminal = false)
    (fuel : Nat) (conn : ConnId) {op : Core.OperationId}
    (hop : c.core.pendingOps.contains op = true) (ct : Bytes) :
    ct ∈ writtenBy ((c.rounds (fuel + 1) [.cryptoResult conn op (.aeadSealed ct)]).flatMap
      Round.log) := by
  obtain ⟨core', acts, hstep, hout⟩ :=
    Core.step_outcome hlive (.cryptoResult conn op (.aeadSealed ct))
  have hreact := react_eq hstep
  have hacts : ∃ rest, acts = .writeTransport c.core.connId ct :: rest := by
    cases hout with
    | stale hstale => cases hstale.symm.trans hop
    | result _ h =>
      cases h with
      | «sealed» => exact ⟨_, rfl⟩
      | gating hr => exact absurd rfl (hr.2.1 ct)
  obtain ⟨rest, rfl⟩ := hacts
  rw [rounds, hreact]
  dsimp only
  rw [List.flatMap_cons, writtenBy_append]
  exact List.mem_append_left _ List.mem_cons_self

/-- **A drive** of two rounds or more writes what it has sealed. -/
theorem sealed_sublist_drive {c : TlsConn τ} (hprov : SealsSucceed c.prov) (fuel : Nat)
    (ev : InputEvent) :
    (sealedBy c.prov ((c.rounds (fuel + 2) [ev]).flatMap Round.log)).Sublist
      (writtenBy ((c.rounds (fuel + 2) [ev]).flatMap Round.log)) := by
  obtain ⟨core', acts, hstep⟩ := Core.step_total c.core ev
  have hreact := react_eq hstep
  rw [rounds, hreact]
  dsimp only
  rw [List.append_nil, List.flatMap_cons, sealedBy_append, writtenBy_append,
    sealedBy_rounds c.prov (fuel + 1) _ _ (execActions_followUps _ _ _ _), List.append_nil]
  have hnone : ∀ {log log' : List (Executed τ)}, sealedBy c.prov log = [] →
      (sealedBy c.prov log).Sublist (writtenBy log ++ writtenBy log') := fun hnil ↦ by
    rw [hnil]
    exact List.nil_sublist _
  have hseals := Round.seals (r := ⟨c, ev, (acts, _), _⟩) hreact
  by_cases hev : ev.isAppWrite = true ∧ c.core.handshake = .connected
  · cases hseals with
    | keeps hno => exact hnone (Round.sealedBy_log c.prov hno.noSeal)
    | writes hsealed =>
      cases ev <;> first | cases hsealed | cases hev.1
    | asks _ hphase hlive hop hacts htail =>
      dsimp only at hacts
      subst hacts
      obtain ⟨ct, -, hsealed, hevs⟩ := execActions_seal hprov c.core.connId ⟨c.core.nextOpId⟩
        (Core.writeMeta c.core) htail
      rw [Round.log, hsealed, hevs]
      refine List.Sublist.trans ?_ (List.sublist_append_right _ _)
      exact List.singleton_sublist.mpr (writtenBy_sealed hlive fuel _ hop ct)
  · refine hnone (Round.sealedBy_log c.prov (Round.noSeal (r := ⟨c, ev, (acts, _), _⟩) hreact ?_))
    rw [not_and_or, Bool.not_eq_true] at hev
    exact hev

/-! ## Calls

Some calls make more than one drive, but only the one that brings the application's write or close
has anything sealed. -/

/-- The sealed record that a call hands in. -/
@[simp] def Call.sealed? : Call → Option Bytes
  | .progress ev => ev.sealed?
  | _ => none

/-- **A call** of two rounds or more writes what it has sealed. -/
theorem sealed_sublist_call {c : TlsConn τ} (hprov : SealsSucceed c.prov)
    (hfuel : 2 ≤ c.core.serverConfig.limits.maxProgressStepsPerCall) (k : Call) :
    (sealedBy c.prov ((c.callRounds k).flatMap Round.log)).Sublist
      (writtenBy ((c.callRounds k).flatMap Round.log)) := by
  obtain ⟨fuel, hfuel⟩ := Nat.exists_eq_add_of_le' hfuel
  have hdrive : ∀ ev, (sealedBy c.prov ((c.driveRounds ev).flatMap Round.log)).Sublist
      (writtenBy ((c.driveRounds ev).flatMap Round.log)) := by
    intro ev
    rw [driveRounds, hfuel]
    exact sealed_sublist_drive hprov fuel ev
  have hread : ∀ (d : TlsConn τ) (ev : InputEvent), ev.isAppWrite = false →
      sealedBy c.prov ((d.driveRounds ev).flatMap Round.log) = [] :=
    fun d ev hev ↦ sealedBy_rounds c.prov _ d [ev] (by simpa using hev)
  cases k with
  | recv =>
    rw [callRounds]
    dsimp only
    split
    · exact hdrive _
    · rw [List.flatMap_append, List.flatMap_append, sealedBy_append, sealedBy_append,
        hread _ _ rfl, hread _ _ rfl, hread _ _ rfl]
      exact List.nil_sublist _
  | send plaintext =>
    rw [callRounds]
    dsimp only
    split
    · exact List.nil_sublist _
    · rw [driveRounds, show TlsConn.core { c with rt := { c.rt with acceptedBytes := 0 } } = c.core
        from rfl, hfuel]
      exact sealed_sublist_drive (c := { c with rt := { c.rt with acceptedBytes := 0 } }) hprov
        fuel _
  | flush => exact hdrive _
  | close mode => exact hdrive _
  | progress ev => exact hdrive ev

theorem drive_config (c : TlsConn τ) (ev : InputEvent) :
    (c.drive ev).core.serverConfig = c.core.serverConfig :=
  Core.config_of_run (rounds_core (rounds_run _ c [ev]))

/-- A drive of one round reads no event but its own. -/
theorem input_of_mem_driveRounds {c : TlsConn τ}
    (hfuel : c.core.serverConfig.limits.maxProgressStepsPerCall ≤ 1) {ev : InputEvent}
    {r : Round τ} (h : r ∈ c.driveRounds ev) : r.input = ev := by
  rw [driveRounds] at h
  rcases Nat.le_one_iff_eq_zero_or_eq_one.mp hfuel with hzero | hone
  · rw [hzero] at h
    cases h
  · obtain ⟨core', acts, hstep⟩ := Core.step_total c.core ev
    rw [hone, rounds, react_eq hstep] at h
    dsimp only at h
    rcases List.mem_cons.mp h with rfl | h
    · rfl
    · cases h

/-- Only the event that brings a sealed record has one written. -/
theorem writtenBy_round {r : Round τ} (h : Machine.Steps react r) (hev : r.input.sealed? = none) :
    writtenBy r.log = [] := by
  refine List.filterMap_eq_nil_iff.mpr fun e he ↦ ?_
  have hmem := action_mem_of_execLog he
  have hno : ∀ conn ct, e.action ≠ .writeTransport conn ct := by
    intro conn ct haction
    rw [haction] at hmem
    cases r.seals h with
    | keeps hno => cases hno _ hmem
    | writes hsealed => cases hev.symm.trans hsealed
    | asks _ _ _ _ hacts htail =>
      rw [hacts] at hmem
      rcases htail with ⟨-, rfl⟩ | ⟨frag, -, rfl⟩ <;> simp at hmem
  rw [Executed.written?]
  split
  · rename_i conn ct haction
    exact absurd haction (hno conn ct)
  · rfl

/-- **A call of one round** writes only a record that it hands in itself. -/
theorem writtenBy_call {c : TlsConn τ}
    (hfuel : c.core.serverConfig.limits.maxProgressStepsPerCall ≤ 1) {k : Call}
    (hk : k.sealed? = none) : writtenBy ((c.callRounds k).flatMap Round.log) = [] := by
  have hsealed : ∀ r ∈ c.callRounds k, r.input.sealed? = none := by
    intro r hr
    have hdrive : ∀ {d : TlsConn τ} {ev : InputEvent},
        d.core.serverConfig = c.core.serverConfig → ev.sealed? = none → r ∈ d.driveRounds ev →
          r.input.sealed? = none := by
      intro d ev hconfig hev hmem
      rw [input_of_mem_driveRounds (hconfig ▸ hfuel) hmem]
      exact hev
    cases k with
    | recv =>
      rw [callRounds] at hr
      dsimp only at hr
      split at hr
      · exact hdrive rfl rfl hr
      · rcases List.mem_append.mp hr with hr | hr
        · rcases List.mem_append.mp hr with hr | hr
          · exact hdrive rfl rfl hr
          · exact hdrive (drive_config _ _) rfl hr
        · exact hdrive ((drive_config _ _).trans (drive_config _ _)) rfl hr
    | send plaintext =>
      rw [callRounds] at hr
      dsimp only at hr
      split at hr
      · cases hr
      · exact hdrive (d := { c with rt := { c.rt with acceptedBytes := 0 } }) rfl rfl hr
    | flush => exact hdrive rfl rfl hr
    | close mode => exact hdrive rfl rfl hr
    | progress ev => exact hdrive rfl hk hr
  refine List.filterMap_eq_nil_iff.mpr fun e he ↦ ?_
  obtain ⟨r, hr, he⟩ := List.mem_flatMap.mp he
  exact List.filterMap_eq_nil_iff.mp
    (writtenBy_round (steps_of_mem_callRounds hr) (hsealed r hr)) e he

end TlsConn

/-! ## What is accepted

The count of accepted bytes is raised by the action right behind the seal.  So what the application
is told to be accepted is a fragment that the provider has sealed. -/

omit [Hacl] [Transport τ] in
/-- The execution asks the provider to seal a fragment of the application. -/
def Executed.SealsFragment (e : Executed τ) (conn : ConnId) (frag : Bytes) : Prop :=
  ∃ op rmeta, e.action =
    .callCrypto conn op (.aeadSeal rmeta [] (frag ++ [Core.ContentType.applicationData.toByte]))

/-- **Whatever is accepted has just been sealed**: right before bytes are accepted, the provider has
sealed a fragment of as many. -/
def AcceptsSealed (prov : CryptoProvider) (log : List (Executed τ)) : Prop :=
  ∀ before e behind conn n, log = before ++ e :: behind →
    e.action = .acceptPlaintextBytes conn n →
      ∃ before' e' frag, before = before' ++ [e'] ∧ e'.SealsFragment conn frag ∧
        frag.length = n ∧ (e'.sealed? prov).isSome

theorem acceptsSealed_nil (prov : CryptoProvider) : AcceptsSealed (τ := τ) prov [] := by
  intro before e behind conn n hsplit
  simp at hsplit

theorem AcceptsSealed.append {prov : CryptoProvider} {log log' : List (Executed τ)}
    (h : AcceptsSealed prov log) (h' : AcceptsSealed prov log') :
    AcceptsSealed prov (log ++ log') := by
  intro before e behind conn n hsplit haction
  rcases List.append_eq_append_iff.mp hsplit with ⟨mid, rfl, hlog'⟩ | ⟨mid, rfl, hmid⟩
  · obtain ⟨before', e', frag, rfl, hseal⟩ := h' mid e behind conn n hlog' haction
    exact ⟨log ++ before', e', frag, (List.append_assoc _ _ _).symm, hseal⟩
  · -- the split is at the seam, where nothing comes before, or in the first log
    cases mid with
    | nil =>
      obtain ⟨before', e', -, hnil, -⟩ := h' [] e behind conn n hmid.symm haction
      simp at hnil
    | cons e₁ mid =>
      obtain ⟨rfl, -⟩ := List.cons.inj hmid
      exact h before e mid conn n rfl haction

theorem AcceptsSealed.of_flatMap {prov : CryptoProvider} {rs : List (Round τ)}
    (h : ∀ r ∈ rs, AcceptsSealed prov r.log) : AcceptsSealed prov (rs.flatMap Round.log) := by
  induction rs with
  | nil => exact acceptsSealed_nil _
  | cons r rs ih =>
    rw [List.flatMap_cons]
    exact (h r List.mem_cons_self).append (ih fun q hq ↦ h q (List.mem_cons_of_mem _ hq))

/-- **A round** accepts only what it has sealed. -/
theorem Round.acceptsSealed {r : Round τ} (h : Machine.Steps TlsConn.react r)
    (hprov : SealsSucceed r.source.prov) : AcceptsSealed r.source.prov r.log := by
  intro before e behind conn n hsplit haction
  have hmem : e ∈ r.log := by
    rw [hsplit]
    exact List.mem_append_right _ List.mem_cons_self
  have hout : OutputAction.acceptPlaintextBytes conn n ∈ r.output.1 :=
    haction ▸ action_mem_of_execLog hmem
  cases r.seals h with
  | keeps hno => cases hno _ hout
  | writes _ hacts hrest =>
    rw [hacts] at hout
    rcases List.mem_cons.mp hout with hout | hout
    · cases hout
    · cases hrest _ hout
  | @asks content tail _ _ _ _ hacts htail =>
    rw [Round.log, hacts] at hsplit
    obtain ⟨ct, hseal, -⟩ := TlsConn.execActions_seal (c := r.source) hprov r.source.core.connId
      ⟨r.source.core.nextOpId⟩ (Core.writeMeta r.source.core) htail
    rcases htail with ⟨-, rfl⟩ | ⟨frag, rfl, rfl⟩
    · rw [hacts] at hout
      simp at hout
    · -- the round seals, and then accepts
      cases before with
      | nil =>
        obtain ⟨rfl, -⟩ := List.cons.inj hsplit
        cases haction
      | cons e₁ before =>
        obtain ⟨rfl, hrest⟩ := List.cons.inj hsplit
        cases before with
        | nil =>
          obtain ⟨rfl, -⟩ := List.cons.inj hrest
          obtain ⟨rfl, rfl⟩ := OutputAction.acceptPlaintextBytes.inj haction
          exact ⟨[], _, frag, rfl, ⟨_, _, rfl⟩, rfl, Option.isSome_of_mem hseal⟩
        | cons e₂ before =>
          have hlen := congrArg List.length (List.cons.inj hrest).2
          simp [execLog] at hlen

/-- **A call** accepts only what it has sealed. -/
theorem CallStep.acceptsSealed (t : CallStep τ) (hprov : SealsSucceed t.source.prov) :
    AcceptsSealed t.source.prov t.log := by
  refine .of_flatMap fun r hr ↦ ?_
  have hsame := TlsConn.prov_of_mem_callRounds hr
  rw [← hsame]
  exact r.acceptsSealed (TlsConn.steps_of_mem_callRounds hr) (hsame.symm ▸ hprov)

/-! ## Runs -/

theorem config_of_calls {c c' : TlsConn τ} {tr : List (CallStep τ)}
    (h : Machine.Run TlsConn.call c tr c') : c'.core.serverConfig = c.core.serverConfig :=
  Core.config_of_run (core_run_of_calls h)

/-- **What is sealed in a run of calls is written in it**, in the same order, if a call has two
rounds. -/
theorem sealed_sublist_written {c c' : TlsConn τ} {tr : List (CallStep τ)}
    (h : Machine.Run TlsConn.call c tr c') (hprov : SealsSucceed c.prov)
    (hfuel : 2 ≤ c.core.serverConfig.limits.maxProgressStepsPerCall) :
    (sealedBy c.prov (tr.flatMap CallStep.log)).Sublist (writtenBy (tr.flatMap CallStep.log)) := by
  induction h with
  | nil => exact List.nil_sublist _
  | @cons t tr c' ht _ ih =>
    have htarget : (t.source.perform t.input).1 = t.target := (Prod.mk.inj (Except.ok.inj ht)).1
    have hprov' : t.target.prov = t.source.prov := htarget ▸ TlsConn.perform_prov _ _
    have hconfig : t.target.core.serverConfig = t.source.core.serverConfig :=
      config_of_calls (.cons ht (.nil t.target))
    rw [List.flatMap_cons, sealedBy_append, writtenBy_append]
    have hrest := ih (hprov'.symm ▸ hprov) (hconfig.symm ▸ hfuel)
    rw [hprov'] at hrest
    exact (TlsConn.sealed_sublist_call hprov hfuel t.input).append hrest

/-- **What is accepted in a run of calls has been sealed.** -/
theorem acceptsSealed_of_calls {c c' : TlsConn τ} {tr : List (CallStep τ)}
    (h : Machine.Run TlsConn.call c tr c') (hprov : SealsSucceed c.prov) :
    AcceptsSealed c.prov (tr.flatMap CallStep.log) := by
  induction h with
  | nil => exact acceptsSealed_nil _
  | @cons t tr c' ht _ ih =>
    have htarget : (t.source.perform t.input).1 = t.target := (Prod.mk.inj (Except.ok.inj ht)).1
    have hprov' : t.target.prov = t.source.prov := htarget ▸ TlsConn.perform_prov _ _
    have hrest := ih (hprov'.symm ▸ hprov)
    rw [hprov'] at hrest
    rw [List.flatMap_cons]
    exact (CallStep.acceptsSealed t hprov).append hrest

/-- **With one round a call nothing is written**, unless the application hands in what it has sealed
itself. -/
theorem written_eq_nil {c c' : TlsConn τ} {tr : List (CallStep τ)}
    (h : Machine.Run TlsConn.call c tr c')
    (hfuel : c.core.serverConfig.limits.maxProgressStepsPerCall ≤ 1)
    (hcalls : ∀ t ∈ tr, t.input.sealed? = none) : writtenBy (tr.flatMap CallStep.log) = [] := by
  induction h with
  | nil => rfl
  | @cons t tr c' ht _ ih =>
    have hconfig : t.target.core.serverConfig = t.source.core.serverConfig :=
      config_of_calls (.cons ht (.nil t.target))
    rw [List.flatMap_cons, writtenBy_append, ih (hconfig.symm ▸ hfuel)
      fun u hu ↦ hcalls u (List.mem_cons_of_mem _ hu), List.append_nil]
    exact TlsConn.writtenBy_call hfuel (hcalls t List.mem_cons_self)

end Seals

end Kroopt.Conn
