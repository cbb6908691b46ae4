import Kroopt.Conn.Recorded
import Kroopt.Properties.FlightProtection
import Kroopt.Properties.Utterance

/-!
# What is heard of a connection

What is heard of an execution is measured on what `execAction` does: the bytes it puts behind the
queue (`Executed.said`), the count of accepted bytes, the waiting plaintext, and whether another
provider would have made a difference (`Executed.Asks`).  From there the question is carried up,
each time with an exact answer.

An action is silent in a runtime by a condition on its kind, its keys and the waiting plaintext
(`QuietIn`).  A round is silent unless its event is one of those on which the core speaks, with the
runtime as the listener (`Round.Utters`).  A drive is silent if its rounds are.  A call is silent if
its rounds are, and in addition a read must not find plaintext that was waiting: that is handed out
by the call itself.

## Main definitions

* `Executed.Speaks`: what is heard of an execution.
* `QuietIn`: the actions that are silent in a runtime.
* `Round.Utters`: the event makes the core speak, and the runtime lets it be heard.

## Main results

* `speaks_iff`: one execution.
* `Round.speaks_iff`: one round.
* `TlsConn.drive_silent_iff`: one drive.
* `call_silent_iff`: one call, with its answer.
-/

set_option autoImplicit false

namespace Kroopt.Conn

open Kroopt.Core (State InputEvent OutputAction Epoch Listener Heard Voiced)
open Kroopt.Crypto (CryptoProvider SecretArena Hacl)

/-! ## What is heard -/

/-- The action submits an operation to the provider. -/
def submits : OutputAction → Bool
  | .callCrypto _ _ _ => true
  | _ => false

namespace TlsConn.Answer

/-- The answer hands out plaintext, or accepts some. -/
def isLoud : TlsConn.Answer → Bool
  | .read (.bytes _) => true
  | .write (.wrote n) => n != 0
  | _ => false

end TlsConn.Answer

/-- An alert of the epoch can be framed: it is the initial one, or its key and suite are there. -/
def RuntimeState.CanFrame (rt : RuntimeState) (epoch : Epoch) : Prop :=
  epoch = .initial ∨ (rt.arena.trafficSecret .write epoch ≠ none ∧
    rt.arena.lookupInstalledSuite .write epoch ≠ none)

/-- The flight message is not sent: it would be sealed, and is too long for a record. -/
def RuntimeState.Refuses (rt : RuntimeState) (epoch : Epoch) (plain : Bytes) : Prop :=
  epoch = .handshake ∧ rt.arena.trafficSecret .write .handshake ≠ none ∧
    Record13.maxRecordPlaintext < plain.length

/-- **The action is silent** in the runtime. -/
def QuietIn (rt : RuntimeState) : OutputAction → Prop
  | .writeTransport _ _ => False
  | .writeHandshake _ epoch _ msg => rt.Refuses epoch (Core.serializeHandshakeOut msg)
  | .writeCertificate _ epoch _ der => rt.Refuses epoch (Core.serializeServerCertificate der)
  | .writeAlert _ epoch _ _ => ¬ rt.CanFrame epoch
  | .callCrypto _ _ _ => False
  | .emitPlaintext _ b => rt.plaintextOut = some b
  | .acceptPlaintextBytes _ n => n = 0
  | _ => True

section Silence

variable [Hacl] {τ : Type} [Transport τ]

/-- The execution asks the provider: another one would have made a difference. -/
def Executed.Asks (e : Executed τ) : Prop :=
  ∃ prov prov', execAction prov e.rt e.tr e.action ≠ execAction prov' e.rt e.tr e.action

/-- **What is heard of an execution**: it queues bytes, raises the count of accepted bytes, sets the
plaintext to deliver, or asks the provider. -/
def Executed.Speaks (prov : CryptoProvider) (e : Executed τ) : Prop :=
  e.said prov ≠ [] ∨
    e.rt.acceptedBytes < (execAction prov e.rt e.tr e.action).1.acceptedBytes ∨
    (execAction prov e.rt e.tr e.action).1.plaintextOut ≠ e.rt.plaintextOut ∨
    e.Asks

/-! ## One execution

The interpreter has one branch for each kind of action, and the lemma one case for each branch.
What a branch queues is framed first, so the question is mostly whether a record can be framed. -/

/-- The provider is asked by `callCrypto`, and by nothing else. -/
theorem asks_iff (e : Executed τ) : e.Asks ↔ submits e.action = true := by
  obtain ⟨rt, tr, a⟩ := e
  constructor
  · rintro ⟨prov, prov', hne⟩
    cases a with
    | callCrypto => rfl
    | _ => exact absurd rfl hne
  · intro h
    cases a with
    | callCrypto conn op req =>
      refine ⟨⟨fun _ _ _ ↦ .error .authFailed⟩, ⟨fun _ _ _ ↦ .error .randomFailed⟩, ?_⟩
      simp [execAction]
    | _ => cases h

omit [Transport τ] in
/-- With its key and its suite, the record of an alert is sealed. -/
theorem sealAlertRecord_eq (arena : SecretArena) (epoch : Epoch) (seq : UInt64)
    (a : AlertDescription) :
    sealAlertRecord arena epoch seq a =
      match arena.trafficSecret .write epoch, arena.lookupInstalledSuite .write epoch with
      | some secret, some suite =>
        (Record13.sealRecord (Crypto.KeySchedule.trafficKey suite secret)
          (Crypto.KeySchedule.trafficIv secret suite.hashAlg) seq [2, a.toByte] .alert 0
          suite).map some
      | _, _ => .ok none := by
  rw [sealAlertRecord, SecretArena.trafficSecret]
  cases arena.lookupBaseSecret .write epoch with
  | none => rfl
  | some sid =>
    rw [Option.bind_some]
    dsimp only
    cases arena.getById sid with
    | none => rfl
    | some secret => cases arena.lookupInstalledSuite .write epoch <;> rfl

omit [Transport τ] in
/-- An alert is framed, or nothing is sent. -/
theorem alertWire_cases (rt : RuntimeState) (epoch : Epoch) (seq : UInt64) (a : AlertDescription) :
    (rt.CanFrame epoch ∧ ∃ b bs, alertWire rt.arena epoch seq a = some (b :: bs)) ∨
      (¬ rt.CanFrame epoch ∧ alertWire rt.arena epoch seq a = none) := by
  by_cases hinitial : epoch = .initial
  · subst hinitial
    exact .inl ⟨.inl rfl, _, _, rfl⟩
  · have hwire : alertWire rt.arena epoch seq a =
        (sealAlertRecord rt.arena epoch seq a).toOption.join := by
      rw [alertWire.eq_2 _ _ _ _ hinitial]
      rcases sealAlertRecord rt.arena epoch seq a with e | wire
      · rfl
      · cases wire <;> rfl
    rw [hwire, sealAlertRecord_eq, RuntimeState.CanFrame, or_iff_right hinitial]
    cases hsecret : rt.arena.trafficSecret .write epoch with
    | none => exact .inr ⟨fun h ↦ h.1 rfl, rfl⟩
    | some secret =>
      cases hsuite : rt.arena.lookupInstalledSuite .write epoch with
      | none => exact .inr ⟨fun h ↦ h.2 rfl, rfl⟩
      | some suite =>
        refine .inl ⟨⟨Option.some_ne_none _, Option.some_ne_none _⟩, ?_⟩
        dsimp only
        -- two bytes fit into every record
        cases hseal : Record13.sealRecord (Crypto.KeySchedule.trafficKey suite secret)
          (Crypto.KeySchedule.trafficIv secret suite.hashAlg) seq [2, a.toByte] .alert 0 suite with
        | error e =>
          exact absurd (Record13.sealRecord_eq_error.mp hseal).1
            (by simp [Record13.maxRecordPlaintext])
        | ok wire =>
          cases wire with
          | nil => cases Record13.sealRecord_head hseal
          | cons b bs => exact ⟨b, bs, rfl⟩

omit [Transport τ] in
/-- A flight message is framed, or refused. -/
theorem handshakeWire_cases (rt : RuntimeState) (epoch : Epoch) (seq : UInt64) (plain : Bytes) :
    (¬ rt.Refuses epoch plain ∧ ∃ b bs, handshakeWire rt.arena epoch seq plain = .ok (b :: bs)) ∨
      (rt.Refuses epoch plain ∧ ∃ e, handshakeWire rt.arena epoch seq plain = .error e) := by
  cases epoch with
  | initial | application => exact .inl ⟨fun h ↦ (by cases h.1), _, _, rfl⟩
  | handshake =>
    rw [handshakeWire_eq, RuntimeState.Refuses, and_iff_right rfl]
    cases hsecret : rt.arena.trafficSecret .write .handshake with
    | none => exact .inl ⟨fun h ↦ h.1 rfl, _, _, rfl⟩
    | some secret =>
      rw [and_iff_right (Option.some_ne_none _)]
      dsimp only
      generalize (rt.arena.lookupInstalledSuite .write .handshake).getD
        .chacha20Poly1305Sha256 = suite
      cases hseal : Record13.sealRecord (Crypto.KeySchedule.trafficKey suite secret)
        (Crypto.KeySchedule.trafficIv secret suite.hashAlg) seq plain .handshake 0 suite with
      | error e => exact .inr ⟨(Record13.sealRecord_eq_error.mp hseal).1, e, rfl⟩
      | ok wire =>
        refine .inl ⟨fun hlong ↦ ?_, ?_⟩
        · cases hseal.symm.trans (Record13.sealRecord_eq_error.mpr ⟨hlong, rfl⟩)
        · cases wire with
          | nil => cases Record13.sealRecord_head hseal
          | cons b bs => exact ⟨b, bs, rfl⟩

omit [Hacl] in
/-- Queueing changes neither the count of accepted bytes nor the plaintext. -/
theorem enqueue_kept (rt : RuntimeState) (tr : τ) (wire : Bytes) :
    (enqueue rt tr wire).1.acceptedBytes = rt.acceptedBytes ∧
      (enqueue rt tr wire).1.plaintextOut = rt.plaintextOut := by
  obtain ⟨n, err, term, heq, -⟩ := drainOutbound_spec { rt with outbound := rt.outbound ++ wire } tr
  rw [enqueue, heq]
  exact ⟨rfl, rfl⟩

/-- An action that leaves the runtime's counters alone, and asks nothing, is heard in the queue
only. -/
theorem speaks_iff_queued {prov : CryptoProvider} {rt : RuntimeState} {tr : τ} {a : OutputAction}
    {res : RuntimeState × τ × List InputEvent} (hexec : execAction prov rt tr a = res)
    (haccepted : res.1.acceptedBytes = rt.acceptedBytes)
    (hplain : res.1.plaintextOut = rt.plaintextOut) (hsubmits : submits a = false) :
    Executed.Speaks prov ⟨rt, tr, a⟩ ↔ appended rt.arena a ≠ [] := by
  subst hexec
  rw [Executed.Speaks, Executed.said_eq, asks_iff, Executed.queued]
  dsimp only
  rw [haccepted, hplain, hsubmits]
  simp only [Nat.lt_irrefl, ne_eq, not_true_eq_false, Bool.false_eq_true, or_false]

/-- A flight message is heard unless it is refused. -/
theorem speaks_flight {prov : CryptoProvider} {rt : RuntimeState} {tr : τ} {a : OutputAction}
    {epoch : Epoch} {seq : UInt64} {plain : Bytes}
    (hexec : execAction prov rt tr a = match handshakeWire rt.arena epoch seq plain with
      | .ok wire => ((enqueue rt tr wire).1, (enqueue rt tr wire).2, [])
      | .error e => (terminate rt (some (.resourceLimit e)), tr, []))
    (happended : appended rt.arena a = (handshakeWire rt.arena epoch seq plain).toOption.getD [])
    (hsubmits : submits a = false) :
    Executed.Speaks prov ⟨rt, tr, a⟩ ↔ ¬ rt.Refuses epoch plain := by
  rcases handshakeWire_cases rt epoch seq plain with
    ⟨hnot, b, bs, hwire⟩ | ⟨hrefuses, e, hwire⟩ <;> rw [hwire] at hexec happended
  · have hkept := enqueue_kept rt tr (b :: bs)
    rw [speaks_iff_queued hexec hkept.1 hkept.2 hsubmits, happended]
    exact iff_of_true (List.cons_ne_nil _ _) hnot
  · rw [speaks_iff_queued hexec rfl rfl hsubmits, happended]
    exact iff_of_false (fun h ↦ h rfl) (fun h ↦ h hrefuses)

/-- **One execution** is heard exactly where its action is not silent. -/
theorem speaks_iff (prov : CryptoProvider) (rt : RuntimeState) (tr : τ) (a : OutputAction) :
    Executed.Speaks prov ⟨rt, tr, a⟩ ↔ ¬ QuietIn rt a := by
  cases a with
  | writeTransport conn b =>
    have hkept := enqueue_kept rt tr (Record13.recordAAD b.length ++ b)
    refine Iff.trans (speaks_iff_queued rfl hkept.1 hkept.2 rfl) ?_
    exact iff_of_true (List.cons_ne_nil _ _) id
  | writeHandshake conn epoch seq msg => exact speaks_flight rfl rfl rfl
  | writeCertificate conn epoch seq der => exact speaks_flight rfl rfl rfl
  | writeAlert conn epoch seq al =>
    rcases alertWire_cases rt epoch seq al with ⟨hframe, b, bs, hwire⟩ | ⟨hnot, hwire⟩
    · refine Iff.trans (speaks_iff_queued (by rw [execAction, hwire]) ?_ ?_ rfl) ?_
      · dsimp only
        rw [(enqueue_kept _ tr _).1]
        split <;> rfl
      · dsimp only
        rw [(enqueue_kept _ tr _).2]
        split <;> rfl
      · rw [appended, hwire]
        exact iff_of_true (List.cons_ne_nil _ _) (fun h ↦ h hframe)
    · refine Iff.trans (speaks_iff_queued (by rw [execAction, hwire]) rfl rfl rfl) ?_
      rw [appended, hwire]
      exact iff_of_false (fun h ↦ h rfl) (fun h ↦ h hnot)
  | callCrypto conn op req =>
    exact iff_of_true (.inr (.inr (.inr ((asks_iff _).mpr rfl)))) id
  | emitPlaintext conn b =>
    have hexec : (execAction prov rt tr (.emitPlaintext conn b)).1 =
        { rt with plaintextOut := some b } := rfl
    rw [Executed.Speaks, Executed.said_eq, asks_iff, Executed.queued, hexec]
    simp only [appended, submits, QuietIn, ne_eq, not_true_eq_false, Nat.lt_irrefl,
      Bool.false_eq_true, or_false, false_or]
    exact not_congr eq_comm
  | acceptPlaintextBytes conn n =>
    have hexec : (execAction prov rt tr (.acceptPlaintextBytes conn n)).1 =
        { rt with acceptedBytes := rt.acceptedBytes + n } := rfl
    rw [Executed.Speaks, Executed.said_eq, asks_iff, Executed.queued, hexec]
    simp only [appended, submits, QuietIn, ne_eq, not_true_eq_false, Nat.lt_add_right_iff_pos,
      Bool.false_eq_true, or_false, false_or]
    exact Nat.pos_iff_ne_zero
  | readTransport conn =>
    have hread : (execAction prov rt tr (.readTransport conn)).1.acceptedBytes =
        rt.acceptedBytes ∧
          (execAction prov rt tr (.readTransport conn)).1.plaintextOut = rt.plaintextOut := by
      rw [execAction]
      split <;> exact ⟨rfl, rfl⟩
    refine Iff.trans (speaks_iff_queued rfl hread.1 hread.2 rfl) ?_
    exact iff_of_false (fun h ↦ h rfl) (fun h ↦ h trivial)
  | enableWriteInterest | disableWriteInterest | reportHandshakeComplete | reportError
  | failWithAlert | closeTransport | releaseSecret =>
    refine Iff.trans (speaks_iff_queued rfl rfl rfl rfl) ?_
    exact iff_of_false (fun h ↦ h rfl) (fun h ↦ h trivial)

/-! ## One round

The actions of a round are executed one after the other, each in the runtime that the one before it
has left.  The listener is taken from the runtime in front of the round; what changes on the way is
either of no consequence or comes with a question, which is heard in any case. -/

/-- Who listens to the core: what the runtime lets through. -/
def RuntimeState.listener (rt : RuntimeState) : Listener where
  frames := rt.CanFrame
  news b := rt.plaintextOut ≠ some b

omit [Hacl] [Transport τ] in
/-- **The round speaks**: its event makes the core say something that the runtime lets through. -/
def Round.Utters (r : Round τ) : Prop :=
  r.source.core.handshake.isTerminal = false ∧
    r.source.core.Utters r.source.rt.listener r.input

/-- Every action of a list is executed. -/
theorem exists_execLog (prov : CryptoProvider) (rt : RuntimeState) (tr : τ)
    {acts : List OutputAction} {a : OutputAction} (h : a ∈ acts) :
    ∃ e ∈ execLog prov rt tr acts, e.action = a := by
  induction acts generalizing rt tr with
  | nil => cases h
  | cons b acts ih =>
    rcases List.mem_cons.mp h with rfl | h
    · exact ⟨_, List.mem_cons_self, rfl⟩
    · obtain ⟨e, he, haction⟩ := ih _ _ h
      exact ⟨e, List.mem_cons_of_mem _ he, haction⟩

/-- **The actions of a round** are heard where the listener hears one of them. -/
theorem execLog_speaks_iff (prov : CryptoProvider) (rt : RuntimeState) (tr : τ)
    {acts : List OutputAction} (h : Voiced acts) :
    (∃ e ∈ execLog prov rt tr acts, e.Speaks prov) ↔ Heard rt.listener acts := by
  -- only the first action finds the runtime as it was, and only the first depends on it
  have hfirst : ∀ e ∈ execLog prov rt tr acts, e.action.depends = true → e.rt = rt := by
    intro e he hdep
    cases acts with
    | nil => cases he
    | cons a acts =>
      rcases List.mem_cons.mp he with rfl | he
      · rfl
      · cases (h.first _ (action_mem_of_execLog he)).symm.trans hdep
  constructor
  · rintro ⟨e, he, hspeaks⟩
    have hmem := action_mem_of_execLog he
    have hloud := (speaks_iff prov e.rt e.tr e.action).mp hspeaks
    have hfirst := hfirst e he
    have halong : e.action.comesAlong = true → Heard rt.listener acts := by
      intro hcomes
      obtain ⟨conn, op, req, hask⟩ := h.asked ⟨_, hmem, hcomes⟩
      exact ⟨_, hask, trivial⟩
    generalize e.action = a at hmem hloud hfirst halong
    cases a with
    | callCrypto | writeTransport => exact ⟨_, hmem, trivial⟩
    | writeHandshake | writeCertificate | acceptPlaintextBytes => exact halong rfl
    | writeAlert =>
      rw [hfirst rfl] at hloud
      exact ⟨_, hmem, not_not.mp hloud⟩
    | emitPlaintext =>
      rw [hfirst rfl] at hloud
      exact ⟨_, hmem, hloud⟩
    | _ => exact absurd trivial hloud
  · rintro ⟨a, ha, hspeaks⟩
    obtain ⟨e, he, rfl⟩ := exists_execLog prov rt tr ha
    refine ⟨e, he, (speaks_iff prov e.rt e.tr e.action).mpr ?_⟩
    have hfirst := hfirst e he
    generalize e.action = a at hspeaks hfirst
    cases a with
    | callCrypto | writeTransport => exact id
    | writeAlert =>
      rw [hfirst rfl]
      exact not_not.mpr hspeaks
    | emitPlaintext =>
      rw [hfirst rfl]
      exact hspeaks
    | _ => cases hspeaks

/-- **One round.** -/
theorem Round.speaks_iff {r : Round τ} (h : Machine.Steps TlsConn.react r) :
    (∃ e ∈ r.log, e.Speaks r.source.prov) ↔ r.Utters := by
  have hstep := TlsConn.steps_coreStep h
  rw [Round.Utters]
  cases hlive : r.source.core.handshake.isTerminal with
  | true =>
    have hnil : r.output.1 = [] := (Core.target_of_terminal hstep hlive).2
    refine iff_of_false ?_ (fun h ↦ absurd h.1 (by simp))
    rintro ⟨e, he, -⟩
    have hmem : e.action ∈ r.output.1 := action_mem_of_execLog he
    rw [hnil] at hmem
    cases hmem
  | false =>
    have hout := Core.outcome_of_steps hstep hlive
    rw [and_iff_right rfl]
    exact (execLog_speaks_iff _ _ _ hout.voiced).trans hout.heard_iff

/-- A round that says nothing leaves the plaintext, and the count of accepted bytes. -/
theorem execActions_kept (prov : CryptoProvider) (rt : RuntimeState) (tr : τ)
    {acts : List OutputAction} (h : ∀ e ∈ execLog prov rt tr acts, ¬ e.Speaks prov) :
    (execActions prov rt tr acts).1.plaintextOut = rt.plaintextOut ∧
      (execActions prov rt tr acts).1.acceptedBytes ≤ rt.acceptedBytes := by
  induction acts generalizing rt tr with
  | nil => exact ⟨rfl, Nat.le_refl _⟩
  | cons a acts ih =>
    have hfirst := h _ List.mem_cons_self
    obtain ⟨hplain, haccepted⟩ := ih (traceAction (execAction prov rt tr a).1 a)
      (execAction prov rt tr a).2.1 fun e he ↦ h e (List.mem_cons_of_mem _ he)
    rw [Executed.Speaks, not_or, not_or, not_or, not_not, Nat.not_lt, not_not] at hfirst
    rw [execActions_cons]
    rw [traceAction_plaintextOut] at hplain
    rw [traceAction_acceptedBytes] at haccepted
    exact ⟨hplain.trans hfirst.2.2.1, Nat.le_trans haccepted hfirst.2.1⟩

namespace TlsConn

/-- **Rounds** that say nothing. -/
theorem rounds_kept {c c' : TlsConn τ} {rs : List (Round τ)}
    (h : Machine.Run react c rs c') (hquiet : ∀ r ∈ rs, ¬ r.Utters) :
    c'.rt.plaintextOut = c.rt.plaintextOut ∧ c'.rt.acceptedBytes ≤ c.rt.acceptedBytes := by
  induction h with
  | nil => exact ⟨rfl, Nat.le_refl _⟩
  | @cons r rs c' hr _ ih =>
    have hrest := ih fun q hq ↦ hquiet q (List.mem_cons_of_mem _ hq)
    have hsilent := fun e he hspeaks ↦
      hquiet r List.mem_cons_self ((Round.speaks_iff hr).mp ⟨e, he, hspeaks⟩)
    obtain ⟨hplain, haccepted⟩ := execActions_kept _ _ _ hsilent
    obtain ⟨core', acts, hstep⟩ := Core.step_total r.source.core r.input
    obtain ⟨htarget, hout⟩ := Prod.mk.inj (Except.ok.inj ((react_eq hstep).symm.trans hr))
    rw [← hout] at hplain haccepted
    rw [← htarget] at hrest
    exact ⟨hrest.1.trans hplain, Nat.le_trans hrest.2 haccepted⟩

theorem drive_kept {c : TlsConn τ} {ev : InputEvent} (h : ∀ r ∈ c.driveRounds ev, ¬ r.Utters) :
    (c.drive ev).rt.plaintextOut = c.rt.plaintextOut ∧
      (c.drive ev).rt.acceptedBytes ≤ c.rt.acceptedBytes :=
  rounds_kept (rounds_run _ c [ev]) h

end TlsConn

/-- **A drive** is silent exactly if none of its rounds speaks. -/
theorem TlsConn.drive_silent_iff (c : TlsConn τ) (fuel : Nat) (evs : List InputEvent) :
    (∀ e ∈ c.driveLog fuel evs, ¬ e.Speaks c.prov) ↔ ∀ r ∈ c.rounds fuel evs, ¬ r.Utters := by
  have hrun := rounds_run fuel c evs
  rw [driveLog, List.forall_mem_flatMap]
  refine forall₂_congr fun r hr ↦ ?_
  have hprov : r.source.prov = c.prov :=
    hrun.invariant_source (I := fun d ↦ d.prov = c.prov)
      (fun _ hr hprov ↦ (steps_prov hr).trans hprov) rfl hr
  rw [← Round.speaks_iff (hrun.steps_of_mem hr), hprov, not_exists]
  exact forall_congr' fun e ↦ not_and.symm

/-! ## Calls -/

namespace TlsConn

omit [Hacl] [Transport τ] in
theorem not_isLoud_readEnded (c : TlsConn τ) : (Answer.read c.readEnded.2).isLoud = false := by
  rw [readEnded]
  split <;> rfl

omit [Hacl] [Transport τ] in
theorem not_isLoud_writeEnded (c : TlsConn τ) : (Answer.write c.writeEnded.2).isLoud = false := by
  rw [writeEnded]
  split <;> rfl

/-- A silent read is answered with plaintext exactly if there was some. -/
theorem recv_isLoud_iff {c : TlsConn τ} (h : ∀ r ∈ c.callRounds .recv, ¬ r.Utters) :
    (Answer.read c.recv.2).isLoud = true ↔ c.rt.plaintextOut ≠ none := by
  rw [callRounds] at h
  dsimp only at h
  have hfirst : ∀ r ∈ c.driveRounds (.appRecvRequested c.core.connId), ¬ r.Utters := by
    intro r hr
    split at h
    · exact h r hr
    · exact h r (List.mem_append_left _ (List.mem_append_left _ hr))
  have hplain := (drive_kept hfirst).1
  rw [recv]
  dsimp only
  generalize c.drive (.appRecvRequested c.core.connId) = c₁ at h hplain ⊢
  cases hp : c.rt.plaintextOut with
  | some b =>
    rw [deliver, hplain, hp]
    exact iff_of_true rfl (Option.some_ne_none b)
  | none =>
    rw [hp] at hplain
    refine iff_of_false ?_ (fun hne ↦ hne rfl)
    rw [Bool.not_eq_true, deliver, hplain]
    dsimp only
    split
    · exact not_isLoud_readEnded c₁
    · rename_i hend
      rw [if_neg (by simp [hplain, hend])] at h
      have hsecond := (drive_kept fun r hr ↦
        h r (List.mem_append_left _ (List.mem_append_right _ hr))).1
      have hthird := (drive_kept fun r hr ↦ h r (List.mem_append_right _ hr)).1
      rw [deliver, hthird, hsecond, hplain]
      dsimp only
      split
      · exact not_isLoud_readEnded _
      · rfl

/-- A silent write accepts nothing. -/
theorem send_not_isLoud {c : TlsConn τ} {plaintext : Bytes}
    (h : ∀ r ∈ c.callRounds (.send plaintext), ¬ r.Utters) :
    (Answer.write (c.send plaintext).2).isLoud = false := by
  rw [callRounds] at h
  dsimp only at h
  rw [send]
  by_cases hend : c.core.handshake.isTerminal = true
  · rw [if_pos hend]
    exact not_isLoud_writeEnded c
  · rw [if_neg hend]
    dsimp only
    by_cases hn : c.admitted plaintext = 0
    · rw [if_pos hn]
      split <;> rfl
    · rw [if_neg (by simp [hend, hn])] at h
      have haccepted := (drive_kept h).2
      rw [if_neg hn]
      split
      · exact not_isLoud_writeEnded _
      · rw [if_neg (Nat.not_lt.mpr haccepted)]
        rfl

/-- **One call.**  A call that says nothing is answered loudly only by plaintext that waited. -/
theorem perform_isLoud_iff {c : TlsConn τ} {k : Call} (h : ∀ r ∈ c.callRounds k, ¬ r.Utters) :
    (c.perform k).2.isLoud = true ↔ k = .recv ∧ c.rt.plaintextOut ≠ none := by
  cases k with
  | recv =>
    rw [and_iff_right rfl]
    exact recv_isLoud_iff h
  | send plaintext =>
    refine iff_of_false ?_ (fun hk ↦ absurd hk.1 (by simp))
    rw [Bool.not_eq_true]
    exact send_not_isLoud h
  | flush | close | progress => exact iff_of_false Bool.false_ne_true (fun hk ↦ (by cases hk.1))

end TlsConn

/-- **A call** is silent exactly if none of its rounds speaks, and a read finds no plaintext. -/
theorem call_silent_iff {t : CallStep τ} (ht : Machine.Steps TlsConn.call t) :
    ((∀ e ∈ t.log, ¬ e.Speaks t.source.prov) ∧ t.output.isLoud = false) ↔
      (∀ r ∈ t.rounds, ¬ r.Utters) ∧ (t.input = .recv → t.source.rt.plaintextOut = none) := by
  have houtput : (t.source.perform t.input).2 = t.output := (Prod.mk.inj (Except.ok.inj ht)).2
  have hrounds : (∀ e ∈ t.log, ¬ e.Speaks t.source.prov) ↔ ∀ r ∈ t.rounds, ¬ r.Utters := by
    rw [CallStep.log, List.forall_mem_flatMap]
    refine forall₂_congr fun r hr ↦ ?_
    rw [← Round.speaks_iff (TlsConn.steps_of_mem_callRounds hr),
      ← TlsConn.prov_of_mem_callRounds hr, not_exists]
    exact forall_congr' fun e ↦ not_and.symm
  rw [hrounds, ← houtput]
  refine and_congr_right fun hquiet ↦ ?_
  rw [← Bool.not_eq_true, TlsConn.perform_isLoud_iff hquiet, not_and, not_not]

end Silence

end Kroopt.Conn
