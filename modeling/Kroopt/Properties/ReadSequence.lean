import Kroopt.Core.Session

/-!
# The read sequence number

The read sequence number is the nonce of the next record to open, so it has to count the records
opened so far.  Each accepted record advances it once (`AdvancesOnce`), with one exception: some
inner content types retire the operation and leave the number alone (`SkipsRecord`).

That the number counts is an invariant of the runs without such a record.  It is carried through the
installation of keys by two facts: nothing has been opened under an epoch that is still to come, and
records are opened under handshake keys up to the client Finished and under application keys behind
it (`Counted`).  And the number is what the provider is given: the core asks for every record to be
opened with the number it has at that moment.

## Main definitions

* `AdvancesOnce`: an accepted record advances the number once, or the connection does not go on.
* `SkipsRecord`: the step accepts a record of one of the inner types that are passed over.
* `openedIn`: the number of records opened under the keys of an epoch.

## Main results

* `advancesOnce_step_iff`: one step advances exactly when it skips no record.
* `counted_of_run`: in a run that skips no record the number is the count of records opened under
  the installed epoch.
* `openMeta_of_steps` and `openSequence_of_run`: what the provider is asked to open with.
* `readSequence_iff`: the steps of a run all advance exactly when none of them skips a record.
-/

set_option autoImplicit false

namespace Kroopt.Core

open Kroopt.Parse (parseInnerPlaintext)

namespace HandshakeState

/-- How far the read direction has come: before the server flight is out, while records are opened
under handshake keys, under application keys, and no more. -/
def stage : HandshakeState → Nat
  | sentServerFinished => 1
  | requestedClientFinishedVerify => 1
  | connected => 2
  | closing => 3
  | closed => 3
  | failed _ => 3
  | _ => 0

end HandshakeState

/-! ## What moves the read epoch

Three things do: the handshake keys are installed, the application keys are installed, and a record
has been opened.  Every other step of a live connection leaves it, or ends the connection. -/

/-- What a step that opens no record does to the read direction. -/
inductive ReadMove (s s' : State) : Prop
  | ended (h : s'.handshake.isLive = false)
  | kept (he : s'.readEpoch = s.readEpoch) (hstage : s.handshake.stage ≤ s'.handshake.stage)
  | handshakeKeys (hphase : s.handshake = .requestedEcdhe ∨ s.handshake = .sentCertificateVerify)
      (he : s'.readEpoch = installEpoch .handshake)
  | applicationKeys (hphase : s.handshake = .requestedClientFinishedVerify)
      (hphase' : s'.handshake = .connected) (he : s'.readEpoch = installEpoch .application)

theorem Move.reads {s s' : State} {acts : List OutputAction} (h : Move s s' acts) :
    ReadMove s s' := by
  cases h with
  | ignored => exact .kept rfl (Nat.le_refl _)
  | failed => exact .ended rfl
  | clientHello hphase => exact .kept rfl (by rw [hphase]; exact Nat.zero_le _)
  | serverRandom hphase => exact .kept rfl (by rw [hphase]; exact Nat.zero_le _)
  | ecdhe hphase => exact .handshakeKeys (.inl hphase) rfl
  | pump => exact .kept rfl (Nat.le_refl _)
  | rest => exact .kept rfl (Nat.le_refl _)
  | serverFlight hphase => exact .kept rfl (by rw [hphase]; exact Nat.zero_le _)
  | certificateVerify hphase => exact .kept rfl (by rw [hphase]; exact Nat.zero_le _)
  | serverFinished hphase => exact .kept rfl (by rw [hphase]; exact Nat.zero_le _)
  | applicationKeys hphase => exact .handshakeKeys (.inr hphase) rfl
  | clientFinished hphase => exact .kept rfl (by rw [hphase]; exact Nat.le_refl 1)
  | verified hphase => exact .applicationKeys hphase rfl rfl

/-- A handshake message installs no read keys. -/
theorem reads_of_plaintextRecord {s s' : State} {msg : Bytes} {acts : List OutputAction}
    (h : handshakeOnPlaintextRecord s msg = .ok (s', acts)) :
    s'.handshake.isLive = false ∨
      (s'.readEpoch = s.readEpoch ∧ s.handshake.stage ≤ s'.handshake.stage) := by
  by_cases hphase : s.handshake = .start ∨ s.handshake = .sentServerFinished
  · cases ((handshakeOnPlaintextRecord_moves s msg).move h).reads with
    | ended hend => exact .inl hend
    | kept he hstage => exact .inr ⟨he, hstage⟩
    | handshakeKeys hp => rcases hphase with h' | h' <;> rw [h'] at hp <;> simp at hp
    | applicationKeys hp => rcases hphase with h' | h' <;> rw [h'] at hp <;> cases hp
  · rw [not_or] at hphase
    rw [handshakeOnPlaintextRecord_ignored msg hphase.1 hphase.2] at h
    cases h
    exact .inr ⟨rfl, Nat.le_refl _⟩

/-- **Opened records.**  The result of opening a record skips the record, or else it ends the
connection or advances the read sequence number. -/
theorem ResultOutcome.opened_cases {s s' : State} {op : OperationId} {pt : Bytes}
    {acts : List OutputAction} (h : ResultOutcome s op (.aeadOpened pt) s' acts) :
    (s' = s.clearOp op ∧ ∃ inner, parseInnerPlaintext pt = .ok inner ∧
      s.handshake.skipsInner inner.ctype) ∨
    ((∀ inner, parseInnerPlaintext pt = .ok inner → ¬ s.handshake.skipsInner inner.ctype) ∧
      (s'.handshake.isLive = false ∨ (s.handshake.stage ≤ s'.handshake.stage ∧
        ∃ sq, s.readEpoch.seq.next = some sq ∧
          s'.readEpoch = { s.readEpoch with seq := sq }))) := by
  cases h with
  | gating hr => exact absurd rfl (hr.1 pt)
  | unparsed hp =>
    refine .inr ⟨fun inner hp' ↦ ?_, .inl rfl⟩
    cases hp.symm.trans hp'
  | @opened _ inner _ _ hp h =>
    have hkept : ¬ s.handshake.skipsInner inner.ctype → ∀ inner',
        parseInnerPlaintext pt = .ok inner' → ¬ s.handshake.skipsInner inner'.ctype := by
      intro hno inner' hp'
      cases hp.symm.trans hp'
      exact hno
    cases h with
    | skipped ht => exact .inl ⟨rfl, inner, hp, ht⟩
    | @data sq ht hphase hseq =>
      refine .inr ⟨hkept (by simp [HandshakeState.skipsInner, ht]), .inr ⟨Nat.le_refl _, ?_⟩⟩
      exact ⟨sq, hseq, rfl⟩
    | @message sq _ _ ht hphase hseq hres =>
      refine .inr ⟨hkept (by simp [HandshakeState.skipsInner, ht, hphase]), ?_⟩
      rcases reads_of_plaintextRecord hres with hend | ⟨he, hstage⟩
      · exact .inl hend
      · exact .inr ⟨hstage, sq, hseq, he⟩
    | overflow ht =>
      refine .inr ⟨hkept ?_, .inl rfl⟩
      by_cases hconn : s.handshake = .connected <;>
        simp [HandshakeState.skipsInner, ht, hconn]
    | earlyData ht hphase => exact .inr ⟨hkept (by simp [HandshakeState.skipsInner, ht]), .inl rfl⟩
    | invalid ht hphase =>
      exact .inr ⟨hkept (by simp [HandshakeState.skipsInner, ht, hphase]), .inl rfl⟩
    | alert ht h => exact .inr ⟨hkept (by simp [HandshakeState.skipsInner, ht]), .inl h.isLive⟩

/-! ## Advancing once -/

/-- The operation and the plaintext of an opened record. -/
def InputEvent.openResult : InputEvent → Option (OperationId × Bytes)
  | .cryptoResult _ op (.aeadOpened pt) => some (op, pt)
  | _ => none

/-- If the step accepts a record opened for an outstanding open, it advances the read sequence
number by one within its epoch, or the connection is closing or has ended. -/
def AdvancesOnce (t : CoreStep) : Prop :=
  ∀ op pt, t.input.openResult = some (op, pt) → t.source.awaits op .aeadOpen →
    (t.target.readEpoch.epoch = t.source.readEpoch.epoch ∧
      t.source.readEpoch.seq.next = some t.target.readEpoch.seq) ∨
    t.target.handshake.isLive = false

/-- The step accepts, in a live state, a record whose inner type leaves the read sequence number
alone. -/
def SkipsRecord (t : CoreStep) : Prop :=
  ∃ op pt inner, t.input.openResult = some (op, pt) ∧ t.source.awaits op .aeadOpen ∧
    parseInnerPlaintext pt = .ok inner ∧ t.source.handshake.isLive = true ∧
    t.source.handshake.skipsInner inner.ctype

theorem contains_of_awaits {s : State} {op : OperationId} {kind : CryptoOpKind}
    (h : s.awaits op kind) : s.pendingOps.contains op = true := by
  obtain ⟨o, ho, hid, -⟩ := h
  exact PendingCryptoOps.contains_iff.mpr ⟨o, ho, hid⟩

/-- The outcome of an opened record whose operation is outstanding. -/
theorem Outcome.opened {s s' : State} {ev : InputEvent} {acts : List OutputAction}
    {op : OperationId} {pt : Bytes} (h : Outcome s ev s' acts)
    (hev : ev.openResult = some (op, pt)) (hop : s.pendingOps.contains op = true) :
    ResultOutcome s op (.aeadOpened pt) s' acts := by
  cases h with
  | @stale _ op' r hstale =>
    cases r with
    | aeadOpened pt' =>
      cases hev
      exact absurd (hstale.symm.trans hop) (by simp)
    | _ => cases hev
  | @result _ op' r _ _ _ h =>
    cases r with
    | aeadOpened pt' =>
      cases hev
      exact h
    | _ => cases hev
  | _ => cases hev

/-- **One step** advances once exactly when it skips no record. -/
theorem advancesOnce_step_iff {t : CoreStep} (ht : Machine.Steps step t) :
    AdvancesOnce t ↔ ¬ SkipsRecord t := by
  constructor
  · rintro hadv ⟨op, pt, inner, hev, hop, hp, hlive, hskip⟩
    have hout := outcome_of_steps ht (HandshakeState.isLive_iff.mp hlive).1
    rcases (hout.opened hev (contains_of_awaits hop)).opened_cases with ⟨heq, -⟩ | ⟨hno, -⟩
    · rcases hadv op pt hev hop with ⟨-, hseq⟩ | hend
      · rw [heq] at hseq
        exact SeqNo.ne_of_next hseq rfl
      · rw [heq, State.clearOp_handshake, hlive] at hend
        cases hend
    · exact hno inner hp hskip
  · intro hskip op pt hev hop
    cases hlive : t.target.handshake.isLive with
    | false => exact .inr rfl
    | true =>
      have hsource := isLive_source ht hlive
      have hout := outcome_of_steps ht (HandshakeState.isLive_iff.mp hsource).1
      rcases (hout.opened hev (contains_of_awaits hop)).opened_cases with
        ⟨-, inner, hp, hinner⟩ | ⟨-, hend | ⟨-, sq, hseq, he⟩⟩
      · exact absurd ⟨op, pt, inner, hev, hop, hp, hsource, hinner⟩ hskip
      · cases hlive.symm.trans hend
      · refine .inl ⟨by rw [he], ?_⟩
        rw [he]
        exact hseq

/-! ## Counting

The records of a run are counted by the epoch under which they were opened.  The count of an epoch
that is still to come is zero, so the number is right when its keys are installed. -/

/-- The step accepts a record opened for an outstanding open. -/
def AcceptsOpen (t : CoreStep) : Prop :=
  t.source.handshake.isTerminal = false ∧ ∃ p ∈ t.input.openResult, t.source.awaits p.1 .aeadOpen

instance (t : CoreStep) : Decidable (AcceptsOpen t) := inferInstanceAs (Decidable (_ ∧ _))

/-- The number of records opened while the read keys of an epoch were installed. -/
def openedIn (e : Epoch) (tr : List CoreStep) : Nat :=
  tr.countP fun t ↦ decide (AcceptsOpen t ∧ t.source.readEpoch.epoch = e)

/-- An opened record answers an operation that opens one. -/
def AnswersInKind (t : CoreStep) : Prop :=
  ∀ op pt, t.input.openResult = some (op, pt) → t.source.pendingOps.contains op = true →
    t.source.awaits op .aeadOpen

theorem ReadMove.of_source {s₀ s s' : State} (h : ReadMove s₀ s')
    (hphase : s₀.handshake = s.handshake) (hread : s₀.readEpoch = s.readEpoch) : ReadMove s s' := by
  cases h with
  | ended hend => exact .ended hend
  | kept he hstage => exact .kept (he.trans hread) (hphase ▸ hstage)
  | handshakeKeys hp he => exact .handshakeKeys (hphase ▸ hp) he
  | applicationKeys hp hp' he => exact .applicationKeys (hphase ▸ hp) hp' he

theorem reads_of_message {s₀ s s' : State} {msg : Bytes} {acts : List OutputAction}
    (h : handshakeOnPlaintextRecord s₀ msg = .ok (s', acts))
    (hphase : s₀.handshake = s.handshake) (hread : s₀.readEpoch = s.readEpoch) :
    ReadMove s s' := by
  rcases reads_of_plaintextRecord h with hend | ⟨he, hstage⟩
  · exact .ended hend
  · exact .kept (he.trans hread) (hphase ▸ hstage)

/-- What an event that opens no record does to the read direction. -/
theorem Outcome.reads {s s' : State} {ev : InputEvent} {acts : List OutputAction}
    (h : Outcome s ev s' acts)
    (hev : ∀ op pt, ev.openResult = some (op, pt) → s.pendingOps.contains op = false) :
    ReadMove s s' := by
  cases h with
  | bytes h =>
    cases h with
    | malformed => exact .ended rfl
    | awaiting => exact .kept rfl (Nat.le_refl _)
    | record hh h =>
      cases h with
      | opens | unread | ccsIgnored | hsPartial => exact .kept rfl (Nat.le_refl _)
      | noRoom | ccsRefused | hsRefused | invalid => exact .ended rfl
      | hsMessage ht hfits hframe hres => exact reads_of_message hres rfl rfl
      | alert ht h => exact .ended h.isLive
  | @result _ op r _ _ hop h =>
    cases h with
    | unparsed => exact .ended rfl
    | @opened pt => cases hop.symm.trans (hev op pt rfl)
    | sealed => exact .kept rfl (Nat.le_refl _)
    | verifyFailed | failed => exact .ended rfl
    | gating hr hres =>
      exact ((handshakeOnGatingResult_moves _ _ _).move hres).reads.of_source rfl rfl
  | stale | deliver | noDelivery | send | reclose | readable | writable | flush =>
    exact .kept rfl (Nat.le_refl _)
  | sendRefused | closeNotify | closeNotifyRefused | closeEarly | closeFatal | closeAbortive | eof
  | timeout => exact .ended rfl

theorem openedIn_append (e : Epoch) (tr : List CoreStep) (t : CoreStep) :
    openedIn e (tr ++ [t]) =
      openedIn e tr + if AcceptsOpen t ∧ t.source.readEpoch.epoch = e then 1 else 0 := by
  simp [openedIn, List.countP_append, List.countP_cons]

/-- The read sequence number counts the records opened under the installed epoch, and none has been
opened under an epoch that is still to come. -/
structure Counted (tr : List CoreStep) (s : State) : Prop where
  seq : s.readEpoch.seq.value.toNat = openedIn s.readEpoch.epoch tr
  early : s.handshake.stage = 0 → ∀ e, openedIn e tr = 0
  handshake : s.handshake.stage ≤ 1 → openedIn .application tr = 0

/-- Before the server flight is out no open is outstanding. -/
theorem Invariant.stage_ne_zero {s : State} (hI : Invariant s) {op : OperationId}
    (hop : s.awaits op .aeadOpen) : s.handshake.stage ≠ 0 := by
  obtain ⟨o, ho, -, hkind⟩ := hop
  intro hstage
  by_cases hstart : s.handshake = .start
  · rw [hI.idle hstart] at ho
    cases ho
  · have hflight : s.handshake.inFlight = true := by
      have hused := hI.used
      cases hp : s.handshake <;> simp_all [HandshakeState.stage, HandshakeState.isUsed,
        HandshakeState.inFlight]
    exact (hI.flight hflight).2.2 o ho hkind

/-- Records are opened under handshake keys up to the client Finished. -/
theorem Invariant.epoch_of_stage {s : State} (hI : Invariant s) (hstage : s.handshake.stage = 1) :
    s.readEpoch.epoch = .handshake := by
  refine hI.epoch .handshake ?_
  cases hp : s.handshake <;> simp_all [HandshakeState.stage] <;> rfl

/-- A step that opens no record keeps the count. -/
theorem Counted.reads {tr : List CoreStep} {s s' : State} (h : Counted tr s) (hmove : ReadMove s s')
    (hlive : s'.handshake.isLive = true) : Counted tr s' := by
  cases hmove with
  | ended hend => cases hlive.symm.trans hend
  | kept he hstage =>
    refine ⟨by rw [he]; exact h.seq, fun h0 ↦ h.early (by omega), fun h1 ↦ h.handshake (by omega)⟩
  | handshakeKeys hphase he =>
    have hstage : s.handshake.stage = 0 := by rcases hphase with hp | hp <;> rw [hp] <;> rfl
    refine ⟨?_, fun _ ↦ h.early hstage, fun _ ↦ h.early hstage _⟩
    rw [he, h.early hstage]
    rfl
  | applicationKeys hphase hphase' he =>
    have hstage : s.handshake.stage = 1 := by rw [hphase]; rfl
    refine ⟨?_, fun h0 ↦ ?_, fun h1 ↦ ?_⟩
    · rw [he]
      exact (h.handshake (Nat.le_of_eq hstage)).symm
    · rw [hphase'] at h0
      cases h0
    · rw [hphase'] at h1
      exact absurd h1 (by decide)

/-- **One step keeps the count**, if it skips no record and opened records answer opens. -/
theorem Counted.step {tr : List CoreStep} {t : CoreStep} (h : Counted tr t.source)
    (ht : Machine.Steps step t) (hI : Invariant t.source) (hskip : ¬ SkipsRecord t)
    (hkind : AnswersInKind t) (hlive : t.target.handshake.isLive = true) :
    Counted (tr ++ [t]) t.target := by
  have hsource := isLive_source ht hlive
  have hterm := (HandshakeState.isLive_iff.mp hsource).1
  have hout := outcome_of_steps ht hterm
  by_cases hacc : AcceptsOpen t
  · obtain ⟨-, ⟨op, pt⟩, hev, hop⟩ := hacc
    have hacc : AcceptsOpen t := ⟨hterm, ⟨op, pt⟩, hev, hop⟩
    rcases (hout.opened hev (contains_of_awaits hop)).opened_cases with
      ⟨-, inner, hp, hinner⟩ | ⟨-, hend | ⟨hstage, sq, hseq, he⟩⟩
    · exact absurd ⟨op, pt, inner, hev, hop, hp, hsource, hinner⟩ hskip
    · cases hlive.symm.trans hend
    · have hpos := hI.stage_ne_zero hop
      refine ⟨?_, fun h0 ↦ by omega, fun h1 ↦ ?_⟩
      · rw [he]
        dsimp only
        rw [openedIn_append, if_pos ⟨hacc, rfl⟩, SeqNo.next_eq_some hseq, h.seq]
      · have hepoch := hI.epoch_of_stage (by omega)
        rw [openedIn_append, if_neg (by simp [hepoch]), h.handshake (by omega)]
  · have hcount : ∀ e, openedIn e (tr ++ [t]) = openedIn e tr := by
      intro e
      rw [openedIn_append, if_neg fun h ↦ hacc h.1, Nat.add_zero]
    have hev : ∀ op pt, t.input.openResult = some (op, pt) →
        t.source.pendingOps.contains op = false := by
      intro op pt hev
      cases hop : t.source.pendingOps.contains op with
      | false => rfl
      | true => exact absurd ⟨hterm, ⟨op, pt⟩, hev, hkind op pt hev hop⟩ hacc
    obtain ⟨hseq, hearly, hhs⟩ := h.reads (hout.reads hev) hlive
    exact ⟨by rw [hcount]; exact hseq, fun h0 e ↦ by rw [hcount]; exact hearly h0 e,
      fun h1 ↦ by rw [hcount]; exact hhs h1⟩

/-- **The count along a run** that skips no record, for as long as the connection lives. -/
theorem counted_of_run {conn : ConnId} {gen : ConfigGeneration} {alg : HashAlgorithm}
    {config : ValidatedServerConfig} {tr : List CoreStep} {s : State}
    (h : CoreRun conn gen alg config tr s) (hC : ∀ t ∈ tr, ¬ SkipsRecord t ∧ AnswersInKind t)
    (hlive : s.handshake.isLive = true) : Counted tr s := by
  have hcounted : Invariant s ∧ (s.handshake.isLive = true → Counted tr s) := by
    refine h.history (J := fun tr s ↦ Invariant s ∧ (s.handshake.isLive = true → Counted tr s))
      (fun pre t ht hC hJ ↦ ?_) hC ⟨.initial conn gen alg config, fun _ ↦ ?_⟩
    · refine ⟨Invariant.step ht hJ.1, fun hlive ↦ ?_⟩
      exact (hJ.2 (isLive_source ht hlive)).step ht hJ.1 hC.1 hC.2 hlive
    · exact ⟨rfl, fun _ _ ↦ rfl, fun _ ↦ rfl⟩
  exact hcounted.2 hlive

/-! ## What is opened with it -/

/-- The metadata that an operation opens a record with. -/
def CryptoOp.openMeta? : CryptoOp → Option RecordCryptoMeta
  | .aeadOpen rmeta _ _ => some rmeta
  | _ => none

/-- The metadata that the provider is to open a record with. -/
@[simp] def OutputAction.openMeta? : OutputAction → Option RecordCryptoMeta
  | .callCrypto _ _ req => req.openMeta?
  | _ => none

/-- Every record is to be opened with the metadata of the state. -/
def OpensWith (s : State) (acts : List OutputAction) : Prop :=
  ∀ a ∈ acts, ∀ rmeta ∈ a.openMeta?, rmeta = readMeta s

theorem openMeta?_eq_none {req : CryptoOp} (h : req.kind ≠ .aeadOpen) : req.openMeta? = none := by
  cases req with
  | aeadOpen => exact absurd rfl h
  | _ => rfl

theorem opensWith_failActions (s₀ s : State) (a : AlertDescription) (e : TlsError) :
    OpensWith s (failActions s₀ a e) := by
  simp [OpensWith, failActions]

theorem Move.opensWith {s₀ s s' : State} {acts : List OutputAction} (h : Move s₀ s' acts) :
    OpensWith s acts := by
  cases h with
  | failed => exact opensWith_failActions _ _ _ _
  | serverRandom _ _ hop | ecdhe _ _ hop =>
    simp [OpensWith, openMeta?_eq_none (by rw [hop]; decide)]
  | pump _ _ hop | serverFinished _ _ hop =>
    simp [OpensWith, openMeta?_eq_none (isScheduleKind_ne_aeadOpen hop)]
  | ignored | clientHello | rest | serverFlight | certificateVerify | applicationKeys
  | clientFinished | verified => simp [OpensWith, CryptoOp.openMeta?]

theorem AlertOutcome.opensWith {s₀ s s' : State} {body : Bytes} {acts : List OutputAction}
    (h : AlertOutcome s₀ body s' acts) : OpensWith s acts := by
  cases h with
  | malformed => exact opensWith_failActions _ _ _ _
  | closeNotify | fatal => simp [OpensWith]

theorem BytesOutcome.opensWith {s s' : State} {b : Bytes} {acts : List OutputAction}
    (h : BytesOutcome s b s' acts) : OpensWith s acts := by
  cases h with
  | malformed => exact opensWith_failActions _ _ _ _
  | awaiting => simp [OpensWith]
  | record _ h =>
    cases h with
    | noRoom | ccsRefused | hsRefused | invalid => exact opensWith_failActions _ _ _ _
    | hsMessage _ _ _ hres => exact ((handshakeOnPlaintextRecord_moves _ _).move hres).opensWith
    | alert _ h => exact h.opensWith
    | opens =>
      -- the bytes behind the record do not matter to its metadata
      intro a ha rmeta hmeta
      rw [List.mem_singleton.mp ha] at hmeta
      exact (Option.some.inj hmeta).symm
    | unread | ccsIgnored | hsPartial => simp [OpensWith]

theorem ResultOutcome.opensWith {s s' : State} {op : OperationId} {r : CryptoResult}
    {acts : List OutputAction} (h : ResultOutcome s op r s' acts) : OpensWith s acts := by
  cases h with
  | unparsed | verifyFailed | failed => exact opensWith_failActions _ _ _ _
  | gating _ hres => exact ((handshakeOnGatingResult_moves _ _ _).move hres).opensWith
  | «sealed» => split <;> simp [OpensWith]
  | opened _ h =>
    cases h with
    | overflow | earlyData | invalid => exact opensWith_failActions _ _ _ _
    | message _ _ _ hres => exact ((handshakeOnPlaintextRecord_moves _ _).move hres).opensWith
    | alert _ h => exact h.opensWith
    | data | skipped => simp [OpensWith]

theorem Outcome.opensWith {s s' : State} {ev : InputEvent} {acts : List OutputAction}
    (h : Outcome s ev s' acts) : OpensWith s acts := by
  cases h with
  | bytes h => exact h.opensWith
  | result _ h => exact h.opensWith
  | sendRefused | closeNotifyRefused | timeout => exact opensWith_failActions _ _ _ _
  | stale | deliver | noDelivery | send | closeNotify | closeEarly | closeFatal | closeAbortive
  | reclose | eof | readable | writable | flush => simp [OpensWith, CryptoOp.openMeta?]

/-- **One step** asks for a record to be opened with the epoch and the number of its state. -/
theorem openMeta_of_steps {t : CoreStep} (ht : Machine.Steps step t) {a : OutputAction}
    (ha : a ∈ t.output) {rmeta : RecordCryptoMeta} (hmeta : a.openMeta? = some rmeta) :
    t.source.handshake.isTerminal = false ∧ rmeta = readMeta t.source := by
  cases hlive : t.source.handshake.isTerminal with
  | true =>
    rw [(target_of_terminal ht hlive).2] at ha
    cases ha
  | false => exact ⟨rfl, (outcome_of_steps ht hlive).opensWith a ha rmeta hmeta⟩

/-- **The number of each open.**  In a run in which no record has been skipped, the records that a
live connection asks to have opened are numbered, in each epoch, by the records opened before. -/
theorem openSequence_of_run {conn : ConnId} {gen : ConfigGeneration} {alg : HashAlgorithm}
    {config : ValidatedServerConfig} {pre post : List CoreStep} {t : CoreStep} {s : State}
    (h : CoreRun conn gen alg config (pre ++ t :: post) s)
    (hC : ∀ u ∈ pre, ¬ SkipsRecord u ∧ AnswersInKind u)
    (hlive : t.source.handshake.isLive = true) {a : OutputAction} (ha : a ∈ t.output)
    {rmeta : RecordCryptoMeta} (hmeta : a.openMeta? = some rmeta) :
    rmeta.epoch = t.source.readEpoch.epoch ∧
      rmeta.seq.value.toNat = openedIn rmeta.epoch pre := by
  obtain ⟨hpre, hstep, -⟩ := Machine.Run.split_at h
  obtain ⟨-, rfl⟩ := openMeta_of_steps hstep ha hmeta
  exact ⟨rfl, (counted_of_run hpre hC hlive).seq⟩

/-- **The read sequence number counts records exactly when none is skipped.**  In a run from a fresh
connection every accepted record advances the read sequence number once, if and only if no record is
skipped.  And in a run that skips none, and in which opened records answer operations that open one,
the number is the count of records opened under the installed epoch for as long as the connection
lives. -/
theorem readSequence_iff {conn : ConnId} {gen : ConfigGeneration} {alg : HashAlgorithm}
    {config : ValidatedServerConfig} {tr : List CoreStep} {s : State}
    (h : CoreRun conn gen alg config tr s) :
    ((∀ t ∈ tr, AdvancesOnce t) ↔ ∀ t ∈ tr, ¬ SkipsRecord t) ∧
      ((∀ t ∈ tr, ¬ SkipsRecord t ∧ AnswersInKind t) → s.handshake.isLive = true →
        s.readEpoch.seq.value.toNat = openedIn s.readEpoch.epoch tr) := by
  constructor
  · exact h.forall_iff (I := fun _ ↦ True) (fun _ _ _ ↦ trivial)
      (fun _ ht _ ↦ advancesOnce_step_iff ht) trivial
  · exact fun hC hlive ↦ (counted_of_run h hC hlive).seq

theorem readSequence_iff_session :
    ((∀ t ∈ Session.run Session.connectEvents, AdvancesOnce t) ↔
      ∀ t ∈ Session.run Session.connectEvents, ¬ SkipsRecord t) ∧
    ((∀ t ∈ Session.run Session.connectEvents, ¬ SkipsRecord t ∧ AnswersInKind t) →
      (Session.reached Session.connectEvents).handshake.isLive = true →
        (Session.reached Session.connectEvents).readEpoch.seq.value.toNat =
          openedIn (Session.reached Session.connectEvents).readEpoch.epoch
            (Session.run Session.connectEvents)) :=
  readSequence_iff (Session.coreRun Session.connectEvents)

/-- A key update of the peer is opened and leaves the read sequence number where it was. -/
theorem not_advancesOnce :
    ¬ ∀ t ∈ Session.run (Session.connectEvents ++
      [.transportBytes Session.conn (frameRecord .applicationData [0]),
        Session.answer 19 (.aeadOpened [24, 0, 0, 1, 0, 22])]), AdvancesOnce t := by
  have hskip : ∃ t ∈ Session.run (Session.connectEvents ++
      [.transportBytes Session.conn (frameRecord .applicationData [0]),
        Session.answer 19 (.aeadOpened [24, 0, 0, 1, 0, 22])]),
      t.input = Session.answer 19 (.aeadOpened [24, 0, 0, 1, 0, 22]) ∧
        t.source.awaits ⟨19⟩ .aeadOpen ∧ t.target.readEpoch = t.source.readEpoch ∧
        t.target.handshake.isLive = true := by
    decide +kernel
  intro h
  obtain ⟨t, ht, hin, hop, hread, hlive⟩ := hskip
  rcases h t ht ⟨19⟩ _ (by rw [hin]; rfl) hop with ⟨-, hseq⟩ | hend
  · rw [hread] at hseq
    exact SeqNo.ne_of_next hseq rfl
  · cases hlive.symm.trans hend

end Kroopt.Core
