import Kroopt.Core.Outcome

/-!
# What the moves of the handshake leave open

`Move` says where a transition leads and what it emits, up to the texts it hands to the provider and
the fields it has staged when it fails.  `Detail` adds these: a failure allocates no operation and
leaves the write epoch of the phase, and what is signed or authenticated is the transcript as it
stands after the transition.
-/

set_option autoImplicit false

namespace Kroopt.Core

/-- The committed bytes, in order. -/
def TranscriptState.text (ts : TranscriptState) : Bytes := (ts.events.map (·.wireBytes)).flatten

/-- The transcript text that an operation signs or authenticates. -/
def CryptoOp.text? : CryptoOp → Option Bytes
  | signCertificateVerify _ text => some text
  | verifyFinished _ text _ => some text
  | computeServerFinished _ text => some text
  | _ => none

theorem CryptoOp.text?_eq_none {op : CryptoOp}
    (h : KeyScheduleDriver.isScheduleKind op.kind = true) : op.text? = none := by
  cases op <;> first | rfl | cases h

/-- The write epoch of a transition that fails: the one before it, or the one that a ServerHello
installs. -/
def WritesAsBefore (s s' : State) : Prop :=
  s'.writeEpoch = s.writeEpoch ∨
    (s.handshake = .requestedEcdhe ∧ s'.writeEpoch = installEpoch .handshake)

/-- An action hands over no transcript text but the one of a state. -/
def SaysTranscript (s : State) : OutputAction → Prop
  | .callCrypto _ _ req => ∀ text, req.text? = some text → s.transcript.text = text
  | _ => True

/-- The text of a snapshot that was just taken. -/
theorem saysTranscript_snapshot {s : State} {ts : TranscriptState} {c : ConnId} {op : OperationId}
    {req : CryptoOp} (hts : s.transcript.events = ts.events)
    (hreq : req.text? = some (ts.snapshot.2.prefixBytes ts.snapshot.1)) :
    SaysTranscript s (.callCrypto c op req) := by
  intro text htext
  rw [hreq, TranscriptState.prefixBytes_snapshot] at htext
  rw [TranscriptState.text, hts]
  exact Option.some.inj htext

/-- What a transition adds to its move. -/
structure Detail (s s' : State) (acts : List OutputAction) : Prop where
  ended : s'.handshake.isTerminal = true → s'.nextOpId = s.nextOpId ∧ WritesAsBefore s s'
  text : ∀ a ∈ acts, SaysTranscript s' a

/-- Whatever a transition returns has the details. -/
def Details (s : State) (res : StepResult) : Prop :=
  ∀ s' acts, res = .ok (s', acts) → Detail s s' acts

namespace Details

variable {s s₀ s' : State}

theorem ignored (s : State) : Details s (.ok (s, [])) := by
  intro s' acts h
  cases h
  exact ⟨fun _ ↦ ⟨rfl, .inl rfl⟩, by simp⟩

theorem failed (hid : s₀.nextOpId = s.nextOpId) (hw : WritesAsBefore s s₀) (a : AlertDescription)
    (e : TlsError) : Details s (hsFail s₀ a e) := by
  intro s' acts h
  cases h
  exact ⟨fun _ ↦ ⟨hid, hw⟩, by simp [failActions, SaysTranscript]⟩

/-- A transition that goes on, and hands over no text but the transcript. -/
theorem live {acts : List OutputAction} (hlive : s'.handshake.isTerminal = false)
    (htext : ∀ a ∈ acts, SaysTranscript s' a) : Details s (.ok (s', acts)) := by
  intro s'' acts' h
  cases h
  exact ⟨fun h ↦ absurd h (by simp [hlive]), htext⟩

theorem alloc {kind : CryptoOpKind} {epoch : Epoch} {dir : Option Direction}
    {k : OperationId → State → StepResult} (hid : s₀.nextOpId = s.nextOpId)
    (hw : WritesAsBefore s s₀) (hk : Details s (k ⟨s₀.nextOpId⟩ (s₀.withOp kind epoch dir))) :
    Details s (allocOpOrFail s₀ kind epoch dir k) := by
  rw [allocOpOrFail_eq]
  split
  · exact hk
  · exact failed hid hw _ _

end Details

/-! ## One lemma per transition -/

theorem onClientHello_details (s : State) (vch : ValidClientHello) (wire : Bytes) :
    Details s (onClientHello s vch wire) := by
  rw [onClientHello]
  split
  · split
    · exact .failed (by rfl) (.inl (by rfl)) _ _
    · split
      · exact .failed (by rfl) (.inl (by rfl)) _ _
      · dsimp only
        split
        · exact .failed (by rfl) (.inl (by rfl)) _ _
        · split
          · exact .failed (by rfl) (.inl (by rfl)) _ _
          · exact .alloc rfl (.inl rfl) (.live rfl (by simp [SaysTranscript, CryptoOp.text?]))
  · exact .failed (by rfl) (.inl (by rfl)) _ _

theorem onServerRandomDone_details (s : State) (random : Bytes) :
    Details s (onServerRandomDone s random) := by
  rw [onServerRandomDone]
  split
  · refine .alloc rfl (.inl rfl) (.live rfl ?_)
    dsimp only
    split <;> simp [SaysTranscript, CryptoOp.text?]
  · exact .failed (by rfl) (.inl (by rfl)) _ _

theorem onEcdheDone_details (s : State) (share : Bytes) (secret : SecretKeyHandle) :
    Details s (onEcdheDone s share secret) := by
  rw [onEcdheDone]
  split
  · rename_i hphase
    refine .alloc rfl (.inr ⟨hphase, rfl⟩) (.live rfl ?_)
    simp [SaysTranscript, CryptoOp.text?]
  · exact .failed (by rfl) (.inl (by rfl)) _ _

theorem onHsScheduleResult_details (s : State) (r : CryptoResult) :
    Details s (onHsScheduleResult s r) := by
  rw [onHsScheduleResult]
  split
  · rename_i hphase
    have hlive : s.handshake.isTerminal = false := by rw [hphase]; rfl
    split
    · exact .failed (by rfl) (.inl (by rfl)) _ _
    · split
      · exact .failed (by rfl) (.inl (by rfl)) _ _
      · rename_i hadv
        obtain ⟨-, -, hops⟩ := KeyScheduleDriver.advance_spec hadv
        refine .alloc rfl (.inl rfl) (.live hlive ?_)
        simp [SaysTranscript, CryptoOp.text?_eq_none (hops _ List.mem_cons_self)]
      · split
        · refine .alloc rfl (.inl rfl) (.live rfl ?_)
          exact List.forall_mem_cons.mpr ⟨trivial, List.forall_mem_cons.mpr ⟨trivial,
            List.forall_mem_singleton.mpr (saysTranscript_snapshot rfl rfl)⟩⟩
        · exact .live hlive (by simp)
  · exact .failed (by rfl) (.inl (by rfl)) _ _

theorem onCertVerifySigned_details (s : State) (sig : Bytes) :
    Details s (onCertVerifySigned s sig) := by
  rw [onCertVerifySigned]
  split
  · refine .alloc rfl (.inl rfl) (.live rfl ?_)
    exact List.forall_mem_cons.mpr ⟨trivial,
      List.forall_mem_singleton.mpr (saysTranscript_snapshot rfl rfl)⟩
  · exact .failed (by rfl) (.inl (by rfl)) _ _

theorem onServerFinishedMac_details (s : State) (mac : Bytes) :
    Details s (onServerFinishedMac s mac) := by
  rw [onServerFinishedMac]
  split
  · split
    · exact .failed (by rfl) (.inl (by rfl)) _ _
    · dsimp only
      split
      · exact .failed (by rfl) (.inl (by rfl)) _ _
      · rename_i hres
        obtain ⟨-, -, hops⟩ := KeyScheduleDriver.resumeApplication_spec hres
        refine .alloc rfl (.inl rfl) (.live rfl ?_)
        simp [SaysTranscript, CryptoOp.text?_eq_none (hops _ List.mem_cons_self)]
      · exact .failed (by rfl) (.inl (by rfl)) _ _
  · exact .failed (by rfl) (.inl (by rfl)) _ _

theorem onApScheduleResult_details (s : State) (r : CryptoResult) :
    Details s (onApScheduleResult s r) := by
  rw [onApScheduleResult]
  split
  · rename_i hphase
    have hlive : s.handshake.isTerminal = false := by rw [hphase]; rfl
    split
    · exact .failed (by rfl) (.inl (by rfl)) _ _
    · split
      · exact .failed (by rfl) (.inl (by rfl)) _ _
      · rename_i hadv
        obtain ⟨-, -, hops⟩ := KeyScheduleDriver.advance_spec hadv
        refine .alloc rfl (.inl rfl) (.live hlive ?_)
        simp [SaysTranscript, CryptoOp.text?_eq_none (hops _ List.mem_cons_self)]
      · split
        · exact .live rfl (by simp)
        · exact .live hlive (by simp)
  · exact .failed (by rfl) (.inl (by rfl)) _ _

theorem onClientFinishedBytes_details (s : State) (wire : Bytes) :
    Details s (onClientFinishedBytes s wire) := by
  rw [onClientFinishedBytes]
  split
  · refine .alloc rfl (.inl rfl) (.live rfl ?_)
    exact List.forall_mem_singleton.mpr (saysTranscript_snapshot rfl rfl)
  · exact .failed (by rfl) (.inl (by rfl)) _ _

theorem onClientFinishedVerified_details (s : State) (wire : Bytes) :
    Details s (onClientFinishedVerified s true wire) := by
  rw [onClientFinishedVerified]
  split
  · exact .live rfl (List.forall_mem_singleton.mpr trivial)
  · exact .failed (by rfl) (.inl (by rfl)) _ _

/-! ## The two entry points -/

theorem handshakeOnGatingResult_details (s : State) (op : OperationId) (r : CryptoResult) :
    Details (s.clearOp op) (handshakeOnGatingResult s op r) := by
  rw [handshakeOnGatingResult.eq_def]
  dsimp only
  cases r with
  | randomBytes b =>
    dsimp only
    split
    · exact onServerRandomDone_details _ b
    · exact .ignored _
  | ecdheComplete share secret =>
    dsimp only
    split
    · exact onEcdheDone_details _ share secret
    · exact .ignored _
  | hkdfSecret h =>
    dsimp only
    split
    · exact onHsScheduleResult_details _ _
    · split
      · exact onApScheduleResult_details _ _
      · exact .ignored _
  | keysInstalled =>
    dsimp only
    split
    · exact onHsScheduleResult_details _ _
    · split
      · exact onApScheduleResult_details _ _
      · exact .ignored _
  | signature sig =>
    dsimp only
    split
    · exact onCertVerifySigned_details _ sig
    · exact .ignored _
  | finishedMac mac =>
    dsimp only
    split
    · exact onServerFinishedMac_details _ mac
    · exact .ignored _
  | verified =>
    dsimp only
    split
    · exact onClientFinishedVerified_details _ _
    · exact .ignored _
  | aeadSealed ct => exact .ignored _
  | aeadOpened pt => exact .ignored _
  | verifyFailed => exact .failed (by rfl) (.inl (by rfl)) _ _
  | failed e => exact .failed (by rfl) (.inl (by rfl)) _ _

theorem handshakeOnPlaintextRecord_details (s : State) (body : Bytes) :
    Details s (handshakeOnPlaintextRecord s body) := by
  rw [handshakeOnPlaintextRecord]
  split
  · split
    · exact .failed (by rfl) (.inl (by rfl)) _ _
    · exact onClientHello_details s _ _
  · split
    · exact onClientFinishedBytes_details s body
    · exact .ignored s

end Kroopt.Core
