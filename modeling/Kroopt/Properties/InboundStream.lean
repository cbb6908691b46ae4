import Kroopt.Core.Edge
import Kroopt.Library.Framing
import Kroopt.Properties.InboundBuffer
import Kroopt.Properties.Transcript
import Mathlib.Data.List.GetD

/-!
# The stream of the client

The client sends one stream of bytes.  The core sees it in chunks, appends each to a buffer, takes
at most one record off that buffer, and appends the body of a handshake record to a second buffer,
from which it takes at most one message.  So there are two framers in a row, each with a buffer of
what is left over, and each working at the pace of the chunks.

None of that is visible in what is read.  A framer that looks only at a prefix of its input and does
not change its mind when more arrives is `Incremental` in the sense of `Library/Framing`, and the
frames of a stream are then determined by the stream.  What a live connection has read is described
in these terms: the records are the frames of the bytes it received, the messages are the frames of
the handshake records, and what is left over is in the two buffers (`Read`).

From this it follows that two connections that were sent the same bytes have read the same, however
the bytes were cut.  The one thing that keeps this from being a theorem about the whole transcript
is that a connection has not always read all that it received.  For the ClientHello it is enough: it
is the first message of both.

## Main definitions

* `recordHead`: the framer of records, of which `frameHandshakeMessage` is the counterpart.
* `CoreStep.received`, `CoreStep.taken`, `CoreStep.handed`: the bytes, the records and the messages
  of a step.
* `Read`: what a connection has read along a run.

## Main results

* `incremental_recordHead` and `incremental_frameHandshakeMessage`: both framers are incremental.
* `reads_of_steps`: what one step reads.
* `read_of_run` and `inboundStream_of_run`: a live connection has read so, whatever the chunks and
  the fragments were.
* `clientHello_of_stream`: two connections that were sent the same stream, cut in any two ways, have
  taken the same ClientHello into their transcripts.
-/

set_option autoImplicit false

namespace Kroopt.Core

open Framing (Frames Incremental)
open Kroopt.Parse (ValidRecordHeader headOf headOf_cons headOf_of_lt header_cases)

/-- A record, as it is taken off the stream. -/
abbrev Record := ValidRecordHeader × Bytes

/-! ## The two framers -/

/-- The record at the front of a buffer. -/
def recordHead (buf : Bytes) : Option (Record × Bytes) :=
  match headOf buf with
  | .record hdr body rest => some ((hdr, body), rest)
  | _ => none

theorem recordHead_of_record {buf body rest : Bytes} {hdr : ValidRecordHeader}
    (h : headOf buf = .record hdr body rest) : recordHead buf = some ((hdr, body), rest) := by
  rw [recordHead, h]

/-- What comes later does not change a record. -/
theorem incremental_recordHead : Incremental recordHead := by
  intro buf more r rest h
  rcases header_cases buf with hlt | ⟨t, v₁, v₂, hi, lo, tail, rfl⟩
  · rw [recordHead, headOf_of_lt hlt] at h
    cases h
  · simp only [List.cons_append]
    rw [recordHead, headOf_cons] at h ⊢
    by_cases hle : hi.toNat * 256 + lo.toNat ≤ maxCiphertextFragment
    · rw [dif_pos hle] at h ⊢
      by_cases hshort : tail.length < hi.toNat * 256 + lo.toNat
      · rw [if_pos hshort] at h
        cases h
      · have hlen : hi.toNat * 256 + lo.toNat ≤ tail.length := Nat.not_lt.mp hshort
        have hlong : ¬ (tail ++ more).length < hi.toNat * 256 + lo.toNat := by
          rw [List.length_append]
          omega
        rw [if_neg hshort] at h
        rw [if_neg hlong, List.take_append_of_le_length hlen, List.drop_append_of_le_length hlen]
        obtain ⟨rfl, rfl⟩ := Prod.mk.inj (Option.some.inj h)
        rfl
    · rw [dif_neg hle] at h
      cases h

/-- What comes later does not change a handshake message. -/
theorem incremental_frameHandshakeMessage : Incremental frameHandshakeMessage := by
  intro buf more msg rest h
  rw [frameHandshakeMessage] at h ⊢
  split at h
  · cases h
  · rename_i hfour
    dsimp only at h ⊢
    have hget : ∀ n < 4, (buf ++ more).getD n 0 = buf.getD n 0 := by
      intro n hn
      rw [List.getD_append _ _ _ _ (by omega)]
    rw [hget 1 (by decide), hget 2 (by decide), hget 3 (by decide)]
    generalize 4 + ((buf.getD 1 0).toNat * 65536 + (buf.getD 2 0).toNat * 256 +
      (buf.getD 3 0).toNat) = total at h ⊢
    split at h
    · cases h
    · rename_i hlen
      have hle : total ≤ buf.length := Nat.not_lt.mp hlen
      obtain ⟨rfl, rfl⟩ := Prod.mk.inj (Option.some.inj h)
      rw [if_neg (by rw [List.length_append]; omega), if_neg (by rw [List.length_append]; omega)]
      rw [Conn.extract_to_end, Conn.extract_to_end, List.extract_eq_take_drop,
        List.extract_eq_take_drop, List.drop_zero, List.drop_zero, Nat.sub_zero,
        List.take_append_of_le_length hle, List.drop_append_of_le_length hle]

/-- A handshake message is what its frame is cut from. -/
theorem frameHandshakeMessage_eq {buf msg rest : Bytes}
    (h : frameHandshakeMessage buf = some (msg, rest)) : buf = msg ++ rest := by
  rw [frameHandshakeMessage] at h
  split at h
  · cases h
  · dsimp only at h
    split at h
    · cases h
    · obtain ⟨rfl, rfl⟩ := Prod.mk.inj (Option.some.inj h)
      rw [Conn.extract_to_end, List.extract_eq_take_drop, List.drop_zero, Nat.sub_zero,
        List.take_append_drop]

/-! ## What a step reads -/

/-- The bytes that a step receives. -/
def CoreStep.received (t : CoreStep) : Bytes := t.input.chunk.getD []

/-- The record that a step takes off the stream. -/
def CoreStep.taken (t : CoreStep) : List Record :=
  match t.input.chunk with
  | some b => ((recordHead (t.source.inboundCiphertext ++ b)).map (·.1)).toList
  | none => []

/-- What a record adds to the handshake stream. -/
def fragment (r : Record) : Bytes := if r.1.outerType = .handshake then r.2 else []

/-- The handshake stream of a list of records. -/
def fragments (rs : List Record) : Bytes := rs.flatMap fragment

/-- The handshake message that a step takes off the handshake stream. -/
def CoreStep.handed (t : CoreStep) : List Bytes :=
  t.taken.flatMap fun r ↦
    if r.1.outerType = .handshake then
      ((frameHandshakeMessage (t.source.handshakeReasm ++ r.2)).map (·.1)).toList
    else []

/-- Moves of the handshake leave the reassembly buffer. -/
theorem Move.reasm {s s' : State} {acts : List OutputAction} (h : Move s s' acts)
    (hlive : s'.handshake.isLive = true) : s'.handshakeReasm = s.handshakeReasm := by
  cases h with
  | failed => cases hlive
  | _ => rfl

/-- What a record leaves in the reassembly buffer. -/
theorem RecordOutcome.reasm {s s' : State} {hdr : ValidRecordHeader} {body : Bytes}
    {acts : List OutputAction} (h : RecordOutcome s hdr body s' acts)
    (hlive : s'.handshake.isLive = true) :
    Frames frameHandshakeMessage (s.handshakeReasm ++ fragment (hdr, body))
      (if hdr.outerType = .handshake then
        ((frameHandshakeMessage (s.handshakeReasm ++ body)).map (·.1)).toList else [])
      s'.handshakeReasm := by
  have hother : hdr.outerType ≠ .handshake → s'.handshakeReasm = s.handshakeReasm →
      Frames frameHandshakeMessage (s.handshakeReasm ++ fragment (hdr, body))
        (if hdr.outerType = .handshake then
          ((frameHandshakeMessage (s.handshakeReasm ++ body)).map (·.1)).toList else [])
        s'.handshakeReasm := by
    intro hne heq
    rw [if_neg hne, fragment, if_neg hne, List.append_nil, heq]
    exact .nil _
  cases h with
  | opens ht => exact hother (by simp [ht]) rfl
  | unread ht => exact hother (by simp [ht]) rfl
  | ccsIgnored ht => exact hother (by simp [ht]) rfl
  | noRoom | ccsRefused | hsRefused | invalid => cases hlive
  | alert ht h => cases h.isLive.symm.trans hlive
  | hsPartial ht hfits hframe =>
    rw [if_pos ht, fragment, if_pos ht, hframe]
    exact .nil _
  | hsMessage ht hfits hframe hres =>
    rw [if_pos ht, fragment, if_pos ht, hframe]
    have hreasm := ((handshakeOnPlaintextRecord_moves _ _).move hres).reasm hlive
    rw [hreasm]
    exact .cons hframe (.nil _)

theorem ResultOutcome.reasm {s s' : State} {op : OperationId} {r : CryptoResult}
    {acts : List OutputAction} (h : ResultOutcome s op r s' acts)
    (hlive : s'.handshake.isLive = true) : s'.handshakeReasm = s.handshakeReasm := by
  cases h with
  | unparsed | verifyFailed | failed => cases hlive
  | opened hp h =>
    cases h with
    | data | skipped => rfl
    | overflow | earlyData | invalid => cases hlive
    | message ht hphase hseq hres =>
      exact ((handshakeOnPlaintextRecord_moves _ _).move hres).reasm hlive
    | alert ht h => cases h.isLive.symm.trans hlive
  | sealed => rfl
  | gating hr hres => exact ((handshakeOnGatingResult_moves _ _ _).move hres).reasm hlive

/-- **What a step reads.** -/
structure Reads (t : CoreStep) : Prop where
  records : Frames recordHead (t.source.inboundCiphertext ++ t.received) t.taken
    t.target.inboundCiphertext
  messages : Frames frameHandshakeMessage (t.source.handshakeReasm ++ fragments t.taken) t.handed
    t.target.handshakeReasm

/-- A step that receives nothing. -/
theorem Reads.of_quiet {t : CoreStep} (hchunk : t.input.chunk = none)
    (hinb : t.target.inboundCiphertext = t.source.inboundCiphertext)
    (hreasm : t.target.handshakeReasm = t.source.handshakeReasm) : Reads t := by
  have htaken : t.taken = [] := by rw [CoreStep.taken, hchunk]
  have hhanded : t.handed = [] := by rw [CoreStep.handed, htaken, List.flatMap_nil]
  have hreceived : t.received = [] := by rw [CoreStep.received, hchunk]; rfl
  constructor
  · rw [htaken, hreceived, List.append_nil, hinb]
    exact .nil _
  · rw [hhanded, htaken, hreasm, fragments, List.flatMap_nil, List.append_nil]
    exact .nil _

theorem reads_of_steps {t : CoreStep} (ht : Machine.Steps step t)
    (hlive : t.target.handshake.isLive = true) : Reads t := by
  have hsource := (HandshakeState.isLive_iff.mp (isLive_source ht hlive)).1
  have hout := outcome_of_steps ht hsource
  obtain ⟨s, ev, acts, s'⟩ := t
  dsimp only at hout hlive
  cases hout with
  | @bytes c b _ _ h =>
    cases h with
    | malformed => cases hlive
    | awaiting hh =>
      have hnone : recordHead (s.inboundCiphertext ++ b) = none := by rw [recordHead, hh]
      constructor
      · dsimp only [CoreStep.received, CoreStep.taken, InputEvent.chunk, Option.getD_some]
        rw [hnone]
        exact .nil _
      · dsimp only [CoreStep.handed, CoreStep.taken, InputEvent.chunk]
        rw [hnone]
        rw [show fragments ((none : Option (Record × Bytes)).map (·.1)).toList = [] from rfl,
          List.append_nil]
        exact .nil _
    | record hh h =>
      have hsome := recordHead_of_record hh
      constructor
      · dsimp only [CoreStep.received, CoreStep.taken, InputEvent.chunk, Option.getD_some]
        rw [hsome, h.inbound]
        exact .cons hsome (.nil _)
      · have hreasm := h.reasm hlive
        dsimp only [CoreStep.handed, CoreStep.taken, InputEvent.chunk]
        rw [hsome]
        simp only [fragments, Option.map_some, Option.toList_some, List.flatMap_singleton]
        exact hreasm
  | result hop h => exact .of_quiet rfl h.inbound (h.reasm hlive)
  | send | closeNotify | stale | noDelivery | writable | flush | deliver | reclose | readable =>
    exact .of_quiet rfl rfl rfl
  | sendRefused | closeNotifyRefused | closeEarly | closeFatal | closeAbortive | eof | timeout =>
    cases hlive

/-! ## The ClientHello

The first message that is taken off the handshake stream is the ClientHello, or the connection ends.
This needs a second look at the steps, because the first one (`Reads`) does not say what is done
with a message. -/

/-- What a transition on a ClientHello returns, if it leads to a live state. -/
def Greeting (s : State) (wire : Bytes) (res : StepResult) : Prop :=
  ∀ s' acts, res = .ok (s', acts) → s'.handshake.isLive = true →
    s'.handshake = .requestedServerRandom ∧
      s'.transcript.events = s.transcript.events ++ [committed .clientHello .read wire]

theorem Greeting.failed {s : State} {wire : Bytes} (s₀ : State) (a : AlertDescription)
    (e : TlsError) : Greeting s wire (hsFail s₀ a e) := by
  intro s' acts h hlive
  cases h
  cases hlive

theorem Greeting.live {s s' : State} {wire : Bytes} {acts : List OutputAction}
    (hphase : s'.handshake = .requestedServerRandom)
    (hevents : s'.transcript.events =
      s.transcript.events ++ [committed .clientHello .read wire]) :
    Greeting s wire (.ok (s', acts)) := by
  intro s'' acts' h _
  cases h
  exact ⟨hphase, hevents⟩

theorem Greeting.alloc {s s₀ : State} {wire : Bytes} {kind : CryptoOpKind} {epoch : Epoch}
    {dir : Option Direction} {k : OperationId → State → StepResult}
    (h : Greeting s wire (k ⟨s₀.nextOpId⟩ (s₀.withOp kind epoch dir))) :
    Greeting s wire (allocOpOrFail s₀ kind epoch dir k) := by
  rw [allocOpOrFail_eq]
  split
  · exact h
  · exact .failed _ _ _

/-- A ClientHello that is accepted becomes the first message of the transcript. -/
theorem onClientHello_greeting (s : State) (vch : ValidClientHello) (wire : Bytes) :
    Greeting s wire (onClientHello s vch wire) := by
  rw [onClientHello]
  split
  · split
    · exact .failed _ _ _
    · split
      · exact .failed _ _ _
      · dsimp only
        split
        · exact .failed _ _ _
        · split
          · exact .failed _ _ _
          · exact .alloc (.live rfl rfl)
  · exact .failed _ _ _

/-- A connection that has left the start does not return to it. -/
theorem start_of_target {t : CoreStep} (ht : Machine.Steps step t)
    (hlive : t.target.handshake.isLive = true) (hstart : t.target.handshake = .start) :
    t.source.handshake = .start := by
  have hedge := edge_of_steps ht hlive
  have hphase : t.target.view.phase = .start := hstart
  generalize hv : t.target.view = v at hedge hphase
  generalize t.input.result? = r at hedge
  generalize requests t.output = reqs at hedge
  cases hedge with
  | stay => exact (congrArg View.phase hv).symm.trans hstart
  | pump h | rest h =>
    rcases h with h | h <;> cases h.symm.trans hphase
  | _ => cases hphase

/-- **What happens before the ClientHello.**  Until a message is taken off the handshake stream the
connection stays where it is; the first one becomes the ClientHello. -/
inductive Greets (t : CoreStep) : Prop
  | waits (hnone : t.handed = []) (hphase : t.target.handshake = .start)
      (hts : t.target.transcript = t.source.transcript)
  | greeted {msg : Bytes} (hone : t.handed = [msg]) (hphase : t.target.handshake ≠ .start)
      (hts : t.target.transcript.events =
        t.source.transcript.events ++ [committed .clientHello .read msg])

theorem greets_of_steps {t : CoreStep} (ht : Machine.Steps step t)
    (hlive : t.target.handshake.isLive = true) (hstart : t.source.handshake = .start)
    (hidle : t.source.pendingOps.ops = []) : Greets t := by
  have hout := outcome_of_steps ht (by rw [hstart]; rfl)
  have hquiet : t.input.chunk = none → t.target.handshake = t.source.handshake →
      t.target.transcript = t.source.transcript → Greets t := by
    intro hchunk hphase hts
    refine .waits ?_ (hphase.trans hstart) hts
    rw [CoreStep.handed, CoreStep.taken, hchunk, List.flatMap_nil]
  obtain ⟨s, ev, acts, s'⟩ := t
  dsimp only at hout hlive hstart hidle hquiet
  cases hout with
  | @bytes c b _ _ h =>
    cases h with
    | malformed => cases hlive
    | awaiting hh =>
      refine .waits ?_ hstart rfl
      dsimp only [CoreStep.handed, CoreStep.taken, InputEvent.chunk]
      rw [recordHead, hh]
      rfl
    | @record hdr body rest _ _ hh h =>
      have hhanded : CoreStep.handed ⟨s, .transportBytes c b, acts, s'⟩ =
          if hdr.outerType = .handshake then
            ((frameHandshakeMessage (s.handshakeReasm ++ body)).map (·.1)).toList else [] := by
        dsimp only [CoreStep.handed, CoreStep.taken, InputEvent.chunk]
        rw [recordHead_of_record hh]
        exact List.flatMap_singleton _ _
      cases h with
      | noRoom | ccsRefused | hsRefused | invalid => cases hlive
      | opens htype hphase =>
        rcases hphase with hphase | hphase <;> cases hstart.symm.trans hphase
      | unread htype => exact .waits (hhanded.trans (if_neg (by simp [htype]))) hstart rfl
      | ccsIgnored htype hphase => exact absurd hstart hphase.1
      | hsPartial htype hfits hframe =>
        refine .waits (hhanded.trans ?_) hstart rfl
        rw [if_pos htype, show frameHandshakeMessage (s.handshakeReasm ++ body) = none from hframe]
        rfl
      | @hsMessage msg tail _ _ htype hfits hframe hres =>
        rw [handshakeOnPlaintextRecord, if_pos (by exact hstart)] at hres
        split at hres
        · cases hres
          cases hlive
        · rename_i wb hparse
          obtain ⟨hphase, hevents⟩ := onClientHello_greeting _ _ _ _ _ hres hlive
          rw [(Parse.parseClientHello_wireBytes hparse).1] at hevents
          refine .greeted (hhanded.trans ?_) (by simp [hphase]) hevents
          rw [if_pos htype, show frameHandshakeMessage (s.handshakeReasm ++ body) = _ from hframe]
          rfl
      | alert htype h => cases h.isLive.symm.trans hlive
  | result hop h =>
    obtain ⟨o, ho, -⟩ := PendingCryptoOps.contains_iff.mp hop
    rw [hidle] at ho
    cases ho
  | send hphase => cases hstart.symm.trans hphase
  | closeNotify | sendRefused | closeNotifyRefused | closeEarly | closeFatal | closeAbortive | eof
  | timeout => cases hlive
  | stale | noDelivery | writable | flush | deliver | reclose | readable => exact hquiet rfl rfl rfl

/-! ## Runs -/

/-- The bytes that a run receives. -/
def receivedOf (tr : List CoreStep) : Bytes := tr.flatMap CoreStep.received

/-- The records that a run takes off the stream. -/
def takenOf (tr : List CoreStep) : List Record := tr.flatMap CoreStep.taken

/-- The handshake messages that a run takes off the records. -/
def handedOf (tr : List CoreStep) : List Bytes := tr.flatMap CoreStep.handed

/-- **What a connection has read.** -/
structure Read (tr : List CoreStep) (s : State) : Prop where
  records : Frames recordHead (receivedOf tr) (takenOf tr) s.inboundCiphertext
  messages : Frames frameHandshakeMessage (fragments (takenOf tr)) (handedOf tr) s.handshakeReasm
  waits : s.handshake = .start → handedOf tr = [] ∧ s.transcript.events = []
  greeted : s.handshake ≠ .start → ∃ msg, (handedOf tr).head? = some msg ∧
    s.transcript.events.head? = some (committed .clientHello .read msg)

theorem Read.step {pre : List CoreStep} {t : CoreStep} (ht : Machine.Steps step t)
    (hlive : t.target.handshake.isLive = true)
    (hidle : t.source.handshake = .start → t.source.pendingOps.ops = [])
    (h : Read pre t.source) : Read (pre ++ [t]) t.target := by
  have hreads := reads_of_steps ht hlive
  have hhanded : handedOf (pre ++ [t]) = handedOf pre ++ t.handed := by
    rw [handedOf, List.flatMap_append, List.flatMap_singleton, handedOf]
  have htaken : takenOf (pre ++ [t]) = takenOf pre ++ t.taken := by
    rw [takenOf, List.flatMap_append, List.flatMap_singleton, takenOf]
  have hrecords : Frames recordHead (receivedOf (pre ++ [t])) (takenOf (pre ++ [t]))
      t.target.inboundCiphertext := by
    rw [htaken, receivedOf, List.flatMap_append, List.flatMap_singleton]
    exact (h.records.append incremental_recordHead _).trans hreads.records
  have hmessages : Frames frameHandshakeMessage (fragments (takenOf (pre ++ [t])))
      (handedOf (pre ++ [t])) t.target.handshakeReasm := by
    rw [htaken, hhanded, fragments, List.flatMap_append]
    exact (h.messages.append incremental_frameHandshakeMessage _).trans hreads.messages
  refine ⟨hrecords, hmessages, fun hphase ↦ ?_, fun hphase ↦ ?_⟩
  all_goals
    rw [hhanded]
    by_cases hstart : t.source.handshake = .start
  · obtain ⟨hnone, hempty⟩ := h.waits hstart
    cases greets_of_steps ht hlive hstart (hidle hstart) with
    | waits hnone' _ hts => exact ⟨by rw [hnone, hnone']; rfl, by rw [hts, hempty]⟩
    | greeted _ hphase' => exact absurd hphase hphase'
  · exact absurd (start_of_target ht hlive hphase) hstart
  · obtain ⟨hnone, hempty⟩ := h.waits hstart
    cases greets_of_steps ht hlive hstart (hidle hstart) with
    | waits _ hphase' => exact absurd hphase' hphase
    | greeted hone _ hts => exact ⟨_, by rw [hnone, hone]; rfl, by rw [hts, hempty]; rfl⟩
  · obtain ⟨msg, hmsg, hevent⟩ := h.greeted hstart
    obtain ⟨new, hevents, -⟩ := (records_of_steps ht hlive).events
    refine ⟨msg, ?_, ?_⟩
    · rw [List.head?_append, hmsg]
      rfl
    · rw [hevents, List.head?_append, hevent]
      rfl

variable {conn conn' : ConnId} {gen gen' : ConfigGeneration} {alg alg' : HashAlgorithm}
  {config config' : ValidatedServerConfig} {tr tr' : List CoreStep} {s s' : State}

/-- A live connection reads its stream. -/
theorem read_of_run (h : CoreRun conn gen alg config tr s) (hlive : s.handshake.isLive = true) :
    Read tr s := by
  refine (Machine.Run.history (J := fun pre s ↦ Invariant s ∧
    (s.handshake.isLive = true → Read pre s)) (C := fun _ ↦ True) (fun pre t ht _ hJ ↦ ?_) h
    (fun _ _ ↦ trivial) ⟨.initial conn gen alg config, fun _ ↦ ?_⟩).2 hlive
  · exact ⟨.step ht hJ.1, fun hlive ↦ (hJ.2 (isLive_source ht hlive)).step ht hlive hJ.1.idle⟩
  · exact ⟨.nil _, .nil _, fun _ ↦ ⟨rfl, rfl⟩, fun hphase ↦ absurd rfl hphase⟩

/-- No byte of the handshake stream is lost. -/
theorem Read.fragments_eq (h : Read tr s) :
    fragments (takenOf tr) = (handedOf tr).flatten ++ s.handshakeReasm := by
  have hflat := h.messages.flatten (fun msg ↦ msg) fun _ _ _ ↦ frameHandshakeMessage_eq
  rwa [List.flatMap_id'] at hflat

/-- **What a live connection has read.**  The records it took are the frames of the bytes it
received and the messages it took the frames of the handshake records, with nothing lost in between,
and the first message is its ClientHello. -/
theorem inboundStream_of_run (h : CoreRun conn gen alg config tr s)
    (hlive : s.handshake.isLive = true) :
    Read tr s ∧ fragments (takenOf tr) = (handedOf tr).flatten ++ s.handshakeReasm :=
  ⟨read_of_run h hlive, (read_of_run h hlive).fragments_eq⟩

theorem inboundStream_connect : Read (Session.run Session.connectEvents)
    (Session.reached Session.connectEvents) ∧
    fragments (takenOf (Session.run Session.connectEvents)) =
      (handedOf (Session.run Session.connectEvents)).flatten ++
        (Session.reached Session.connectEvents).handshakeReasm :=
  inboundStream_of_run (Session.coreRun Session.connectEvents) (by decide +kernel)

theorem fragments_prefix {rs rs' : List Record} (h : rs <+: rs') :
    fragments rs <+: fragments rs' := by
  obtain ⟨more, rfl⟩ := h
  rw [fragments, fragments, List.flatMap_append]
  exact List.prefix_append _ _

/-- One handshake stream has one ClientHello, however it was cut into records. -/
theorem clientHello_of_fragments (hread : Read tr s) (hread' : Read tr' s')
    (hphase : s.handshake ≠ .start) (hphase' : s'.handshake ≠ .start)
    (hstream : fragments (takenOf tr) <+: fragments (takenOf tr') ∨
      fragments (takenOf tr') <+: fragments (takenOf tr)) :
    s.transcript.events.head? = s'.transcript.events.head? := by
  have hhanded :=
    hread.messages.comparable incremental_frameHandshakeMessage hread'.messages hstream
  obtain ⟨msg, hmsg, hevent⟩ := hread.greeted hphase
  obtain ⟨msg', hmsg', hevent'⟩ := hread'.greeted hphase'
  have hhead : ∀ {l l' : List Bytes} {m m' : Bytes}, l <+: l' → l.head? = some m →
      l'.head? = some m' → m = m' := by
    rintro l l' m m' ⟨more, rfl⟩ hm hm'
    rw [List.head?_append, hm] at hm'
    exact Option.some.inj hm'
  have hsame : msg = msg' := by
    rcases hhanded with hle | hle
    · exact hhead hle hmsg hmsg'
    · exact (hhead hle hmsg' hmsg).symm
  rw [hevent, hevent', hsame]

/-- **One stream has one ClientHello.**  Two connections that received the same bytes, or the one of
them more than the other, have the same first message in their transcripts, however the bytes were
cut into chunks. -/
theorem clientHello_of_stream (h : CoreRun conn gen alg config tr s)
    (h' : CoreRun conn' gen' alg' config' tr' s') (hlive : s.handshake.isLive = true)
    (hlive' : s'.handshake.isLive = true) (hphase : s.handshake ≠ .start)
    (hphase' : s'.handshake ≠ .start)
    (hstream : receivedOf tr <+: receivedOf tr' ∨ receivedOf tr' <+: receivedOf tr) :
    s.transcript.events.head? = s'.transcript.events.head? := by
  have hread := read_of_run h hlive
  have hread' := read_of_run h' hlive'
  have htaken := hread.records.comparable incremental_recordHead hread'.records hstream
  exact clientHello_of_fragments hread hread' hphase hphase'
    (htaken.imp fragments_prefix fragments_prefix)

/-- The ClientHello in two records, as a stream that is cut in two behind `n` bytes. -/
def Session.cutEvents (n : Nat) : List InputEvent :=
  let stream := frameRecord .handshake (Session.hello.take 9) ++
    frameRecord .handshake (Session.hello.drop 9)
  [.transportBytes Session.conn (stream.take n), .transportBytes Session.conn (stream.drop n)]

theorem clientHello_cut : (Session.reached (Session.cutEvents 20)).transcript.events.head? =
    (Session.reached (Session.cutEvents 50)).transcript.events.head? :=
  clientHello_of_stream (Session.coreRun (Session.cutEvents 20))
    (Session.coreRun (Session.cutEvents 50)) (by decide +kernel) (by decide +kernel)
    (by decide +kernel) (by decide +kernel) (.inl (by decide +kernel))

end Kroopt.Core
