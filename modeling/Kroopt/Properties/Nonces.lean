import Kroopt.Core.Detail
import Kroopt.Core.Invariant
import Kroopt.Core.Nonce
import Kroopt.Core.Session
import Kroopt.Crypto.KeySchedule
import Mathlib.Algebra.Order.Ring.Nat
import Mathlib.Data.List.GetD
import Mathlib.Data.List.Nodup
import Mathlib.Tactic.IntervalCases

/-!
# Nonces are not used twice

A protected record is sealed under the nonce that its epoch and its sequence number make of the
installed IV.  Whether a nonce is used twice is therefore two questions.

The first is about arithmetic.  The provider computes the nonce in a loop that walks the IV from its
end and takes the sequence number apart byte by byte; the specification pads the number on the left
and xors.  The two agree for every IV of at least eight bytes (`nonce_eq`), and then different
numbers make different nonces (`nonce_injective`), because no byte of the number is cut off.

The second is about the order in which the core hands out numbers, and here the two epochs differ.
Under application keys the core counts: each record takes the number of the write epoch and advances
it.  Under handshake keys it does not.  The messages of the server flight carry the literal numbers
`0` to `3`, and the write epoch stays at `0` all the while.  As long as the handshake goes on this
is as good as counting.  But an alert takes its number from the write epoch, so a fatal alert behind
the first message of the flight is sealed under a number that has been used.

The invariant that carries this is `WritesUpTo s n m`: a live connection has used the first `n`
positions of the handshake epoch and the first `m` of the application epoch, where `n` is a function
of the phase and `m` is what the write epoch says.  A step uses the next position, or ends the
connection with at most one more record, for an alert (`WriteStep`).

## Main definitions

* `Position` and `positions`: where in the key space the records of a step stand.
* `WritesUpTo` and `WriteStep`: the invariant, and what a step does to it.
* `Tally`: what is known of the records of a run, also once the connection has ended.
* `AlertsInTime`: if the step sends an alert under the handshake keys, the flight has not begun.

## Main results

* `nonce_eq` and `nonce_injective`: the arithmetic.
* `Outcome.writes`: one step of a live connection.
* `written_of_run`: the places in the key space that a live connection has used are those of its
  server flight and then those of its application records, in order and without a gap.
* `nonces_nodup_iff`: along a run no nonce is used twice exactly if no alert goes out under the
  handshake keys once the server flight has begun.
-/

set_option autoImplicit false

namespace Kroopt.Core

/-! ## The nonce

The loop runs over the IV from the end, and its state is the rest of the sequence number, so the
lemma about it says what every byte of the result is, at every distance from the end. -/

/-- A digit of a sequence number in base 256, counted from the least significant one. -/
def seqDigit (seq : UInt64) (j : Nat) : UInt8 := (seq.toNat / 256 ^ j).toUInt8

theorem seqDigit_div (seq : UInt64) (j : Nat) : seqDigit (seq / 256) j = seqDigit seq (j + 1) := by
  rw [seqDigit, seqDigit, UInt64.toNat_div, Nat.pow_succ, Nat.mul_comm, ← Nat.div_div_eq_div_mul]
  rfl

theorem seqDigit_zero (seq : UInt64) : (seq % 256).toUInt8 = seqDigit seq 0 := by
  rw [← UInt8.toNat_inj]
  simp [seqDigit]

/-- The digits determine the number. -/
theorem seqDigit_injective {seq seq' : UInt64} (h : ∀ j < 8, seqDigit seq j = seqDigit seq' j) :
    seq = seq' := by
  have hlt := seq.toNat_lt
  have hlt' := seq'.toNat_lt
  have hdigit : ∀ j < 8, seq.toNat / 256 ^ j % 256 = seq'.toNat / 256 ^ j % 256 := by
    intro j hj
    have hnat := congrArg UInt8.toNat (h j hj)
    simpa [seqDigit] using hnat
  have h0 := hdigit 0 (by decide)
  have h1 := hdigit 1 (by decide)
  have h2 := hdigit 2 (by decide)
  have h3 := hdigit 3 (by decide)
  have h4 := hdigit 4 (by decide)
  have h5 := hdigit 5 (by decide)
  have h6 := hdigit 6 (by decide)
  have h7 := hdigit 7 (by decide)
  rw [← UInt64.toNat_inj]
  simp only [Nat.reducePow] at h0 h1 h2 h3 h4 h5 h6 h7
  omega

end Kroopt.Core

namespace Kroopt.Crypto.Real

open Kroopt.Core (SeqNo seqDigit nonceBytes paddedSeqBytes seqBytesBE)

/-- **The loop of `nonce`.**  The rounds from `i` on change the bytes at the distances `i` up to
`i + rounds` from the end, each by its digit. -/
theorem nonceGo_getD {n rounds i : Nat} {seq : UInt64} {out : Bytes} (hlen : out.length = n)
    (k : Nat) : (nonceGo n rounds i seq out).getD k 0 =
      if k + i < n ∧ n ≤ k + i + rounds then out.getD k 0 ^^^ seqDigit seq (n - 1 - i - k)
      else out.getD k 0 := by
  induction rounds generalizing i seq out with
  | zero =>
    rw [nonceGo, if_neg (by omega)]
  | succ rounds ih =>
    rw [nonceGo]
    dsimp only
    by_cases hn : n ≥ 1 + i
    · rw [if_pos hn, ih (by rw [List.length_set, hlen]), Core.seqDigit_div, Core.seqDigit_zero]
      by_cases hk : k = n - 1 - i
      · have hlt : n - 1 - i < out.length := by omega
        rw [if_neg (by omega), if_pos (by omega), hk]
        simp [List.getD_eq_getElem?_getD, hlt]
      · have hne : n - 1 - i ≠ k := fun h ↦ hk h.symm
        have hset : (out.set (n - 1 - i) (out.getD (n - 1 - i) 0 ^^^ seqDigit seq 0)).getD k 0 =
            out.getD k 0 := by
          simp [List.getD_eq_getElem?_getD, hne]
        rw [hset]
        by_cases hin : k + i < n ∧ n ≤ k + i + (rounds + 1)
        · rw [if_pos (by omega), if_pos hin]
          congr 2
          omega
        · rw [if_neg (by omega), if_neg hin]
    · rw [if_neg hn, ih hlen, if_neg (by omega), if_neg (by omega)]

theorem length_nonceGo (n rounds i : Nat) (seq : UInt64) (out : Bytes) :
    (nonceGo n rounds i seq out).length = out.length := by
  induction rounds generalizing i seq out with
  | zero => rfl
  | succ rounds ih =>
    rw [nonceGo, ih]
    split
    · rw [List.length_set]
    · rfl

theorem length_nonce (iv : Bytes) (seq : UInt64) : (nonce iv seq).length = iv.length :=
  length_nonceGo _ _ _ _ _

/-- A byte of a nonce. -/
theorem nonce_getD (iv : Bytes) (seq : UInt64) (k : Nat) : (nonce iv seq).getD k 0 =
    if k < iv.length ∧ iv.length ≤ k + 8 then iv.getD k 0 ^^^ seqDigit seq (iv.length - 1 - k)
    else iv.getD k 0 := by
  rw [nonce, nonceGo_getD rfl]
  simp

/-- The padded sequence number holds the digits in its last eight bytes. -/
theorem paddedSeqBytes_getD {n k : Nat} (hn : 8 ≤ n) (hk : k < n) (seq : UInt64) :
    (paddedSeqBytes n ⟨seq⟩).getD k 0 = if n ≤ k + 8 then seqDigit seq (n - 1 - k) else 0 := by
  have hlen : (seqBytesBE ⟨seq⟩).length = 8 := rfl
  have hdigits : ∀ j < 8, (seqBytesBE ⟨seq⟩).getD j 0 = seqDigit seq (7 - j) := by
    intro j hj
    rw [← UInt8.toNat_inj, seqDigit]
    interval_cases j <;> simp [seqBytesBE, Nat.shiftRight_eq_div_pow]
  rw [paddedSeqBytes, hlen]
  by_cases h : n ≤ k + 8
  · rw [if_pos h, List.getD_append_right _ _ _ _ (by rw [List.length_replicate]; omega),
      List.length_replicate, hdigits _ (by omega)]
    congr 1
    omega
  · rw [if_neg h, List.getD_append _ _ _ _ (by rw [List.length_replicate]; omega)]
    simp

/-- **The nonce is the one of the specification**, for every IV of at least eight bytes. -/
theorem nonce_eq {iv : Bytes} (h : 8 ≤ iv.length) (seq : UInt64) :
    nonce iv seq = nonceBytes iv iv.length ⟨seq⟩ := by
  have hpadded : (paddedSeqBytes iv.length ⟨seq⟩).length = iv.length := by
    rw [paddedSeqBytes, List.length_append, List.length_replicate]
    exact Nat.sub_add_cancel h
  refine List.ext_getElem ?_ fun k hk hk' ↦ ?_
  · rw [length_nonce, nonceBytes, List.length_zipWith, hpadded, Nat.min_self]
  · rw [length_nonce] at hk
    have hleft := nonce_getD iv seq k
    have hright := paddedSeqBytes_getD h hk seq
    rw [List.getD_eq_getElem _ _ (by rwa [length_nonce])] at hleft
    rw [List.getD_eq_getElem _ _ (by rwa [hpadded])] at hright
    rw [hleft, List.getD_eq_getElem _ _ hk]
    simp only [nonceBytes, List.getElem_zipWith, hright, hk, true_and]
    split
    · rfl
    · exact UInt8.xor_zero.symm

theorem nonce_eq_one :
    nonce (List.replicate 12 0) 1 = nonceBytes (List.replicate 12 0) 12 ⟨1⟩ :=
  nonce_eq (by decide) 1

/-- **Different sequence numbers make different nonces.** -/
theorem nonce_injective {iv : Bytes} (h : 8 ≤ iv.length) : Function.Injective (nonce iv) := by
  intro seq seq' heq
  refine Core.seqDigit_injective fun j hj ↦ ?_
  have hbyte := congrArg (fun l : Bytes ↦ l.getD (iv.length - 1 - j) 0) heq
  simp only [nonce_getD] at hbyte
  rw [if_pos (by omega), if_pos (by omega), UInt8.xor_right_inj] at hbyte
  have hindex : iv.length - 1 - (iv.length - 1 - j) = j := by omega
  rwa [hindex] at hbyte

end Kroopt.Crypto.Real

namespace Kroopt.Core

/-! ## Where the records of a run stand in the key space

A position is an epoch with a sequence number; records in clear have none.  `used n m` lists the
first positions of both epochs, in the order in which a connection without an alert takes them. -/

/-- A place in the key space: an epoch and a sequence number. -/
abbrev Position := Epoch × UInt64

/-- The position of a record; those of the initial epoch are not protected. -/
def recordPosition (epoch : Epoch) (seq : UInt64) : Option Position :=
  if epoch = .initial then none else some (epoch, seq)

/-- The position under which the record that an action asks for is sealed. -/
def OutputAction.position? : OutputAction → Option Position
  | .writeHandshake _ epoch seq _ => recordPosition epoch seq
  | .writeCertificate _ epoch seq _ => recordPosition epoch seq
  | .writeAlert _ epoch seq _ => recordPosition epoch seq
  | .callCrypto _ _ (.aeadSeal rmeta _ _) => some (rmeta.epoch, rmeta.seq.value)
  | _ => none

theorem position?_writeHandshake (c : ConnId) (epoch : Epoch) (seq : UInt64) (msg : HandshakeOut) :
    (OutputAction.writeHandshake c epoch seq msg).position? = recordPosition epoch seq := rfl

/-- The positions a list of actions uses. -/
def positions (acts : List OutputAction) : List Position :=
  acts.filterMap OutputAction.position?

/-- An alert under the keys of an epoch is among the actions. -/
def AlertsUnder (epoch : Epoch) (acts : List OutputAction) : Prop :=
  ∃ c seq a, OutputAction.writeAlert c epoch seq a ∈ acts

/-- The server flight has begun. -/
def State.flightSent (s : State) : Prop :=
  ∃ e ∈ s.transcript.events, e.eventMeta.kind = .encryptedExtensions

/-- The first positions of the server flight and of the application records, with their sequence
numbers as natural numbers. -/
def used (n m : Nat) : List (Epoch × Nat) :=
  (List.range n).map (Prod.mk .handshake) ++ (List.range m).map (Prod.mk .application)

theorem used_succ_application (n m : Nat) :
    used n m ++ [(.application, m)] = used n (m + 1) := by
  simp [used, List.range_succ]

theorem nodup_used (n m : Nat) : (used n m).Nodup := by
  refine List.Nodup.append (List.nodup_range.map fun _ _ h ↦ (Prod.mk.inj h).2)
    (List.nodup_range.map fun _ _ h ↦ (Prod.mk.inj h).2) ?_
  intro p hp hp'
  obtain ⟨_, -, rfl⟩ := List.mem_map.mp hp
  obtain ⟨_, -, h⟩ := List.mem_map.mp hp'
  cases h

theorem mem_used_handshake {n m k : Nat} : (Epoch.handshake, k) ∈ used n m ↔ k < n := by
  simp [used]

theorem mem_used_application {n m k : Nat} : (Epoch.application, k) ∈ used n m ↔ k < m := by
  simp [used]

namespace HandshakeState

/-- How many messages of the server flight have been sent under the handshake keys. -/
def flightSize : HandshakeState → Option Nat
  | start => some 0
  | requestedServerRandom => some 0
  | requestedEcdhe => some 0
  | derivedHandshakeSecrets => some 0
  | requestedCertificateVerifySignature => some 2
  | requestedServerFinishedMac => some 3
  | sentCertificateVerify => some 4
  | sentServerFinished => some 4
  | requestedClientFinishedVerify => some 4
  | connected => some 4
  | _ => none

/-- The epoch a live connection writes under. -/
def writesUnder : HandshakeState → Option Epoch
  | start => some .initial
  | requestedServerRandom => some .initial
  | requestedEcdhe => some .initial
  | derivedHandshakeSecrets => some .handshake
  | requestedCertificateVerifySignature => some .handshake
  | requestedServerFinishedMac => some .handshake
  | sentCertificateVerify => some .handshake
  | sentServerFinished => some .application
  | requestedClientFinishedVerify => some .application
  | connected => some .application
  | _ => none

end HandshakeState

/-- **The write side of a live connection** that has used `n` positions of the handshake epoch and
`m` of the application epoch. -/
structure WritesUpTo (s : State) (n m : Nat) : Prop where
  flight : ∀ k, s.handshake.flightSize = some k → n = k
  sent : s.flightSent ↔ 0 < n
  epoch : ∀ e, s.handshake.writesUnder = some e → s.writeEpoch.epoch = e
  initial : s.writeEpoch.epoch = .initial → n = 0 ∧ m = 0
  /-- The core does not count the messages of its flight. -/
  handshake : s.writeEpoch.epoch = .handshake → s.writeEpoch.seq = .zero ∧ m = 0
  application : s.writeEpoch.epoch = .application → s.writeEpoch.seq.value.toNat = m

theorem WritesUpTo.start (conn : ConnId) (gen : ConfigGeneration) (alg : HashAlgorithm)
    (config : ValidatedServerConfig) :
    WritesUpTo (State.initialWith conn gen alg config) 0 0 where
  flight k h := by
    cases h
    rfl
  sent := by simp [State.flightSent, State.initialWith, State.initial, TranscriptState.fresh]
  epoch e h := by
    cases h
    rfl
  initial _ := ⟨rfl, rfl⟩
  handshake h := by cases h
  application h := by cases h

/-- Nothing the write side depends on changed. -/
theorem WritesUpTo.of_eq {s s' : State} {n m : Nat} (h : WritesUpTo s n m)
    (hphase : s'.handshake = s.handshake ∨ s'.handshake = .closing)
    (hwrite : s'.writeEpoch = s.writeEpoch)
    (htr : s'.transcript.events = s.transcript.events) : WritesUpTo s' n m where
  flight k hk := by
    rcases hphase with hp | hp
    · exact h.flight k (hp ▸ hk)
    · rw [hp] at hk
      cases hk
  sent := by rw [State.flightSent, htr]; exact h.sent
  epoch e he := by
    rw [hwrite]
    rcases hphase with hp | hp
    · exact h.epoch e (hp ▸ he)
    · rw [hp] at he
      cases he
  initial := by rw [hwrite]; exact h.initial
  handshake := by rw [hwrite]; exact h.handshake
  application := by rw [hwrite]; exact h.application

/-! ## One step

What a step writes depends on the state only through the phase and the write epoch, so that is what
`WriteStep` mentions.  The one place where the two disagree is the ECDHE result: by the time it can
fail, the handshake epoch is installed already. -/

/-- The positions with their sequence numbers as natural numbers. -/
def toNats (ps : List Position) : List (Epoch × Nat) := ps.map fun p ↦ (p.1, p.2.toNat)

/-- The position of the next record under the keys of a direction. -/
def EpochState.position (es : EpochState) : List Position :=
  (recordPosition es.epoch es.seq.value).toList

/-- **What a step writes**, from a live state in the given phase and write epoch. -/
inductive WriteStep (phase : HandshakeState) (es : EpochState) (s' : State)
    (acts : List OutputAction) (n m : Nat) : Prop
  /-- The next positions are used. -/
  | goesOn {n' m' : Nat} (h : WritesUpTo s' n' m')
      (hpos : used n m ++ toNats (positions acts) = used n' m')
      (hquiet : ∀ e, ¬ AlertsUnder e acts)
  | ends (hend : s'.handshake.isTerminal = true) (hpos : positions acts = [])
      (hquiet : ∀ e, ¬ AlertsUnder e acts)
  /-- A last record, for a fatal alert. -/
  | alerts {last : EpochState} (hend : s'.handshake.isTerminal = true)
      (hlast : last = es ∨ (phase = .requestedEcdhe ∧ last = installEpoch .handshake))
      (hpos : positions acts = last.position) (halert : ∀ e, AlertsUnder e acts ↔ e = last.epoch)

/-- An alert under the keys of a write epoch, and nothing else. -/
theorem WriteStep.alert {phase : HandshakeState} {es last : EpochState} {s' : State}
    {acts : List OutputAction} {n m : Nat} (c : ConnId) (a : AlertDescription)
    (hend : s'.handshake.isTerminal = true)
    (hlast : last = es ∨ (phase = .requestedEcdhe ∧ last = installEpoch .handshake))
    (hpos : positions acts = []) (hquiet : ∀ e, ¬ AlertsUnder e acts) :
    WriteStep phase es s' (.writeAlert c last.epoch last.seq.value a :: acts) n m := by
  refine .alerts hend hlast ?_ fun e ↦ ?_
  · rw [EpochState.position, positions, List.filterMap_cons, OutputAction.position?]
    rw [positions] at hpos
    cases recordPosition last.epoch last.seq.value <;> simp [hpos]
  · constructor
    · rintro ⟨c', seq, d, hmem⟩
      rcases List.mem_cons.mp hmem with heq | hmem
      · cases heq
        rfl
      · exact absurd ⟨c', seq, d, hmem⟩ (hquiet e)
    · rintro rfl
      exact ⟨c, last.seq.value, a, List.mem_cons_self⟩

/-- A failure writes its alert at the end. -/
theorem WriteStep.failed {phase : HandshakeState} {es : EpochState} {s₀ : State} {n m : Nat}
    (a : AlertDescription) (e : TlsError)
    (hs : s₀.writeEpoch = es ∨
      (phase = .requestedEcdhe ∧ s₀.writeEpoch = installEpoch .handshake)) :
    WriteStep phase es (s₀.fail a) (failActions s₀ a e) n m :=
  .alert s₀.connId a rfl hs rfl (by simp [AlertsUnder])

/-- A step that writes nothing and keeps the write side. -/
theorem WriteStep.quiet {s s' : State} {acts : List OutputAction} {n m : Nat}
    (h : WritesUpTo s n m) (hphase : s'.handshake = s.handshake ∨ s'.handshake = .closing)
    (hwrite : s'.writeEpoch = s.writeEpoch)
    (htr : s'.transcript.events = s.transcript.events) (hpos : positions acts = [])
    (hquiet : ∀ e, ¬ AlertsUnder e acts) : WriteStep s.handshake s.writeEpoch s' acts n m :=
  .goesOn (h.of_eq hphase hwrite htr) (by rw [hpos, toNats, List.map_nil, List.append_nil]) hquiet

/-- A move that neither writes nor changes keys. -/
theorem WritesUpTo.phase {s s' : State} {n m : Nat} {new : List TranscriptEvent}
    (h : WritesUpTo s n m) (hflight : s'.handshake.flightSize = s.handshake.flightSize)
    (hunder : s'.handshake.writesUnder = s.handshake.writesUnder)
    (hwrite : s'.writeEpoch = s.writeEpoch)
    (htr : s'.transcript.events = s.transcript.events ++ new)
    (hnew : ∀ ev ∈ new, ev.eventMeta.kind ≠ .encryptedExtensions) : WritesUpTo s' n m where
  flight := by rw [hflight]; exact h.flight
  sent := by
    have hsent : s'.flightSent ↔ s.flightSent := by
      simp only [State.flightSent, htr, List.mem_append, or_and_right, exists_or,
        or_iff_left_iff_imp]
      rintro ⟨ev, hev, hkind⟩
      exact absurd hkind (hnew ev hev)
    rw [hsent, h.sent]
  epoch := by rw [hunder, hwrite]; exact h.epoch
  initial := by rw [hwrite]; exact h.initial
  handshake := by rw [hwrite]; exact h.handshake
  application := by rw [hwrite]; exact h.application

/-- The write side after a move along the handshake. -/
theorem WritesUpTo.next {s s' : State} {n m k : Nat} {e : Epoch} {new : List TranscriptEvent}
    (h : WritesUpTo s n m) (hflight : s'.handshake.flightSize = some k)
    (hunder : s'.handshake.writesUnder = some e) (hwrite : s'.writeEpoch.epoch = e)
    (hseq : s'.writeEpoch.seq = .zero)
    (hzero : m = 0 ∧ (e = .initial → k = 0))
    (htr : s'.transcript.events = s.transcript.events ++ new)
    (hnew : (∃ ev ∈ new, ev.eventMeta.kind = .encryptedExtensions) ↔ n = 0 ∧ 0 < k)
    (hle : n ≤ k) : WritesUpTo s' k 0 where
  flight j hj := by
    rw [hflight] at hj
    exact Option.some.inj hj
  sent := by
    have hsent : s'.flightSent ↔ s.flightSent ∨
        ∃ ev ∈ new, ev.eventMeta.kind = .encryptedExtensions := by
      simp only [State.flightSent, htr, List.mem_append, or_and_right, exists_or]
    rw [hsent, h.sent, hnew]
    omega
  epoch e' he' := by
    rw [hunder] at he'
    exact hwrite.trans (Option.some.inj he')
  initial he := ⟨hzero.2 (hwrite ▸ he), rfl⟩
  handshake _ := ⟨hseq, rfl⟩
  application _ := by rw [hseq]; rfl

theorem not_alertsUnder_nil (e : Epoch) : ¬ AlertsUnder e [] := by simp [AlertsUnder]

/-- A schedule operation seals no record. -/
theorem position?_schedule {c : ConnId} {id : OperationId} {op : CryptoOp}
    (h : op.kind ≠ .aeadSeal) : (OutputAction.callCrypto c id op).position? = none := by
  cases op <;> first | rfl | exact absurd rfl h

/-- **Moves of the handshake** use the positions of the flight, in order. -/
theorem Move.writes {s s' : State} {acts : List OutputAction} {n m : Nat} (h : Move s s' acts)
    (hd : Detail s s' acts) (hw : WritesUpTo s n m) :
    WriteStep s.handshake s.writeEpoch s' acts n m := by
  cases h with
  | ignored => exact .quiet hw (.inl rfl) rfl rfl rfl not_alertsUnder_nil
  | failed hs ha => exact .failed _ _ (hd.ended rfl).2
  | clientHello hphase hroom hwire =>
    exact .goesOn (hw.phase (by rw [hphase]; rfl) (by rw [hphase]; rfl) rfl rfl (by simp))
      (by simp [positions, OutputAction.position?, toNats]) (by simp [AlertsUnder])
  | @serverRandom random op hphase hroom hop =>
    refine .goesOn (hw.phase (by rw [hphase]; rfl) (by rw [hphase]; rfl) rfl
      (List.append_nil _).symm (by simp)) ?_ (by simp [AlertsUnder])
    have hquiet : (OutputAction.callCrypto s.connId ⟨s.nextOpId⟩ op).position? = none :=
      position?_schedule (by rw [hop]; simp)
    simp [positions, hquiet, toNats]
  | @ecdhe share msg ts ksd op hphase hroom hop hmsg hts hksd =>
    obtain rfl := hw.flight 0 (by rw [hphase]; rfl)
    obtain ⟨-, rfl⟩ := hw.initial (hw.epoch .initial (by rw [hphase]; rfl))
    refine .goesOn
      (hw.next rfl rfl rfl rfl ⟨rfl, by simp⟩ hts (by simp [committed]) (Nat.le_refl 0))
      ?_ (by simp [AlertsUnder])
    have hquiet : (OutputAction.callCrypto s.connId ⟨s.nextOpId⟩ op).position? = none :=
      position?_schedule (by rw [hop]; simp)
    simp [positions, hquiet, position?_writeHandshake, recordPosition, toNats]
  | pump hphase hroom hop hksd =>
    refine .quiet hw (.inl rfl) rfl rfl ?_ fun e ↦ ?_
    · simp [positions, position?_schedule (KeyScheduleDriver.isScheduleKind_ne_aeadSeal hop)]
    · simp [AlertsUnder]
  | rest hphase hksd => exact .quiet hw (.inl rfl) rfl rfl rfl not_alertsUnder_nil
  | @serverFlight msg ts ksd input hphase hroom hksd hmsg hts =>
    obtain rfl := hw.flight 0 (by rw [hphase]; rfl)
    have hepoch := hw.epoch .handshake (by rw [hphase]; rfl)
    obtain ⟨hseq, rfl⟩ := hw.handshake hepoch
    refine .goesOn (hw.next rfl rfl hepoch hseq ⟨rfl, by simp⟩ hts (by simp [committed])
      (Nat.zero_le 2)) ?_ (by simp [AlertsUnder])
    simp [positions, OutputAction.position?, recordPosition, toNats, used, List.range_succ]
  | @certificateVerify scheme sig ts alg input hphase hroom hts =>
    obtain rfl := hw.flight 2 (by rw [hphase]; rfl)
    have hepoch := hw.epoch .handshake (by rw [hphase]; rfl)
    obtain ⟨hseq, rfl⟩ := hw.handshake hepoch
    refine .goesOn (hw.next rfl rfl hepoch hseq ⟨rfl, by simp⟩ hts (by simp [committed])
      (by omega)) ?_ (by simp [AlertsUnder])
    simp [positions, OutputAction.position?, recordPosition, toNats, used, List.range_succ]
  | @serverFinished mac ts ksd op hphase hroom hop hksd hts =>
    obtain rfl := hw.flight 3 (by rw [hphase]; rfl)
    have hepoch := hw.epoch .handshake (by rw [hphase]; rfl)
    obtain ⟨hseq, rfl⟩ := hw.handshake hepoch
    refine .goesOn (hw.next rfl rfl hepoch hseq ⟨rfl, by simp⟩ hts (by simp [committed])
      (by omega)) ?_ (by simp [AlertsUnder])
    have hquiet : (OutputAction.callCrypto s.connId ⟨s.nextOpId⟩ op).position? = none :=
      position?_schedule (KeyScheduleDriver.isScheduleKind_ne_aeadSeal hop)
    simp [positions, hquiet, position?_writeHandshake, recordPosition, toNats, used,
      List.range_succ]
  | applicationKeys hphase hksd =>
    obtain rfl := hw.flight 4 (by rw [hphase]; rfl)
    obtain ⟨-, rfl⟩ := hw.handshake (hw.epoch .handshake (by rw [hphase]; rfl))
    exact .goesOn (hw.next rfl rfl rfl rfl ⟨rfl, by simp⟩ (List.append_nil _).symm (by simp)
      (Nat.le_refl 4)) (by simp [positions, toNats]) (by simp [AlertsUnder])
  | clientFinished hphase hroom hts =>
    exact .goesOn (hw.phase (by rw [hphase]; rfl) (by rw [hphase]; rfl) rfl
      (hts.trans (List.append_nil _).symm) (by simp))
      (by simp [positions, OutputAction.position?, toNats]) (by simp [AlertsUnder])
  | verified hphase =>
    exact .goesOn (hw.phase (by rw [hphase]; rfl) (by rw [hphase]; rfl) rfl rfl (by simp))
      (by simp [positions, OutputAction.position?, toNats]) (by simp [AlertsUnder])

theorem AlertOutcome.writes {s s' : State} {body : Bytes} {acts : List OutputAction} {n m : Nat}
    (h : AlertOutcome s body s' acts) (hw : WritesUpTo s n m) :
    WriteStep s.handshake s.writeEpoch s' acts n m := by
  cases h with
  | closeNotify => exact .quiet hw (.inr rfl) rfl rfl rfl (by simp [AlertsUnder])
  | fatal => exact .ends rfl rfl (by simp [AlertsUnder])
  | malformed => exact .failed _ _ (.inl rfl)

theorem RecordOutcome.writes {s s' : State} {hdr : Parse.ValidRecordHeader} {body : Bytes}
    {acts : List OutputAction} {n m : Nat} (h : RecordOutcome s hdr body s' acts)
    (hw : WritesUpTo s n m) : WriteStep s.handshake s.writeEpoch s' acts n m := by
  cases h with
  | opens | hsPartial => exact .quiet hw (.inl rfl) rfl rfl rfl (by simp [AlertsUnder])
  | unread | ccsIgnored => exact .quiet hw (.inl rfl) rfl rfl rfl not_alertsUnder_nil
  | noRoom | ccsRefused | invalid | hsRefused => exact .failed _ _ (.inl rfl)
  | hsMessage ht hfits hframe hres =>
    exact ((handshakeOnPlaintextRecord_moves _ _).move hres).writes
      (handshakeOnPlaintextRecord_details _ _ _ _ hres) (hw.of_eq (.inl rfl) rfl rfl)
  | alert ht h => exact h.writes hw

theorem ResultOutcome.writes {s s' : State} {op : OperationId} {r : CryptoResult}
    {acts : List OutputAction} {n m : Nat} (h : ResultOutcome s op r s' acts)
    (hw : WritesUpTo s n m) : WriteStep s.handshake s.writeEpoch s' acts n m := by
  have hcleared : WritesUpTo (s.clearOp op) n m := hw.of_eq (.inl rfl) rfl rfl
  cases h with
  | unparsed | verifyFailed | failed => exact .failed _ _ (.inl rfl)
  | opened hp h =>
    cases h with
    | data | skipped => exact .quiet hw (.inl rfl) rfl rfl rfl not_alertsUnder_nil
    | message ht hphase hseq hres =>
      exact ((handshakeOnPlaintextRecord_moves _ _).move hres).writes
        (handshakeOnPlaintextRecord_details _ _ _ _ hres) (hw.of_eq (.inl rfl) rfl rfl)
    | overflow | earlyData | invalid => exact .failed _ _ (.inl rfl)
    | alert ht h => exact h.writes hcleared
  | sealed =>
    refine .quiet hw (.inl rfl) rfl rfl ?_ fun e ↦ ?_
    · split <;> rfl
    · split <;> simp [AlertsUnder]
  | gating hr hres =>
    exact ((handshakeOnGatingResult_moves _ _ _).move hres).writes
      (handshakeOnGatingResult_details _ _ _ _ _ hres) hcleared

/-- A seal under the application keys uses their next position. -/
theorem WritesUpTo.sealing {s s' : State} {n m : Nat} {sq : SeqNo} (hw : WritesUpTo s n m)
    (hphase : s.handshake = .connected) (hseq : s.writeEpoch.seq.next = some sq)
    (hnext : s'.handshake = .connected ∨ s'.handshake = .closing)
    (hwrite : s'.writeEpoch = { s.writeEpoch with seq := sq })
    (htr : s'.transcript = s.transcript) : WritesUpTo s' n (m + 1) := by
  have hepoch : s.writeEpoch.epoch = .application :=
    hw.epoch .application (by rw [hphase]; rfl)
  refine ⟨fun k hk ↦ ?_, ?_, fun e he ↦ ?_, fun h ↦ ?_, fun h ↦ ?_, fun _ ↦ ?_⟩
  · rcases hnext with hp | hp
    · exact hw.flight k (by rwa [hphase, ← hp])
    · rw [hp] at hk
      cases hk
  · rw [State.flightSent, htr]
    exact hw.sent
  · rcases hnext with hp | hp
    · rw [hwrite]
      exact hw.epoch e (by rwa [hphase, ← hp])
    · rw [hp] at he
      cases he
  · rw [hwrite] at h
    cases hepoch.symm.trans h
  · rw [hwrite] at h
    cases hepoch.symm.trans h
  · rw [hwrite, SeqNo.next_eq_some hseq, hw.application hepoch]

/-- **One step of a live connection.** -/
theorem Outcome.writes {s s' : State} {ev : InputEvent} {acts : List OutputAction} {n m : Nat}
    (h : Outcome s ev s' acts) (hw : WritesUpTo s n m) :
    WriteStep s.handshake s.writeEpoch s' acts n m := by
  -- the position of a sealed record
  have hseal : s.handshake = .connected →
      used n m ++ toNats [(.application, s.writeEpoch.seq.value)] = used n (m + 1) := by
    intro hphase
    rw [← used_succ_application, toNats, List.map_singleton,
      hw.application (hw.epoch .application (by rw [hphase]; rfl))]
  cases h with
  | bytes h =>
    cases h with
    | malformed => exact .failed _ _ (.inl rfl)
    | awaiting => exact .quiet hw (.inl rfl) rfl rfl rfl (by simp [AlertsUnder])
    | record hh h => exact h.writes (hw.of_eq (.inl rfl) rfl rfl)
  | result hop h => exact h.writes hw
  | stale | noDelivery | writable | flush =>
    exact .quiet hw (.inl rfl) rfl rfl rfl not_alertsUnder_nil
  | deliver | reclose | readable =>
    exact .quiet hw (.inl rfl) rfl rfl rfl (by simp [AlertsUnder])
  | send hphase hseq hroom =>
    exact .goesOn (hw.sealing hphase hseq (.inl hphase) rfl rfl) (hseal hphase)
      (by simp [AlertsUnder])
  | closeNotify hopen hphase hseq hroom =>
    exact .goesOn (hw.sealing hphase hseq (.inr rfl) rfl rfl) (hseal hphase)
      (by simp [AlertsUnder])
  | sendRefused | closeNotifyRefused | timeout => exact .failed _ _ (.inl rfl)
  | closeEarly => exact .quiet hw (.inr rfl) rfl rfl rfl (by simp [AlertsUnder])
  | closeFatal => exact .alert s.connId _ rfl (.inl rfl) rfl (by simp [AlertsUnder])
  | closeAbortive | eof => exact .ends rfl rfl (by simp [AlertsUnder])

/-! ## Runs

A connection that ends has written what it had written before, and perhaps one record more.  That
record is where the condition of the main result comes from: under application keys it is new, and
under handshake keys it is new only if nothing of the flight is out. -/

/-- The positions of the records that a run writes, in order. -/
def writtenPositions (tr : List CoreStep) : List Position := tr.flatMap fun t ↦ positions t.output

/-- An alert under the handshake keys goes out before the server flight does. -/
def AlertsInTime (t : CoreStep) : Prop := AlertsUnder .handshake t.output → ¬ t.source.flightSent

theorem writtenPositions_concat (tr : List CoreStep) (t : CoreStep) :
    writtenPositions (tr ++ [t]) = writtenPositions tr ++ positions t.output := by
  simp [writtenPositions]

theorem toNats_append (ps qs : List Position) : toNats (ps ++ qs) = toNats ps ++ toNats qs :=
  List.map_append

theorem mem_toNats {e : Epoch} {q : UInt64} {ps : List Position} :
    (e, q.toNat) ∈ toNats ps ↔ (e, q) ∈ ps := by
  rw [toNats, List.mem_map]
  constructor
  · rintro ⟨p, hp, heq⟩
    obtain ⟨he, hq⟩ := Prod.mk.inj heq
    rwa [← he, ← UInt64.toNat_inj.mp hq]
  · exact fun h ↦ ⟨_, h, rfl⟩

theorem nodup_of_toNats {ps : List Position} {n m : Nat} (h : toNats ps = used n m) : ps.Nodup :=
  List.Nodup.of_map _ (h ▸ nodup_used n m)

/-- **One more record.**  Behind the positions used so far, the next one of a write epoch is new,
unless it is that of the handshake epoch and the flight has begun. -/
theorem nodup_append_position {ps : List Position} {n m : Nat} {last : EpochState}
    (hps : toNats ps = used n m) (hhs : last.epoch = .handshake → last.seq = .zero)
    (happ : last.epoch = .application → last.seq.value.toNat = m) :
    (ps ++ last.position).Nodup ↔ (last.epoch = .handshake → n = 0) := by
  have hnodup := nodup_of_toNats hps
  have hmem : ∀ e q, (e, q) ∈ ps ↔ (e, q.toNat) ∈ used n m := fun e q ↦ by rw [← hps, mem_toNats]
  rw [EpochState.position, recordPosition]
  cases he : last.epoch with
  | initial => simpa using hnodup
  | handshake =>
    simp only [reduceCtorEq, if_false, Option.toList_some, List.nodup_append, hnodup,
      List.nodup_singleton, List.mem_singleton, hhs he, true_and, forall_const]
    constructor
    · intro h
      refine Nat.eq_zero_of_not_pos fun hn ↦ h _ ((hmem _ _).mpr ?_) _ rfl rfl
      exact mem_used_handshake.mpr hn
    · rintro rfl p hp _ rfl rfl
      exact absurd (mem_used_handshake.mp ((hmem _ _).mp hp)) (Nat.not_lt_zero _)
  | application =>
    simp only [reduceCtorEq, if_false, Option.toList_some, List.nodup_append, hnodup,
      List.nodup_singleton, List.mem_singleton, true_and, false_imp_iff, iff_true]
    rintro p hp _ rfl rfl
    have hlt := mem_used_application.mp ((hmem _ _).mp hp)
    rw [happ he] at hlt
    exact Nat.lt_irrefl m hlt

/-- **The records of a run**, as long as the connection lives and once it has ended. -/
structure Tally (tr : List CoreStep) (s : State) : Prop where
  live : s.handshake.isTerminal = false → ∃ n m, WritesUpTo s n m ∧
    toNats (writtenPositions tr) = used n m ∧ ∀ t ∈ tr, AlertsInTime t
  ended : s.handshake.isTerminal = true →
    ((writtenPositions tr).Nodup ↔ ∀ t ∈ tr, AlertsInTime t)

theorem alertsInTime_of_quiet {t : CoreStep} (h : ∀ e, ¬ AlertsUnder e t.output) :
    AlertsInTime t := fun ha ↦ absurd ha (h .handshake)

theorem Tally.step {pre : List CoreStep} {t : CoreStep} (ht : Machine.Steps step t)
    (h : Tally pre t.source) : Tally (pre ++ [t]) t.target := by
  have hall : (∀ u ∈ pre ++ [t], AlertsInTime u) ↔
      (∀ u ∈ pre, AlertsInTime u) ∧ AlertsInTime t := by
    rw [List.forall_mem_append, List.forall_mem_singleton]
  cases hterm : t.source.handshake.isTerminal with
  | true =>
    obtain ⟨htarget, hout⟩ := target_of_terminal ht hterm
    have hquiet : AlertsInTime t := alertsInTime_of_quiet (by simp [hout, AlertsUnder])
    refine ⟨fun hlive ↦ ?_, fun _ ↦ ?_⟩
    · rw [htarget, hterm] at hlive
      cases hlive
    · have hnil : positions [] = [] := rfl
      rw [writtenPositions_concat, hout, hnil, List.append_nil, hall, h.ended hterm]
      exact ⟨fun h ↦ ⟨h, hquiet⟩, fun h ↦ h.1⟩
  | false =>
    obtain ⟨n, m, hw, hps, htimely⟩ := h.live hterm
    have hstep := (outcome_of_steps ht hterm).writes hw
    cases hstep with
    | @goesOn n' m' hw' hpos hquiet =>
      have hps' : toNats (writtenPositions (pre ++ [t])) = used n' m' := by
        rw [writtenPositions_concat, toNats_append, hps, hpos]
      have htimely' := hall.mpr ⟨htimely, alertsInTime_of_quiet hquiet⟩
      exact ⟨fun _ ↦ ⟨n', m', hw', hps', htimely'⟩,
        fun _ ↦ iff_of_true (nodup_of_toNats hps') htimely'⟩
    | ends hend hpos hquiet =>
      refine ⟨fun hlive ↦ ?_, fun _ ↦ ?_⟩
      · rw [hend] at hlive
        cases hlive
      · rw [writtenPositions_concat, hpos, List.append_nil]
        exact iff_of_true (nodup_of_toNats hps) (hall.mpr ⟨htimely, alertsInTime_of_quiet hquiet⟩)
    | @alerts last hend hlast hpos halert =>
      refine ⟨fun hlive ↦ ?_, fun _ ↦ ?_⟩
      · rw [hend] at hlive
        cases hlive
      · have htime : AlertsInTime t ↔ (last.epoch = .handshake → n = 0) := by
          rw [AlertsInTime, halert, hw.sent, Nat.not_lt, Nat.le_zero, eq_comm]
        have hnodup : (writtenPositions pre ++ last.position).Nodup ↔
            (last.epoch = .handshake → n = 0) := by
          refine nodup_append_position hps (fun he ↦ ?_) fun he ↦ ?_
          · rcases hlast with rfl | ⟨-, rfl⟩
            · exact (hw.handshake he).1
            · rfl
          · rcases hlast with rfl | ⟨-, rfl⟩
            · exact hw.application he
            · cases he
        rw [writtenPositions_concat, hpos, hnodup, hall, htime]
        exact ⟨fun h ↦ ⟨htimely, h⟩, fun h ↦ h.2⟩

variable {conn : ConnId} {gen : ConfigGeneration} {alg : HashAlgorithm}
  {config : ValidatedServerConfig} {tr : List CoreStep} {s : State}

theorem Tally.of_run (h : CoreRun conn gen alg config tr s) : Tally tr s := by
  refine Machine.Run.history (C := fun _ ↦ True) (fun _ _ ht _ hJ ↦ hJ.step ht) h
    (fun _ _ ↦ trivial) ?_
  exact ⟨fun _ ↦ ⟨0, 0, .start conn gen alg config, rfl, by simp⟩, fun h ↦ by cases h⟩

/-- **The records of a live connection.**  Up to now it has written the first messages of its server
flight and then application records, each at the next position of its epoch, without a gap. -/
theorem written_of_run (h : CoreRun conn gen alg config tr s)
    (hlive : s.handshake.isTerminal = false) :
    ∃ n m, WritesUpTo s n m ∧ toNats (writtenPositions tr) = used n m := by
  obtain ⟨n, m, hw, hps, -⟩ := (Tally.of_run h).live hlive
  exact ⟨n, m, hw, hps⟩

theorem written_connect : ∃ n m, WritesUpTo (Session.reached Session.connectEvents) n m ∧
    toNats (writtenPositions (Session.run Session.connectEvents)) = used n m :=
  written_of_run (Session.coreRun Session.connectEvents) (by decide +kernel)

theorem nodup_writtenPositions_iff (h : CoreRun conn gen alg config tr s) :
    (writtenPositions tr).Nodup ↔ ∀ t ∈ tr, AlertsInTime t := by
  cases hterm : s.handshake.isTerminal with
  | true => exact (Tally.of_run h).ended hterm
  | false =>
    obtain ⟨n, m, -, hps, htimely⟩ := (Tally.of_run h).live hterm
    exact iff_of_true (nodup_of_toNats hps) htimely

/-- The nonces of the records of a run, each with the epoch whose key it is used with. -/
def writtenNonces (iv : Epoch → Bytes) (tr : List CoreStep) : List (Epoch × Bytes) :=
  (writtenPositions tr).map fun p ↦ (p.1, Crypto.Real.nonce (iv p.1) p.2)

/-- **No nonce is used twice** along a run, whatever IVs are installed, exactly if no alert goes out
under the handshake keys once the server flight has begun. -/
theorem nonces_nodup_iff (h : CoreRun conn gen alg config tr s) {iv : Epoch → Bytes}
    (hiv : ∀ e, 8 ≤ (iv e).length) :
    (writtenNonces iv tr).Nodup ↔ ∀ t ∈ tr, AlertsInTime t := by
  rw [← nodup_writtenPositions_iff h]
  refine List.nodup_map_iff fun p q hpq ↦ ?_
  obtain ⟨he, hn⟩ := Prod.mk.inj hpq
  rw [he] at hn
  exact Prod.ext he (Crypto.Real.nonce_injective (hiv q.1) hn)

/-- A session whose server cannot sign its CertificateVerify. -/
def Session.unsignedEvents : List InputEvent :=
  Session.flightEvents.take 10 ++ [Session.answer 9 (.failed .providerInternal)]

/-- Its alert is sealed under the nonce of EncryptedExtensions. -/
theorem nonce_reused_unsigned :
    ¬ (writtenNonces (fun _ ↦ List.replicate 12 0) (Session.run Session.unsignedEvents)).Nodup := by
  rw [nonces_nodup_iff (Session.coreRun Session.unsignedEvents) (fun _ ↦ by decide)]
  intro h
  have hlast : ∃ t ∈ Session.run Session.unsignedEvents,
      OutputAction.writeAlert Session.conn .handshake 0 .internalError ∈ t.output ∧
        ∃ e ∈ t.source.transcript.events, e.eventMeta.kind = .encryptedExtensions := by
    decide +kernel
  obtain ⟨t, ht, halert, hsent⟩ := hlast
  exact h t ht ⟨_, _, _, halert⟩ hsent

end Kroopt.Core
