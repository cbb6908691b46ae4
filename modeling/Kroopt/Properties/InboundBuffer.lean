import Kroopt.Conn.Interpreter
import Kroopt.Core.Session

/-!
# The inbound record buffer

A chunk from the transport is appended to the buffer, and at most one record is taken off its front.
Whatever else the chunk holds stays there until the next chunk arrives: no event but a chunk takes
a record off.  So the buffer is bounded by what a peer chooses to send, and not by the size of a
record.

## Main definitions

* `leftover` and `consumed`: what framing leaves of a buffer, and how much it takes off.
* `State.inboundBounded`: the buffer is within one maximal record and one read.
* `ArrivesBehindRecord`: a chunk reaches a live connection that still has a whole record to take.

## Main results

* `Outcome.inbound`: what a step leaves in the buffer; nothing but a chunk changes it.
* `inbound_le_of_run`: every chunk behind a whole record costs at most one more read.
* `inboundBounded_of_run`: when there is no such chunk, the buffer is bounded in every state.
* `inbound_unbounded`: the condition cannot be dropped.  A peer that packs more than one record
  into a read grows the buffer without limit.

## Why not an equivalence

A chunk behind a whole record may still fit, when both are short.  Whether it does is the
arithmetic of the bound itself, so an exact condition on a step only says again that its target is
bounded; what the code misses is to take every record that has arrived before it takes the next
chunk.
-/

set_option autoImplicit false

namespace Kroopt.Core

open Kroopt.Parse (headOf Head length_rest length_of_awaiting)
open Kroopt.Conn (maxReadChunk)

/-- What framing leaves of a buffer. -/
def leftover (buf : Bytes) : Bytes :=
  match headOf buf with
  | .record _ _ rest => rest
  | _ => buf

/-- How many bytes framing takes off a buffer. -/
def consumed (buf : Bytes) : Nat :=
  match headOf buf with
  | .record _ body _ => 5 + body.length
  | _ => 0

theorem length_leftover (buf : Bytes) : (leftover buf).length + consumed buf = buf.length := by
  rw [leftover, consumed]
  split
  · rename_i h
    exact length_rest h
  · rfl

/-! ## What a step leaves in the buffer

A chunk is appended, and at most one record is taken off the front. -/

theorem Move.inbound {s s' : State} {acts : List OutputAction} (h : Move s s' acts) :
    s'.inboundCiphertext = s.inboundCiphertext := by
  cases h with
  | failed hs => exact hs.inbound
  | _ => rfl

theorem AlertOutcome.inbound {s s' : State} {body : Bytes} {acts : List OutputAction}
    (h : AlertOutcome s body s' acts) : s'.inboundCiphertext = s.inboundCiphertext := by
  cases h <;> rfl

theorem RecordOutcome.inbound {s s' : State} {hdr : Parse.ValidRecordHeader} {body : Bytes}
    {acts : List OutputAction} (h : RecordOutcome s hdr body s' acts) :
    s'.inboundCiphertext = s.inboundCiphertext := by
  cases h with
  | hsMessage ht hfits hframe hres =>
    exact ((handshakeOnPlaintextRecord_moves _ _).move hres).inbound
  | alert ht h => exact h.inbound
  | _ => rfl

theorem BytesOutcome.inbound {s s' : State} {b : Bytes} {acts : List OutputAction}
    (h : BytesOutcome s b s' acts) :
    s'.inboundCiphertext = leftover (s.inboundCiphertext ++ b) := by
  rw [leftover]
  cases h with
  | malformed hh => simp [hh]
  | awaiting hh => simp [hh]
  | record hh h => simp [hh, h.inbound]

theorem ResultOutcome.inbound {s s' : State} {op : OperationId} {r : CryptoResult}
    {acts : List OutputAction} (h : ResultOutcome s op r s' acts) :
    s'.inboundCiphertext = s.inboundCiphertext := by
  cases h with
  | opened hp h =>
    cases h with
    | message ht hphase hseq hres =>
      exact ((handshakeOnPlaintextRecord_moves _ _).move hres).inbound
    | alert ht h => exact h.inbound
    | _ => rfl
  | gating hr hres => exact ((handshakeOnGatingResult_moves _ _ _).move hres).inbound
  | _ => rfl

/-- The bytes an event brings in. -/
def InputEvent.chunk : InputEvent → Option Bytes
  | .transportBytes _ b => some b
  | _ => none

/-- **What a step leaves in the buffer.** -/
theorem Outcome.inbound {s s' : State} {ev : InputEvent} {acts : List OutputAction}
    (h : Outcome s ev s' acts) :
    s'.inboundCiphertext = match ev.chunk with
      | some b => leftover (s.inboundCiphertext ++ b)
      | none => s.inboundCiphertext := by
  cases h with
  | bytes h => exact h.inbound
  | result hop h => exact h.inbound
  | _ => rfl

/-! ## The bound -/

/-- One maximal record and one read. -/
def inboundBound : Nat := 5 + maxCiphertextFragment + maxReadChunk

def State.inboundBounded (s : State) : Prop := s.inboundCiphertext.length ≤ inboundBound

/-- The event brings in no more than one read. -/
def InputEvent.isRead (ev : InputEvent) : Prop := ∀ b, ev.chunk = some b → b.length ≤ maxReadChunk

/-- A chunk that arrives in a live state while the buffer still starts with a whole record, or with
a refused one: the step before left something that it could have taken. -/
def ArrivesBehindRecord (t : CoreStep) : Prop :=
  t.source.handshake.isTerminal = false ∧ t.input.chunk.isSome = true ∧
    headOf t.source.inboundCiphertext ≠ .awaiting

instance (t : CoreStep) : Decidable (ArrivesBehindRecord t) :=
  inferInstanceAs (Decidable (_ ∧ _ ∧ _))

/-- An incomplete record and a read are within the bound. -/
theorem length_append_le_of_awaiting {buf b : Bytes} (h : headOf buf = .awaiting)
    (hb : b.length ≤ maxReadChunk) : buf.length + b.length ≤ inboundBound := by
  have hlt := length_of_awaiting h
  rw [inboundBound]
  omega

/-- **One step.**  A read adds at most itself to the buffer, and nothing beyond the bound unless it
arrives behind a whole record. -/
theorem inbound_le_of_step {t : CoreStep} (ht : Machine.Steps step t) (hread : t.input.isRead)
    {n : Nat} (hs : t.source.inboundCiphertext.length ≤ inboundBound + n * maxReadChunk) :
    t.target.inboundCiphertext.length ≤
      inboundBound + (n + if ArrivesBehindRecord t then 1 else 0) * maxReadChunk := by
  have hmono : inboundBound + n * maxReadChunk ≤
      inboundBound + (n + if ArrivesBehindRecord t then 1 else 0) * maxReadChunk :=
    Nat.add_le_add_left (Nat.mul_le_mul_right _ (Nat.le_add_right _ _)) _
  cases hlive : t.source.handshake.isTerminal with
  | true =>
    rw [(target_of_terminal ht hlive).1]
    exact Nat.le_trans hs hmono
  | false =>
    have hbuf := (outcome_of_steps ht hlive).inbound
    cases hb : t.input.chunk with
    | none =>
      rw [hb] at hbuf
      rw [hbuf]
      exact Nat.le_trans hs hmono
    | some b =>
      rw [hb] at hbuf
      have hlen := length_leftover (t.source.inboundCiphertext ++ b)
      have hchunk := hread b hb
      rw [List.length_append] at hlen
      rw [hbuf]
      dsimp only
      by_cases hhead : headOf t.source.inboundCiphertext = .awaiting
      · have hle := length_append_le_of_awaiting hhead hchunk
        omega
      · have hbehind : ArrivesBehindRecord t := ⟨hlive, by rw [hb]; rfl, hhead⟩
        rw [if_pos hbehind, Nat.succ_mul]
        omega

/-- **How far a peer can get.**  In a run whose chunks are single reads, the buffer exceeds one
maximal record and one read by at most one read for each chunk that arrives behind a whole
record. -/
theorem inbound_le_of_run {conn : ConnId} {gen : ConfigGeneration} {alg : HashAlgorithm}
    {config : ValidatedServerConfig} {tr : List CoreStep} {s : State}
    (h : CoreRun conn gen alg config tr s) (hread : ∀ t ∈ tr, t.input.isRead) :
    s.inboundCiphertext.length ≤
      inboundBound + tr.countP (fun t ↦ ArrivesBehindRecord t) * maxReadChunk := by
  refine h.history (J := fun pre s ↦ s.inboundCiphertext.length ≤
    inboundBound + pre.countP (fun t ↦ ArrivesBehindRecord t) * maxReadChunk)
    (C := fun t ↦ t.input.isRead) (fun pre t ht hread hpre ↦ ?_) hread (Nat.zero_le _)
  rw [List.countP_append, List.countP_singleton]
  simpa only [decide_eq_true_eq] using inbound_le_of_step ht hread hpre

/-- **The buffer stays bounded when no chunk arrives behind a whole record.**  In a run from a fresh
connection whose chunks are single reads, and whose chunks find the buffer without a whole record
(or a refused one) whenever the connection is live, the buffer is within one maximal record and one
read in every state reached. -/
theorem inboundBounded_of_run {conn : ConnId} {gen : ConfigGeneration} {alg : HashAlgorithm}
    {config : ValidatedServerConfig} {tr : List CoreStep} {s : State}
    (h : CoreRun conn gen alg config tr s) (hread : ∀ t ∈ tr, t.input.isRead)
    (halone : ∀ t ∈ tr, ¬ ArrivesBehindRecord t) :
    s.inboundBounded ∧ ∀ t ∈ tr, t.target.inboundBounded := by
  have hend : ∀ {tr : List CoreStep} {s : State}, CoreRun conn gen alg config tr s →
      (∀ t ∈ tr, t.input.isRead) → (∀ t ∈ tr, ¬ ArrivesBehindRecord t) → s.inboundBounded := by
    intro tr s h hread halone
    have hle := inbound_le_of_run h hread
    have hnone : tr.countP (fun t ↦ ArrivesBehindRecord t) = 0 :=
      List.countP_eq_zero.mpr fun t ht ↦ by simpa using halone t ht
    rw [hnone, Nat.zero_mul, Nat.add_zero] at hle
    exact hle
  refine ⟨hend h hread halone, fun t ht ↦ ?_⟩
  obtain ⟨pre, post, rfl⟩ := List.append_of_mem ht
  -- the run up to and with the step
  obtain ⟨hpre, hstep, -⟩ := h.split_at
  have hrun : CoreRun conn gen alg config (pre ++ [t]) t.target :=
    hpre.append (.cons hstep (.nil _))
  have hmem : ∀ u ∈ pre ++ [t], u ∈ pre ++ t :: post := by
    intro u hu
    rw [← List.singleton_append, ← List.append_assoc]
    exact List.mem_append_left _ hu
  exact hend hrun (fun u hu ↦ hread u (hmem u hu)) fun u hu ↦ halone u (hmem u hu)

instance (ev : InputEvent) : Decidable ev.isRead :=
  decidable_of_iff (∀ b ∈ ev.chunk, b.length ≤ maxReadChunk) Iff.rfl

theorem inboundBounded_of_run_session :
    (Session.reached Session.connectEvents).inboundBounded ∧
      ∀ t ∈ Session.run Session.connectEvents, t.target.inboundBounded :=
  inboundBounded_of_run (Session.coreRun _) (by decide +kernel) (by decide +kernel)

/-! ## A flood of empty records -/

/-- `n` empty protected records. -/
def flood (n : Nat) : Bytes := (List.replicate n (frameRecord .applicationData [])).flatten

theorem flood_append (m n : Nat) : flood m ++ flood n = flood (m + n) := by
  rw [flood, flood, flood, ← List.flatten_append, List.replicate_append_replicate]

theorem length_flood (n : Nat) : (flood n).length = 5 * n := by
  induction n with
  | zero => rfl
  | succ n ih =>
    rw [Nat.add_comm, ← flood_append, List.length_append, ih]
    have hone : (flood 1).length = 5 := rfl
    omega

theorem headOf_flood (n : Nat) :
    ∃ hdr, headOf (flood (n + 1)) = .record hdr [] (flood n) ∧
      hdr.outerType = .applicationData := by
  have hempty : ([] : Bytes).length ≤ maxCiphertextFragment := Nat.zero_le _
  obtain ⟨hdr, hhead, htype, -⟩ := headOf_frameRecord .applicationData hempty (flood n)
  rw [Nat.add_comm, ← flood_append]
  exact ⟨hdr, hhead, htype⟩

/-- A phase that opens no records leaves a flood where it is, less one record. -/
theorem step_flood {s : State} (hlive : s.handshake.isTerminal = false)
    (hphase : ¬ s.handshake.opensRecords) (c : ConnId) (m n : Nat) :
    step (s.received (flood m)) (.transportBytes c (flood (n + 1))) =
      .ok (s.received (flood (m + n)), []) := by
  obtain ⟨s', acts, hres, hout⟩ :=
    step_outcome (s := s.received (flood m)) hlive (.transportBytes c (flood (n + 1)))
  obtain ⟨hdr, hhead, htype⟩ := headOf_flood (m + n)
  have hbuf : (s.received (flood m)).inboundCiphertext ++ flood (n + 1) = flood (m + n + 1) :=
    flood_append m (n + 1)
  rw [hres]
  cases hout with
  | bytes h =>
    cases h with
    | malformed hh => rw [hbuf, hhead] at hh; cases hh
    | awaiting hh => rw [hbuf, hhead] at hh; cases hh
    | record hh h =>
      rw [hbuf, hhead] at hh
      cases hh
      cases h with
      | unread => rfl
      | opens _ hp => exact absurd hp hphase
      | noRoom _ hp => exact absurd hp hphase
      | ccsIgnored ht | ccsRefused ht | hsRefused ht | hsPartial ht | hsMessage ht | alert ht
      | invalid ht => rw [htype] at ht; cases ht

/-- The chunks of a flood. -/
def floodEvents (c : ConnId) (n k : Nat) : List InputEvent :=
  List.replicate k (.transportBytes c (flood (n + 1)))

theorem execState_flood {s : State} (hlive : s.handshake.isTerminal = false)
    (hphase : ¬ s.handshake.opensRecords) (c : ConnId) (m n k : Nat) :
    Machine.execState step (s.received (flood m)) (floodEvents c n k) =
      s.received (flood (m + k * n)) := by
  induction k generalizing m with
  | zero => simp [floodEvents, Machine.execState]
  | succ k ih =>
    rw [floodEvents, List.replicate_succ, Machine.execState, step_flood hlive hphase]
    dsimp only
    rw [← floodEvents, ih]
    congr 2
    rw [Nat.succ_mul]
    omega

theorem isRead_flood {ev : InputEvent} {k : Nat} (hev : ev ∈ floodEvents Session.conn 3275 k) :
    ev.isRead := by
  intro b hb
  rw [List.eq_of_mem_replicate hev] at hb
  cases hb
  rw [length_flood, maxReadChunk]
  omega

theorem length_reached_flood (k : Nat) :
    (Session.reached (floodEvents Session.conn 3275 k)).inboundCiphertext.length =
      5 * (k * 3275) := by
  have hphase : ¬ Session.fresh.handshake.opensRecords := by simp [HandshakeState.opensRecords]
  have hflood := execState_flood (s := Session.fresh) rfl hphase Session.conn 0 3275 k
  rw [show Session.fresh.received (flood 0) = Session.fresh from rfl, Nat.zero_add] at hflood
  rw [Session.reached, hflood, State.received_inbound, length_flood]

/-- **The buffer is unbounded.**  For every bound there are reads that leave a fresh connection with
a larger buffer. -/
theorem inbound_unbounded (bound : Nat) :
    ∃ evs, (∀ ev ∈ evs, ev.isRead) ∧ bound < (Session.reached evs).inboundCiphertext.length := by
  refine ⟨floodEvents Session.conn 3275 (bound + 1), fun ev ↦ isRead_flood, ?_⟩
  rw [length_reached_flood]
  omega

/-- Three reads of empty records overrun the bound. -/
theorem not_inboundBounded :
    (∀ ev ∈ floodEvents Session.conn 3275 3, ev.isRead) ∧
      ¬ ∀ t ∈ Session.run (floodEvents Session.conn 3275 3), t.target.inboundBounded := by
  refine ⟨fun ev ↦ isRead_flood, fun h ↦ ?_⟩
  have hlast : (Session.reached (floodEvents Session.conn 3275 3)).inboundBounded :=
    (Session.coreRun _).preserves (fun _ _ ht _ ↦ ht) h (Nat.zero_le _)
  rw [State.inboundBounded, length_reached_flood, inboundBound, maxCiphertextFragment,
    maxReadChunk] at hlast
  omega

end Kroopt.Core
