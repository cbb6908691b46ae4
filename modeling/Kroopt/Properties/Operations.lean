import Kroopt.Core.Detail
import Kroopt.Core.Invariant
import Kroopt.Core.Session
import Kroopt.Library.Tickets

/-!
# The crypto operations of a run

Every request to the provider goes out under an id, and a result comes back with it.  The state
keeps what is outstanding in a list, takes the next id from a counter, and compares the id of a
result with the list.  All of that is bookkeeping, and the book it keeps is the one of
`Library/Tickets`: each ticket is issued once, redeemed at most once, and what is outstanding is
what was issued and is not redeemed yet.  `Tickets` carries these facts in its fields, so to say
that a run keeps a book is to say all of them at once.

The step lemma is `operates_of_steps`.  A step of the core answers at most one operation, retires
it, asks for at most one, and registers that under the counter.  A connection that ends does not
retire anything, but then nothing comes of its list any more.

The ids are 64 bits wide and the counter wraps, so the book holds for runs of at most as many steps
as there are ids.  This is the one bound in the statements, and it is not a bound on anything that
happens: a step asks for at most one operation.

## Main definitions

* `asked` and `answered`: the requests of a run and the ids whose results it consumed.
* `State.outstanding`: what the state thinks is outstanding.
* `Operates`: what one step does to the outstanding operations.
* `Booked`: a run and the state it leads to, with the book.

## Main results

* `operates_of_steps`: every step operates so.
* `booked_of_run`: every run keeps the book.
* `operations_of_run`: the ids in order, every result consumed once, outstanding exactly what is not
  answered, never more than configured, and a result for anything else without effect.
-/

set_option autoImplicit false

namespace Kroopt.Core

/-! ## Requests and answers

A request is an action, and a result is an event, so both can be read off a run without looking into
the states.  Only whether a result is consumed depends on the state: the connection must not have
ended, and the id must be outstanding. -/

/-- The request of an action: its id and its kind. -/
def OutputAction.ticket? : OutputAction → Option (OperationId × CryptoOpKind)
  | .callCrypto _ op req => some (op, req.kind)
  | _ => none

/-- The requests of a list of actions. -/
def ticketsOf (acts : List OutputAction) : List (OperationId × CryptoOpKind) :=
  acts.filterMap OutputAction.ticket?

/-- The outstanding operation that an event answers. -/
def State.answeredBy (s : State) : InputEvent → List OperationId
  | .cryptoResult _ op _ =>
    if s.handshake.isTerminal = false ∧ s.pendingOps.contains op = true then [op] else []
  | _ => []

/-- The requests of a run. -/
def asked (tr : List CoreStep) : List (OperationId × CryptoOpKind) :=
  tr.flatMap fun t ↦ ticketsOf t.output

/-- The ids whose results a run consumed. -/
def answered (tr : List CoreStep) : List OperationId :=
  tr.flatMap fun t ↦ t.source.answeredBy t.input

/-- What is outstanding, newest first. -/
def State.outstanding (s : State) : List (OperationId × CryptoOpKind) :=
  s.pendingOps.ops.map fun o ↦ (o.id, o.expectedKind)

/-- The first ids. -/
def operationIds (n : Nat) : List OperationId := (List.range n).map fun i ↦ ⟨UInt64.ofNat i⟩

theorem outstanding_clearOp (s : State) (op : OperationId) :
    (s.clearOp op).outstanding = s.outstanding.filter fun p ↦ p.1 ∉ [op] := by
  rw [State.outstanding, State.outstanding, State.clearOp, List.filter_map]
  congr 1
  refine List.filter_congr fun o _ ↦ ?_
  by_cases h : o.id = op <;> simp [h]

theorem mem_outstanding_keys {s : State} {op : OperationId} :
    op ∈ s.outstanding.map Prod.fst ↔ s.pendingOps.contains op = true := by
  rw [State.outstanding, List.map_map, PendingCryptoOps.contains_iff, List.mem_map]
  rfl

/-! ## One step

`Operates` is proved by cases on the outcome of the step.  Most outcomes neither ask nor answer
(`quiet`), a move of the handshake asks (`asks`), and a result is consumed in front of whatever it
leads to (`of_clearOp`). -/

/-- **What a step does** to the outstanding operations: it retires what was answered and registers
what it asks for, under the next id. -/
structure Operates (s s' : State) (ans : List OperationId) (acts : List OutputAction) : Prop where
  kept : s'.handshake.isTerminal = false →
    s'.outstanding = ticketsOf acts ++ s.outstanding.filter fun p ↦ p.1 ∉ ans
  counted : (ticketsOf acts = [] ∧ s'.nextOpId = s.nextOpId) ∨
    ∃ kind, ticketsOf acts = [(⟨s.nextOpId⟩, kind)] ∧ s'.nextOpId = s.nextOpId + 1
  bounded : s'.pendingOps.ops.length ≤ s.pendingOps.ops.length ∨
    s'.pendingOps.ops.length ≤ s'.serverConfig.limits.maxPendingCryptoOps
  config : s'.serverConfig = s.serverConfig

namespace Operates

variable {s s' : State} {acts : List OutputAction}

/-- A step that neither asks nor answers. -/
theorem quiet (hops : s'.pendingOps = s.pendingOps) (hid : s'.nextOpId = s.nextOpId)
    (hconfig : s'.serverConfig = s.serverConfig) (hacts : ticketsOf acts = []) :
    Operates s s' [] acts where
  kept _ := by
    rw [State.outstanding, hops, hacts]
    simp [State.outstanding]
  counted := .inl ⟨hacts, hid⟩
  bounded := .inl (Nat.le_of_eq (congrArg (·.ops.length) hops))
  config := hconfig

/-- A step that asks for an operation. -/
theorem asks {kind : CryptoOpKind} {epoch : Epoch} {dir : Option Direction}
    (hops : s'.pendingOps = (s.withOp kind epoch dir).pendingOps)
    (hid : s'.nextOpId = s.nextOpId + 1) (hconfig : s'.serverConfig = s.serverConfig)
    (hacts : ticketsOf acts = [(⟨s.nextOpId⟩, kind)]) (hroom : s.hasOpRoom) :
    Operates s s' [] acts where
  kept _ := by
    rw [State.outstanding, hops, hacts]
    simp [State.withOp, State.outstanding]
  counted := .inr ⟨kind, hacts, hid⟩
  bounded := .inr (by rw [hops, hconfig]; exact hroom)
  config := hconfig

/-- A step of the state that has retired an operation. -/
theorem of_clearOp {op : OperationId} (h : Operates (s.clearOp op) s' [] acts) :
    Operates s s' [op] acts where
  kept hlive := by
    rw [h.kept hlive, outstanding_clearOp, List.filter_filter]
    simp
  counted := h.counted
  bounded := h.bounded.imp (fun hle ↦ Nat.le_trans hle (s.clearOp_ops_sublist op).length_le) id
  config := h.config

/-- A step that ends the connection and asks for nothing. -/
theorem ended {ans : List OperationId} (hend : s'.handshake.isTerminal = true)
    (hops : s'.pendingOps.ops.Sublist s.pendingOps.ops) (hid : s'.nextOpId = s.nextOpId)
    (hconfig : s'.serverConfig = s.serverConfig) (hacts : ticketsOf acts = []) :
    Operates s s' ans acts where
  kept hlive := absurd hend (by simp [hlive])
  counted := .inl ⟨hacts, hid⟩
  bounded := .inl hops.length_le
  config := hconfig

end Operates

theorem Move.operates {s s' : State} {acts : List OutputAction} (h : Move s s' acts)
    (hd : Detail s s' acts) : Operates s s' [] acts := by
  cases h with
  | ignored => exact .quiet rfl rfl rfl rfl
  | failed hs =>
    exact .ended rfl (by rw [State.fail, hs.ops]) (hd.ended rfl).1 hs.config rfl
  | clientHello _ hroom => exact .asks rfl rfl rfl rfl hroom
  | serverRandom _ hroom hop => exact .asks rfl rfl rfl (by rw [← hop]; rfl) hroom
  | ecdhe _ hroom hop => exact .asks rfl rfl rfl (by rw [← hop]; rfl) hroom
  | pump _ hroom => exact .asks rfl rfl rfl rfl hroom
  | rest => exact .quiet rfl rfl rfl rfl
  | serverFlight _ hroom => exact .asks rfl rfl rfl rfl hroom
  | certificateVerify _ hroom => exact .asks rfl rfl rfl rfl hroom
  | serverFinished _ hroom => exact .asks rfl rfl rfl rfl hroom
  | applicationKeys => exact .quiet rfl rfl rfl rfl
  | clientFinished _ hroom => exact .asks rfl rfl rfl rfl hroom
  | verified => exact .quiet rfl rfl rfl rfl

theorem handshakeOnPlaintextRecord_operates {s s' : State} {body : Bytes}
    {acts : List OutputAction} (h : handshakeOnPlaintextRecord s body = .ok (s', acts)) :
    Operates s s' [] acts :=
  ((handshakeOnPlaintextRecord_moves s body).move h).operates
    (handshakeOnPlaintextRecord_details s body _ _ h)

theorem AlertOutcome.operates {s s' : State} {body : Bytes} {acts : List OutputAction}
    (h : AlertOutcome s body s' acts) : Operates s s' [] acts := by
  cases h with
  | closeNotify => exact .quiet rfl rfl rfl rfl
  | fatal => exact .quiet rfl rfl rfl rfl
  | malformed => exact .quiet rfl rfl rfl rfl

theorem RecordOutcome.operates {s s' : State} {hdr : Parse.ValidRecordHeader} {body : Bytes}
    {acts : List OutputAction} (h : RecordOutcome s hdr body s' acts) :
    Operates s s' [] acts := by
  cases h with
  | opens _ _ hroom => exact .asks rfl rfl rfl rfl hroom
  | hsMessage _ _ _ hres =>
    have h := handshakeOnPlaintextRecord_operates hres
    exact ⟨h.kept, h.counted, h.bounded, h.config⟩
  | alert _ h => exact h.operates
  | noRoom | unread | ccsIgnored | ccsRefused | hsRefused | hsPartial | invalid =>
    exact .quiet rfl rfl rfl rfl

theorem InnerOutcome.operates {s s' : State} {op : OperationId} {inner : TLSInnerPlaintext}
    {acts : List OutputAction} (h : InnerOutcome s op inner s' acts) :
    Operates s s' [op] acts := by
  cases h with
  | data => exact .of_clearOp (.quiet rfl rfl rfl rfl)
  | message _ _ _ hres =>
    have h := handshakeOnPlaintextRecord_operates hres
    exact .of_clearOp ⟨h.kept, h.counted, h.bounded, h.config⟩
  | alert _ h => exact .of_clearOp h.operates
  | skipped => exact .of_clearOp (.quiet rfl rfl rfl rfl)
  | overflow | earlyData | invalid => exact .ended rfl (.refl _) rfl rfl rfl

theorem ResultOutcome.operates {s s' : State} {op : OperationId} {r : CryptoResult}
    {acts : List OutputAction} (h : ResultOutcome s op r s' acts) : Operates s s' [op] acts := by
  cases h with
  | unparsed => exact .ended rfl (.refl _) rfl rfl rfl
  | opened _ h => exact h.operates
  | «sealed» =>
    refine .of_clearOp (.quiet rfl rfl rfl ?_)
    split <;> rfl
  | verifyFailed => exact .of_clearOp (.quiet rfl rfl rfl rfl)
  | failed => exact .of_clearOp (.quiet rfl rfl rfl rfl)
  | gating _ hres =>
    exact .of_clearOp (((handshakeOnGatingResult_moves s op r).move hres).operates
      (handshakeOnGatingResult_details s op r _ _ hres))

theorem BytesOutcome.operates {s s' : State} {b : Bytes} {acts : List OutputAction}
    (h : BytesOutcome s b s' acts) : Operates s s' [] acts := by
  cases h with
  | malformed => exact .quiet rfl rfl rfl rfl
  | awaiting => exact .quiet rfl rfl rfl rfl
  | record _ h =>
    have h := h.operates
    exact ⟨h.kept, h.counted, h.bounded, h.config⟩

theorem Outcome.operates {s s' : State} {ev : InputEvent} {acts : List OutputAction}
    (h : Outcome s ev s' acts) (hlive : s.handshake.isTerminal = false) :
    Operates s s' (s.answeredBy ev) acts := by
  cases h with
  | bytes h => exact h.operates
  | stale hop =>
    rw [State.answeredBy, hop, if_neg (by simp)]
    exact .quiet rfl rfl rfl rfl
  | result hop h =>
    rw [State.answeredBy, if_pos ⟨hlive, hop⟩]
    exact h.operates
  | send _ _ hroom => exact .asks rfl rfl rfl rfl hroom
  | closeNotify _ _ _ hroom => exact .asks rfl rfl rfl rfl hroom
  | deliver | noDelivery | sendRefused | closeNotifyRefused | closeEarly | closeFatal
  | closeAbortive | reclose | eof | timeout | readable | writable | flush =>
    exact .quiet rfl rfl rfl rfl

/-- **One step** of the core, of a connection that has ended or not. -/
theorem operates_of_steps {t : CoreStep} (ht : Machine.Steps step t) :
    Operates t.source t.target (t.source.answeredBy t.input) t.output := by
  cases hlive : t.source.handshake.isTerminal with
  | false => exact (outcome_of_steps ht hlive).operates hlive
  | true =>
    obtain ⟨htarget, hout⟩ := target_of_terminal ht hlive
    rw [htarget, hout]
    exact .ended hlive (.refl _) rfl rfl rfl

/-! ## Runs -/

/-- The configuration of a connection never changes. -/
theorem config_of_run {s s' : State} {tr : List CoreStep} (h : Machine.Run step s tr s') :
    s'.serverConfig = s.serverConfig :=
  Machine.Run.invariant (I := fun u ↦ u.serverConfig = s.serverConfig)
    (fun _ ht hu ↦ (operates_of_steps ht).config.trans hu) h rfl

theorem asked_concat (pre : List CoreStep) (t : CoreStep) :
    asked (pre ++ [t]) = asked pre ++ ticketsOf t.output := by
  rw [asked, List.flatMap_append, List.flatMap_singleton, asked]

theorem answered_concat (pre : List CoreStep) (t : CoreStep) :
    answered (pre ++ [t]) = answered pre ++ t.source.answeredBy t.input := by
  rw [answered, List.flatMap_append, List.flatMap_singleton, answered]

theorem operationIds_succ (n : Nat) :
    operationIds (n + 1) = operationIds n ++ [⟨UInt64.ofNat n⟩] := by
  rw [operationIds, List.range_succ, List.map_append, List.map_singleton, operationIds]

/-- Below the size of the id space the next id is new. -/
theorem notMem_operationIds {n : Nat} (hn : n < UInt64.size) :
    (⟨UInt64.ofNat n⟩ : OperationId) ∉ operationIds n := by
  intro h
  obtain ⟨i, hi, heq⟩ := List.mem_map.mp h
  have hlt := List.mem_range.mp hi
  have hnat := congrArg (fun o : OperationId ↦ o.value.toNat) heq
  simp only [UInt64.toNat_ofNat'] at hnat
  rw [UInt64.size] at hn
  omega

/-- **The book of a run**: the tickets are the requests, and what is outstanding is outstanding in
the state. -/
structure Booked (tr : List CoreStep) (s : State) : Prop where
  book : ∃ b : Tickets OperationId CryptoOpKind, b.issued = asked tr ∧ b.redeemed = answered tr ∧
    (s.handshake.isTerminal = false → s.outstanding = b.outstanding.reverse)
  ids : (asked tr).map Prod.fst = operationIds (asked tr).length
  counter : s.nextOpId = .ofNat (asked tr).length
  short : (asked tr).length ≤ tr.length
  room : s.pendingOps.ops.length ≤ s.serverConfig.limits.maxPendingCryptoOps

theorem Booked.initial (conn : ConnId) (gen : ConfigGeneration) (alg : HashAlgorithm)
    (config : ValidatedServerConfig) : Booked [] (State.initialWith conn gen alg config) where
  book := ⟨.empty, rfl, rfl, fun _ ↦ rfl⟩
  ids := rfl
  counter := rfl
  short := Nat.le_refl _
  room := Nat.zero_le _

/-- What is answered is a ticket that is redeemed. -/
theorem exists_redeemed {s : State} (ev : InputEvent) {b : Tickets OperationId CryptoOpKind}
    (hout : s.outstanding = b.outstanding.reverse) :
    ∃ b' : Tickets OperationId CryptoOpKind, b'.issued = b.issued ∧
      b'.redeemed = b.redeemed ++ s.answeredBy ev ∧
      b'.outstanding.reverse = s.outstanding.filter fun p ↦ p.1 ∉ s.answeredBy ev := by
  have hquiet : s.answeredBy ev = [] → ∃ b' : Tickets OperationId CryptoOpKind,
      b'.issued = b.issued ∧ b'.redeemed = b.redeemed ++ s.answeredBy ev ∧
      b'.outstanding.reverse = s.outstanding.filter fun p ↦ p.1 ∉ s.answeredBy ev := by
    intro hnil
    exact ⟨b, rfl, by rw [hnil, List.append_nil], by rw [hnil, ← hout]; simp⟩
  cases ev with
  | cryptoResult c op r =>
    by_cases hop : s.handshake.isTerminal = false ∧ s.pendingOps.contains op = true
    · have hk : op ∈ b.outstanding.map Prod.fst := by
        have hmem := mem_outstanding_keys.mpr hop.2
        rwa [hout, List.map_reverse, List.mem_reverse] at hmem
      refine ⟨b.redeem op hk, rfl, ?_, ?_⟩
      · rw [State.answeredBy, if_pos hop]
        rfl
      · rw [State.answeredBy, if_pos hop, Tickets.outstanding_redeem, hout, List.filter_reverse]
        simp
    · exact hquiet (by rw [State.answeredBy, if_neg hop])
  | transportBytes | transportReadable | transportWritable | transportEof | appSend
  | appRecvRequested | appFlush | appClose | timeout => exact hquiet rfl

/-- **A step keeps the book**, while there are ids left. -/
theorem Booked.step {pre : List CoreStep} {t : CoreStep} (ht : Machine.Steps step t)
    (hlen : pre.length < UInt64.size) (hB : Booked pre t.source) :
    Booked (pre ++ [t]) t.target := by
  have hop := operates_of_steps ht
  have hroom : t.target.pendingOps.ops.length ≤
      t.target.serverConfig.limits.maxPendingCryptoOps := by
    rcases hop.bounded with hle | hle
    · rw [hop.config]
      exact Nat.le_trans hle hB.room
    · exact hle
  obtain ⟨b, hissued, hredeemed, hout⟩ := hB.book
  have hcount : (asked pre).length < UInt64.size := Nat.lt_of_le_of_lt hB.short hlen
  -- What is answered is redeemed first; a connection that has ended consumes nothing.
  have hredeem : ∃ b' : Tickets OperationId CryptoOpKind, b'.issued = asked pre ∧
      b'.redeemed = answered (pre ++ [t]) ∧ (t.target.handshake.isTerminal = false →
        t.target.outstanding = ticketsOf t.output ++ b'.outstanding.reverse) := by
    cases hlive : t.source.handshake.isTerminal with
    | false =>
      obtain ⟨b', hi, hr, ho⟩ := exists_redeemed t.input (hout hlive)
      refine ⟨b', hi.trans hissued, by rw [hr, hredeemed, answered_concat], fun h ↦ ?_⟩
      rw [hop.kept h, ho]
    | true =>
      have hnone : t.source.answeredBy t.input = [] := by
        cases t.input <;> simp [State.answeredBy, hlive]
      refine ⟨b, hissued, by rw [hredeemed, answered_concat, hnone, List.append_nil], fun h ↦ ?_⟩
      rw [(target_of_terminal ht hlive).1, hlive] at h
      exact absurd h (by simp)
  obtain ⟨b', hissued', hredeemed', hout'⟩ := hredeem
  -- Then a new one is issued, under the next id.
  rcases hop.counted with ⟨hnil, hid⟩ | ⟨kind, hone, hid⟩
  · have hsame : asked (pre ++ [t]) = asked pre := by rw [asked_concat, hnil, List.append_nil]
    refine ⟨⟨b', hissued'.trans hsame.symm, hredeemed', fun h ↦ ?_⟩, ?_, ?_, ?_, hroom⟩
    · rw [hout' h, hnil, List.nil_append]
    · rw [hsame, hB.ids]
    · rw [hsame, hid, hB.counter]
    · rw [hsame, List.length_append]
      exact Nat.le_add_right_of_le hB.short
  · have hnext : asked (pre ++ [t]) = asked pre ++ [(⟨t.source.nextOpId⟩, kind)] := by
      rw [asked_concat, hone]
    have hfresh : (⟨t.source.nextOpId⟩ : OperationId) ∉ b'.issued.map Prod.fst := by
      rw [hissued', hB.ids, hB.counter]
      exact notMem_operationIds hcount
    refine ⟨⟨b'.issue _ kind hfresh, ?_, hredeemed', fun h ↦ ?_⟩, ?_, ?_, ?_, hroom⟩
    · rw [hnext, ← hissued']
      rfl
    · rw [hout' h, hone, Tickets.outstanding_issue, List.reverse_append]
      rfl
    · rw [hnext, List.map_append, hB.ids, List.length_append, List.length_singleton,
        operationIds_succ, hB.counter]
      rfl
    · rw [hid, hB.counter, hnext, List.length_append, List.length_singleton, UInt64.ofNat_add]
      rfl
    · rw [hnext, List.length_append, List.length_append]
      exact Nat.add_le_add_right hB.short 1

theorem booked_of_run {conn : ConnId} {gen : ConfigGeneration} {alg : HashAlgorithm}
    {config : ValidatedServerConfig} {tr : List CoreStep} {s : State}
    (h : CoreRun conn gen alg config tr s) (hlen : tr.length ≤ UInt64.size) : Booked tr s := by
  refine h.history (J := fun pre s ↦ pre.length ≤ UInt64.size → Booked pre s) (C := fun _ ↦ True)
    (fun pre t ht _ hpre hle ↦ ?_) (fun _ _ ↦ trivial) (fun _ ↦ .initial conn gen alg config) hlen
  rw [List.length_append, List.length_singleton] at hle
  exact (hpre (Nat.le_of_succ_le hle)).step ht hle

/-- **The operations of a run.**  Along every run of at most as many steps as there are ids, the
requests carry the ids in order, so no id twice; every result that is consumed belongs to a request
made before, and no request is answered twice; a connection that has not ended has outstanding
exactly what was requested and not yet answered, never more than the configuration allows; and a
result for anything else changes nothing. -/
theorem operations_of_run {conn : ConnId} {gen : ConfigGeneration} {alg : HashAlgorithm}
    {config : ValidatedServerConfig} {tr : List CoreStep} {s : State}
    (h : CoreRun conn gen alg config tr s) (hlen : tr.length ≤ UInt64.size) :
    (asked tr).map Prod.fst = operationIds (asked tr).length ∧
    ∃ b : Tickets OperationId CryptoOpKind, b.issued = asked tr ∧ b.redeemed = answered tr ∧
      (s.handshake.isTerminal = false → s.outstanding = b.outstanding.reverse) ∧
      s.outstanding.length ≤ s.serverConfig.limits.maxPendingCryptoOps ∧
      ∀ c op r, op ∉ b.outstanding.map Prod.fst → step s (.cryptoResult c op r) = .ok (s, []) := by
  have hB := booked_of_run h hlen
  obtain ⟨b, hissued, hredeemed, hout⟩ := hB.book
  refine ⟨hB.ids, b, hissued, hredeemed, hout, ?_, fun c op r hop ↦ ?_⟩
  · rw [State.outstanding, List.length_map]
    exact hB.room
  · cases hlive : s.handshake.isTerminal with
    | true => exact step_terminal hlive _
    | false =>
      have hstale : s.pendingOps.contains op = false := by
        rw [← Bool.not_eq_true, ← mem_outstanding_keys, hout hlive, List.map_reverse,
          List.mem_reverse]
        exact hop
      rw [step, if_neg (by simp [hlive]), handleCryptoResult, hstale]
      rfl

/-- The session of the tests, while its key schedule is running. -/
theorem operations_hello :
    (asked (Session.run Session.helloEvents)).map Prod.fst =
      operationIds (asked (Session.run Session.helloEvents)).length ∧
    ∃ b : Tickets OperationId CryptoOpKind, b.issued = asked (Session.run Session.helloEvents) ∧
      b.redeemed = answered (Session.run Session.helloEvents) ∧
      ((Session.reached Session.helloEvents).handshake.isTerminal = false →
        (Session.reached Session.helloEvents).outstanding = b.outstanding.reverse) ∧
      (Session.reached Session.helloEvents).outstanding.length ≤
        (Session.reached Session.helloEvents).serverConfig.limits.maxPendingCryptoOps ∧
      ∀ c op r, op ∉ b.outstanding.map Prod.fst →
        step (Session.reached Session.helloEvents) (.cryptoResult c op r) =
          .ok (Session.reached Session.helloEvents, []) :=
  operations_of_run (Session.coreRun Session.helloEvents) (by decide +kernel)

end Kroopt.Core
