import Kroopt.Crypto.SecretChain
import Kroopt.Properties.FailClosed

/-!
# The driver computes the key schedule

The key-schedule driver collects handles and asks for one operation after the other; the real
provider answers each over its arena.  Together they compute the secret chain of the RFC: the
extractions and derivations from the shared secret to the traffic secrets, with a pause in the
middle, where the handshake keys are installed and the rest of the flight is not there yet.

Nobody sees both sides.  The driver knows the order and the labels but only the names of the
secrets, and the provider knows the secrets but not what they are for.  So the proof first says what
the driver does, without the arena (`Step`, `State.request`): a result either is the awaited handle
or installs the awaited slot, and what is asked for next is a function of the state.  Then it says
what the provider does to the arena, whatever it is asked: the arena grows, and no operation hides
what was stored before (`Grows`).

`Scheduled` puts the two together: under every handle that the driver has collected, the arena holds
the secret that the chain has at that place.  A turn of the driver and the provider keeps it, and
the turn has two halves, which are proved apart because the interpreter runs in between.

## Main definitions

* `Secret` and `Slot`: the secrets whose handles the driver collects, and the record keys it
  installs.
* `Step` and `State.request`: what one result does to the driver, and what it asks for next.
* `SecretArena.Extends` and `Grows`: what an operation does to the arena.
* `Inputs.secret`: the chain, as a function of what it is computed from.
* `Scheduled a k shared`: the arena holds what the driver has computed, under its handles and in the
  slots that it has installed.

## Main results

* `Scheduled.start` and `Scheduled.resume`: from the shared secret, and behind the pause.
* `Scheduled.advance`: a right answer is taken in.
* `Scheduled.answer`: what the provider returns for the next request is the right answer to it.
-/

set_option autoImplicit false

namespace Kroopt.Core.KeyScheduleDriver

/-! ## The driver, one secret after the other

The phases of the driver are a list in disguise: each awaits one secret or one slot, and the next
one follows when it has come.  `Phase.known` and `Phase.installed` are what has come before. -/

/-- The secrets of the schedule, in the order in which the driver collects them. -/
inductive Secret
  | shared
  | early
  | derivedHs
  | handshake
  | sHs
  | cHs
  | derivedMs
  | master
  | sAp
  | cAp
  deriving DecidableEq

/-- The handle of a secret. -/
def Handles.get (h : Handles) : Secret → Option SecretKeyHandle
  | .shared => h.shared
  | .early => h.early
  | .derivedHs => h.derivedHs
  | .handshake => h.handshake
  | .sHs => h.sHs
  | .cHs => h.cHs
  | .derivedMs => h.derivedMs
  | .master => h.master
  | .sAp => h.sAp
  | .cAp => h.cAp

/-- Keep the handle of a secret. -/
def Handles.set (h : Handles) (hd : SecretKeyHandle) : Secret → Handles
  | .shared => { h with shared := some hd }
  | .early => { h with early := some hd }
  | .derivedHs => { h with derivedHs := some hd }
  | .handshake => { h with handshake := some hd }
  | .sHs => { h with sHs := some hd }
  | .cHs => { h with cHs := some hd }
  | .derivedMs => { h with derivedMs := some hd }
  | .master => { h with master := some hd }
  | .sAp => { h with sAp := some hd }
  | .cAp => { h with cAp := some hd }

theorem Handles.get_set (h : Handles) (hd : SecretKeyHandle) (x y : Secret) :
    (h.set hd x).get y = if y = x then some hd else h.get y := by
  cases x <;> cases y <;> rfl

/-- The keys of a direction and an epoch, and the secret that they are derived from. -/
structure Slot where
  dir : Direction
  epoch : Epoch
  secret : Secret
  deriving DecidableEq

namespace Phase

/-- The secret whose handle is awaited. -/
def awaits : Phase → Option Secret
  | awaitShared => some .shared
  | awaitEarly => some .early
  | awaitDerivedHs => some .derivedHs
  | awaitHandshake => some .handshake
  | awaitServerHs => some .sHs
  | awaitClientHs => some .cHs
  | awaitDerivedMs => some .derivedMs
  | awaitMaster => some .master
  | awaitServerAp => some .sAp
  | awaitClientAp => some .cAp
  | _ => none

/-- The slot whose installation is awaited. -/
def installs : Phase → Option Slot
  | awaitInstallWriteHs => some ⟨.write, .handshake, .sHs⟩
  | awaitInstallReadHs => some ⟨.read, .handshake, .cHs⟩
  | awaitInstallWriteAp => some ⟨.write, .application, .sAp⟩
  | awaitInstallReadAp => some ⟨.read, .application, .cAp⟩
  | _ => none

/-- The two pauses. -/
def rests : Phase → Bool
  | handshakeKeysInstalled => true
  | complete => true
  | _ => false

/-- Behind the first pause. -/
def resumed : Phase → Bool
  | awaitDerivedMs => true
  | awaitMaster => true
  | awaitServerAp => true
  | awaitClientAp => true
  | awaitInstallWriteAp => true
  | awaitInstallReadAp => true
  | complete => true
  | _ => false

/-- The phase after the awaited result. -/
def next : Phase → Phase
  | awaitShared => awaitEarly
  | awaitEarly => awaitDerivedHs
  | awaitDerivedHs => awaitHandshake
  | awaitHandshake => awaitServerHs
  | awaitServerHs => awaitClientHs
  | awaitClientHs => awaitInstallWriteHs
  | awaitInstallWriteHs => awaitInstallReadHs
  | awaitInstallReadHs => handshakeKeysInstalled
  | handshakeKeysInstalled => awaitDerivedMs
  | awaitDerivedMs => awaitMaster
  | awaitMaster => awaitServerAp
  | awaitServerAp => awaitClientAp
  | awaitClientAp => awaitInstallWriteAp
  | awaitInstallWriteAp => awaitInstallReadAp
  | awaitInstallReadAp => complete
  | complete => complete

/-- The secrets collected so far. -/
def known : Phase → List Secret
  | awaitShared => []
  | awaitEarly => [.shared]
  | awaitDerivedHs => [.shared, .early]
  | awaitHandshake => [.shared, .early, .derivedHs]
  | awaitServerHs => [.shared, .early, .derivedHs, .handshake]
  | awaitClientHs => [.shared, .early, .derivedHs, .handshake, .sHs]
  | awaitMaster => handshakeSecrets ++ [.derivedMs]
  | awaitServerAp => handshakeSecrets ++ [.derivedMs, .master]
  | awaitClientAp => handshakeSecrets ++ [.derivedMs, .master, .sAp]
  | awaitInstallWriteAp => handshakeSecrets ++ [.derivedMs, .master, .sAp, .cAp]
  | awaitInstallReadAp => handshakeSecrets ++ [.derivedMs, .master, .sAp, .cAp]
  | complete => handshakeSecrets ++ [.derivedMs, .master, .sAp, .cAp]
  | _ => handshakeSecrets
where
  handshakeSecrets : List Secret := [.shared, .early, .derivedHs, .handshake, .sHs, .cHs]

/-- The slots installed so far. -/
def installed : Phase → List Slot
  | awaitInstallReadHs => [⟨.write, .handshake, .sHs⟩]
  | handshakeKeysInstalled => handshakeSlots
  | awaitDerivedMs => handshakeSlots
  | awaitMaster => handshakeSlots
  | awaitServerAp => handshakeSlots
  | awaitClientAp => handshakeSlots
  | awaitInstallWriteAp => handshakeSlots
  | awaitInstallReadAp => handshakeSlots ++ [⟨.write, .application, .sAp⟩]
  | complete => handshakeSlots ++ [⟨.write, .application, .sAp⟩, ⟨.read, .application, .cAp⟩]
  | _ => []
where
  handshakeSlots : List Slot := [⟨.write, .handshake, .sHs⟩, ⟨.read, .handshake, .cHs⟩]

variable {p : Phase} {x : Secret} {slot : Slot}

theorem known_next_of_awaits (h : p.awaits = some x) : p.next.known = p.known ++ [x] := by
  cases p <;> cases h <;> rfl

theorem installed_next_of_awaits (h : p.awaits = some x) : p.next.installed = p.installed := by
  cases p <;> cases h <;> rfl

theorem known_next_of_installs (h : p.installs = some slot) : p.next.known = p.known := by
  cases p <;> cases h <;> rfl

theorem installed_next_of_installs (h : p.installs = some slot) :
    p.next.installed = p.installed ++ [slot] := by
  cases p <;> cases h <;> rfl

theorem resumed_next (h : p.rests = false) : p.next.resumed = p.resumed := by
  cases p <;> first | rfl | cases h

/-- A slot is installed once. -/
theorem ne_of_mem_installed (h : p.installs = some slot) {slot' : Slot}
    (h' : slot' ∈ p.installed) : ¬ (slot'.dir = slot.dir ∧ slot'.epoch = slot.epoch) := by
  revert slot'
  cases p <;> cases h <;> decide

/-- A slot is installed from a secret that is known. -/
theorem mem_known_of_installs (h : p.installs = some slot) : slot.secret ∈ p.known := by
  cases p <;> cases h <;> decide

end Phase

/-- **What a result does to the driver.** -/
inductive Step (k : State) : CryptoResult → State → Prop
  | collect {x : Secret} {hd : SecretKeyHandle} {r : CryptoResult} (hx : k.phase.awaits = some x)
      (hr : x ≠ .shared → r = .hkdfSecret hd) :
      Step k r { k with phase := k.phase.next, handles := k.handles.set hd x }
  | install {slot : Slot} (hslot : k.phase.installs = some slot) :
      Step k .keysInstalled { k with phase := k.phase.next }
  | rest {r : CryptoResult} (hrest : k.phase.rests = true) : Step k r k

theorem Step.of_eq {k k' : State} {r : CryptoResult} (x : Secret) (hd : SecretKeyHandle)
    (hx : k.phase.awaits = some x) (hr : x ≠ .shared → r = .hkdfSecret hd)
    (hk : k' = { k with phase := k.phase.next, handles := k.handles.set hd x }) : Step k r k' :=
  hk ▸ .collect hx hr

theorem advance_step {k k' : State} {r : CryptoResult} {ops : List CryptoOp}
    (h : advance k r = .ok (k', ops)) : Step k r k' := by
  obtain ⟨phase, handles, suite, emptyHash, hsTranscript, apTranscript⟩ := k
  unfold advance at h
  split at h
  case h_17 => cases h
  all_goals
    rename_i hphase
    cases hphase
    cases h
  case h_1 hd => exact .of_eq .shared hd rfl (absurd rfl) rfl
  case h_2 hd => exact .of_eq .early hd rfl (fun _ ↦ rfl) rfl
  case h_3 hd => exact .of_eq .derivedHs hd rfl (fun _ ↦ rfl) rfl
  case h_4 hd => exact .of_eq .handshake hd rfl (fun _ ↦ rfl) rfl
  case h_5 hd => exact .of_eq .sHs hd rfl (fun _ ↦ rfl) rfl
  case h_6 hd => exact .of_eq .cHs hd rfl (fun _ ↦ rfl) rfl
  case h_10 hd => exact .of_eq .derivedMs hd rfl (fun _ ↦ rfl) rfl
  case h_11 hd => exact .of_eq .master hd rfl (fun _ ↦ rfl) rfl
  case h_12 hd => exact .of_eq .sAp hd rfl (fun _ ↦ rfl) rfl
  case h_13 hd => exact .of_eq .cAp hd rfl (fun _ ↦ rfl) rfl
  case h_7 | h_8 | h_14 | h_15 => exact .install rfl
  case h_9 | h_16 => exact .rest rfl

/-- The operation that a phase asks for. -/
def State.request (k : State) : Option CryptoOp :=
  match k.phase with
  | .awaitEarly => some (.hkdfExtract k.suite.hashAlg none none)
  | .awaitDerivedHs => k.handles.early.map (expand k.suite.hashAlg · "derived" k.emptyHash)
  | .awaitHandshake => k.handles.derivedHs.map fun d ↦
      .hkdfExtract k.suite.hashAlg (some d) k.handles.shared
  | .awaitServerHs => k.handles.handshake.map
      (expand k.suite.hashAlg · "s hs traffic" k.hsTranscript)
  | .awaitClientHs => k.handles.handshake.map
      (expand k.suite.hashAlg · "c hs traffic" k.hsTranscript)
  | .awaitInstallWriteHs => k.handles.sHs.map (.installTrafficKeys k.suite .write .handshake)
  | .awaitInstallReadHs => k.handles.cHs.map (.installTrafficKeys k.suite .read .handshake)
  | .awaitDerivedMs => k.handles.handshake.map (expand k.suite.hashAlg · "derived" k.emptyHash)
  | .awaitMaster => k.handles.derivedMs.map fun d ↦ .hkdfExtract k.suite.hashAlg (some d) none
  | .awaitServerAp => k.handles.master.map (expand k.suite.hashAlg · "s ap traffic" k.apTranscript)
  | .awaitClientAp => k.handles.master.map (expand k.suite.hashAlg · "c ap traffic" k.apTranscript)
  | .awaitInstallWriteAp => k.handles.sAp.map (.installTrafficKeys k.suite .write .application)
  | .awaitInstallReadAp => k.handles.cAp.map (.installTrafficKeys k.suite .read .application)
  | _ => none

/-- A driver holds a handle for every secret it has collected. -/
def State.Collected (k : State) : Prop := ∀ x ∈ k.phase.known, k.handles.get x ≠ none

theorem State.Collected.get {phase : Phase} {handles : Handles} {suite : CipherSuite}
    {emptyHash hs ap : Bytes} (h : State.Collected ⟨phase, handles, suite, emptyHash, hs, ap⟩)
    (x : Secret) (hx : x ∈ phase.known) : ∃ hd, handles.get x = some hd :=
  Option.ne_none_iff_exists'.mp (h x hx)

/-- **What the driver asks for** is a function of its state. -/
theorem advance_request {k k' : State} {r : CryptoResult} {ops : List CryptoOp}
    (h : advance k r = .ok (k', ops)) (hknown : k.Collected) :
    ∀ op ∈ ops, k'.request = some op := by
  obtain ⟨phase, handles, suite, emptyHash, hsTranscript, apTranscript⟩ := k
  unfold advance at h
  split at h
  case h_17 => cases h
  all_goals
    rename_i hphase
    cases hphase
    cases h
  case h_1 | h_2 | h_3 | h_4 | h_10 | h_11 => exact List.forall_mem_singleton.mpr rfl
  case h_8 | h_9 | h_15 | h_16 => exact List.forall_mem_nil _
  -- what is asked for next goes by a handle that was collected before
  case h_5 =>
    obtain ⟨hd, hget⟩ := hknown.get .handshake (by decide)
    simp [State.request, show handles.handshake = some hd from hget]
  case h_6 =>
    obtain ⟨hd, hget⟩ := hknown.get .sHs (by decide)
    simp [State.request, show handles.sHs = some hd from hget]
  case h_7 =>
    obtain ⟨hd, hget⟩ := hknown.get .cHs (by decide)
    simp [State.request, show handles.cHs = some hd from hget]
  case h_12 =>
    obtain ⟨hd, hget⟩ := hknown.get .master (by decide)
    simp [State.request, show handles.master = some hd from hget]
  case h_13 =>
    obtain ⟨hd, hget⟩ := hknown.get .sAp (by decide)
    simp [State.request, show handles.sAp = some hd from hget]
  case h_14 =>
    obtain ⟨hd, hget⟩ := hknown.get .cAp (by decide)
    simp [State.request, show handles.cAp = some hd from hget]

end Kroopt.Core.KeyScheduleDriver

namespace Kroopt.Crypto

open Kroopt.Core (CryptoOp CryptoResult OperationId SecretKeyHandle Direction Epoch HashAlgorithm
  CipherSuite KeyScheduleDriver.State)
open Kroopt.Core.KeyScheduleDriver (Secret Slot Phase Step)
open Kroopt.Conn (resolveCryptoTranscript)

/-! ## The arena only grows

A handle names an entry by its id, and ids are handed out in order.  So a new entry is in nobody's
way, as long as the ids do not wrap, and they cannot: the arena is full long before (`Ordered`). -/

namespace SecretArena

variable {a a' : SecretArena}

/-- Ids are handed out in order, and they are too few to wrap. -/
structure Ordered (a : SecretArena) : Prop where
  small : a.capacity ≤ 64
  next : a.nextId.toNat = a.entries.length + 1
  ids : ∀ e ∈ a.entries, e.1.toNat < a.nextId.toNat

theorem ordered_empty : empty.Ordered := ⟨by decide, by decide, by simp [empty, withCapacity]⟩

theorem Ordered.push {b : Bytes} (ho : a.Ordered) (hroom : a.HasRoom) : (a.push b).Ordered := by
  have hlen := hroom
  have hsmall := ho.small
  have hnext := ho.next
  rw [HasRoom] at hlen
  have htoNat : (a.nextId + 1).toNat = a.nextId.toNat + 1 := by
    rw [UInt64.toNat_add]
    exact Nat.mod_eq_of_lt (by simp; omega)
  refine ⟨hsmall, ?_, fun e he ↦ ?_⟩
  · rw [SecretArena.push]
    dsimp only
    rw [htoNat, hnext, List.length_cons]
  · rw [SecretArena.push] at he ⊢
    dsimp only at he ⊢
    rw [htoNat]
    rcases List.mem_cons.mp he with rfl | he
    · exact Nat.lt_succ_self _
    · exact Nat.lt_succ_of_lt (ho.ids e he)

/-- What is stored in one arena is stored in the other. -/
structure Extends (a a' : SecretArena) : Prop where
  generation : a'.generation = a.generation
  getById : ∀ id b, a.getById id = some b → a'.getById id = some b

theorem Extends.refl (a : SecretArena) : a.Extends a := ⟨rfl, fun _ _ h ↦ h⟩

theorem Extends.trans {a'' : SecretArena} (h : a.Extends a') (h' : a'.Extends a'') :
    a.Extends a'' :=
  ⟨h'.generation.trans h.generation, fun id b hb ↦ h'.getById id b (h.getById id b hb)⟩

theorem Extends.get (h : a.Extends a') {hd : SecretKeyHandle} {b : Bytes}
    (hb : a.get hd = some b) : a'.get hd = some b := by
  rw [SecretArena.get, h.generation]
  rw [SecretArena.get] at hb
  split at hb
  · rename_i hgen
    rw [if_pos hgen]
    exact h.getById hd.id b hb
  · cases hb

theorem Extends.recordKeys (h : a.Extends a') {dir : Direction} {epoch : Epoch}
    (hids : a'.lookupInstalled dir epoch = a.lookupInstalled dir epoch) {keys : Bytes × Bytes}
    (hkeys : a.recordKeys dir epoch = some keys) : a'.recordKeys dir epoch = some keys := by
  rw [SecretArena.recordKeys] at hkeys
  obtain ⟨⟨kId, ivId⟩, hlookup, hrest⟩ := Option.bind_eq_some_iff.mp hkeys
  obtain ⟨key, hkey, hrest⟩ := Option.bind_eq_some_iff.mp hrest
  obtain ⟨iv, hiv, rfl⟩ := Option.map_eq_some_iff.mp hrest
  exact recordKeys_eq (hids.trans hlookup) (h.getById kId key hkey) (h.getById ivId iv hiv)

theorem Extends.trafficSecret (h : a.Extends a') {dir : Direction} {epoch : Epoch}
    (hid : a'.lookupBaseSecret dir epoch = a.lookupBaseSecret dir epoch) {b : Bytes}
    (hb : a.trafficSecret dir epoch = some b) : a'.trafficSecret dir epoch = some b := by
  rw [SecretArena.trafficSecret] at hb ⊢
  obtain ⟨id, hlookup, hget⟩ := Option.bind_eq_some_iff.mp hb
  rw [hid, hlookup, Option.bind_some]
  exact h.getById id b hget

/-- A new secret hides no other. -/
theorem Ordered.extends_push {b : Bytes} (ho : a.Ordered) : a.Extends (a.push b) := by
  refine ⟨rfl, fun id c hc ↦ ?_⟩
  rw [SecretArena.getById] at hc
  obtain ⟨e, he, rfl⟩ := Option.map_eq_some_iff.mp hc
  have hne : ¬ a.nextId = id := by
    have hlt := ho.ids e (List.mem_of_find?_eq_some he)
    have hid := List.find?_some he
    rintro rfl
    rw [beq_iff_eq.mp hid] at hlt
    exact Nat.lt_irrefl _ hlt
  rw [SecretArena.getById, SecretArena.push, List.find?_cons_of_neg (by simpa using hne), he]
  rfl

/-! ### The slots of an arena

Record keys are found by direction and epoch.  An installation writes the entries of one slot, and
the other three are as they were. -/

/-- The index of record keys is the same at a direction and an epoch. -/
structure SameSlot (a a' : SecretArena) (dir : Direction) (epoch : Epoch) : Prop where
  installed : a'.lookupInstalled dir epoch = a.lookupInstalled dir epoch
  base : a'.lookupBaseSecret dir epoch = a.lookupBaseSecret dir epoch
  suite : a'.lookupInstalledSuite dir epoch = a.lookupInstalledSuite dir epoch

theorem SameSlot.refl (a : SecretArena) (dir : Direction) (epoch : Epoch) :
    a.SameSlot a dir epoch := ⟨rfl, rfl, rfl⟩

theorem sameSlot_push (b : Bytes) (dir : Direction) (epoch : Epoch) :
    a.SameSlot (a.push b) dir epoch := ⟨rfl, rfl, rfl⟩

/-- Installing the keys of one slot leaves the others. -/
theorem sameSlot_withTrafficKeys {suite : CipherSuite} {dir dir' : Direction}
    {epoch epoch' : Epoch} {key iv secret : Bytes} (hne : ¬ (dir' = dir ∧ epoch' = epoch)) :
    a.SameSlot (a.withTrafficKeys suite dir epoch key iv secret) dir' epoch' := by
  have hcons : (decide (dir = dir') && decide (epoch = epoch')) = false := by
    rw [Bool.and_eq_false_iff, decide_eq_false_iff_not, decide_eq_false_iff_not]
    by_contra h
    exact hne ⟨(not_not.mp (not_or.mp h).1).symm, (not_not.mp (not_or.mp h).2).symm⟩
  refine ⟨?_, ?_, ?_⟩
  · rw [lookupInstalled, lookupInstalled, withTrafficKeys]
    exact congrArg _ (List.find?_cons_of_neg (by simp [hcons]))
  · rw [lookupBaseSecret, lookupBaseSecret, withTrafficKeys]
    exact congrArg _ (List.find?_cons_of_neg (by simp [hcons]))
  · rw [lookupInstalledSuite, lookupInstalledSuite, withTrafficKeys]
    exact congrArg _ (List.find?_cons_of_neg (by simp [hcons]))

end SecretArena

section

variable [NativeHacl] {cfg : RealCryptoConfig} {a a' : SecretArena} {id : OperationId}
  {op : CryptoOp} {r : CryptoResult}

open RealProvider (submit)

/-! ### What an operation does

Every operation keeps what is stored, and only an installation touches a slot: its own. -/

/-- **What an operation does to the arena.** -/
structure Grows (op : CryptoOp) (a a' : SecretArena) : Prop where
  ordered : a'.Ordered
  extended : a.Extends a'
  slots : ∀ dir epoch, (∀ suite h, op ≠ .installTrafficKeys suite dir epoch h) →
    a.SameSlot a' dir epoch

omit [NativeHacl] in
theorem Grows.same (ho : a.Ordered) : Grows op a a :=
  ⟨ho, .refl a, fun dir epoch _ ↦ .refl a dir epoch⟩

omit [NativeHacl] in
theorem Grows.stored {b : Bytes} {f : SecretKeyHandle → CryptoResult} (ho : a.Ordered)
    (h : stored a b f = .ok (a', r)) : Grows op a a' := by
  by_cases hroom : a.HasRoom
  · rw [(stored_eq_ok h).1]
    exact ⟨ho.push hroom, ho.extends_push, fun dir epoch _ ↦ SecretArena.sameSlot_push b dir epoch⟩
  · rw [stored_of_full hroom] at h
    cases h

omit [NativeHacl] in
theorem Grows.withTrafficKeys {suite : CipherSuite} {dir : Direction} {epoch : Epoch}
    {hd : SecretKeyHandle} {key iv secret : Bytes} (ho : a.Ordered)
    (hroom : a.entries.length + 2 < a.capacity) :
    Grows (.installTrafficKeys suite dir epoch hd) a
      (a.withTrafficKeys suite dir epoch key iv secret) := by
  have h₁ := ho.push (b := key) (Nat.lt_of_le_of_lt (Nat.le_add_right _ 2) hroom)
  have h₂ := h₁.push (b := iv) (Nat.lt_of_succ_lt hroom)
  have h₃ := h₂.push (b := secret) hroom
  have hall := (ho.extends_push (b := key)).trans
    ((h₁.extends_push (b := iv)).trans (h₂.extends_push (b := secret)))
  refine ⟨⟨h₃.small, h₃.next, h₃.ids⟩, ⟨hall.generation, hall.getById⟩, fun dir' epoch' hne ↦ ?_⟩
  refine SecretArena.sameSlot_withTrafficKeys ?_
  rintro ⟨rfl, rfl⟩
  exact hne suite hd rfl

theorem SecretArena.Ordered.submit (ho : a.Ordered) (h : submit cfg a id op = .ok (a', r)) :
    Grows op a a' := by
  have hstored : ∀ {o : Option Bytes} {e : CryptoError} {f : SecretKeyHandle → CryptoResult},
      (o.elim (Except.error e) fun b ↦ stored a b f) = .ok (a', r) → Grows op a a' := by
    intro o e f h
    obtain ⟨b, -, hb⟩ := elim_eq_ok h
    exact .stored ho hb
  have hsame : ∀ {α : Type} {o : Option α} {e : CryptoError} {f : α → CryptoResult},
      (o.elim (Except.error e) fun x ↦ .ok (a, f x)) = .ok (a', r) → Grows op a a' := by
    intro α o e f h
    obtain ⟨x, -, hx⟩ := elim_eq_ok h
    cases hx
    exact .same ho
  cases op with
  | randomBytes len => cases h
  | ecdheX25519 peerShare => exact hstored (submit_ecdheX25519.symm.trans h)
  | ecdheP256 peerShare => exact hstored (submit_ecdheP256.symm.trans h)
  | hkdfExtract alg salt ikm => exact hstored (submit_hkdfExtract.symm.trans h)
  | hkdfExpandLabel alg secret label context len =>
    exact hstored (submit_hkdfExpandLabel.symm.trans h)
  | installTrafficKeys suite dir epoch secret =>
    obtain ⟨secretBytes, -, hkeys⟩ := elim_eq_ok (submit_installTrafficKeys.symm.trans h)
    split at hkeys
    · rename_i hroom
      cases hkeys
      exact .withTrafficKeys ho hroom
    · cases hkeys
  | aeadSeal rmeta aad plaintext => exact hsame (submit_aeadSeal.symm.trans h)
  | aeadOpen rmeta aad ciphertext => exact hsame (submit_aeadOpen.symm.trans h)
  | signCertificateVerify scheme input =>
    cases scheme with
    | ed25519 =>
      cases submit_ed25519.symm.trans h
      exact .same ho
    | ecdsaSecp256r1Sha256 => exact hsame (submit_ecdsa.symm.trans h)
    | rsaPssRsaeSha256 =>
      rw [submit_rsapss] at h
      split at h
      · cases h
      · exact hsame h
  | computeServerFinished alg transcriptHash =>
    exact hsame (submit_computeServerFinished.symm.trans h)
  | verifyFinished alg transcriptHash received =>
    exact hsame (submit_verifyFinished.symm.trans h)

/-! ## The chain

Every secret is a function of the suite, the shared secret and two hashes of the messages.  The
chain is written once, as the specification has it, and the driver is compared with it secret by
secret. -/

/-- What the key schedule is computed from: the suite, the shared secret, and the hashes of the
messages up to ServerHello and up to the server Finished. -/
structure Inputs where
  suite : CipherSuite
  shared : Bytes
  hello : Bytes
  flight : Bytes

namespace Inputs

variable (i : Inputs)

/-- The hash of the schedule. -/
def alg : HashAlgorithm := i.suite.hashAlg

/-- The Handshake Secret. -/
def handshake : Bytes :=
  KeySchedule.handshakeSecret (KeySchedule.earlySecret i.alg) i.shared i.alg

/-- The Master Secret. -/
def master : Bytes := KeySchedule.masterSecret i.handshake i.alg

/-- **The secrets of the key schedule.** -/
def secret : Secret → Bytes
  | .shared => i.shared
  | .early => KeySchedule.earlySecret i.alg
  | .derivedHs => KeySchedule.derivedForHandshake (KeySchedule.earlySecret i.alg) i.alg
  | .handshake => i.handshake
  | .sHs => KeySchedule.serverHandshakeTrafficSecret i.handshake i.hello i.alg
  | .cHs => KeySchedule.clientHandshakeTrafficSecret i.handshake i.hello i.alg
  | .derivedMs => KeySchedule.derivedForMaster i.handshake i.alg
  | .master => i.master
  | .sAp => KeySchedule.serverAppTrafficSecret i.master i.flight i.alg
  | .cAp => KeySchedule.clientAppTrafficSecret i.master i.flight i.alg

/-- The record key and IV of a secret. -/
def keys (x : Secret) : Bytes × Bytes :=
  (KeySchedule.trafficKey i.suite (i.secret x), KeySchedule.trafficIv (i.secret x) i.alg)

end Inputs

/-- What a driver computes from. -/
def inputs (k : Core.KeyScheduleDriver.State) (shared : Bytes) : Inputs where
  suite := k.suite
  shared := shared
  hello := KeySchedule.hashOf k.suite.hashAlg k.hsTranscript
  flight := KeySchedule.hashOf k.suite.hashAlg k.apTranscript

/-! ## The driver and the arena

The invariant of the two, and the first half of their turn. -/

/-- The keys of a slot are installed, with their secret and their suite. -/
structure Installed (a : SecretArena) (i : Inputs) (slot : Slot) : Prop where
  keys : a.recordKeys slot.dir slot.epoch = some (i.keys slot.secret)
  base : a.trafficSecret slot.dir slot.epoch = some (i.secret slot.secret)
  suite : a.lookupInstalledSuite slot.dir slot.epoch = some i.suite

theorem Installed.mono {i : Inputs} {slot : Slot} (h : Installed a i slot) (hx : a.Extends a')
    (hslot : a.SameSlot a' slot.dir slot.epoch) : Installed a' i slot where
  keys := hx.recordKeys hslot.installed h.keys
  base := hx.trafficSecret hslot.base h.base
  suite := hslot.suite.trans h.suite

theorem installed_withTrafficKeys {i : Inputs} (slot : Slot) :
    Installed (a.withTrafficKeys i.suite slot.dir slot.epoch
      (KeySchedule.trafficKey i.suite (i.secret slot.secret))
      (KeySchedule.trafficIv (i.secret slot.secret) i.alg) (i.secret slot.secret)) i slot where
  keys := SecretArena.recordKeys_withTrafficKeys
  base := by
    simp [SecretArena.trafficSecret, SecretArena.lookupBaseSecret, SecretArena.getById,
      SecretArena.withTrafficKeys, SecretArena.recordBaseSecret, SecretArena.recordInstalledSuite,
      SecretArena.recordInstalled, SecretArena.push]
  suite := by
    simp [SecretArena.lookupInstalledSuite, SecretArena.withTrafficKeys,
      SecretArena.recordInstalledSuite]

/-- **The arena holds what the driver has computed.** -/
structure Scheduled (a : SecretArena) (k : Core.KeyScheduleDriver.State) (shared : Bytes) :
    Prop where
  ordered : a.Ordered
  emptyHash : k.emptyHash = KeySchedule.emptyHash k.suite.hashAlg
  started : k.phase ≠ .awaitShared
  handles : ∀ x ∈ k.phase.known, ∃ hd, k.handles.get x = some hd ∧
    a.get hd = some ((inputs k shared).secret x)
  slots : ∀ slot ∈ k.phase.installed, Installed a (inputs k shared) slot

/-- **A right answer** to what the driver asked for. -/
structure RightAnswer (a : SecretArena) (k : Core.KeyScheduleDriver.State) (shared : Bytes)
    (r : CryptoResult) : Prop where
  secret : ∀ x hd, k.phase.awaits = some x → r = .hkdfSecret hd →
    a.get hd = some ((inputs k shared).secret x)
  slot : ∀ slot, k.phase.installs = some slot → r = .keysInstalled →
    Installed a (inputs k shared) slot

variable {k k' : Core.KeyScheduleDriver.State} {shared : Bytes} {ops : List CryptoOp}

theorem Scheduled.collected (h : Scheduled a k shared) : k.Collected := by
  intro x hx hnone
  obtain ⟨hd, hget, -⟩ := h.handles x hx
  rw [hnone] at hget
  cases hget

/-- **The first half of a turn**: a right answer is taken in. -/
theorem Scheduled.advance (h : Scheduled a k shared) (hr : RightAnswer a k shared r)
    (hadv : Core.KeyScheduleDriver.advance k r = .ok (k', ops)) : Scheduled a k' shared := by
  cases Core.KeyScheduleDriver.advance_step hadv with
  | @collect x hd _ hx hres =>
    have hne : x ≠ .shared := by
      rintro rfl
      refine h.started ?_
      cases hp : k.phase <;> rw [hp] at hx <;> cases hx
    refine ⟨h.ordered, h.emptyHash, ?_, fun y hy ↦ ?_, fun slot hslot ↦ ?_⟩
    · cases hp : k.phase <;> simp [Phase.next]
    · dsimp only at hy ⊢
      rw [Phase.known_next_of_awaits hx, List.mem_append, List.mem_singleton] at hy
      rw [Core.KeyScheduleDriver.Handles.get_set]
      by_cases hyx : y = x
      · rw [if_pos hyx, hyx]
        exact ⟨hd, rfl, hr.secret x hd hx (hres hne)⟩
      · rw [if_neg hyx]
        exact h.handles y (hy.resolve_right hyx)
    · dsimp only at hslot
      rw [Phase.installed_next_of_awaits hx] at hslot
      exact h.slots slot hslot
  | @install slot hslot =>
    refine ⟨h.ordered, h.emptyHash, ?_, fun y hy ↦ ?_, fun slot' hslot' ↦ ?_⟩
    · cases hp : k.phase <;> simp [Phase.next]
    · dsimp only at hy ⊢
      rw [Phase.known_next_of_installs hslot] at hy
      exact h.handles y hy
    · dsimp only at hslot'
      rw [Phase.installed_next_of_installs hslot, List.mem_append, List.mem_singleton] at hslot'
      rcases hslot' with hold | rfl
      · exact h.slots slot' hold
      · exact hr.slot slot' hslot rfl
  | rest => exact h

/-! ## What the provider answers

An extraction, a derivation or an installation is computed from secrets that are looked up by their
handles.  If the handles lead to the right secrets, so does the answer. -/

omit [NativeHacl] in
theorem digestLen_eq (alg : HashAlgorithm) : alg.digestLen = KeySchedule.hashLen alg := by
  cases alg <;> rfl

omit [NativeHacl] in
theorem resolve_some {alg : HashAlgorithm} {hd : SecretKeyHandle} {b : Bytes}
    (h : a.get hd = some b) : resolve a alg (some hd) = some b := h

theorem submit_extract {alg : HashAlgorithm} {salt ikm : Option SecretKeyHandle}
    {saltBytes ikmBytes : Bytes} (hsalt : resolve a alg salt = some saltBytes)
    (hikm : resolve a alg ikm = some ikmBytes) :
    submit cfg a id (resolved a (.hkdfExtract alg salt ikm)) =
      stored a (KeySchedule.hkdfExtractH alg saltBytes ikmBytes) .hkdfSecret := by
  have hresolved : resolved a (.hkdfExtract alg salt ikm) = .hkdfExtract alg salt ikm := rfl
  rw [hresolved, submit_hkdfExtract, extracted, hsalt, hikm]
  rfl

/-- A secret that is derived from no messages. -/
theorem submit_derive {alg : HashAlgorithm} {hd : SecretKeyHandle} {secret context : Bytes}
    (hsecret : a.get hd = some secret) :
    submit cfg a id (resolved a (Core.KeyScheduleDriver.expand alg hd "derived" context)) =
      stored a (KeySchedule.deriveSecret secret "derived" context alg) .hkdfSecret := by
  have hresolved : resolved a (Core.KeyScheduleDriver.expand alg hd "derived" context) =
      .hkdfExpandLabel alg hd "derived" context alg.digestLen := rfl
  rw [hresolved, submit_hkdfExpandLabel, expanded, hsecret, digestLen_eq]
  rfl

/-- A traffic secret, which is derived from the hash of the messages. -/
theorem submit_traffic {alg : HashAlgorithm} {hd : SecretKeyHandle} {label : String}
    {secret text : Bytes} (hsecret : a.get hd = some secret)
    (hlabel : (label == "s hs traffic" || label == "c hs traffic" || label == "s ap traffic" ||
      label == "c ap traffic" || label == "exp master") = true) :
    submit cfg a id (resolved a (Core.KeyScheduleDriver.expand alg hd label text)) =
      stored a (KeySchedule.deriveSecret secret label (KeySchedule.hashOf alg text) alg)
        .hkdfSecret := by
  have hresolved : resolved a (Core.KeyScheduleDriver.expand alg hd label text) =
      .hkdfExpandLabel alg hd label (KeySchedule.hashOf alg text) alg.digestLen := by
    rw [resolved, Core.KeyScheduleDriver.expand, resolveCryptoTranscript, if_pos hlabel]
    rfl
  rw [hresolved, submit_hkdfExpandLabel, expanded, hsecret, digestLen_eq]
  rfl

/-- The handle of a secret that the driver has collected. -/
theorem Scheduled.handle (h : Scheduled a k shared) {p : Phase} (hp : k.phase = p) (x : Secret)
    (hx : x ∈ p.known) :
    ∃ hd, k.handles.get x = some hd ∧ a.get hd = some ((inputs k shared).secret x) :=
  h.handles x (hp ▸ hx)

/-- **What the driver asks for while it awaits a secret** is that secret. -/
theorem Scheduled.submit_secret (h : Scheduled a k shared) (hreq : k.request = some op)
    {x : Secret} (hx : k.phase.awaits = some x) :
    submit cfg a id (resolved a op) = stored a ((inputs k shared).secret x) .hkdfSecret := by
  cases hp : k.phase
  all_goals
    rw [hp] at hx
    cases hx
  case awaitShared => exact absurd hp h.started
  case awaitEarly =>
    have hop : op = .hkdfExtract k.suite.hashAlg none none := by
      simpa [Core.KeyScheduleDriver.State.request, hp] using hreq.symm
    rw [hop, submit_extract rfl rfl]
    rfl
  case awaitDerivedHs =>
    obtain ⟨hd, hget, hbytes⟩ := h.handle hp .early (by decide)
    have hop : op = Core.KeyScheduleDriver.expand k.suite.hashAlg hd "derived" k.emptyHash := by
      simpa [Core.KeyScheduleDriver.State.request, hp, show k.handles.early = some hd from hget]
        using hreq.symm
    rw [hop, h.emptyHash, submit_derive hbytes]
    rfl
  case awaitHandshake =>
    obtain ⟨d, hget, hsalt⟩ := h.handle hp .derivedHs (by decide)
    obtain ⟨sh, hget', hikm⟩ := h.handle hp .shared (by decide)
    have hop : op = .hkdfExtract k.suite.hashAlg (some d) (some sh) := by
      simpa [Core.KeyScheduleDriver.State.request, hp, show k.handles.derivedHs = some d from hget,
        show k.handles.shared = some sh from hget'] using hreq.symm
    rw [hop, submit_extract (resolve_some hsalt) (resolve_some hikm)]
    rfl
  case awaitServerHs =>
    obtain ⟨hd, hget, hbytes⟩ := h.handle hp .handshake (by decide)
    have hop : op =
        Core.KeyScheduleDriver.expand k.suite.hashAlg hd "s hs traffic" k.hsTranscript := by
      simpa [Core.KeyScheduleDriver.State.request, hp, show k.handles.handshake = some hd from hget]
        using hreq.symm
    rw [hop, submit_traffic hbytes (by decide)]
    rfl
  case awaitClientHs =>
    obtain ⟨hd, hget, hbytes⟩ := h.handle hp .handshake (by decide)
    have hop : op =
        Core.KeyScheduleDriver.expand k.suite.hashAlg hd "c hs traffic" k.hsTranscript := by
      simpa [Core.KeyScheduleDriver.State.request, hp, show k.handles.handshake = some hd from hget]
        using hreq.symm
    rw [hop, submit_traffic hbytes (by decide)]
    rfl
  case awaitDerivedMs =>
    obtain ⟨hd, hget, hbytes⟩ := h.handle hp .handshake (by decide)
    have hop : op = Core.KeyScheduleDriver.expand k.suite.hashAlg hd "derived" k.emptyHash := by
      simpa [Core.KeyScheduleDriver.State.request, hp, show k.handles.handshake = some hd from hget]
        using hreq.symm
    rw [hop, h.emptyHash, submit_derive hbytes]
    rfl
  case awaitMaster =>
    obtain ⟨d, hget, hsalt⟩ := h.handle hp .derivedMs (by decide)
    have hop : op = .hkdfExtract k.suite.hashAlg (some d) none := by
      simpa [Core.KeyScheduleDriver.State.request, hp, show k.handles.derivedMs = some d from hget]
        using hreq.symm
    rw [hop, submit_extract (resolve_some hsalt) rfl]
    rfl
  case awaitServerAp =>
    obtain ⟨hd, hget, hbytes⟩ := h.handle hp .master (by decide)
    have hop : op =
        Core.KeyScheduleDriver.expand k.suite.hashAlg hd "s ap traffic" k.apTranscript := by
      simpa [Core.KeyScheduleDriver.State.request, hp, show k.handles.master = some hd from hget]
        using hreq.symm
    rw [hop, submit_traffic hbytes (by decide)]
    rfl
  case awaitClientAp =>
    obtain ⟨hd, hget, hbytes⟩ := h.handle hp .master (by decide)
    have hop : op =
        Core.KeyScheduleDriver.expand k.suite.hashAlg hd "c ap traffic" k.apTranscript := by
      simpa [Core.KeyScheduleDriver.State.request, hp, show k.handles.master = some hd from hget]
        using hreq.symm
    rw [hop, submit_traffic hbytes (by decide)]
    rfl

/-- What the driver asks for while it awaits an installation is that installation. -/
theorem Scheduled.request_slot (h : Scheduled a k shared) (hreq : k.request = some op)
    {slot : Slot} (hslot : k.phase.installs = some slot) :
    ∃ hd, op = .installTrafficKeys k.suite slot.dir slot.epoch hd ∧
      a.get hd = some ((inputs k shared).secret slot.secret) := by
  obtain ⟨hd, hget, hbytes⟩ := h.handles slot.secret (Phase.mem_known_of_installs hslot)
  refine ⟨hd, ?_, hbytes⟩
  cases hp : k.phase
  all_goals
    rw [hp] at hslot
    cases hslot
  case awaitInstallWriteHs =>
    simpa [Core.KeyScheduleDriver.State.request, hp, show k.handles.sHs = some hd from hget]
      using hreq.symm
  case awaitInstallReadHs =>
    simpa [Core.KeyScheduleDriver.State.request, hp, show k.handles.cHs = some hd from hget]
      using hreq.symm
  case awaitInstallWriteAp =>
    simpa [Core.KeyScheduleDriver.State.request, hp, show k.handles.sAp = some hd from hget]
      using hreq.symm
  case awaitInstallReadAp =>
    simpa [Core.KeyScheduleDriver.State.request, hp, show k.handles.cAp = some hd from hget]
      using hreq.symm

/-- The arena may grow meanwhile. -/
theorem Scheduled.mono (h : Scheduled a k shared) (ho : a'.Ordered) (hx : a.Extends a')
    (hslots : ∀ slot ∈ k.phase.installed, a.SameSlot a' slot.dir slot.epoch) :
    Scheduled a' k shared := by
  refine ⟨ho, h.emptyHash, h.started, fun x hknown ↦ ?_, fun slot hslot ↦ ?_⟩
  · obtain ⟨hd, hget, hbytes⟩ := h.handles x hknown
    exact ⟨hd, hget, hx.get hbytes⟩
  · exact (h.slots slot hslot).mono hx (hslots slot hslot)

omit [NativeHacl] in
/-- Whoever asks awaits a secret or an installation. -/
theorem installs_of_request (hreq : k.request = some op) (hx : k.phase.awaits = none) :
    ∃ slot, k.phase.installs = some slot := by
  cases hp : k.phase
  case handshakeKeysInstalled | complete =>
    simp [Core.KeyScheduleDriver.State.request, hp] at hreq
  all_goals
    rw [hp] at hx
    first | exact ⟨_, rfl⟩ | cases hx

/-- **The second half of a turn**: what the provider returns for the request of the driver is the
right answer. -/
theorem Scheduled.answer (h : Scheduled a k shared) (hreq : k.request = some op)
    (hok : submit cfg a id (resolved a op) = .ok (a', r)) :
    Scheduled a' k shared ∧ RightAnswer a' k shared r := by
  cases hx : k.phase.awaits with
  | some x =>
    rw [h.submit_secret hreq hx] at hok
    have hgrows : Grows op a a' := .stored h.ordered hok
    obtain ⟨rfl, rfl⟩ := stored_eq_ok hok
    refine ⟨h.mono hgrows.ordered hgrows.extended fun slot _ ↦ SecretArena.sameSlot_push _ _ _,
      fun y hd hy hr ↦ ?_, fun slot _ hr ↦ nomatch hr⟩
    cases hr
    cases hx.symm.trans hy
    exact SecretArena.get_push
  | none =>
    obtain ⟨slot, hslot⟩ := installs_of_request hreq hx
    obtain ⟨hd, rfl, hbytes⟩ := h.request_slot hreq hslot
    have hgrows := h.ordered.submit hok
    have hresolved : resolved a (.installTrafficKeys k.suite slot.dir slot.epoch hd) =
        .installTrafficKeys k.suite slot.dir slot.epoch hd := rfl
    rw [hresolved, submit_installTrafficKeys, hbytes] at hok
    refine ⟨h.mono hgrows.ordered hgrows.extended fun slot' hslot' ↦ ?_,
      fun y hd hy _ ↦ ?_, fun slot' hslot' _ ↦ ?_⟩
    · refine hgrows.slots _ _ fun suite hd' heq ↦ Phase.ne_of_mem_installed hslot hslot' ?_
      obtain ⟨-, hdir, hepoch, -⟩ := CryptoOp.installTrafficKeys.inj (hresolved.symm.trans heq)
      exact ⟨hdir.symm, hepoch.symm⟩
    · rw [hx] at hy
      cases hy
    · cases hslot.symm.trans hslot'
      dsimp only [Option.elim] at hok
      split at hok
      · cases hok
        exact installed_withTrafficKeys slot
      · cases hok

/-! ## Starting and resuming

The driver runs twice: from the shared secret up to the handshake keys, and, once the server has
said its Finished, up to the application keys.  What it computes in the first run does not depend on
the text of the second, so nothing that is installed has to be looked at again. -/

/-- **The driver starts** from the shared secret. -/
theorem Scheduled.start {suite : CipherSuite} {text : Bytes} {hd : SecretKeyHandle}
    (hempty : Core.KeyScheduleDriver.emptyHashFor suite.hashAlg =
      KeySchedule.emptyHash suite.hashAlg) (ho : a.Ordered) (hshared : a.get hd = some shared) :
    Scheduled a (Core.KeyScheduleDriver.startPostEcdhe suite
      (Core.KeyScheduleDriver.emptyHashFor suite.hashAlg) text hd).1 shared where
  ordered := ho
  emptyHash := hempty
  started := nofun
  handles x hx := by
    obtain rfl := List.mem_singleton.mp hx
    exact ⟨hd, rfl, hshared⟩
  slots slot hslot := by cases hslot

/-- Up to the pause nothing depends on the rest of the flight. -/
theorem secret_of_handshake {i i' : Inputs} (hsuite : i'.suite = i.suite)
    (hshared : i'.shared = i.shared) (hhello : i'.hello = i.hello) {x : Secret}
    (hx : x ∈ Phase.known.handshakeSecrets) : i'.secret x = i.secret x := by
  obtain ⟨suite, shared, hello, flight⟩ := i
  obtain ⟨suite', shared', hello', flight'⟩ := i'
  cases hsuite
  cases hshared
  cases hhello
  cases x
  case sAp | cAp => exact absurd hx (by decide)
  all_goals rfl

omit [NativeHacl] in
theorem secret_mem_of_handshakeSlots {slot : Slot}
    (h : slot ∈ Phase.installed.handshakeSlots) : slot.secret ∈ Phase.known.handshakeSecrets := by
  revert slot
  decide

/-- **The driver resumes** with the rest of the flight. -/
theorem Scheduled.resume (h : Scheduled a k shared) {text : Bytes}
    (hres : Core.KeyScheduleDriver.resumeApplication k text = .ok (k', ops)) :
    Scheduled a k' shared ∧ ∀ op ∈ ops, k'.request = some op := by
  rw [Core.KeyScheduleDriver.resumeApplication] at hres
  split at hres
  · rename_i hp
    cases hres
    have hslots := h.slots
    rw [hp] at hslots
    refine ⟨⟨h.ordered, h.emptyHash, nofun, fun x hx ↦ ?_, fun slot hslot ↦ ?_⟩, ?_⟩
    · obtain ⟨hd, hget, hbytes⟩ := h.handle hp x hx
      refine ⟨hd, hget, hbytes.trans (congrArg some ?_)⟩
      exact (secret_of_handshake (by rfl) (by rfl) (by rfl) hx).symm
    · have hold := hslots slot hslot
      have hsecret : (inputs k shared).secret slot.secret = (inputs
          { k with phase := .awaitDerivedMs, apTranscript := text } shared).secret slot.secret := by
        refine (secret_of_handshake (by rfl) (by rfl) (by rfl) ?_).symm
        exact secret_mem_of_handshakeSlots hslot
      refine ⟨hold.keys.trans ?_, hold.base.trans (congrArg some hsecret), hold.suite⟩
      rw [Inputs.keys, Inputs.keys, hsecret]
      rfl
    · obtain ⟨hd, hget, -⟩ := h.handle hp .handshake (by decide)
      refine List.forall_mem_singleton.mpr ?_
      simp [Core.KeyScheduleDriver.State.request, show k.handles.handshake = some hd from hget]
  · cases hres

end

end Kroopt.Crypto
