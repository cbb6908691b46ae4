import Kroopt.Core.Edge
import Kroopt.Properties.KeyDerivation
import Kroopt.Properties.Transcript

/-!
# A handshake and its secrets

The handshake of a server over the real provider.  The core keeps the transcript and drives the key
schedule, but it never sees a secret: it holds handles, and the secrets are in the arena of the
connection.  So what a handshake has come to can only be said of both together, of the arena and of
what the core shows of the handshake, its `View`.

`Sound` is that statement.  It has a part about the driver, which has computed the key schedule of
the transcript as far as its phase says (`Driven`), and a part about the messages: each that is
already in the transcript carries what it should (`Carried`).  The second part looks backwards and
the first forwards, and they hold each other up: the MAC of a Finished is right because the driver
has computed its key, and the driver's key is right because the text it was derived from is that of
the messages.

It is kept in two halves.  An edge of the handshake keeps it if the result that it consumes is the
right one (`Sound.edge`), and whatever a sound handshake asks for, the provider answers with the
right result (`Sound.answer`).  Between the two lies the interpreter, which is put in elsewhere.

## Main definitions

* `Driven cfg a v k shared`: the driver has computed the key schedule of the handshake so far.
* `Carried cfg v i n`: what the message of index `n` in the transcript has to carry.
* `Sound cfg a v`: a handshake and the secrets that go with it.
* `RightResult cfg a v r`: the result is the right one for what the handshake waits for.
* `Requested v op`: the handshake asks for the operation.

## Main results

* `Sound.edge`: every edge keeps a handshake sound, if it consumes a right result.
* `Sound.answer`: every request of a sound handshake gets a right result.
-/

set_option autoImplicit false

namespace Kroopt.Crypto

open Kroopt.Core (CryptoOp)

/-- The provider of a live server: the real one, with the random value of the ServerHello drawn
beforehand. -/
def liveProvider [NativeHacl] (cfg : RealCryptoConfig) (random : Bytes) : CryptoProvider where
  submit a id op :=
    match op with
    | .randomBytes _ => .ok (a, .randomBytes random)
    | _ => RealProvider.submit cfg a id op

end Kroopt.Crypto

namespace Kroopt.Conn

open Kroopt.Core (CryptoOp CryptoResult OperationId HandshakeState TranscriptState TranscriptEvent
  View Edge SecretKeyHandle SignatureScheme committed serializeHandshakeOut)
open Kroopt.Core.KeyScheduleDriver (Secret Slot Phase)
open Kroopt.Crypto (NativeHacl RealCryptoConfig SecretArena Inputs Installed Scheduled RightAnswer
  Carries Grows inputs resolved liveProvider)
open Kroopt.Crypto.KeySchedule (hashOf hmacH finishedKey)

variable [NativeHacl] {cfg : RealCryptoConfig} {random : Bytes}

/-! ## What is computed outside the key schedule

The key exchange, the signature and the MACs, in terms of the primitives and of what was negotiated.
-/

/-- The result of the key exchange. -/
def exchanged (cfg : RealCryptoConfig) (v : View) : Option Bytes :=
  match v.negotiated.selectedGroup with
  | some .secp256r1 =>
    Crypto.Hacl.p256Shared cfg.ephemeralPrivate (v.negotiated.clientShare.getD [])
  | _ => Crypto.Hacl.x25519Shared cfg.ephemeralPrivate (v.negotiated.clientShare.getD [])

/-- The share of the server. -/
def ownShare (cfg : RealCryptoConfig) (v : View) : Bytes :=
  match v.negotiated.selectedGroup with
  | some .secp256r1 => NativeHacl.p256Public cfg.ephemeralPrivate
  | _ => NativeHacl.x25519Public cfg.ephemeralPrivate

/-- The signature of the server. -/
def certificateSignature (cfg : RealCryptoConfig) : SignatureScheme → Bytes → Option Bytes
  | .ed25519, content => some (Crypto.ed25519Signature cfg content)
  | .ecdsaSecp256r1Sha256, content => Crypto.ecdsaSignature cfg content
  | .rsaPssRsaeSha256, content => Crypto.rsapssSignature cfg content

/-- The MAC of a Finished message, under the key of a secret. -/
def finishedMac (i : Inputs) (x : Secret) (text : Bytes) : Bytes :=
  hmacH i.alg (finishedKey (i.secret x) i.alg) (hashOf i.alg text)

/-! ## The handshake and the driver -/

/-- The phases of the driver in a phase of the handshake. -/
def drives : HandshakeState → Phase → Bool
  | .derivedHandshakeSecrets, p => !p.resumed && !p.rests
  | .requestedCertificateVerifySignature, p => p == .handshakeKeysInstalled
  | .requestedServerFinishedMac, p => p == .handshakeKeysInstalled
  | .sentCertificateVerify, p => p.resumed && !p.rests
  | _, p => p == .complete

/-- **The driver has computed** the key schedule of the handshake so far. -/
structure Driven (cfg : RealCryptoConfig) (a : SecretArena) (v : View)
    (k : Core.KeyScheduleDriver.State) (shared : Bytes) : Prop where
  exchange : exchanged cfg v = some shared
  scheduled : Scheduled a k shared
  suite : k.suite = v.suite
  hello : k.hsTranscript = v.transcript.textUpTo 2
  flight : k.phase.resumed = true → k.apTranscript = v.transcript.textUpTo 6
  phase : drives v.phase k.phase = true

/-- What a message of the transcript, by its index, has to carry. -/
def Carried (cfg : RealCryptoConfig) (v : View) (i : Inputs) : Nat → Prop
  | 1 => v.transcript.events[1]? = some (committed .serverHello .write
      (serializeHandshakeOut (v.serverHello (ownShare cfg v))))
  | 2 => v.transcript.events[2]? = some (committed .encryptedExtensions .write
      (serializeHandshakeOut v.encryptedExtensions))
  | 3 => v.transcript.events[3]? = some (committed .certificate .write
      (Core.serializeServerCertificate v.negotiated.selectedCertDer))
  | 4 => ∃ sig, certificateSignature cfg v.scheme
        (certVerifyContent (hashOf i.alg (v.transcript.textUpTo 4))) = some sig ∧
      v.transcript.events[4]? = some (committed .certificateVerify .write
        (serializeHandshakeOut (v.certificateVerify sig)))
  | 5 => v.transcript.events[5]? = some (committed .finished .write (serializeHandshakeOut
      (.finished (finishedMac i .sHs (v.transcript.textUpTo 5)))))
  | 6 => ∃ wire, v.transcript.events[6]? = some (committed .finished .read wire) ∧
      Carries wire (finishedMac i .cHs (v.transcript.textUpTo 6))
  | _ => True

/-- The phases before the key schedule. -/
def precedesSchedule : HandshakeState → Bool
  | .start => true
  | .requestedServerRandom => true
  | .requestedEcdhe => true
  | _ => false

/-- **A handshake and the secrets that go with it.** -/
structure Sound (cfg : RealCryptoConfig) (a : SecretArena) (v : View) : Prop where
  ordered : a.Ordered
  script : v.transcript.events.map (·.line) = v.phase.script
  hash : v.phase ≠ .start → v.transcript.hashAlg = v.suite.hashAlg
  before : precedesSchedule v.phase = true → v.keySched = none
  keyed : precedesSchedule v.phase = false → ∃ k shared, v.keySched = some k ∧
    Driven cfg a v k shared ∧ ∀ n < v.transcript.events.length, Carried cfg v (inputs k shared) n

/-- **A right result** for what the handshake waits for. -/
structure RightResult (cfg : RealCryptoConfig) (a : SecretArena) (v : View) (r : CryptoResult) :
    Prop where
  exchange : v.phase = .requestedEcdhe → ∀ share hd, r = .ecdheComplete share hd →
    share = ownShare cfg v ∧ ∃ shared, exchanged cfg v = some shared ∧ a.get hd = some shared
  schedule : ∀ k shared, v.keySched = some k → exchanged cfg v = some shared →
    RightAnswer a k shared r
  signature : v.phase = .requestedCertificateVerifySignature → ∀ sig, r = .signature sig →
    certificateSignature cfg v.scheme
      (certVerifyContent (hashOf v.suite.hashAlg v.transcript.text)) = some sig
  mac : v.phase = .requestedServerFinishedMac → ∀ k shared mac, v.keySched = some k →
    exchanged cfg v = some shared → r = .finishedMac mac →
    mac = finishedMac (inputs k shared) .sHs v.transcript.text
  verified : v.phase = .requestedClientFinishedVerify → ∀ k shared, v.keySched = some k →
    exchanged cfg v = some shared → r = .verified →
    Carries (v.clientFinished.getD []) (finishedMac (inputs k shared) .cHs v.transcript.text)

/-- **What the handshake asks for.** -/
inductive Requested (v : View) : CryptoOp → Prop
  | random (hphase : v.phase = .requestedServerRandom) : Requested v (.randomBytes 32)
  | exchange (hphase : v.phase = .requestedEcdhe) : Requested v v.exchange
  | schedule {k : Core.KeyScheduleDriver.State} {op : CryptoOp} (hk : v.keySched = some k)
      (hphase : v.phase = .derivedHandshakeSecrets ∨ v.phase = .sentCertificateVerify)
      (hreq : k.request = some op) : Requested v op
  | signature (hphase : v.phase = .requestedCertificateVerifySignature) :
      Requested v (.signCertificateVerify v.scheme v.transcript.text)
  | mac (hphase : v.phase = .requestedServerFinishedMac) :
      Requested v (.computeServerFinished v.transcript.hashAlg v.transcript.text)
  | verify (hphase : v.phase = .requestedClientFinishedVerify) :
      Requested v (.verifyFinished v.transcript.hashAlg v.transcript.text
        (v.clientFinished.getD []))
  | record {op : CryptoOp} (hphase : v.phase = .connected ∨ v.phase = .sentServerFinished)
      (hop : op.kind = .aeadSeal ∨ op.kind = .aeadOpen) : Requested v op

/-! ## The handshake takes an edge

One lemma for each kind of edge.  Most edges leave the earlier messages and the inputs of the key
schedule as they are, and add a message or none (`Sound.next`).  Where the driver starts there are
no inputs yet (`Sound.ecdhe`), and where it resumes the last of them is settled
(`Sound.serverFinished`); `Carried.mono` says why the earlier messages do not mind: they depend on
the handshake secrets alone. -/

variable {a a' : SecretArena} {v v' : View} {k k' : Core.KeyScheduleDriver.State}
  {shared : Bytes} {r : CryptoResult} {ops : List CryptoOp}

theorem Sound.length (h : Sound cfg a v) {p : HandshakeState} (hphase : v.phase = p) :
    v.transcript.events.length = p.script.length := by
  rw [← hphase, ← h.script, List.length_map]

/-- What the messages so far carry does not change. -/
theorem Carried.mono {i i' : Inputs} {n : Nat} {new : List TranscriptEvent}
    (h : Carried cfg v i n) (hn : n < v.transcript.events.length)
    (hts : v'.transcript.events = v.transcript.events ++ new)
    (hneg : v'.negotiated = v.negotiated) (halg : i'.alg = i.alg)
    (hs : i'.secret .sHs = i.secret .sHs) (hc : i'.secret .cHs = i.secret .cHs) :
    Carried cfg v' i' n := by
  have hevent : v'.transcript.events[n]? = v.transcript.events[n]? := by
    rw [hts, List.getElem?_append_left hn]
  have htext := TranscriptState.textUpTo_append hts (Nat.le_of_lt hn)
  obtain ⟨phase, neg, ts, ks, cf⟩ := v
  obtain ⟨phase', neg', ts', ks', cf'⟩ := v'
  cases hneg
  match n with
  | 1 => exact hevent.trans h
  | 2 => exact hevent.trans h
  | 3 => exact hevent.trans h
  | 4 =>
    obtain ⟨sig, hsig, hmsg⟩ := h
    refine ⟨sig, ?_, hevent.trans hmsg⟩
    rw [halg]
    rw [← htext] at hsig
    exact hsig
  | 5 =>
    have hmac : finishedMac i' .sHs (ts'.textUpTo 5) = finishedMac i .sHs (ts.textUpTo 5) := by
      rw [finishedMac, finishedMac, halg, hs]
      exact congrArg _ (congrArg _ htext)
    rw [Carried, hmac]
    exact hevent.trans h
  | 6 =>
    obtain ⟨wire, hmsg, hmac⟩ := h
    refine ⟨wire, hevent.trans hmsg, ?_⟩
    rw [finishedMac, halg, hc]
    rw [← htext] at hmac
    exact hmac
  | 0 | _ + 7 => trivial

/-- The driver goes on with the same inputs. -/
theorem Driven.advance (h : Driven cfg a v k shared) (hr : RightAnswer a k shared r)
    (hadv : Core.KeyScheduleDriver.advance k r = .ok (k', ops)) :
    Scheduled a k' shared ∧ inputs k' shared = inputs k shared ∧ k'.suite = k.suite ∧
      k'.hsTranscript = k.hsTranscript ∧ k'.apTranscript = k.apTranscript ∧
      k'.phase.resumed = k.phase.resumed := by
  refine ⟨h.scheduled.advance hr hadv, ?_⟩
  cases Core.KeyScheduleDriver.advance_step hadv with
  | collect hx =>
    refine ⟨rfl, rfl, rfl, rfl, Phase.resumed_next ?_⟩
    cases hp : k.phase <;> rw [hp] at hx <;> first | rfl | cases hx
  | install hslot =>
    refine ⟨rfl, rfl, rfl, rfl, Phase.resumed_next ?_⟩
    cases hp : k.phase <;> rw [hp] at hslot <;> first | rfl | cases hslot
  | rest => exact ⟨rfl, rfl, rfl, rfl, rfl⟩

/-- **One more edge**, once the key schedule has started. -/
theorem Sound.next {new : List TranscriptEvent} (h : Sound cfg a v)
    (hcarried : ∀ n < v.transcript.events.length, Carried cfg v (inputs k shared) n)
    (hts : v'.transcript.events = v.transcript.events ++ new)
    (hhash : v'.transcript.hashAlg = v.transcript.hashAlg) (hneg : v'.negotiated = v.negotiated)
    (hscript : v'.phase.script = v.phase.script ++ new.map (·.line))
    (hphase : v.phase ≠ .start) (hphase' : precedesSchedule v'.phase = false)
    (hk : v'.keySched = some k') (hd : Driven cfg a v' k' shared)
    (hinputs : (inputs k' shared).alg = (inputs k shared).alg ∧
      (inputs k' shared).secret .sHs = (inputs k shared).secret .sHs ∧
      (inputs k' shared).secret .cHs = (inputs k shared).secret .cHs)
    (hnew : ∀ j < new.length, Carried cfg v' (inputs k' shared) (v.transcript.events.length + j)) :
    Sound cfg a v' := by
  refine ⟨h.ordered, ?_, fun _ ↦ ?_, fun hp ↦ ?_, fun _ ↦ ⟨k', shared, hk, hd, fun n hn ↦ ?_⟩⟩
  · rw [hts, List.map_append, h.script, hscript]
  · have hsuite : v'.suite = v.suite := by rw [View.suite, View.suite, hneg]
    rw [hhash, h.hash hphase, hsuite]
  · cases hphase'.symm.trans hp
  · by_cases hold : n < v.transcript.events.length
    · exact (hcarried n hold).mono hold hts hneg hinputs.1 hinputs.2.1 hinputs.2.2
    · rw [hts, List.length_append] at hn
      have hj := hnew (n - v.transcript.events.length) (by omega)
      rwa [Nat.add_sub_cancel' (Nat.not_lt.mp hold)] at hj

/-- The driver has computed the same for a later part of the handshake. -/
theorem Driven.mono {new : List TranscriptEvent} (h : Driven cfg a v k shared)
    (hsched : Scheduled a k' shared) (hsuite : k'.suite = k.suite)
    (hhello : k'.hsTranscript = k.hsTranscript)
    (hts : v'.transcript.events = v.transcript.events ++ new)
    (hlen : 2 ≤ v.transcript.events.length) (hneg : v'.negotiated = v.negotiated)
    (hflight : k'.phase.resumed = true → k'.apTranscript = v'.transcript.textUpTo 6)
    (hphase : drives v'.phase k'.phase = true) : Driven cfg a v' k' shared := by
  refine ⟨?_, hsched, ?_, ?_, hflight, hphase⟩
  · have hexchange := h.exchange
    rwa [exchanged, ← hneg] at hexchange
  · rw [hsuite, h.suite, View.suite, View.suite, hneg]
  · rw [hhello, h.hello, TranscriptState.textUpTo_append hts hlen]

/-! ### The key schedule starts and goes on

With the shared secret the driver has its first inputs.  Each result that follows is taken in by the
driver, and where it pauses, the handshake sends what was waiting for its keys. -/

/-- **The key exchange** starts the driver. -/
theorem Sound.ecdhe (hempty : ∀ alg, Core.KeyScheduleDriver.emptyHashFor alg =
      Crypto.KeySchedule.emptyHash alg) (h : Sound cfg a v) {share : Bytes}
    {hd : SecretKeyHandle} (hr : RightResult cfg a v (.ecdheComplete share hd))
    (hphase : v.phase = .requestedEcdhe) {ts : TranscriptState}
    (hts : ts = v.transcript.say .serverHello (serializeHandshakeOut (v.serverHello share)))
    {start : Core.KeyScheduleDriver.State × CryptoOp}
    (hstart : start = Core.KeyScheduleDriver.startPostEcdhe v.suite
      (Core.KeyScheduleDriver.emptyHashFor v.suite.hashAlg) ts.text hd) :
    Sound cfg a { v with
      phase := .derivedHandshakeSecrets, transcript := ts, keySched := some start.1
      negotiated := { v.negotiated with serverShare := some share } } := by
  obtain ⟨hshare, shared, hexchange, hget⟩ := hr.exchange hphase share hd rfl
  have hevents : ts.events = v.transcript.events ++ [committed .serverHello .write
      (serializeHandshakeOut (v.serverHello share))] := by
    rw [hts]
    rfl
  have hone : v.transcript.events.length = 1 := h.length hphase
  have hlen : ts.events.length = 2 := by
    rw [hevents, List.length_append, hone]
    rfl
  have hmsg : ts.events[1]? = some (committed .serverHello .write
      (serializeHandshakeOut (v.serverHello (ownShare cfg v)))) := by
    rw [hevents, List.getElem?_append_right (Nat.le_of_eq hone), hone, hshare]
    rfl
  refine ⟨h.ordered, ?_, fun _ ↦ ?_, nofun, fun _ ↦ ⟨start.1, shared, rfl, ?_, fun n hn ↦ ?_⟩⟩
  · dsimp only
    rw [hevents, List.map_append, h.script, hphase]
    rfl
  · dsimp only
    rw [hts]
    exact h.hash (by simp [hphase])
  · rw [hstart]
    exact ⟨hexchange, .start (hempty _) h.ordered hget, rfl,
      (TranscriptState.textUpTo_length hlen.symm).symm, nofun, rfl⟩
  · dsimp only at hn
    rw [hlen] at hn
    match n with
    | 0 => trivial
    | 1 => exact hmsg

/-- **A result of the key schedule** takes the driver on. -/
theorem Sound.advance {new : List TranscriptEvent} (h : Sound cfg a v)
    (hr : RightResult cfg a v r)
    (hphase : v.phase = .derivedHandshakeSecrets ∨ v.phase = .sentCertificateVerify)
    (hk : v.keySched = some k) (hadv : Core.KeyScheduleDriver.advance k r = .ok (k', ops))
    (hts : v'.transcript.events = v.transcript.events ++ new)
    (hhash : v'.transcript.hashAlg = v.transcript.hashAlg) (hneg : v'.negotiated = v.negotiated)
    (hscript : v'.phase.script = v.phase.script ++ new.map (·.line))
    (hphase' : precedesSchedule v'.phase = false) (hk' : v'.keySched = some k')
    (hdrives : k'.phase.resumed = decide (v.phase = .sentCertificateVerify) →
      drives v'.phase k'.phase = true)
    (hnew : ∀ i, ∀ j < new.length, Carried cfg v' i (v.transcript.events.length + j)) :
    Sound cfg a v' := by
  have hstart : v.phase ≠ .start := by
    rintro heq
    rcases hphase with hp | hp <;> cases heq.symm.trans hp
  have hafter : precedesSchedule v.phase = false := by
    rcases hphase with hp | hp <;> rw [hp] <;> rfl
  obtain ⟨k₀, shared, hk₀, hd, hcarried⟩ := h.keyed hafter
  cases hk.symm.trans hk₀
  obtain ⟨hsched, hinputs, hsuite, hhello, hap, hresumed⟩ :=
    hd.advance (hr.schedule k shared hk hd.exchange) hadv
  have hdriven := hd.phase
  have hstage : k.phase.resumed = decide (v.phase = .sentCertificateVerify) := by
    rcases hphase with hp | hp <;> rw [hp] at hdriven ⊢ <;> simp [drives] at hdriven ⊢
    · exact hdriven.1
    · exact hdriven.1
  have hlen : 2 ≤ v.transcript.events.length := by
    rcases hphase with hp | hp
    · exact Nat.le_of_eq (h.length hp).symm
    · rw [h.length hp]
      decide
  refine h.next hcarried hts hhash hneg hscript hstart hphase' hk' (hd.mono hsched hsuite hhello hts
    hlen hneg (fun hres ↦ ?_) (hdrives (hresumed.trans hstage))) ?_ (hnew _)
  · rw [hresumed] at hres
    have hp : v.phase = .sentCertificateVerify := by simpa [hres] using hstage.symm
    have hsix : 6 ≤ v.transcript.events.length := Nat.le_of_eq (h.length hp).symm
    rw [hap, hd.flight hres, TranscriptState.textUpTo_append hts hsix]
  · rw [hinputs]
    exact ⟨rfl, rfl, rfl⟩

/-! ### The messages of the flight

A signature or a MAC comes back, is put into its message, and the message joins the transcript.
What it has to carry is what the result was said to be. -/

/-- **The signature** is sent. -/
theorem Sound.certificateVerify (h : Sound cfg a v) {sig : Bytes}
    (hr : RightResult cfg a v (.signature sig))
    (hphase : v.phase = .requestedCertificateVerifySignature) {ts : TranscriptState}
    (hts : ts = v.transcript.say .certificateVerify
      (serializeHandshakeOut (v.certificateVerify sig))) :
    Sound cfg a { v with phase := .requestedServerFinishedMac, transcript := ts } := by
  have hevents : ts.events = v.transcript.events ++ [committed .certificateVerify .write
      (serializeHandshakeOut (v.certificateVerify sig))] := by
    rw [hts]
    rfl
  have hfour : v.transcript.events.length = 4 := h.length hphase
  obtain ⟨k, shared, hk, hd, hcarried⟩ := h.keyed (by rw [hphase]; rfl)
  have hdriven := hd.phase
  rw [hphase] at hdriven
  have hpause : k.phase = .handshakeKeysInstalled := beq_iff_eq.mp hdriven
  refine h.next hcarried hevents (by rw [hts]; rfl) rfl (by rw [hphase]; rfl) (by simp [hphase]) rfl
    hk (hd.mono hd.scheduled rfl rfl hevents (by omega) rfl (fun hres ↦ ?_) hdriven) ⟨rfl, rfl, rfl⟩
    fun j hj ↦ ?_
  · rw [hpause] at hres
    cases hres
  · obtain rfl := Nat.lt_one_iff.mp hj
    rw [hfour]
    refine ⟨sig, ?_, ?_⟩
    · have htext := TranscriptState.textUpTo_append hevents (Nat.le_of_eq hfour.symm)
      dsimp only
      rw [htext, TranscriptState.textUpTo_length hfour.symm]
      have halg : (inputs k shared).alg = v.suite.hashAlg := congrArg _ hd.suite
      rw [halg]
      exact hr.signature hphase sig rfl
    · dsimp only
      rw [hevents, List.getElem?_append_right (Nat.le_of_eq hfour), hfour]
      rfl

/-- **The MAC** is sent, and the driver resumes. -/
theorem Sound.serverFinished (h : Sound cfg a v) {mac : Bytes}
    (hr : RightResult cfg a v (.finishedMac mac))
    (hphase : v.phase = .requestedServerFinishedMac) (hk : v.keySched = some k)
    {ts : TranscriptState}
    (hts : ts = v.transcript.say .finished (serializeHandshakeOut (.finished mac)))
    (hres : Core.KeyScheduleDriver.resumeApplication k ts.text = .ok (k', ops)) :
    Sound cfg a { v with
      phase := .sentCertificateVerify, transcript := ts, keySched := some k' } ∧
      ∀ op ∈ ops, k'.request = some op := by
  have hevents : ts.events = v.transcript.events ++ [committed .finished .write
      (serializeHandshakeOut (.finished mac))] := by
    rw [hts]
    rfl
  have hfive : v.transcript.events.length = 5 := h.length hphase
  have hlen : ts.events.length = 6 := by
    rw [hevents, List.length_append, hfive]
    rfl
  obtain ⟨k₀, shared, hk₀, hd, hcarried⟩ := h.keyed (by rw [hphase]; rfl)
  cases hk.symm.trans hk₀
  obtain ⟨hsched, hasks⟩ := hd.scheduled.resume hres
  obtain ⟨hk', hpause⟩ : k' = { k with phase := .awaitDerivedMs, apTranscript := ts.text } ∧
      k.phase = .handshakeKeysInstalled := by
    rw [Core.KeyScheduleDriver.resumeApplication] at hres
    split at hres
    · rename_i hp
      cases hres
      exact ⟨rfl, hp⟩
    · cases hres
  have hsecret : ∀ x ∈ Phase.known.handshakeSecrets,
      (inputs k' shared).secret x = (inputs k shared).secret x := by
    rw [hk']
    exact fun x hx ↦ Crypto.secret_of_handshake (by rfl) (by rfl) (by rfl) hx
  refine ⟨h.next hcarried hevents (by rw [hts]; rfl) rfl (by rw [hphase]; rfl) (by simp [hphase])
    rfl rfl (hd.mono hsched ?_ ?_ hevents (by omega) rfl (fun _ ↦ ?_) ?_) ⟨?_,
      hsecret .sHs (by decide), hsecret .cHs (by decide)⟩ fun j hj ↦ ?_, hasks⟩
  · rw [hk']
  · rw [hk']
  · rw [hk']
    exact (TranscriptState.textUpTo_length hlen.symm).symm
  · rw [hk']
    rfl
  · rw [hk']
    rfl
  · obtain rfl := Nat.lt_one_iff.mp hj
    have htext := TranscriptState.textUpTo_append hevents (Nat.le_of_eq hfive.symm)
    have halg : (inputs k' shared).alg = (inputs k shared).alg := by
      rw [hk']
      rfl
    rw [Nat.add_zero, hfive]
    dsimp only [Carried]
    rw [htext, TranscriptState.textUpTo_length hfive.symm, finishedMac, halg,
      hsecret .sHs (by decide), hevents, List.getElem?_append_right (Nat.le_of_eq hfive), hfive,
      hr.mac hphase k shared mac hk hd.exchange rfl]
    rfl

/-- **The client Finished** is accepted. -/
theorem Sound.verified (h : Sound cfg a v) (hr : RightResult cfg a v .verified)
    (hphase : v.phase = .requestedClientFinishedVerify) :
    Sound cfg a { v with
      phase := .connected
      transcript := v.transcript.appendFramed .finished .read (v.clientFinished.getD []) } := by
  have hsix : v.transcript.events.length = 6 := h.length hphase
  obtain ⟨k, shared, hk, hd, hcarried⟩ := h.keyed (by rw [hphase]; rfl)
  have hdriven := hd.phase
  rw [hphase] at hdriven
  have htext : (v.transcript.appendFramed .finished .read (v.clientFinished.getD [])).textUpTo 6 =
      v.transcript.textUpTo 6 :=
    TranscriptState.textUpTo_append rfl (Nat.le_of_eq hsix.symm)
  refine h.next hcarried (by rfl) rfl rfl (by rw [hphase]; rfl) (by simp [hphase]) rfl hk
    (hd.mono hd.scheduled rfl rfl (by rfl) (by omega) rfl (fun hres ↦ ?_) hdriven) ⟨rfl, rfl, rfl⟩
    fun j hj ↦ ?_
  · exact (hd.flight hres).trans htext.symm
  · obtain rfl := Nat.lt_one_iff.mp hj
    rw [hsix]
    refine ⟨v.clientFinished.getD [], ?_, ?_⟩
    · refine (List.getElem?_append_right (Nat.le_of_eq hsix)).trans ?_
      rw [hsix]
      rfl
    · dsimp only
      rw [htext, TranscriptState.textUpTo_length hsix.symm]
      exact hr.verified hphase k shared hk hd.exchange rfl

/-! ### All edges

What is left is to see which of the lemmas above belongs to which edge. -/

omit [NativeHacl] in
/-- Whoever asks does not rest. -/
theorem rests_of_request {op : CryptoOp} (h : k.request = some op) : k.phase.rests = false := by
  cases hp : k.phase
  case handshakeKeysInstalled | complete =>
    simp [Core.KeyScheduleDriver.State.request, hp] at h
  all_goals rfl

/-- The driver of a handshake that waits for its results. -/
theorem Sound.turn (h : Sound cfg a v)
    (hphase : v.phase = .derivedHandshakeSecrets ∨ v.phase = .sentCertificateVerify)
    (hk : v.keySched = some k) : ∃ shared, Scheduled a k shared ∧ k.phase.rests = false := by
  have hafter : precedesSchedule v.phase = false := by
    rcases hphase with hp | hp <;> rw [hp] <;> rfl
  obtain ⟨k₀, shared, hk₀, hd, -⟩ := h.keyed hafter
  cases hk.symm.trans hk₀
  have hdriven := hd.phase
  refine ⟨shared, hd.scheduled, ?_⟩
  rcases hphase with hp | hp <;> rw [hp] at hdriven <;> simp [drives] at hdriven
  · exact hdriven.2
  · exact hdriven.2

/-- **Every edge** keeps a handshake sound, if it consumes a right result. -/
theorem Sound.edge (hempty : ∀ alg, Core.KeyScheduleDriver.emptyHashFor alg =
      Crypto.KeySchedule.emptyHash alg) (h : Sound cfg a v) {o : Option CryptoResult}
    {reqs : List CryptoOp} (hr : ∀ r, o = some r → RightResult cfg a v r)
    (he : Edge v o v' reqs) : Sound cfg a v' ∧ ∀ req ∈ reqs, Requested v' req := by
  cases he with
  | stay hreqs => exact ⟨h, fun req hreq ↦ .record (hreqs req hreq).1 (hreqs req hreq).2⟩
  | @clientHello _ neg suite wire hphase hsuite =>
    refine ⟨⟨h.ordered, ?_, fun _ ↦ ?_, fun _ ↦ ?_, nofun⟩,
      List.forall_mem_singleton.mpr (.random rfl)⟩
    · dsimp only [TranscriptState.appendFramed]
      rw [List.map_append, h.script, hphase]
      rfl
    · dsimp only
      rw [View.suite]
      dsimp only
      rw [hsuite]
      rfl
    · exact h.before (by rw [hphase]; rfl)
  | serverRandom hphase =>
    refine ⟨⟨h.ordered, ?_, fun _ ↦ ?_, fun _ ↦ ?_, nofun⟩,
      List.forall_mem_singleton.mpr (.exchange rfl)⟩
    · exact h.script.trans (by rw [hphase]; rfl)
    · exact h.hash (by simp [hphase])
    · exact h.before (by rw [hphase]; rfl)
  | ecdhe hphase hts htext hstart =>
    rw [htext] at hstart
    refine ⟨h.ecdhe hempty (hr _ rfl) hphase hts hstart, List.forall_mem_singleton.mpr ?_⟩
    rw [hstart]
    exact .schedule rfl (.inl rfl) rfl
  | @pump r k k' op ops hphase hk hadv =>
    obtain ⟨shared, hsched, -⟩ := h.turn hphase hk
    have hreq := Core.KeyScheduleDriver.advance_request hadv hsched.collected op
      List.mem_cons_self
    refine ⟨h.advance (hr r rfl) hphase hk hadv (List.append_nil _).symm rfl rfl
      (List.append_nil _).symm ?_ rfl (fun hres ↦ ?_) nofun,
      List.forall_mem_singleton.mpr (.schedule rfl hphase hreq)⟩
    · rcases hphase with hp | hp <;> rw [hp] <;> rfl
    · have hrests := rests_of_request hreq
      rcases hphase with hp | hp <;> simp [hp, drives, hres, hrests]
  | @rest r k k' hphase hk hadv hend =>
    refine ⟨h.advance (hr r rfl) hphase hk hadv (List.append_nil _).symm rfl rfl
      (List.append_nil _).symm ?_ rfl (fun hres ↦ ?_) nofun, List.forall_mem_nil _⟩
    · rcases hphase with hp | hp <;> rw [hp] <;> rfl
    · have hrests : k'.phase.rests = false := by
        rcases hphase with hp | hp <;> cases hp' : k'.phase <;> simp [hp, hp'] at hend hres <;>
          first | rfl | simp [Phase.resumed] at hres
      rcases hphase with hp | hp <;> simp [hp, drives, hres, hrests]
  | @serverFlight r k k' ts text hphase hk hadv hend hts htext =>
    have hevents : ts.events = v.transcript.events ++
        [committed .encryptedExtensions .write (serializeHandshakeOut v.encryptedExtensions),
          committed .certificate .write
            (Core.serializeServerCertificate v.negotiated.selectedCertDer)] := by
      rw [hts]
      exact List.append_assoc _ _ _
    refine ⟨h.advance (hr r rfl) (.inl hphase) hk hadv hevents (by rw [hts]; rfl) rfl
      (by rw [hphase]; rfl) rfl rfl (fun _ ↦ ?_) fun i j hj ↦ ?_,
      List.forall_mem_singleton.mpr ?_⟩
    · rw [hend]
      rfl
    · have htwo : v.transcript.events.length = 2 := h.length hphase
      rw [htwo]
      have hsecond : ∀ n, ts.events[2 + n]? = [committed .encryptedExtensions .write
          (serializeHandshakeOut v.encryptedExtensions), committed .certificate .write
            (Core.serializeServerCertificate v.negotiated.selectedCertDer)][n]? := by
        intro n
        rw [hevents, List.getElem?_append_right (by omega), htwo, Nat.add_sub_cancel_left]
      match j with
      | 0 => exact hsecond 0
      | 1 => exact hsecond 1
    · rw [htext]
      exact .signature rfl
  | certificateVerify hphase hts htext =>
    refine ⟨h.certificateVerify (hr _ rfl) hphase hts, List.forall_mem_singleton.mpr ?_⟩
    rw [htext]
    exact .mac rfl
  | serverFinished hphase hk hts htext hres =>
    rw [htext] at hres
    obtain ⟨hsound, hasks⟩ := h.serverFinished (hr _ rfl) hphase hk hts hres
    exact ⟨hsound, List.forall_mem_singleton.mpr
      (.schedule rfl (.inr rfl) (hasks _ List.mem_cons_self))⟩
  | @applicationKeys r k k' hphase hk hadv hend =>
    refine ⟨h.advance (hr r rfl) (.inr hphase) hk hadv (List.append_nil _).symm rfl rfl
      (by rw [hphase]; rfl) rfl rfl (fun _ ↦ ?_) nofun, List.forall_mem_nil _⟩
    rw [hend]
    rfl
  | @clientFinished _ wire text hphase htext =>
    obtain ⟨k, shared, hk, hd, hcarried⟩ := h.keyed (by rw [hphase]; rfl)
    have hdriven := hd.phase
    rw [hphase] at hdriven
    refine ⟨h.next hcarried (List.append_nil _).symm rfl rfl (by rw [hphase]; rfl)
      (by simp [hphase]) rfl hk
      (hd.mono hd.scheduled rfl rfl (List.append_nil _).symm ?_ rfl hd.flight hdriven)
      ⟨rfl, rfl, rfl⟩ nofun, List.forall_mem_singleton.mpr ?_⟩
    · rw [h.length hphase]
      decide
    · rw [htext]
      exact .verify rfl
  | verified hphase => exact ⟨h.verified (hr _ rfl) hphase, List.forall_mem_nil _⟩

/-! ## The provider answers

Again one lemma for each kind of request.  The arena may have grown since the request was made, but
nothing in it has changed, so the request is answered as if it had been made at once. -/

open Kroopt.Crypto.RealProvider (submit)

variable {id : OperationId} {op : CryptoOp}

/-- The live provider is the real one but for the random value. -/
theorem submit_live (h : op.kind ≠ .randomBytes) :
    (liveProvider cfg random).submit a id op = submit cfg a id op := by
  cases op <;> first | rfl | exact absurd rfl h

/-- The arena may grow while a handshake waits. -/
theorem Sound.mono (h : Sound cfg a v) (hg : Grows op a a')
    (hop : ∀ suite dir epoch hd, op ≠ .installTrafficKeys suite dir epoch hd) :
    Sound cfg a' v := by
  refine ⟨hg.ordered, h.script, h.hash, h.before, fun hp ↦ ?_⟩
  obtain ⟨k, shared, hk, hd, hcarried⟩ := h.keyed hp
  refine ⟨k, shared, hk, ⟨hd.exchange, ?_, hd.suite, hd.hello, hd.flight, hd.phase⟩, hcarried⟩
  exact hd.scheduled.mono hg.ordered hg.extended fun slot _ ↦
    hg.slots slot.dir slot.epoch fun suite x ↦ hop suite slot.dir slot.epoch x

/-- The handshake slots are installed once the handshake keys are. -/
theorem Sound.installed (h : Sound cfg a v) (slot : Slot)
    (hslot : slot ∈ Phase.installed.handshakeSlots) (hk : v.keySched = some k)
    (hexchange : exchanged cfg v = some shared)
    (hphase : v.phase = .requestedCertificateVerifySignature ∨
      v.phase = .requestedServerFinishedMac ∨ v.phase = .requestedClientFinishedVerify) :
    Installed a (inputs k shared) slot ∧ k.suite = v.suite := by
  obtain ⟨k₀, shared₀, hk₀, hd, -⟩ := h.keyed (by
    rcases hphase with hp | hp | hp <;> rw [hp] <;> rfl)
  cases hk.symm.trans hk₀
  cases hexchange.symm.trans hd.exchange
  have hdriven := hd.phase
  refine ⟨hd.scheduled.slots slot ?_, hd.suite⟩
  rcases hphase with hp | hp | hp <;> rw [hp] at hdriven <;> rw [beq_iff_eq.mp hdriven]
  · exact hslot
  · exact hslot
  · exact List.mem_append_left _ hslot

/-- A result that the handshake does not wait for cannot be wrong. -/
theorem RightResult.of_idle (hx : v.phase ≠ .requestedEcdhe) (hk : ∀ k shared,
    v.keySched = some k → exchanged cfg v = some shared → RightAnswer a k shared r)
    (hsig : v.phase ≠ .requestedCertificateVerifySignature)
    (hmac : v.phase ≠ .requestedServerFinishedMac)
    (hver : v.phase ≠ .requestedClientFinishedVerify) : RightResult cfg a v r :=
  ⟨fun hp ↦ absurd hp hx, hk, fun hp ↦ absurd hp hsig, fun hp ↦ absurd hp hmac,
    fun hp ↦ absurd hp hver⟩

theorem rightAnswer_of_other (hs : ∀ hd, r ≠ .hkdfSecret hd) (hi : r ≠ .keysInstalled) :
    RightAnswer a k shared r :=
  ⟨fun _ hd _ hr ↦ absurd hr (hs hd), fun _ _ hr ↦ absurd hr hi⟩

/-! ### One request after the other

The key exchange and the signature are computed from what was negotiated, the MACs from the key of
the direction, and everything else is a request of the driver or of the record layer. -/

/-- **The key exchange** is answered. -/
theorem Sound.answer_exchange (h : Sound cfg a v) (hphase : v.phase = .requestedEcdhe)
    (hok : submit cfg a id v.exchange = .ok (a', r)) :
    Sound cfg a' v ∧ RightResult cfg a' v r := by
  obtain ⟨e, hanswer⟩ : ∃ e, submit cfg a id v.exchange = (exchanged cfg v).elim (.error e)
      fun b ↦ Crypto.stored a b (.ecdheComplete (ownShare cfg v)) := by
    rw [View.exchange, exchanged, ownShare]
    rcases v.negotiated.selectedGroup with - | - | -
    · exact ⟨_, Crypto.submit_ecdheX25519⟩
    · exact ⟨_, Crypto.submit_ecdheX25519⟩
    · exact ⟨_, Crypto.submit_ecdheP256⟩
  obtain ⟨shared, hx, hstored⟩ := Crypto.elim_eq_ok (hanswer.symm.trans hok)
  have hg : Grows (.randomBytes 0) a a' := .stored h.ordered hstored
  obtain ⟨rfl, rfl⟩ := Crypto.stored_eq_ok hstored
  refine ⟨h.mono hg nofun, fun _ share hd heq ↦ ?_, fun k shared' _ _ ↦ ?_, fun hp ↦ ?_,
    fun hp ↦ ?_, fun hp ↦ ?_⟩
  · cases heq
    exact ⟨rfl, shared, hx, SecretArena.get_push⟩
  · exact rightAnswer_of_other nofun nofun
  all_goals cases hphase.symm.trans hp

/-- **The signature** is made over the messages so far. -/
theorem Sound.answer_signature (h : Sound cfg a v)
    (hphase : v.phase = .requestedCertificateVerifySignature)
    (hok : submit cfg a id (resolved a (.signCertificateVerify v.scheme v.transcript.text)) =
      .ok (a', r)) : Sound cfg a' v ∧ RightResult cfg a' v r := by
  obtain ⟨k, shared, hk, hd, -⟩ := h.keyed (by rw [hphase]; rfl)
  obtain ⟨hslot, hsuite⟩ := h.installed ⟨.write, .handshake, .sHs⟩ (by decide) hk
    hd.exchange (.inl hphase)
  have hresolved : resolved a (.signCertificateVerify v.scheme v.transcript.text) =
      .signCertificateVerify v.scheme
        (certVerifyContent (hashOf v.suite.hashAlg v.transcript.text)) := by
    have hinstalled : a.lookupInstalledSuite .write .handshake = some v.suite := by
      rw [hslot.suite, ← hsuite]
      rfl
    rw [resolved, resolveCryptoTranscript, hinstalled]
    rfl
  rw [hresolved] at hok
  have hg := h.ordered.submit hok
  refine ⟨h.mono hg (by simp), fun hp ↦ ?_, fun k' shared' _ _ ↦ ?_, fun _ sig heq ↦ ?_,
    fun hp ↦ ?_, fun hp ↦ ?_⟩
  · cases hphase.symm.trans hp
  · obtain ⟨sig, rfl⟩ := Crypto.result_of_sign hok
    exact rightAnswer_of_other (by simp) (by simp)
  · generalize certVerifyContent (hashOf v.suite.hashAlg v.transcript.text) = content at hok ⊢
    cases hs : v.scheme with
    | ed25519 =>
      rw [hs, Crypto.submit_ed25519] at hok
      obtain ⟨-, rfl⟩ := Prod.mk.inj (Except.ok.inj hok)
      exact congrArg some (CryptoResult.signature.inj heq)
    | ecdsaSecp256r1Sha256 =>
      rw [hs, Crypto.submit_ecdsa] at hok
      obtain ⟨sig', hsig, hanswer⟩ := Crypto.elim_eq_ok hok
      obtain ⟨-, rfl⟩ := Prod.mk.inj (Except.ok.inj hanswer)
      cases heq
      exact hsig
    | rsaPssRsaeSha256 =>
      rw [hs, Crypto.submit_rsapss] at hok
      split at hok
      · cases hok
      · obtain ⟨sig', hsig, hanswer⟩ := Crypto.elim_eq_ok hok
        obtain ⟨-, rfl⟩ := Prod.mk.inj (Except.ok.inj hanswer)
        cases heq
        exact hsig
  · cases hphase.symm.trans hp
  · cases hphase.symm.trans hp

/-- The Finished of a direction, once the handshake keys are installed. -/
theorem Sound.finished (h : Sound cfg a v) (dir : Core.Direction) (x : Secret)
    (hslot : ⟨dir, .handshake, x⟩ ∈ Phase.installed.handshakeSlots) (hk : v.keySched = some k)
    (hexchange : exchanged cfg v = some shared)
    (hphase : v.phase = .requestedServerFinishedMac ∨ v.phase = .requestedClientFinishedVerify) :
    ∃ key, Crypto.finished a dir v.transcript.hashAlg
      (hashOf v.transcript.hashAlg v.transcript.text) =
        some (key, finishedMac (inputs k shared) x v.transcript.text) := by
  obtain ⟨hinstalled, hsuite⟩ := h.installed _ hslot hk hexchange (.inr hphase)
  have halg : v.transcript.hashAlg = (inputs k shared).alg := by
    rw [h.hash (by rcases hphase with hp | hp <;> simp [hp]), ← hsuite]
    rfl
  rw [Crypto.finished, hinstalled.base, halg]
  exact ⟨_, rfl⟩

/-- **The MAC of the server** is computed over the messages so far. -/
theorem Sound.answer_mac (h : Sound cfg a v) (hphase : v.phase = .requestedServerFinishedMac)
    (hok : submit cfg a id (resolved a
      (.computeServerFinished v.transcript.hashAlg v.transcript.text)) = .ok (a', r)) :
    Sound cfg a' v ∧ RightResult cfg a' v r := by
  obtain ⟨k, shared, hk, hd, -⟩ := h.keyed (by rw [hphase]; rfl)
  have hresolved : resolved a (.computeServerFinished v.transcript.hashAlg v.transcript.text) =
      .computeServerFinished v.transcript.hashAlg
        (hashOf v.transcript.hashAlg v.transcript.text) := rfl
  rw [hresolved] at hok
  have hg := h.ordered.submit hok
  obtain ⟨key, hfinished⟩ := h.finished .write .sHs (by decide) hk hd.exchange
    (.inl hphase)
  rw [Crypto.submit_computeServerFinished, hfinished] at hok
  obtain ⟨-, rfl⟩ := Prod.mk.inj (Except.ok.inj hok)
  refine ⟨h.mono hg nofun, fun hp ↦ ?_, fun k' shared' _ _ ↦ rightAnswer_of_other nofun nofun,
    fun hp ↦ ?_, fun _ k' shared' mac hk' hexchange heq ↦ ?_, fun hp ↦ ?_⟩
  · cases hphase.symm.trans hp
  · cases hphase.symm.trans hp
  · cases hk.symm.trans hk'
    cases hd.exchange.symm.trans hexchange
    exact (CryptoResult.finishedMac.inj heq).symm
  · cases hphase.symm.trans hp

/-- **The MAC of the client** is compared with the one over the messages so far. -/
theorem Sound.answer_verify (h : Sound cfg a v)
    (hphase : v.phase = .requestedClientFinishedVerify)
    (hok : submit cfg a id (resolved a (.verifyFinished v.transcript.hashAlg v.transcript.text
      (v.clientFinished.getD []))) = .ok (a', r)) :
    Sound cfg a' v ∧ RightResult cfg a' v r := by
  obtain ⟨k, shared, hk, hd, -⟩ := h.keyed (by rw [hphase]; rfl)
  have hresolved : resolved a (.verifyFinished v.transcript.hashAlg v.transcript.text
      (v.clientFinished.getD [])) = .verifyFinished v.transcript.hashAlg
        (hashOf v.transcript.hashAlg v.transcript.text) (v.clientFinished.getD []) := rfl
  rw [hresolved] at hok
  have hg := h.ordered.submit hok
  obtain ⟨key, hfinished⟩ := h.finished .read .cHs (by decide) hk hd.exchange
    (.inr hphase)
  rw [Crypto.submit_verifyFinished, hfinished] at hok
  obtain ⟨-, hr⟩ := Prod.mk.inj (Except.ok.inj hok)
  refine ⟨h.mono hg nofun, fun hp ↦ ?_, fun k' shared' _ _ ↦ ?_, fun hp ↦ ?_, fun hp ↦ ?_,
    fun _ k' shared' hk' hexchange heq ↦ ?_⟩
  · cases hphase.symm.trans hp
  · rw [← hr]
    split
    · exact rightAnswer_of_other nofun nofun
    · exact rightAnswer_of_other nofun nofun
  · cases hphase.symm.trans hp
  · cases hphase.symm.trans hp
  · cases hk.symm.trans hk'
    cases hd.exchange.symm.trans hexchange
    rw [heq] at hr
    by_contra hne
    rw [if_neg hne] at hr
    cases hr

/-- **The driver's request** is answered. -/
theorem Sound.answer_schedule (h : Sound cfg a v) (hk : v.keySched = some k)
    (hphase : v.phase = .derivedHandshakeSecrets ∨ v.phase = .sentCertificateVerify)
    (hreq : k.request = some op) (hok : submit cfg a id (resolved a op) = .ok (a', r)) :
    Sound cfg a' v ∧ RightResult cfg a' v r := by
  have hafter : precedesSchedule v.phase = false := by
    rcases hphase with hp | hp <;> rw [hp] <;> rfl
  obtain ⟨k₀, shared, hk₀, hd, hcarried⟩ := h.keyed hafter
  cases hk.symm.trans hk₀
  obtain ⟨hsched, hright⟩ := hd.scheduled.answer hreq hok
  have hd' : Driven cfg a' v k shared :=
    ⟨hd.exchange, hsched, hd.suite, hd.hello, hd.flight, hd.phase⟩
  refine ⟨⟨hsched.ordered, h.script, h.hash, h.before, fun _ ↦ ⟨k, shared, hk, hd', hcarried⟩⟩,
    .of_idle ?_ ?_ ?_ ?_ ?_⟩
  · rcases hphase with hp | hp <;> simp [hp]
  · intro k' shared' hk' hexchange
    cases hk.symm.trans hk'
    cases hd.exchange.symm.trans hexchange
    exact hright
  all_goals rcases hphase with hp | hp <;> simp [hp]

/-- A record is sealed or opened. -/
theorem Sound.answer_record (h : Sound cfg a v)
    (hphase : v.phase = .connected ∨ v.phase = .sentServerFinished)
    (hop : op.kind = .aeadSeal ∨ op.kind = .aeadOpen)
    (hok : submit cfg a id (resolved a op) = .ok (a', r)) :
    Sound cfg a' v ∧ RightResult cfg a' v r := by
  have hg := h.ordered.submit hok
  have hkind := (Crypto.submit_answers hok).1
  rw [Crypto.kind_resolved] at hkind
  refine ⟨h.mono hg fun suite dir epoch hd heq ↦ ?_, .of_idle ?_ ?_ ?_ ?_ ?_⟩
  · rw [← Crypto.kind_resolved (a := a), heq] at hop
    rcases hop with hop | hop <;> cases hop
  · rcases hphase with hp | hp <;> simp [hp]
  · refine fun k' shared' _ _ ↦ rightAnswer_of_other (fun hd heq ↦ ?_) fun heq ↦ ?_
    all_goals
      rw [heq] at hkind
      rcases hop with hop | hop <;> rw [hop] at hkind <;> cases hkind
  all_goals rcases hphase with hp | hp <;> simp [hp]

omit [NativeHacl] in
/-- Only the first operation of a handshake asks for random bytes. -/
theorem kind_ne_randomBytes {op : CryptoOp} (hreq : k.request = some op) :
    op.kind ≠ .randomBytes := by
  cases hp : k.phase <;> simp [Core.KeyScheduleDriver.State.request, hp] at hreq
  case awaitEarly => simp [← hreq, CryptoOp.kind]
  all_goals
    obtain ⟨x, -, rfl⟩ := hreq
    simp [CryptoOp.kind, Core.KeyScheduleDriver.expand]

/-- **Every request** of a sound handshake gets a right result. -/
theorem Sound.answer (h : Sound cfg a v) (hreq : Requested v op)
    (hok : (liveProvider cfg random).submit a id (resolved a op) = .ok (a', r)) :
    Sound cfg a' v ∧ RightResult cfg a' v r := by
  have hreal : op.kind ≠ .randomBytes → submit cfg a id (resolved a op) = .ok (a', r) :=
    fun hne ↦ (submit_live (by rwa [Crypto.kind_resolved])).symm.trans hok
  cases hreq with
  | random hphase =>
    obtain ⟨rfl, rfl⟩ := Prod.mk.inj (Except.ok.inj hok)
    exact ⟨h, .of_idle (by simp [hphase]) (fun _ _ _ _ ↦ rightAnswer_of_other nofun nofun)
      (by simp [hphase]) (by simp [hphase]) (by simp [hphase])⟩
  | exchange hphase =>
    have hkind : v.exchange.kind ≠ .randomBytes := by
      rw [View.exchange]
      split <;> simp [CryptoOp.kind]
    have hresolved : resolved a v.exchange = v.exchange := by
      rw [View.exchange]
      split <;> rfl
    have hok := hreal hkind
    rw [hresolved] at hok
    exact h.answer_exchange hphase hok
  | schedule hk hphase hreq =>
    exact h.answer_schedule hk hphase hreq (hreal (kind_ne_randomBytes hreq))
  | signature hphase => exact h.answer_signature hphase (hreal (by simp [CryptoOp.kind]))
  | mac hphase => exact h.answer_mac hphase (hreal (by simp [CryptoOp.kind]))
  | verify hphase => exact h.answer_verify hphase (hreal (by simp [CryptoOp.kind]))
  | record hphase hop =>
    refine h.answer_record hphase hop (hreal ?_)
    rcases hop with hop | hop <;> rw [hop] <;> simp

end Kroopt.Conn
