import Kroopt.Library.Preference
import Kroopt.Properties.InboundStream
import Kroopt.Properties.Operations

/-!
# What is negotiated

The server takes one ClientHello and one configuration and settles on a suite, a group, a signature
scheme, a protocol and a certificate.  The code does so by four searches, each through one list in
the order of another.  What comes out is a matter of preference and overlap: the first of one side's
entries that the other side accepts.  `Preferred` of `Library/Preference` says this once, and here
it is instantiated for every choice.

The choices are made in one transition, and everything the server says afterwards repeats them.  The
ServerHello carries the suite, the group and the session id of the client, EncryptedExtensions the
protocol, Certificate the chain of the endpoint, CertificateVerify the scheme.  Each of these
messages is built in a transition of its own, some of them after many results of the provider.  That
they all say the same is an invariant: the negotiated parameters do not change once they are there,
and a message is `Announced` if it says what they are (`Settles`).

## Main definitions

* `SignsWith`, `ExchangesWith`, `Speaks`: the scheme, the group and the protocol that two parties
  have in common and prefer.
* `Agreed` and `Negotiated cfg hello n`: what `n` has to do with the two; nothing in it is about the
  order in which the code looks for things.
* `State.CanGreet` and `State.admitsHello`: when a state can go on with a ClientHello, and with the
  bytes of one.
* `Announced n e`: a message of the server tells the client what was negotiated.

## Main results

* `selectGroup_eq_some_iff` and `alpnOutcome_iff`: the searches.
* `onClientHello_negotiates`: a ClientHello is accepted exactly if there is something to agree on
  and there is room, and what is agreed on is then what the state holds.
* `greets_iff`: when the first message of a connection is accepted.
* `negotiation_of_run`: along every run the parameters are those of the ClientHello of the
  transcript, and every message announces them.
-/

set_option autoImplicit false

namespace Kroopt.Core

open Kroopt.Parse (parseClientHello)

/-! ## The three choices

A choice may also fail, and then the connection does.  For the protocol there are two ways to have
none: both sides may have nothing to say about it, or the configuration may do without. -/

/-- A scheme that the endpoint configures and the client offers, the first one of the endpoint. -/
def SignsWith (ep : EndpointConfig) (hello : ValidClientHello) (scheme : SignatureScheme) : Prop :=
  Preferred (· ∈ hello.offeredSigSchemes) ep.signatureSchemes scheme

/-- A group that the endpoint allows and the client has sent a share for, the first one in the order
of the server, with the first such share. -/
structure ExchangesWith (ep : EndpointConfig) (hello : ValidClientHello) (group : NamedGroup)
    (share : Bytes) : Prop where
  preferred : Preferred (fun g ↦ g ∈ ep.namedGroups ∧ g ∈ hello.offeredShares.map Prod.fst)
    groupPreference group
  first : Preferred (fun p ↦ p.1 = group) hello.offeredShares (group, share)

/-- A protocol that both sides have, the first one of the side whose order wins; none if the client
offers none, or if there is none in common and the configuration lets that pass. -/
def Speaks (cfg : ValidatedServerConfig) (ep : EndpointConfig) (hello : ValidClientHello) :
    Option AlpnProtocol → Prop
  | some p => ∃ offered, hello.alpn = some offered ∧
    match cfg.alpnMode.preference with
    | .server => Preferred (·.bytes ∈ offered) ep.allowedAlpn p
    | .client => Preferred (· ∈ ep.allowedAlpn) (offered.map AlpnProtocol.mk) p
  | none => ∀ offered, hello.alpn = some offered →
    cfg.alpnMode.noOverlapPolicy = .proceedWithoutProtocol ∧
      ∀ p ∈ ep.allowedAlpn, p.bytes ∉ offered

/-- What the client and the endpoint agree on. -/
structure Agreed (cfg : ValidatedServerConfig) (ep : EndpointConfig) (hello : ValidClientHello)
    (n : NegotiationState) : Prop where
  cert : n.selectedCert = some ep.chain ∧ n.selectedCertDer = ep.der
  scheme : ∃ scheme, n.selectedSigScheme = some scheme ∧ SignsWith ep hello scheme
  group : ∃ group share, n.selectedGroup = some group ∧ n.clientShare = some share ∧
    ExchangesWith ep hello group share
  alpn : Speaks cfg ep hello n.selectedAlpn

/-- **What is negotiated** between a configuration and a ClientHello. -/
structure Negotiated (cfg : ValidatedServerConfig) (hello : ValidClientHello)
    (n : NegotiationState) : Prop where
  suite : n.selectedSuite = some hello.selectedSuite
  name : n.selectedSni = hello.sni
  session : n.clientSessionId = hello.sessionId
  endpoint : ∃ ep, selectEndpoint cfg hello.sni = some ep ∧ Agreed cfg ep hello n

theorem find?_offered {schemes offered : List SignatureScheme} {scheme : SignatureScheme} :
    schemes.find? (fun sc ↦ offered.contains sc) = some scheme ↔
      Preferred (· ∈ offered) schemes scheme := by
  rw [find?_eq_some_iff_preferred]
  simp

/-- Without a choice there is nothing acceptable. -/
theorem not_signsWith {ep : EndpointConfig} {hello : ValidClientHello}
    (h : ep.signatureSchemes.find? (fun sc ↦ hello.offeredSigSchemes.contains sc) = none)
    (scheme : SignatureScheme) : ¬ SignsWith ep hello scheme := by
  intro hs
  rw [find?_offered.mpr hs] at h
  exact absurd h (by simp)

theorem shareFor?_eq_some_iff {g : NamedGroup} {offered : List (NamedGroup × Bytes)}
    {share : Bytes} :
    shareFor? g offered = some share ↔ Preferred (·.1 = g) offered (g, share) := by
  rw [shareFor?, Option.map_eq_some_iff]
  constructor
  · rintro ⟨p, hp, rfl⟩
    have hpref := find?_eq_some_iff_preferred.mp hp
    simp only [decide_eq_true_eq] at hpref
    have hg := hpref.1
    subst hg
    exact hpref
  · intro h
    refine ⟨(g, share), find?_eq_some_iff_preferred.mpr ?_, rfl⟩
    simpa only [decide_eq_true_eq] using h

theorem shareFor?_eq_none_iff {g : NamedGroup} {offered : List (NamedGroup × Bytes)} :
    shareFor? g offered = none ↔ g ∉ offered.map Prod.fst := by
  rw [shareFor?, Option.map_eq_none_iff, List.find?_eq_none, List.mem_map]
  constructor
  · rintro h ⟨p, hp, rfl⟩
    exact h p hp (by simp)
  · intro h p hp hpg
    exact h ⟨p, hp, by simpa using hpg⟩

/-- What a group comes to, if it is allowed and offered. -/
def groupOffer (offered : List (NamedGroup × Bytes)) (allowed : List NamedGroup) (g : NamedGroup) :
    Option (NamedGroup × Bytes) :=
  if g ∈ allowed then
    match shareFor? g offered with
    | some sh => some (g, sh)
    | none => none
  else none

theorem selectGroup_eq (offered : List (NamedGroup × Bytes)) (allowed : List NamedGroup) :
    selectGroup offered allowed = groupPreference.findSome? (groupOffer offered allowed) := rfl

theorem groupOffer_eq_none_iff {offered : List (NamedGroup × Bytes)} {allowed : List NamedGroup}
    {g : NamedGroup} :
    groupOffer offered allowed g = none ↔ ¬ (g ∈ allowed ∧ g ∈ offered.map Prod.fst) := by
  rw [groupOffer]
  by_cases hg : g ∈ allowed
  · rw [if_pos hg]
    cases hshare : shareFor? g offered with
    | none => simp [hg, shareFor?_eq_none_iff.mp hshare]
    | some sh =>
      have hmem := (not_congr shareFor?_eq_none_iff).mp (by rw [hshare]; simp)
      simp [hg, not_not.mp hmem]
  · rw [if_neg hg]
    simp [hg]

theorem groupOffer_eq_some_iff {offered : List (NamedGroup × Bytes)} {allowed : List NamedGroup}
    {g g' : NamedGroup} {share : Bytes} :
    groupOffer offered allowed g' = some (g, share) ↔
      g' = g ∧ g ∈ allowed ∧ shareFor? g offered = some share := by
  rw [groupOffer]
  by_cases hg : g' ∈ allowed
  · rw [if_pos hg]
    cases hshare : shareFor? g' offered with
    | none =>
      refine iff_of_false (by simp) ?_
      rintro ⟨rfl, -, h⟩
      exact absurd (hshare.symm.trans h) (by simp)
    | some sh =>
      constructor
      · intro h
        obtain ⟨rfl, rfl⟩ := Prod.mk.inj (Option.some.inj h)
        exact ⟨rfl, hg, hshare⟩
      · rintro ⟨rfl, -, h⟩
        rw [Option.some.inj (hshare.symm.trans h)]
  · rw [if_neg hg]
    refine iff_of_false (by simp) ?_
    rintro ⟨rfl, h, -⟩
    exact hg h

theorem selectGroup_eq_some_iff {ep : EndpointConfig} {hello : ValidClientHello}
    {g : NamedGroup} {share : Bytes} :
    selectGroup hello.offeredShares ep.namedGroups = some (g, share) ↔
      ExchangesWith ep hello g share := by
  rw [selectGroup_eq, List.findSome?_eq_some_iff]
  constructor
  · rintro ⟨before, g', after, hpref, hg, hbefore⟩
    obtain ⟨rfl, hallowed, hshare⟩ := groupOffer_eq_some_iff.mp hg
    have hfirst := shareFor?_eq_some_iff.mp hshare
    have hoffered : g' ∈ hello.offeredShares.map Prod.fst := List.mem_map.mpr ⟨_, hfirst.mem, rfl⟩
    exact ⟨⟨⟨hallowed, hoffered⟩, before, after, hpref,
      fun b hb ↦ groupOffer_eq_none_iff.mp (hbefore b hb)⟩, hfirst⟩
  · rintro ⟨⟨⟨hallowed, -⟩, before, after, hpref, hbefore⟩, hfirst⟩
    exact ⟨before, g, after, hpref,
      groupOffer_eq_some_iff.mpr ⟨rfl, hallowed, shareFor?_eq_some_iff.mpr hfirst⟩,
      fun b hb ↦ groupOffer_eq_none_iff.mpr (hbefore b hb)⟩

theorem alpnMem_iff {x : AlpnProtocol} {xs : List AlpnProtocol} :
    alpnMem x xs = true ↔ x ∈ xs := by
  rw [alpnMem, List.any_eq_true]
  constructor
  · rintro ⟨y, hy, heq⟩
    rw [AlpnProtocol.eq, beq_iff_eq] at heq
    have hyx : y = x := congrArg AlpnProtocol.mk heq
    rwa [← hyx]
  · intro hx
    exact ⟨x, hx, by rw [AlpnProtocol.eq, beq_iff_eq]⟩

theorem mem_map_alpn {x : AlpnProtocol} {offered : List Bytes} :
    x ∈ offered.map AlpnProtocol.mk ↔ x.bytes ∈ offered := by
  rw [List.mem_map]
  constructor
  · rintro ⟨b, hb, rfl⟩
    exact hb
  · intro hx
    exact ⟨x.bytes, hx, rfl⟩

/-- The identifier that both sides have, in the order of the one that wins. -/
def alpnPick (preference : AlpnPreference) (offered : List Bytes) (allowed : List AlpnProtocol) :
    Option AlpnProtocol :=
  match preference with
  | .client => (offered.map AlpnProtocol.mk).find? fun a ↦ alpnMem a allowed
  | .server => allowed.find? fun a ↦ alpnMem a (offered.map AlpnProtocol.mk)

theorem negotiateAlpn_some (preference : AlpnPreference) (offered : List Bytes)
    (allowed : List AlpnProtocol) :
    negotiateAlpn preference (some (offered.map AlpnProtocol.mk)) allowed =
      match alpnPick preference offered allowed with
      | some p => .selected p
      | none => .noOverlap := by
  cases preference <;> rfl

theorem alpnPick_eq_some_iff {preference : AlpnPreference} {offered : List Bytes}
    {allowed : List AlpnProtocol} {p : AlpnProtocol} :
    alpnPick preference offered allowed = some p ↔
      match preference with
      | .server => Preferred (·.bytes ∈ offered) allowed p
      | .client => Preferred (· ∈ allowed) (offered.map AlpnProtocol.mk) p := by
  cases preference with
  | server => simp only [alpnPick, find?_eq_some_iff_preferred, alpnMem_iff, mem_map_alpn]
  | client => simp only [alpnPick, find?_eq_some_iff_preferred, alpnMem_iff]

theorem alpnPick_eq_none_iff {preference : AlpnPreference} {offered : List Bytes}
    {allowed : List AlpnProtocol} :
    alpnPick preference offered allowed = none ↔ ∀ p ∈ allowed, p.bytes ∉ offered := by
  cases preference with
  | server => simp only [alpnPick, List.find?_eq_none, alpnMem_iff, mem_map_alpn]
  | client =>
    simp only [alpnPick, List.find?_eq_none, alpnMem_iff, mem_map_alpn]
    exact forall_congr' fun p ↦ imp_not_comm

/-- What the configuration makes of a decision: the protocol that goes into the state, or a failure.
-/
def alpnOutcome (mode : AlpnSelectionMode) : AlpnDecision → Option (Option AlpnProtocol)
  | .selected p => some (some p)
  | .notOffered => some none
  | .noOverlap => match mode.noOverlapPolicy with
    | .fatal => none
    | .proceedWithoutProtocol => some none

/-- **The protocol** that the decision comes to is the one that is spoken. -/
theorem alpnOutcome_iff {cfg : ValidatedServerConfig} {ep : EndpointConfig}
    {hello : ValidClientHello} {p : Option AlpnProtocol} :
    alpnOutcome cfg.alpnMode (negotiateAlpn cfg.alpnMode.preference
      (hello.alpn.map (·.map AlpnProtocol.mk)) ep.allowedAlpn) = some p ↔
      Speaks cfg ep hello p := by
  cases hoffer : hello.alpn with
  | none =>
    show some none = some p ↔ _
    cases p <;> simp [Speaks, hoffer]
  | some offered =>
    rw [Option.map_some, negotiateAlpn_some]
    cases hpick : alpnPick cfg.alpnMode.preference offered ep.allowedAlpn with
    | some q =>
      show some (some q) = some p ↔ _
      have hq := alpnPick_eq_some_iff.mp hpick
      cases p with
      | none =>
        refine iff_of_false (by simp) fun h ↦ ?_
        rw [alpnPick_eq_none_iff.mpr (h offered hoffer).2] at hpick
        exact absurd hpick (by simp)
      | some p =>
        rw [Option.some_inj, Option.some_inj]
        constructor
        · rintro rfl
          exact ⟨offered, hoffer, hq⟩
        · rintro ⟨offered', hoffer', hp⟩
          rw [← Option.some.inj (hoffer.symm.trans hoffer')] at hp
          exact Option.some.inj (hpick.symm.trans (alpnPick_eq_some_iff.mpr hp))
    | none =>
      have hnone := alpnPick_eq_none_iff.mp hpick
      cases p with
      | some p =>
        refine iff_of_false ?_ ?_
        · dsimp only [alpnOutcome]
          cases cfg.alpnMode.noOverlapPolicy <;> simp
        · rintro ⟨offered', hoffer', hp⟩
          rw [← Option.some.inj (hoffer.symm.trans hoffer')] at hp
          exact absurd (hpick.symm.trans (alpnPick_eq_some_iff.mpr hp)) (by simp)
      | none =>
        dsimp only [alpnOutcome]
        cases hpolicy : cfg.alpnMode.noOverlapPolicy with
        | fatal =>
          refine iff_of_false (by simp) fun h ↦ ?_
          exact absurd (hpolicy.symm.trans (h offered hoffer).1) (by simp)
        | proceedWithoutProtocol =>
          refine iff_of_true rfl fun offered' hoffer' ↦ ?_
          rw [← Option.some.inj (hoffer.symm.trans hoffer')]
          exact ⟨hpolicy, hnone⟩

/-! ## The ClientHello -/

/-- The ClientHello is within its budget. -/
def State.fitsHello (s : State) (wire : Bytes) : Prop :=
  s.budgets.clientHelloBytesSeen + wire.length ≤ s.serverConfig.limits.maxClientHelloBytes

/-- A ClientHello that the state can go on with. -/
def State.CanGreet (s : State) (hello : ValidClientHello) (wire : Bytes) : Prop :=
  s.fitsHello wire ∧ s.hasOpRoom ∧ ∃ n, Negotiated s.serverConfig hello n

/-- A message that is a ClientHello the state can go on with. -/
def State.admitsHello (s : State) (msg : Bytes) : Prop :=
  ∃ hello, parseClientHello msg = .ok ⟨hello, msg⟩ ∧ s.CanGreet hello msg

/-- What a transition on a ClientHello returns: the negotiated parameters where there are any, and a
failure where there are none. -/
def Negotiates (s : State) (hello : ValidClientHello) (wire : Bytes) (res : StepResult) : Prop :=
  ∃ s' acts, res = .ok (s', acts) ∧
    ((s.CanGreet hello wire ∧ s'.handshake = .requestedServerRandom ∧
        Negotiated s.serverConfig hello s'.negotiated) ∨
      (¬ s.CanGreet hello wire ∧ FailsFatally s' acts))

theorem Negotiates.failed {s : State} {hello : ValidClientHello} {wire : Bytes}
    (h : ¬ s.CanGreet hello wire) (s₀ : State) {a : AlertDescription} (e : TlsError)
    (ha : alertLevel a = .fatal) : Negotiates s hello wire (hsFail s₀ a e) :=
  ⟨_, _, rfl, .inr ⟨h, failsFatally_fail _ _ _ ha⟩⟩

/-- The last part of the transition: the group is selected, and the server random is asked for. -/
def greet (s : State) (hello : ValidClientHello) (wire : Bytes) (ep : EndpointConfig)
    (scheme : SignatureScheme) (p : Option AlpnProtocol) (b : BudgetState) : StepResult :=
  match selectGroup hello.offeredShares ep.namedGroups with
  | none => hsFail { s with budgets := b } .handshakeFailure (.protocol .unsupportedGroup)
  | some (group, share) =>
    allocOpOrFail
      { s with
        budgets := b
        negotiated := { selectedSuite := some hello.selectedSuite
                        selectedGroup := some group
                        selectedSigScheme := some scheme
                        selectedSni := hello.sni
                        selectedAlpn := p
                        selectedCert := some ep.chain
                        serverShare := none
                        clientShare := some share
                        serverRandom := none
                        selectedCertDer := ep.der
                        clientSessionId := hello.sessionId }
        transcript := { s.transcript.appendFramed .clientHello .read wire with
                        hashAlg := hello.selectedSuite.hashAlg } }
      .randomBytes .handshake (some .write) fun oid s ↦
        .ok ({ s with handshake := .requestedServerRandom },
          [.callCrypto s.connId oid (.randomBytes 32)])

theorem greet_negotiates {s : State} {hello : ValidClientHello} {wire : Bytes}
    {ep : EndpointConfig} {scheme : SignatureScheme} {p : Option AlpnProtocol}
    (hfits : s.fitsHello wire) (hep : selectEndpoint s.serverConfig hello.sni = some ep)
    (hscheme : SignsWith ep hello scheme) (halpn : Speaks s.serverConfig ep hello p)
    (b : BudgetState) : Negotiates s hello wire (greet s hello wire ep scheme p b) := by
  rw [greet]
  cases hgroup : selectGroup hello.offeredShares ep.namedGroups with
  | none =>
    refine .failed (fun h ↦ ?_) _ _ rfl
    obtain ⟨-, -, n, hn⟩ := h
    obtain ⟨ep', hsome, hagreed⟩ := hn.endpoint
    obtain ⟨group, share, -, -, hexchange⟩ := hagreed.group
    rw [← Option.some.inj (hep.symm.trans hsome)] at hexchange
    exact absurd (hgroup.symm.trans (selectGroup_eq_some_iff.mpr hexchange)) (by simp)
  | some choice =>
    obtain ⟨group, share⟩ := choice
    dsimp only
    rw [allocOpOrFail_eq]
    split
    · rename_i hroom
      have hn : Negotiated s.serverConfig hello
          { selectedSuite := some hello.selectedSuite, selectedGroup := some group
            selectedSigScheme := some scheme, selectedSni := hello.sni, selectedAlpn := p
            selectedCert := some ep.chain, serverShare := none, clientShare := some share
            serverRandom := none, selectedCertDer := ep.der
            clientSessionId := hello.sessionId } :=
        ⟨rfl, rfl, rfl, ep, hep, ⟨rfl, rfl⟩, ⟨scheme, rfl, hscheme⟩,
          ⟨group, share, rfl, rfl, selectGroup_eq_some_iff.mp hgroup⟩, halpn⟩
      exact ⟨_, _, rfl, .inl ⟨⟨hfits, hroom, _, hn⟩, rfl, hn⟩⟩
    · rename_i hroom
      have hfull : ¬ s.hasOpRoom := hroom
      exact .failed (fun h ↦ hfull h.2.1) _ _ rfl

/-- **A ClientHello is accepted exactly if there is something to agree on**, and what is agreed on
goes into the state. -/
theorem onClientHello_negotiates {s : State} (hphase : s.handshake = .start)
    (hello : ValidClientHello) (wire : Bytes) :
    Negotiates s hello wire (onClientHello s hello wire) := by
  rw [onClientHello, if_pos hphase, chargeClientHelloBytes]
  dsimp only
  by_cases hfits : s.fitsHello wire
  swap
  · rw [if_pos (Nat.not_le.mp hfits)]
    exact .failed (fun h ↦ hfits h.1) _ _ rfl
  rw [if_neg (Nat.not_lt.mpr hfits)]
  dsimp only
  cases hep : selectEndpoint s.serverConfig hello.sni with
  | none =>
    refine .failed (fun h ↦ ?_) _ _ rfl
    obtain ⟨-, -, n, hn⟩ := h
    obtain ⟨ep, hsome, -⟩ := hn.endpoint
    exact absurd (hep.symm.trans hsome) (by simp)
  | some ep =>
    -- Whatever is negotiated is agreed on with this endpoint.
    have hagreed : ∀ n, Negotiated s.serverConfig hello n → Agreed s.serverConfig ep hello n := by
      intro n hn
      obtain ⟨ep', hsome, h⟩ := hn.endpoint
      rwa [Option.some.inj (hep.symm.trans hsome)]
    simp only [Option.map_some, Option.getD_some]
    cases hscheme : ep.signatureSchemes.find? fun sc ↦ hello.offeredSigSchemes.contains sc with
    | none =>
      refine .failed (fun h ↦ ?_) _ _ rfl
      obtain ⟨-, -, n, hn⟩ := h
      obtain ⟨scheme, -, hsigns⟩ := (hagreed n hn).scheme
      exact not_signsWith hscheme scheme hsigns
    | some scheme =>
      have hsigns := find?_offered.mp hscheme
      have halpn : ∀ p, alpnOutcome s.serverConfig.alpnMode (negotiateAlpn
          s.serverConfig.alpnMode.preference (hello.alpn.map (·.map AlpnProtocol.mk))
          ep.allowedAlpn) = some p ↔ Speaks s.serverConfig ep hello p := fun p ↦ alpnOutcome_iff
      dsimp only
      generalize negotiateAlpn s.serverConfig.alpnMode.preference
        (hello.alpn.map (·.map AlpnProtocol.mk)) ep.allowedAlpn = dec at halpn ⊢
      cases dec with
      | notOffered => exact greet_negotiates hfits hep hsigns ((halpn none).mp rfl) _
      | selected p => exact greet_negotiates hfits hep hsigns ((halpn (some p)).mp rfl) _
      | noOverlap =>
        rw [alpnOutcome] at halpn
        cases hpolicy : s.serverConfig.alpnMode.noOverlapPolicy with
        | fatal =>
          refine .failed (fun h ↦ ?_) _ _ rfl
          obtain ⟨-, -, n, hn⟩ := h
          have hspeaks := (halpn _).mpr (hagreed n hn).alpn
          rw [hpolicy] at hspeaks
          exact absurd hspeaks (by simp)
        | proceedWithoutProtocol =>
          exact greet_negotiates hfits hep hsigns ((halpn none).mp (by rw [hpolicy])) _

/-- **The first message** starts the handshake and the transcript if it is a ClientHello that the
state can go on with, and fails the connection otherwise. -/
theorem handshakeOnPlaintextRecord_greets {s : State} (hphase : s.handshake = .start)
    (msg : Bytes) :
    ∃ s' acts, handshakeOnPlaintextRecord s msg = .ok (s', acts) ∧
      ((s.admitsHello msg ∧ s'.handshake = .requestedServerRandom ∧
          s'.transcript.events = s.transcript.events ++ [committed .clientHello .read msg]) ∨
        (¬ s.admitsHello msg ∧ FailsFatally s' acts)) := by
  rw [handshakeOnPlaintextRecord, if_pos hphase]
  cases hparse : parseClientHello msg with
  | error e =>
    refine ⟨_, _, rfl, .inr ⟨?_, failsFatally_fail _ _ _ (alertLevel_parse _)⟩⟩
    rintro ⟨hello, heq, -⟩
    cases hparse.symm.trans heq
  | ok wb =>
    obtain ⟨hello, wire⟩ := wb
    obtain ⟨rfl, -⟩ := Parse.parseClientHello_wireBytes hparse
    obtain ⟨s', acts, hres, hcase⟩ := onClientHello_negotiates hphase hello wire
    refine ⟨s', acts, hres, ?_⟩
    rcases hcase with ⟨hcan, hrandom, -⟩ | ⟨hnot, hfail⟩
    · have hevents := (onClientHello_greeting _ _ _ _ _ hres (by rw [hrandom]; rfl)).2
      exact .inl ⟨⟨hello, hparse, hcan⟩, hrandom, hevents⟩
    · refine .inr ⟨?_, hfail⟩
      rintro ⟨hello', heq, hcan⟩
      cases hparse.symm.trans heq
      exact hnot hcan

/-- **The first message** of a connection is accepted exactly if it is a ClientHello that the
configuration can agree with. -/
theorem greets_iff {s : State} (hphase : s.handshake = .start) (msg : Bytes) :
    (∃ s' acts, handshakeOnPlaintextRecord s msg = .ok (s', acts) ∧
        s'.handshake.isTerminal = false) ↔
      ∃ hello, parseClientHello msg = .ok ⟨hello, msg⟩ ∧ s.CanGreet hello msg := by
  obtain ⟨s', acts, hres, hcase⟩ := handshakeOnPlaintextRecord_greets hphase msg
  constructor
  · rintro ⟨s'', acts', h, hlive⟩
    obtain ⟨rfl, rfl⟩ := Prod.mk.inj (Except.ok.inj (hres.symm.trans h))
    rcases hcase with ⟨hadm, -⟩ | ⟨-, hfail⟩
    · exact hadm
    · exact absurd hfail (not_failsFatally_of_live hlive)
  · intro hadm
    rcases hcase with ⟨-, hrandom, -⟩ | ⟨hnot, -⟩
    · exact ⟨s', acts, hres, by rw [hrandom]; rfl⟩
    · exact absurd hadm hnot

theorem greets_iff_fresh :
    (∃ s' acts, handshakeOnPlaintextRecord Session.fresh Session.hello = .ok (s', acts) ∧
        s'.handshake.isTerminal = false) ↔
      ∃ hello, parseClientHello Session.hello = .ok ⟨hello, Session.hello⟩ ∧
        Session.fresh.CanGreet hello Session.hello :=
  greets_iff Session.fresh_handshake Session.hello

/-! ## Runs

Behind the ClientHello the handshake is followed by its edges (`Core/Edge`), which say of each
transition what the message it adds is made of. -/

/-- **What the client is told** is what was negotiated: each message of the server flight carries
its part of it. -/
def Announced (n : NegotiationState) (e : TranscriptEvent) : Prop :=
  match e.eventMeta.kind with
  | .serverHello => ∃ random share suite group, n.selectedSuite = some suite ∧
    n.selectedGroup = some group ∧ e.wireBytes = serializeHandshakeOut (.serverHello random
      n.clientSessionId share (cipherSuiteToU16 suite) (namedGroupToU16 group) 0x0304)
  | .encryptedExtensions => e.wireBytes =
    serializeHandshakeOut (.encryptedExtensions (n.selectedAlpn.map (·.bytes)))
  | .certificate => e.wireBytes = serializeServerCertificate n.selectedCertDer
  | .certificateVerify => ∃ scheme sig, n.selectedSigScheme = some scheme ∧
    e.wireBytes = serializeHandshakeOut (.certificateVerify (sigSchemeToU16 scheme) sig)
  | .clientHello | .finished => True

/-- What the server adds to the negotiation later does not matter to what it announces. -/
theorem Announced.later {n : NegotiationState} {e : TranscriptEvent} (h : Announced n e)
    (random share : Option Bytes) :
    Announced { n with serverRandom := random, serverShare := share } e := by
  rw [Announced] at h ⊢
  cases hkind : e.eventMeta.kind <;> rw [hkind] at h <;> exact h

theorem Negotiated.later {cfg : ValidatedServerConfig} {hello : ValidClientHello}
    {n : NegotiationState} (h : Negotiated cfg hello n) (random share : Option Bytes) :
    Negotiated cfg hello { n with serverRandom := random, serverShare := share } := by
  obtain ⟨ep, hep, hcert, hscheme, hgroup, halpn⟩ := h.endpoint
  exact ⟨h.suite, h.name, h.session, ep, hep, hcert, hscheme, hgroup, halpn⟩

/-- **What is settled** behind the ClientHello: it is the first message, the negotiation is the one
of this message and the configuration, and every message announces it. -/
structure Settles (cfg : ValidatedServerConfig) (v : View) (hello : ValidClientHello)
    (wire : Bytes) : Prop where
  first : v.transcript.events.head? = some (committed .clientHello .read wire)
  parsed : parseClientHello wire = .ok ⟨hello, wire⟩
  negotiated : Negotiated cfg hello v.negotiated
  announced : ∀ e ∈ v.transcript.events, Announced v.negotiated e

namespace Settles

variable {cfg : ValidatedServerConfig} {v v' : View} {hello : ValidClientHello} {wire : Bytes}

/-- Messages join the transcript that announce what is settled. -/
theorem say (h : Settles cfg v hello wire) {new : List TranscriptEvent}
    (hneg : v'.negotiated = v.negotiated)
    (hevents : v'.transcript.events = v.transcript.events ++ new)
    (hnew : ∀ e ∈ new, Announced v.negotiated e) : Settles cfg v' hello wire where
  first := by rw [hevents, List.head?_append, h.first]; rfl
  parsed := h.parsed
  negotiated := by rw [hneg]; exact h.negotiated
  announced := by
    rw [hevents, hneg]
    exact List.forall_mem_append.mpr ⟨h.announced, hnew⟩

/-- The transcript and the negotiation are left alone. -/
theorem quiet (h : Settles cfg v hello wire) (hneg : v'.negotiated = v.negotiated)
    (hts : v'.transcript.events = v.transcript.events) : Settles cfg v' hello wire :=
  h.say hneg (hts.trans (List.append_nil _).symm) (List.forall_mem_nil _)

/-- **An edge** behind the start keeps what is settled. -/
theorem edge (h : Settles cfg v hello wire) (hphase : v.phase ≠ .start) {r : Option CryptoResult}
    {reqs : List CryptoOp} (hedge : Edge v r v' reqs) : Settles cfg v' hello wire := by
  have hsuite := h.negotiated.suite
  obtain ⟨ep, -, -, ⟨scheme, hscheme, -⟩, ⟨group, share, hgroup, -⟩, -⟩ := h.negotiated.endpoint
  cases hedge with
  | stay => exact h
  | clientHello hstart => exact absurd hstart hphase
  | serverRandom =>
    exact ⟨h.first, h.parsed, h.negotiated.later _ _, fun e he ↦ (h.announced e he).later _ _⟩
  | @ecdhe share _ _ _ _ _ hts =>
    have hsaid : Settles cfg { v with
        transcript := v.transcript.say .serverHello (serializeHandshakeOut (v.serverHello share)) }
        hello wire := by
      refine h.say rfl rfl (List.forall_mem_singleton.mpr ?_)
      refine ⟨v.negotiated.serverRandom.getD [], share, _, group, hsuite, hgroup, ?_⟩
      rw [View.serverHello, hsuite, hgroup]
      rfl
    subst hts
    exact ⟨hsaid.first, hsaid.parsed, hsaid.negotiated.later _ _,
      fun e he ↦ (hsaid.announced e he).later _ _⟩
  | serverFlight _ _ _ _ hts =>
    subst hts
    refine h.say rfl (List.append_assoc _ _ _) ?_
    exact List.forall_mem_cons.mpr ⟨rfl, List.forall_mem_singleton.mpr rfl⟩
  | @certificateVerify sig _ _ _ hts =>
    subst hts
    refine h.say rfl rfl (List.forall_mem_singleton.mpr ⟨scheme, sig, hscheme, ?_⟩)
    rw [View.certificateVerify, View.scheme, hscheme]
    rfl
  | serverFinished _ _ hts =>
    subst hts
    exact h.say rfl rfl (List.forall_mem_singleton.mpr trivial)
  | verified => exact h.say rfl rfl (List.forall_mem_singleton.mpr trivial)
  | pump | rest | applicationKeys | clientFinished => exact h.quiet rfl rfl

end Settles

/-- A message that is accepted in the start is a ClientHello, and what it leads to is negotiated
with it. -/
theorem settles_of_greeting {s s' : State} {msg : Bytes} {acts : List OutputAction}
    (hphase : s.handshake = .start) (hnil : s.transcript.events = [])
    (hres : handshakeOnPlaintextRecord s msg = .ok (s', acts))
    (hlive : s'.handshake.isLive = true) :
    ∃ hello, Settles s.serverConfig s'.view hello msg := by
  rw [handshakeOnPlaintextRecord, if_pos hphase] at hres
  cases hparse : parseClientHello msg with
  | error e =>
    rw [hparse] at hres
    cases hres
    exact absurd hlive (by simp [State.fail, HandshakeState.isLive])
  | ok wb =>
    obtain ⟨hello, wire⟩ := wb
    obtain ⟨rfl, -⟩ := Parse.parseClientHello_wireBytes hparse
    rw [hparse] at hres
    have hevents := (onClientHello_greeting s hello wire s' acts hres hlive).2
    rw [hnil] at hevents
    obtain ⟨s'', acts', hres', hcase⟩ := onClientHello_negotiates hphase hello wire
    obtain ⟨rfl, rfl⟩ := Prod.mk.inj (Except.ok.inj (hres'.symm.trans hres))
    rcases hcase with ⟨-, -, hneg⟩ | ⟨-, hend⟩
    · refine ⟨hello, by rw [State.view, hevents]; rfl, hparse, hneg, ?_⟩
      rw [State.view, hevents]
      exact List.forall_mem_singleton.mpr trivial
    · exact absurd hend (not_failsFatally_of_live (HandshakeState.isLive_iff.mp hlive).1)

/-- The step that leaves the start settles the negotiation. -/
theorem settles_of_start {t : CoreStep} (ht : Machine.Steps step t)
    (hlive : t.target.handshake.isLive = true) (hstart : t.source.handshake = .start)
    (hidle : t.source.pendingOps.ops = []) (hnil : t.source.transcript.events = [])
    (hleft : t.target.handshake ≠ .start) :
    ∃ hello wire, Settles t.source.serverConfig t.target.view hello wire := by
  have hout := outcome_of_steps ht (by rw [hstart]; rfl)
  obtain ⟨s, ev, acts, s'⟩ := t
  dsimp only at hout hlive hstart hidle hnil hleft ⊢
  cases hout with
  | bytes h =>
    cases h with
    | malformed => cases hlive
    | awaiting => exact absurd hstart hleft
    | record hh h =>
      cases h with
      | noRoom | ccsRefused | hsRefused | invalid => cases hlive
      | opens _ hphase => rcases hphase with hphase | hphase <;> cases hstart.symm.trans hphase
      | unread | ccsIgnored | hsPartial => exact absurd hstart hleft
      | hsMessage _ _ _ hres =>
        obtain ⟨hello, h⟩ := settles_of_greeting (by exact hstart) (by exact hnil)
          hres hlive
        exact ⟨hello, _, h⟩
      | alert _ h => cases h.isLive.symm.trans hlive
  | result hop h =>
    obtain ⟨o, ho, -⟩ := PendingCryptoOps.contains_iff.mp hop
    rw [hidle] at ho
    cases ho
  | send hphase => cases hstart.symm.trans hphase
  | closeNotify | sendRefused | closeNotifyRefused | closeEarly | closeFatal | closeAbortive | eof
  | timeout => cases hlive
  | stale | noDelivery | writable | flush | deliver | reclose | readable =>
    exact absurd hstart hleft

/-- **What is negotiated along a run.**  A live connection that has left the start has, as the first
message of its transcript, a ClientHello; its parameters are those that this ClientHello and the
configuration come to; and every message of the server in the transcript announces them. -/
theorem negotiation_of_run {conn : ConnId} {gen : ConfigGeneration} {alg : HashAlgorithm}
    {config : ValidatedServerConfig} {tr : List CoreStep} {s : State}
    (h : CoreRun conn gen alg config tr s) (hlive : s.handshake.isLive = true)
    (hphase : s.handshake ≠ .start) : ∃ hello wire, Settles config s.view hello wire := by
  have hall := Machine.Run.history (J := fun pre s ↦ (Invariant s ∧ s.serverConfig = config) ∧
    (s.handshake.isLive = true → Read pre s ∧
      (s.handshake ≠ .start → ∃ hello wire, Settles config s.view hello wire)))
    (C := fun _ ↦ True) (fun pre t ht _ hJ ↦ ?_) h (fun _ _ ↦ trivial)
    ⟨⟨.initial conn gen alg config, rfl⟩,
      fun _ ↦ ⟨⟨.nil _, .nil _, fun _ ↦ ⟨rfl, rfl⟩, fun hne ↦ absurd rfl hne⟩,
        fun hne ↦ absurd rfl hne⟩⟩
  · exact (hall.2 hlive).2 hphase
  · obtain ⟨⟨hI, hconfig⟩, hsettles⟩ := hJ
    refine ⟨⟨.step ht hI, (operates_of_steps ht).config.trans hconfig⟩, fun hlive ↦ ?_⟩
    obtain ⟨hread, hbefore⟩ := hsettles (isLive_source ht hlive)
    refine ⟨hread.step ht hlive hI.idle, fun hleft ↦ ?_⟩
    by_cases hstart : t.source.handshake = .start
    · rw [← hconfig]
      exact settles_of_start ht hlive hstart (hI.idle hstart) (hread.waits hstart).2 hleft
    · obtain ⟨hello, wire, hs⟩ := hbefore hstart
      exact ⟨hello, wire, hs.edge hstart (edge_of_steps ht hlive)⟩

theorem negotiation_connect : ∃ hello wire, Settles ValidatedServerConfig.baseline
    (Session.reached Session.connectEvents).view hello wire :=
  negotiation_of_run (Session.coreRun Session.connectEvents) (by decide +kernel)
    (by decide +kernel)

end Kroopt.Core
