import Mathlib.Data.List.Forall2
import Mathlib.Data.List.Nodup
import Mathlib.Data.List.Perm.Basic
import Kroopt.Core.Config

/-!
# Routing by server name

A configuration lists its routes in some order, and `selectEndpoint` searches the list: first for a
route of exactly the name, then for a wildcard, then it takes the default.  What it finds does not
depend on that order.  A validated configuration is a map from patterns to endpoints, and the search
is a lookup in it.

Two facts make it one.  The validation refuses a configuration in which two routes have the same
pattern, so no exact name has two endpoints.  And a name is under at most one wildcard, because the
suffix of a wildcard is what stands behind the first dot of the name, and a name has one first dot
(`ValidatedServerName.Under.unique`).  So the first hit of either search is the only one.

The rest is about what validation does to the patterns.  It reads each of them as a name in lower
case, and a server name of the client is read in the same way, so two spellings that differ in case
are one name here and there.

## Main definitions

* `Serves cfg name ep`: which endpoint a name has, with no order in it: the one of its own route,
  else of the wildcard it is under, else the default.
* `RouteOf` and `Admits cfg gen v`: when a configuration is accepted, and as what.

## Main results

* `firstDotIdx_eq_some_iff` and `validatedPatternMatches_wildcard`: what a wildcard matches.
* `validateServerConfig_iff`: validation, with all of its checks.
* `selectEndpoint_of_nodup`: the search is the map where no pattern is listed twice.
* `selectEndpoint_iff`: for an accepted configuration, `selectEndpoint` answers what `Serves` says.
* `selectEndpoint_perm`: the routes can be listed in any order, and a name spelled in any case.
-/

set_option autoImplicit false

namespace Kroopt.Core

/-! ## Names -/

theorem ValidatedServerName.eq_iff {a b : ValidatedServerName} : a.eq b = true ↔ a = b := by
  rw [ValidatedServerName.eq, beq_iff_eq, ValidatedServerName.mk.injEq]

/-- The name is one label and a dot in front of the suffix. -/
def ValidatedServerName.Under (name suffix : ValidatedServerName) : Prop :=
  ∃ label, label ≠ [] ∧ 0x2e ∉ label ∧ name.bytes = label ++ 0x2e :: suffix.bytes

theorem firstDotIdxGo_eq (l : List UInt8) (i : Nat) :
    firstDotIdxGo l i = (firstDotIdx l).map (i + ·) := by
  rw [firstDotIdx]
  induction l generalizing i with
  | nil => rfl
  | cons b l ih =>
    rw [firstDotIdxGo, firstDotIdxGo]
    split
    · rfl
    · rw [ih (i + 1), ih (0 + 1), Option.map_map]
      congr 1
      funext n
      dsimp only [Function.comp]
      omega

/-- The index of the first dot cuts a list at its first dot. -/
theorem firstDotIdx_eq_some_iff {l : List UInt8} {i : Nat} :
    firstDotIdx l = some i ↔ ∃ label rest, l = label ++ 0x2e :: rest ∧ 0x2e ∉ label ∧
      label.length = i := by
  induction l generalizing i with
  | nil => simp [firstDotIdx, firstDotIdxGo]
  | cons b l ih =>
    rw [firstDotIdx, firstDotIdxGo]
    by_cases hb : b = 0x2e
    · rw [if_pos hb, Option.some_inj]
      constructor
      · rintro rfl
        exact ⟨[], l, by rw [hb]; rfl, by simp, rfl⟩
      · rintro ⟨label, rest, hl, hdot, rfl⟩
        cases label with
        | nil => rfl
        | cons c label =>
          rw [List.cons_append, List.cons.injEq] at hl
          exact absurd (List.mem_cons.mpr (.inl (hb.symm.trans hl.1))) hdot
    · rw [if_neg hb, firstDotIdxGo_eq, Option.map_eq_some_iff]
      constructor
      · rintro ⟨n, hn, rfl⟩
        obtain ⟨label, rest, rfl, hdot, rfl⟩ := ih.mp hn
        refine ⟨b :: label, rest, rfl, ?_, Nat.add_comm _ _⟩
        exact fun h ↦ (List.mem_cons.mp h).elim (fun h ↦ hb h.symm) hdot
      · rintro ⟨label, rest, hl, hdot, rfl⟩
        cases label with
        | nil => exact absurd (List.cons.inj hl).1 hb
        | cons c label =>
          obtain ⟨-, rfl⟩ := List.cons.inj hl
          refine ⟨label.length, ih.mpr ⟨label, rest, rfl, ?_, rfl⟩, Nat.add_comm _ _⟩
          exact fun h ↦ hdot (List.mem_cons_of_mem _ h)

theorem validatedPatternMatches_wildcard {name suffix : ValidatedServerName} :
    validatedPatternMatches (.wildcard suffix) name = true ↔ name.Under suffix := by
  rw [validatedPatternMatches]
  cases hdot : firstDotIdx name.bytes with
  | none =>
    refine iff_of_false (by simp) ?_
    rintro ⟨label, -, hlabel, heq⟩
    have hsome := firstDotIdx_eq_some_iff.mpr ⟨label, suffix.bytes, heq, hlabel, rfl⟩
    rw [hdot] at hsome
    exact absurd hsome (by simp)
  | some i =>
    obtain ⟨label, rest, heq, hlabel, rfl⟩ := firstDotIdx_eq_some_iff.mp hdot
    have htake : name.bytes.take label.length = label := by rw [heq]; simp
    have hdrop : name.bytes.drop (label.length + 1) = rest := by rw [heq]; simp
    dsimp only
    rw [htake, hdrop, Bool.and_eq_true, decide_eq_true_eq, beq_iff_eq]
    constructor
    · rintro ⟨hlen, rfl⟩
      exact ⟨label, List.length_pos_iff.mp hlen, hlabel, heq⟩
    · rintro ⟨label', hne, hlabel', heq'⟩
      have hsome := firstDotIdx_eq_some_iff.mpr ⟨label', suffix.bytes, heq', hlabel', rfl⟩
      rw [hdot] at hsome
      obtain ⟨rfl, hrest⟩ := List.append_inj (heq.symm.trans heq') (Option.some.inj hsome)
      exact ⟨List.length_pos_iff.mpr hne, (List.cons.inj hrest).2⟩

/-- A name is under one suffix at most. -/
theorem ValidatedServerName.Under.unique {name a b : ValidatedServerName} (ha : name.Under a)
    (hb : name.Under b) : a = b := by
  obtain ⟨la, -, hla, heqa⟩ := ha
  obtain ⟨lb, -, hlb, heqb⟩ := hb
  have hsome := firstDotIdx_eq_some_iff.mpr ⟨la, a.bytes, heqa, hla, rfl⟩
  rw [firstDotIdx_eq_some_iff.mpr ⟨lb, b.bytes, heqb, hlb, rfl⟩] at hsome
  have hrest := (List.append_inj (heqa.symm.trans heqb) (Option.some.inj hsome).symm).2
  exact ValidatedServerName.mk.injEq _ _ ▸ (List.cons.inj hrest).2

theorem validatedPatternMatches_exact {name p : ValidatedServerName} :
    validatedPatternMatches (.exact p) name = true ↔ p = name :=
  ValidatedServerName.eq_iff

/-! ## Routes -/

/-- Two patterns are in conflict exactly if they are the same. -/
theorem validatedPatternsConflict_iff {a b : ValidatedServerNamePattern} :
    validatedPatternsConflict a b = true ↔ a = b := by
  cases a <;> cases b <;> simp [validatedPatternsConflict, ValidatedServerName.eq_iff]

/-- Routes are unambiguous exactly if no pattern is listed twice. -/
theorem hasAmbiguousValidatedRoutes_eq_false {routes : List ValidatedSniRoute} :
    hasAmbiguousValidatedRoutes routes = false ↔ (routes.map (·.pattern)).Nodup := by
  induction routes with
  | nil => simp [hasAmbiguousValidatedRoutes]
  | cons r routes ih =>
    rw [hasAmbiguousValidatedRoutes, Bool.or_eq_false_iff, ih, List.map_cons, List.nodup_cons,
      ← Bool.not_eq_true, List.any_eq_true]
    refine and_congr_left fun _ ↦ not_congr ?_
    simp only [validatedPatternsConflict_iff, List.mem_map]
    exact exists_congr fun r' ↦ and_congr_right fun _ ↦ eq_comm

/-- **The endpoint of a name**: that of its own route, else of the wildcard it is under, else the
default. -/
inductive Serves (cfg : ValidatedServerConfig) (name : ValidatedServerName) : EndpointConfig → Prop
  | exact {r : ValidatedSniRoute} (hr : r ∈ cfg.sniRoutes) (hp : r.pattern = .exact name) :
      Serves cfg name r.endpoint
  | wildcard {r : ValidatedSniRoute} {suffix : ValidatedServerName}
      (hexact : ∀ r ∈ cfg.sniRoutes, r.pattern ≠ .exact name) (hr : r ∈ cfg.sniRoutes)
      (hp : r.pattern = .wildcard suffix) (hname : name.Under suffix) : Serves cfg name r.endpoint
  | default {ep : EndpointConfig} (hexact : ∀ r ∈ cfg.sniRoutes, r.pattern ≠ .exact name)
      (hwild : ∀ r ∈ cfg.sniRoutes, ∀ suffix, r.pattern = .wildcard suffix → ¬ name.Under suffix)
      (hd : cfg.defaultEndpoint = some ep) : Serves cfg name ep

/-- The route has this very name. -/
def ValidatedSniRoute.isExact (name : ValidatedServerName) (r : ValidatedSniRoute) : Bool :=
  match r.pattern with
  | .exact p => p.eq name
  | _ => false

theorem ValidatedSniRoute.isExact_iff {name : ValidatedServerName} {r : ValidatedSniRoute} :
    r.isExact name = true ↔ r.pattern = .exact name := by
  rw [isExact]
  split
  · rename_i p hp
    rw [ValidatedServerName.eq_iff, hp, ValidatedServerNamePattern.exact.injEq]
  · rename_i hp
    exact iff_of_false (by simp) (hp name)

/-- The route is a wildcard that the name is under. -/
def ValidatedSniRoute.Covers (name : ValidatedServerName) (r : ValidatedSniRoute) : Prop :=
  ∃ suffix, r.pattern = .wildcard suffix ∧ name.Under suffix

theorem ValidatedSniRoute.matches_iff {name : ValidatedServerName} {r : ValidatedSniRoute}
    (hexact : r.pattern ≠ .exact name) :
    validatedPatternMatches r.pattern name = true ↔ r.Covers name := by
  rw [Covers]
  cases hp : r.pattern with
  | exact p =>
    rw [validatedPatternMatches_exact]
    exact iff_of_false (fun h ↦ hexact (hp.trans (congrArg _ h))) (by simp)
  | wildcard suffix =>
    rw [validatedPatternMatches_wildcard]
    simp

/-- A present name is looked up: its own route first, then the routes that match it. -/
theorem selectEndpoint_of_name {cfg : ValidatedServerConfig} {raw : Bytes}
    {name : ValidatedServerName} (hname : ValidatedServerName.ofBytes raw = .ok name) :
    selectEndpoint cfg (some raw) =
      match cfg.sniRoutes.find? (·.isExact name) with
      | some r => some r.endpoint
      | none =>
        match cfg.sniRoutes.find? fun r ↦ validatedPatternMatches r.pattern name with
        | some r => some r.endpoint
        | none => cfg.defaultEndpoint := by
  rw [selectEndpoint, hname]
  rfl

/-- Routes without a repeated pattern have one route for a pattern. -/
theorem route_unique {routes : List ValidatedSniRoute} (hnodup : (routes.map (·.pattern)).Nodup)
    {r r' : ValidatedSniRoute} (hr : r ∈ routes) (hr' : r' ∈ routes)
    (heq : r.pattern = r'.pattern) : r = r' :=
  List.inj_on_of_nodup_map hnodup hr hr' heq

/-- **The search is the map**, where no pattern is listed twice. -/
theorem selectEndpoint_of_nodup {cfg : ValidatedServerConfig}
    (hnodup : (cfg.sniRoutes.map (·.pattern)).Nodup) {raw : Bytes} {name : ValidatedServerName}
    (hname : ValidatedServerName.ofBytes raw = .ok name) {ep : EndpointConfig} :
    selectEndpoint cfg (some raw) = some ep ↔ Serves cfg name ep := by
  rw [selectEndpoint_of_name hname]
  cases hexact : cfg.sniRoutes.find? (·.isExact name) with
  | some r =>
    have hp := ValidatedSniRoute.isExact_iff.mp (List.find?_some hexact)
    have hr := List.mem_of_find?_eq_some hexact
    rw [Option.some_inj]
    constructor
    · rintro rfl
      exact .exact hr hp
    · intro h
      cases h with
      | exact hr' hp' => rw [route_unique hnodup hr hr' (hp.trans hp'.symm)]
      | wildcard hnone => exact absurd hp (hnone r hr)
      | default hnone => exact absurd hp (hnone r hr)
  | none =>
    have hnone : ∀ r ∈ cfg.sniRoutes, r.pattern ≠ .exact name := by
      intro r hr hp
      exact List.find?_eq_none.mp hexact r hr (ValidatedSniRoute.isExact_iff.mpr hp)
    dsimp only
    cases hwild : cfg.sniRoutes.find? fun r ↦ validatedPatternMatches r.pattern name with
    | some r =>
      have hr := List.mem_of_find?_eq_some hwild
      have hmatch : validatedPatternMatches r.pattern name = true := by
        simpa using List.find?_some hwild
      obtain ⟨suffix, hp, hunder⟩ := (ValidatedSniRoute.matches_iff (hnone r hr)).mp hmatch
      rw [Option.some_inj]
      constructor
      · rintro rfl
        exact .wildcard hnone hr hp hunder
      · intro h
        cases h with
        | exact hr' hp' => exact absurd hp' (hnone _ hr')
        | wildcard _ hr' hp' hunder' =>
          have hsame : r.pattern = _ := hp.trans (congrArg _ (hunder.unique hunder'))
          rw [route_unique hnodup hr hr' (hsame.trans hp'.symm)]
        | default _ hno => exact absurd hunder (hno r hr suffix hp)
    | none =>
      have hno : ∀ r ∈ cfg.sniRoutes, ¬ r.Covers name := by
        intro r hr hcovers
        exact List.find?_eq_none.mp hwild r hr
          ((ValidatedSniRoute.matches_iff (hnone r hr)).mpr hcovers)
      constructor
      · exact fun h ↦ .default hnone (fun r hr suffix hp hu ↦ hno r hr ⟨suffix, hp, hu⟩) h
      · intro h
        cases h with
        | exact hr' hp' => exact absurd hp' (hnone _ hr')
        | wildcard _ hr' hp' hunder' => exact absurd ⟨_, hp', hunder'⟩ (hno _ hr')
        | default _ _ hd => exact hd

/-! ## Accepted configurations

Validation goes through the routes one by one and collects what it makes of them, and only then
looks for two of one pattern.  `Admits` says the same without the order: every route has a validated
one in its place, the patterns are all different, and the scalar checks hold. -/

/-- The validated form of a route. -/
def RouteOf (r : SniRoute) (v : ValidatedSniRoute) : Prop :=
  validateSniPattern r.pattern = .ok v.pattern ∧ v.endpoint = r.endpoint

theorem validateSniRoutes_iff {rs : List SniRoute} {vs : List ValidatedSniRoute} :
    validateSniRoutes rs = .ok vs ↔ List.Forall₂ RouteOf rs vs := by
  induction rs generalizing vs with
  | nil =>
    rw [validateSniRoutes, List.forall₂_nil_left_iff]
    exact ⟨fun h ↦ (Except.ok.inj h).symm, fun h ↦ by rw [h]⟩
  | cons r rs ih =>
    rw [validateSniRoutes, List.forall₂_cons_left_iff]
    constructor
    · intro h
      cases hp : validateSniPattern r.pattern with
      | error e =>
        rw [hp] at h
        cases h
      | ok pattern =>
        cases hrest : validateSniRoutes rs with
        | error e =>
          rw [hp, hrest] at h
          cases h
        | ok rest =>
          rw [hp, hrest] at h
          exact ⟨_, rest, ⟨hp, rfl⟩, ih.mp hrest, (Except.ok.inj h).symm⟩
    · rintro ⟨v, rest, ⟨hp, hep⟩, hrest, rfl⟩
      rw [hp, ih.mpr hrest, ← hep]
      rfl

theorem validateServerConfigCheckAll_iff {routes : List ValidatedSniRoute} :
    validateServerConfigCheckAll routes = .ok () ↔
      ∀ r ∈ routes, validateEndpoint r.endpoint = .ok () := by
  induction routes with
  | nil => simp [validateServerConfigCheckAll]
  | cons r routes ih =>
    rw [validateServerConfigCheckAll, List.forall_mem_cons, ← ih]
    cases validateEndpoint r.endpoint with
    | error e => simp
    | ok u => simp

/-- **When a configuration is accepted**, and as what. -/
structure Admits (cfg : ServerConfig) (gen : ConfigGeneration) (v : ValidatedServerConfig) :
    Prop where
  routes : List.Forall₂ RouteOf cfg.sniRoutes v.sniRoutes
  unambiguous : (v.sniRoutes.map (·.pattern)).Nodup
  limits : validLimits cfg.limits = true
  endpoints : ∀ r ∈ v.sniRoutes, validateEndpoint r.endpoint = .ok ()
  endpoint : ∀ ep, cfg.defaultEndpoint = some ep → validateEndpoint ep = .ok ()
  kept : v.generation = gen ∧ v.defaultEndpoint = cfg.defaultEndpoint ∧
    v.alpnMode = cfg.alpnMode ∧ v.limits = cfg.limits

theorem validateServerConfig_iff {cfg : ServerConfig} {gen : ConfigGeneration}
    {v : ValidatedServerConfig} : validateServerConfig cfg gen = .ok v ↔ Admits cfg gen v := by
  rw [validateServerConfig]
  constructor
  · intro h
    split at h
    · cases h
    · rename_i routes hroutes
      split at h
      · cases h
      · rename_i hamb
        split at h
        · cases h
        · rename_i hlim
          split at h
          · cases h
          · rename_i hall
            have hnodup := hasAmbiguousValidatedRoutes_eq_false.mp (Bool.eq_false_iff.mpr hamb)
            have hlimits := not_not.mp hlim
            have hends := validateServerConfigCheckAll_iff.mp hall
            split at h
            · rename_i ep hdef
              split at h
              · cases h
              · rename_i hep
                cases h
                refine ⟨validateSniRoutes_iff.mp hroutes, hnodup, hlimits, hends, ?_,
                  rfl, rfl, rfl, rfl⟩
                intro ep' hep'
                rw [← Option.some.inj (hdef.symm.trans hep')]
                exact hep
            · rename_i hdef
              cases h
              refine ⟨validateSniRoutes_iff.mp hroutes, hnodup, hlimits, hends, ?_,
                rfl, hdef.symm, rfl, rfl⟩
              intro ep hep
              exact absurd (hdef.symm.trans hep) (by simp)
  · rintro ⟨hroutes, hnodup, hlim, hends, hdef, rfl, hdefault, halpn, hlimits⟩
    rw [validateSniRoutes_iff.mpr hroutes]
    dsimp only
    rw [hasAmbiguousValidatedRoutes_eq_false.mpr hnodup, hlim,
      validateServerConfigCheckAll_iff.mpr hends]
    obtain ⟨gen, d, routes, alpn, lim⟩ := v
    dsimp only at hdefault halpn hlimits
    subst hdefault halpn hlimits
    cases hd : cfg.defaultEndpoint with
    | none => rfl
    | some ep =>
      dsimp only
      rw [hdef ep hd]
      rfl

/-- **Routing.**  In a configuration that was accepted, the endpoint of a name is the one that the
routes give it: its own route before a wildcard, a wildcard before the default, and none for what is
no name. -/
theorem selectEndpoint_iff {cfg : ServerConfig} {gen : ConfigGeneration}
    {v : ValidatedServerConfig} (h : validateServerConfig cfg gen = .ok v) {raw : Bytes}
    {ep : EndpointConfig} :
    selectEndpoint v (some raw) = some ep ↔
      ∃ name, ValidatedServerName.ofBytes raw = .ok name ∧ Serves v name ep := by
  have hnodup := (validateServerConfig_iff.mp h).unambiguous
  cases hname : ValidatedServerName.ofBytes raw with
  | error e =>
    rw [selectEndpoint, hname]
    simp
  | ok name =>
    rw [selectEndpoint_of_nodup hnodup hname]
    simp

/-- An endpoint with a certificate of one byte. -/
def Session.endpointWith (der : UInt8) : EndpointConfig :=
  { (default : EndpointConfig) with
    chain := { (default : CertificateChainHandle) with chainLen := 1 }
    signatureSchemes := [.ed25519]
    cipherSuites := [.chacha20Poly1305Sha256]
    der := [der] }

/-- Routes for `*.b.c` and for `a.b.c`, which is under it. -/
def Session.routed : ServerConfig where
  defaultEndpoint := none
  sniRoutes := [⟨.wildcard [98, 46, 67], endpointWith 1⟩,
    ⟨.exact [97, 46, 98, 46, 99], endpointWith 2⟩]
  alpnMode := .serverPreference

/-- What it is accepted as. -/
def Session.routedConfig : ValidatedServerConfig where
  generation := ⟨0⟩
  defaultEndpoint := none
  sniRoutes := [⟨.wildcard ⟨[98, 46, 99]⟩, endpointWith 1⟩,
    ⟨.exact ⟨[97, 46, 98, 46, 99]⟩, endpointWith 2⟩]
  alpnMode := .serverPreference
  limits := ResourceLimits.standard

theorem Session.validateServerConfig_routed :
    validateServerConfig routed ⟨0⟩ = .ok routedConfig := by
  decide +kernel

theorem selectEndpoint_iff_routed :
    selectEndpoint Session.routedConfig (some [97, 46, 98, 46, 99]) =
        some (Session.endpointWith 2) ↔
      ∃ name, ValidatedServerName.ofBytes [97, 46, 98, 46, 99] = .ok name ∧
        Serves Session.routedConfig name (Session.endpointWith 2) :=
  selectEndpoint_iff Session.validateServerConfig_routed

/-- The endpoint of a name does not depend on the order of the routes. -/
theorem Serves.perm {v v' : ValidatedServerConfig} {name : ValidatedServerName}
    {ep : EndpointConfig} (hroutes : v.sniRoutes.Perm v'.sniRoutes)
    (hd : v'.defaultEndpoint = v.defaultEndpoint) (h : Serves v name ep) : Serves v' name ep := by
  cases h with
  | exact hr hp => exact .exact (hroutes.mem_iff.mp hr) hp
  | wildcard hnone hr hp hunder =>
    exact .wildcard (fun r hr ↦ hnone r (hroutes.mem_iff.mpr hr)) (hroutes.mem_iff.mp hr) hp hunder
  | default hnone hno h =>
    exact .default (fun r hr ↦ hnone r (hroutes.mem_iff.mpr hr))
      (fun r hr ↦ hno r (hroutes.mem_iff.mpr hr)) (hd.trans h)

/-! ## Spelling -/

theorem asciiLower_asciiLower (b : UInt8) : asciiLower (asciiLower b) = asciiLower b := by
  obtain ⟨⟨b⟩⟩ := b
  revert b
  decide +kernel

theorem asciiNameByte_asciiLower (b : UInt8) : asciiNameByte (asciiLower b) = asciiNameByte b := by
  obtain ⟨⟨b⟩⟩ := b
  revert b
  decide +kernel

/-- A name is read without regard to case. -/
theorem ofBytes_asciiLower (raw : Bytes) :
    ValidatedServerName.ofBytes (raw.map asciiLower) = ValidatedServerName.ofBytes raw := by
  have hbytes : (raw.map asciiLower).all asciiNameByte = raw.all asciiNameByte := by
    rw [List.all_map]
    exact congrArg raw.all (funext asciiNameByte_asciiLower)
  have hlower : (raw.map asciiLower).map asciiLower = raw.map asciiLower := by
    rw [List.map_map]
    exact congrArg (raw.map ·) (funext asciiLower_asciiLower)
  rw [ValidatedServerName.ofBytes, ValidatedServerName.ofBytes, hbytes, hlower, List.length_map]

/-- Two spellings of a name in different case. -/
theorem selectEndpoint_asciiLower (v : ValidatedServerConfig) {raw raw' : Bytes}
    (hcase : raw.map asciiLower = raw'.map asciiLower) :
    selectEndpoint v (some raw) = selectEndpoint v (some raw') := by
  rw [selectEndpoint, selectEndpoint, ← ofBytes_asciiLower raw, hcase, ofBytes_asciiLower]

/-- **Neither order nor case matters.**  If a configuration is accepted, so is every reordering of
its routes, and both give every name the same endpoint, in whatever case it is spelled. -/
theorem selectEndpoint_perm {cfg : ServerConfig} {gen : ConfigGeneration}
    {v : ValidatedServerConfig} (h : validateServerConfig cfg gen = .ok v)
    {routes : List SniRoute} (hperm : cfg.sniRoutes.Perm routes) :
    ∃ v', validateServerConfig { cfg with sniRoutes := routes } gen = .ok v' ∧
      selectEndpoint v' none = selectEndpoint v none ∧
      ∀ raw raw' : Bytes, raw.map asciiLower = raw'.map asciiLower →
        selectEndpoint v' (some raw') = selectEndpoint v (some raw) := by
  have hv := validateServerConfig_iff.mp h
  obtain ⟨vs, hroutes, hperm'⟩ := List.perm_comp_forall₂ hperm.symm hv.routes
  have hadmits : Admits { cfg with sniRoutes := routes } gen { v with sniRoutes := vs } := by
    refine ⟨hroutes, ?_, hv.limits, fun r hr ↦ ?_, hv.endpoint, hv.kept⟩
    · exact (hperm'.map _).nodup_iff.mpr hv.unambiguous
    · exact hv.endpoints r (hperm'.mem_iff.mp hr)
  have hv' := validateServerConfig_iff.mpr hadmits
  refine ⟨_, hv', rfl, fun raw raw' hcase ↦ ?_⟩
  rw [← selectEndpoint_asciiLower _ hcase]
  refine Option.ext fun ep ↦ ?_
  rw [selectEndpoint_iff hv', selectEndpoint_iff h]
  refine exists_congr fun name ↦ and_congr_right fun _ ↦ ?_
  exact ⟨.perm hperm' rfl, .perm hperm'.symm rfl⟩

theorem selectEndpoint_perm_routed :
    ∃ v', validateServerConfig
        { Session.routed with sniRoutes := Session.routed.sniRoutes.reverse } ⟨0⟩ = .ok v' ∧
      selectEndpoint v' none = selectEndpoint Session.routedConfig none ∧
      ∀ raw raw' : Bytes, raw.map asciiLower = raw'.map asciiLower →
        selectEndpoint v' (some raw') = selectEndpoint Session.routedConfig (some raw) :=
  selectEndpoint_perm Session.validateServerConfig_routed (List.reverse_perm _).symm

end Kroopt.Core
