import Kroopt.Core.Record

/-!
# Server configuration

The immutable configuration a connection negotiates against: endpoints with their certificate
chain, the SNI routing table, ALPN policy and the resource limits.

* `ValidatedServerName.ofBytes` canonicalises a DNS name (ASCII only).
* `validateServerConfig` turns a `ServerConfig` into a `ValidatedServerConfig`.
* `selectEndpoint` and `negotiateAlpn` are what the handshake asks of it.
* `maxPlaintextForProtectedBudget` is the admission calculation of `send`.
-/

set_option autoImplicit false

namespace Kroopt.Core

/-! ## Certificates -/

/-- Kind of a leaf's public key. -/
inductive PublicKeyKind
  | ed25519
  | ecdsaP256
  | rsa
  deriving DecidableEq, Inhabited

/-- Kind of a private key. -/
inductive PrivateKeyKind
  | ed25519
  | ecdsaP256
  | rsa
  deriving DecidableEq, Inhabited

/-- Whether a public and a private key are of the same algorithm. -/
def keyKindsMatch : PublicKeyKind → PrivateKeyKind → Bool
  | .ed25519, .ed25519 => true
  | .ecdsaP256, .ecdsaP256 => true
  | .rsa, .rsa => true
  | _, _ => false

/-- The signature schemes a leaf key can produce. -/
def schemesForKey : PublicKeyKind → List SignatureScheme
  | .ed25519 => [.ed25519]
  | .ecdsaP256 => [.ecdsaSecp256r1Sha256]
  | .rsa => [.rsaPssRsaeSha256]

/-- Parsed leaf metadata. -/
structure LeafCertificateMeta where
  publicKeyKind : PublicKeyKind
  subjectNameCount : Nat
  notBeforeUnix : Option Int
  notAfterUnix : Option Int
  deriving DecidableEq, Inhabited

/-- Handle of a configured DER chain. -/
structure CertificateChainHandle where
  id : UInt64
  generation : ConfigGeneration
  chainLen : Nat
  derSize : Nat
  leafMeta : LeafCertificateMeta
  deriving DecidableEq, Inhabited

/-- A private key behind a secret handle. -/
structure PrivateKeyHandle where
  secret : SecretKeyHandle
  keyKind : PrivateKeyKind
  generation : ConfigGeneration
  deriving DecidableEq, Inhabited

/-- The result of validating a certificate and its key. -/
structure EndpointCertInfo where
  chain : CertificateChainHandle
  key : PrivateKeyHandle
  compatibleSchemes : List SignatureScheme
  deriving Inhabited

/-- Maximal DER size of a chain. -/
def maxCertChainDerBytes : Nat := 65536

/-- Check a chain against its private key and the configured schemes. -/
def validateEndpointCertKey (chain : CertificateChainHandle) (key : PrivateKeyHandle)
    (configuredSchemes : List SignatureScheme) : Except ConfigError EndpointCertInfo :=
  if chain.chainLen = 0 then
    .error .emptyChain
  else if chain.derSize > maxCertChainDerBytes then
    .error .oversizedDer
  else if ¬ keyKindsMatch chain.leafMeta.publicKeyKind key.keyKind then
    .error .certKeyMismatch
  else
    let capable := schemesForKey chain.leafMeta.publicKeyKind
    let usable := configuredSchemes.filter fun s ↦ capable.contains s
    match usable with
    | [] => .error .certKeyMismatch
    | _ => .ok { chain := chain, key := key, compatibleSchemes := usable }

/-! ## Names, protocols and endpoints -/

/-- An ALPN protocol identifier. -/
structure AlpnProtocol where
  bytes : Bytes
  deriving DecidableEq, Inhabited

/-- Byte equality of identifiers. -/
def AlpnProtocol.eq (a b : AlpnProtocol) : Bool := a.bytes == b.bytes

/-- Membership of an ALPN identifier, by byte equality. -/
def alpnMem (x : AlpnProtocol) (xs : List AlpnProtocol) : Bool := xs.any (·.eq x)

/-- A configured server-name pattern. -/
inductive ServerNamePattern
  | exact (name : Bytes)
  /-- One label, a dot, and the suffix. -/
  | wildcard (suffix : Bytes)
  deriving DecidableEq, Inhabited

/-- What a route resolves to. -/
structure EndpointConfig where
  chain : CertificateChainHandle
  key : PrivateKeyHandle
  allowedAlpn : List AlpnProtocol
  signatureSchemes : List SignatureScheme
  cipherSuites : List CipherSuite
  namedGroups : List NamedGroup := [.x25519, .secp256r1]
  /-- The certificate-chain DER presented on the wire. -/
  der : Bytes := []
  deriving DecidableEq

instance : Inhabited EndpointConfig where
  default := { chain := default, key := default, allowedAlpn := [], signatureSchemes := [],
               cipherSuites := [] }

/-- A configured route. -/
structure SniRoute where
  pattern : ServerNamePattern
  endpoint : EndpointConfig
  deriving Inhabited

/-- Failures of the server-name profile. -/
inductive ServerNameError
  | invalidLength
  | invalidCharacter
  | invalidLabel
  | addressLiteral
  | reservedLdhLabel
  deriving DecidableEq, Inhabited

/-- A canonical DNS server name; the source builds it only by `ValidatedServerName.ofBytes`. -/
structure ValidatedServerName where
  bytes : Bytes
  deriving DecidableEq

/-- Lowercase an ASCII letter. -/
def asciiLower (b : UInt8) : UInt8 :=
  if 0x41 ≤ b && b ≤ 0x5a then b + 0x20 else b

/-- The bytes a server name may contain. -/
def asciiNameByte (b : UInt8) : Bool :=
  (0x41 ≤ b && b ≤ 0x5a) || (0x61 ≤ b && b ≤ 0x7a) || (0x30 ≤ b && b ≤ 0x39) || b == 0x2d ||
    b == 0x2e

/-- A lowercase letter or a digit. -/
def asciiAlphaNum (b : UInt8) : Bool :=
  (0x61 ≤ b && b ≤ 0x7a) || (0x30 ≤ b && b ≤ 0x39)

/-- The loop of `splitLabels`. -/
def splitLabelsGo : List UInt8 → List UInt8 → List (List UInt8) → List (List UInt8)
  | [], current, acc => (current.reverse :: acc).reverse
  | b :: tail, current, acc =>
    if b == 0x2e then splitLabelsGo tail [] (current.reverse :: acc)
    else splitLabelsGo tail (b :: current) acc

/-- Split a name at its dots. -/
def splitLabels (bytes : List UInt8) : List (List UInt8) := splitLabelsGo bytes [] []

/-- A label with `--` in its third and fourth place. -/
def reservedLdhLabel (label : List UInt8) : Bool :=
  label.length ≥ 4 && label.getD 2 0 == 0x2d && label.getD 3 0 == 0x2d

/-- A well-formed label. -/
def validDnsLabel (label : List UInt8) : Bool :=
  !label.isEmpty && label.length ≤ 63 && asciiAlphaNum (label.headD 0) &&
    asciiAlphaNum (label.getLastD 0) && label.all fun b ↦ asciiAlphaNum b || b == 0x2d

/-- A decimal number of at most 255. -/
def decimalOctet (label : List UInt8) : Bool :=
  !label.isEmpty && (label.all fun b ↦ 0x30 ≤ b && b ≤ 0x39) &&
    label.foldl (fun n b ↦ n * 10 + (b - 0x30).toNat) 0 ≤ 255

/-- Validate and lowercase one DNS server name. -/
def ValidatedServerName.ofBytes (input : Bytes) : Except ServerNameError ValidatedServerName :=
  if input.length == 0 || input.length > 253 then .error .invalidLength
  else if !input.all asciiNameByte then .error .invalidCharacter
  else
    let canonical := input.map asciiLower
    let labels := splitLabels canonical
    if !labels.all validDnsLabel then .error .invalidLabel
    else if labels.any reservedLdhLabel then .error .reservedLdhLabel
    else if labels.length == 4 && labels.all decimalOctet then .error .addressLiteral
    else .ok ⟨canonical⟩

/-- Byte equality of names. -/
def ValidatedServerName.eq (a b : ValidatedServerName) : Bool := a.bytes == b.bytes

/-- A validated pattern. -/
inductive ValidatedServerNamePattern
  | exact (name : ValidatedServerName)
  | wildcard (suffix : ValidatedServerName)
  deriving DecidableEq

/-- A validated route. -/
structure ValidatedSniRoute where
  pattern : ValidatedServerNamePattern
  endpoint : EndpointConfig
  deriving DecidableEq

/-- How ALPN is selected. -/
inductive AlpnSelectionMode
  | serverPreference
  | clientPreferenceWithinAllowed
  | requireOverlap
  deriving DecidableEq, Inhabited

/-- Whose order wins a selection. -/
inductive AlpnPreference
  | server
  | client
  deriving DecidableEq

/-- What an offer without overlap means. -/
inductive AlpnNoOverlapPolicy
  | proceedWithoutProtocol
  | fatal
  deriving DecidableEq

def AlpnSelectionMode.preference : AlpnSelectionMode → AlpnPreference
  | .serverPreference => .server
  | .clientPreferenceWithinAllowed => .client
  | .requireOverlap => .server

def AlpnSelectionMode.noOverlapPolicy : AlpnSelectionMode → AlpnNoOverlapPolicy
  | .serverPreference => .proceedWithoutProtocol
  | .clientPreferenceWithinAllowed => .proceedWithoutProtocol
  | .requireOverlap => .fatal

/-- What ALPN negotiation establishes; `notOffered` means that there was no extension. -/
inductive AlpnDecision
  | notOffered
  | selected (p : AlpnProtocol)
  | noOverlap
  deriving DecidableEq, Inhabited

/-! ## Limits -/

/-- Configured ceilings of a connection. -/
structure ResourceLimits where
  maxHandshakeBytes : Nat := 65536
  maxClientHelloBytes : Nat := 16384
  maxPendingCryptoOps : Nat := 16
  maxPendingCiphertextBytes : Nat := 1048576
  maxProgressStepsPerCall : Nat := 256
  deriving DecidableEq

instance : Inhabited ResourceLimits := ⟨{}⟩

/-- The standard ceilings. -/
def ResourceLimits.standard : ResourceLimits := {}

/-- Length of a suite's authentication tag. -/
def CipherSuite.aeadTagBytes : CipherSuite → Nat
  | .aes128GcmSha256 => 16
  | .aes256GcmSha384 => 16
  | .chacha20Poly1305Sha256 => 16

/-- Wire expansion of a protected record: header, inner type byte and tag. -/
def protectedRecordOverhead (suite : CipherSuite) : Nat := 5 + 1 + suite.aeadTagBytes

/-- The largest plaintext prefix whose record fits a ciphertext budget. -/
def maxPlaintextForProtectedBudget (suite : CipherSuite) (ciphertextBudget : Nat) : Nat :=
  let overhead := protectedRecordOverhead suite
  if ciphertextBudget ≤ overhead then 0
  else min maxPlaintextFragment (ciphertextBudget - overhead)

/-- Length of the smallest protected record. -/
def minProtectedRecordLen : Nat := 1 + protectedRecordOverhead .aes128GcmSha256

/-- The configuration before validation. -/
structure ServerConfig where
  defaultEndpoint : Option EndpointConfig
  sniRoutes : List SniRoute
  alpnMode : AlpnSelectionMode
  limits : ResourceLimits := ResourceLimits.standard
  deriving Inhabited

/-- The configuration after validation. -/
structure ValidatedServerConfig where
  generation : ConfigGeneration
  defaultEndpoint : Option EndpointConfig
  sniRoutes : List ValidatedSniRoute
  alpnMode : AlpnSelectionMode
  limits : ResourceLimits
  deriving DecidableEq, Inhabited

/-- The placeholder configuration `State.initial` starts with. -/
def ValidatedServerConfig.baseline : ValidatedServerConfig :=
  { (default : ValidatedServerConfig) with
    limits := ResourceLimits.standard
    defaultEndpoint := some
      { (default : EndpointConfig) with
        signatureSchemes := [.ed25519, .ecdsaSecp256r1Sha256, .rsaPssRsaeSha256] } }

/-! ## SNI matching -/

/-- The loop of `firstDotIdx`. -/
def firstDotIdxGo : List UInt8 → Nat → Option Nat
  | [], _ => none
  | b :: rest, i => if b = 0x2e then some i else firstDotIdxGo rest (i + 1)

/-- Index of the first dot. -/
def firstDotIdx (l : List UInt8) : Option Nat := firstDotIdxGo l 0

/-- Whether a name matches a validated pattern. -/
def validatedPatternMatches (pattern : ValidatedServerNamePattern) (name : ValidatedServerName) :
    Bool :=
  match pattern with
  | .exact p => p.eq name
  | .wildcard suffix =>
    match firstDotIdx name.bytes with
    | none => false
    | some i =>
      let label := name.bytes.take i
      let rest := name.bytes.drop (i + 1)
      label.length > 0 && rest == suffix.bytes

/-- Two patterns matching the same names. -/
def validatedPatternsConflict : ValidatedServerNamePattern → ValidatedServerNamePattern → Bool
  | .exact a, .exact b => a.eq b
  | .wildcard a, .wildcard b => a.eq b
  | _, _ => false

/-! ## Validation -/

/-- Are there two routes whose patterns conflict? -/
def hasAmbiguousValidatedRoutes : List ValidatedSniRoute → Bool
  | [] => false
  | r :: rest =>
    (rest.any fun r2 ↦ validatedPatternsConflict r.pattern r2.pattern) ||
      hasAmbiguousValidatedRoutes rest

def validateSniPattern : ServerNamePattern → Except ConfigError ValidatedServerNamePattern
  | .exact name =>
    match ValidatedServerName.ofBytes name with
    | .ok n => .ok (.exact n)
    | .error _ => .error .invalidSniPattern
  | .wildcard suffix =>
    match ValidatedServerName.ofBytes suffix with
    | .ok n => .ok (.wildcard n)
    | .error _ => .error .invalidSniPattern

def validateSniRoutes : List SniRoute → Except ConfigError (List ValidatedSniRoute)
  | [] => .ok []
  | r :: rest => do
    let pattern ← validateSniPattern r.pattern
    let tail ← validateSniRoutes rest
    pure ({ pattern := pattern, endpoint := r.endpoint } :: tail)

/-- Validate one endpoint: a suite, well-formed ALPN identifiers, a matching key. -/
def validateEndpoint (e : EndpointConfig) : Except ConfigError Unit :=
  match e.cipherSuites with
  | [] => .error .noCipherSuite
  | _ =>
    if e.allowedAlpn.any fun a ↦ a.bytes.length == 0 || decide (a.bytes.length > 255) then
      .error .invalidAlpn
    else
      match validateEndpointCertKey e.chain e.key e.signatureSchemes with
      | .error err => .error err
      | .ok _ => .ok ()

/-- Every enforced ceiling must be usable. -/
def validLimits (l : ResourceLimits) : Bool :=
  decide (l.maxHandshakeBytes > 0)
    && decide (l.maxClientHelloBytes > 0)
    && decide (l.maxClientHelloBytes ≤ l.maxHandshakeBytes)
    && decide (l.maxPendingCryptoOps > 0)
    && decide (l.maxPendingCiphertextBytes ≥ minProtectedRecordLen)
    && decide (l.maxProgressStepsPerCall > 0)

/-- The loop of `validateServerConfig` over the routes. -/
def validateServerConfigCheckAll : List ValidatedSniRoute → Except ConfigError Unit
  | [] => .ok ()
  | r :: rest =>
    match validateEndpoint r.endpoint with
    | .error e => .error e
    | .ok _ => validateServerConfigCheckAll rest

/-- Validate a configuration and stamp its generation. -/
def validateServerConfig (cfg : ServerConfig) (gen : ConfigGeneration) :
    Except ConfigError ValidatedServerConfig :=
  match validateSniRoutes cfg.sniRoutes with
  | .error e => .error e
  | .ok routes =>
    if hasAmbiguousValidatedRoutes routes then
      .error .ambiguousSni
    else if ¬ validLimits cfg.limits then
      .error .invalidLimits
    else
      match validateServerConfigCheckAll routes with
      | .error e => .error e
      | .ok _ =>
        match cfg.defaultEndpoint with
        | some d =>
          match validateEndpoint d with
          | .error e => .error e
          | .ok _ =>
            .ok { generation := gen, defaultEndpoint := cfg.defaultEndpoint, sniRoutes := routes,
                  alpnMode := cfg.alpnMode, limits := cfg.limits }
        | none =>
          .ok { generation := gen, defaultEndpoint := none, sniRoutes := routes,
                alpnMode := cfg.alpnMode, limits := cfg.limits }

/-! ## Selection -/

/-- The endpoint for an optional SNI name.  A present name is validated again; exact routes come
before wildcards, and a valid name without a route falls back to the default. -/
def selectEndpoint (cfg : ValidatedServerConfig) (sni : Option Bytes) : Option EndpointConfig :=
  match sni with
  | none => cfg.defaultEndpoint
  | some rawName =>
    match ValidatedServerName.ofBytes rawName with
    | .error _ => none
    | .ok name =>
      let exactHit := cfg.sniRoutes.find? fun r ↦
        match r.pattern with
        | .exact p => p.eq name
        | _ => false
      match exactHit with
      | some r => some r.endpoint
      | none =>
        let wildHit := cfg.sniRoutes.find? fun r ↦ validatedPatternMatches r.pattern name
        match wildHit with
        | some r => some r.endpoint
        | none => cfg.defaultEndpoint

/-- ALPN negotiation: a fact about the two lists, with no policy applied. -/
def negotiateAlpn (preference : AlpnPreference) (offered : Option (List AlpnProtocol))
    (allowed : List AlpnProtocol) : AlpnDecision :=
  match offered with
  | none => .notOffered
  | some os =>
    let pick := match preference with
      | .client => os.find? fun a ↦ alpnMem a allowed
      | .server => allowed.find? fun a ↦ alpnMem a os
    match pick with
    | some p => .selected p
    | none => .noOverlap

end Kroopt.Core
