import Kroopt.Core.Handshake
import Kroopt.Parse.Reader

/-!
# The ClientHello parser

Exact framing of a ClientHello (`frameClientHelloBody`), then the semantic checks
(`validateFramedClientHello`): TLS 1.3 is offered, a recognised key share of a listed group is
present, a suite and a signature scheme are recognised, no extension is sent twice.  On success the
value is bound to the exact bytes it was read from.
-/

set_option autoImplicit false

namespace Kroopt.Parse

open Kroopt.Core (ValidClientHello CipherSuite NamedGroup SignatureScheme ValidatedServerName)

/-! ## Parse budgets -/

def maxExtensions : Nat := 64
def maxCipherSuites : Nat := 128
def maxKeyShares : Nat := 32
def maxVectorLen : Nat := 65535

/-- The suite of a code point. -/
def suiteOfU16 : UInt16 → Option CipherSuite
  | 0x1301 => some .aes128GcmSha256
  | 0x1302 => some .aes256GcmSha384
  | 0x1303 => some .chacha20Poly1305Sha256
  | _ => none

/-! ## Vectors -/

/-- Parse 16-bit items to the end of a reader. -/
def parseU16Items (r : Reader) : Except ParseError (List UInt16 × Reader) :=
  r.takeCountedItems r.remaining fun rr ↦ rr.takeU16

/-- Parse one complete, non-empty vector of 16-bit items. -/
def parseNonemptyU16Vector (data : Bytes) (lp : LenPrefix) : Except ParseError (List UInt16) := do
  let (items, outer) ← (Reader.ofBytes data).takeVectorExact lp maxVectorLen parseU16Items
  outer.expectEnd
  if items.isEmpty then throw .valueOutOfRange
  pure items

def parseSupportedVersions (data : Bytes) : Except ParseError (List UInt16) :=
  parseNonemptyU16Vector data .len8

def parseSupportedGroups (data : Bytes) : Except ParseError (List UInt16) :=
  parseNonemptyU16Vector data .len16

def parseSignatureAlgorithms (data : Bytes) : Except ParseError (List UInt16) :=
  parseNonemptyU16Vector data .len16

/-- An extension: its type and its data. -/
abbrev RawExtension := UInt16 × Bytes

/-- Parse one extension. -/
def parseExtension (r : Reader) : Except ParseError (RawExtension × Reader) :=
  match r.takeU16 with
  | .error e => .error e
  | .ok (ty, r1) =>
    match r1.takeVectorBytes .len16 maxVectorLen with
    | .error e => .error e
    | .ok (data, r2) => .ok ((ty, data), r2)

/-- Parse one key-share entry. -/
def parseKeyShareEntry (r : Reader) : Except ParseError ((UInt16 × Bytes) × Reader) :=
  match r.takeU16 with
  | .error e => .error e
  | .ok (group, r1) =>
    match r1.takeVectorBytes .len16 maxVectorLen with
    | .error e => .error e
    | .ok (ke, r2) => if ke.isEmpty then .error .valueOutOfRange else .ok ((group, ke), r2)

/-- The loop of `hasDuplicateExt`. -/
def hasDuplicateExtGo : List UInt16 → Bool
  | [] => false
  | t :: rest => rest.contains t || hasDuplicateExtGo rest

/-- Is an extension type sent twice? -/
def hasDuplicateExt (exts : List RawExtension) : Bool := hasDuplicateExtGo (exts.map Prod.fst)

/-- The data of an extension. -/
def findExt (exts : List RawExtension) (ty : UInt16) : Option Bytes :=
  (exts.find? fun e ↦ e.fst == ty).map Prod.snd

/-! ## Server name and ALPN -/

/-- What the server-name extension says; presence without a supported name is not absence. -/
inductive SniOffer
  | absent
  | hostName (name : ValidatedServerName)
  | presentWithoutSupportedName

/-- A server name with its type. -/
abbrev RawServerName := UInt8 × Bytes

def parseServerNameEntry (r : Reader) : Except ParseError (RawServerName × Reader) :=
  match r.takeU8 with
  | .error e => .error e
  | .ok (nameType, r1) =>
    match r1.takeVectorBytes .len16 maxVectorLen with
    | .error e => .error e
    | .ok (name, r2) =>
      if name.isEmpty then .error .valueOutOfRange else .ok ((nameType, name), r2)

def parseServerNameItems (r : Reader) : Except ParseError (List RawServerName × Reader) :=
  r.takeCountedItems r.remaining parseServerNameEntry

def hasDuplicateServerNameTypes (names : List RawServerName) : Bool :=
  let types := names.map Prod.fst
  types.any fun ty ↦ (types.filter (· == ty)).length > 1

/-- Parse the server-name extension. -/
def parseSni (ext : Bytes) : Except ParseError SniOffer := do
  let (names, outer) ←
    (Reader.ofBytes ext).takeVectorExact .len16 maxVectorLen parseServerNameItems
  outer.expectEnd
  if names.isEmpty || hasDuplicateServerNameTypes names then throw .valueOutOfRange
  match names.find? fun n ↦ n.fst == 0 with
  | none => pure .presentWithoutSupportedName
  | some (_, raw) =>
    match ValidatedServerName.ofBytes raw with
    | .error _ => throw .valueOutOfRange
    | .ok name => pure (.hostName name)

def parseAlpnProtocol (r : Reader) : Except ParseError (Bytes × Reader) :=
  match r.takeVectorBytes .len8 255 with
  | .error e => .error e
  | .ok (name, outer) => if name.isEmpty then .error .valueOutOfRange else .ok (name, outer)

def parseAlpnItems (r : Reader) : Except ParseError (List Bytes × Reader) :=
  r.takeCountedItems r.remaining parseAlpnProtocol

/-- Parse the ALPN extension: one exact, non-empty list of non-empty names. -/
def parseAlpnStrict (ext : Bytes) : Except ParseError (List Bytes) := do
  let (names, outer) ← (Reader.ofBytes ext).takeVectorExact .len16 maxVectorLen parseAlpnItems
  outer.expectEnd
  if names.isEmpty then throw .valueOutOfRange
  pure names

/-! ## Versions, groups and key shares -/

/-- Whether TLS 1.3 is among the supported versions. -/
def offersTls13 (exts : List RawExtension) : Except ParseError Bool :=
  match findExt exts 43 with
  | none => .ok false
  | some d => (parseSupportedVersions d).map (·.contains 0x0304)

/-- Is a group sent twice? -/
def hasDupGroupIds (entries : List (UInt16 × Bytes)) : Bool :=
  let ids := entries.map (·.fst)
  ids.any fun x ↦ (ids.filter (· == x)).length > 1

/-- The group ids of the supported-groups extension, if it is present. -/
def supportedGroupIds (exts : List RawExtension) : Except ParseError (Option (List UInt16)) :=
  match findExt exts 0x000a with
  | none => .ok none
  | some d => (parseSupportedGroups d).map some

def parseKeyShareEntries (data : Bytes) : Except ParseError (List (UInt16 × Bytes)) := do
  let (entries, outer) ← (Reader.ofBytes data).takeVectorExact .len16 maxVectorLen
    fun inner ↦ inner.takeCountedItems maxKeyShares parseKeyShareEntry
  outer.expectEnd
  if entries.isEmpty then throw .valueOutOfRange
  pure entries

/-- The recognised key shares, in client order. -/
def findOfferedKeyShares (exts : List RawExtension) :
    Except ParseError (List (NamedGroup × Bytes)) := do
  let some data := findExt exts 51 | throw .valueOutOfRange
  let entries ← parseKeyShareEntries data
  let some groups ← supportedGroupIds exts | throw .valueOutOfRange
  if hasDupGroupIds entries then throw .valueOutOfRange
  if entries.any fun e ↦ !(groups.contains e.fst) then throw .valueOutOfRange
  let malformedRecognized := entries.any fun e ↦
    if e.fst == 0x001d then e.snd.length != 32
    else if e.fst == 0x0017 then !(e.snd.length == 65 && e.snd.getD 0 0 == 0x04)
    else false
  if malformedRecognized then throw .valueOutOfRange
  let recognized : List (NamedGroup × Bytes) := entries.filterMap fun e ↦
    if e.fst == 0x001d then some (.x25519, e.snd)
    else if e.fst == 0x0017 then some (.secp256r1, e.snd)
    else none
  if recognized.isEmpty then throw .valueOutOfRange
  pure recognized

/-- The first offered suite that is supported. -/
def selectSuite (offered : List UInt16) : Option CipherSuite :=
  offered.foldl (fun acc c ↦ acc.orElse fun _ ↦ suiteOfU16 c) none

/-- The signature scheme of a code point. -/
def sigSchemeOfU16 : UInt16 → Option SignatureScheme
  | 0x0807 => some .ed25519
  | 0x0403 => some .ecdsaSecp256r1Sha256
  | 0x0804 => some .rsaPssRsaeSha256
  | _ => none

/-- The recognised signature schemes, in client order. -/
def recognizedSigSchemes (offered : List UInt16) : List SignatureScheme :=
  offered.filterMap sigSchemeOfU16

/-- The offered signature-scheme codes. -/
def clientSigSchemeCodes (exts : List RawExtension) : Except ParseError (List UInt16) :=
  match findExt exts 0x000d with
  | none => .ok []
  | some d => parseSignatureAlgorithms d

/-! ## The message -/

def parseExtensionItems (r : Reader) : Except ParseError (List RawExtension × Reader) :=
  if r.input.length < 8 then .error .valueOutOfRange
  else r.takeCountedItems maxExtensions parseExtension

/-- The framed fields of a ClientHello, before any semantic check. -/
structure FramedClientHello where
  sessionId : Bytes
  offeredSuites : List UInt16
  extensions : List RawExtension

def frameClientHelloBody (r : Reader) : Except ParseError (FramedClientHello × Reader) :=
  match r.takeU16 with
  | .error e => .error e
  | .ok (legacyVersion, r1) =>
    if legacyVersion != 0x0303 then .error .valueOutOfRange else
    match r1.takeBytes 32 with
    | .error e => .error e
    | .ok (_, r2) =>
      match r2.takeVectorBytes .len8 32 with
      | .error e => .error e
      | .ok (sessionId, r3) =>
        match r3.takeVectorExact .len16 (2 * maxCipherSuites) parseU16Items with
        | .error e => .error e
        | .ok (offeredSuites, r4) =>
          if offeredSuites.isEmpty then .error .valueOutOfRange else
          match r4.takeVectorBytes .len8 maxVectorLen with
          | .error e => .error e
          | .ok (compression, r5) =>
            if !(compression.length == 1 && compression.getD 0 0 == 0) then
              .error .valueOutOfRange
            else
              match r5.takeVectorExact .len16 maxVectorLen parseExtensionItems with
              | .error e => .error e
              | .ok (exts, r6) =>
                .ok ({ sessionId := sessionId, offeredSuites := offeredSuites,
                       extensions := exts }, r6)

/-- The semantic checks of a framed ClientHello. -/
def validateFramedClientHello (framed : FramedClientHello) :
    Except ParseError ValidClientHello := do
  let exts := framed.extensions
  if hasDuplicateExt exts then throw .valueOutOfRange
  if !(← offersTls13 exts) then throw .valueOutOfRange
  let offeredShares ← findOfferedKeyShares exts
  let some suite := selectSuite framed.offeredSuites | throw .valueOutOfRange
  let offeredSchemes := recognizedSigSchemes (← clientSigSchemeCodes exts)
  if offeredSchemes.isEmpty then throw .valueOutOfRange
  let alpnField ← match findExt exts 16 with
    | none => pure (none : Option (List Bytes))
    | some d => pure (some (← parseAlpnStrict d))
  let sniField ← match findExt exts 0 with
    | none => pure (none : Option Bytes)
    | some d =>
      match ← parseSni d with
      | .hostName name => pure (some name.bytes)
      | .presentWithoutSupportedName => throw .valueOutOfRange
      | .absent => throw .valueOutOfRange
  pure
    { selectedSuite := suite
      offeredShares := offeredShares
      offeredSigSchemes := offeredSchemes
      sni := sniField
      alpn := alpnField
      sessionId := framed.sessionId }

def parseClientHelloBody (r : Reader) : Except ParseError (ValidClientHello × Reader) :=
  match frameClientHelloBody r with
  | .error e => .error e
  | .ok (framed, outer) =>
    match validateFramedClientHello framed with
    | .error e => .error e
    | .ok vch => .ok (vch, outer)

/-- Parse and validate a ClientHello message. -/
def parseClientHello (input : Bytes) : Except ParseError (Core.WireBound ValidClientHello) :=
  let r := Reader.ofBytes input
  match r.takeU8 with
  | .error e => .error e
  | .ok (msgType, r1) =>
    if msgType != 1 then .error .valueOutOfRange else
    match r1.takeVectorExact .len24 r1.remaining parseClientHelloBody with
    | .error e => .error e
    | .ok (vch, outer) =>
      match outer.expectEnd with
      | .error e => .error e
      | .ok _ => .ok { value := vch, wireBytes := input }

/-- **Exact binding.**  What is parsed is bound to the bytes it was parsed from, and they are not
empty. -/
theorem parseClientHello_wireBytes {input : Bytes} {wb : Core.WireBound ValidClientHello}
    (h : parseClientHello input = .ok wb) : wb.wireBytes = input ∧ input ≠ [] := by
  unfold parseClientHello at h
  have hne : input ≠ [] := by
    rintro rfl
    simp [Reader.takeU8, Reader.takeBytes, Reader.ofBytes] at h
  simp only at h
  split at h
  · cases h
  · split at h
    · cases h
    · split at h
      · cases h
      · split at h
        · cases h
        · cases h
          exact ⟨rfl, hne⟩

end Kroopt.Parse
