import Kroopt.Core.Record

/-!
# The secret arena and the crypto provider

`SecretArena` is the bounded, generation-tagged store behind `SecretKeyHandle`, with the index of
installed record keys.  A `CryptoProvider` answers a crypto operation and threads the arena;
`fakeProvider` is the deterministic provider of the source's model tests.
-/

set_option autoImplicit false

namespace Kroopt.Crypto

open Kroopt.Core (SecretKeyHandle Direction Epoch CipherSuite CryptoOp CryptoResult OperationId)

/-- The secret store. -/
structure SecretArena where
  entries : List (UInt64 × Bytes)
  released : List UInt64
  nextId : UInt64
  generation : UInt64
  capacity : Nat
  /-- Ids of the installed key and IV, by direction and epoch. -/
  installed : List (Direction × Epoch × UInt64 × UInt64) := []
  /-- Id of the traffic secret, by direction and epoch. -/
  baseSecrets : List (Direction × Epoch × UInt64) := []
  /-- The suite the keys were installed under, by direction and epoch. -/
  installedSuites : List (Direction × Epoch × CipherSuite) := []
  deriving DecidableEq, Inhabited

namespace SecretArena

/-- An empty arena with a capacity. -/
def withCapacity (cap : Nat) (gen : UInt64) : SecretArena where
  entries := []
  released := []
  nextId := 1
  generation := gen
  capacity := cap

/-- The default arena. -/
def empty : SecretArena := withCapacity 64 0

/-- Store secret bytes, unless the arena is full. -/
def store (a : SecretArena) (bytes : Bytes) : Except CryptoError (SecretKeyHandle × SecretArena) :=
  if a.entries.length ≥ a.capacity then
    .error .providerInternal
  else
    let id := a.nextId
    let h : SecretKeyHandle := ⟨id, a.generation⟩
    .ok (h, { a with entries := (id, bytes) :: a.entries, nextId := id + 1 })

/-- The bytes a handle names, unless it is stale or released. -/
def get (a : SecretArena) (h : SecretKeyHandle) : Option Bytes :=
  if h.generation == a.generation then
    (a.entries.find? fun e ↦ e.1 == h.id).map fun e ↦ e.2
  else none

/-- Release a secret. -/
def release (a : SecretArena) (h : SecretKeyHandle) : SecretArena :=
  { a with entries := a.entries.filter fun e ↦ e.1 != h.id
           released := h.id :: a.released }

/-- Drop every secret and invalidate every handle. -/
def bumpGeneration (a : SecretArena) : SecretArena :=
  { a with entries := [], released := [], installed := [], baseSecrets := []
           installedSuites := [], generation := a.generation + 1, nextId := 1 }

/-- Record the ids of an installed key and IV. -/
def recordInstalled (a : SecretArena) (dir : Direction) (epoch : Epoch) (keyId ivId : UInt64) :
    SecretArena :=
  { a with installed := (dir, epoch, keyId, ivId) :: a.installed }

/-- The ids of the key and IV installed for a direction and epoch. -/
def lookupInstalled (a : SecretArena) (dir : Direction) (epoch : Epoch) :
    Option (UInt64 × UInt64) :=
  (a.installed.find? fun e ↦ decide (e.1 = dir) && decide (e.2.1 = epoch)).map
    fun e ↦ (e.2.2.1, e.2.2.2)

/-- Record the suite the keys of a direction and epoch were installed under. -/
def recordInstalledSuite (a : SecretArena) (dir : Direction) (epoch : Epoch)
    (suite : CipherSuite) : SecretArena :=
  { a with installedSuites := (dir, epoch, suite) :: a.installedSuites }

/-- The suite installed for a direction and epoch. -/
def lookupInstalledSuite (a : SecretArena) (dir : Direction) (epoch : Epoch) :
    Option CipherSuite :=
  (a.installedSuites.find? fun e ↦ decide (e.1 = dir) && decide (e.2.1 = epoch)).map fun e ↦ e.2.2

/-- Record the id of the traffic secret of a direction and epoch. -/
def recordBaseSecret (a : SecretArena) (dir : Direction) (epoch : Epoch) (secretId : UInt64) :
    SecretArena :=
  { a with baseSecrets := (dir, epoch, secretId) :: a.baseSecrets }

/-- The id of the traffic secret of a direction and epoch. -/
def lookupBaseSecret (a : SecretArena) (dir : Direction) (epoch : Epoch) : Option UInt64 :=
  (a.baseSecrets.find? fun e ↦ decide (e.1 = dir) && decide (e.2.1 = epoch)).map fun e ↦ e.2.2

/-- The bytes stored under an id. -/
def getById (a : SecretArena) (id : UInt64) : Option Bytes :=
  (a.entries.find? fun e ↦ e.1 == id).map fun e ↦ e.2

/-- The traffic secret of a direction and epoch, if it is recorded and still stored. -/
def trafficSecret (a : SecretArena) (dir : Direction) (epoch : Epoch) : Option Bytes :=
  (a.lookupBaseSecret dir epoch).bind a.getById

end SecretArena

/-- A crypto provider: it answers an operation and threads the arena. -/
structure CryptoProvider where
  submit : SecretArena → OperationId → CryptoOp → Except CryptoError (SecretArena × CryptoResult)

/-- The answers of the fake provider: placeholder secrets, identity seals, scripted signatures.  It
acknowledges a key installation without recording anything. -/
def fakeSubmit (a : SecretArena) (_ : OperationId) :
    CryptoOp → Except CryptoError (SecretArena × CryptoResult)
  | .randomBytes _ => .ok (a, .randomBytes [])
  | .ecdheX25519 _ => do
    let (h, a') ← a.store (List.replicate 32 0)
    .ok (a', .ecdheComplete (List.replicate 32 0) h)
  | .ecdheP256 _ => do
    let (h, a') ← a.store (List.replicate 32 0)
    .ok (a', .ecdheComplete (List.replicate 65 0) h)
  | .hkdfExtract _ _ _ => do
    let (h, a') ← a.store (List.replicate 32 0)
    .ok (a', .hkdfSecret h)
  | .hkdfExpandLabel _ _ _ _ _ => do
    let (h, a') ← a.store (List.replicate 32 0)
    .ok (a', .hkdfSecret h)
  | .installTrafficKeys _ _ _ _ => .ok (a, .keysInstalled)
  | .aeadSeal _ _ pt => .ok (a, .aeadSealed pt)
  | .aeadOpen _ _ ct => .ok (a, .aeadOpened ct)
  | .signCertificateVerify _ _ => .ok (a, .signature (List.replicate 64 0xCD))
  | .verifyFinished _ _ _ => .ok (a, .verified)
  | .computeServerFinished _ _ => .ok (a, .finishedMac (List.replicate 32 0xEF))

/-- The fake provider. -/
def fakeProvider : CryptoProvider where
  submit := fakeSubmit

end Kroopt.Crypto
