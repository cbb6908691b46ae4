import Kroopt.Native.HaclStar

/-!
# The glue

The functions of `kroopt_ffi.c` and `kroopt_aesgcm.c` that check lengths and make one call of the
vendored library.  A violated length or a failed call is reported in the returned array, in one of
two ways: the array is empty, or its first byte, the status, is 1 and the rest is zero.
-/

set_option autoImplicit false

namespace Kroopt.Native

/-- The array of a failed call with a status byte: `size` zeroed bytes behind it. -/
def failure (size : Nat) : Bytes := 1 :: List.replicate size 0

/-- The array of a call with a status byte, from what the library returned. -/
def statusOf {size : Nat} : Option (Memory.Region UInt8 size) → Bytes
  | some out => 0 :: out.cells
  | none => failure size

variable [HaclStar]

/-! ## Hashing and key derivation -/

def sha256 (input : Bytes) : Bytes :=
  if !lenU32Ok input then [] else (HaclStar.hash256 input).cells

def sha384 (input : Bytes) : Bytes :=
  if !lenU32Ok input then [] else (HaclStar.hash384 input).cells

def hkdfExtract256 (salt ikm : Bytes) : Bytes :=
  if !lenU32Ok salt || !lenU32Ok ikm then [] else (HaclStar.hkdfExtractSha256 salt ikm).cells

def hkdfExpand256 (prk info : Bytes) (len : UInt32) : Bytes :=
  if !lenU32Ok prk || !lenU32Ok info then [] else (HaclStar.hkdfExpandSha256 prk info len).cells

def hmac256 (key msg : Bytes) : Bytes :=
  if !lenU32Ok key || !lenU32Ok msg then [] else (HaclStar.hmacSha256 key msg).cells

def hmac384 (key msg : Bytes) : Bytes :=
  if !lenU32Ok key || !lenU32Ok msg then [] else (HaclStar.hmacSha384 key msg).cells

/-- HKDF-Extract-SHA384 is a single HMAC. -/
def hkdfExtract384 (salt ikm : Bytes) : Bytes :=
  if !lenU32Ok salt || !lenU32Ok ikm then [] else (HaclStar.hmacSha384 salt ikm).cells

/-! ## Key exchange -/

def x25519Public (priv : Bytes) : Bytes :=
  if priv.length ≠ 32 then [] else (HaclStar.curve25519SecretToPublic priv).cells

def x25519Shared (priv peer : Bytes) : Bytes :=
  if priv.length ≠ 32 ∨ peer.length ≠ 32 then failure 32
  else statusOf (HaclStar.curve25519Ecdh priv peer)

def p256Public (priv : Bytes) : Bytes :=
  if priv.length ≠ 32 then []
  else match HaclStar.ecp256dhI priv with
    | some out => 0x04 :: out.cells
    | none => []

/-- The shared secret is the X coordinate of the shared point. -/
def p256Shared (priv peer : Bytes) : Bytes :=
  if priv.length ≠ 32 ∨ peer.length ≠ 65 ∨ peer.headD 0 ≠ 0x04 then failure 32
  else match HaclStar.ecp256dhR peer.tail priv with
    | some shared => 0 :: shared.cells.take 32
    | none => failure 32

/-! ## Record protection -/

/-- `kroopt_ffi_aead_seal`. -/
def chachaPolySeal (key nonce aad pt : Bytes) : Bytes :=
  if key.length ≠ 32 ∨ nonce.length ≠ 12 ∨ aad.length > uint32Max ∨ pt.length > uint32Max then []
  else (HaclStar.chacha20Poly1305Encrypt key nonce aad pt).cells

/-- `kroopt_ffi_aead_open`. -/
def chachaPolyOpen (key nonce aad ctTag : Bytes) : Bytes :=
  if key.length ≠ 32 ∨ nonce.length ≠ 12 ∨ aad.length > uint32Max ∨ ctTag.length < 16 ∨
      ctTag.length - 16 > uint32Max then [1]
  else
    let mlen := ctTag.length - 16
    match HaclStar.chacha20Poly1305Decrypt key nonce aad (ctTag.take mlen) (ctTag.drop mlen) with
    | some pt => 0 :: pt.cells
    | none => failure mlen

/-- `gcm_seal`: besides the lengths, EverCrypt has to create a state on this machine. -/
def gcmSeal (alg : AeadAlg) (keyLen : Nat) (key nonce aad pt : Bytes) : Bytes :=
  if key.length ≠ keyLen ∨ nonce.length ≠ 12 ∨ aad.length > uint32Max ∨ pt.length > uint32Max then
    []
  else if !HaclStar.cpu.supportsAesGcm then []
  else (HaclStar.aeadEncrypt alg key nonce aad pt).cells

/-- `gcm_open`. -/
def gcmOpen (alg : AeadAlg) (keyLen : Nat) (key nonce aad ctTag : Bytes) : Bytes :=
  if key.length ≠ keyLen ∨ nonce.length ≠ 12 ∨ aad.length > uint32Max ∨ ctTag.length < 16 ∨
      ctTag.length - 16 > uint32Max then [1]
  else if !HaclStar.cpu.supportsAesGcm then [1]
  else
    let mlen := ctTag.length - 16
    match HaclStar.aeadDecrypt alg key nonce aad (ctTag.take mlen) (ctTag.drop mlen) with
    | some pt => 0 :: pt.cells
    | none => failure mlen

def aes128GcmSeal : (key nonce aad pt : Bytes) → Bytes := gcmSeal .aes128Gcm 16

def aes128GcmOpen : (key nonce aad ctTag : Bytes) → Bytes := gcmOpen .aes128Gcm 16

def aes256GcmSeal : (key nonce aad pt : Bytes) → Bytes := gcmSeal .aes256Gcm 32

def aes256GcmOpen : (key nonce aad ctTag : Bytes) → Bytes := gcmOpen .aes256Gcm 32

/-! ## Signatures -/

def ed25519Sign (priv msg : Bytes) : Bytes :=
  if priv.length ≠ 32 ∨ !lenU32Ok msg then [] else (HaclStar.ed25519Sign priv msg).cells

def ecdsaP256Sign (m priv k : Bytes) : Bytes :=
  if priv.length ≠ 32 ∨ k.length ≠ 32 ∨ m.length > uint32Max then failure 64
  else statusOf (HaclStar.ecdsaSignP256Sha2 m priv k)

/-- The part of the RSA-PSS functions behind the checks: load the key, then sign into a buffer as
long as the modulus.  The bit lengths are computed as `uint32_t`. -/
def rsapssSignWith (n e d salt msg : Bytes) : Bytes :=
  let modBits := UInt32.ofNat (n.length * 8)
  let eBits := UInt32.ofNat (e.length * 8)
  let dBits := UInt32.ofNat (d.length * 8)
  match HaclStar.rsapssLoadSkey modBits eBits dBits n e d with
  | none => failure n.length
  | some skey => statusOf (HaclStar.rsapssSign modBits eBits dBits skey salt msg n.length)

def rsapssSign (n e d salt msg : Bytes) : Bytes :=
  if n.length = 0 ∨ e.length = 0 ∨ d.length = 0 ∨ msg.length > uint32Max then failure n.length
  else rsapssSignWith n e d salt msg

end Kroopt.Native
