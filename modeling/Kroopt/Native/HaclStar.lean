import Kroopt.Error
import Kroopt.Library.Region

/-!
# The vendored primitives

The functions of HACL* and EverCrypt that the glue in `kroopt_ffi.c` and `kroopt_aesgcm.c` calls, as
the glue calls them: the lengths are those of the C prototypes, and a `bool`, an error code or a
null pointer that signals failure is an `Option`.  What the functions compute is an assumption of
everything that follows.

`CpuFeatures` is what `EverCrypt_AutoConfig2` finds out about the machine; EverCrypt creates an
AES-GCM state only on a machine that has all of them.
-/

set_option autoImplicit false

namespace Kroopt.Native

open Memory (Region)

/-- The features EverCrypt looks for. -/
structure CpuFeatures where
  hasAesni : Bool
  hasPclmulqdq : Bool
  hasAvx : Bool
  hasSse : Bool
  hasMovbe : Bool

/-- `EverCrypt_AEAD_create_in` succeeds for AES-GCM. -/
def CpuFeatures.supportsAesGcm (c : CpuFeatures) : Bool :=
  c.hasAesni && c.hasPclmulqdq && c.hasAvx && c.hasSse && c.hasMovbe

/-- The AES-GCM algorithms of EverCrypt. -/
inductive AeadAlg
  | aes128Gcm
  | aes256Gcm
  deriving DecidableEq

/-- The primitives of the vendored library. -/
class HaclStar where
  cpu : CpuFeatures
  hash256 : Bytes → Region UInt8 32
  hash384 : Bytes → Region UInt8 48
  curve25519SecretToPublic : (priv : Bytes) → Region UInt8 32
  curve25519Ecdh : (priv peer : Bytes) → Option (Region UInt8 32)
  /-- `Hacl_P256_ecp256dh_i`: the public point of a scalar. -/
  ecp256dhI : (priv : Bytes) → Option (Region UInt8 64)
  /-- `Hacl_P256_ecp256dh_r`: the shared point, of which the glue keeps half. -/
  ecp256dhR : (peer priv : Bytes) → Option (Region UInt8 64)
  /-- `Hacl_Chacha20Poly1305_32_aead_encrypt`: ciphertext and tag. -/
  chacha20Poly1305Encrypt : (key nonce aad pt : Bytes) → Region UInt8 (pt.length + 16)
  chacha20Poly1305Decrypt : (key nonce aad ct tag : Bytes) → Option (Region UInt8 ct.length)
  /-- `EverCrypt_AEAD_encrypt` with a state created from the key. -/
  aeadEncrypt : AeadAlg → (key nonce aad pt : Bytes) → Region UInt8 (pt.length + 16)
  aeadDecrypt : AeadAlg → (key nonce aad ct tag : Bytes) → Option (Region UInt8 ct.length)
  hkdfExtractSha256 : (salt ikm : Bytes) → Region UInt8 32
  hkdfExpandSha256 : (prk info : Bytes) → (len : UInt32) → Region UInt8 len.toNat
  hmacSha256 : (key msg : Bytes) → Region UInt8 32
  hmacSha384 : (key msg : Bytes) → Region UInt8 48
  ed25519Sign : (priv msg : Bytes) → Region UInt8 64
  ecdsaSignP256Sha2 : (msg priv k : Bytes) → Option (Region UInt8 64)
  /-- `Hacl_RSAPSS_new_rsapss_load_skey`: the limbs of a private key. -/
  rsapssLoadSkey : (modBits eBits dBits : UInt32) → (n e d : Bytes) → Option (List UInt64)
  /-- `Hacl_RSAPSS_rsapss_sign` with SHA-256, into a signature buffer of `size` bytes. -/
  rsapssSign : (modBits eBits dBits : UInt32) → (skey : List UInt64) → (salt msg : Bytes) →
    (size : Nat) → Option (Region UInt8 size)

/-- The largest value of a C `uint32_t`. -/
def uint32Max : Nat := 4294967295

/-- `len_u32_ok`: a length fits the `uint32_t` parameter of a primitive. -/
def lenU32Ok (a : Bytes) : Bool := a.length ≤ uint32Max

/-- A region of zeros. -/
def zeros (n : Nat) : Region UInt8 n := ⟨List.replicate n 0, List.length_replicate⟩

namespace Session

/-- A library that computes nothing but zeros and accepts every key, on a machine with every
feature. -/
@[reducible] def hacl : HaclStar where
  cpu := ⟨true, true, true, true, true⟩
  hash256 _ := zeros 32
  hash384 _ := zeros 48
  curve25519SecretToPublic _ := zeros 32
  curve25519Ecdh _ _ := some (zeros 32)
  ecp256dhI _ := some (zeros 64)
  ecp256dhR _ _ := some (zeros 64)
  chacha20Poly1305Encrypt _ _ _ pt := zeros (pt.length + 16)
  chacha20Poly1305Decrypt _ _ _ ct _ := some (zeros ct.length)
  aeadEncrypt _ _ _ _ pt := zeros (pt.length + 16)
  aeadDecrypt _ _ _ _ ct _ := some (zeros ct.length)
  hkdfExtractSha256 _ _ := zeros 32
  hkdfExpandSha256 _ _ len := zeros len.toNat
  hmacSha256 _ _ := zeros 32
  hmacSha384 _ _ := zeros 48
  ed25519Sign _ _ := zeros 64
  ecdsaSignP256Sha2 _ _ _ := some (zeros 64)
  rsapssLoadSkey _ _ _ _ _ _ := some []
  rsapssSign _ _ _ _ _ _ size := some (zeros size)

end Session

end Kroopt.Native
