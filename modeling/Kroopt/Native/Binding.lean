import Kroopt.Crypto.Hacl
import Kroopt.Native.HkdfExpand
import Kroopt.Native.SecretTable

/-!
# The binding

The primitives of the real provider as the glue provides them, over a vendored library, the secret
table at the time of the call and an allocator.
-/

set_option autoImplicit false

namespace Kroopt.Native

open Memory (Allocator Fault)
open Kroopt.Crypto (NativeHacl)

variable [HaclStar]

/-- A seal by EverCrypt returns ciphertext and tag, or nothing. -/
theorem length_gcmSeal (alg : AeadAlg) (keyLen : Nat) (key nonce aad pt : Bytes) :
    gcmSeal alg keyLen key nonce aad pt = [] ∨
      (gcmSeal alg keyLen key nonce aad pt).length = pt.length + 16 := by
  rw [gcmSeal]
  split
  · exact .inl rfl
  · split
    · exact .inl rfl
    · exact .inr (HaclStar.aeadEncrypt alg key nonce aad pt).length_cells

theorem length_chachaPolySeal (key nonce aad pt : Bytes) :
    chachaPolySeal key nonce aad pt = [] ∨
      (chachaPolySeal key nonce aad pt).length = pt.length + 16 := by
  rw [chachaPolySeal]
  split
  · exact .inl rfl
  · exact .inr (HaclStar.chacha20Poly1305Encrypt key nonce aad pt).length_cells

/-- What the caller of a function gets.  A call that faults does not return. -/
def returned (r : Except Fault Bytes) : Bytes := r.toOption.getD []

/-- The glue as the primitives of the provider. -/
@[reducible] def binding (t : SecretTable) (mem : Allocator UInt8) : NativeHacl where
  sha256 := sha256
  sha384 := sha384
  hkdfExpand256 := hkdfExpand256
  hkdfExpand384 prk info len := returned ((hkdfExpand384 mem prk info len).map Expansion.returned)
  chachaPolySeal := chachaPolySeal
  aes128GcmSeal := aes128GcmSeal
  aes256GcmSeal := aes256GcmSeal
  x25519Public := x25519Public
  x25519SharedRaw := x25519Shared
  p256Public := p256Public
  p256SharedRaw := p256Shared
  ecdsaP256SignRaw := ecdsaP256Sign
  ecdsaP256SignRawH m keyId k := returned (ecdsaP256SignH t m keyId k)
  rsapssSignRaw := rsapssSign
  rsapssSignRawH n e dId salt msg := returned (rsapssSignH t n e dId salt msg)
  chachaPolyOpenRaw := chachaPolyOpen
  aes128GcmOpenRaw := aes128GcmOpen
  aes256GcmOpenRaw := aes256GcmOpen
  hkdfExtract256 := hkdfExtract256
  hkdfExtract384 := hkdfExtract384
  hmac256 := hmac256
  hmac384 := hmac384
  ed25519Sign := ed25519Sign
  ed25519SignH keyId msg := returned (ed25519SignH t keyId msg)
  sealed_length suite key nonce aad pt := by
    cases suite with
    | aes128GcmSha256 => exact length_gcmSeal .aes128Gcm 16 key nonce aad pt
    | aes256GcmSha384 => exact length_gcmSeal .aes256Gcm 32 key nonce aad pt
    | chacha20Poly1305Sha256 => exact length_chachaPolySeal key nonce aad pt

end Kroopt.Native
