import Kroopt.Library.Run
import Kroopt.Native.Glue

/-!
# The secret table

The registry of secret buffers in `kroopt_ffi.c`: a static array of slots, each with the id, the
address and the length of a buffer from `malloc`, and the next id to hand out.

* `SecretSlot`, `SecretTable`: a slot is free when its pointer is null.  A buffer is modelled by its
  contents; reading or writing outside it, or through a null pointer, is a `Fault`.
* `secretFind`, `secretAlloc`, `secretRead`, `secretZeroize`, `secretRelease`, `secretLiveCount`
  and the sign-by-handle functions are the functions of the source.
* `SecretCall` and `secretStep` make them one machine.
-/

set_option autoImplicit false

namespace Kroopt.Native

open Memory (Region Fault)

/-- `KROOPT_SECRET_SLOTS`. -/
def secretSlots : Nat := 4096

/-- `kroopt_secret_slot`. -/
structure SecretSlot where
  id : UInt64
  /-- The contents of the buffer `ptr` points to. -/
  ptr : Option Bytes
  len : Nat
  deriving DecidableEq

namespace SecretSlot

/-- A slot with a null pointer. -/
def free : SecretSlot := ⟨0, none, 0⟩

/-- Read `k` bytes from where `ptr` points. -/
def read (s : SecretSlot) (k : Nat) : Except Fault Bytes :=
  match s.ptr with
  | some buf => (Region.ofList buf).read k
  | none => .error .outOfBounds

end SecretSlot

/-- `kroopt_secret_table` and `kroopt_secret_next_id`. -/
structure SecretTable where
  slots : List SecretSlot
  length_slots : slots.length = secretSlots
  nextId : UInt64

/-- The static table. -/
def SecretTable.initial : SecretTable where
  slots := List.replicate secretSlots .free
  length_slots := List.length_replicate
  nextId := 1

/-- Overwrite a slot. -/
def SecretTable.set (t : SecretTable) (i : Fin t.slots.length) (s : SecretSlot) : SecretTable where
  slots := t.slots.set i s
  length_slots := by rw [List.length_set, t.length_slots]
  nextId := t.nextId

/-- `kroopt_wipe`: from the byte `p` on, `n` bytes are set to zero one by one. -/
def wipe {size : Nat} (buf : Region UInt8 size) (p : Nat) : Nat → Except Fault (Region UInt8 size)
  | 0 => .ok buf
  | n + 1 => do
    let buf ← buf.write p [0]
    wipe buf (p + 1) n

/-- The contents of a buffer after `kroopt_wipe`. -/
def SecretSlot.wipe (s : SecretSlot) : Except Fault Bytes :=
  match s.ptr with
  | some buf => do
    let buf ← Native.wipe (Region.ofList buf) 0 s.len
    .ok buf.cells
  | none => .error .outOfBounds

/-- `kroopt_secret_find`: the first slot with this id and a pointer. -/
def secretFind (t : SecretTable) (id : UInt64) : Option (Fin t.slots.length) :=
  if id = 0 then none else t.slots.findFinIdx? fun s ↦ s.id == id && s.ptr.isSome

/-- The size asked of `malloc`, `n ? n : 1`. -/
def blockSize (bytes : Bytes) : Nat := if bytes.length = 0 then 1 else bytes.length

/-- `if (n) memcpy(buf, bytes, n)`. -/
def fillBlock {size : Nat} (bytes : Bytes) (buf : Region UInt8 size) :
    Except Fault (Region UInt8 size) :=
  if bytes.length = 0 then .ok buf else buf.write 0 bytes

/-- `kroopt_ffi_secret_alloc`: take the first free slot, and the next id if there is memory. -/
def secretAlloc (t : SecretTable) (bytes : Bytes) (malloc : (n : Nat) → Option (Region UInt8 n)) :
    Except Fault (SecretTable × UInt64) :=
  match t.slots.findFinIdx? fun s ↦ s.ptr.isNone with
  | none => .ok (t, 0)
  | some slot =>
    match malloc (blockSize bytes) with
    | none => .ok (t, 0)
    | some buf => do
      let buf ← fillBlock bytes buf
      let id := t.nextId
      .ok ({ t.set slot ⟨id, some buf.cells, bytes.length⟩ with nextId := id + 1 }, id)

/-- `kroopt_ffi_secret_read`: a copy of the buffer, or nothing. -/
def secretRead (t : SecretTable) (id : UInt64) : Except Fault Bytes :=
  match secretFind t id with
  | some i => if t.slots[i].len = 0 then .ok [] else t.slots[i].read t.slots[i].len
  | none => .ok []

/-- `kroopt_ffi_secret_zeroize`: wipe the buffer and keep it. -/
def secretZeroize (t : SecretTable) (id : UInt64) : Except Fault SecretTable :=
  match secretFind t id with
  | some i => do
    let buf ← t.slots[i].wipe
    .ok (t.set i { t.slots[i] with ptr := some buf })
  | none => .ok t

/-- `kroopt_ffi_secret_release`: wipe the buffer, free it and clear the slot. -/
def secretRelease (t : SecretTable) (id : UInt64) : Except Fault SecretTable :=
  match secretFind t id with
  | some i => do
    let _ ← t.slots[i].wipe
    .ok (t.set i { id := 0, ptr := none, len := 0 })
  | none => .ok t

/-- `kroopt_ffi_secret_live_count`. -/
def secretLiveCount (t : SecretTable) : UInt64 :=
  t.slots.foldl (fun live s ↦ if s.ptr.isSome then live + 1 else live) 0

variable [HaclStar]

/-- `kroopt_ffi_ed25519_sign_h`. -/
def ed25519SignH (t : SecretTable) (keyId : UInt64) (msg : Bytes) : Except Fault Bytes :=
  match secretFind t keyId with
  | none => .ok []
  | some i =>
    if t.slots[i].len ≠ 32 ∨ !lenU32Ok msg then .ok []
    else do
      let key ← t.slots[i].read 32
      .ok (HaclStar.ed25519Sign key msg).cells

/-- `kroopt_ffi_ecdsa_p256_sign_h`. -/
def ecdsaP256SignH (t : SecretTable) (m : Bytes) (keyId : UInt64) (k : Bytes) :
    Except Fault Bytes :=
  match secretFind t keyId with
  | none => .ok (failure 64)
  | some i =>
    if t.slots[i].len ≠ 32 ∨ k.length ≠ 32 ∨ m.length > uint32Max then .ok (failure 64)
    else do
      let key ← t.slots[i].read 32
      .ok (statusOf (HaclStar.ecdsaSignP256Sha2 m key k))

/-- `kroopt_ffi_rsapss_sign_h`. -/
def rsapssSignH (t : SecretTable) (n e : Bytes) (dId : UInt64) (salt msg : Bytes) :
    Except Fault Bytes :=
  if n.length = 0 ∨ e.length = 0 then .ok (failure n.length)
  else
    match secretFind t dId with
    | none => .ok (failure n.length)
    | some i =>
      if t.slots[i].len = 0 ∨ msg.length > uint32Max then .ok (failure n.length)
      else do
        let d ← t.slots[i].read t.slots[i].len
        .ok (rsapssSignWith n e d salt msg)

/-! ## The table as a machine -/

/-- A call of one of the functions.  An allocation comes with what `malloc` answers. -/
inductive SecretCall
  | alloc (bytes : Bytes) (malloc : (n : Nat) → Option (Region UInt8 n))
  | read (id : UInt64)
  | zeroize (id : UInt64)
  | release (id : UInt64)
  | liveCount
  | ed25519SignH (keyId : UInt64) (msg : Bytes)
  | ecdsaP256SignH (m : Bytes) (keyId : UInt64) (k : Bytes)
  | rsapssSignH (n e : Bytes) (dId : UInt64) (salt msg : Bytes)

/-- What a call returns. -/
inductive SecretAnswer
  | id (id : UInt64)
  | bytes (b : Bytes)
  | unit
  | count (n : UInt64)
  deriving DecidableEq

/-- One call. -/
def secretStep (t : SecretTable) : SecretCall → Except Fault (SecretTable × SecretAnswer)
  | .alloc bytes malloc => do
    let (t, id) ← secretAlloc t bytes malloc
    .ok (t, .id id)
  | .read id => do
    let b ← secretRead t id
    .ok (t, .bytes b)
  | .zeroize id => do
    let t ← secretZeroize t id
    .ok (t, .unit)
  | .release id => do
    let t ← secretRelease t id
    .ok (t, .unit)
  | .liveCount => .ok (t, .count (secretLiveCount t))
  | .ed25519SignH keyId msg => do
    let b ← ed25519SignH t keyId msg
    .ok (t, .bytes b)
  | .ecdsaP256SignH m keyId k => do
    let b ← ecdsaP256SignH t m keyId k
    .ok (t, .bytes b)
  | .rsapssSignH n e dId salt msg => do
    let b ← rsapssSignH t n e dId salt msg
    .ok (t, .bytes b)

/-- The call is an allocation. -/
def SecretCall.isAlloc : SecretCall → Bool
  | .alloc _ _ => true
  | _ => false

end Kroopt.Native
