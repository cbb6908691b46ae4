import Kroopt.Core.Record
import Kroopt.Parse.Reader

/-!
# Record framing

Framing of one record out of the transport's byte stream (`tryTakeRecord`), and of the inner
plaintext of an opened record (`parseInnerPlaintext`).  A record is taken only once its whole
declared body is buffered, and an oversized length is refused at the header.
-/

set_option autoImplicit false

namespace Kroopt.Parse

open Kroopt.Core (ContentType TLSInnerPlaintext maxCiphertextFragment)

/-- A record header whose length is within the limit. -/
structure ValidRecordHeader where
  outerType : ContentType
  legacyVersion : UInt16
  length : Nat
  lengthOk : length ≤ maxCiphertextFragment
  deriving DecidableEq

/-- Parse a record header: type, version, length. -/
def Reader.takeRecordHeader (r : Reader) : Except ParseError (ValidRecordHeader × Reader) :=
  match r.takeU8 with
  | .error e => .error e
  | .ok (tb, r1) =>
    match r1.takeU16 with
    | .error e => .error e
    | .ok (ver, r2) =>
      match r2.takeU16 with
      | .error e => .error e
      | .ok (len, r3) =>
        let lenNat := len.toNat
        if h : lenNat ≤ maxCiphertextFragment then
          .ok ({ outerType := ContentType.ofByte tb, legacyVersion := ver, length := lenNat,
                 lengthOk := h }, r3)
        else
          .error (.lengthExceedsMax lenNat maxCiphertextFragment)

/-- Try to take one complete record; `none` asks for more bytes. -/
def Reader.tryTakeRecord (r : Reader) :
    Except ParseError (Option (ValidRecordHeader × Bytes) × Reader) :=
  if r.remaining < 5 then
    .ok (none, r)
  else
    match r.takeRecordHeader with
    | .error e => .error e
    | .ok (hdr, r1) =>
      if r1.remaining < hdr.length then
        .ok (none, r)
      else
        match r1.takeBytes hdr.length with
        | .error e => .error e
        | .ok (body, r2) => .ok (some (hdr, body), r2)

/-- Parse the inner plaintext of an opened record: strip the zero padding, then the type byte. -/
def parseInnerPlaintext (buf : Bytes) : Except ParseError TLSInnerPlaintext :=
  match buf.reverse.dropWhile (· == 0) with
  | [] => .error .malformedInnerPlaintext
  | ct :: contentRev =>
    let content := contentRev.reverse
    let paddingZeros := buf.length - (contentRev.length + 1)
    .ok { content := content, ctype := ContentType.ofByte ct, paddingZeros := paddingZeros }

/-- What a change_cipher_spec body is. -/
inductive CcsClassification
  | allowedCompat
  | rejected
  deriving DecidableEq, Inhabited

/-- Only the one-byte body `0x01` is the compatibility form. -/
def classifyCcs (body : Bytes) : CcsClassification :=
  match body with
  | [b] => if b == 1 then .allowedCompat else .rejected
  | _ => .rejected

/-! ## The head of a byte stream -/

/-- What the front of the inbound buffer is. -/
inductive Head
  /-- Not yet a complete record. -/
  | awaiting
  /-- A header that is refused. -/
  | malformed (e : ParseError)
  /-- A complete record, with the bytes behind it. -/
  | record (hdr : ValidRecordHeader) (body rest : Bytes)
  deriving DecidableEq

/-- The front of a byte stream, as `tryTakeRecord` sees it. -/
def headOf (buf : Bytes) : Head :=
  match (Reader.ofBytes buf).tryTakeRecord with
  | .error e => .malformed e
  | .ok (none, _) => .awaiting
  | .ok (some (hdr, body), r') => .record hdr body (r'.input.extract r'.offset r'.input.length)

theorem beNat_one (b : UInt8) : (Reader.beNat [b]).toUInt8 = b := by
  simp [Reader.beNat]

/-- A two-byte length field fits sixteen bits. -/
theorem beNat_two_mod (hi lo : UInt8) :
    Reader.beNat [hi, lo] % 65536 = hi.toNat * 256 + lo.toNat := by
  have hhi := hi.toNat_lt
  have hlo := lo.toNat_lt
  have h : Reader.beNat [hi, lo] = hi.toNat * 256 + lo.toNat := by simp [Reader.beNat]
  omega

/-- Fewer than five bytes are not a header. -/
theorem headOf_of_lt {buf : Bytes} (h : buf.length < 5) : headOf buf = .awaiting := by
  rw [headOf, Reader.tryTakeRecord, if_pos (by simpa [Reader.remaining, Reader.ofBytes] using h)]

theorem takeRecordHeader_cons (t v₁ v₂ hi lo : UInt8) (tail : Bytes) :
    (Reader.ofBytes (t :: v₁ :: v₂ :: hi :: lo :: tail)).takeRecordHeader =
      if h : hi.toNat * 256 + lo.toNat ≤ maxCiphertextFragment then
        .ok (⟨ContentType.ofByte t, (Reader.beNat [v₁, v₂]).toUInt16, hi.toNat * 256 + lo.toNat, h⟩,
          ⟨t :: v₁ :: v₂ :: hi :: lo :: tail, 5, Nat.le_add_left 5 _⟩)
      else .error (.lengthExceedsMax (hi.toNat * 256 + lo.toNat) maxCiphertextFragment) := by
  simp only [Reader.takeRecordHeader, Reader.takeU8, Reader.takeU16, Reader.ofBytes]
  rw [Reader.takeBytes_of_le (by simp)]
  dsimp only
  rw [Reader.takeBytes_of_le (by simp)]
  dsimp only
  rw [Reader.takeBytes_of_le (by simp)]
  dsimp only
  simp [beNat_one, beNat_two_mod]

theorem drop_header (t v₁ v₂ hi lo : UInt8) (tail : Bytes) (n : Nat) :
    (t :: v₁ :: v₂ :: hi :: lo :: tail).drop (5 + n) = tail.drop n := by
  rw [Nat.add_comm 5]
  rfl

/-- **The front of a byte stream that has a header.** -/
theorem headOf_cons (t v₁ v₂ hi lo : UInt8) (tail : Bytes) :
    headOf (t :: v₁ :: v₂ :: hi :: lo :: tail) =
      if h : hi.toNat * 256 + lo.toNat ≤ maxCiphertextFragment then
        if tail.length < hi.toNat * 256 + lo.toNat then .awaiting
        else
          .record ⟨ContentType.ofByte t, (Reader.beNat [v₁, v₂]).toUInt16,
            hi.toNat * 256 + lo.toNat, h⟩ (tail.take (hi.toNat * 256 + lo.toNat))
            (tail.drop (hi.toNat * 256 + lo.toNat))
      else .malformed (.lengthExceedsMax (hi.toNat * 256 + lo.toNat) maxCiphertextFragment) := by
  have hlen : ¬ (Reader.ofBytes (t :: v₁ :: v₂ :: hi :: lo :: tail)).remaining < 5 := by
    simp [Reader.remaining, Reader.ofBytes]
  rw [headOf, Reader.tryTakeRecord, if_neg hlen, takeRecordHeader_cons]
  by_cases h : hi.toNat * 256 + lo.toNat ≤ maxCiphertextFragment
  · rw [dif_pos h, dif_pos h]
    dsimp only
    have hrem : (⟨t :: v₁ :: v₂ :: hi :: lo :: tail, 5, by simp⟩ : Reader).remaining =
        tail.length := by simp [Reader.remaining]
    rw [hrem]
    by_cases hshort : tail.length < hi.toNat * 256 + lo.toNat
    · rw [if_pos hshort, if_pos hshort]
    · rw [if_neg hshort, if_neg hshort, Reader.takeBytes_of_le (by simp; omega)]
      simp [List.extract_eq_take_drop]
      rw [drop_header]
      exact List.take_of_length_le (by rw [List.length_drop]; omega)
  · rw [dif_neg h, dif_neg h]

/-- A byte stream is shorter than a header, or starts with one. -/
theorem header_cases (buf : Bytes) :
    buf.length < 5 ∨ ∃ t v₁ v₂ hi lo tail, buf = t :: v₁ :: v₂ :: hi :: lo :: tail := by
  match buf with
  | [] => exact .inl (by simp)
  | [_] => exact .inl (by simp)
  | [_, _] => exact .inl (by simp)
  | [_, _, _] => exact .inl (by simp)
  | [_, _, _, _] => exact .inl (by simp)
  | t :: v₁ :: v₂ :: hi :: lo :: tail => exact .inr ⟨t, v₁, v₂, hi, lo, tail, rfl⟩

/-- **A record taken off a stream** is its first `5 + body.length` bytes: the body has the declared
length, and what is behind it is kept. -/
theorem headOf_record {buf body rest : Bytes} {hdr : ValidRecordHeader}
    (h : headOf buf = .record hdr body rest) :
    body.length = hdr.length ∧ rest = buf.drop (5 + hdr.length) ∧ 5 + hdr.length ≤ buf.length := by
  rcases header_cases buf with hlt | ⟨t, v₁, v₂, hi, lo, tail, rfl⟩
  · rw [headOf_of_lt hlt] at h
    cases h
  · rw [headOf_cons] at h
    split at h
    · split at h
      · cases h
      · cases h
        refine ⟨?_, (drop_header t v₁ v₂ hi lo tail _).symm, ?_⟩
        · rw [List.length_take]
          exact Nat.min_eq_left (by omega)
        · simp only [List.length_cons]
          omega
    · cases h

/-- The rest of a record is what the record leaves of the buffer. -/
theorem length_rest {buf body rest : Bytes} {hdr : ValidRecordHeader}
    (h : headOf buf = .record hdr body rest) : rest.length + (5 + body.length) = buf.length := by
  obtain ⟨hbody, rfl, hle⟩ := headOf_record h
  simp only [List.length_drop]
  omega

/-- An incomplete record is shorter than a maximal one. -/
theorem length_of_awaiting {buf : Bytes} (h : headOf buf = .awaiting) :
    buf.length < 5 + maxCiphertextFragment := by
  rcases header_cases buf with hlt | ⟨t, v₁, v₂, hi, lo, tail, rfl⟩
  · omega
  · rw [headOf_cons] at h
    split at h
    · split at h
      · simp only [List.length_cons]
        omega
      · cases h
    · cases h

end Kroopt.Parse
