import Kroopt.Error

/-!
# The bounds-checked reader

A `Reader` is a cursor into a byte string that carries the proof that it stays inside it.  Every
read either fails with a `ParseError` or returns an advanced reader.

* `takeBytes` is the one primitive read; `takeU8`, `takeU16`, `takeU24` and `takeLen` decode it.
* `takeVectorBytes` reads a length-prefixed vector, `takeVectorExact` parses one exactly.
* `takeCountedItems` parses at most a given number of items.
-/

set_option autoImplicit false

namespace Kroopt.Parse

/-- A 24-bit big-endian value. -/
structure UInt24 where
  toNat : Nat
  deriving DecidableEq, Inhabited

/-- Width of a length field. -/
inductive LenPrefix
  | len8
  | len16
  | len24
  deriving DecidableEq, Inhabited

/-- Internal parse errors. -/
inductive ParseError
  | unexpectedEof
  | trailingBytes
  | lengthOverflow
  | lengthExceedsMax (len maxLen : Nat)
  | valueOutOfRange
  | malformedDer
  | malformedInnerPlaintext
  | budgetExceeded
  deriving DecidableEq, Inhabited

/-- The public category of an internal parse error. -/
def ParseError.toPublic : ParseError → Kroopt.ParseError
  | unexpectedEof => .truncated
  | trailingBytes => .trailingBytes
  | lengthOverflow => .lengthOverflow
  | lengthExceedsMax _ _ => .oversizedRecord
  | valueOutOfRange => .valueOutOfRange
  | malformedDer => .invalidDer
  | malformedInnerPlaintext => .invalidContentType
  | budgetExceeded => .oversizedRecord

/-- A cursor into a byte string. -/
structure Reader where
  input : Bytes
  offset : Nat
  inBounds : offset ≤ input.length

namespace Reader

/-- Read a byte string from its beginning. -/
def ofBytes (b : Bytes) : Reader where
  input := b
  offset := 0
  inBounds := Nat.zero_le _

/-- Number of bytes not yet consumed. -/
def remaining (r : Reader) : Nat := r.input.length - r.offset

/-- Is everything consumed? -/
def atEnd (r : Reader) : Bool := r.offset == r.input.length

/-- Succeed iff everything is consumed. -/
def expectEnd (r : Reader) : Except ParseError Unit :=
  if r.offset = r.input.length then .ok () else .error .trailingBytes

/-- Consume exactly `n` bytes. -/
def takeBytes (r : Reader) (n : Nat) : Except ParseError (Bytes × Reader) :=
  if h : r.offset + n ≤ r.input.length then
    .ok (r.input.extract r.offset (r.offset + n),
      { input := r.input, offset := r.offset + n, inBounds := h })
  else
    .error .unexpectedEof

/-- Decode a big-endian number. -/
def beNat (bs : Bytes) : Nat := bs.foldl (fun acc b ↦ acc * 256 + b.toNat) 0

/-- Read one byte. -/
def takeU8 (r : Reader) : Except ParseError (UInt8 × Reader) :=
  match r.takeBytes 1 with
  | .ok (bs, r') => .ok ((beNat bs).toUInt8, r')
  | .error e => .error e

/-- Read a 16-bit big-endian value. -/
def takeU16 (r : Reader) : Except ParseError (UInt16 × Reader) :=
  match r.takeBytes 2 with
  | .ok (bs, r') => .ok ((beNat bs).toUInt16, r')
  | .error e => .error e

/-- Read a 24-bit big-endian value. -/
def takeU24 (r : Reader) : Except ParseError (UInt24 × Reader) :=
  match r.takeBytes 3 with
  | .ok (bs, r') => .ok (⟨beNat bs⟩, r')
  | .error e => .error e

/-- Read a length field. -/
def takeLen (r : Reader) : LenPrefix → Except ParseError (Nat × Reader)
  | .len8 => match r.takeU8 with | .ok (v, r') => .ok (v.toNat, r') | .error e => .error e
  | .len16 => match r.takeU16 with | .ok (v, r') => .ok (v.toNat, r') | .error e => .error e
  | .len24 => match r.takeU24 with | .ok (v, r') => .ok (v.toNat, r') | .error e => .error e

/-- Read a length-prefixed vector of at most `maxLen` bytes. -/
def takeVectorBytes (r : Reader) (lp : LenPrefix) (maxLen : Nat) :
    Except ParseError (Bytes × Reader) :=
  match r.takeLen lp with
  | .error e => .error e
  | .ok (len, r1) =>
    if len ≤ maxLen then r1.takeBytes len
    else .error (.lengthExceedsMax len maxLen)

/-- Parse a length-prefixed vector in a reader of its own, which must be consumed exactly. -/
def takeVectorExact (r : Reader) {α : Type} (lp : LenPrefix) (maxLen : Nat)
    (parse : Reader → Except ParseError (α × Reader)) : Except ParseError (α × Reader) :=
  match r.takeVectorBytes lp maxLen with
  | .error e => .error e
  | .ok (bytes, outer) =>
    match parse (Reader.ofBytes bytes) with
    | .error e => .error e
    | .ok (value, inner) =>
      match inner.expectEnd with
      | .error e => .error e
      | .ok _ => .ok (value, outer)

/-- Parse items up to the end of input, at most `maxItems` of them. -/
def takeCountedItems (r : Reader) {α : Type} (maxItems : Nat)
    (item : Reader → Except ParseError (α × Reader)) : Except ParseError (List α × Reader) :=
  match maxItems with
  | 0 => if r.atEnd then .ok ([], r) else .error .budgetExceeded
  | maxItems' + 1 =>
    if r.atEnd then
      .ok ([], r)
    else
      match item r with
      | .error e => .error e
      | .ok (a, r1) =>
        match r1.takeCountedItems maxItems' item with
        | .error e => .error e
        | .ok (rest, r2) => .ok (a :: rest, r2)

/-! ## What a read consumes -/

/-- A read within the input succeeds, and returns what it stands on. -/
theorem takeBytes_of_le {r : Reader} {n : Nat} (h : r.offset + n ≤ r.input.length) :
    r.takeBytes n = .ok (r.input.extract r.offset (r.offset + n),
      { input := r.input, offset := r.offset + n, inBounds := h }) := by
  rw [takeBytes, dif_pos h]

end Reader

end Kroopt.Parse
