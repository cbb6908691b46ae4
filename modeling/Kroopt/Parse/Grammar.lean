import Kroopt.Library.Format
import Kroopt.Parse.Handshake
import Kroopt.Parse.Wire
import Mathlib.Algebra.Order.Ring.Nat
import Mathlib.Data.List.Induction

/-!
# What the reader recognises

The bounds-safe reader as a cursor, and each of its reads as the format it recognises: the read
succeeds exactly where the input goes on with the bytes that the builder of `Wire` makes of the
value, and it moves behind them.

* `LenPrefix.bound` and `vector`: which lengths a prefix can carry, and the vector itself.
* `takeBytes_recognizes` up to `takeVectorBytes_recognizes`: the primitive reads.
* `takeVectorExact_recognizes`: a vector with a structure inside is recognised if the parser of the
  inside is `Exact` for its format.
* `takeCountedItems_decodes`: a list of items up to the end.
-/

set_option autoImplicit false

namespace Kroopt.Parse

open Format (Recognizes Decodes Items graph)
open Wire (be16 be24 u8Len u16Len u24Len)

/-! ## Big-endian numbers -/

namespace Reader

theorem beNat_concat (bs : Bytes) (b : UInt8) : beNat (bs ++ [b]) = beNat bs * 256 + b.toNat := by
  simp [beNat]

theorem beNat_lt (bs : Bytes) : beNat bs < 256 ^ bs.length := by
  induction bs using List.reverseRecOn with
  | nil => simp [beNat]
  | append_singleton bs b ih =>
    have hb := b.toNat_lt
    rw [beNat_concat, List.length_append, List.length_singleton, Nat.pow_succ]
    omega

/-- Numbers of the same width are equal only if their bytes are. -/
theorem beNat_inj {bs cs : Bytes} (hlen : bs.length = cs.length) (h : beNat bs = beNat cs) :
    bs = cs := by
  induction bs using List.reverseRecOn generalizing cs with
  | nil => exact (List.eq_nil_of_length_eq_zero hlen.symm).symm
  | append_singleton bs b ih =>
    rcases List.eq_nil_or_concat cs with rfl | ⟨cs, c, rfl⟩
    · simp at hlen
    · have hb := b.toNat_lt
      have hc := c.toNat_lt
      rw [List.concat_eq_append, beNat_concat, beNat_concat] at h
      have hlast : b = c := UInt8.toNat_inj.mp (by omega)
      have hinit : bs = cs := ih (by simpa using hlen) (by omega)
      rw [List.concat_eq_append, hlast, hinit]

@[simp] theorem length_be16 (n : UInt16) : (be16 n).length = 2 := rfl

@[simp] theorem length_be24 (n : Nat) : (be24 n).length = 3 := rfl

theorem beNat_be16 (n : UInt16) : beNat (be16 n) = n.toNat := by
  have h := n.toNat_lt
  have hpow : 2 ^ (8 % 16) = 256 := rfl
  simp only [be16, beNat, List.foldl_cons, List.foldl_nil, UInt16.toNat_toUInt8,
    UInt16.toNat_shiftRight, UInt16.reduceToNat, Nat.shiftRight_eq_div_pow, hpow]
  omega

theorem beNat_be24 {n : Nat} (h : n < 2 ^ 24) : beNat (be24 n) = n := by
  simp only [be24, beNat, List.foldl_cons, List.foldl_nil, Nat.toUInt8, UInt8.toNat_ofNat',
    Nat.shiftRight_eq_div_pow]
  omega

end Reader

/-- Two bytes are read as a number exactly if they are its encoding. -/
theorem be16_iff {bs : Bytes} (hlen : bs.length = 2) (v : UInt16) :
    v = (Reader.beNat bs).toUInt16 ↔ bs = be16 v := by
  have hlt := Reader.beNat_lt bs
  rw [hlen] at hlt
  have hmod : (Reader.beNat bs).toUInt16.toNat = Reader.beNat bs := by
    rw [Nat.toUInt16, UInt16.toNat_ofNat']
    exact Nat.mod_eq_of_lt hlt
  constructor
  · rintro rfl
    exact Reader.beNat_inj hlen (by rw [Reader.beNat_be16, hmod])
  · rintro rfl
    rw [← UInt16.toNat_inj, hmod, Reader.beNat_be16]

theorem be24_iff {bs : Bytes} (hlen : bs.length = 3) (n : Nat) :
    n = Reader.beNat bs ↔ n < 2 ^ 24 ∧ bs = be24 n := by
  have hlt := Reader.beNat_lt bs
  rw [hlen] at hlt
  constructor
  · rintro rfl
    exact ⟨hlt, Reader.beNat_inj hlen (Reader.beNat_be24 hlt).symm⟩
  · rintro ⟨h, rfl⟩
    exact (Reader.beNat_be24 h).symm

/-! ## The reader as a cursor -/

namespace Reader

/-- What has not been consumed. -/
def rest (r : Reader) : Bytes := r.input.drop r.offset

/-- Move behind `n` more bytes. -/
def advance (r : Reader) (n : Nat) : Reader where
  input := r.input
  offset := min (r.offset + n) r.input.length
  inBounds := Nat.min_le_right _ _

theorem rest_advance (r : Reader) (n : Nat) : (r.advance n).rest = r.rest.drop n := by
  rw [rest, rest, advance, List.drop_drop]
  dsimp only
  rcases Nat.le_total (r.offset + n) r.input.length with h | h
  · rw [Nat.min_eq_left h]
  · rw [Nat.min_eq_right h, List.drop_length, List.drop_of_length_le h]

theorem advance_zero (r : Reader) : r.advance 0 = r := by
  simp only [advance, Nat.add_zero, Nat.min_eq_left r.inBounds]

theorem advance_advance (r : Reader) (m n : Nat) :
    (r.advance m).advance n = r.advance (m + n) := by
  simp only [advance, mk.injEq, true_and]
  omega

end Reader

instance : Format.Cursor Reader UInt8 where
  rest := Reader.rest
  advance := Reader.advance
  rest_advance := Reader.rest_advance
  advance_zero := Reader.advance_zero
  advance_advance := Reader.advance_advance

namespace Reader

theorem length_rest (r : Reader) : (Format.Cursor.rest r).length = r.input.length - r.offset :=
  List.length_drop

/-- The reader is at the end exactly if nothing is left to read. -/
theorem atEnd_eq (r : Reader) : r.atEnd = (Format.Cursor.rest r).isEmpty := by
  have hin := r.inBounds
  have hlen := r.length_rest
  rw [Bool.eq_iff_iff, atEnd, beq_iff_eq, List.isEmpty_iff, ← List.length_eq_zero_iff, hlen]
  omega

theorem expectEnd_eq_ok {r : Reader} : r.expectEnd = .ok () ↔ Format.Cursor.rest r = [] := by
  have hend : r.offset = r.input.length ↔ r.atEnd = true := by simp [atEnd]
  rw [← List.isEmpty_iff, ← atEnd_eq, ← hend, expectEnd]
  split
  · exact iff_of_true rfl ‹_›
  · exact iff_of_false (by simp) ‹_›

/-! ## The primitive reads -/

/-- **Bytes** are what they stand for. -/
theorem takeBytes_recognizes (n : Nat) :
    Recognizes (fun r ↦ takeBytes r n) (graph (fun b ↦ b.length = n) id) := by
  intro r b r'
  have hin := r.inBounds
  have hlen := r.length_rest
  have hext : r.input.extract r.offset (r.offset + n) = (Format.Cursor.rest r).take n := by
    rw [List.extract_eq_take_drop, Nat.add_sub_cancel_left]
    rfl
  dsimp only
  rw [takeBytes]
  split
  · rename_i hle
    rw [hext]
    have hn : ((Format.Cursor.rest r).take n).length = n := by
      rw [List.length_take]
      omega
    have hadv : Format.Cursor.advance r n = ⟨r.input, r.offset + n, hle⟩ := by
      simp only [Format.Cursor.advance, advance, mk.injEq, true_and]
      omega
    constructor
    · intro h
      cases h
      exact ⟨_, ⟨hn, rfl⟩, List.take_prefix _ _, by rw [id_eq, hn, hadv]⟩
    · rintro ⟨_, ⟨hb, rfl⟩, hpre, rfl⟩
      obtain ⟨t, ht⟩ := hpre
      rw [hb, hadv, ← ht, List.take_left' hb]
  · rename_i hgt
    refine iff_of_false (by simp) ?_
    rintro ⟨_, ⟨hb, rfl⟩, hpre, -⟩
    have := hpre.length_le
    omega

theorem takeU8_recognizes : Recognizes takeU8 (graph (fun _ ↦ True) fun b ↦ [b]) := by
  refine ((takeBytes_recognizes 1).map fun bs ↦ (beNat bs).toUInt8).congr (fun r ↦ ?_)
    fun b w ↦ ?_
  · rw [takeU8]
    cases takeBytes r 1 <;> rfl
  · constructor
    · rintro ⟨-, rfl⟩
      exact ⟨[b], ⟨rfl, rfl⟩, by simp [beNat]⟩
    · rintro ⟨bs, ⟨hlen, rfl⟩, rfl⟩
      obtain ⟨c, rfl⟩ := List.length_eq_one_iff.mp hlen
      exact ⟨trivial, by simp [beNat]⟩

theorem takeU16_recognizes : Recognizes takeU16 (graph (fun _ ↦ True) be16) := by
  refine ((takeBytes_recognizes 2).map fun bs ↦ (beNat bs).toUInt16).congr (fun r ↦ ?_)
    fun v w ↦ ?_
  · rw [takeU16]
    cases takeBytes r 2 <;> rfl
  · constructor
    · rintro ⟨-, rfl⟩
      exact ⟨_, ⟨length_be16 v, rfl⟩, (be16_iff (length_be16 v) v).mpr rfl⟩
    · rintro ⟨bs, ⟨hlen, rfl⟩, hv⟩
      exact ⟨trivial, (be16_iff hlen v).mp hv⟩

theorem takeU24_recognizes :
    Recognizes takeU24 (graph (fun v ↦ v.toNat < 2 ^ 24) fun v ↦ be24 v.toNat) := by
  refine ((takeBytes_recognizes 3).map fun bs ↦ (⟨beNat bs⟩ : UInt24)).congr (fun r ↦ ?_)
    fun v w ↦ ?_
  · rw [takeU24]
    cases takeBytes r 3 <;> rfl
  · constructor
    · rintro ⟨hv, rfl⟩
      refine ⟨_, ⟨length_be24 _, rfl⟩, ?_⟩
      rw [← (be24_iff (length_be24 _) v.toNat).mpr ⟨hv, rfl⟩]
    · rintro ⟨bs, ⟨hlen, rfl⟩, rfl⟩
      exact (be24_iff hlen _).mp rfl

end Reader

/-! ## Vectors -/

/-- One more than the largest length a prefix can carry. -/
def LenPrefix.bound : LenPrefix → Nat
  | .len8 => 2 ^ 8
  | .len16 => 2 ^ 16
  | .len24 => 2 ^ 24

/-- A length field. -/
def LenPrefix.encode : LenPrefix → Nat → Bytes
  | .len8, n => [n.toUInt8]
  | .len16, n => be16 n.toUInt16
  | .len24, n => be24 n

/-- A vector with its length field. -/
def vector (lp : LenPrefix) (body : Bytes) : Bytes := lp.encode body.length ++ body

@[simp] theorem vector_len8 (body : Bytes) : vector .len8 body = u8Len body := rfl

@[simp] theorem vector_len16 (body : Bytes) : vector .len16 body = u16Len body := rfl

@[simp] theorem vector_len24 (body : Bytes) : vector .len24 body = u24Len body := rfl

namespace Reader

theorem takeLen_recognizes (lp : LenPrefix) :
    Recognizes (fun r ↦ takeLen r lp) (graph (· < lp.bound) lp.encode) := by
  cases lp with
  | len8 =>
    refine (takeU8_recognizes.map UInt8.toNat).congr (fun r ↦ ?_) fun n w ↦ ?_
    · rw [takeLen]
      cases takeU8 r <;> rfl
    · constructor
      · rintro ⟨hn, rfl⟩
        refine ⟨n.toUInt8, ⟨trivial, rfl⟩, ?_⟩
        rw [Nat.toUInt8, UInt8.toNat_ofNat']
        exact (Nat.mod_eq_of_lt hn).symm
      · rintro ⟨b, ⟨-, rfl⟩, rfl⟩
        exact ⟨b.toNat_lt, by simp [LenPrefix.encode]⟩
  | len16 =>
    refine (takeU16_recognizes.map UInt16.toNat).congr (fun r ↦ ?_) fun n w ↦ ?_
    · rw [takeLen]
      cases takeU16 r <;> rfl
    · constructor
      · rintro ⟨hn, rfl⟩
        refine ⟨n.toUInt16, ⟨trivial, rfl⟩, ?_⟩
        rw [Nat.toUInt16, UInt16.toNat_ofNat']
        exact (Nat.mod_eq_of_lt hn).symm
      · rintro ⟨v, ⟨-, rfl⟩, rfl⟩
        exact ⟨v.toNat_lt, by simp [LenPrefix.encode]⟩
  | len24 =>
    refine (takeU24_recognizes.map UInt24.toNat).congr (fun r ↦ ?_) fun n w ↦ ?_
    · rw [takeLen]
      cases takeU24 r <;> rfl
    · constructor
      · rintro ⟨hn, rfl⟩
        exact ⟨⟨n⟩, ⟨hn, rfl⟩, rfl⟩
      · rintro ⟨v, ⟨hv, rfl⟩, rfl⟩
        exact ⟨hv, rfl⟩

/-- **A vector** is recognised by its length field, within the limit of the caller. -/
theorem takeVectorBytes_recognizes (lp : LenPrefix) (maxLen : Nat) :
    Recognizes (fun r ↦ takeVectorBytes r lp maxLen)
      (graph (fun b ↦ b.length ≤ maxLen ∧ b.length < lp.bound) (vector lp)) := by
  have hbody : ∀ n, Recognizes
      (fun r : Reader ↦ if n ≤ maxLen then takeBytes r n else .error (.lengthExceedsMax n maxLen))
      (fun b w ↦ ¬ maxLen < n ∧ graph (fun b ↦ b.length = n) id b w) := fun n ↦
    ((takeBytes_recognizes n).guard (maxLen < n) (.lengthExceedsMax n maxLen)).congr
      (fun r ↦ by simp only [← Nat.not_lt, ite_not]) fun _ _ ↦ Iff.rfl
  refine ((takeLen_recognizes lp).bind hbody).congr (fun r ↦ ?_) fun b w ↦ ?_
  · rw [takeVectorBytes]
    cases takeLen r lp <;> rfl
  · constructor
    · rintro ⟨⟨hmax, hbound⟩, rfl⟩
      exact ⟨b.length, _, b, ⟨hbound, rfl⟩, ⟨Nat.not_lt.mpr hmax, rfl, rfl⟩, rfl⟩
    · rintro ⟨_, _, _, ⟨hbound, rfl⟩, ⟨hmax, rfl, rfl⟩, rfl⟩
      exact ⟨⟨Nat.not_lt.mp hmax, hbound⟩, rfl⟩

/-- `parse` succeeds and consumes a byte string exactly when that is a word of `G`. -/
def Exact {α : Type} (parse : Reader → Except ParseError (α × Reader)) (G : α → Bytes → Prop) :
    Prop :=
  ∀ bytes a, (∃ inner, parse (ofBytes bytes) = .ok (a, inner) ∧ inner.expectEnd = .ok ()) ↔
    G a bytes

theorem exact_of_decodes {α : Type} {parse : Reader → Except ParseError (α × Reader)}
    {G : α → Bytes → Prop} (h : Decodes parse G) : Exact parse G := by
  intro bytes a
  simp only [expectEnd_eq_ok]
  exact h (ofBytes bytes) a

/-- **A vector with a structure inside.** -/
theorem takeVectorExact_recognizes {α : Type} {parse : Reader → Except ParseError (α × Reader)}
    {G : α → Bytes → Prop} (h : Exact parse G) (lp : LenPrefix) (maxLen : Nat) :
    Recognizes (fun r ↦ takeVectorExact r lp maxLen parse) fun a w ↦
      ∃ u, G a u ∧ u.length ≤ maxLen ∧ u.length < lp.bound ∧ w = vector lp u := by
  intro r a r'
  have hvec := takeVectorBytes_recognizes lp maxLen r
  dsimp only
  rw [takeVectorExact]
  constructor
  · intro hr
    split at hr
    · cases hr
    · rename_i bytes outer hbytes
      split at hr
      · cases hr
      · rename_i value inner hparse
        split at hr
        · cases hr
        · rename_i hend
          cases hr
          obtain ⟨w, ⟨⟨hmax, hbound⟩, rfl⟩, hpre, rfl⟩ := (hvec bytes r').mp hbytes
          have hu := (h bytes a).mp ⟨inner, hparse, hend⟩
          exact ⟨_, ⟨bytes, hu, hmax, hbound, rfl⟩, hpre, rfl⟩
  · rintro ⟨_, ⟨u, hu, hmax, hbound, rfl⟩, hpre, rfl⟩
    obtain ⟨inner, hparse, hend⟩ := (h u a).mpr hu
    have hbytes := (hvec u _).mpr ⟨_, ⟨⟨hmax, hbound⟩, rfl⟩, hpre, rfl⟩
    dsimp only at hbytes
    rw [hbytes]
    dsimp only
    rw [hparse]
    dsimp only
    rw [hend]

/-- A vector that may be as long as the input needs no limit. -/
theorem takeVectorExact_remaining {α : Type} {parse : Reader → Except ParseError (α × Reader)}
    {G : α → Bytes → Prop} (h : Exact parse G) (lp : LenPrefix) :
    Recognizes (fun r ↦ takeVectorExact r lp r.remaining parse) fun a w ↦
      ∃ u, G a u ∧ u.length < lp.bound ∧ w = vector lp u := by
  intro r a r'
  refine (takeVectorExact_recognizes h lp r.remaining r a r').trans ?_
  constructor
  · rintro ⟨_, ⟨u, hu, -, hbound, rfl⟩, hpre⟩
    exact ⟨_, ⟨u, hu, hbound, rfl⟩, hpre⟩
  · rintro ⟨_, ⟨u, hu, hbound, rfl⟩, hpre, hr⟩
    refine ⟨_, ⟨u, hu, ?_, hbound, rfl⟩, hpre, hr⟩
    have hlen := hpre.length_le
    rw [r.length_rest, vector, List.length_append] at hlen
    rw [remaining]
    omega

theorem takeCountedItems_eq {α : Type} (item : Reader → Except ParseError (α × Reader)) (n : Nat)
    (r : Reader) : takeCountedItems r n item = Format.many .budgetExceeded item n r := by
  induction n generalizing r with
  | zero => rw [takeCountedItems.eq_def, Format.many.eq_1, atEnd_eq]
  | succ n ih =>
    rw [takeCountedItems.eq_def, Format.many.eq_2, atEnd_eq]
    simp only [ih]
    split
    · rfl
    · cases item r with
      | error e => rfl
      | ok x =>
        dsimp only
        cases Format.many .budgetExceeded item n x.2 <;> rfl

/-- **Items up to the end.** -/
theorem takeCountedItems_decodes {α : Type} {item : Reader → Except ParseError (α × Reader)}
    {G : α → Bytes → Prop} (hitem : Recognizes item G) (hG : ∀ a w, G a w → w ≠ []) (n : Nat) :
    Decodes (fun r ↦ takeCountedItems r n item) fun as w ↦ as.length ≤ n ∧ Items G as w := by
  simp only [takeCountedItems_eq]
  exact Format.decodes_many hitem hG .budgetExceeded n

end Reader

end Kroopt.Parse
