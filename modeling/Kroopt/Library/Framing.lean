import Mathlib.Data.List.Basic

/-!
# Frames of a stream

A framer looks at the front of a buffer and takes one frame off it, or asks for more.  Whoever reads
a stream in pieces keeps what is left over and tries again when more has come.

* `Incremental head`: what comes later does not change the frame at the front.
* `Frames head buf xs rest`: reading `buf` gives the frames `xs` and leaves `rest`.
* `Frames.append` and `Frames.trans` are the two things a reader does: it receives more, and it goes
  on reading.
* `Frames.comparable`: whatever the pieces, two readers of one stream have read the same frames, as
  far as both have come.
-/

set_option autoImplicit false

namespace Framing

variable {β ξ : Type*} {head : List β → Option (ξ × List β)} {buf rest more : List β} {x : ξ}
  {xs ys : List ξ}

/-- What comes later does not change the frame at the front. -/
def Incremental (head : List β → Option (ξ × List β)) : Prop :=
  ∀ buf more x rest, head buf = some (x, rest) → head (buf ++ more) = some (x, rest ++ more)

/-- Reading a buffer gives frames and leaves a rest. -/
inductive Frames (head : List β → Option (ξ × List β)) : List β → List ξ → List β → Prop
  | nil (buf : List β) : Frames head buf [] buf
  | cons {buf mid rest : List β} {x : ξ} {xs : List ξ} (hx : head buf = some (x, mid))
      (hxs : Frames head mid xs rest) : Frames head buf (x :: xs) rest

/-- A reader receives more. -/
theorem Frames.append (hinc : Incremental head) (h : Frames head buf xs rest) (more : List β) :
    Frames head (buf ++ more) xs (rest ++ more) := by
  induction h with
  | nil buf => exact .nil _
  | cons hx _ ih => exact .cons (hinc _ more _ _ hx) ih

/-- A reader goes on. -/
theorem Frames.trans {mid : List β} (h : Frames head buf xs mid) (h' : Frames head mid ys rest) :
    Frames head buf (xs ++ ys) rest := by
  induction h with
  | nil buf => exact h'
  | cons hx _ ih => exact .cons hx (ih h')

/-- Two readings of one buffer agree as far as both go. -/
theorem Frames.comparable_self {rest' : List β} (h : Frames head buf xs rest)
    (h' : Frames head buf ys rest') : xs <+: ys ∨ ys <+: xs := by
  induction h generalizing ys rest' with
  | nil buf => exact .inl List.nil_prefix
  | @cons buf mid rest x xs hx _ ih =>
    cases h' with
    | nil => exact .inr List.nil_prefix
    | @cons _ mid' _ y ys hy hys =>
      rw [hx] at hy
      obtain ⟨rfl, rfl⟩ := Prod.mk.inj (Option.some.inj hy)
      rcases ih hys with hle | hle
      · exact .inl (List.prefix_cons_inj _ |>.mpr hle)
      · exact .inr (List.prefix_cons_inj _ |>.mpr hle)

/-- **Two readers of one stream** have read the same frames, as far as both have come. -/
theorem Frames.comparable (hinc : Incremental head) {buf' rest' : List β}
    (h : Frames head buf xs rest) (h' : Frames head buf' ys rest')
    (hbuf : buf <+: buf' ∨ buf' <+: buf) : xs <+: ys ∨ ys <+: xs := by
  rcases hbuf with ⟨more, rfl⟩ | ⟨more, rfl⟩
  · exact (h.append hinc more).comparable_self h'
  · exact h.comparable_self (h'.append hinc more)

/-- What was read is the front of the stream, if a frame is what its head is cut from. -/
theorem Frames.flatten (wire : ξ → List β) (hwire : ∀ buf x rest, head buf = some (x, rest) →
    buf = wire x ++ rest) (h : Frames head buf xs rest) : buf = xs.flatMap wire ++ rest := by
  induction h with
  | nil buf => rfl
  | cons hx _ ih => rw [hwire _ _ _ hx, List.flatMap_cons, List.append_assoc, ← ih]

end Framing
