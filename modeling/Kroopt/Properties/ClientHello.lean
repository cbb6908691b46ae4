import Kroopt.Parse.Grammar
import Mathlib.Data.List.Nodup

/-!
# What a ClientHello is

The parser of the ClientHello is the longest function that reads untrusted bytes, and it does two
things at once: it takes the message apart, and it decides whether the server can do anything with
it.  The specification keeps the two apart.

`ClientHello` is the message as its sender builds it: the fields, with the bounds that the parser
sets to them as fields of the structure, and `encode`, its bytes.  A value of this type is a
well-formed message.  `ClientHello.Negotiates` says, in terms of what the message carries and never
of how it is parsed, which parameters the server takes from it.  The main result puts them together:
the parser accepts exactly the encodings of messages that negotiate something, and what it returns
is what they negotiate.

The proof follows the format from the inside to the outside.  A parser `Recognizes` a format if it
accepts exactly the inputs that begin with a word of the format, and leaves the rest; this composes
along `bind`, and it turns into exactness where the end of the input is asked for.  `Library/Format`
has these rules, and here each parser of the source is one application of them: the item parsers,
then the vectors of items, then the extensions, then the body.

What does not follow this pattern are the searches for an extension by its type.  They are about the
first of an extension, and a message may hold none twice, so the search is a lookup
(`find?_key_iff`); every lemma about an extension is stated under that condition.

## Main definitions

* `IsVector`, `IsServerNames`, `IsKeyShares`: the contents of extensions.
* `OffersShares`, `OffersAlpn`, `OffersName`: what a message offers in its extensions.
* `ClientHello`, with `body` and `encode`.
* `ClientHello.Negotiates`: what the server takes from a message.

## Main results

* `exactVector_iff` and `exactList_iff`: an extension that is one vector.
* `parseSni_iff`, `parseAlpnStrict_iff`, `findOfferedKeyShares_iff`, `parseNonemptyU16Vector_iff`:
  the extensions the server looks into.
* `frameClientHelloBody_recognizes`: framing is exact.
* `validateFramedClientHello_iff`: the checks behind the framing.
* `parseClientHello_iff`: the parser accepts exactly the encodings of messages that negotiate
  something, and what it returns is what they negotiate.
-/

set_option autoImplicit false

namespace Kroopt.Parse

open Format (Recognizes Decodes Items graph items_graph bind_eq_ok_iff pure_eq_ok_iff
  throw_eq_ok_iff guard_eq_ok_iff)
open Kroopt.Core (ValidClientHello CipherSuite NamedGroup SignatureScheme ValidatedServerName)
open Wire (be16 u8Len u16Len extension keyShareEntry)

/-! ## Vectors inside an extension

The data of an extension is parsed by a reader of its own, which has to come to its end.  So an
extension that is a vector is parsed twice over: the vector is all of the data, and what is inside
is all of the vector.  Both ends are checked in the source, and both are needed for exactness. -/

/-- `d` is the vector with the body `u`. -/
def IsVector (lp : LenPrefix) (u d : Bytes) : Prop := u.length < lp.bound ∧ d = vector lp u

/-- **An extension that is one vector.**  The vector is all of the data, and its inside is parsed
exactly. -/
theorem exactVector_iff {α β : Type} {parse : Reader → Except ParseError (α × Reader)}
    {G : α → Bytes → Prop} (h : Reader.Exact parse G) {lp : LenPrefix}
    (hlp : lp = .len8 ∨ lp = .len16) (k : α → Except ParseError β) {data : Bytes} {b : β} :
    (do let (a, outer) ← (Reader.ofBytes data).takeVectorExact lp maxVectorLen parse
        outer.expectEnd
        k a) = .ok b ↔ ∃ a, (∃ u, G a u ∧ IsVector lp u data) ∧ k a = .ok b := by
  have hmax : ∀ u : Bytes, u.length < lp.bound → u.length ≤ maxVectorLen := by
    intro u hu
    rcases hlp with rfl | rfl <;> simp only [LenPrefix.bound, maxVectorLen] at hu ⊢ <;> omega
  have hdec := (Reader.takeVectorExact_recognizes h lp maxVectorLen).decodes (Reader.ofBytes data)
  simp only [bind_eq_ok_iff]
  constructor
  · rintro ⟨⟨a, outer⟩, hvec, _, hend, hk⟩
    have hrest := Reader.expectEnd_eq_ok.mp hend
    obtain ⟨u, hu, -, hbound, hw⟩ := (hdec a).mp ⟨outer, hvec, hrest⟩
    exact ⟨a, ⟨u, hu, hbound, hw⟩, hk⟩
  · rintro ⟨a, ⟨u, hu, hbound, hw⟩, hk⟩
    obtain ⟨outer, hvec, hrest⟩ := (hdec a).mpr ⟨u, hu, hmax u hbound, hbound, hw⟩
    exact ⟨(a, outer), hvec, (), Reader.expectEnd_eq_ok.mpr hrest, hk⟩

/-- **A vector of items**, of which there must be one. -/
theorem exactList_iff {α : Type} {parse : Reader → Except ParseError (List α × Reader)}
    {G : List α → Bytes → Prop} (h : Reader.Exact parse G) {lp : LenPrefix}
    (hlp : lp = .len8 ∨ lp = .len16) {data : Bytes} {as : List α} :
    (do let (items, outer) ← (Reader.ofBytes data).takeVectorExact lp maxVectorLen parse
        outer.expectEnd
        if items.isEmpty then throw .valueOutOfRange
        pure items : Except ParseError (List α)) = .ok as ↔
      as ≠ [] ∧ ∃ u, G as u ∧ IsVector lp u data := by
  refine (exactVector_iff h hlp fun items ↦ (do
    if items.isEmpty then throw .valueOutOfRange
    pure items : Except ParseError (List α))).trans ?_
  have hnonempty : ∀ items : List α, (do
      if items.isEmpty then throw .valueOutOfRange
      pure items : Except ParseError (List α)) = .ok as ↔ items = as ∧ as ≠ [] := by
    intro items
    cases items with
    | nil => simp [bind, Except.bind, throw, throwThe, MonadExceptOf.throw, eq_comm]
    | cons a items =>
      simp only [List.isEmpty_cons, Bool.false_eq_true, if_false, pure, Except.pure,
        Except.ok.injEq]
      exact ⟨by rintro rfl; exact ⟨rfl, by simp⟩, fun h ↦ h.1⟩
  simp only [hnonempty]
  constructor
  · rintro ⟨_, hu, rfl, hne⟩
    exact ⟨hne, hu⟩
  · rintro ⟨hne, hu⟩
    exact ⟨as, hu, rfl, hne⟩

theorem be16_ne_nil (v : UInt16) : be16 v ≠ [] := by simp [be16]

theorem length_le_flatMap {α : Type} (f : α → Bytes) {as : List α} (h : ∀ a ∈ as, f a ≠ []) :
    as.length ≤ (as.flatMap f).length := by
  induction as with
  | nil => exact Nat.zero_le _
  | cons a as ih =>
    have hpos := List.length_pos_iff.mpr (h a List.mem_cons_self)
    have htail := ih fun b hb ↦ h b (List.mem_cons_of_mem a hb)
    rw [List.flatMap_cons, List.length_append, List.length_cons]
    omega

/-- A walk over at most `n` items. -/
theorem takeCounted_exact {α : Type} {item : Reader → Except ParseError (α × Reader)}
    {valid : α → Prop} {encode : α → Bytes} (hitem : Recognizes item (graph valid encode))
    (hne : ∀ a, encode a ≠ []) (n : Nat) :
    Reader.Exact (fun r ↦ r.takeCountedItems n item)
      fun as w ↦ as.length ≤ n ∧ (∀ a ∈ as, valid a) ∧ w = as.flatMap encode := by
  refine Reader.exact_of_decodes fun r as ↦ ?_
  refine (Reader.takeCountedItems_decodes hitem (fun a w h ↦ h.2 ▸ hne a) n r as).trans ?_
  dsimp only
  rw [items_graph]

theorem length_flatMap_be16 (vs : List UInt16) : (vs.flatMap be16).length = 2 * vs.length := by
  induction vs with
  | nil => rfl
  | cons v vs ih =>
    rw [List.flatMap_cons, List.length_append, ih, Reader.length_be16, List.length_cons]
    omega

/-- A walk over items with the number of bytes as its budget never runs out of it. -/
theorem takeRemaining_exact {α : Type} {item : Reader → Except ParseError (α × Reader)}
    {valid : α → Prop} {encode : α → Bytes} (hitem : Recognizes item (graph valid encode))
    (hne : ∀ a, encode a ≠ []) :
    Reader.Exact (fun r ↦ r.takeCountedItems r.remaining item)
      fun as w ↦ (∀ a ∈ as, valid a) ∧ w = as.flatMap encode := by
  refine Reader.exact_of_decodes fun r as ↦ ?_
  have hdec := Reader.takeCountedItems_decodes hitem (fun a w h ↦ h.2 ▸ hne a) r.remaining r as
  refine hdec.trans ?_
  dsimp only
  rw [items_graph]
  refine ⟨fun h ↦ h.2, fun h ↦ ⟨?_, h⟩⟩
  have hlen := congrArg List.length h.2
  have hle : as.length ≤ (as.flatMap encode).length := length_le_flatMap encode fun a _ ↦ hne a
  rw [r.length_rest] at hlen
  rw [Reader.remaining]
  omega

theorem parseU16Items_exact : Reader.Exact parseU16Items fun vs w ↦ w = vs.flatMap be16 := by
  intro bytes vs
  refine (takeRemaining_exact Reader.takeU16_recognizes be16_ne_nil bytes vs).trans ?_
  simp

/-- **A list of code points** is a non-empty vector of them. -/
theorem parseNonemptyU16Vector_iff {data : Bytes} {lp : LenPrefix} {vs : List UInt16}
    (hlp : lp = .len8 ∨ lp = .len16) :
    parseNonemptyU16Vector data lp = .ok vs ↔ vs ≠ [] ∧ IsVector lp (vs.flatMap be16) data := by
  rw [parseNonemptyU16Vector]
  refine (exactList_iff parseU16Items_exact hlp).trans (and_congr_right fun _ ↦ ?_)
  exact ⟨by rintro ⟨_, rfl, h⟩; exact h, fun h ↦ ⟨_, rfl, h⟩⟩

/-! ## The items of the extensions -/

/-- **A code and a vector behind it.** -/
theorem recognizes_coded {κ : Type} {code : Reader → Except ParseError (κ × Reader)}
    {encode : κ → Bytes} (hcode : Recognizes code (graph (fun _ ↦ True) encode))
    {q : Reader → Except ParseError ((κ × Bytes) × Reader)}
    (hq : ∀ r, q r = match code r with
      | .error e => .error e
      | .ok (c, r₁) =>
        match r₁.takeVectorBytes .len16 maxVectorLen with
        | .error e => .error e
        | .ok (data, r₂) => .ok ((c, data), r₂)) :
    Recognizes q (graph (fun e ↦ e.2.length < 2 ^ 16) fun e ↦ encode e.1 ++ u16Len e.2) := by
  refine (hcode.bind fun c ↦
    (Reader.takeVectorBytes_recognizes .len16 maxVectorLen).map fun data ↦ (c, data)).congr
    (fun r ↦ ?_) fun e w ↦ ?_
  · rw [hq]
    cases code r with
    | error e => rfl
    | ok x =>
      dsimp only
      cases x.2.takeVectorBytes .len16 maxVectorLen <;> rfl
  · constructor
    · rintro ⟨hlen, rfl⟩
      exact ⟨e.1, _, _, ⟨trivial, rfl⟩, ⟨e.2, ⟨⟨Nat.le_of_lt_succ hlen, hlen⟩, rfl⟩, rfl⟩, rfl⟩
    · rintro ⟨c, _, _, ⟨-, rfl⟩, ⟨data, ⟨⟨-, hlen⟩, rfl⟩, rfl⟩, rfl⟩
      exact ⟨hlen, rfl⟩

theorem parseExtension_recognizes : Recognizes parseExtension
    (graph (fun e ↦ e.2.length < 2 ^ 16) fun e ↦ extension e.1 e.2) := by
  refine recognizes_coded Reader.takeU16_recognizes fun r ↦ ?_
  rw [parseExtension]
  cases r.takeU16 <;> rfl

/-- A code and a vector behind it that may not be empty. -/
theorem recognizes_codedNonempty {κ : Type} {code : Reader → Except ParseError (κ × Reader)}
    {encode : κ → Bytes} (hcode : Recognizes code (graph (fun _ ↦ True) encode))
    {q : Reader → Except ParseError ((κ × Bytes) × Reader)}
    (hq : ∀ r, q r = match code r with
      | .error e => .error e
      | .ok (c, r₁) =>
        match r₁.takeVectorBytes .len16 maxVectorLen with
        | .error e => .error e
        | .ok (data, r₂) =>
          if data.isEmpty then .error .valueOutOfRange else .ok ((c, data), r₂)) :
    Recognizes q (graph (fun e ↦ e.2 ≠ [] ∧ e.2.length < 2 ^ 16)
      fun e ↦ encode e.1 ++ u16Len e.2) := by
  refine ((recognizes_coded hcode fun _ ↦ rfl).bind fun e ↦
    (Recognizes.pure e).guard (e.2.isEmpty = true) .valueOutOfRange).congr (fun r ↦ ?_) fun e w ↦ ?_
  · rw [hq]
    cases code r with
    | error e => rfl
    | ok x =>
      dsimp only
      cases x.2.takeVectorBytes .len16 maxVectorLen <;> rfl
  · constructor
    · rintro ⟨⟨hne, hlen⟩, rfl⟩
      exact ⟨e, _, [], ⟨hlen, rfl⟩, ⟨by rwa [List.isEmpty_iff], rfl, rfl⟩,
        (List.append_nil _).symm⟩
    · rintro ⟨_, _, _, ⟨hlen, rfl⟩, ⟨hne, rfl, rfl⟩, rfl⟩
      rw [List.isEmpty_iff] at hne
      exact ⟨⟨hne, hlen⟩, List.append_nil _⟩

theorem parseKeyShareEntry_recognizes : Recognizes parseKeyShareEntry
    (graph (fun e ↦ e.2 ≠ [] ∧ e.2.length < 2 ^ 16) fun e ↦ keyShareEntry e.1 e.2) := by
  refine recognizes_codedNonempty Reader.takeU16_recognizes fun r ↦ ?_
  rw [parseKeyShareEntry]
  cases r.takeU16 <;> rfl

/-- A server name as it is sent. -/
def serverNameEntry (n : RawServerName) : Bytes := [n.1] ++ u16Len n.2

theorem parseServerNameEntry_recognizes : Recognizes parseServerNameEntry
    (graph (fun n ↦ n.2 ≠ [] ∧ n.2.length < 2 ^ 16) serverNameEntry) := by
  refine recognizes_codedNonempty Reader.takeU8_recognizes fun r ↦ ?_
  rw [parseServerNameEntry]
  cases r.takeU8 <;> rfl

theorem parseAlpnProtocol_recognizes :
    Recognizes parseAlpnProtocol (graph (fun p ↦ p ≠ [] ∧ p.length ≤ 255) u8Len) := by
  have hvec := Reader.takeVectorBytes_recognizes .len8 255
  refine (hvec.bind fun p ↦ (Recognizes.pure p).guard (p.isEmpty = true) .valueOutOfRange).congr
    (fun r ↦ ?_) fun p w ↦ ?_
  · rw [parseAlpnProtocol]
    cases r.takeVectorBytes .len8 255 <;> rfl
  · constructor
    · rintro ⟨⟨hne, hlen⟩, rfl⟩
      exact ⟨p, _, [], ⟨⟨hlen, Nat.lt_succ_of_le hlen⟩, rfl⟩, ⟨by rwa [List.isEmpty_iff], rfl, rfl⟩,
        (List.append_nil _).symm⟩
    · rintro ⟨_, _, _, ⟨⟨hlen, -⟩, rfl⟩, ⟨hne, rfl, rfl⟩, rfl⟩
      rw [List.isEmpty_iff] at hne
      exact ⟨⟨hne, hlen⟩, List.append_nil _⟩

/-! ## Keys of a list -/

/-- In a list without duplicate keys, looking a key up is membership. -/
theorem find?_key_iff {κ : Type} [DecidableEq κ] {es : List (κ × Bytes)}
    (hes : (es.map Prod.fst).Nodup) {k : κ} {d : Bytes} :
    (es.find? fun e ↦ e.1 == k).map Prod.snd = some d ↔ (k, d) ∈ es := by
  induction es with
  | nil => simp
  | cons e es ih =>
    rw [List.map_cons, List.nodup_cons] at hes
    rw [List.find?_cons]
    by_cases hk : e.1 = k
    · subst hk
      have hnot : (e.1, d) ∉ es := fun h ↦ hes.1 (List.mem_map.mpr ⟨_, h, rfl⟩)
      simp only [beq_self_eq_true, Option.map_some, Option.some.injEq, List.mem_cons, hnot,
        or_false]
      exact ⟨by rintro rfl; rfl, fun h ↦ (congrArg Prod.snd h).symm⟩
    · have hne : (k, d) ≠ e := by
        rintro rfl
        exact hk rfl
      simp only [beq_eq_false_iff_ne.mpr hk, ih hes.2, List.mem_cons, hne, false_or]

theorem find?_key_eq_none_iff {κ : Type} [DecidableEq κ] {es : List (κ × Bytes)} {k : κ} :
    (es.find? fun e ↦ e.1 == k).map Prod.snd = none ↔ k ∉ es.map Prod.fst := by
  rw [Option.map_eq_none_iff, List.find?_eq_none]
  constructor
  · intro h hk
    obtain ⟨e, he, rfl⟩ := List.mem_map.mp hk
    exact h e he (beq_self_eq_true e.1)
  · intro h e he hk
    exact h (List.mem_map.mpr ⟨e, he, beq_iff_eq.mp hk⟩)

theorem any_count_gt_one_iff {κ : Type} [DecidableEq κ] (ks : List κ) :
    (ks.any fun k ↦ decide ((ks.filter (· == k)).length > 1)) = false ↔ ks.Nodup := by
  rw [List.nodup_iff_count_le_one, List.any_eq_false]
  simp only [decide_eq_true_eq, Nat.not_lt, ← List.countP_eq_length_filter]
  constructor
  · intro h k
    by_cases hk : k ∈ ks
    · exact h k hk
    · rw [List.count_eq_zero_of_not_mem hk]
      exact Nat.zero_le 1
  · exact fun h k _ ↦ h k

theorem findExt_eq_some {exts : List RawExtension} (h : (exts.map Prod.fst).Nodup) {ty : UInt16}
    {data : Bytes} : findExt exts ty = some data ↔ (ty, data) ∈ exts := find?_key_iff h

theorem findExt_eq_none {exts : List RawExtension} {ty : UInt16} :
    findExt exts ty = none ↔ ty ∉ exts.map Prod.fst := find?_key_eq_none_iff

theorem hasDuplicateExt_eq_false {exts : List RawExtension} :
    hasDuplicateExt exts = false ↔ (exts.map Prod.fst).Nodup := by
  rw [hasDuplicateExt]
  induction exts.map Prod.fst with
  | nil => simp [hasDuplicateExtGo]
  | cons t ts ih => simp [hasDuplicateExtGo, ih]

/-- The first supported suite is selected. -/
theorem selectSuite_eq (offered : List UInt16) :
    selectSuite offered = offered.findSome? suiteOfU16 := by
  have hfold : ∀ (cs : List UInt16) (acc : Option CipherSuite),
      cs.foldl (fun acc c ↦ acc.orElse fun _ ↦ suiteOfU16 c) acc =
        acc.orElse fun _ ↦ cs.findSome? suiteOfU16 := by
    intro cs
    induction cs with
    | nil => intro acc; cases acc <;> rfl
    | cons c cs ih =>
      intro acc
      rw [List.foldl_cons, ih, List.findSome?_cons]
      cases acc <;> cases suiteOfU16 c <;> rfl
  exact hfold offered none

/-! ## Server name and ALPN -/

/-- **ALPN** is one non-empty list of non-empty names. -/
theorem parseAlpnStrict_iff {data : Bytes} {names : List Bytes} :
    parseAlpnStrict data = .ok names ↔ names ≠ [] ∧ (∀ p ∈ names, p ≠ [] ∧ p.length ≤ 255) ∧
      IsVector .len16 (names.flatMap u8Len) data := by
  have hitems := takeRemaining_exact parseAlpnProtocol_recognizes fun p ↦ by simp [u8Len]
  rw [parseAlpnStrict]
  refine (exactList_iff hitems (.inr rfl)).trans (and_congr_right fun _ ↦ ?_)
  exact ⟨by rintro ⟨_, ⟨hall, rfl⟩, h⟩; exact ⟨hall, h⟩, fun h ↦ ⟨_, ⟨h.1, rfl⟩, h.2⟩⟩

/-- The raw names of a server-name extension. -/
structure IsServerNames (names : List RawServerName) (data : Bytes) : Prop where
  nonempty : names ≠ []
  bounds : ∀ n ∈ names, n.2 ≠ [] ∧ n.2.length < 2 ^ 16
  types : (names.map Prod.fst).Nodup
  data : IsVector .len16 (names.flatMap serverNameEntry) data

/-- The offer that a list of server names makes: what `parseSni` does behind the framing. -/
def sniOffer (names : List RawServerName) : Except ParseError SniOffer := do
  if names.isEmpty || hasDuplicateServerNameTypes names then throw .valueOutOfRange
  match names.find? fun n ↦ n.fst == 0 with
  | none => pure .presentWithoutSupportedName
  | some (_, raw) =>
    match ValidatedServerName.ofBytes raw with
    | .error _ => throw .valueOutOfRange
    | .ok name => pure (.hostName name)

theorem sniOffer_iff {names : List RawServerName} {name : ValidatedServerName} :
    sniOffer names = .ok (.hostName name) ↔ names ≠ [] ∧ (names.map Prod.fst).Nodup ∧
      ∃ raw, (0, raw) ∈ names ∧ ValidatedServerName.ofBytes raw = .ok name := by
  rw [sniOffer]
  by_cases hne : names = []
  · simp [hne, bind, Except.bind, throw, throwThe, MonadExceptOf.throw]
  · have hempty : names.isEmpty = false := by simpa using hne
    cases hdup : hasDuplicateServerNameTypes names with
    | true =>
      have hnodup : ¬ (names.map Prod.fst).Nodup := by
        rw [← any_count_gt_one_iff, ← hasDuplicateServerNameTypes, hdup]
        exact Bool.noConfusion
      simp [hempty, hnodup, bind, Except.bind, throw, throwThe, MonadExceptOf.throw]
    | false =>
      have hnodup : (names.map Prod.fst).Nodup := any_count_gt_one_iff _ |>.mp hdup
      simp only [hempty, Bool.or_false, Bool.false_eq_true, if_false, hne, hnodup, ne_eq,
        not_false_eq_true, true_and, ← find?_key_iff hnodup]
      cases names.find? fun n ↦ n.1 == 0 with
      | none => simp [pure_eq_ok_iff]
      | some n =>
        dsimp only
        cases hraw : ValidatedServerName.ofBytes n.2 with
        | error e => simp [hraw, throw_eq_ok_iff]
        | ok name' => simp [hraw, pure_eq_ok_iff]

/-- **The server name** is the entry of type zero; it has to be a valid host name. -/
theorem parseSni_iff {data : Bytes} {name : ValidatedServerName} :
    parseSni data = .ok (.hostName name) ↔ ∃ names raw, IsServerNames names data ∧
      (0, raw) ∈ names ∧ ValidatedServerName.ofBytes raw = .ok name := by
  have hitems := takeRemaining_exact parseServerNameEntry_recognizes
    fun n ↦ by simp [serverNameEntry]
  refine (exactVector_iff hitems (.inr rfl) sniOffer).trans ?_
  simp only [sniOffer_iff]
  constructor
  · rintro ⟨names, ⟨_, ⟨hall, rfl⟩, hdata⟩, hne, hnodup, raw, hraw, hname⟩
    exact ⟨names, raw, ⟨hne, hall, hnodup, hdata⟩, hraw, hname⟩
  · rintro ⟨names, raw, ⟨hne, hall, hnodup, hdata⟩, hraw, hname⟩
    exact ⟨names, ⟨_, ⟨hall, rfl⟩, hdata⟩, hne, hnodup, raw, hraw, hname⟩

/-! ## Key shares

The client sends shares for groups it has listed, at most one for each.  The server looks at the
shape of a share only where it knows the group, and ignores the others.  All of the checks are about
the whole list, and the result is the sublist of what the server knows, in the order of the client.
-/

/-- The entries of a key-share extension. -/
structure IsKeyShares (entries : List (UInt16 × Bytes)) (data : Bytes) : Prop where
  nonempty : entries ≠ []
  count : entries.length ≤ maxKeyShares
  bounds : ∀ e ∈ entries, e.2 ≠ [] ∧ e.2.length < 2 ^ 16
  data : IsVector .len16 (entries.flatMap fun e ↦ keyShareEntry e.1 e.2) data

theorem parseKeyShareEntries_iff {data : Bytes} {entries : List (UInt16 × Bytes)} :
    parseKeyShareEntries data = .ok entries ↔ IsKeyShares entries data := by
  have hitems := takeCounted_exact parseKeyShareEntry_recognizes
    (fun e ↦ by simp [keyShareEntry, be16]) maxKeyShares
  rw [parseKeyShareEntries]
  refine (exactList_iff hitems (.inr rfl)).trans ?_
  constructor
  · rintro ⟨hne, _, ⟨hcount, hall, rfl⟩, hdata⟩
    exact ⟨hne, hcount, hall, hdata⟩
  · rintro ⟨hne, hcount, hall, hdata⟩
    exact ⟨hne, _, ⟨hcount, hall, rfl⟩, hdata⟩

/-- The group of a code point that the server has an implementation of. -/
def groupOfU16 (code : UInt16) : Option NamedGroup :=
  if code = 0x001d then some .x25519 else if code = 0x0017 then some .secp256r1 else none

/-- The shape of a public key of a group. -/
def IsShare : NamedGroup → Bytes → Prop
  | .x25519, share => share.length = 32
  | .secp256r1, share => share.length = 65 ∧ share.getD 0 0 = 0x04

/-- The shares that the server can use, in client order. -/
def recognizedShares (entries : List (UInt16 × Bytes)) : List (NamedGroup × Bytes) :=
  entries.filterMap fun e ↦ (groupOfU16 e.1).map fun g ↦ (g, e.2)

/-- **The shares a message offers**: one per group, only for groups it lists, and each of a group
that the server knows is shaped like a public key of it. -/
structure OffersShares (exts : List RawExtension) (shares : List (NamedGroup × Bytes)) : Prop where
  nonempty : shares ≠ []
  offered : ∃ data entries groupsData groups, (51, data) ∈ exts ∧ IsKeyShares entries data ∧
    (0x000a, groupsData) ∈ exts ∧ groups ≠ [] ∧
    IsVector .len16 (groups.flatMap be16) groupsData ∧ (entries.map Prod.fst).Nodup ∧
    (∀ e ∈ entries, e.1 ∈ groups) ∧
    (∀ e ∈ entries, ∀ g, groupOfU16 e.1 = some g → IsShare g e.2) ∧
    shares = recognizedShares entries

theorem supportedGroupIds_iff {exts : List RawExtension} {groups : List UInt16} :
    supportedGroupIds exts = .ok (some groups) ↔ ∃ data, findExt exts 0x000a = some data ∧
      groups ≠ [] ∧ IsVector .len16 (groups.flatMap be16) data := by
  rw [supportedGroupIds]
  cases findExt exts 0x000a with
  | none => simp
  | some data =>
    simp only [Option.some.injEq, exists_eq_left', ← parseNonemptyU16Vector_iff (.inr rfl)]
    rw [parseSupportedGroups]
    cases parseNonemptyU16Vector data .len16 <;> simp [Except.map]

theorem hasDupGroupIds_eq_false {entries : List (UInt16 × Bytes)} :
    hasDupGroupIds entries = false ↔ (entries.map Prod.fst).Nodup := any_count_gt_one_iff _

/-- The check of the shapes is the shape. -/
theorem malformed_iff (e : UInt16 × Bytes) :
    (if e.1 == 0x001d then e.2.length != 32
      else if e.1 == 0x0017 then !(e.2.length == 65 && e.2.getD 0 0 == 0x04)
      else false) = false ↔ ∀ g, groupOfU16 e.1 = some g → IsShare g e.2 := by
  rw [groupOfU16]
  by_cases hx : e.1 = 0x001d
  · simp [hx, IsShare]
  · by_cases hp : e.1 = 0x0017
    · simp [hp, IsShare]
    · simp [hx, hp]

theorem recognizedShares_eq (entries : List (UInt16 × Bytes)) :
    (entries.filterMap fun e ↦
      if e.1 == 0x001d then some (NamedGroup.x25519, e.2)
      else if e.1 == 0x0017 then some (NamedGroup.secp256r1, e.2)
      else none) = recognizedShares entries := by
  rw [recognizedShares]
  refine List.filterMap_congr fun e _ ↦ ?_
  rw [groupOfU16]
  by_cases hx : e.1 = 0x001d
  · simp [hx]
  · by_cases hp : e.1 = 0x0017
    · simp [hp]
    · simp [hx, hp]

theorem findOfferedKeyShares_iff {exts : List RawExtension} (hexts : (exts.map Prod.fst).Nodup)
    {shares : List (NamedGroup × Bytes)} :
    findOfferedKeyShares exts = .ok shares ↔ OffersShares exts shares := by
  have hlisted : ∀ (entries : List (UInt16 × Bytes)) (groups : List UInt16),
      ¬ (entries.any fun e ↦ !(groups.contains e.1)) = true ↔ ∀ e ∈ entries, e.1 ∈ groups := by
    simp
  have hshaped : ∀ entries : List (UInt16 × Bytes),
      ¬ (entries.any fun e ↦
        if e.1 == 0x001d then e.2.length != 32
        else if e.1 == 0x0017 then !(e.2.length == 65 && e.2.getD 0 0 == 0x04)
        else false) = true ↔ ∀ e ∈ entries, ∀ g, groupOfU16 e.1 = some g → IsShare g e.2 := by
    intro entries
    rw [Bool.not_eq_true, List.any_eq_false]
    refine forall₂_congr fun e _ ↦ ?_
    rw [← malformed_iff, Bool.not_eq_true]
  rw [findOfferedKeyShares]
  cases hdata : findExt exts 51 with
  | none =>
    refine iff_of_false (by simp [throw_eq_ok_iff]) ?_
    rintro ⟨-, _, _, _, _, h, -⟩
    rw [← findExt_eq_some hexts, hdata] at h
    cases h
  | some data =>
    simp only [bind_eq_ok_iff, recognizedShares_eq, parseKeyShareEntries_iff]
    constructor
    · rintro ⟨entries, hentries, found, hfound, h⟩
      cases found with
      | none => simp [throw_eq_ok_iff] at h
      | some groups =>
        simp only [guard_eq_ok_iff, hlisted, hshaped, Bool.not_eq_true,
          hasDupGroupIds_eq_false] at h
        obtain ⟨hnodup, hmem, hshape, hne, hpure⟩ := h
        obtain ⟨groupsData, hext, hgroups, hvec⟩ := supportedGroupIds_iff.mp hfound
        cases hpure
        exact ⟨by simpa using hne, data, entries, groupsData, groups,
          (findExt_eq_some hexts).mp hdata, hentries, (findExt_eq_some hexts).mp hext, hgroups,
          hvec, hnodup, hmem, hshape, rfl⟩
    · rintro ⟨hne, data', entries, groupsData, groups, hdata', hentries, hext, hgroups, hvec,
        hnodup, hmem, hshape, rfl⟩
      rw [← findExt_eq_some hexts] at hdata' hext
      obtain rfl := Option.some.inj (hdata.symm.trans hdata')
      refine ⟨entries, hentries, some groups,
        supportedGroupIds_iff.mpr ⟨groupsData, hext, hgroups, hvec⟩, ?_⟩
      simp only [guard_eq_ok_iff, hlisted, hshaped, Bool.not_eq_true, hasDupGroupIds_eq_false]
      exact ⟨hnodup, hmem, hshape, by simpa using hne, rfl⟩

/-! ## The message

The lengths in the structure are those of the wire format, and the number of extensions is bounded
by the parser.  What the fields mean is not looked at here. -/

/-- **A ClientHello**, as its sender builds it.  The bounds are those of the format, and the budgets
of the parser. -/
structure ClientHello where
  random : Bytes
  sessionId : Bytes
  suites : List UInt16
  extensions : List RawExtension
  length_random : random.length = 32
  length_sessionId : sessionId.length ≤ 32
  suites_ne_nil : suites ≠ []
  length_suites : suites.length ≤ maxCipherSuites
  length_extensions : extensions.length ≤ maxExtensions
  length_data : ∀ e ∈ extensions, e.2.length < 2 ^ 16
  size_extensions : 8 ≤ (extensions.flatMap fun e ↦ extension e.1 e.2).length ∧
    (extensions.flatMap fun e ↦ extension e.1 e.2).length < 2 ^ 16

namespace ClientHello

/-- The bytes of the extensions. -/
def extensionBytes (ch : ClientHello) : Bytes := ch.extensions.flatMap fun e ↦ extension e.1 e.2

/-- The body of the message. -/
def body (ch : ClientHello) : Bytes :=
  be16 0x0303 ++ ch.random ++ u8Len ch.sessionId ++ u16Len (ch.suites.flatMap be16) ++ u8Len [0] ++
    u16Len ch.extensionBytes

/-- The message on the wire. -/
def encode (ch : ClientHello) : Bytes := Wire.handshake 1 ch.body

/-- What the framing keeps of the message. -/
def framed (ch : ClientHello) : FramedClientHello where
  sessionId := ch.sessionId
  offeredSuites := ch.suites
  extensions := ch.extensions

end ClientHello

theorem extension_ne_nil (e : RawExtension) : extension e.1 e.2 ≠ [] := by simp [extension, be16]

theorem parseExtensionItems_exact : Reader.Exact parseExtensionItems fun exts w ↦
    8 ≤ w.length ∧ exts.length ≤ maxExtensions ∧ (∀ e ∈ exts, e.2.length < 2 ^ 16) ∧
      w = exts.flatMap fun e ↦ extension e.1 e.2 := by
  intro bytes exts
  have hitems := takeCounted_exact parseExtension_recognizes extension_ne_nil maxExtensions
  rw [parseExtensionItems]
  by_cases h : bytes.length < 8
  · have hshort : (Reader.ofBytes bytes).input.length < 8 := h
    rw [if_pos hshort]
    exact iff_of_false (by simp) fun hw ↦ Nat.not_le.mpr h hw.1
  · have hlong : ¬ (Reader.ofBytes bytes).input.length < 8 := h
    rw [if_neg hlong]
    exact (hitems bytes exts).trans (by simp [Nat.not_lt.mp h])

/-- The only compression method there is. -/
theorem compression_iff (c : Bytes) :
    ¬ (!(c.length == 1 && c.getD 0 0 == 0)) = true ↔ c = [0] := by
  match c with
  | [] => simp
  | [b] => simp
  | _ :: _ :: _ => simp

/-- **Framing is exact**: the body of a message is framed as the fields of the message, and nothing
else is framed. -/
theorem frameClientHelloBody_recognizes : Recognizes frameClientHelloBody
    fun framed w ↦ ∃ ch : ClientHello, w = ch.body ∧ framed = ch.framed := by
  have hexts := fun sid suites ↦
    (Reader.takeVectorExact_recognizes parseExtensionItems_exact .len16 maxVectorLen).map
      (FramedClientHello.mk sid suites)
  have hcompression := fun sid suites ↦
    (Reader.takeVectorBytes_recognizes .len8 maxVectorLen).bind fun c ↦
      (hexts sid suites).guard ((!(c.length == 1 && c.getD 0 0 == 0)) = true) .valueOutOfRange
  have hsuites := fun sid ↦
    (Reader.takeVectorExact_recognizes parseU16Items_exact .len16 (2 * maxCipherSuites)).bind
      fun suites ↦ (hcompression sid suites).guard (suites.isEmpty = true) .valueOutOfRange
  have hids := (Reader.takeVectorBytes_recognizes .len8 32).bind hsuites
  have hbody := (Reader.takeBytes_recognizes 32).bind fun _ ↦ hids
  have hmsg := Reader.takeU16_recognizes.bind fun v ↦
    hbody.guard ((v != 0x0303) = true) ParseError.valueOutOfRange
  refine hmsg.congr (fun r ↦ ?_) fun framed w ↦ ?_
  · rw [frameClientHelloBody]
    cases r.takeU16 with
    | error e => rfl
    | ok x₁ =>
      dsimp only
      split
      · rfl
      · cases x₁.2.takeBytes 32 with
        | error e => rfl
        | ok x₂ =>
          dsimp only
          cases x₂.2.takeVectorBytes .len8 32 with
          | error e => rfl
          | ok x₃ =>
            dsimp only
            cases x₃.2.takeVectorExact .len16 (2 * maxCipherSuites) parseU16Items with
            | error e => rfl
            | ok x₄ =>
              dsimp only
              split
              · rfl
              · cases x₄.2.takeVectorBytes .len8 maxVectorLen with
                | error e => rfl
                | ok x₅ =>
                  dsimp only
                  split
                  · rfl
                  · cases x₅.2.takeVectorExact .len16 maxVectorLen parseExtensionItems <;> rfl
  · constructor
    · rintro ⟨ch, rfl, rfl⟩
      have hsuites : (ch.suites.flatMap be16).length ≤ 2 * maxCipherSuites := by
        rw [length_flatMap_be16]
        exact Nat.mul_le_mul_left 2 ch.length_suites
      obtain ⟨hmin, hmax⟩ := ch.size_extensions
      refine ⟨0x0303, _, _, ⟨trivial, rfl⟩, ⟨by decide, ch.random, _, _, ⟨ch.length_random, rfl⟩,
        ⟨ch.sessionId, _, _, ⟨⟨ch.length_sessionId, ?_⟩, rfl⟩, ⟨ch.suites, _, _,
          ⟨_, rfl, hsuites, ?_, rfl⟩, ⟨?_, [0], _, _, ⟨⟨by decide, by decide⟩, rfl⟩, ⟨by decide,
            ch.extensions, ⟨_, ⟨hmin, ch.length_extensions, ch.length_data, rfl⟩,
              Nat.le_of_lt_succ hmax, hmax, rfl⟩, rfl⟩, rfl⟩, rfl⟩, rfl⟩, rfl⟩, ?_⟩
      · exact Nat.lt_of_le_of_lt ch.length_sessionId (by decide)
      · exact Nat.lt_of_le_of_lt hsuites (by decide)
      · simpa using ch.suites_ne_nil
      · simp only [ClientHello.body, ClientHello.extensionBytes, List.append_assoc, vector_len8,
          vector_len16, id_eq]
    · rintro ⟨v, _, _, ⟨-, rfl⟩, ⟨hv, _, random, _, ⟨hrandom, rfl⟩, ⟨sid, _, _, ⟨⟨hsid, -⟩, rfl⟩,
        ⟨suites, _, _, ⟨_, rfl, hsuites, -, rfl⟩, ⟨hne, c, _, _, ⟨-, rfl⟩, ⟨hc, exts,
          ⟨_, ⟨hmin, hcount, hall, rfl⟩, -, hmax, rfl⟩, rfl⟩, rfl⟩, rfl⟩, rfl⟩, rfl⟩, rfl⟩
      have hversion : v = 0x0303 := by simpa using hv
      rw [length_flatMap_be16] at hsuites
      refine ⟨⟨random, sid, suites, exts, hrandom, hsid, by simpa using hne,
        Nat.le_of_mul_le_mul_left hsuites (by decide), hcount, hall, hmin, hmax⟩, ?_, rfl⟩
      simp only [hversion, (compression_iff c).mp hc, ClientHello.body,
        ClientHello.extensionBytes, List.append_assoc, vector_len8, vector_len16]

/-! ## What a message negotiates

Each field of `Negotiates` is one check of the source, or one search whose result is kept.  The
order of the checks matters for the error that is returned, and not for what is accepted. -/

/-- The protocols a message offers; `none` if it has no ALPN extension. -/
def OffersAlpn (exts : List RawExtension) : Option (List Bytes) → Prop
  | none => 16 ∉ exts.map Prod.fst
  | some names => ∃ data, (16, data) ∈ exts ∧ names ≠ [] ∧
      (∀ p ∈ names, p ≠ [] ∧ p.length ≤ 255) ∧ IsVector .len16 (names.flatMap u8Len) data

/-- The host name a message asks for; `none` if it has no server-name extension. -/
def OffersName (exts : List RawExtension) : Option Bytes → Prop
  | none => 0 ∉ exts.map Prod.fst
  | some bytes => ∃ data names raw, (0, data) ∈ exts ∧ IsServerNames names data ∧
      (0, raw) ∈ names ∧ ValidatedServerName.ofBytes raw = .ok ⟨bytes⟩

/-- **What the server takes from a message**, in terms of what the message carries. -/
structure ClientHello.Negotiates (ch : ClientHello) (vch : ValidClientHello) : Prop where
  distinct : (ch.extensions.map Prod.fst).Nodup
  version : ∃ data versions, (43, data) ∈ ch.extensions ∧ versions ≠ [] ∧
    IsVector .len8 (versions.flatMap be16) data ∧ 0x0304 ∈ versions
  shares : OffersShares ch.extensions vch.offeredShares
  suite : ch.suites.findSome? suiteOfU16 = some vch.selectedSuite
  schemes_ne_nil : vch.offeredSigSchemes ≠ []
  schemes : ∃ data codes, (0x000d, data) ∈ ch.extensions ∧ codes ≠ [] ∧
    IsVector .len16 (codes.flatMap be16) data ∧
    vch.offeredSigSchemes = codes.filterMap sigSchemeOfU16
  alpn : OffersAlpn ch.extensions vch.alpn
  sni : OffersName ch.extensions vch.sni
  sessionId : vch.sessionId = ch.sessionId

/-- The ALPN field, as `validateFramedClientHello` computes it. -/
def alpnField (exts : List RawExtension) : Except ParseError (Option (List Bytes)) :=
  match findExt exts 16 with
  | none => pure none
  | some d => do pure (some (← parseAlpnStrict d))

/-- The server-name field, as `validateFramedClientHello` computes it. -/
def sniField (exts : List RawExtension) : Except ParseError (Option Bytes) :=
  match findExt exts 0 with
  | none => pure none
  | some d => do
    match ← parseSni d with
    | .hostName name => pure (some name.bytes)
    | .presentWithoutSupportedName => throw .valueOutOfRange
    | .absent => throw .valueOutOfRange

theorem offersTls13_iff {exts : List RawExtension} (hexts : (exts.map Prod.fst).Nodup) :
    offersTls13 exts = .ok true ↔ ∃ data versions, (43, data) ∈ exts ∧ versions ≠ [] ∧
      IsVector .len8 (versions.flatMap be16) data ∧ 0x0304 ∈ versions := by
  simp only [← findExt_eq_some hexts]
  rw [offersTls13]
  cases findExt exts 43 with
  | none => simp
  | some data =>
    have hvec : (∃ versions : List UInt16, versions ≠ [] ∧
        IsVector .len8 (versions.flatMap be16) data ∧ 0x0304 ∈ versions) ↔
        ∃ versions, parseSupportedVersions data = .ok versions ∧ 0x0304 ∈ versions := by
      simp only [parseSupportedVersions, parseNonemptyU16Vector_iff (.inl rfl), and_assoc]
    simp only [Option.some.injEq, exists_and_left, exists_eq_left', hvec]
    cases parseSupportedVersions data <;> simp [Except.map]

theorem clientSigSchemeCodes_iff {exts : List RawExtension} (hexts : (exts.map Prod.fst).Nodup)
    {codes : List UInt16} (hne : codes ≠ []) :
    clientSigSchemeCodes exts = .ok codes ↔ ∃ data, (0x000d, data) ∈ exts ∧
      IsVector .len16 (codes.flatMap be16) data := by
  simp only [← findExt_eq_some hexts]
  rw [clientSigSchemeCodes]
  cases findExt exts 0x000d with
  | none => simp [hne.symm]
  | some data =>
    simp only [Option.some.injEq, exists_eq_left', parseSignatureAlgorithms,
      parseNonemptyU16Vector_iff (.inr rfl), hne, ne_eq, not_false_eq_true, true_and]

theorem alpnField_iff {exts : List RawExtension} (hexts : (exts.map Prod.fst).Nodup)
    {alpn : Option (List Bytes)} : alpnField exts = .ok alpn ↔ OffersAlpn exts alpn := by
  rw [alpnField]
  cases alpn with
  | none =>
    rw [OffersAlpn, ← findExt_eq_none]
    cases findExt exts 16 with
    | none => exact iff_of_true rfl rfl
    | some data =>
      simp only [bind_eq_ok_iff, pure_eq_ok_iff]
      simp
  | some names =>
    simp only [OffersAlpn, ← findExt_eq_some hexts, ← parseAlpnStrict_iff]
    cases findExt exts 16 with
    | none => simp [pure_eq_ok_iff]
    | some data =>
      simp only [bind_eq_ok_iff, pure_eq_ok_iff]
      simp

theorem sniField_iff {exts : List RawExtension} (hexts : (exts.map Prod.fst).Nodup)
    {sni : Option Bytes} : sniField exts = .ok sni ↔ OffersName exts sni := by
  have hoffer : ∀ o : SniOffer, (match o with
      | .hostName name => pure (some name.bytes)
      | .presentWithoutSupportedName => throw .valueOutOfRange
      | .absent => throw .valueOutOfRange : Except ParseError (Option Bytes)) = .ok sni ↔
      ∃ name, o = .hostName name ∧ sni = some name.bytes := by
    intro o
    cases o with
    | hostName name =>
      simp only [pure_eq_ok_iff, SniOffer.hostName.injEq, exists_eq_left']
      exact eq_comm
    | absent | presentWithoutSupportedName => simp [throw_eq_ok_iff]
  rw [sniField]
  cases sni with
  | none =>
    rw [OffersName, ← findExt_eq_none]
    cases findExt exts 0 with
    | none => exact iff_of_true rfl rfl
    | some data => simp [bind_eq_ok_iff, hoffer]
  | some bytes =>
    simp only [OffersName, ← findExt_eq_some hexts]
    cases findExt exts 0 with
    | none => simp [pure_eq_ok_iff]
    | some data =>
      simp only [bind_eq_ok_iff, hoffer, Option.some.injEq, exists_and_left, exists_eq_left']
      constructor
      · rintro ⟨_, h, name, rfl, rfl⟩
        obtain ⟨names, raw, hnames, hraw, hname⟩ := parseSni_iff.mp h
        exact ⟨names, hnames, raw, hraw, hname⟩
      · rintro ⟨names, hnames, raw, hraw, hname⟩
        exact ⟨_, parseSni_iff.mpr ⟨names, raw, hnames, hraw, hname⟩, _, rfl, rfl⟩

theorem validateFramedClientHello_eq (framed : FramedClientHello) :
    validateFramedClientHello framed = (do
      if hasDuplicateExt framed.extensions then throw .valueOutOfRange
      if !(← offersTls13 framed.extensions) then throw .valueOutOfRange
      let shares ← findOfferedKeyShares framed.extensions
      let some suite := selectSuite framed.offeredSuites | throw .valueOutOfRange
      let codes ← clientSigSchemeCodes framed.extensions
      if (recognizedSigSchemes codes).isEmpty then throw .valueOutOfRange
      let alpn ← alpnField framed.extensions
      let sni ← sniField framed.extensions
      pure ⟨suite, shares, recognizedSigSchemes codes, sni, alpn, framed.sessionId⟩) := by
  rw [validateFramedClientHello, alpnField, sniField]
  dsimp only
  cases hasDuplicateExt framed.extensions with
  | true => rfl
  | false =>
  cases offersTls13 framed.extensions with
  | error e => rfl
  | ok b =>
  cases b with
  | false => rfl
  | true =>
  cases findOfferedKeyShares framed.extensions with
  | error e => rfl
  | ok shares =>
  cases selectSuite framed.offeredSuites with
  | none => rfl
  | some suite =>
  cases clientSigSchemeCodes framed.extensions with
  | error e => rfl
  | ok codes =>
  dsimp only [bind, Except.bind]
  cases (recognizedSigSchemes codes).isEmpty with
  | true => rfl
  | false =>
  -- the two optional fields
  cases findExt framed.extensions 16 with
  | none =>
    cases findExt framed.extensions 0 with
    | none => rfl
    | some d =>
      dsimp only
      cases parseSni d with
      | error e => rfl
      | ok o => cases o <;> rfl
  | some d =>
    dsimp only
    cases parseAlpnStrict d with
    | error e => rfl
    | ok names =>
      cases findExt framed.extensions 0 with
      | none => rfl
      | some d =>
        dsimp only
        cases parseSni d with
        | error e => rfl
        | ok o => cases o <;> rfl

/-- **The semantic checks** accept what negotiates something. -/
theorem validateFramedClientHello_iff {ch : ClientHello} {vch : ValidClientHello} :
    validateFramedClientHello ch.framed = .ok vch ↔ ch.Negotiates vch := by
  rw [validateFramedClientHello_eq, selectSuite_eq]
  simp only [guard_eq_ok_iff, bind_eq_ok_iff, Bool.not_eq_true, hasDuplicateExt_eq_false]
  dsimp only [ClientHello.framed]
  constructor
  · rintro ⟨hdistinct, tls, htls, hb, shares, hshares, h⟩
    cases hsuite : ch.suites.findSome? suiteOfU16 with
    | none => simp [hsuite, throw_eq_ok_iff] at h
    | some suite =>
      simp only [hsuite, bind_eq_ok_iff, guard_eq_ok_iff] at h
      obtain ⟨codes, hcodes, hne, alpn, halpn, sni, hsni, hvch⟩ := h
      rw [List.isEmpty_iff] at hne
      have hcodes_ne : codes ≠ [] := by
        rintro rfl
        exact hne rfl
      obtain ⟨data, hdata, hvec⟩ := (clientSigSchemeCodes_iff hdistinct hcodes_ne).mp hcodes
      cases hvch
      exact
        { distinct := hdistinct
          version := (offersTls13_iff hdistinct).mp (by rw [htls]; cases tls <;> simp_all)
          shares := (findOfferedKeyShares_iff hdistinct).mp hshares
          suite := hsuite
          schemes_ne_nil := hne
          schemes := ⟨data, codes, hdata, hcodes_ne, hvec, rfl⟩
          alpn := (alpnField_iff hdistinct).mp halpn
          sni := (sniField_iff hdistinct).mp hsni
          sessionId := rfl }
  · intro h
    obtain ⟨data, codes, hdata, hne, hvec, hschemes⟩ := h.schemes
    refine ⟨h.distinct, true, (offersTls13_iff h.distinct).mpr h.version, rfl, _,
      (findOfferedKeyShares_iff h.distinct).mpr h.shares, ?_⟩
    have hcodes := (clientSigSchemeCodes_iff h.distinct hne).mpr ⟨data, hdata, hvec⟩
    have hsome : (recognizedSigSchemes codes).isEmpty = false := by
      rw [recognizedSigSchemes, ← hschemes, List.isEmpty_eq_false_iff]
      exact h.schemes_ne_nil
    simp only [h.suite, bind_eq_ok_iff, guard_eq_ok_iff]
    refine ⟨codes, hcodes, by simp [hsome], _, (alpnField_iff h.distinct).mpr h.alpn, _,
      (sniField_iff h.distinct).mpr h.sni, ?_⟩
    rw [pure_eq_ok_iff, recognizedSigSchemes, ← hschemes, ← h.sessionId]

theorem parseClientHelloBody_recognizes : Recognizes parseClientHelloBody
    fun vch w ↦ ∃ ch : ClientHello, w = ch.body ∧ ch.Negotiates vch := by
  refine (frameClientHelloBody_recognizes.bind fun framed ↦
    Recognizes.check (validateFramedClientHello framed)).congr (fun r ↦ ?_) fun vch w ↦ ?_
  · rw [parseClientHelloBody]
    cases frameClientHelloBody r with
    | error e => rfl
    | ok x =>
      dsimp only
      cases validateFramedClientHello x.1 <;> rfl
  · constructor
    · rintro ⟨ch, rfl, h⟩
      exact ⟨ch.framed, ch.body, [], ⟨ch, rfl, rfl⟩, ⟨validateFramedClientHello_iff.mpr h, rfl⟩,
        (List.append_nil _).symm⟩
    · rintro ⟨_, _, _, ⟨ch, rfl, rfl⟩, ⟨h, rfl⟩, rfl⟩
      exact ⟨ch, List.append_nil _, validateFramedClientHello_iff.mp h⟩

theorem ClientHello.length_body (ch : ClientHello) : ch.body.length < 2 ^ 24 := by
  have hrandom := ch.length_random
  have hsid := ch.length_sessionId
  have hsuites := ch.length_suites
  have hexts : ch.extensionBytes.length < 2 ^ 16 := ch.size_extensions.2
  rw [maxCipherSuites] at hsuites
  simp only [body, u8Len, u16Len, List.length_append, List.length_singleton, Reader.length_be16,
    length_flatMap_be16]
  omega

/-- The message, without the check that nothing follows it. -/
def takeClientHello (r : Reader) : Except ParseError (ValidClientHello × Reader) :=
  match r.takeU8 with
  | .error e => .error e
  | .ok (msgType, r₁) =>
    if (msgType != 1) = true then .error .valueOutOfRange
    else r₁.takeVectorExact .len24 r₁.remaining parseClientHelloBody

theorem takeClientHello_recognizes : Recognizes takeClientHello
    fun vch w ↦ ∃ ch : ClientHello, w = ch.encode ∧ ch.Negotiates vch := by
  have hexact := Reader.exact_of_decodes parseClientHelloBody_recognizes.decodes
  refine (Reader.takeU8_recognizes.bind fun t ↦
    (Reader.takeVectorExact_remaining hexact .len24).guard ((t != 1) = true)
      .valueOutOfRange).congr (fun r ↦ ?_) fun vch w ↦ ?_
  · rw [takeClientHello]
    cases r.takeU8 <;> rfl
  · constructor
    · rintro ⟨ch, rfl, h⟩
      exact ⟨1, _, _, ⟨trivial, rfl⟩, ⟨by decide, _, ⟨ch, rfl, h⟩, ch.length_body, rfl⟩, rfl⟩
    · rintro ⟨t, _, _, ⟨-, rfl⟩, ⟨ht, _, ⟨ch, rfl, h⟩, -, rfl⟩, rfl⟩
      have htype : t = 1 := by simpa using ht
      exact ⟨ch, by rw [htype]; rfl, h⟩

theorem parseClientHello_eq_ok {input : Bytes} {wb : Core.WireBound ValidClientHello} :
    parseClientHello input = .ok wb ↔ wb.wireBytes = input ∧
      ∃ r, takeClientHello (Reader.ofBytes input) = .ok (wb.value, r) ∧ r.expectEnd = .ok () := by
  rw [parseClientHello, takeClientHello]
  cases (Reader.ofBytes input).takeU8 with
  | error e => simp
  | ok x =>
    dsimp only
    split
    · simp
    · cases x.2.takeVectorExact .len24 x.2.remaining parseClientHelloBody with
      | error e => simp
      | ok y =>
        obtain ⟨vch, outer⟩ := y
        dsimp only
        cases hend : outer.expectEnd with
        | error e =>
          refine iff_of_false (by simp) ?_
          rintro ⟨-, r, hr, hend'⟩
          cases hr
          rw [hend] at hend'
          cases hend'
        | ok u =>
          constructor
          · intro h
            cases h
            exact ⟨rfl, outer, rfl, hend⟩
          · rintro ⟨rfl, r, hr, -⟩
            cases hr
            rfl

/-- **What a ClientHello is.**  The parser accepts exactly the messages that negotiate something,
and returns what they negotiate. -/
theorem parseClientHello_iff {input : Bytes} {wb : Core.WireBound ValidClientHello} :
    parseClientHello input = .ok wb ↔
      wb.wireBytes = input ∧ ∃ ch : ClientHello, input = ch.encode ∧ ch.Negotiates wb.value := by
  rw [parseClientHello_eq_ok]
  refine and_congr_right fun _ ↦ ?_
  simp only [Reader.expectEnd_eq_ok]
  exact takeClientHello_recognizes.decodes (Reader.ofBytes input) wb.value

end Kroopt.Parse
