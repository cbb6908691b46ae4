import Kroopt.Core.Record

/-!
# The transcript

The handshake transcript over exact wire bytes: an ordered list of the messages committed so far,
each with the bytes that were parsed or framed.  A snapshot pins a crypto operation to the prefix
it covers, and `prefixBytes` is the text of that prefix.
-/

set_option autoImplicit false

namespace Kroopt.Core

/-- A value with the exact bytes it was parsed from. -/
structure WireBound (α : Type) where
  value : α
  wireBytes : Bytes

/-- The handshake messages that enter the transcript. -/
inductive HandshakeMessageType
  | clientHello
  | serverHello
  | encryptedExtensions
  | certificate
  | certificateVerify
  | finished
  deriving DecidableEq, Inhabited

/-- Public data of a committed message. -/
structure TranscriptEventMeta where
  kind : HandshakeMessageType
  direction : Direction
  length : Nat
  deriving DecidableEq, Inhabited

/-- One committed message. -/
structure TranscriptEvent where
  eventMeta : TranscriptEventMeta
  wireBytes : Bytes
  deriving DecidableEq

/-- The transcript: its messages in order, and a counter of the snapshots taken. -/
structure TranscriptState where
  hashAlg : HashAlgorithm
  events : List TranscriptEvent
  snapshotCounter : UInt64
  deriving DecidableEq

/-- A pinned prefix of a transcript. -/
structure TranscriptSnapshot where
  id : UInt64
  hashAlg : HashAlgorithm
  eventCount : Nat
  deriving DecidableEq, Inhabited

namespace TranscriptState

/-- A fresh transcript. -/
def fresh (alg : HashAlgorithm) : TranscriptState where
  hashAlg := alg
  events := []
  snapshotCounter := 0

/-- Append a message by its exact bytes. -/
def appendFramed (ts : TranscriptState) (kind : HandshakeMessageType) (dir : Direction)
    (wire : Bytes) : TranscriptState :=
  { ts with events := ts.events ++ [⟨⟨kind, dir, wire.length⟩, wire⟩] }

/-- Pin the current prefix and advance the counter. -/
def snapshot (ts : TranscriptState) : TranscriptSnapshot × TranscriptState :=
  (⟨ts.snapshotCounter, ts.hashAlg, ts.events.length⟩,
    { ts with snapshotCounter := ts.snapshotCounter + 1 })

/-- The committed bytes of the prefix a snapshot pins. -/
def prefixBytes (ts : TranscriptState) (snap : TranscriptSnapshot) : Bytes :=
  (ts.events.take snap.eventCount).foldl (fun acc e ↦ acc ++ e.wireBytes) []

@[simp] theorem appendFramed_events (ts : TranscriptState) (kind : HandshakeMessageType)
    (dir : Direction) (wire : Bytes) :
    (ts.appendFramed kind dir wire).events = ts.events ++ [⟨⟨kind, dir, wire.length⟩, wire⟩] := rfl

@[simp] theorem snapshot_snd_events (ts : TranscriptState) :
    ts.snapshot.2.events = ts.events := rfl

/-- The prefix a snapshot pins is the whole text committed when it was taken. -/
theorem prefixBytes_snapshot (ts : TranscriptState) :
    ts.snapshot.2.prefixBytes ts.snapshot.1 = (ts.events.map (·.wireBytes)).flatten := by
  have hfold : ∀ (es : List TranscriptEvent) (acc : Bytes),
      es.foldl (fun acc e ↦ acc ++ e.wireBytes) acc = acc ++ (es.map (·.wireBytes)).flatten := by
    intro es
    induction es with
    | nil => simp
    | cons e es ih => intro acc; simp [ih]
  simp [prefixBytes, snapshot, hfold]

end TranscriptState

end Kroopt.Core
