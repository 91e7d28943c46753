/-
The frame decoder: finds frames in a byte stream that arrives in arbitrary chunks.

The decoder waits for the magic pair, then reads the type byte, the two size bytes and the payload. Whatever comes
before a magic pair is skipped. A byte that follows the first magic byte and is not the second one is skipped with it,
also if it could start a pair itself. Header bytes are taken one at a time and payload bytes as many as the chunk has,
so each round of `round` consumes at least one byte, and `decode` makes at most as many rounds as the chunk has bytes.
-/
import RemoteShutter.Frame.Wire

namespace RemoteShutter

/-- what the decoder waits for -/
inductive DecoderPhase where
  | magic1
  | magic2
  | typeByte
  | sizeLow
  | sizeHigh
  | payload
  deriving DecidableEq, Repr

/-- decoder state; `typeByte` and `sizeLow` keep the last header seen -/
structure Decoder where
  phase : DecoderPhase := .magic1
  typeByte : UInt8 := 0
  sizeLow : UInt8 := 0
  expected : Nat := 0
  received : Array UInt8 := #[]
  deriving DecidableEq, Repr

namespace Decoder

/-- a decoder that has seen nothing -/
def fresh : Decoder := {}

/-- no frame is partially received -/
def isIdle (d : Decoder) : Bool :=
  d.phase == .magic1

/-- drops a partially received frame -/
def reset (d : Decoder) : Decoder :=
  { d with phase := .magic1, expected := 0, received := #[] }

/-- hands out the received frame and waits for the next -/
def finish (d : Decoder) : Decoder × Option Frame :=
  (d.reset, some ⟨d.typeByte, d.received.toList⟩)

/-- what a round leaves: the decoder, the frame it completed if any, and the bytes it did not consume -/
structure Round where
  decoder : Decoder
  frame : Option Frame
  rest : Bytes

/-- one round on a chunk that starts with `b` -/
def round (d : Decoder) (b : UInt8) (bs : Bytes) : Round :=
  match d with
  | ⟨.magic1, t, lo, e, r⟩ => ⟨⟨if b = Frame.magic1 then .magic2 else .magic1, t, lo, e, r⟩, none, bs⟩
  | ⟨.magic2, t, lo, e, r⟩ => ⟨⟨if b = Frame.magic2 then .typeByte else .magic1, t, lo, e, r⟩, none, bs⟩
  | ⟨.typeByte, _, lo, e, r⟩ => ⟨⟨.sizeLow, b, lo, e, r⟩, none, bs⟩
  | ⟨.sizeLow, t, _, e, r⟩ => ⟨⟨.sizeHigh, t, b, e, r⟩, none, bs⟩
  | ⟨.sizeHigh, t, lo, _, _⟩ =>
    let size := lo.toNat + 256 * b.toNat
    if size = 0 then
      let (d', f) := finish ⟨.payload, t, lo, size, #[]⟩
      ⟨d', f, bs⟩
    else ⟨⟨.payload, t, lo, size, #[]⟩, none, bs⟩
  | ⟨.payload, t, lo, e, r⟩ =>
    let wanted := e - r.size
    let r' := r ++ (b :: bs).take wanted
    let rest := (b :: bs).drop wanted
    if r'.size = e then
      let (d', f) := finish ⟨.payload, t, lo, e, r'⟩
      ⟨d', f, rest⟩
    else ⟨⟨.payload, t, lo, e, r'⟩, none, rest⟩

/-- at most `fuel` rounds; `seen` holds the frames found so far -/
def rounds : Nat → Decoder → Bytes → Array Frame → Decoder × Array Frame
  | 0, d, _, seen => (d, seen)
  | _, d, [], seen => (d, seen)
  | fuel + 1, d, b :: bs, seen =>
    match d.round b bs with
    | ⟨d', none, rest⟩ => rounds fuel d' rest seen
    | ⟨d', some f, rest⟩ => rounds fuel d' rest (seen.push f)

/-- feeds one chunk: the decoder afterwards and the frames that the chunk completed, in order -/
def decode (d : Decoder) (chunk : Bytes) : Decoder × List Frame :=
  let (d', seen) := rounds chunk.length d chunk #[]
  (d', seen.toList)

/-- feeds the chunks one after the other -/
def decodeAll (d : Decoder) : List Bytes → Decoder × List Frame
  | [] => (d, [])
  | c :: cs =>
    let (d', fs) := d.decode c
    let (d'', fs') := d'.decodeAll cs
    (d'', fs ++ fs')

end Decoder

end RemoteShutter
