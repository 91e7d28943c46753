/-
The wire form of frames.

A frame is written as the two magic bytes, the type byte, the payload size as two bytes (low byte first) and the
payload. A payload of any size is sent as a run of frames of one type: `Fragments` cuts it into pieces of 65535 bytes,
the last one shorter, and an empty payload into no piece at all. `Fragments.remaining` says how many frames are still
to come.
-/
import RemoteShutter.Frame.Basic

namespace RemoteShutter

namespace Frame

def magic1 : UInt8 := 0x54
def magic2 : UInt8 := 0xF0

/-- bytes in front of the payload: magic pair, type, size -/
def headerSize : Nat := 5

/-- the size field, low byte first -/
def sizeBytes (n : Nat) : Bytes :=
  [n.toUInt8, (n / 256).toUInt8]

/-- the wire form of one frame -/
def encode (typeByte : UInt8) (payload : Bytes) : Bytes :=
  magic1 :: magic2 :: typeByte :: (sizeBytes payload.length ++ payload)

theorem length_encode (t : UInt8) (p : Bytes) : (encode t p).length = headerSize + p.length := by
  simp [encode, sizeBytes, headerSize]
  omega

end Frame

/-- the frames still to be sent of one payload -/
structure Fragments where
  typeByte : UInt8
  rest : Bytes
  deriving DecidableEq, Repr

namespace Fragments

def next? (f : Fragments) : Option (Bytes × Fragments) :=
  if f.rest.isEmpty then none
  else some (Frame.encode f.typeByte (f.rest.take Frame.maxPayload), { f with rest := f.rest.drop Frame.maxPayload })

/-- how many frames are still to come -/
def remaining (f : Fragments) : Nat :=
  (f.rest.length + (Frame.maxPayload - 1)) / Frame.maxPayload

theorem length_rest_of_next? {f g : Fragments} {b : Bytes} (h : f.next? = some (b, g)) :
    g.rest.length < f.rest.length := by
  unfold next? at h
  split at h
  · simp at h
  · next hne =>
    obtain ⟨_, rfl⟩ : _ ∧ _ := by simpa using h
    have : 0 < f.rest.length := by
      cases hr : f.rest <;> simp_all
    simp [Frame.maxPayload]
    omega

/-- all frames still to come, in order -/
def toList (f : Fragments) : List Bytes :=
  match _h : f.next? with
  | none => []
  | some (b, g) => b :: toList g
termination_by f.rest.length
decreasing_by exact length_rest_of_next? _h

end Fragments

/-- the frames that carry a payload of any size -/
def Frame.fragments (typeByte : UInt8) (payload : Bytes) : Fragments :=
  ⟨typeByte, payload⟩

end RemoteShutter
