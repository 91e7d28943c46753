/-
Frames: the units in which bytes travel between the controller and its client.

A frame is one type byte and at most 65535 payload bytes. The type byte is kept raw, so that a frame of a type that
nobody knows can still be seen; `Frame.kind` reads it as one of the four kinds in use.
-/

namespace RemoteShutter

/-- byte strings, as they travel on the link -/
abbrev Bytes := List UInt8

/-- the four kinds of frames in use -/
inductive FrameKind where
  | log
  | telecommand
  | telemetry
  | file
  deriving DecidableEq, Repr

namespace FrameKind

/-- the type byte of a kind -/
def toByte : FrameKind → UInt8
  | log => 1
  | telecommand => 2
  | telemetry => 3
  | file => 4

def ofByte? : UInt8 → Option FrameKind
  | 1 => some log
  | 2 => some telecommand
  | 3 => some telemetry
  | 4 => some file
  | _ => none

def name : FrameKind → String
  | log => "Log"
  | telecommand => "Telecommand"
  | telemetry => "Telemetry"
  | file => "File"

theorem ofByte?_toByte (k : FrameKind) : ofByte? k.toByte = some k := by
  cases k <;> rfl

theorem ofByte?_eq_some_iff {b : UInt8} {k : FrameKind} : ofByte? b = some k ↔ b = k.toByte := by
  constructor
  · intro h
    unfold ofByte? at h
    split at h <;> simp_all <;> subst h <;> rfl
  · rintro rfl
    exact ofByte?_toByte k

end FrameKind

/-- what can be wrong with a frame -/
inductive FrameError where
  | unknownKind (byte : UInt8)
  | payloadTooLarge (size : Nat)
  deriving DecidableEq, Repr

def FrameError.message : FrameError → String
  | unknownKind byte => s!"unknown frame type: {byte.toNat}"
  | payloadTooLarge size => s!"payload too large: {size} bytes (max 65535)"

/-- one complete frame -/
structure Frame where
  typeByte : UInt8
  payload : Bytes
  deriving DecidableEq, Repr

namespace Frame

/-- the largest payload whose size fits the two length bytes -/
def maxPayload : Nat := 65535

/-- a frame, unless the payload is too large for its length field -/
def ofPayload (typeByte : UInt8) (payload : Bytes) : Except FrameError Frame :=
  if payload.length > maxPayload then .error (.payloadTooLarge payload.length) else .ok ⟨typeByte, payload⟩

/-- the payload size as it stands in the length field -/
def length (f : Frame) : UInt16 :=
  f.payload.length.toUInt16

def kind (f : Frame) : Except FrameError FrameKind :=
  match FrameKind.ofByte? f.typeByte with
  | some k => .ok k
  | none => .error (.unknownKind f.typeByte)

end Frame

end RemoteShutter
