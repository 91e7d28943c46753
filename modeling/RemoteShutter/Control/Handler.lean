/-
Inbound frames: from bytes of a client to commands.

Frames of the telecommand type are read and carried out. One that is malformed, or whose command fails, is only logged;
frames of other types are logged and ignored. None of these changes anything but the log.
-/
import RemoteShutter.Control.Station
import RemoteShutter.Telecommand.Json
import RemoteShutter.Frame.Decoder
import RemoteShutter.Link.Address

namespace RemoteShutter.Station

/-- the client, for the log -/
def peerText : Option Address → String
  | some peer => s!"Some({peer.text})"
  | none => "None"

/-- carries out the command of a telecommand frame -/
def onTelecommand (s : Station) (peer : Option Address) (payload : Bytes) : Station :=
  match Telecommand.ofBytes payload with
  | .error e =>
    s.say [⟨.warn, "dropping malformed telecommand", [("peer", .worded (peerText peer)), ("error", .worded e.logText),
      ("len", .ofNat payload.length)]⟩]
  | .ok c =>
    match s.dispatch c with
    | (some (.error e), s) =>
      s.say [⟨.warn, "telecommand not executed", [("peer", .worded (peerText peer)), ("command", .text c.name),
        ("error", .worded e.message)]⟩]
    | (_, s) => s

/-- takes in one frame -/
def onFrame (s : Station) (peer : Option Address) (f : Frame) : Station :=
  match f.kind with
  | .ok .telecommand => s.onTelecommand peer f.payload
  | .ok kind =>
    s.say [⟨.debug, "ignoring inbound frame", [("frame_type", .worded kind.name), ("len", .ofNat f.payload.length)]⟩]
  | .error e => s.say [⟨.debug, "ignoring inbound frame", [("error", .worded e.message)]⟩]

/-- takes in bytes as they arrive; each frame that they complete is handed on at once -/
def receive (s : Station) (peer : Option Address) (d : Decoder) (chunk : Bytes) : Decoder × Station :=
  let (d, frames) := d.decode chunk
  (d, frames.foldl (fun s f => s.onFrame peer f) s)

end RemoteShutter.Station
