/-
Connections to clients, seen from the server.

A stream holds what the client has sent and nobody has read, and everything that has been written to the client, with the
place up to which the client has read it. It ends when the client stops sending, when the client drops it, or when the
server shuts it down; the client sees that end behind the last byte that was written. Faults put on a stream are reported
by its next reads and writes, one each, before anything else.
-/
import RemoteShutter.Frame.Basic

namespace RemoteShutter

inductive SocketFault where
  /-- worth another try -/
  | interrupted
  | wouldBlock
  | reset
  | broken
  deriving DecidableEq, Repr

/-- a fault of a write, and how many bytes get through before it -/
structure WriteFault where
  through : Nat
  fault : SocketFault
  deriving DecidableEq, Repr

structure Stream where
  inbound : Bytes := []
  written : Array UInt8 := #[]
  /-- how many of the bytes written the client has read -/
  consumed : Nat := 0
  /-- the client sends no more -/
  isEnded : Bool := false
  /-- the client has dropped the connection -/
  isReset : Bool := false
  /-- the server has shut the stream down -/
  isShut : Bool := false
  readFaults : List SocketFault := []
  writeFaults : List WriteFault := []
  deriving DecidableEq, Repr

/-- what a read gives -/
inductive ReadResult where
  | waits
  | bytes (bs : Bytes)
  | ended
  | failed (e : SocketFault)
  deriving DecidableEq, Repr

namespace Stream

/-- reads at most `n` bytes -/
def read (s : Stream) (n : Nat) : ReadResult × Stream :=
  match s.readFaults with
  | e :: es => (.failed e, { s with readFaults := es })
  | [] =>
    if s.isShut then (.ended, s)
    else if s.isReset then (.failed .reset, s)
    else if s.inbound.isEmpty then (if s.isEnded then .ended else .waits, s)
    else (.bytes (s.inbound.take n), { s with inbound := s.inbound.drop n })

/-- writes all of `bs`, as far as no fault comes in between: whether all got through -/
def writeAll (s : Stream) (bs : Bytes) : Bool × Stream :=
  if s.isShut || s.isReset then (bs.isEmpty, s)
  else go s bs s.writeFaults
where
  go (s : Stream) (bs : Bytes) : List WriteFault → Bool × Stream
    | [] => (true, { s with written := s.written ++ bs, writeFaults := [] })
    | f :: fs =>
      if bs.isEmpty then (true, { s with writeFaults := f :: fs })
      else
        let s := { s with written := s.written ++ bs.take f.through, writeFaults := fs }
        if f.fault = .interrupted then go s (bs.drop f.through) fs else (false, s)

/-- the server shuts the stream down -/
def shut (s : Stream) : Stream :=
  { s with isShut := true }

/-- bytes arrive from the client -/
def arrive (s : Stream) (bs : Bytes) : Stream :=
  { s with inbound := s.inbound ++ bs }

def endSending (s : Stream) : Stream :=
  { s with isEnded := true }

/-- what has been written and the client has not read -/
def unread (s : Stream) : Bytes :=
  s.written.toList.drop s.consumed

/-- the client reads at most `n` bytes -/
def consume (s : Stream) (n : Nat) : Stream :=
  { s with consumed := min (s.consumed + n) s.written.size }

/-- the client finds the stream at its end, with nothing left to read -/
def seesEnd (s : Stream) : Bool :=
  s.isShut && s.unread.isEmpty

/-- the client drops the connection -/
def reset (s : Stream) : Stream :=
  { s with isReset := true }

end Stream

end RemoteShutter
