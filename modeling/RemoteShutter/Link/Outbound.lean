/-
The outbound queue: bytes on their way to the client.

Producers push whole frames into a ring. The sender takes them out in pieces, but only while a client is connected. Bytes
pushed meanwhile stay, as far as the ring holds them. Once the queue is closed nothing leaves it any more.

A payload is pushed frame by frame, so that frames of several producers may alternate but never mix. Status reports go
out as telemetry, log text as log frames.

`QueueHistory` runs a queue together with the takers that wait at it: a taker that cannot proceed stays and changes
nothing, and looks again when it is woken.
-/
import RemoteShutter.Frame.Wire
import RemoteShutter.Link.Ring
import RemoteShutter.Telemetry.Json

namespace RemoteShutter

structure Outbound where
  ring : Ring
  isConnected : Bool := false
  isClosed : Bool := false
  deriving DecidableEq, Repr

/-- what a taker gets: nothing yet, the news that the queue is closed, or bytes -/
inductive Taken where
  | waits
  | closed
  | bytes (bs : Bytes)
  deriving DecidableEq, Repr

namespace Outbound

def ofCapacity? (capacity : Nat) : Option Outbound :=
  (Ring.ofCapacity? capacity).map fun r => { ring := r }

def push (q : Outbound) (bs : Bytes) : Outbound :=
  { q with ring := q.ring.put bs }

def setConnected (q : Outbound) (b : Bool) : Outbound :=
  { q with isConnected := b }

def close (q : Outbound) : Outbound :=
  { q with isClosed := true }

/-- the number of bytes waiting -/
def pending (q : Outbound) : Nat :=
  q.ring.length

/-- a taker with a buffer of `n` bytes looks once -/
def take (q : Outbound) (n : Nat) : Taken × Outbound :=
  if q.isClosed then (.closed, q)
  else if q.isConnected && !q.ring.isEmpty then
    let (bs, r) := q.ring.get n
    (.bytes bs, { q with ring := r })
  else (.waits, q)

/-! ## Producers -/

/-- pushes the frames of a payload -/
def send (q : Outbound) (kind : FrameKind) (payload : Bytes) : Outbound :=
  (Frame.fragments kind.toByte payload).toList.foldl push q

/-- sends a report as telemetry -/
def sendStatus (q : Outbound) (r : StatusReport) : Outbound :=
  q.send .telemetry r.toBytes

/-- sends log text; all of it counts as written -/
def writeLog (q : Outbound) (text : Bytes) : Nat × Outbound :=
  (text.length, q.send .log text)

end Outbound

/-! ## Histories -/

/-- what happens at a queue -/
inductive QueueEvent where
  | push (bs : Bytes)
  | setConnected (b : Bool)
  | close
  /-- a taker with a buffer of `n` bytes begins to wait -/
  | arrive (n : Nat)
  /-- the `i`th of the waiting takers looks -/
  | look (i : Nat)
  deriving DecidableEq, Repr

/-- a queue, the buffer sizes of the takers that wait at it, and what the others got, in order -/
structure QueueHistory where
  queue : Outbound
  waiting : List Nat := []
  taken : List Taken := []
  deriving DecidableEq, Repr

namespace QueueHistory

def step (h : QueueHistory) : QueueEvent → QueueHistory
  | .push bs => { h with queue := h.queue.push bs }
  | .setConnected b => { h with queue := h.queue.setConnected b }
  | .close => { h with queue := h.queue.close }
  | .arrive n => { h with waiting := h.waiting ++ [n] }
  | .look i =>
    match h.waiting[i]? with
    | none => h
    | some n =>
      match h.queue.take n with
      | (.waits, _) => h
      | (t, q) => ⟨q, h.waiting.eraseIdx i, h.taken ++ [t]⟩

def run (h : QueueHistory) (es : List QueueEvent) : QueueHistory :=
  es.foldl step h

end QueueHistory

end RemoteShutter
