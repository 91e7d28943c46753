/-
The link server: one client at a time, a receiver and a sender.

The receiver waits for a client, stores its stream in the slot, declares the link connected, and hands the frames that it
reads to a handler until the stream ends. Then it takes all of this back, in the order: not connected, slot empty, stream
shut, decoder reset. The sender takes bytes from the outbound queue, looks into the slot, and writes to the stream it
finds; without one the bytes are dropped, and when the write fails it shuts the stream.

Stopping raises a flag, closes the queue, takes the stream out of the slot and shuts it, and wakes the receiver by a
connection of its own. The receiver looks at the flag while it holds the slot, so that no client gets past a stop.

Each of the three is a program counter, and each step does one undivided piece of work, so that a list of steps is an
interleaving. A step that has to wait is none.
-/
import RemoteShutter.Frame.Decoder
import RemoteShutter.Link.Outbound
import RemoteShutter.Link.Stream

namespace RemoteShutter

/-- what the handler gets to know -/
inductive LinkEvent where
  | connected
  | frame (f : Frame)
  | disconnected
  deriving DecidableEq, Repr

/-- where the receiver stands; clients are named by their numbers -/
inductive ReceiverPoint where
  | accept
  /-- an accept has failed; before it looks at the flag -/
  | retry
  /-- before it looks at the flag and stores the client in the slot -/
  | store (client : Nat)
  /-- before it declares the link connected -/
  | attach (client : Nat)
  | greet (client : Nat)
  | read (client : Nat)
  /-- frames to hand over before the next read -/
  | hand (client : Nat) (frames : List Frame)
  /-- before it declares the link not connected -/
  | detach (client : Nat)
  | vacate (client : Nat)
  | shut (client : Nat)
  /-- before it resets the decoder and says goodbye -/
  | farewell (client : Nat)
  /-- before it looks at the flag once more -/
  | check
  | exited
  deriving DecidableEq, Repr

/-- where the sender stands -/
inductive SenderPoint where
  | take
  /-- before it looks into the slot -/
  | look (chunk : Bytes)
  | write (chunk : Bytes) (client : Nat)
  /-- before it shuts a stream that failed -/
  | shut (client : Nat)
  | exited
  deriving DecidableEq, Repr

/-- how far a stop has come -/
inductive StopPoint where
  | running
  | raised
  | closed
  | taken
  | woken
  deriving DecidableEq, Repr

structure LinkConfig where
  port : Nat := 8888
  sendBuffer : Nat := 1048576
  recvChunk : Nat := 512
  sendChunk : Nat := 512
  deriving DecidableEq, Repr

structure Link where
  queue : Outbound
  /-- bytes of one read, and of one write -/
  recvChunk : Nat
  sendChunk : Nat
  slot : Option Nat := none
  isStopped : Bool := false
  receiver : ReceiverPoint := .accept
  decoder : Decoder := .fresh
  sender : SenderPoint := .take
  stop : StopPoint := .running
  /-- all connections ever made, by client -/
  streams : List Stream := []
  /-- clients that wait to be accepted -/
  backlog : List Nat := []
  acceptFaults : List SocketFault := []
  events : List LinkEvent := []
  deriving DecidableEq, Repr

namespace Link

/-- a server with nobody connected; its buffer cannot have size zero, and its chunks have at least one byte -/
def ofConfig? (c : LinkConfig) : Option Link :=
  (Outbound.ofCapacity? c.sendBuffer).map fun q =>
    { queue := q, recvChunk := max c.recvChunk 1, sendChunk := max c.sendChunk 1 }

def updateStream (l : Link) (client : Nat) (f : Stream → Stream) : Link :=
  { l with streams := l.streams.modify client f }

def tell (l : Link) (e : LinkEvent) : Link :=
  { l with events := l.events ++ [e] }

def receiveAt (l : Link) (p : ReceiverPoint) : Link :=
  { l with receiver := p }

/-- a new client connects, with the next number -/
def dial (l : Link) : Link :=
  { l with streams := l.streams ++ [{}], backlog := l.backlog ++ [l.streams.length] }

/-- a step of the receiver; none if it has to wait -/
def receive? (l : Link) : Option Link :=
  match l.receiver with
  | .accept =>
    match l.acceptFaults, l.backlog with
    | _ :: es, _ => some { l with acceptFaults := es, receiver := .retry }
    | [], client :: rest => some { l with backlog := rest, receiver := .store client }
    | [], [] => none
  | .retry => some (l.receiveAt (if l.isStopped then .exited else .accept))
  | .store client =>
    if l.isStopped then some (l.receiveAt .exited)
    else some { l with slot := some client, receiver := .attach client }
  | .attach client => some { l with queue := l.queue.setConnected true, receiver := .greet client }
  | .greet client => some ((l.tell .connected).receiveAt (.read client))
  | .read client =>
    match l.streams[client]? with
    | none => some (l.receiveAt (.detach client))
    | some s =>
      let (r, s) := s.read l.recvChunk
      let l := l.updateStream client fun _ => s
      match r with
      | .waits => none
      | .bytes bs =>
        let (d, frames) := l.decoder.decode bs
        some { l with decoder := d, receiver := .hand client frames }
      | .failed .interrupted => some l
      | .failed _ => some (l.receiveAt (.detach client))
      | .ended => some (l.receiveAt (.detach client))
  | .hand client [] => some (l.receiveAt (.read client))
  | .hand client (f :: fs) => some ((l.tell (.frame f)).receiveAt (.hand client fs))
  | .detach client => some { l with queue := l.queue.setConnected false, receiver := .vacate client }
  | .vacate client => some { l with slot := none, receiver := .shut client }
  | .shut client => some ((l.updateStream client Stream.shut).receiveAt (.farewell client))
  | .farewell _ => some { l.tell .disconnected with decoder := l.decoder.reset, receiver := .check }
  | .check => some (l.receiveAt (if l.isStopped then .exited else .accept))
  | .exited => none

/-- a step of the sender; none if it has to wait -/
def send? (l : Link) : Option Link :=
  match l.sender with
  | .take =>
    match l.queue.take l.sendChunk with
    | (.waits, _) => none
    | (.closed, _) => some { l with sender := .exited }
    | (.bytes bs, q) => some { l with queue := q, sender := .look bs }
  | .look bs =>
    match l.slot with
    | none => some { l with sender := .take }
    | some client => some { l with sender := .write bs client }
  | .write bs client =>
    match l.streams[client]? with
    | none => some { l with sender := .take }
    | some s =>
      let (isDone, s) := s.writeAll bs
      some { l.updateStream client fun _ => s with sender := if isDone then .take else .shut client }
  | .shut client => some { l.updateStream client Stream.shut with sender := .take }
  | .exited => none

/-- a step of a stop; none if there is nothing left to do but to wait for the others -/
def halt? (l : Link) : Option Link :=
  match l.stop with
  | .running => some { l with isStopped := true, stop := .raised }
  | .raised => some { l with queue := l.queue.close, stop := .closed }
  | .closed =>
    match l.slot with
    | some client => some { l.updateStream client Stream.shut with slot := none, stop := .taken }
    | none => some { l with stop := .taken }
  | .taken =>
    let wake := l.streams.length
    some { l.dial.updateStream wake Stream.endSending with stop := .woken }
  | .woken => none

/-- what may happen at a link -/
inductive Event where
  | push (bs : Bytes)
  | dial
  | arrive (client : Nat) (bs : Bytes)
  /-- a client reads at most `n` bytes -/
  | consume (client : Nat) (n : Nat)
  | endSending (client : Nat)
  | reset (client : Nat)
  | failAccept (e : SocketFault)
  | failRead (client : Nat) (e : SocketFault)
  | failWrite (client : Nat) (f : WriteFault)
  /-- the receiver, the sender, or a stop makes a step, if it can -/
  | receive
  | send
  | halt
  deriving DecidableEq, Repr

def step (l : Link) : Event → Link
  | .push bs => { l with queue := l.queue.push bs }
  | .dial => l.dial
  | .arrive client bs => l.updateStream client (·.arrive bs)
  | .consume client n => l.updateStream client (·.consume n)
  | .endSending client => l.updateStream client Stream.endSending
  | .reset client => l.updateStream client Stream.reset
  | .failAccept e => { l with acceptFaults := l.acceptFaults ++ [e] }
  | .failRead client e => l.updateStream client fun s => { s with readFaults := s.readFaults ++ [e] }
  | .failWrite client f => l.updateStream client fun s => { s with writeFaults := s.writeFaults ++ [f] }
  | .receive => l.receive?.getD l
  | .send => l.send?.getD l
  | .halt => l.halt?.getD l

def steps (l : Link) (es : List Event) : Link :=
  es.foldl step l

/-! ## A link left to itself -/

/-- what the receiver or the sender does next, if either can -/
def next? (l : Link) : Option Link :=
  l.receive?.or l.send?

/-- at most `fuel` steps of receiver and sender -/
def settleFor : Nat → Link → Link
  | 0, l => l
  | fuel + 1, l =>
    match l.next? with
    | none => l
    | some l => settleFor fuel l

/-- more steps than receiver and sender can make with what is there -/
def enough (l : Link) : Nat :=
  let streams := l.streams.map fun s => s.inbound.length + s.readFaults.length + 10
  10 * (l.queue.pending + l.backlog.length + l.acceptFaults.length + streams.foldl (· + ·) 0 + 10)

/-- receiver and sender go on until both have to wait -/
def settle (l : Link) : Link :=
  settleFor l.enough l

/-- at most `fuel` steps of a stop -/
def haltFor : Nat → Link → Link
  | 0, l => l
  | fuel + 1, l =>
    match l.halt? with
    | none => l
    | some l => haltFor fuel l

/-- stops the server, and waits until receiver and sender are gone -/
def shutdown (l : Link) : Link :=
  (haltFor 4 l).settle

end Link

end RemoteShutter
