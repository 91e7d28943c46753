/-
Producers, takers and one outbound queue between them.

Traffic is a queue with everything that was ever given to it to send. Producers push frame by frame, so that the frames
of several of them may alternate; takers come with buffers of any size, and clients come and go. An event is one
undivided piece of work by one of them, so a list of events is an interleaving.
- `queue_of_send`: a producer that nobody interrupts does what `Outbound.send` does.
-/
import Mathlib.Tactic
import RemoteShutter.Link.Outbound
import RemoteShutter.Proofs.Decoder.RoundTrip
import RemoteShutter.Proofs.Outbound.Stream

namespace RemoteShutter

/-! ## Fragments -/

namespace Fragments

theorem toList_of_next? {f g : Fragments} {bs : Bytes} (h : f.next? = some (bs, g)) : f.toList = bs :: g.toList := by
  rw [toList]
  split
  · next heq => rw [h] at heq; cases heq
  · next heq => rw [h] at heq; cases heq; rfl

theorem toList_of_next?_eq_none {f : Fragments} (h : f.next? = none) : f.toList = [] := by
  rw [toList]
  split
  · rfl
  · next heq => rw [h] at heq; cases heq

end Fragments

/-! ## Traffic -/

/-- what a producer is given to send -/
inductive Outgoing where
  | payload (kind : FrameKind) (bs : Bytes)
  | report (r : StatusReport)
  | log (text : Bytes)

namespace Outgoing

def kind : Outgoing → FrameKind
  | payload kind _ => kind
  | report _ => .telemetry
  | log _ => .log

def bytes : Outgoing → Bytes
  | payload _ bs => bs
  | report r => r.toBytes
  | log text => text

/-- the queue after it was sent without a break -/
def sendTo (q : Outbound) : Outgoing → Outbound
  | payload kind bs => q.send kind bs
  | report r => q.sendStatus r
  | log text => (q.writeLog text).2

theorem sendTo_eq (q : Outbound) (m : Outgoing) : m.sendTo q = q.send m.kind m.bytes := by
  cases m <;> rfl

end Outgoing

/-- a producer at work: what it sends, and what is left of that -/
structure Sending where
  message : Outgoing
  rest : Fragments

namespace Sending

def start (m : Outgoing) : Sending where
  message := m
  rest := Frame.fragments m.kind.toByte m.bytes

/-- the next frame, and the producer after it was pushed -/
def next? (s : Sending) : Option (Bytes × Sending) :=
  s.rest.next?.map fun (bs, rest) => (bs, { s with rest := rest })

end Sending

structure Traffic where
  queue : QueueHistory
  /-- the producers, in the order in which they began -/
  sendings : List Sending := []
  /-- what was pushed, and by which producer, in order -/
  pushed : List (Nat × Bytes) := []

namespace Traffic

inductive Event where
  /-- a producer begins to send -/
  | send (m : Outgoing)
  /-- the `i`th producer pushes its next frame -/
  | push (i : Nat)
  | setConnected (b : Bool)
  | close
  /-- a taker with a buffer of `n` bytes begins to wait -/
  | arrive (n : Nat)
  /-- the `i`th of the waiting takers looks -/
  | look (i : Nat)

/-- a queue that nobody has used yet -/
def start (q : Outbound) : Traffic :=
  { queue := { queue := q } }

/-- the next frame of the `i`th producer, and the producer after it was pushed -/
def next? (t : Traffic) (i : Nat) : Option (Bytes × Sending) :=
  t.sendings[i]?.bind Sending.next?

/-- something happens at the queue itself -/
def onQueue (t : Traffic) (e : QueueEvent) : Traffic :=
  { t with queue := t.queue.step e }

def step (t : Traffic) : Event → Traffic
  | .send m => { t with sendings := t.sendings ++ [.start m] }
  | .push i =>
    match t.next? i with
    | none => t
    | some (bs, s) => { t.onQueue (.push bs) with sendings := t.sendings.set i s, pushed := t.pushed ++ [(i, bs)] }
  | .setConnected b => t.onQueue (.setConnected b)
  | .close => t.onQueue .close
  | .arrive n => t.onQueue (.arrive n)
  | .look i => t.onQueue (.look i)

def steps (t : Traffic) (es : List Event) : Traffic :=
  es.foldl step t

/-- the ring has as many free bytes as the frame is long that is pushed, if one is -/
def hasRoom (t : Traffic) : Event → Bool
  | .push i => (t.next? i).all fun (bs, _) => bs.length + t.queue.queue.pending ≤ t.queue.queue.ring.capacity
  | _ => true

/-- every push finds room -/
def isRoomy (t : Traffic) : List Event → Bool
  | [] => true
  | e :: es => t.hasRoom e && (t.step e).isRoomy es

variable {t : Traffic}

theorem steps_cons (t : Traffic) (e : Event) (es : List Event) : t.steps (e :: es) = (t.step e).steps es := rfl

theorem step_push {i : Nat} {bs : Bytes} {s : Sending} (h : t.next? i = some (bs, s)) :
    t.step (.push i) =
      { t.onQueue (.push bs) with sendings := t.sendings.set i s, pushed := t.pushed ++ [(i, bs)] } := by
  simp only [step, h]

/-! ## A producer that nobody interrupts -/

theorem queue_pushes {i : Nat} {s : Sending} (h : t.sendings[i]? = some s) (n : Nat) (hn : s.rest.toList.length = n) :
    (t.steps (List.replicate n (.push i))).queue.queue = s.rest.toList.foldl Outbound.push t.queue.queue := by
  induction n generalizing t s with
  | zero =>
    rw [List.length_eq_zero_iff.1 hn]
    rfl
  | succ n ih =>
    cases hnext : s.rest.next? with
    | none =>
      rw [Fragments.toList_of_next?_eq_none hnext] at hn
      cases hn
    | some r =>
      obtain ⟨bs, rest⟩ := r
      rw [Fragments.toList_of_next? hnext] at hn ⊢
      have hi : i < t.sendings.length := (List.getElem?_eq_some_iff.1 h).1
      have ht : t.next? i = some (bs, { s with rest := rest }) := by
        rw [next?, h, Option.bind_some, Sending.next?, hnext]
        rfl
      have hafter : (t.step (.push i)).sendings[i]? = some { s with rest := rest } := by
        rw [step_push ht]
        exact List.getElem?_set_self hi
      rw [List.replicate_succ, steps_cons, ih hafter (Nat.succ.inj hn), List.foldl_cons, step_push ht]
      rfl

/-- **A producer that nobody interrupts sends as `Outbound.send` does.** -/
theorem queue_of_send (t : Traffic) (m : Outgoing) :
    let frames := Frame.fragments m.kind.toByte m.bytes
    (t.steps (.send m :: List.replicate frames.remaining (.push t.sendings.length))).queue.queue =
      m.sendTo t.queue.queue := by
  intro frames
  have hlast : (t.step (.send m)).sendings[t.sendings.length]? = some (.start m) := List.getElem?_concat_length
  rw [Outgoing.sendTo_eq, steps_cons]
  exact queue_pushes hlast frames.remaining (Fragments.remaining_eq frames).symm

end Traffic

end RemoteShutter
