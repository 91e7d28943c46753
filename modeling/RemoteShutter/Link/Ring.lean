/-
A ring of bytes: a queue of fixed capacity that drops its oldest bytes when it overflows.

The bytes lie in an arena between two cursors, `tail` at the oldest byte and `head` behind the newest, both wrapping at
the end of the arena. With equal cursors `isEmpty` tells an empty ring from a full one. `Ring.toList` shows the bytes
held, the oldest first; in these terms `put` keeps the last bytes of old and new that fit, and `read` takes from the front.
-/
import RemoteShutter.Frame.Basic

namespace RemoteShutter

/-- a piece of the arena -/
structure Span where
  start : Nat
  length : Nat
  deriving DecidableEq, Repr

structure Ring where
  arena : Array UInt8
  head : Nat
  tail : Nat
  isEmpty : Bool
  deriving DecidableEq, Repr

namespace Ring

/-- an empty ring; it cannot have capacity zero -/
def ofCapacity? (capacity : Nat) : Option Ring :=
  if capacity = 0 then none else some ⟨Array.replicate capacity 0, 0, 0, true⟩

/-- what is said about a ring of capacity zero -/
def zeroCapacity : String := "RingBuffer capacity must be > 0"

def capacity (r : Ring) : Nat :=
  r.arena.size

/-- the number of bytes held -/
def length (r : Ring) : Nat :=
  if r.isEmpty then 0
  else if r.tail < r.head then r.head - r.tail
  else r.head + r.capacity - r.tail

/-- the two pieces of the arena that `n` bytes take up from `start` on: up to its end, and from its beginning -/
def spans (r : Ring) (start n : Nat) : Span × Span :=
  let first := min n (r.capacity - start)
  (⟨start, first⟩, ⟨0, n - first⟩)

/-- writes the bytes from `i` on -/
def write (arena : Array UInt8) (i : Nat) : Bytes → Array UInt8
  | [] => arena
  | b :: bs => write (arena.setIfInBounds i b) (i + 1) bs

/-- the bytes of a piece -/
def slice (arena : Array UInt8) (s : Span) : Bytes :=
  (arena.extract s.start (s.start + s.length)).toList

/-- the bytes held, the oldest first -/
def toList (r : Ring) : Bytes :=
  let (a, b) := r.spans r.tail r.length
  slice r.arena a ++ slice r.arena b

/-- appends bytes; whatever does not fit is dropped at the old end -/
def put (r : Ring) (data : Bytes) : Ring :=
  if data.isEmpty then r
  else
    let data := data.drop (data.length - r.capacity)
    let n := data.length
    let overflows : Bool := r.capacity - r.length < n
    let first := (r.spans r.head n).1.length
    match r with
    | ⟨arena, head, tail, _⟩ =>
      let newHead := (head + n) % arena.size
      ⟨write (write arena head (data.take first)) 0 (data.drop first), newHead, if overflows then newHead else tail, false⟩

/-- takes up to `n` bytes from the old end -/
def get (r : Ring) (n : Nat) : Bytes × Ring :=
  let n := min n r.length
  if n = 0 then ([], r)
  else
    let (a, b) := r.spans r.tail n
    (slice r.arena a ++ slice r.arena b,
      { r with tail := (r.tail + n) % r.capacity, isEmpty := r.isEmpty || n = r.length })

/-- takes as many bytes as the buffer has room for: their number, the buffer with them in front, and the ring -/
def read (r : Ring) (buffer : Bytes) : Nat × Bytes × Ring :=
  let (bs, r) := r.get buffer.length
  (bs.length, bs ++ buffer.drop bs.length, r)

/-- drops all bytes -/
def clear (r : Ring) : Ring :=
  { r with tail := r.head, isEmpty := true }

end Ring

end RemoteShutter
