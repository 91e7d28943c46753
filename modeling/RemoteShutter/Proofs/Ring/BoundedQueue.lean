/-
A ring is a bounded queue of bytes, and it never reaches outside its arena.

- `step`, `run`: any sequence of `put`, `get`, `read` and `clear` on a ring, with the answers.
- `Queue.step`, `Queue.run`: the same operations on a plain list of at most `c` bytes.
- `put?`, `get?`, `read?`: the operations written out with a guard at each place that could go wrong: a difference
  below zero, a remainder by zero, a piece outside its bytes, a copy between pieces of different lengths. They stop
  with `none` there.
- `refines_bounded_queue`: from an empty ring of any capacity, no guard ever stops a run, and the ring gives the
  answers of the queue and holds the bytes of the queue.
-/
import Mathlib.Tactic
import RemoteShutter.Proofs.Ring.Contents

namespace RemoteShutter.Ring

/-! ## Runs of a ring and of a queue -/

inductive Op where
  | put (data : Bytes)
  | get (n : Nat)
  | read (buffer : Bytes)
  | clear
  deriving DecidableEq, Repr

/-- what an operation gives back -/
inductive Answer where
  | done
  | bytes (bs : Bytes)
  /-- how many bytes were read, and the whole buffer -/
  | filled (count : Nat) (buffer : Bytes)
  deriving DecidableEq, Repr

def step (r : Ring) : Op → Ring × Answer
  | .put data => (r.put data, .done)
  | .get n => let (bs, r') := r.get n; (r', .bytes bs)
  | .read buffer => let (k, buffer', r') := r.read buffer; (r', .filled k buffer')
  | .clear => (r.clear, .done)

def run (r : Ring) : List Op → Ring × List Answer
  | [] => (r, [])
  | o :: ops =>
    let (r', a) := r.step o
    let (r'', as) := r'.run ops
    (r'', a :: as)

/-- one operation on a list of at most `c` bytes, the oldest first -/
def Queue.step (c : Nat) (q : Bytes) : Op → Bytes × Answer
  | .put data => (if data.isEmpty then q else (q ++ data).rtake c, .done)
  | .get n =>
    let k := min n q.length
    (q.drop k, .bytes (q.take k))
  | .read buffer =>
    let k := min buffer.length q.length
    (q.drop k, .filled k (q.take k ++ buffer.drop k))
  | .clear => ([], .done)

def Queue.run (c : Nat) (q : Bytes) : List Op → Bytes × List Answer
  | [] => (q, [])
  | o :: ops =>
    let (q', a) := Queue.step c q o
    let (q'', as) := Queue.run c q' ops
    (q'', a :: as)

/-! ## The ring follows the queue -/

/-- the ring has capacity `c` and holds `q` -/
structure Holds (r : Ring) (c : Nat) (q : Bytes) : Prop where
  wf : r.Wf
  capacity : r.capacity = c
  toList : r.toList = q

theorem read_eq {r : Ring} (h : Wf r) (buffer : Bytes) :
    r.read buffer = (min buffer.length r.length,
      r.toList.take (min buffer.length r.length) ++ buffer.drop (min buffer.length r.length),
      (r.get buffer.length).2) := by
  have hlen : (r.toList.take buffer.length).length = min buffer.length r.length := by
    rw [List.length_take, length_toList h]
  have htake : r.toList.take buffer.length = r.toList.take (min buffer.length r.length) := by
    rw [List.take_eq_take_min, length_toList h]
  simp only [read, get_fst h, hlen]
  rw [htake]

theorem step_holds {r : Ring} {c : Nat} {q : Bytes} (h : Holds r c q) (o : Op) :
    Holds (r.step o).1 c (Queue.step c q o).1 ∧ (r.step o).2 = (Queue.step c q o).2 := by
  obtain ⟨hw, rfl, rfl⟩ := h
  have hlen := length_toList hw
  cases o with
  | put data =>
    refine ⟨⟨wf_put hw data, capacity_put r data, ?_⟩, rfl⟩
    rcases eq_or_ne data [] with rfl | hd
    · rfl
    · simp only [step, Queue.step, List.isEmpty_iff, if_neg hd]
      exact toList_put hw data
  | get n =>
    refine ⟨⟨wf_get hw n, capacity_get hw n, ?_⟩, ?_⟩
    · simp only [step, Queue.step, ← List.drop_eq_drop_min]
      exact toList_get hw n
    · simp only [step, Queue.step, get_fst hw, ← List.take_eq_take_min]
  | read buffer =>
    simp only [step, Queue.step, read_eq hw, ← hlen, ← List.drop_eq_drop_min]
    exact ⟨⟨wf_get hw _, capacity_get hw _, toList_get hw _⟩, trivial⟩
  | clear => exact ⟨⟨wf_clear hw, rfl, toList_clear hw⟩, rfl⟩

theorem run_holds {r : Ring} {c : Nat} {q : Bytes} (h : Holds r c q) (ops : List Op) :
    Holds (r.run ops).1 c (Queue.run c q ops).1 ∧ (r.run ops).2 = (Queue.run c q ops).2 := by
  induction ops generalizing r q with
  | nil => exact ⟨h, rfl⟩
  | cons o ops ih =>
    obtain ⟨hs, ha⟩ := step_holds h o
    obtain ⟨hr, has⟩ := ih hs
    exact ⟨hr, by simp only [run, Queue.run, ha, has]⟩

/-! ## Guarded operations -/

/-- a difference, which must not fall below zero -/
def sub? (a b : Nat) : Option Nat :=
  if b ≤ a then some (a - b) else none

/-- a remainder; the divisor must not be zero -/
def mod? (a b : Nat) : Option Nat :=
  if b = 0 then none else some (a % b)

/-- the bytes from `i` to `j`, which must be there -/
def piece? (bs : Bytes) (i j : Nat) : Option Bytes :=
  if i ≤ j ∧ j ≤ bs.length then some ((bs.drop i).take (j - i)) else none

/-- the bytes from `i` to `j`, which must be there, replaced by just as many -/
def overwrite? (bs : Bytes) (i j : Nat) (new : Bytes) : Option Bytes :=
  if i ≤ j ∧ j ≤ bs.length ∧ new.length = j - i then some (bs.take i ++ new ++ bs.drop j) else none

def length? (r : Ring) : Option Nat :=
  if r.isEmpty then some 0
  else if r.tail < r.head then sub? r.head r.tail
  else sub? (r.head + r.capacity) r.tail

/-- the last `c` bytes, or all if there are fewer -/
def last? (bs : Bytes) (c : Nat) : Option Bytes :=
  if c < bs.length then do piece? bs (← sub? bs.length c) bs.length else some bs

/-- `data` copied into the arena from `head` on, in two pieces -/
def lay? (arena : Bytes) (head : Nat) (data : Bytes) : Option Bytes := do
  let first := min data.length (← sub? arena.length head)
  let arena ← overwrite? arena head (head + first) (← piece? data 0 first)
  overwrite? arena 0 (← sub? data.length first) (← piece? data first data.length)

/-- `n` bytes of the arena from `tail` on copied to the front of a buffer, in two pieces -/
def fetch? (arena : Bytes) (tail n : Nat) (buffer : Bytes) : Option Bytes := do
  let first := min n (← sub? arena.length tail)
  let buffer ← overwrite? buffer 0 first (← piece? arena tail (tail + first))
  overwrite? buffer first n (← piece? arena 0 (← sub? n first))

def put? (r : Ring) (data : Bytes) : Option Ring :=
  if data.isEmpty then some r
  else do
    let data ← last? data r.capacity
    let free ← sub? r.capacity (← r.length?)
    let arena ← lay? r.arena.toList r.head data
    let head ← mod? (r.head + data.length) r.capacity
    return ⟨arena.toArray, head, if free < data.length then head else r.tail, false⟩

def read? (r : Ring) (buffer : Bytes) : Option (Nat × Bytes × Ring) := do
  let available ← r.length?
  let n := min buffer.length available
  if n = 0 then return (0, buffer, r)
  let buffer ← fetch? r.arena.toList r.tail n buffer
  let tail ← mod? (r.tail + n) r.capacity
  return (n, buffer, { r with tail, isEmpty := if n = available then true else r.isEmpty })

/-- `get` reads into a buffer of its own -/
def get? (r : Ring) (n : Nat) : Option (Bytes × Ring) := do
  let (k, buffer, r') ← r.read? (List.replicate (min n (← r.length?)) 0)
  return (buffer.take k, r')

def step? (r : Ring) : Op → Option (Ring × Answer)
  | .put data => do return (← r.put? data, .done)
  | .get n => do
    let (bs, r') ← r.get? n
    return (r', .bytes bs)
  | .read buffer => do
    let (k, buffer', r') ← r.read? buffer
    return (r', .filled k buffer')
  | .clear => some (r.clear, .done)

def run? (r : Ring) : List Op → Option (Ring × List Answer)
  | [] => some (r, [])
  | o :: ops => do
    let (r', a) ← r.step? o
    let (r'', as) ← r'.run? ops
    return (r'', a :: as)

/-! ## No guard stops -/

theorem sub?_of_le {a b : Nat} (h : b ≤ a) : sub? a b = some (a - b) := if_pos h

theorem mod?_of_pos {a b : Nat} (h : 0 < b) : mod? a b = some (a % b) := if_neg h.ne'

theorem piece?_of_le {bs : Bytes} {i j : Nat} (hij : i ≤ j) (hj : j ≤ bs.length) :
    piece? bs i j = some ((bs.drop i).take (j - i)) := if_pos ⟨hij, hj⟩

theorem overwrite?_of_le {bs : Bytes} {i j : Nat} {new : Bytes} (hij : i ≤ j) (hj : j ≤ bs.length)
    (hn : new.length = j - i) : overwrite? bs i j new = some (bs.take i ++ new ++ bs.drop j) := if_pos ⟨hij, hj, hn⟩

theorem slice_eq (arena : Array UInt8) (i n : Nat) : slice arena ⟨i, n⟩ = (arena.toList.drop i).take n := by
  simp [slice]

theorem toList_write (arena : Array UInt8) {i : Nat} {bs : Bytes} (h : i + bs.length ≤ arena.size) :
    (write arena i bs).toList = arena.toList.take i ++ bs ++ arena.toList.drop (i + bs.length) := by
  induction bs generalizing arena i with
  | nil => simp [write]
  | cons b bs ih =>
    rw [List.length_cons] at h ⊢
    have htake : (arena.toList.set i b).take (i + 1) = arena.toList.take i ++ [b] := by
      rw [List.take_add_one, List.take_set_of_le le_rfl, List.getElem?_set_self (by simp; omega)]
      rfl
    have hdrop : (arena.toList.set i b).drop (i + 1 + bs.length) = arena.toList.drop (i + 1 + bs.length) :=
      List.drop_set_of_lt (by omega)
    rw [write, ih _ (by rw [Array.size_setIfInBounds]; omega), Array.toList_setIfInBounds, htake, hdrop,
      show i + 1 + bs.length = i + (bs.length + 1) by omega]
    simp

theorem overwrite?_toList (arena : Array UInt8) {i j : Nat} {bs : Bytes} (hj : j = i + bs.length)
    (h : j ≤ arena.size) : overwrite? arena.toList i j bs = some (write arena i bs).toList := by
  subst hj
  rw [toList_write arena h]
  exact overwrite?_of_le (by omega) (by simpa using h) (by omega)

theorem length?_eq {r : Ring} (h : Wf r) : r.length? = some r.length := by
  have ht := h.tail_lt
  unfold length? length
  split_ifs with he hlt
  · rfl
  · exact sub?_of_le hlt.le
  · exact sub?_of_le (by omega)

theorem last?_eq (bs : Bytes) (c : Nat) : last? bs c = some (bs.rtake c) := by
  unfold last?
  split_ifs with hlong
  · simp only [sub?_of_le hlong.le, Option.bind_eq_bind, Option.bind_some]
    rw [piece?_of_le (by omega) le_rfl, List.rtake, List.take_of_length_le (by simp)]
  · rw [List.rtake, Nat.sub_eq_zero_of_le (by omega), List.drop_zero]

theorem lay?_eq (arena : Array UInt8) {head : Nat} {data : Bytes} (hh : head < arena.size)
    (hd : data.length ≤ arena.size) : lay? arena.toList head data = some (lay arena head data).toList := by
  set first := min data.length (arena.size - head) with hf
  have hfirst : piece? data 0 first = some (data.take first) := by
    rw [piece?_of_le (by omega) (by omega), Nat.sub_zero, List.drop_zero]
  have hrest : piece? data first data.length = some (data.drop first) := by
    rw [piece?_of_le (by omega) le_rfl, List.take_of_length_le (by simp)]
  have hup : overwrite? arena.toList head (head + first) (data.take first) =
      some (write arena head (data.take first)).toList :=
    overwrite?_toList arena (by rw [List.length_take]; omega) (by omega)
  have hround : overwrite? (write arena head (data.take first)).toList 0 (data.length - first) (data.drop first) =
      some (lay arena head data).toList :=
    overwrite?_toList _ (by simp) (by rw [size_write]; omega)
  simp only [lay?, Array.length_toList, sub?_of_le hh.le, Option.bind_eq_bind, Option.bind_some, ← hf, hfirst, hup,
    sub?_of_le (show first ≤ data.length by omega), hrest, hround]

theorem put?_eq {r : Ring} (h : Wf r) (data : Bytes) : r.put? data = some (r.put data) := by
  rcases eq_or_ne data [] with rfl | hd
  · rfl
  have hcap : 0 < r.capacity := Nat.zero_lt_of_lt h.head_lt
  have hn := length_rtake_le data r.capacity
  rw [put_eq_append r hd]
  simp only [put?, List.isEmpty_iff, if_neg hd, last?_eq, length?_eq h, sub?_of_le (length_le_capacity h),
    lay?_eq r.arena h.head_lt hn, mod?_of_pos hcap, Option.bind_eq_bind, Option.bind_some, Option.pure_def]
  rfl

theorem length_slice (arena : Array UInt8) {i n : Nat} (h : i + n ≤ arena.size) :
    (slice arena ⟨i, n⟩).length = n := by
  rw [slice_eq_window arena h, length_window]

theorem fetch?_eq {r : Ring} (h : Wf r) {n : Nat} (hn : n ≤ r.length) {buffer : Bytes} (hb : n ≤ buffer.length) :
    fetch? r.arena.toList r.tail n buffer = some (r.toList.take n ++ buffer.drop n) := by
  have hcap : n ≤ r.arena.size := Nat.le_trans hn (length_le_capacity h)
  have ht : r.tail < r.arena.size := h.tail_lt
  set first := min n (r.arena.size - r.tail) with hf
  set a := slice r.arena ⟨r.tail, first⟩ with ha
  set b := slice r.arena ⟨0, n - first⟩ with hb'
  have hla : a.length = first := length_slice r.arena (by omega)
  have hlb : b.length = n - first := length_slice r.arena (by omega)
  have hab : r.toList.take n = a ++ b := by
    rw [toList_eq_window h, take_window _ _ hn, ← spans_eq_window r h.tail_lt hcap]
    rfl
  have hpa : piece? r.arena.toList r.tail (r.tail + first) = some a := by
    rw [piece?_of_le (by omega) (by simp; omega), Nat.add_sub_cancel_left, ha, slice_eq]
  have hpb : piece? r.arena.toList 0 (n - first) = some b := by
    rw [piece?_of_le (by omega) (by simp; omega), Nat.sub_zero, hb', slice_eq]
  have hwa : overwrite? buffer 0 first a = some (a ++ buffer.drop first) := by
    rw [overwrite?_of_le (by omega) (by omega) (by omega), List.take_zero, List.nil_append]
  have hwb : overwrite? (a ++ buffer.drop first) first n b = some (a ++ b ++ buffer.drop n) := by
    rw [overwrite?_of_le (by omega) (by rw [List.length_append, List.length_drop]; omega) hlb,
      List.take_left' hla, List.drop_append, List.drop_of_length_le (by omega), hla, List.nil_append, List.drop_drop,
      Nat.add_sub_cancel' (by omega)]
  simp only [fetch?, Array.length_toList, sub?_of_le ht.le, Option.bind_eq_bind, Option.bind_some, ← hf, hpa, hwa,
    sub?_of_le (show first ≤ n by omega), hpb, hwb, hab]

theorem read?_eq {r : Ring} (h : Wf r) (buffer : Bytes) : r.read? buffer = some (r.read buffer) := by
  have hcap : 0 < r.capacity := Nat.zero_lt_of_lt h.head_lt
  simp only [read?, length?_eq h, Option.bind_eq_bind, Option.bind_some, Option.pure_def]
  rw [read_eq h, get_eq h]
  set k := min buffer.length r.length with hk
  by_cases h0 : k = 0
  · simp [h0]
  · have hempty : (if k = r.length then true else r.isEmpty) = (r.isEmpty || decide (k = r.length)) := by
      split_ifs with hall <;> simp [hall]
    rw [if_neg h0, if_neg h0, fetch?_eq h (Nat.min_le_right _ _) (Nat.min_le_left _ _), mod?_of_pos hcap, hempty]
    rfl

theorem get?_eq {r : Ring} (h : Wf r) (n : Nat) : r.get? n = some (r.get n) := by
  simp only [get?, length?_eq h, read?_eq h, Option.bind_eq_bind, Option.bind_some, Option.pure_def]
  rw [read_eq h, List.length_replicate, get_eq h, get_eq h, Nat.min_eq_left (Nat.min_le_right n r.length),
    List.take_left' (by rw [List.length_take, length_toList h]; omega), List.take_eq_take_min (i := n), length_toList h]

theorem step?_eq {r : Ring} (h : Wf r) (o : Op) : r.step? o = some (r.step o) := by
  cases o with
  | put data => simp only [step?, put?_eq h]; rfl
  | get n => simp only [step?, get?_eq h]; rfl
  | read buffer => simp only [step?, read?_eq h]; rfl
  | clear => rfl

theorem run?_eq {r : Ring} {c : Nat} {q : Bytes} (h : Holds r c q) (ops : List Op) :
    r.run? ops = some (r.run ops) := by
  induction ops generalizing r q with
  | nil => rfl
  | cons o ops ih =>
    simp only [run?, step?_eq h.wf, Option.bind_eq_bind, Option.bind_some, ih (step_holds h o).1]
    rfl

/-- **A ring is a bounded queue of bytes.** Take an empty ring of any capacity `c` that is not zero and any operations
on it. No guard stops the run. The ring answers like the queue of at most `c` bytes and holds the bytes of the queue,
and its length, its emptiness and its capacity are those of the queue. -/
theorem refines_bounded_queue {c : Nat} (hc : 0 < c) (ops : List Op) :
    ∃ r, ofCapacity? c = some r ∧ ∃ t as, r.run ops = (t, as) ∧ r.run? ops = some (t, as) ∧
      Queue.run c [] ops = (t.toList, as) ∧ t.length? = some t.toList.length ∧ t.length = t.toList.length ∧
      t.length ≤ c ∧ (t.isEmpty = true ↔ t.toList = []) ∧ t.capacity = c := by
  obtain ⟨r, hr⟩ : ∃ r, ofCapacity? c = some r := ⟨_, if_neg hc.ne'⟩
  obtain ⟨hw, hcap, he⟩ := wf_ofCapacity? hr
  have h0 : Holds r c [] := ⟨hw, hcap, (toList_eq_nil_iff hw).2 he⟩
  obtain ⟨hh, ha⟩ := run_holds h0 ops
  refine ⟨r, hr, (r.run ops).1, (r.run ops).2, rfl, run?_eq h0 ops, ?_, ?_, (length_toList hh.wf).symm, ?_,
    (toList_eq_nil_iff hh.wf).symm, hh.capacity⟩
  · rw [hh.toList, ha]
  · rw [length?_eq hh.wf, length_toList hh.wf]
  · exact hh.capacity ▸ length_le_capacity hh.wf

/-- a ring of three bytes: four bytes put, a buffer of four read into, one byte put and taken after a clear -/
theorem refines_bounded_queue_three :
    0 < 3 ∧ ∃ r, ofCapacity? 3 = some r ∧ ∃ t,
      r.run [.put [1, 2], .put [3, 4], .read [0, 0, 0, 7], .put [5, 6], .clear, .put [8], .get 2] =
        (t, [.done, .done, .filled 3 [2, 3, 4, 7], .done, .done, .done, .bytes [8]]) ∧
      t.toList = [] ∧ t.isEmpty = true := by
  refine ⟨by decide, ?_⟩
  obtain ⟨r, hr, t, as, hrun, -, hq, -, -, -, hempty, -⟩ := refines_bounded_queue (c := 3) (by decide)
    [.put [1, 2], .put [3, 4], .read [0, 0, 0, 7], .put [5, 6], .clear, .put [8], .get 2]
  have hqueue : Queue.run 3 [] [.put [1, 2], .put [3, 4], .read [0, 0, 0, 7], .put [5, 6], .clear, .put [8], .get 2] =
      ([], [.done, .done, .filled 3 [2, 3, 4, 7], .done, .done, .done, .bytes [8]]) := by decide
  rw [hqueue] at hq
  obtain ⟨ht, rfl⟩ := Prod.mk.inj hq
  exact ⟨r, hr, t, hrun, ht.symm, hempty.2 ht.symm⟩

end RemoteShutter.Ring
