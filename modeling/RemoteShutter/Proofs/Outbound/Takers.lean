/-
The history of an outbound queue: what its takers get, and when.

A taker that cannot proceed goes to sleep, and whoever pushes, connects, disconnects or closes wakes all that sleep. A
`QueueRecord` is a history with the ledger of its bytes and with a note, for each waiting taker, whether it has a look
to make: it has just come, or it was woken after its last look.
- `look_cases`: a look finds the queue closed, or bytes, or nothing to do; then it leaves everything as it is.
- `books_step`: the ledger holds, whatever happens.
- `inv_step`: nobody sleeps at a queue where a taker need not wait.
- `taken_after_close`: behind a close there are only takers that learn of it.
- `queue_history`: what holds of every history.
-/
import Mathlib.Tactic
import RemoteShutter.Proofs.Outbound.Ledger
import RemoteShutter.Proofs.Outbound.Stream

namespace RemoteShutter

open scoped List

namespace QueueHistory

/-! ## Looks -/

/-- what the `i`th taker, with a buffer of `n` bytes, does when it looks -/
inductive Look (h : QueueHistory) (i n : Nat) : Prop where
  /-- it learns that the queue is closed -/
  | closed (isClosed : h.queue.isClosed = true)
      (step : h.step (.look i) = { h with waiting := h.waiting.eraseIdx i, taken := h.taken ++ [.closed] })
  /-- it gets some of the oldest bytes -/
  | bytes (got : Bytes) (ring : Ring) (isOpen : h.queue.isClosed = false) (isConnected : h.queue.isConnected = true)
      (some : h.queue.ring.isEmpty = false) (size : 1 ≤ got.length ∧ got.length ≤ n)
      (split : got ++ ring.toList = h.queue.ring.toList)
      (step : h.step (.look i) = ⟨{ h.queue with ring := ring }, h.waiting.eraseIdx i, h.taken ++ [.bytes got]⟩)
  /-- it goes on waiting -/
  | waits (notReady : h.queue.isReady = false) (step : h.step (.look i) = h)

variable {h : QueueHistory} {i n : Nat}

theorem step_look_of_closed (hi : h.waiting[i]? = some n) (hc : h.queue.isClosed = true) :
    h.step (.look i) = { h with waiting := h.waiting.eraseIdx i, taken := h.taken ++ [.closed] } := by
  simp only [step, hi, Outbound.take_of_closed hc]

theorem step_look_of_not_ready (hr : h.queue.isReady = false) (i : Nat) : h.step (.look i) = h := by
  cases hi : h.waiting[i]? with
  | none => simp only [step, hi]
  | some n => simp only [step, hi, Outbound.take_of_not_ready hr]

theorem step_look_of_ready (hi : h.waiting[i]? = some n) (hc : h.queue.isClosed = false) (hr : h.queue.isReady = true) :
    h.step (.look i) = ⟨{ h.queue with ring := (h.queue.ring.get n).2 }, h.waiting.eraseIdx i,
      h.taken ++ [.bytes (h.queue.ring.get n).1]⟩ := by
  simp only [step, hi, Outbound.take_of_ready hc hr]

theorem look_cases (hw : h.Wf) (hi : h.waiting[i]? = some n) (hn : 0 < n) : Look h i n := by
  by_cases hc : h.queue.isClosed = true
  · exact .closed hc (step_look_of_closed hi hc)
  have hopen : h.queue.isClosed = false := Bool.eq_false_of_not_eq_true hc
  by_cases hr : h.queue.isReady = true
  · have hready := hr
    rw [Outbound.isReady, hopen, Bool.false_or, Bool.and_eq_true, Bool.not_eq_true'] at hready
    obtain ⟨hconnected, hsome⟩ := hready
    have hpos : 0 < h.queue.ring.length := by
      rw [Nat.pos_iff_ne_zero, Ne, Ring.length_eq_zero_iff hw, hsome]
      exact Bool.false_ne_true
    have hlen : (h.queue.ring.get n).1.length = min n h.queue.ring.length := by
      rw [Ring.get_fst hw, List.length_take, Ring.length_toList hw]
    refine .bytes _ _ hopen hconnected hsome ?_ ?_ (step_look_of_ready hi hopen hr)
    · omega
    · rw [Ring.get_fst hw, Ring.toList_get hw, List.take_append_drop]
  · have hoff : h.queue.isReady = false := Bool.eq_false_of_not_eq_true hr
    exact .waits hoff (step_look_of_not_ready hoff i)

/-- a look that finds something changes the history -/
theorem step_look_ne_iff (hi : h.waiting[i]? = some n) : h.step (.look i) ≠ h ↔ h.queue.isReady = true := by
  constructor
  · intro hne
    by_contra hr
    exact hne (step_look_of_not_ready (Bool.eq_false_of_not_eq_true hr) i)
  · intro hr heq
    have hlen := congrArg (fun h => h.taken.length) heq
    by_cases hc : h.queue.isClosed = true
    · simp [step_look_of_closed hi hc] at hlen
    · simp [step_look_of_ready hi (Bool.eq_false_of_not_eq_true hc) hr] at hlen

/-! ## Behind a close -/

theorem isClosed_step (hc : h.queue.isClosed = true) (e : QueueEvent) : (h.step e).queue.isClosed = true := by
  cases e with
  | look i =>
    rcases step_look h i with hs | ⟨n, hs | hs⟩ <;> rw [hs] <;> exact hc
  | close => rfl
  | push | setConnected | arrive => exact hc

/-- one event behind a close: nothing is taken, or one more taker learns of it -/
theorem taken_step_of_closed (hc : h.queue.isClosed = true) (e : QueueEvent) :
    ∃ k, (h.step e).taken = h.taken ++ List.replicate k .closed := by
  cases e with
  | look i =>
    cases hi : h.waiting[i]? with
    | none => exact ⟨0, by simp [step, hi]⟩
    | some n => exact ⟨1, by rw [step_look_of_closed hi hc]; rfl⟩
  | push | setConnected | close | arrive => exact ⟨0, (List.append_nil _).symm⟩

/-- **Behind a close there are only takers that learn of it.** -/
theorem taken_after_close (hc : h.queue.isClosed = true) (es : List QueueEvent) :
    (h.run es).queue.isClosed = true ∧ ∃ k, (h.run es).taken = h.taken ++ List.replicate k .closed := by
  induction es generalizing h with
  | nil => exact ⟨hc, 0, (List.append_nil _).symm⟩
  | cons e es ih =>
    obtain ⟨k, hk⟩ := taken_step_of_closed hc e
    obtain ⟨hclosed, m, hm⟩ := ih (isClosed_step hc e)
    refine ⟨hclosed, k + m, ?_⟩
    rw [run, List.foldl_cons]
    refine hm.trans ?_
    rw [hk, List.append_assoc, List.replicate_append_replicate]

theorem popped_of_taken {h' : QueueHistory} {k : Nat} (ht : h'.taken = h.taken ++ List.replicate k .closed) :
    h'.popped = h.popped := by
  have hnone : (List.replicate k Taken.closed).filterMap Taken.bytes? = [] :=
    List.filterMap_eq_nil_iff.2 fun t ht => by rw [List.eq_of_mem_replicate ht]; rfl
  rw [popped, ht, List.filterMap_append, hnone, List.append_nil, popped]

end QueueHistory

/-! ## Records -/

structure QueueRecord where
  history : QueueHistory
  ledger : Ledger := {}
  /-- which of the waiting takers have a look to make -/
  due : List Bool := []

namespace QueueRecord

/-- a queue that nobody has used yet -/
def start (q : Outbound) : QueueRecord :=
  { history := { queue := q } }

/-- the ledger after an event -/
def note (t : QueueRecord) : QueueEvent → Ledger
  | .push bs => t.ledger.push t.history.queue.ring bs
  | .look i =>
    match t.history.waiting[i]? with
    | none => t.ledger
    | some n =>
      match t.history.queue.take n with
      | (.bytes _, _) => t.ledger.pop t.history.queue.ring n
      | _ => t.ledger
  | _ => t.ledger

/-- who has a look to make after an event: whoever has looked in vain has none until it is woken -/
def rouse (t : QueueRecord) : QueueEvent → List Bool
  | .push _ | .setConnected _ | .close => t.due.map fun _ => true
  | .arrive _ => t.due ++ [true]
  | .look i => if t.history.queue.isReady then t.due.eraseIdx i else t.due.set i false

def step (t : QueueRecord) (e : QueueEvent) : QueueRecord where
  history := t.history.step e
  ledger := t.note e
  due := t.rouse e

def steps (t : QueueRecord) (es : List QueueEvent) : QueueRecord :=
  es.foldl step t

theorem steps_cons (t : QueueRecord) (e : QueueEvent) (es : List QueueEvent) :
    t.steps (e :: es) = (t.step e).steps es := rfl

theorem history_steps (t : QueueRecord) (es : List QueueEvent) : (t.steps es).history = t.history.run es :=
  (List.foldl_hom history fun _ _ => rfl).symm

theorem pushed_note (t : QueueRecord) (e : QueueEvent) :
    (t.note e).pushed = t.ledger.pushed ++ QueueHistory.pushedBy e := by
  cases e with
  | look i =>
    simp only [note, QueueHistory.pushedBy, List.append_nil]
    split
    · rfl
    · split <;> rfl
  | push => rfl
  | setConnected | close | arrive => exact (List.append_nil _).symm

theorem pushed_steps (t : QueueRecord) (es : List QueueEvent) :
    (t.steps es).ledger.pushed = t.ledger.pushed ++ es.flatMap QueueHistory.pushedBy := by
  induction es generalizing t with
  | nil => exact (List.append_nil _).symm
  | cons e es ih =>
    rw [steps_cons, ih, List.flatMap_cons, ← List.append_assoc]
    exact congrArg (· ++ _) (pushed_note t e)

/-- only pushes drop bytes -/
theorem dropped_step (t : QueueRecord) (e : QueueEvent) (he : ∀ bs, e ≠ .push bs) :
    (t.step e).ledger.dropped = t.ledger.dropped := by
  cases e with
  | push bs => exact absurd rfl (he bs)
  | look i =>
    simp only [step, note]
    split
    · rfl
    · split <;> rfl
  | setConnected | close | arrive => rfl

/-! ## The books -/

/-- the ledger is one of the ring, and of what was taken -/
structure Books (t : QueueRecord) : Prop where
  ledger : t.ledger.Holds t.history.queue.ring
  popped : t.history.popped.flatten = pick t.ledger.pushed t.ledger.popped

theorem books_start {capacity : Nat} {q : Outbound} (h : Outbound.ofCapacity? capacity = some q) :
    Books (start q) := by
  obtain ⟨r, hr, rfl⟩ := Option.map_eq_some_iff.1 h
  obtain ⟨hw, -, hempty⟩ := Ring.wf_ofCapacity? hr
  exact ⟨Ledger.holds_new hw hempty, rfl⟩

variable {t : QueueRecord}

/-- what is taken from the ring is what the ledger notes -/
theorem books_look (h : Books t) (i : Nat) : Books (t.step (.look i)) := by
  cases hi : t.history.waiting[i]? with
  | none =>
    have hs : t.history.step (.look i) = t.history := by simp only [QueueHistory.step, hi]
    have hnote : t.note (.look i) = t.ledger := by simp only [note, hi]
    refine ⟨?_, ?_⟩ <;> simp only [step, hs, hnote]
    · exact h.ledger
    · exact h.popped
  | some n =>
    by_cases hc : t.history.queue.isClosed = true
    · have hs := QueueHistory.step_look_of_closed hi hc
      have hnote : t.note (.look i) = t.ledger := by simp only [note, hi, Outbound.take_of_closed hc]
      refine ⟨?_, ?_⟩ <;> simp only [step, hs, hnote]
      · exact h.ledger
      · rw [← h.popped]
        exact congrArg List.flatten (QueueHistory.popped_of_taken (k := 1) rfl)
    by_cases hr : t.history.queue.isReady = true
    · have hopen : t.history.queue.isClosed = false := Bool.eq_false_of_not_eq_true hc
      have hs := QueueHistory.step_look_of_ready hi hopen hr
      have hnote : t.note (.look i) = t.ledger.pop t.history.queue.ring n := by
        simp only [note, hi, Outbound.take_of_ready hopen hr]
      refine ⟨?_, ?_⟩ <;> simp only [step, hs, hnote]
      · exact Ledger.holds_pop h.ledger n
      · rw [QueueHistory.popped, List.filterMap_append, List.flatten_append, Ledger.pushed_pop, Ledger.pop, pick_append,
          Ledger.pick_next h.ledger, ← h.popped]
        simp [QueueHistory.popped, Taken.bytes?]
    · have hoff : t.history.queue.isReady = false := Bool.eq_false_of_not_eq_true hr
      have hs := QueueHistory.step_look_of_not_ready hoff i
      have hnote : t.note (.look i) = t.ledger := by simp only [note, hi, Outbound.take_of_not_ready hoff]
      refine ⟨?_, ?_⟩ <;> simp only [step, hs, hnote]
      · exact h.ledger
      · exact h.popped

/-- **An event keeps the books.** -/
theorem books_step (h : Books t) (e : QueueEvent) : Books (t.step e) := by
  cases e with
  | push bs =>
    exact ⟨Ledger.holds_push h.ledger bs,
      h.popped.trans (pick_append_left (fun _ hp => h.ledger.lt_length hp) bs).symm⟩
  | look i => exact books_look h i
  | setConnected | close | arrive => exact ⟨h.ledger, h.popped⟩

theorem books_steps (h : Books t) (es : List QueueEvent) : Books (t.steps es) := by
  induction es generalizing t with
  | nil => exact h
  | cons e es ih => exact ih (books_step h e)

/-! ## The invariant -/

structure Inv (capacity : Nat) (t : QueueRecord) : Prop where
  ledger : t.ledger.Holds t.history.queue.ring
  capacity : t.history.queue.ring.capacity = capacity
  popped : t.history.popped.flatten = pick t.ledger.pushed t.ledger.popped
  due : t.due.length = t.history.waiting.length
  /-- who sleeps would have to wait -/
  asleep : false ∈ t.due → t.history.queue.isReady = false
  rooms : ∀ n ∈ t.history.waiting, 0 < n

variable {capacity : Nat}

theorem Inv.books (h : Inv capacity t) : Books t :=
  ⟨h.ledger, h.popped⟩

theorem inv_start {q : Outbound} (h : Outbound.ofCapacity? capacity = some q) : Inv capacity (start q) := by
  obtain ⟨hledger, hpopped⟩ := books_start h
  obtain ⟨r, hr, rfl⟩ := Option.map_eq_some_iff.1 h
  obtain ⟨-, hcap, -⟩ := Ring.wf_ofCapacity? hr
  exact ⟨hledger, hcap, hpopped, rfl, fun hm => absurd hm List.not_mem_nil, fun n hm => absurd hm List.not_mem_nil⟩

theorem inv_push (h : Inv capacity t) (bs : Bytes) : Inv capacity (t.step (.push bs)) where
  ledger := (books_step h.books (.push bs)).ledger
  capacity := (Ring.capacity_put _ bs).trans h.capacity
  popped := (books_step h.books (.push bs)).popped
  due := (List.length_map _).trans h.due
  asleep := by simp [step, rouse]
  rooms := h.rooms

/-- a taker leaves that has found something -/
theorem length_due_eraseIdx (h : Inv capacity t) (i : Nat) :
    (t.due.eraseIdx i).length = (t.history.waiting.eraseIdx i).length := by
  rw [List.length_eraseIdx, List.length_eraseIdx, h.due]

theorem rooms_eraseIdx (h : Inv capacity t) (i : Nat) : ∀ n ∈ t.history.waiting.eraseIdx i, 0 < n :=
  fun n hm => h.rooms n (List.mem_of_mem_eraseIdx hm)

/-- a taker that gets bytes leaves -/
theorem inv_look_ready (h : Inv capacity t) {i n : Nat} (hi : t.history.waiting[i]? = some n)
    (hc : t.history.queue.isClosed = false) (hr : t.history.queue.isReady = true) :
    Inv capacity (t.step (.look i)) := by
  have hs := QueueHistory.step_look_of_ready hi hc hr
  have hdue : t.rouse (.look i) = t.due.eraseIdx i := if_pos hr
  obtain ⟨hledger, hpopped⟩ := books_look h.books i
  refine ⟨hledger, ?_, hpopped, ?_, fun hm => ?_, ?_⟩ <;> simp only [step, hs, hdue] at *
  · exact (Ring.capacity_get h.ledger.wf n).trans h.capacity
  · exact length_due_eraseIdx h i
  · rw [h.asleep (List.mem_of_mem_eraseIdx hm)] at hr
    cases hr
  · exact rooms_eraseIdx h i

theorem inv_look_closed (h : Inv capacity t) {i n : Nat} (hi : t.history.waiting[i]? = some n)
    (hc : t.history.queue.isClosed = true) : Inv capacity (t.step (.look i)) := by
  have hs := QueueHistory.step_look_of_closed hi hc
  have hdue : t.rouse (.look i) = t.due.eraseIdx i := if_pos (by rw [Outbound.isReady, hc, Bool.true_or])
  obtain ⟨hledger, hpopped⟩ := books_look h.books i
  refine ⟨hledger, ?_, hpopped, ?_, fun hm => ?_, ?_⟩ <;> simp only [step, hs, hdue] at *
  · exact h.capacity
  · exact length_due_eraseIdx h i
  · exact h.asleep (List.mem_of_mem_eraseIdx hm)
  · exact rooms_eraseIdx h i

/-- a look in vain sends the taker to sleep, at a queue where it has to wait -/
theorem inv_look_vain (h : Inv capacity t) {i : Nat} (hr : t.history.queue.isReady = false) :
    Inv capacity (t.step (.look i)) := by
  have hs := QueueHistory.step_look_of_not_ready hr i
  have hdue : t.rouse (.look i) = t.due.set i false := if_neg (by rw [hr]; exact Bool.false_ne_true)
  obtain ⟨hledger, hpopped⟩ := books_look h.books i
  refine ⟨hledger, ?_, hpopped, ?_, fun _ => ?_, ?_⟩ <;> simp only [step, hs, hdue]
  · exact h.capacity
  · rw [List.length_set, h.due]
  · exact hr
  · exact h.rooms

theorem inv_look (h : Inv capacity t) (i : Nat) : Inv capacity (t.step (.look i)) := by
  cases hi : t.history.waiting[i]? with
  | none =>
    have hs : t.step (.look i) = t := by
      have hle := List.getElem?_eq_none_iff.1 hi
      have hdue : t.rouse (.look i) = t.due := by
        rw [rouse, List.eraseIdx_of_length_le (h.due ▸ hle), List.set_eq_of_length_le (h.due ▸ hle), ite_self]
      simp only [step, QueueHistory.step, note, hi, hdue]
    exact hs.symm ▸ h
  | some n =>
    by_cases hc : t.history.queue.isClosed = true
    · exact inv_look_closed h hi hc
    by_cases hr : t.history.queue.isReady = true
    · exact inv_look_ready h hi (Bool.eq_false_of_not_eq_true hc) hr
    · exact inv_look_vain h (Bool.eq_false_of_not_eq_true hr)

/-- **An event keeps the ledger, and lets nobody sleep who need not wait.** -/
theorem inv_step (h : Inv capacity t) {e : QueueEvent} (hn : ∀ n, e = .arrive n → 0 < n) : Inv capacity (t.step e) := by
  cases e with
  | push bs => exact inv_push h bs
  | look i => exact inv_look h i
  | arrive n =>
    refine ⟨h.ledger, h.capacity, h.popped, ?_, fun hm => ?_, fun m hm => ?_⟩
    · simp [step, rouse, QueueHistory.step, h.due]
    · rcases List.mem_append.1 hm with hm | hm
      · exact h.asleep hm
      · cases List.mem_singleton.1 hm
    · rcases List.mem_append.1 hm with hm | hm
      · exact h.rooms m hm
      · exact List.mem_singleton.1 hm ▸ hn n rfl
  | setConnected | close =>
    exact ⟨h.ledger, h.capacity, h.popped, (List.length_map _).trans h.due, by simp [step, rouse], h.rooms⟩

theorem inv_steps (h : Inv capacity t) {es : List QueueEvent} (hn : ∀ n, .arrive n ∈ es → 0 < n) :
    Inv capacity (t.steps es) := by
  induction es generalizing t with
  | nil => exact h
  | cons e es ih =>
    refine ih (inv_step h fun n he => hn n (he ▸ List.mem_cons_self)) fun n hm => hn n (List.mem_cons_of_mem e hm)

/-- a waiting taker has a look to make, and not in vain, just if the queue is ready -/
theorem Inv.due_and_ne_iff (h : Inv capacity t) {i n : Nat} (hi : t.history.waiting[i]? = some n) :
    t.due[i]? = some true ∧ t.history.step (.look i) ≠ t.history ↔ t.history.queue.isReady = true := by
  rw [QueueHistory.step_look_ne_iff hi, and_iff_right_iff_imp]
  intro hr
  have hlt : i < t.due.length := h.due ▸ (List.getElem?_eq_some_iff.1 hi).1
  rw [List.getElem?_eq_getElem hlt]
  by_contra hne
  have hsleeps : t.due[i] = false := by simpa using hne
  rw [h.asleep (hsleeps ▸ List.getElem_mem hlt)] at hr
  cases hr

/-- **The history of an outbound queue.** Take a new queue of any capacity that is not zero, and any events at it, with
takers whose buffers have room for a byte at least. What waits is the end of what was pushed. With what was taken before
it, it is what was pushed without the bytes that some push has dropped, and a push drops just the oldest bytes for which
there is no room. A taker that looks learns that the queue is closed, or gets at least one byte and no more than it has
room for, of a queue that is connected, not closed and not empty, or changes nothing; and events other than looks leave
all takers waiting. A waiting taker has a look to make that is not in vain just if the queue is closed, or connected and
not empty. Behind a close it stays closed, nothing is taken any more, and every taker that looks learns of it. -/
theorem queue_history (hc : 0 < capacity) {es : List QueueEvent} (hn : ∀ n, .arrive n ∈ es → 0 < n) :
    ∃ q, Outbound.ofCapacity? capacity = some q ∧
      let t := (start q).steps es
      let h := t.history
      let pushed := es.flatMap QueueHistory.pushedBy
      h = QueueHistory.run { queue := q } es ∧
        h.queue.ring.toList = pushed.rtake h.queue.pending ∧
        h.popped.flatten ++ h.queue.ring.toList =
          pick pushed ((List.range pushed.length).filter (· ∉ t.ledger.dropped)) ∧
        (∀ bs : Bytes,
          let excess := h.queue.pending + bs.length - capacity
          (h.step (.push bs)).queue.ring.toList = (h.queue.ring.toList ++ bs).drop excess ∧
            (t.step (.push bs)).ledger.dropped =
              t.ledger.dropped ++ List.range' (pushed.length - h.queue.pending) excess) ∧
        (∀ e, (∀ bs, e ≠ .push bs) → (t.step e).ledger.dropped = t.ledger.dropped) ∧
        (∀ i n, h.waiting[i]? = some n → h.Look i n) ∧
        (∀ e, (∀ i, e ≠ .look i) → h.waiting <+: (h.step e).waiting) ∧
        (∀ i n, h.waiting[i]? = some n →
          (t.due[i]? = some true ∧ h.step (.look i) ≠ h ↔ h.queue.isReady = true)) ∧
        (h.queue.isClosed = true → ∀ es', (h.run es').queue.isClosed = true ∧ (h.run es').popped = h.popped ∧
          ∃ k, (h.run es').taken = h.taken ++ List.replicate k .closed) := by
  obtain ⟨q, hq⟩ : ∃ q, Outbound.ofCapacity? capacity = some q :=
    ⟨_, by rw [Outbound.ofCapacity?, Ring.ofCapacity?, if_neg hc.ne']; rfl⟩
  refine ⟨q, hq, ?_⟩
  intro t h pushed
  have hinv : Inv capacity t := inv_steps (inv_start hq) hn
  have hpushed : t.ledger.pushed = pushed := pushed_steps (start q) es
  have hkept := Ledger.bytes_popped_append hinv.ledger
  rw [← hinv.popped, hpushed] at hkept
  refine ⟨history_steps (start q) es, ?_, hkept, fun bs => ⟨?_, ?_⟩, dropped_step t, fun i n hi => ?_, fun e he => ?_,
    fun i n hi => hinv.due_and_ne_iff hi, fun hclosed es' => ?_⟩
  · rw [List.rtake, ← hpushed]
    exact hinv.ledger.waiting
  · rw [← hinv.capacity]
    exact Ledger.toList_push hinv.ledger bs
  · rw [← hinv.capacity, ← hpushed]
    rfl
  · exact QueueHistory.look_cases hinv.ledger.wf hi (hinv.rooms n (List.mem_of_getElem? hi))
  · cases e with
    | look i => exact absurd rfl (he i)
    | arrive n => exact List.prefix_append _ _
    | push | setConnected | close => exact List.prefix_rfl
  · obtain ⟨hstays, k, hk⟩ := QueueHistory.taken_after_close hclosed es'
    exact ⟨hstays, QueueHistory.popped_of_taken hk, k, hk⟩

/-- a ring of three bytes: a taker sleeps, five bytes are pushed, the taker gets two, another one sleeps at the close -/
theorem queue_history_overflow :
    let es : List QueueEvent := [.arrive 2, .look 0, .push [1, 2], .push [3, 4, 5], .setConnected true, .look 0,
      .setConnected false, .arrive 9, .look 0, .close]
    0 < 3 ∧ (∀ n, .arrive n ∈ es → 0 < n) ∧ ∃ q, Outbound.ofCapacity? 3 = some q ∧
      let t := (start q).steps es
      t.history.popped = [[3, 4]] ∧ t.history.queue.ring.toList = [5] ∧ t.ledger.dropped = [0, 1] ∧ t.due = [true] ∧
        ∀ es', (t.history.run es').popped = [[3, 4]] := by
  intro es
  have hn : ∀ n, .arrive n ∈ es → 0 < n := by simp [es]
  obtain ⟨q, hq, -, -, -, -, -, -, -, -, hclosed⟩ := queue_history (show 0 < 3 by decide) hn
  obtain rfl : { ring := ⟨Array.replicate 3 0, 0, 0, true⟩ } = q := Option.some.inj hq
  exact ⟨by decide, hn, _, rfl, by decide, by decide, by decide, by decide, fun es' => (hclosed (by decide) es').2.1⟩

end QueueRecord

end RemoteShutter
