/-
The bytes that go through the outbound queue.

What takers have got and what still waits make up one stream. A push appends to it what it pushes, if the ring has room
for that; everything else only moves bytes from the ring to a taker, or does nothing.
- `step_look`: what a taker finds when it looks.
- `wf_step`: an event keeps the ring in order.
- `stream_step`: what an event does to the stream.
-/
import Mathlib.Tactic
import RemoteShutter.Link.Outbound
import RemoteShutter.Proofs.Ring.Contents

namespace RemoteShutter

/-- the bytes that a taker got -/
def Taken.bytes? : Taken → Option Bytes
  | bytes bs => some bs
  | _ => none

theorem Ring.toList_put_of_room {r : Ring} (h : Wf r) {bs : Bytes} (hroom : bs.length + r.length ≤ r.capacity) :
    (r.put bs).toList = r.toList ++ bs := by
  rw [toList_put h, List.rtake, List.length_append, length_toList h, Nat.sub_eq_zero_of_le (by omega), List.drop_zero]

namespace Outbound

/-- a taker that looks does not have to wait -/
def isReady (q : Outbound) : Bool :=
  q.isClosed || q.isConnected && !q.ring.isEmpty

variable {q : Outbound}

theorem take_of_closed (h : q.isClosed = true) (n : Nat) : q.take n = (.closed, q) := by
  simp [take, h]

theorem take_of_not_ready (h : q.isReady = false) (n : Nat) : q.take n = (.waits, q) := by
  rw [isReady, Bool.or_eq_false_iff] at h
  simp [take, h.1, h.2]

theorem take_of_ready (hc : q.isClosed = false) (h : q.isReady = true) (n : Nat) :
    q.take n = (.bytes (q.ring.get n).1, { q with ring := (q.ring.get n).2 }) := by
  rw [isReady, hc, Bool.false_or] at h
  simp [take, hc, h]

end Outbound

namespace QueueHistory

/-- what was taken, piece by piece -/
def popped (h : QueueHistory) : List Bytes :=
  h.taken.filterMap Taken.bytes?

/-- what was taken and what still waits -/
def stream (h : QueueHistory) : Bytes :=
  h.popped.flatten ++ h.queue.ring.toList

/-- the ring is in order -/
def Wf (h : QueueHistory) : Prop :=
  h.queue.ring.Wf

/-- what an event pushes -/
def pushedBy : QueueEvent → Bytes
  | .push bs => bs
  | _ => []

/-- there is room for what an event pushes -/
def HasRoom (h : QueueHistory) (e : QueueEvent) : Prop :=
  (pushedBy e).length + h.queue.pending ≤ h.queue.ring.capacity

variable {h : QueueHistory}

theorem take_cases (q : Outbound) (n : Nat) :
    q.take n = (.closed, q) ∨ q.take n = (.waits, q) ∨
      q.take n = (.bytes (q.ring.get n).1, { q with ring := (q.ring.get n).2 }) := by
  by_cases hc : q.isClosed = true
  · exact .inl (Outbound.take_of_closed hc n)
  by_cases hr : q.isReady = true
  · exact .inr (.inr (Outbound.take_of_ready (Bool.eq_false_of_not_eq_true hc) hr n))
  · exact .inr (.inl (Outbound.take_of_not_ready (Bool.eq_false_of_not_eq_true hr) n))

/-- a look of a taker: nothing happens, or the taker learns that the queue is closed, or it gets bytes -/
theorem step_look (h : QueueHistory) (i : Nat) :
    h.step (.look i) = h ∨ ∃ n,
      h.step (.look i) = ⟨h.queue, h.waiting.eraseIdx i, h.taken ++ [.closed]⟩ ∨
      h.step (.look i) = ⟨{ h.queue with ring := (h.queue.ring.get n).2 }, h.waiting.eraseIdx i,
        h.taken ++ [.bytes (h.queue.ring.get n).1]⟩ := by
  cases hi : h.waiting[i]? with
  | none => exact .inl (by simp only [step, hi])
  | some n =>
    rcases take_cases h.queue n with ht | ht | ht
    · exact .inr ⟨n, .inl (by simp only [step, hi, ht])⟩
    · exact .inl (by simp only [step, hi, ht])
    · exact .inr ⟨n, .inr (by simp only [step, hi, ht])⟩

theorem wf_step (hw : h.Wf) (e : QueueEvent) : (h.step e).Wf := by
  cases e with
  | push bs => exact Ring.wf_put hw bs
  | look i =>
    rcases step_look h i with hs | ⟨n, hs | hs⟩ <;> rw [hs]
    · exact hw
    · exact hw
    · exact Ring.wf_get hw n
  | setConnected | close | arrive => exact hw

/-- **No byte is lost, doubled or moved** by an event for which there is room. -/
theorem stream_step (hw : h.Wf) (e : QueueEvent) (hroom : h.HasRoom e) :
    (h.step e).stream = h.stream ++ pushedBy e := by
  cases e with
  | push bs =>
    simp only [stream, List.append_assoc]
    exact congrArg _ (Ring.toList_put_of_room hw hroom)
  | look i =>
    have hnone : pushedBy (.look i) = [] := rfl
    rw [hnone, List.append_nil]
    rcases step_look h i with hs | ⟨n, hs | hs⟩ <;> rw [hs]
    · simp [stream, popped, Taken.bytes?]
    · simp only [stream, popped, List.filterMap_append, List.flatten_append, List.append_assoc]
      congr 1
      simp only [List.filterMap_cons, List.filterMap_nil, Taken.bytes?, List.flatten_cons, List.flatten_nil,
        List.append_nil]
      rw [Ring.get_fst hw, Ring.toList_get hw, List.take_append_drop]
  | setConnected | close | arrive => exact (List.append_nil _).symm

end QueueHistory

end RemoteShutter
