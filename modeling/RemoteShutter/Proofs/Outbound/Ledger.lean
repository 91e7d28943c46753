/-
What becomes of the bytes that are pushed through a ring.

Bytes are told apart by their positions in the stream of all that was ever pushed: two bytes of equal value are two
bytes. A `Ledger` notes the positions that were popped and those that a push has dropped; what is at none of the two
still waits in the ring.
- `Ledger.Holds`: the ring has the end of the stream. In front of it every position was either popped or dropped, and
  not both. Popped positions are in the order of the stream.
- `holds_push`, `holds_pop`: a push drops the oldest bytes that do not fit, and a pop takes the oldest ones.
- `bytes_popped_append`: what was popped, with what waits, is the stream without what was dropped.
-/
import Mathlib.Data.List.Sort
import Mathlib.Tactic
import RemoteShutter.Proofs.Ring.Contents

namespace RemoteShutter

open scoped List

/-! ## Positions in a stream -/

/-- the bytes at some positions of a stream -/
def pick (stream : Bytes) (positions : List Nat) : Bytes :=
  positions.filterMap (stream[·]?)

@[simp] theorem pick_nil (stream : Bytes) : pick stream [] = [] := rfl

theorem pick_append (stream : Bytes) (ps qs : List Nat) : pick stream (ps ++ qs) = pick stream ps ++ pick stream qs :=
  List.filterMap_append

/-- neighbouring positions give a piece of the stream -/
theorem pick_range' (stream : Bytes) (start n : Nat) :
    pick stream (List.range' start n) = (stream.drop start).take n := by
  induction n generalizing start with
  | zero => simp
  | succ n ih =>
    rw [List.range'_succ, pick, List.filterMap_cons]
    cases hb : stream[start]? with
    | none =>
      rw [List.getElem?_eq_none_iff] at hb
      have hrest := ih (start + 1)
      rw [List.drop_eq_nil_of_le (by omega), List.take_nil] at hrest
      rw [List.drop_eq_nil_of_le hb, List.take_nil]
      exact hrest
    | some b =>
      obtain ⟨hlt, rfl⟩ := List.getElem?_eq_some_iff.1 hb
      rw [List.drop_eq_getElem_cons hlt, List.take_succ_cons, ← ih]
      rfl

/-- what is pushed later does not move the bytes in front of it -/
theorem pick_append_left {stream : Bytes} {ps : List Nat} (h : ∀ p ∈ ps, p < stream.length) (bs : Bytes) :
    pick (stream ++ bs) ps = pick stream ps :=
  List.filterMap_congr fun p hp => List.getElem?_append_left (h p hp)

theorem pick_take {stream : Bytes} {ps : List Nat} (h : ∀ p ∈ ps, p < stream.length) (k : Nat) :
    pick stream (ps.take k) = (pick stream ps).take k := by
  induction ps generalizing k with
  | nil => simp
  | cons p ps ih =>
    rw [List.forall_mem_cons] at h
    cases k with
    | zero => rfl
    | succ k =>
      have hp : stream[p]? = some stream[p] := List.getElem?_eq_getElem h.1
      simp only [pick, List.take_succ_cons, List.filterMap_cons, hp]
      exact congrArg _ (ih h.2 k)

/-- positions in order are some of all -/
theorem sublist_range {ps : List Nat} {n : Nat} (hs : ps.Pairwise (· < ·)) (h : ∀ p ∈ ps, p < n) :
    ps <+ List.range n := by
  have heq : ps = (List.range n).filter (· ∈ ps) := by
    refine List.Pairwise.eq_of_mem_iff hs (List.pairwise_lt_range.filter _) fun p => ?_
    rw [List.mem_filter, List.mem_range, decide_eq_true_eq]
    exact ⟨fun hp => ⟨h p hp, hp⟩, And.right⟩
  rw [heq]
  exact List.filter_sublist

/-- **Positions in order give a part of the stream**, each byte at most once. -/
theorem pick_sublist {stream : Bytes} {ps : List Nat} (hs : ps.Pairwise (· < ·)) (h : ∀ p ∈ ps, p < stream.length) :
    pick stream ps <+ stream := by
  have hall : pick stream (List.range stream.length) = stream := by
    rw [List.range_eq_range', pick_range', List.drop_zero, List.take_length]
  conv_rhs => rw [← hall]
  exact (sublist_range hs h).filterMap _

/-! ## The ledger -/

structure Ledger where
  /-- all that was pushed -/
  pushed : Bytes := []
  /-- the positions of what was popped, in the order of the pops -/
  popped : List Nat := []
  /-- the positions of what was dropped to make room -/
  dropped : List Nat := []

namespace Ledger

/-- where the bytes begin that the ring holds -/
def front (a : Ledger) (r : Ring) : Nat :=
  a.pushed.length - r.length

/-- the positions of the bytes that the ring holds -/
def waiting (a : Ledger) (r : Ring) : List Nat :=
  List.range' (a.front r) r.length

/-- `bs` are pushed into the ring `r`: as many of the oldest bytes are dropped as there are too many -/
def push (a : Ledger) (r : Ring) (bs : Bytes) : Ledger :=
  { a with
    pushed := a.pushed ++ bs
    dropped := a.dropped ++ List.range' (a.front r) (r.length + bs.length - r.capacity) }

/-- the positions that a pop of at most `n` bytes takes -/
def next (a : Ledger) (r : Ring) (n : Nat) : List Nat :=
  List.range' (a.front r) (min n r.length)

/-- at most `n` bytes are popped from the ring `r` -/
def pop (a : Ledger) (r : Ring) (n : Nat) : Ledger :=
  { a with popped := a.popped ++ a.next r n }

@[simp] theorem pushed_push (a : Ledger) (r : Ring) (bs : Bytes) : (a.push r bs).pushed = a.pushed ++ bs := rfl

@[simp] theorem pushed_pop (a : Ledger) (r : Ring) (n : Nat) : (a.pop r n).pushed = a.pushed := rfl

structure Holds (a : Ledger) (r : Ring) : Prop where
  wf : r.Wf
  length_le : r.length ≤ a.pushed.length
  /-- the ring has the end of the stream -/
  waiting : r.toList = a.pushed.drop (a.front r)
  ordered : a.popped.Pairwise (· < ·)
  /-- what the ring no longer has was popped or dropped -/
  gone : ∀ p, p < a.front r ↔ p ∈ a.popped ∨ p ∈ a.dropped
  apart : ∀ p ∈ a.popped, p ∉ a.dropped

variable {a : Ledger} {r : Ring}

theorem holds_new {r : Ring} (hw : r.Wf) (he : r.isEmpty = true) : Holds {} r := by
  have hlen : r.length = 0 := (Ring.length_eq_zero_iff hw).2 he
  have hnil : r.toList = [] := (Ring.toList_eq_nil_iff hw).2 he
  exact ⟨hw, by simp [hlen], by simp [hnil], .nil, fun p => by simp [front], fun p hp => absurd hp List.not_mem_nil⟩

/-- **A push drops the oldest bytes that do not fit**, and no others. -/
theorem toList_push (h : Holds a r) (bs : Bytes) :
    (r.put bs).toList = (r.toList ++ bs).drop (r.length + bs.length - r.capacity) := by
  rw [Ring.toList_put h.wf, List.rtake, List.length_append, Ring.length_toList h.wf]

theorem length_put (h : Holds a r) (bs : Bytes) :
    (r.put bs).length = r.length + bs.length - (r.length + bs.length - r.capacity) := by
  rw [← Ring.length_toList (Ring.wf_put h.wf bs), toList_push h, List.length_drop, List.length_append,
    Ring.length_toList h.wf]

theorem Holds.front_add_length (h : Holds a r) : a.front r + r.length = a.pushed.length :=
  Nat.sub_add_cancel h.length_le

/-- the front moves on by what is dropped -/
theorem front_push (h : Holds a r) (bs : Bytes) :
    (a.push r bs).front (r.put bs) = a.front r + (r.length + bs.length - r.capacity) := by
  have hfront := h.front_add_length
  have hcap := Ring.length_le_capacity h.wf
  rw [front, length_put h, pushed_push, List.length_append]
  omega

theorem holds_push (h : Holds a r) (bs : Bytes) : Holds (a.push r bs) (r.put bs) := by
  have hfront := h.front_add_length
  have hnew := front_push h bs
  refine ⟨Ring.wf_put h.wf bs, ?_, ?_, h.ordered, fun p => ?_, fun p hp => ?_⟩
  · rw [length_put h, pushed_push, List.length_append]
    omega
  · rw [hnew, toList_push h, h.waiting, pushed_push, ← List.drop_append_of_le_length (by omega), List.drop_drop]
  · rw [hnew]
    simp only [push, List.mem_append, List.mem_range'_1, ← or_assoc, ← h.gone p]
    omega
  · have hlt : p < a.front r := (h.gone p).2 (.inl hp)
    simp only [push, List.mem_append, List.mem_range'_1, not_or]
    exact ⟨h.apart p hp, by omega⟩

theorem front_pop (h : Holds a r) (n : Nat) : (a.pop r n).front (r.get n).2 = a.front r + min n r.length := by
  have hfront := h.front_add_length
  rw [front, ← Ring.length_toList (Ring.wf_get h.wf n), Ring.toList_get h.wf, List.length_drop,
    Ring.length_toList h.wf, pushed_pop]
  omega

/-- **A pop takes the oldest bytes.** -/
theorem pick_next (h : Holds a r) (n : Nat) : pick a.pushed (a.next r n) = (r.get n).1 := by
  rw [next, pick_range', Ring.get_fst h.wf, h.waiting, List.take_eq_take_min (i := n), List.length_drop]
  congr 2
  have hfront := h.front_add_length
  omega

theorem holds_pop (h : Holds a r) (n : Nat) : Holds (a.pop r n) (r.get n).2 := by
  have hfront := h.front_add_length
  have hnew := front_pop h n
  have hin : ∀ p, p ∈ a.next r n ↔ a.front r ≤ p ∧ p < a.front r + min n r.length :=
    fun p => List.mem_range'_1
  have hlt : ∀ p, p ∈ a.popped ∨ p ∈ a.dropped → p < a.front r := fun p => (h.gone p).2
  refine ⟨Ring.wf_get h.wf n, ?_, ?_, ?_, fun p => ?_, fun p hp => ?_⟩
  · rw [← Ring.length_toList (Ring.wf_get h.wf n), Ring.toList_get h.wf, List.length_drop, Ring.length_toList h.wf,
      pushed_pop]
    omega
  · rw [hnew, Ring.toList_get h.wf, h.waiting, List.drop_eq_drop_min, List.drop_drop, pushed_pop, List.length_drop]
    congr 2
    omega
  · refine List.pairwise_append.2 ⟨h.ordered, List.pairwise_lt_range' _, fun p hp q hq => ?_⟩
    exact Nat.lt_of_lt_of_le (hlt p (.inl hp)) ((hin q).1 hq).1
  · rw [hnew, pop, List.mem_append, hin, or_right_comm, ← h.gone p]
    omega
  · rcases List.mem_append.1 hp with hp | hp
    · exact h.apart p hp
    · intro hd
      exact absurd (hlt p (.inr hd)) (by have := ((hin p).1 hp).1; omega)

theorem Holds.lt_of_mem_popped (h : Holds a r) {p : Nat} (hp : p ∈ a.popped) : p < a.front r :=
  (h.gone p).2 (.inl hp)

/-- a popped position lies within the stream -/
theorem Holds.lt_length (h : Holds a r) {p : Nat} (hp : p ∈ a.popped) : p < a.pushed.length := by
  have := h.lt_of_mem_popped hp
  have := h.front_add_length
  omega

/-- what was popped and what waits are the positions that no push has dropped -/
theorem popped_append_waiting (h : Holds a r) :
    a.popped ++ a.waiting r = (List.range a.pushed.length).filter (· ∉ a.dropped) := by
  have hfront := h.front_add_length
  refine List.Pairwise.eq_of_mem_iff (r := (· < ·)) ?_ (List.pairwise_lt_range.filter _) fun p => ?_
  · refine List.pairwise_append.2 ⟨h.ordered, List.pairwise_lt_range' _, fun p hp q hq => ?_⟩
    exact Nat.lt_of_lt_of_le (h.lt_of_mem_popped hp) (List.mem_range'_1.1 hq).1
  · have hgone := h.gone p
    simp only [List.mem_append, Ledger.waiting, List.mem_range'_1, List.mem_filter, List.mem_range, decide_eq_true_eq]
    constructor
    · rintro (hp | hp)
      · exact ⟨h.lt_length hp, h.apart p hp⟩
      · exact ⟨by omega, fun hd => by have := hgone.2 (.inr hd); omega⟩
    · rintro ⟨hlt, hd⟩
      rcases Nat.lt_or_ge p (a.front r) with hp | hp
      · exact .inl ((hgone.1 hp).resolve_right hd)
      · exact .inr ⟨hp, by omega⟩

/-- **What was popped, with what waits, is the stream without what was dropped.** -/
theorem bytes_popped_append (h : Holds a r) :
    pick a.pushed a.popped ++ r.toList = pick a.pushed ((List.range a.pushed.length).filter (· ∉ a.dropped)) := by
  have hfront := h.front_add_length
  rw [← popped_append_waiting h, pick_append, Ledger.waiting, pick_range', h.waiting,
    List.take_of_length_le (by rw [List.length_drop]; omega)]

end Ledger

end RemoteShutter
