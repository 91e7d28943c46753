/-
The bytes a ring holds, and what each operation does to them.

A ring reads and writes its arena in two pieces, up to the end and from the beginning. A `window` is the same stretch
read byte by byte with wrapping indices; windows only add up and move by whole turns, so they carry all of the
arithmetic below.
- `toList_eq_window`: a well-formed ring holds the window of `length` bytes that starts at `tail`.
- `toList_put`: `put` keeps the last `capacity` bytes of what was held and what is added.
- `get_fst`, `toList_get`: `get` splits off the first bytes.
- `wf_put`, `wf_get`, `wf_clear`: the cursors stay within the arena, and an empty ring has equal cursors. The last point
  matters: `put` does not move `tail` of an empty ring, and finds its bytes at `head`.
-/
import Mathlib.Data.List.DropRight
import Mathlib.Tactic
import RemoteShutter.Link.Ring

namespace RemoteShutter.Ring

/-! ## Windows of the arena -/

/-- `n` bytes of the arena from `start` on, going round its end -/
def window (arena : Array UInt8) (start n : Nat) : Bytes :=
  (List.range n).map fun i => arena.getD ((start + i) % arena.size) 0

@[simp] theorem length_window (arena : Array UInt8) (start n : Nat) : (window arena start n).length = n := by
  simp [window]

@[simp] theorem window_zero (arena : Array UInt8) (start : Nat) : window arena start 0 = [] := rfl

/-- a window moved by whole turns is the same window -/
theorem window_mod (arena : Array UInt8) (start n : Nat) :
    window arena (start % arena.size) n = window arena start n := by
  simp only [window, Nat.mod_add_mod]

theorem window_add (arena : Array UInt8) (start m n : Nat) :
    window arena start (m + n) = window arena start m ++ window arena (start + m) n := by
  simp only [window, List.range_add, List.map_append, List.map_map, Function.comp_def, Nat.add_assoc]

theorem take_window (arena : Array UInt8) (start : Nat) {m n : Nat} (h : m ≤ n) :
    (window arena start n).take m = window arena start m := by
  obtain ⟨k, rfl⟩ := Nat.exists_eq_add_of_le h
  rw [window_add, List.take_left' (length_window _ _ _)]

theorem drop_window (arena : Array UInt8) (start : Nat) {m n : Nat} (h : m ≤ n) :
    (window arena start n).drop m = window arena (start + m) (n - m) := by
  obtain ⟨k, rfl⟩ := Nat.exists_eq_add_of_le h
  rw [window_add, List.drop_left' (length_window _ _ _), Nat.add_sub_cancel_left]

/-- a piece that does not reach the end of the arena is a window -/
theorem slice_eq_window (arena : Array UInt8) {start n : Nat} (h : start + n ≤ arena.size) :
    slice arena ⟨start, n⟩ = window arena start n := by
  apply List.ext_getElem
  · simp [slice]; omega
  · intro i hi _
    have hin : i < n := by simp [slice] at hi; omega
    have hmod : (start + i) % arena.size = start + i := Nat.mod_eq_of_lt (by omega)
    simp [slice, window, hmod, show start + i < arena.size by omega]

/-- the two pieces of a stretch of the arena, together, are a window -/
theorem spans_eq_window (r : Ring) {start n : Nat} (hs : start < r.capacity) (hn : n ≤ r.capacity) :
    slice r.arena (r.spans start n).1 ++ slice r.arena (r.spans start n).2 = window r.arena start n := by
  simp only [spans, capacity] at *
  rcases Nat.le_total n (r.arena.size - start) with h | h
  · rw [Nat.min_eq_left h, Nat.sub_self, slice_eq_window _ (by omega), slice_eq_window _ (by omega), window_zero,
      List.append_nil]
  · rw [Nat.min_eq_right h, slice_eq_window _ (by omega), slice_eq_window _ (by omega)]
    have hturn : window r.arena 0 (n - (r.arena.size - start)) =
        window r.arena (start + (r.arena.size - start)) (n - (r.arena.size - start)) := by
      rw [← window_mod r.arena (start + (r.arena.size - start)), Nat.add_sub_cancel' hs.le, Nat.mod_self]
    rw [hturn, ← window_add, Nat.add_sub_cancel' h]

/-! ## Writing around the end -/

@[simp] theorem size_write (arena : Array UInt8) (i : Nat) (bs : Bytes) : (write arena i bs).size = arena.size := by
  induction bs generalizing arena i with
  | nil => rfl
  | cons b bs ih => rw [write, ih, Array.size_setIfInBounds]

theorem getD_write (arena : Array UInt8) (i : Nat) (bs : Bytes) {j : Nat} (hj : j < arena.size) :
    (write arena i bs).getD j 0 = if i ≤ j ∧ j < i + bs.length then bs.getD (j - i) 0 else arena.getD j 0 := by
  induction bs generalizing arena i with
  | nil => simp [write]
  | cons b bs ih =>
    rw [write, ih _ _ (by simpa using hj)]
    rcases Nat.lt_trichotomy j i with h | rfl | h
    · simp [show ¬ i ≤ j by omega, show ¬ i + 1 ≤ j by omega, show i ≠ j by omega]
    · simp [hj]
    · obtain ⟨k, rfl⟩ := Nat.exists_eq_add_of_le h
      have hk : i + 1 + k - i = k + 1 := by omega
      have hk' : i + 1 + k - (i + 1) = k := by omega
      simp [hk, hk', show i ≠ i + 1 + k by omega, show i ≤ i + 1 + k by omega,
        show i + 1 + k < i + (bs.length + 1) ↔ k < bs.length by omega]

/-- `data` written from `head` on, going round the end of the arena -/
def lay (arena : Array UInt8) (head : Nat) (data : Bytes) : Array UInt8 :=
  let first := min data.length (arena.size - head)
  write (write arena head (data.take first)) 0 (data.drop first)

@[simp] theorem size_lay (arena : Array UInt8) (head : Nat) (data : Bytes) :
    (lay arena head data).size = arena.size := by
  simp [lay]

/-- the byte `k` places behind `head` after a write: a new one where there are so many, the old one otherwise -/
theorem getD_lay (arena : Array UInt8) {head k : Nat} {data : Bytes} (hh : head < arena.size)
    (hd : data.length ≤ arena.size) (hk : k < arena.size) :
    (lay arena head data).getD ((head + k) % arena.size) 0 =
      if k < data.length then data.getD k 0 else arena.getD ((head + k) % arena.size) 0 := by
  have hj : (head + k) % arena.size < arena.size := Nat.mod_lt _ (by omega)
  unfold lay
  rw [getD_write _ _ _ (by simpa using hj), getD_write _ _ _ hj, List.length_take, List.length_drop]
  rcases Nat.lt_or_ge (head + k) arena.size with h | h
  · -- in front of the end: the first piece
    rw [Nat.mod_eq_of_lt h, if_neg (by omega), Nat.add_sub_cancel_left]
    by_cases hk' : k < data.length
    · rw [if_pos (by omega), if_pos hk']
      simp [hk', show k < min data.length (arena.size - head) by omega]
    · rw [if_neg (by omega), if_neg hk']
  · -- behind it: the second piece
    have hmod : (head + k) % arena.size = head + k - arena.size := by
      rw [Nat.mod_eq_sub_mod h, Nat.mod_eq_of_lt (by omega)]
    rw [hmod]
    by_cases hk' : k < data.length
    · rw [if_pos (by omega), if_pos hk']
      simp [show min data.length (arena.size - head) + (head + k - arena.size) = k by omega]
    · rw [if_neg (by omega), if_neg (by omega), if_neg hk']

theorem window_lay_new (arena : Array UInt8) {head : Nat} {data : Bytes} (hh : head < arena.size)
    (hd : data.length ≤ arena.size) : window (lay arena head data) head data.length = data := by
  apply List.ext_getElem (by simp)
  intro k _ hk
  have hb := getD_lay arena hh hd (by omega : k < arena.size)
  rw [if_pos hk] at hb
  simpa [window, hk] using hb

/-- bytes that end at `head` and leave room for the new ones stay as they are -/
theorem window_lay_old (arena : Array UInt8) {head start m : Nat} {data : Bytes} (hh : head < arena.size)
    (hm : m + data.length ≤ arena.size) (hs : (start + m) % arena.size = head) :
    window (lay arena head data) start m = window arena start m := by
  apply List.ext_getElem (by simp)
  intro i hi _
  have hi : i < m := by simpa using hi
  have hd : data.length ≤ arena.size := by omega
  have hk : arena.size - m + i < arena.size := by omega
  -- counted from `head`, the byte stands a whole turn less `m - i` places further on
  have hturn : (head + (arena.size - m + i)) % arena.size = (start + i) % arena.size := by
    rw [← hs, Nat.mod_add_mod, show start + m + (arena.size - m + i) = start + i + arena.size by omega,
      Nat.add_mod_right]
  have hb := getD_lay arena hh hd hk
  rw [if_neg (by omega), hturn] at hb
  simpa [window] using hb

/-! ## Well-formed rings -/

/-- both cursors lie in the arena, and agree in an empty ring -/
structure Wf (r : Ring) : Prop where
  head_lt : r.head < r.capacity
  tail_lt : r.tail < r.capacity
  tail_eq : r.isEmpty = true → r.tail = r.head

theorem wf_ofCapacity? {c : Nat} {r : Ring} (h : ofCapacity? c = some r) :
    Wf r ∧ r.capacity = c ∧ r.isEmpty = true := by
  unfold ofCapacity? at h
  split_ifs at h with hc
  obtain rfl := Option.some.inj h
  have hpos : 0 < c := by omega
  refine ⟨⟨?_, ?_, fun _ => rfl⟩, ?_, rfl⟩ <;> simp [capacity, hpos]

theorem length_le_capacity {r : Ring} (h : Wf r) : r.length ≤ r.capacity := by
  have := h.head_lt
  unfold length
  split_ifs <;> omega

theorem length_eq_zero_iff {r : Ring} (h : Wf r) : r.length = 0 ↔ r.isEmpty = true := by
  have := h.tail_lt
  unfold length
  split_ifs with he ht
  · simp [he]
  · simp only [he, Bool.false_eq_true, iff_false]; omega
  · simp only [he, Bool.false_eq_true, iff_false]; omega

/-- the bytes held end where the next one goes -/
theorem tail_add_length {r : Ring} (h : Wf r) : (r.tail + r.length) % r.capacity = r.head := by
  have hh := h.head_lt
  have ht := h.tail_lt
  unfold length
  split_ifs with he hlt
  · rw [Nat.add_zero, h.tail_eq he, Nat.mod_eq_of_lt hh]
  · rw [Nat.add_sub_cancel' hlt.le, Nat.mod_eq_of_lt hh]
  · rw [show r.tail + (r.head + r.capacity - r.tail) = r.head + r.capacity by omega, Nat.add_mod_right,
      Nat.mod_eq_of_lt hh]

/-- of a ring that is not empty the cursors tell the length -/
theorem length_eq_of_tail_add {r : Ring} (h : Wf r) (he : r.isEmpty = false) {n : Nat} (h0 : 0 < n)
    (hn : n ≤ r.capacity) (heq : (r.tail + n) % r.capacity = r.head) : r.length = n := by
  have ht := h.tail_lt
  unfold length
  rw [if_neg (by simp [he])]
  rcases Nat.lt_or_ge (r.tail + n) r.capacity with hlt | hge
  · rw [Nat.mod_eq_of_lt hlt] at heq
    rw [if_pos (by omega)]; omega
  · rw [Nat.mod_eq_sub_mod hge, Nat.mod_eq_of_lt (by omega)] at heq
    rw [if_neg (by omega)]; omega

theorem toList_eq_window {r : Ring} (h : Wf r) : r.toList = window r.arena r.tail r.length :=
  spans_eq_window r h.tail_lt (length_le_capacity h)

theorem length_toList {r : Ring} (h : Wf r) : r.toList.length = r.length := by
  rw [toList_eq_window h, length_window]

theorem toList_eq_nil_iff {r : Ring} (h : Wf r) : r.toList = [] ↔ r.isEmpty = true := by
  rw [← List.length_eq_zero_iff, length_toList h, length_eq_zero_iff h]

/-! ## Appending -/

/-- the ring after bytes that fit into the arena have been written behind the newest one -/
def append (r : Ring) (new : Bytes) : Ring :=
  let head := (r.head + new.length) % r.capacity
  ⟨lay r.arena r.head new, head, if r.capacity - r.length < new.length then head else r.tail, false⟩

/-- of data longer than the arena only the last bytes are written -/
theorem put_eq_append (r : Ring) {data : Bytes} (hd : data ≠ []) :
    r.put data = r.append (data.rtake r.capacity) := by
  simp [put, append, lay, spans, capacity, List.rtake, hd]

theorem put_nil (r : Ring) : r.put [] = r := rfl

/-- how many of the bytes held are kept when `n` more come -/
def kept (r : Ring) (n : Nat) : Nat :=
  min r.length (r.capacity - n)

/-- the oldest byte kept is the new `tail` -/
theorem tail_append {r : Ring} (h : Wf r) {new : Bytes} (hn : new.length ≤ r.capacity) :
    (r.append new).tail = (r.tail + (r.length - r.kept new.length)) % r.capacity := by
  have hlen := length_le_capacity h
  simp only [append, kept]
  split_ifs with hover
  · rw [Nat.min_eq_right (by omega), ← tail_add_length h, Nat.mod_add_mod,
      show r.tail + r.length + new.length = r.tail + (r.length - (r.capacity - new.length)) + r.capacity by omega,
      Nat.add_mod_right]
  · rw [Nat.min_eq_left (by omega), Nat.sub_self, Nat.add_zero, Nat.mod_eq_of_lt h.tail_lt]

@[simp] theorem capacity_append (r : Ring) (new : Bytes) : (r.append new).capacity = r.capacity := by
  simp [append, capacity]

theorem wf_append {r : Ring} (h : Wf r) {new : Bytes} (hn : new.length ≤ r.capacity) : Wf (r.append new) := by
  have hpos : 0 < r.capacity := Nat.zero_lt_of_lt h.head_lt
  refine ⟨?_, ?_, fun he => by simp [append] at he⟩
  · rw [capacity_append]; exact Nat.mod_lt _ hpos
  · rw [capacity_append, tail_append h hn]; exact Nat.mod_lt _ hpos

theorem length_append {r : Ring} (h : Wf r) {new : Bytes} (h0 : new ≠ []) (hn : new.length ≤ r.capacity) :
    (r.append new).length = r.kept new.length + new.length := by
  have hpos : 0 < new.length := List.length_pos_iff.2 h0
  have hle : r.kept new.length ≤ r.length := Nat.min_le_left _ _
  apply length_eq_of_tail_add (wf_append h hn) rfl (by omega)
  · rw [capacity_append, kept]; omega
  · rw [capacity_append, tail_append h hn, Nat.mod_add_mod,
      show r.tail + (r.length - r.kept new.length) + (r.kept new.length + new.length) =
        r.tail + r.length + new.length by omega,
      ← Nat.mod_add_mod, tail_add_length h]
    rfl

theorem toList_append {r : Ring} (h : Wf r) {new : Bytes} (h0 : new ≠ []) (hn : new.length ≤ r.capacity) :
    (r.append new).toList = r.toList.drop (r.length - r.kept new.length) ++ new := by
  set k := r.kept new.length with hk
  have hkl : k ≤ r.length := Nat.min_le_left _ _
  have hkc : k + new.length ≤ r.capacity := by rw [hk, kept]; omega
  have hstart : r.tail + (r.length - k) + k = r.tail + r.length := by omega
  have hold : window (r.append new).arena (r.tail + (r.length - k)) k =
      window r.arena (r.tail + (r.length - k)) k :=
    window_lay_old r.arena h.head_lt hkc (by rw [hstart]; exact tail_add_length h)
  have hnew : window (r.append new).arena (r.tail + r.length) new.length = new := by
    rw [← window_mod, show (r.append new).arena.size = r.capacity from capacity_append r new, tail_add_length h]
    exact window_lay_new r.arena h.head_lt hn
  calc (r.append new).toList
      = window (r.append new).arena (r.tail + (r.length - k)) (k + new.length) := by
        rw [toList_eq_window (wf_append h hn), length_append h h0 hn, tail_append h hn, ← hk,
          ← capacity_append r new]
        exact window_mod _ _ _
    _ = window r.arena (r.tail + (r.length - k)) k ++ new := by rw [window_add, hstart, hold, hnew]
    _ = r.toList.drop (r.length - k) ++ new := by
        rw [toList_eq_window h, drop_window _ _ (Nat.sub_le _ _), Nat.sub_sub_self hkl]

@[simp] theorem capacity_put (r : Ring) (data : Bytes) : (r.put data).capacity = r.capacity := by
  rcases eq_or_ne data [] with rfl | hd
  · rfl
  · rw [put_eq_append r hd, capacity_append]

theorem length_rtake_le (data : Bytes) (c : Nat) : (data.rtake c).length ≤ c := by
  rw [List.rtake_eq_reverse_take_reverse, List.length_reverse, List.length_take]
  exact Nat.min_le_left _ _

theorem wf_put {r : Ring} (h : Wf r) (data : Bytes) : Wf (r.put data) := by
  rcases eq_or_ne data [] with rfl | hd
  · exact h
  · rw [put_eq_append r hd]
    exact wf_append h (length_rtake_le data _)

/-- **`put` keeps the last bytes** of what was held and what is added, as many as the ring has room for. -/
theorem toList_put {r : Ring} (h : Wf r) (data : Bytes) :
    (r.put data).toList = (r.toList ++ data).rtake r.capacity := by
  have hlen := length_le_capacity h
  rcases eq_or_ne data [] with rfl | hd
  · rw [put_nil, List.append_nil, List.rtake, length_toList h, Nat.sub_eq_zero_of_le hlen, List.drop_zero]
  have hpos : 0 < data.length := List.length_pos_iff.2 hd
  have hcap : 0 < r.capacity := Nat.zero_lt_of_lt h.head_lt
  have hnew : (data.rtake r.capacity).length = min data.length r.capacity := by
    rw [List.rtake, List.length_drop]; omega
  have hne : data.rtake r.capacity ≠ [] := by
    rw [← List.length_pos_iff, hnew]; omega
  rw [put_eq_append r hd, toList_append h hne (by omega), hnew, kept, List.rtake, List.rtake, List.length_append,
    length_toList h, List.drop_append, length_toList h]
  congr 1
  · rcases Nat.le_total data.length r.capacity with hle | hle
    · congr 1; omega
    · rw [List.drop_of_length_le (by rw [length_toList h]; omega),
        List.drop_of_length_le (by rw [length_toList h]; omega)]
  · congr 1; omega

/-! ## Taking away -/

/-- the ring without its `k` oldest bytes -/
def skip (r : Ring) (k : Nat) : Ring :=
  { r with tail := (r.tail + k) % r.capacity, isEmpty := r.isEmpty || k = r.length }

theorem get_eq {r : Ring} (h : Wf r) (n : Nat) :
    r.get n = (r.toList.take n, if min n r.length = 0 then r else r.skip (min n r.length)) := by
  have hle : min n r.length ≤ r.length := Nat.min_le_right _ _
  have htake : r.toList.take n = r.toList.take (min n r.length) := by
    rw [List.take_eq_take_min, length_toList h]
  rw [htake]
  simp only [get]
  split_ifs with h0
  · rw [h0, List.take_zero]
  · rw [toList_eq_window h, take_window _ _ hle,
      ← spans_eq_window r h.tail_lt (Nat.le_trans hle (length_le_capacity h))]
    rfl

theorem wf_skip {r : Ring} (h : Wf r) {k : Nat} (hk : k ≤ r.length) : Wf (r.skip k) := by
  refine ⟨h.head_lt, Nat.mod_lt _ (Nat.zero_lt_of_lt h.head_lt), fun he => ?_⟩
  have hall : k = r.length := by
    rcases Bool.or_eq_true_iff.1 he with he | he
    · have := (length_eq_zero_iff h).2 he; omega
    · exact of_decide_eq_true he
  simp only [skip, hall]
  exact tail_add_length h

theorem length_skip {r : Ring} (h : Wf r) {k : Nat} (hk : k ≤ r.length) : (r.skip k).length = r.length - k := by
  rcases Nat.eq_or_lt_of_le hk with rfl | hlt
  · rw [Nat.sub_self, length_eq_zero_iff (wf_skip h le_rfl)]
    simp [skip]
  · have hne : r.isEmpty = false := by
      rw [← Bool.not_eq_true, ← length_eq_zero_iff h]; omega
    have hlen := length_le_capacity h
    apply length_eq_of_tail_add (wf_skip h hk)
    · simp [skip, hne, hlt.ne]
    · omega
    · show r.length - k ≤ r.capacity; omega
    · show ((r.tail + k) % r.capacity + (r.length - k)) % r.capacity = r.head
      rw [Nat.mod_add_mod, show r.tail + k + (r.length - k) = r.tail + r.length by omega, tail_add_length h]

theorem toList_skip {r : Ring} (h : Wf r) {k : Nat} (hk : k ≤ r.length) : (r.skip k).toList = r.toList.drop k := by
  rw [toList_eq_window (wf_skip h hk), length_skip h hk, toList_eq_window h, drop_window _ _ hk]
  exact window_mod _ _ _

/-- **`get` splits off the first bytes**, as many as asked for and there are. -/
theorem get_fst {r : Ring} (h : Wf r) (n : Nat) : (r.get n).1 = r.toList.take n := by
  rw [get_eq h]

theorem toList_get {r : Ring} (h : Wf r) (n : Nat) : (r.get n).2.toList = r.toList.drop n := by
  have hdrop : r.toList.drop n = r.toList.drop (min n r.length) := by
    rw [List.drop_eq_drop_min, length_toList h]
  rw [get_eq h, hdrop]
  dsimp only
  split_ifs with h0
  · rw [h0, List.drop_zero]
  · exact toList_skip h (Nat.min_le_right _ _)

theorem wf_get {r : Ring} (h : Wf r) (n : Nat) : Wf (r.get n).2 := by
  rw [get_eq h]
  dsimp only
  split_ifs
  · exact h
  · exact wf_skip h (Nat.min_le_right _ _)

theorem capacity_get {r : Ring} (h : Wf r) (n : Nat) : (r.get n).2.capacity = r.capacity := by
  rw [get_eq h]
  dsimp only
  split_ifs <;> rfl

theorem wf_clear {r : Ring} (h : Wf r) : Wf r.clear :=
  ⟨h.head_lt, h.head_lt, fun _ => rfl⟩

theorem toList_clear {r : Ring} (h : Wf r) : r.clear.toList = [] := by
  rw [toList_eq_nil_iff (wf_clear h)]
  rfl

end RemoteShutter.Ring
