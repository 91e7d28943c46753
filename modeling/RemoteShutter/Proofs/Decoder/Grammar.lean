/-
The streams a decoder reads, as a grammar.

A stream is garbage, then any number of frames with garbage behind each of them, then nothing or the beginning of a
frame.
- `Segments`: a stream cut into these parts. The parts are garbage, frames and beginnings by construction.
- `exists_segments`: every byte string can be cut so, whatever it is.
- `segments_unique`: and only in one way. Garbage ends where a magic pair, a lone first magic byte or nothing stands
  (`Begins`), a frame ends where its header says, and no frame is the beginning of another one.
- `accepts_stream_grammar`: a fresh decoder gives the frames of the cut, in order, and is idle iff nothing is left over.
-/
import Mathlib.Tactic
import RemoteShutter.Proofs.Decoder.Idle

namespace RemoteShutter

/-! ## Streams in parts -/

/-- a stream in parts: garbage, frames with the garbage behind them, and what is left over -/
@[ext] structure Segments where
  first : Bytes
  tail : List (Frame × Bytes)
  rest : Bytes
  first_garbage : Garbage first
  tail_ok : ∀ p ∈ tail, p.1.Fits ∧ Garbage p.2
  rest_ok : rest = [] ∨ Incomplete rest

namespace Segments

/-- frames with the garbage behind them, and what is left over -/
def tailBytes (tail : List (Frame × Bytes)) (rest : Bytes) : Bytes :=
  (tail.flatMap fun p => p.1.wire ++ p.2) ++ rest

/-- the stream -/
def bytes (s : Segments) : Bytes :=
  s.first ++ tailBytes s.tail s.rest

def frames (s : Segments) : List Frame :=
  s.tail.map Prod.fst

theorem tailBytes_cons (f : Frame) (g : Bytes) (tail : List (Frame × Bytes)) (rest : Bytes) :
    tailBytes ((f, g) :: tail) rest = f.wire ++ (g ++ tailBytes tail rest) := by
  simp [tailBytes]

/-! ## One way at most -/

/-- what garbage stops at: the end, a lone first magic byte, or a magic pair -/
def Begins (x : Bytes) : Prop :=
  x = [] ∨ x = [Frame.magic1] ∨ ∃ y, x = Frame.magic1 :: Frame.magic2 :: y

theorem begins_wire (f : Frame) (x : Bytes) : Begins (f.wire ++ x) :=
  Or.inr (Or.inr ⟨f.typeByte :: f.sizeLow :: f.sizeHigh :: (f.payload ++ x), by simp [Frame.wire_eq]⟩)

theorem begins_rest {r : Bytes} (h : r = [] ∨ Incomplete r) : Begins r := by
  rcases h with rfl | ⟨hne, f, -, hpre, -⟩
  · exact Or.inl rfl
  · rw [Frame.wire_eq] at hpre
    rcases r with _ | ⟨b0, _ | ⟨b1, y⟩⟩
    · exact absurd rfl hne
    · obtain rfl : b0 = Frame.magic1 := by simpa using hpre
      exact Or.inr (Or.inl rfl)
    · simp only [List.cons_append, List.cons_prefix_cons] at hpre
      obtain ⟨rfl, rfl, -⟩ := hpre
      exact Or.inr (Or.inr ⟨y, rfl⟩)

theorem begins_tailBytes {tail : List (Frame × Bytes)} {rest : Bytes} (h : rest = [] ∨ Incomplete rest) :
    Begins (tailBytes tail rest) := by
  rcases tail with _ | ⟨⟨f, g⟩, tail⟩
  · exact begins_rest h
  · rw [tailBytes_cons]
    exact begins_wire f _

theorem not_begins_of_garbage {g x : Bytes} (hg : Garbage g) (hne : g ≠ []) : ¬ Begins (g ++ x) := by
  cases hg with
  | nil => exact absurd rfl hne
  | byte hb _ =>
    rintro (h | h | ⟨y, h⟩)
    · simp at h
    · exact hb (List.cons.inj h).1
    · exact hb (List.cons.inj h).1
  | pair hb _ =>
    rintro (h | h | ⟨y, h⟩)
    · simp at h
    · simp at h
    · exact hb (List.cons.inj (List.cons.inj h).2).1

theorem garbage_append_inj {g g' x x' : Bytes} (hg : Garbage g) (hg' : Garbage g') (hx : Begins x) (hx' : Begins x')
    (h : g ++ x = g' ++ x') : g = g' ∧ x = x' := by
  induction hg generalizing g' with
  | nil =>
    rcases eq_or_ne g' [] with rfl | hne
    · exact ⟨rfl, h⟩
    · rw [List.nil_append] at h
      exact absurd (h ▸ hx) (not_begins_of_garbage hg' hne)
  | @byte b g hb hg ih =>
    cases hg' with
    | nil =>
      rw [List.nil_append] at h
      exact absurd (h ▸ hx') (not_begins_of_garbage (.byte hb hg) (by simp))
    | byte _ hg' =>
      simp only [List.cons_append, List.cons.injEq] at h
      obtain ⟨rfl, h⟩ := h
      obtain ⟨rfl, hx⟩ := ih hg' h
      exact ⟨rfl, hx⟩
    | pair _ _ => exact absurd (List.cons.inj h).1 hb
  | @pair b g hb hg ih =>
    cases hg' with
    | nil =>
      rw [List.nil_append] at h
      exact absurd (h ▸ hx') (not_begins_of_garbage (.pair hb hg) (by simp))
    | byte hb' _ => exact absurd (List.cons.inj h).1.symm hb'
    | pair _ hg' =>
      simp only [List.cons_append, List.cons.injEq, true_and] at h
      obtain ⟨rfl, h⟩ := h
      obtain ⟨rfl, hx⟩ := ih hg' h
      exact ⟨rfl, hx⟩

/-- no frame is the beginning of another one -/
theorem rest_ne_wire {r : Bytes} (h : r = [] ∨ Incomplete r) {f : Frame} (hf : f.Fits) (x : Bytes) :
    r ≠ f.wire ++ x := by
  rintro rfl
  rcases h with h | ⟨-, f', hf', ⟨y, hy⟩, hpart⟩
  · simp [Frame.wire_eq] at h
  · rw [List.append_assoc, ← List.append_nil f'.wire] at hy
    obtain ⟨rfl, hxy⟩ := Frame.wire_append_inj hf hf' hy
    obtain ⟨rfl, -⟩ := List.append_eq_nil_iff.1 hxy
    exact hpart (List.append_nil _)

theorem tailBytes_inj {tail tail' : List (Frame × Bytes)} {rest rest' : Bytes}
    (ht : ∀ p ∈ tail, p.1.Fits ∧ Garbage p.2) (ht' : ∀ p ∈ tail', p.1.Fits ∧ Garbage p.2)
    (hr : rest = [] ∨ Incomplete rest) (hr' : rest' = [] ∨ Incomplete rest')
    (h : tailBytes tail rest = tailBytes tail' rest') : tail = tail' ∧ rest = rest' := by
  induction tail generalizing tail' with
  | nil =>
    rcases tail' with _ | ⟨⟨f', g'⟩, tail'⟩
    · exact ⟨rfl, h⟩
    · rw [tailBytes_cons] at h
      exact absurd h (rest_ne_wire hr (ht' _ List.mem_cons_self).1 _)
  | cons p tail ih =>
    obtain ⟨f, g⟩ := p
    rw [tailBytes_cons] at h
    rcases tail' with _ | ⟨⟨f', g'⟩, tail'⟩
    · exact absurd h.symm (rest_ne_wire hr' (ht _ List.mem_cons_self).1 _)
    · rw [tailBytes_cons] at h
      obtain ⟨hf, hg⟩ : f.Fits ∧ Garbage g := ht (f, g) List.mem_cons_self
      obtain ⟨hf', hg'⟩ : f'.Fits ∧ Garbage g' := ht' (f', g') List.mem_cons_self
      obtain ⟨rfl, hgt⟩ := Frame.wire_append_inj hf hf' h
      obtain ⟨rfl, htail⟩ := garbage_append_inj hg hg' (begins_tailBytes hr) (begins_tailBytes hr') hgt
      obtain ⟨rfl, hrest⟩ := ih (fun p hp => ht p (List.mem_cons_of_mem _ hp))
        (fun p hp => ht' p (List.mem_cons_of_mem _ hp)) htail
      exact ⟨rfl, hrest⟩

theorem segments_unique {s s' : Segments} (h : s.bytes = s'.bytes) : s = s' := by
  obtain ⟨hfirst, htail⟩ := garbage_append_inj s.first_garbage s'.first_garbage (begins_tailBytes s.rest_ok)
    (begins_tailBytes s'.rest_ok) h
  obtain ⟨ht, hr⟩ := tailBytes_inj s.tail_ok s'.tail_ok s.rest_ok s'.rest_ok htail
  exact Segments.ext hfirst ht hr

/-! ## One way at least -/

theorem incomplete_take {f : Frame} (hf : f.Fits) {k : Nat} (h0 : 0 < k) (hk : k < f.wire.length) :
    Incomplete (f.wire.take k) := by
  have hlen : (f.wire.take k).length = k := by rw [List.length_take]; omega
  refine ⟨?_, f, hf, List.take_prefix _ _, fun heq => ?_⟩
  · rw [← List.length_pos_iff, hlen]; exact h0
  · rw [heq] at hlen; omega

theorem fits_nil (t : UInt8) : Frame.Fits ⟨t, []⟩ := Nat.zero_le _

/-- what starts with a magic pair starts with a frame, unless it ends before -/
theorem exists_frame_or_incomplete (y : Bytes) :
    Incomplete (Frame.magic1 :: Frame.magic2 :: y) ∨
      ∃ (f : Frame) (x : Bytes), f.Fits ∧ Frame.magic1 :: Frame.magic2 :: y = f.wire ++ x := by
  rcases y with _ | ⟨t, _ | ⟨lo, _ | ⟨hi, p⟩⟩⟩
  · exact Or.inl (incomplete_take (f := ⟨0, []⟩) (k := 2) (fits_nil 0) (by decide) (by simp [Frame.wire_eq]))
  · exact Or.inl (incomplete_take (f := ⟨t, []⟩) (k := 3) (fits_nil t) (by decide) (by simp [Frame.wire_eq]))
  · -- the missing size byte may be zero
    obtain ⟨hf, hw⟩ := Frame.wire_of_length t lo 0 (p := List.replicate lo.toNat 0) (by simp)
    have hr := incomplete_take (k := 4) hf (by decide) (by simp [hw])
    rw [hw] at hr
    exact Or.inl hr
  set size := lo.toNat + 256 * hi.toNat with hsize
  rcases Nat.lt_or_ge p.length size with hlt | hge
  · -- the missing payload bytes may be anything
    have hlen : (p ++ List.replicate (size - p.length) 0).length = size := by
      rw [List.length_append, List.length_replicate]; omega
    obtain ⟨hf, hw⟩ := Frame.wire_of_length t lo hi hlen
    have hr := incomplete_take (k := 5 + p.length) hf (by omega) (by rw [hw, List.length_append, hlen]; simpa using hlt)
    rw [hw, ← List.append_assoc, List.take_left' (by simp only [List.length_append]; rfl)] at hr
    exact Or.inl hr
  · have hlen : (p.take size).length = size := by rw [List.length_take]; omega
    obtain ⟨hf, hw⟩ := Frame.wire_of_length t lo hi hlen
    refine Or.inr ⟨_, p.drop size, hf, ?_⟩
    rw [hw, List.append_assoc, List.take_append_drop]
    rfl

theorem exists_segments (s : Bytes) : ∃ p : Segments, p.bytes = s := by
  induction h : s.length using Nat.strong_induction_on generalizing s with
  | _ n ih =>
    subst h
    rcases s with _ | ⟨b, s⟩
    · exact ⟨⟨[], [], [], .nil, by simp, Or.inl rfl⟩, rfl⟩
    by_cases hb : b = Frame.magic1
    swap
    · obtain ⟨p, rfl⟩ := ih s.length (by simp) s rfl
      exact ⟨⟨b :: p.first, p.tail, p.rest, .byte hb p.first_garbage, p.tail_ok, p.rest_ok⟩, rfl⟩
    subst hb
    rcases s with _ | ⟨c, s⟩
    · have hr : Incomplete [Frame.magic1] :=
        incomplete_take (f := ⟨0, []⟩) (k := 1) (fits_nil 0) (by decide) (by simp [Frame.wire_eq])
      exact ⟨⟨[], [], [Frame.magic1], .nil, by simp, Or.inr hr⟩, rfl⟩
    by_cases hc : c = Frame.magic2
    swap
    · obtain ⟨p, rfl⟩ := ih s.length (by simp) s rfl
      exact ⟨⟨Frame.magic1 :: c :: p.first, p.tail, p.rest, .pair hc p.first_garbage, p.tail_ok, p.rest_ok⟩, rfl⟩
    subst hc
    rcases exists_frame_or_incomplete s with hr | ⟨f, x, hf, hx⟩
    · exact ⟨⟨[], [], _, .nil, by simp, Or.inr hr⟩, rfl⟩
    · obtain ⟨p, rfl⟩ := ih x.length (by rw [hx]; simp [Frame.wire_eq]; omega) x rfl
      refine ⟨⟨[], (f, p.first) :: p.tail, p.rest, .nil, ?_, p.rest_ok⟩, ?_⟩
      · rintro q hq
        rcases List.mem_cons.1 hq with rfl | hq
        · exact ⟨hf, p.first_garbage⟩
        · exact p.tail_ok q hq
      · rw [hx]
        exact tailBytes_cons f p.first p.tail p.rest

end Segments

/-! ## The decoder follows the grammar -/

namespace Decoder

open Segments

theorem feed_tailBytes {d : Decoder} (h : d.phase = .magic1) {tail : List (Frame × Bytes)} {rest : Bytes}
    (ht : ∀ p ∈ tail, p.1.Fits ∧ Garbage p.2) (hr : rest = [] ∨ Incomplete rest) :
    (d.feed (tailBytes tail rest)).2 = tail.map Prod.fst ∧
      ((d.feed (tailBytes tail rest)).1.phase = .magic1 ↔ rest = []) := by
  induction tail generalizing d with
  | nil =>
    rcases hr with rfl | hr
    · exact ⟨rfl, iff_of_true h rfl⟩
    · obtain ⟨hphase, hframes⟩ := feed_incomplete h hr
      exact ⟨hframes, iff_of_false hphase hr.1⟩
  | cons p tail ih =>
    obtain ⟨f, g⟩ := p
    obtain ⟨hf, hg⟩ : f.Fits ∧ Garbage g := ht (f, g) List.mem_cons_self
    have hidle : (afterFrame f).phase = .magic1 := rfl
    obtain ⟨hframes, hphase⟩ := ih hidle (fun p hp => ht p (List.mem_cons_of_mem _ hp))
    rw [tailBytes_cons, feed_append, feed_wire h hf, feed_append, feed_garbage hidle hg]
    exact ⟨by simp [hframes], hphase⟩

/-- an idle decoder, fed a stream in parts -/
theorem feed_segments {d : Decoder} (h : d.phase = .magic1) (p : Segments) :
    (d.feed p.bytes).2 = p.frames ∧ ((d.feed p.bytes).1.phase = .magic1 ↔ p.rest = []) := by
  rw [Segments.bytes, feed_append, feed_garbage h p.first_garbage]
  exact feed_tailBytes h p.tail_ok p.rest_ok

/-- what an idle decoder remembers of earlier frames does not matter -/
theorem frames_of_idle {d : Decoder} (h : d.phase = .magic1) (bs : Bytes) : (d.feed bs).2 = (fresh.feed bs).2 := by
  obtain ⟨p, rfl⟩ := exists_segments bs
  rw [(feed_segments h p).1, (feed_segments (d := fresh) rfl p).1]

theorem isIdle_iff (d : Decoder) : d.isIdle = true ↔ d.phase = .magic1 := beq_iff_eq

/-- **A fresh decoder accepts exactly its stream grammar.** Every byte string is, in exactly one way, garbage, then
frames with garbage behind each, then nothing or the beginning of a frame. The decoder gives these frames in order, each
with the length of its payload, and is idle afterwards iff nothing is left over. -/
theorem accepts_stream_grammar (s : Bytes) :
    ∃ p : Segments, p.bytes = s ∧ (∀ p' : Segments, p'.bytes = s → p' = p) ∧
      (fresh.decode s).2 = p.frames ∧ (∀ f ∈ p.frames, f.length.toNat = f.payload.length) ∧
      ((fresh.decode s).1.isIdle = true ↔ p.rest = []) := by
  obtain ⟨p, rfl⟩ := exists_segments s
  obtain ⟨hframes, hphase⟩ := feed_segments (d := fresh) rfl p
  rw [decode_eq_feed wf_fresh]
  refine ⟨p, rfl, fun p' hp' => segments_unique hp', hframes, fun f hf => ?_, (isIdle_iff _).trans hphase⟩
  obtain ⟨q, hq, rfl⟩ := List.mem_map.1 hf
  exact Frame.length_toNat (p.tail_ok q hq).1

-- a first magic byte behind another one is skipped with it, and the frame behind the two is missed
example : (fresh.decode [0x54, 0x54, 0xF0, 1, 1, 0, 0x78]).2 = [] := by decide

end Decoder

end RemoteShutter
