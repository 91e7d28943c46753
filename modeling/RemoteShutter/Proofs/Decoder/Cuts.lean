/-
Streams of frames that begin or end anywhere.

- `Frame.Cut`: a stream of frames in two parts, with the frames in front of the cut and those behind it.
- `Frame.exists_cut`: a cut goes through one frame at most.
- `frames_of_cut`: what a decoder finds that is fed the part behind a cut.
- `exists_of_mem_frames`: a frame that a decoder finds stands in the stream, and the decoder was idle in front of it.
-/
import Mathlib.Tactic
import RemoteShutter.Proofs.Decoder.RoundTrip

namespace RemoteShutter

namespace Frame

/-- the wire forms of the frames `earlier` and `later` are cut behind the bytes `taken`: between the two, or within the
first of `later`, of which `part` is in front of the cut -/
structure Cut (earlier later : List Frame) (part taken rest : Bytes) : Prop where
  taken : taken = (earlier.map wire).flatten ++ part
  rest : (later.map wire).flatten = part ++ rest
  within : part = [] ∨ ∃ f ∈ later.head?, part <+: f.wire ∧ part ≠ f.wire

/-- **Who cuts a stream of frames cuts one frame at most.** -/
theorem exists_cut {fs : List Frame} {taken rest : Bytes} (h : (fs.map wire).flatten = taken ++ rest) :
    ∃ earlier later part, fs = earlier ++ later ∧ Cut earlier later part taken rest := by
  induction fs generalizing taken with
  | nil =>
    obtain ⟨rfl, rfl⟩ := List.append_eq_nil_iff.1 h.symm
    exact ⟨[], [], [], rfl, rfl, rfl, .inl rfl⟩
  | cons f fs ih =>
    rw [List.map_cons, List.flatten_cons, List.append_eq_append_iff] at h
    rcases h with ⟨more, rfl, hrest⟩ | ⟨left, hwire, rfl⟩
    · -- the first frame is in front of the cut
      obtain ⟨earlier, later, part, rfl, hcut⟩ := ih hrest
      exact ⟨f :: earlier, later, part, rfl, by simp [hcut.taken], hcut.rest, hcut.within⟩
    · rcases eq_or_ne left [] with rfl | hleft
      · exact ⟨[f], fs, [], rfl, by simpa using hwire.symm, rfl, .inl rfl⟩
      · refine ⟨[], f :: fs, taken, rfl, rfl, by simp [hwire], .inr ⟨f, rfl, ⟨left, hwire.symm⟩, fun heq => hleft ?_⟩⟩
        exact List.append_right_eq_self.1 (hwire.symm.trans heq.symm)

variable {earlier later : List Frame} {part taken rest : Bytes}

/-- behind a cut the rest of a frame comes, and then the frames behind that -/
theorem Cut.rest_eq (h : Cut earlier later part taken rest) {f : Frame} (hf : f ∈ later.head?) :
    rest = f.wire.drop part.length ++ (later.tail.map wire).flatten := by
  obtain ⟨fs, rfl⟩ : ∃ fs, later = f :: fs := List.head?_eq_some_iff.1 hf
  have hpart : part <+: f.wire := by
    rcases h.within with rfl | ⟨f', hf', hpre, -⟩
    · exact List.nil_prefix
    · exact Option.some.inj hf' ▸ hpre
  obtain ⟨left, hwire⟩ := hpart
  have hrest := h.rest
  rw [List.map_cons, List.flatten_cons, ← hwire, List.append_assoc, List.append_cancel_left_eq] at hrest
  rw [← hwire, List.drop_left]
  exact hrest.symm

/-- the first byte behind a cut within a frame is the one of that frame -/
theorem Cut.head?_eq (h : Cut earlier later part taken rest) {f : Frame} (hf : f ∈ later.head?)
    (hlt : part.length < f.wire.length) : rest.head? = f.wire[part.length]? := by
  rw [h.rest_eq hf, List.head?_append, List.head?_drop, List.getElem?_eq_getElem hlt, Option.some_or]

end Frame

namespace Decoder

/-- what comes later takes no frame back -/
theorem frames_of_prefix {bs stream : Bytes} (h : bs <+: stream) (d : Decoder) :
    (d.feed bs).2 <+: (d.feed stream).2 := by
  obtain ⟨rest, rfl⟩ := h
  rw [feed_append]
  exact List.prefix_append _ _

/-- in garbage with frames behind it a decoder finds the frames, as far as they are whole -/
theorem frames_of_prefix_wires {pieces : List Bytes} {g : Bytes} {fs : List Frame} (hg : Garbage g)
    (hf : ∀ f ∈ fs, f.Fits) (h : pieces.flatten <+: g ++ (fs.map Frame.wire).flatten) :
    (fresh.decodeAll pieces).2 <+: fs := by
  have hall : (fresh.feed (g ++ (fs.map Frame.wire).flatten)).2 = fs := by
    rw [feed_append, feed_garbage rfl hg, (feed_wires rfl hf).1, List.nil_append]
  rw [decodeAll_eq_decode wf_fresh, decode_eq_feed wf_fresh]
  exact hall ▸ frames_of_prefix h fresh

/-- **Behind a cut a decoder finds the frames behind the cut**: all of them if the cut is between two frames, and those
behind the one that is cut if its rest is garbage. -/
theorem frames_of_cut {earlier later : List Frame} {part taken rest : Bytes}
    (hcut : Frame.Cut earlier later part taken rest) (hf : ∀ f ∈ later, f.Fits) {pieces : List Bytes}
    (h : pieces.flatten <+: rest) :
    (part = [] → (fresh.decodeAll pieces).2 <+: later) ∧
      ∀ f ∈ later.head?, Garbage (f.wire.drop part.length) → (fresh.decodeAll pieces).2 <+: later.tail := by
  constructor
  · rintro rfl
    refine frames_of_prefix_wires .nil hf ?_
    rw [hcut.rest]
    exact h
  · intro f hhead hg
    refine frames_of_prefix_wires hg (fun f hm => hf f (List.mem_of_mem_tail hm)) ?_
    rw [← hcut.rest_eq hhead]
    exact h

/-- **What a decoder finds stands in the stream**, at a place at which the decoder was idle. -/
theorem exists_of_mem_frames {bs : Bytes} {g : Frame} (h : g ∈ (fresh.feed bs).2) :
    ∃ pre post, bs = pre ++ (g.wire ++ post) ∧ (fresh.feed pre).1.phase = .magic1 ∧ g.Fits := by
  obtain ⟨p, rfl⟩ := Segments.exists_segments bs
  rw [(feed_segments (d := fresh) rfl p).1] at h
  obtain ⟨⟨g, after⟩, hm, rfl⟩ := List.mem_map.1 h
  obtain ⟨front, back, hsplit⟩ := List.append_of_mem hm
  have hok : ∀ q ∈ front, q.1.Fits ∧ Garbage q.2 := fun q hq => p.tail_ok q (by simp [hsplit, hq])
  refine ⟨p.first ++ Segments.tailBytes front [], after ++ Segments.tailBytes back p.rest, ?_, ?_, (p.tail_ok _ hm).1⟩
  · simp [Segments.bytes, Segments.tailBytes, hsplit]
  · rw [feed_append, feed_garbage rfl p.first_garbage]
    exact (feed_tailBytes (d := fresh) rfl hok (.inl rfl)).2.2 rfl

end Decoder

end RemoteShutter
