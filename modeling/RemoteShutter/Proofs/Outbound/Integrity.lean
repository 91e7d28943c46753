/-
Frames on the outbound path stay whole.

- `Holds`: the stream of the queue is made up of the frames that were pushed, and those of one producer together with
  the frames that it has left are the fragments of its payload.
- `holds_step`, `holds_steps`: an event for which the ring has room keeps this, and so does every such interleaving.
- `frames_intact`: a decoder gets the frames that were pushed, and so each payload.
-/
import Mathlib.Tactic
import RemoteShutter.Proofs.Outbound.Traffic

namespace RemoteShutter

/-! ## Frames -/

/-- what is pushed is a frame -/
theorem Fragments.exists_frame_of_next? {f g : Fragments} {bs : Bytes} (h : f.next? = some (bs, g)) :
    ∃ fr : Frame, fr.Fits ∧ bs = fr.wire := by
  unfold next? at h
  split_ifs at h
  obtain ⟨rfl, -⟩ := Prod.mk.inj (Option.some.inj h)
  exact ⟨⟨f.typeByte, f.rest.take Frame.maxPayload⟩, List.length_take_le _ _, rfl⟩

theorem Frame.map_wire_inj {fs gs : List Frame} (hf : ∀ f ∈ fs, f.Fits) (hg : ∀ g ∈ gs, g.Fits)
    (h : fs.map wire = gs.map wire) : fs = gs := by
  induction fs generalizing gs with
  | nil => exact (List.map_eq_nil_iff.1 h.symm).symm
  | cons f fs ih =>
    cases gs with
    | nil => cases h
    | cons g gs =>
      rw [List.map_cons, List.map_cons, List.cons.injEq] at h
      rw [List.forall_mem_cons] at hf hg
      have hhead : f = g := (wire_append_inj hf.1 hg.1 (congrArg (· ++ []) h.1)).1
      rw [hhead, ih hf.2 hg.2 h.2]

namespace Traffic

/-- of the frames `fs`, with their producers, those of the `i`th -/
def framesOf (fs : List (Nat × Frame)) (i : Nat) : List Frame :=
  (fs.filter (·.1 = i)).map Prod.snd

variable {t : Traffic} {fs : List (Nat × Frame)} {i j : Nat}

theorem framesOf_concat_self (fs : List (Nat × Frame)) (i : Nat) (f : Frame) :
    framesOf (fs ++ [(i, f)]) i = framesOf fs i ++ [f] := by
  simp [framesOf]

theorem framesOf_concat_of_ne (fs : List (Nat × Frame)) (h : j ≠ i) (f : Frame) :
    framesOf (fs ++ [(j, f)]) i = framesOf fs i := by
  simp [framesOf, h]

theorem framesOf_eq_nil (h : ∀ f ∈ fs, f.1 ≠ i) : framesOf fs i = [] := by
  rw [framesOf, List.map_eq_nil_iff, List.filter_eq_nil_iff]
  intro f hf
  simpa using h f hf

theorem mem_of_mem_framesOf {f : Frame} (h : f ∈ framesOf fs i) : (i, f) ∈ fs := by
  obtain ⟨⟨j, g⟩, hg, rfl⟩ := List.mem_map.1 h
  obtain ⟨hmem, hj⟩ := List.mem_filter.1 hg
  obtain rfl : j = i := of_decide_eq_true hj
  exact hmem

/-! ## The invariant -/

/-- the frames `fs` were pushed, each by the producer beside it, and nothing else went into the queue -/
structure Holds (t : Traffic) (fs : List (Nat × Frame)) : Prop where
  wf : t.queue.Wf
  stream : t.queue.stream = (fs.map fun f => f.2.wire).flatten
  pushed : t.pushed = fs.map fun f => (f.1, f.2.wire)
  fits : ∀ f ∈ fs, f.2.Fits
  known : ∀ f ∈ fs, f.1 < t.sendings.length
  sendings : ∀ i s, t.sendings[i]? = some s →
    (framesOf fs i).map Frame.wire ++ s.rest.toList = (Frame.fragments s.message.kind.toByte s.message.bytes).toList

theorem holds_start {capacity : Nat} {q : Outbound} (h : Outbound.ofCapacity? capacity = some q) :
    Holds (start q) [] := by
  obtain ⟨r, hr, rfl⟩ := Option.map_eq_some_iff.1 h
  obtain ⟨hw, -, hempty⟩ := Ring.wf_ofCapacity? hr
  refine ⟨hw, ?_, rfl, fun f hf => absurd hf List.not_mem_nil, fun f hf => absurd hf List.not_mem_nil, fun i s hs => ?_⟩
  · exact (Ring.toList_eq_nil_iff hw).2 hempty
  · rw [start, List.getElem?_nil] at hs
    cases hs

/-- what happens at the queue without a push leaves the stream alone -/
theorem holds_onQueue (h : Holds t fs) {e : QueueEvent} (he : QueueHistory.pushedBy e = []) :
    Holds (t.onQueue e) fs := by
  have hroom : t.queue.HasRoom e := by
    rw [QueueHistory.HasRoom, he, List.length_nil, Nat.zero_add]
    exact Ring.length_le_capacity h.wf
  have hstream := QueueHistory.stream_step h.wf e hroom
  rw [he, List.append_nil] at hstream
  exact ⟨QueueHistory.wf_step h.wf e, hstream.trans h.stream, h.pushed, h.fits, h.known, h.sendings⟩

theorem holds_send (h : Holds t fs) (m : Outgoing) : Holds (t.step (.send m)) fs := by
  refine ⟨h.wf, h.stream, h.pushed, h.fits, fun f hf => ?_, fun i s hs => ?_⟩
  · have hlt := h.known f hf
    rw [step, List.length_append]
    omega
  · rcases Nat.lt_or_ge i t.sendings.length with hi | hi
    · rw [step, List.getElem?_append_left hi] at hs
      exact h.sendings i s hs
    · -- the new producer has pushed nothing yet
      rw [step, List.getElem?_append_right hi, List.getElem?_singleton] at hs
      split_ifs at hs with hlast
      obtain rfl := Option.some.inj hs
      rw [framesOf_eq_nil fun f hf => by have := h.known f hf; omega]
      rfl

theorem holds_push (h : Holds t fs) {bs : Bytes} {s : Sending} (hnext : t.next? i = some (bs, s))
    (hroom : t.hasRoom (.push i) = true) : ∃ fs', Holds (t.step (.push i)) fs' := by
  obtain ⟨before, hbefore, hs⟩ := Option.bind_eq_some_iff.1 hnext
  obtain ⟨⟨bytes, rest⟩, hrest, heq⟩ := Option.map_eq_some_iff.1 hs
  obtain ⟨rfl, rfl⟩ := Prod.mk.inj heq
  obtain ⟨f, hf, rfl⟩ := Fragments.exists_frame_of_next? hrest
  obtain ⟨hi, -⟩ := List.getElem?_eq_some_iff.1 hbefore
  simp only [hasRoom, hnext, Option.all_some, decide_eq_true_eq] at hroom
  have hstream := QueueHistory.stream_step h.wf (.push f.wire) hroom
  rw [step_push hnext]
  refine ⟨fs ++ [(i, f)], QueueHistory.wf_step h.wf _, ?_, ?_, ?_, ?_, fun j s hs => ?_⟩
  · refine hstream.trans ?_
    rw [h.stream, List.map_append, List.flatten_append]
    simp [QueueHistory.pushedBy]
  · simp [h.pushed]
  · exact List.forall_mem_append.2 ⟨h.fits, List.forall_mem_singleton.2 hf⟩
  · rw [List.length_set]
    exact List.forall_mem_append.2 ⟨h.known, List.forall_mem_singleton.2 hi⟩
  · rcases eq_or_ne j i with rfl | hne
    · rw [List.getElem?_set_self hi] at hs
      obtain rfl := Option.some.inj hs
      have hold := h.sendings j before hbefore
      rw [Fragments.toList_of_next? hrest] at hold
      rw [framesOf_concat_self, List.map_append, List.append_assoc]
      exact hold
    · rw [List.getElem?_set_ne hne.symm] at hs
      rw [framesOf_concat_of_ne fs hne.symm]
      exact h.sendings j s hs

/-- **An event for which there is room keeps the frames whole.** -/
theorem holds_step (h : Holds t fs) (e : Event) (hroom : t.hasRoom e = true) : ∃ fs', Holds (t.step e) fs' := by
  cases e with
  | send m => exact ⟨fs, holds_send h m⟩
  | push i =>
    cases hnext : t.next? i with
    | none =>
      refine ⟨fs, ?_⟩
      simp only [step, hnext]
      exact h
    | some r => exact holds_push h hnext hroom
  | setConnected | close | arrive | look => exact ⟨fs, holds_onQueue h rfl⟩

theorem holds_steps (h : Holds t fs) {es : List Event} (hroom : t.isRoomy es = true) :
    ∃ fs', Holds (t.steps es) fs' := by
  induction es generalizing t fs with
  | nil => exact ⟨fs, h⟩
  | cons e es ih =>
    rw [isRoomy, Bool.and_eq_true] at hroom
    obtain ⟨fs', h'⟩ := holds_step h e hroom.1
    exact ih h' hroom.2

/-! ## What arrives -/

/-- what a fresh decoder makes of the pieces that were taken and of what still waits -/
def received (t : Traffic) : Decoder × List Frame :=
  Decoder.fresh.decodeAll (t.queue.popped ++ [t.queue.queue.ring.toList])

/-- what a producer has pushed and what it has left carries its payload -/
theorem Holds.exists_carries (h : Holds t fs) {s : Sending} (hs : t.sendings[i]? = some s) :
    ∃ later, s.rest.toList = later.map Frame.wire ∧
      Carries s.message.kind.toByte s.message.bytes (framesOf fs i ++ later) := by
  obtain ⟨all, hall, hallwires⟩ := Fragments.exists_carries s.message.kind.toByte s.message.bytes
  obtain ⟨later, hlater, hwires⟩ := Fragments.exists_carries s.rest.typeByte s.rest.rest
  have heq := h.sendings i s hs
  rw [hwires, Frame.fragments, hallwires, ← List.map_append] at heq
  have hsame : framesOf fs i ++ later = all := by
    refine Frame.map_wire_inj (List.forall_mem_append.2 ⟨fun f hf => ?_, fun f hf => ?_⟩) (fun f hf => ?_) heq
    · exact h.fits _ (mem_of_mem_framesOf hf)
    · exact (hlater.sizes f hf).2
    · exact (hall.sizes f hf).2
  exact ⟨later, hwires, hsame ▸ hall⟩

/-- **Frames on the outbound path stay whole.** Take a new queue of any capacity, any number of producers that send
payloads, reports and log text, and any interleaving of their pushes with each other, with clients that come and go and
with takers of any buffer size, such that no push finds less room than its frame needs. A fresh decoder that is fed what
was taken, piece by piece, and then what still waits, gives the frames that were pushed, in the order in which they were
pushed, and is idle. Of these the frames of each producer, and those that it has left, carry its payload in order; once
none is left they carry all of it. -/
theorem frames_intact {capacity : Nat} {q : Outbound} (hq : Outbound.ofCapacity? capacity = some q)
    {es : List Event} (hroom : (start q).isRoomy es = true) :
    let t := (start q).steps es
    ∃ fs : List (Nat × Frame), t.pushed = fs.map (fun f => (f.1, f.2.wire)) ∧
      t.received.2 = fs.map Prod.snd ∧ t.received.1.isIdle = true ∧
      ∀ i s, t.sendings[i]? = some s →
        (∃ later, s.rest.toList = later.map Frame.wire ∧
          Carries s.message.kind.toByte s.message.bytes (framesOf fs i ++ later)) ∧
        (s.rest.next? = none → Carries s.message.kind.toByte s.message.bytes (framesOf fs i)) := by
  intro t
  obtain ⟨fs, h⟩ := holds_steps (holds_start hq) hroom
  have hdecode : t.received = Decoder.fresh.feed ((fs.map Prod.snd).map Frame.wire).flatten := by
    rw [received, Decoder.decodeAll_eq_decode Decoder.wf_fresh, Decoder.decode_eq_feed Decoder.wf_fresh,
      List.flatten_append, List.flatten_singleton, List.map_map]
    exact congrArg _ h.stream
  have hfits : ∀ f ∈ fs.map Prod.snd, f.Fits := by
    intro f hf
    obtain ⟨g, hg, rfl⟩ := List.mem_map.1 hf
    exact h.fits g hg
  obtain ⟨hframes, hphase⟩ := Decoder.feed_wires (d := Decoder.fresh) rfl hfits
  rw [← hdecode] at hframes hphase
  refine ⟨fs, h.pushed, hframes, (Decoder.isIdle_iff _).2 hphase,
    fun i s hs => ⟨h.exists_carries hs, fun hnone => ?_⟩⟩
  obtain ⟨later, hlater, hcarries⟩ := h.exists_carries hs
  rw [Fragments.toList_of_next?_eq_none hnone] at hlater
  rw [List.map_eq_nil_iff.1 hlater.symm, List.append_nil] at hcarries
  exact hcarries

/-- two producers at a ring that a taker has to make room in; the taker cuts the first frame within its header -/
theorem frames_intact_two_producers :
    let q : Outbound := { ring := ⟨Array.replicate 12 0, 0, 0, true⟩ }
    let es := [.send (.log [7, 7]), .send (.payload .file [0x54, 0xF0]), .push 1, .setConnected true, .arrive 3,
      .look 0, .push 0]
    let t := (start q).steps es
    Outbound.ofCapacity? 12 = some q ∧ (start q).isRoomy es = true ∧ t.queue.popped = [[0x54, 0xF0, 4]] ∧
      t.pushed.map Prod.fst = [1, 0] ∧ t.received.1.isIdle = true := by
  intro q es t
  have hq : Outbound.ofCapacity? 12 = some q := rfl
  have hroom : (start q).isRoomy es = true := by decide +kernel
  obtain ⟨fs, -, -, hidle, -⟩ := frames_intact hq hroom
  exact ⟨hq, hroom, by decide +kernel, by decide +kernel, hidle⟩

end Traffic

end RemoteShutter
