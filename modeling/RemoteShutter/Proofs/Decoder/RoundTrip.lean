/-
Decoding undoes encoding.

A payload of any size travels as a run of frames. `Carries t p fs` says what such a run is: as many frames as the
payload needs, of its type, full except the last one, none of them empty, and together the payload. An empty payload
travels as no frame at all.
- `exists_carries`: the fragments of a payload are the wire forms of frames that carry it.
- `remaining_eq`: at any point of a run the number announced is the number of frames that come.
- `decode_messages`: any idle decoder, fed the fragments of any messages one after the other, gives frames that carry
  them, nothing else, and is idle again. Payloads may hold magic pairs and whole frames: nobody looks at their bytes.
-/
import Mathlib.Algebra.Order.Floor.Div
import Mathlib.Tactic
import RemoteShutter.Proofs.Decoder.Grammar

namespace RemoteShutter

/-! ## Runs of fragments -/

/-- the frames carry the payload, and waste none -/
structure Carries (t : UInt8) (p : Bytes) (fs : List Frame) : Prop where
  count : fs.length = p.length ⌈/⌉ Frame.maxPayload
  typeByte : ∀ f ∈ fs, f.typeByte = t
  sizes : ∀ f ∈ fs, f.payload ≠ [] ∧ f.payload.length ≤ Frame.maxPayload
  full : ∀ f ∈ fs.dropLast, f.payload.length = Frame.maxPayload
  payload : fs.flatMap Frame.payload = p

theorem carries_nil (t : UInt8) : Carries t [] [] :=
  ⟨by decide, by simp, by simp, by simp, rfl⟩

/-- a payload that fits one frame travels in one -/
theorem carries_singleton (t : UInt8) {p : Bytes} (hne : p ≠ []) (hp : p.length ≤ Frame.maxPayload) :
    Carries t p [⟨t, p⟩] := by
  have hpos : 0 < p.length := List.length_pos_iff.2 hne
  refine ⟨?_, by simp, by simp [hne, hp], by simp, by simp⟩
  rw [Nat.ceilDiv_eq_add_pred_div, List.length_singleton]
  simp only [Frame.maxPayload] at *
  omega

/-- a full frame in front of the frames of what is left -/
theorem carries_cons {t : UInt8} {p q : Bytes} {fs : List Frame} (hq : q.length = Frame.maxPayload) (hp : p ≠ [])
    (h : Carries t p fs) : Carries t (q ++ p) (⟨t, q⟩ :: fs) := by
  have hqne : q ≠ [] := by
    rw [← List.length_pos_iff, hq]; decide
  have hfs : fs ≠ [] := by
    rintro rfl
    exact hp h.payload.symm
  refine ⟨?_, ?_, ?_, ?_, ?_⟩
  · have hc := h.count
    rw [Nat.ceilDiv_eq_add_pred_div] at hc ⊢
    rw [List.length_cons, List.length_append, hc, hq]
    simp only [Frame.maxPayload]
    omega
  · exact List.forall_mem_cons.2 ⟨rfl, h.typeByte⟩
  · exact List.forall_mem_cons.2 ⟨⟨hqne, hq.le⟩, h.sizes⟩
  · rw [List.dropLast_cons_of_ne_nil hfs]
    exact List.forall_mem_cons.2 ⟨hq, h.full⟩
  · rw [List.flatMap_cons, h.payload]

/-- the frames that carry a payload are determined by it, as far as one frame goes -/
theorem Carries.eq_singleton {t : UInt8} {p : Bytes} {fs : List Frame} (h : Carries t p fs) (hne : p ≠ [])
    (hp : p.length ≤ Frame.maxPayload) : fs = [⟨t, p⟩] := by
  have hlen : fs.length = 1 := by rw [h.count, ← (carries_singleton t hne hp).count, List.length_singleton]
  obtain ⟨⟨t', p'⟩, rfl⟩ := List.length_eq_one_iff.1 hlen
  obtain rfl : t' = t := h.typeByte _ List.mem_cons_self
  obtain rfl : p' = p := by simpa using h.payload
  rfl

theorem Carries.eq_nil {t : UInt8} {fs : List Frame} (h : Carries t [] fs) : fs = [] := by
  rw [← List.length_eq_zero_iff, h.count, ← (carries_nil t).count, List.length_nil]

namespace Fragments

theorem toList_nil (t : UInt8) : toList ⟨t, []⟩ = [] := by
  rw [toList]
  rfl

theorem toList_of_ne_nil (t : UInt8) {p : Bytes} (h : p ≠ []) :
    toList ⟨t, p⟩ = Frame.encode t (p.take Frame.maxPayload) :: toList ⟨t, p.drop Frame.maxPayload⟩ := by
  have hn : next? ⟨t, p⟩ = some (Frame.encode t (p.take Frame.maxPayload), ⟨t, p.drop Frame.maxPayload⟩) := by
    simp [next?, h]
  rw [toList]
  split
  · rename_i heq
    rw [hn] at heq
    cases heq
  · rename_i b g heq
    rw [hn] at heq
    obtain ⟨rfl, rfl⟩ := Prod.mk.inj (Option.some.inj heq)
    rfl

/-- **The fragments of a payload carry it.** -/
theorem exists_carries (t : UInt8) (p : Bytes) : ∃ fs, Carries t p fs ∧ toList ⟨t, p⟩ = fs.map Frame.wire := by
  induction h : p.length using Nat.strong_induction_on generalizing p with
  | _ n ih =>
    subst h
    rcases eq_or_ne p [] with rfl | hne
    · exact ⟨[], carries_nil t, toList_nil t⟩
    rw [toList_of_ne_nil t hne]
    rcases Nat.lt_or_ge Frame.maxPayload p.length with hlong | hshort
    · have htake : (p.take Frame.maxPayload).length = Frame.maxPayload := by rw [List.length_take]; omega
      have hdrop : p.drop Frame.maxPayload ≠ [] := by rw [← List.length_pos_iff, List.length_drop]; omega
      have hmax : 0 < Frame.maxPayload := by decide
      have hless : (p.drop Frame.maxPayload).length < p.length := by rw [List.length_drop]; omega
      obtain ⟨fs, hfs, hl⟩ := ih _ hless (p.drop Frame.maxPayload) rfl
      refine ⟨⟨t, p.take Frame.maxPayload⟩ :: fs, ?_, by rw [hl]; rfl⟩
      have hc := carries_cons htake hdrop hfs
      rwa [List.take_append_drop] at hc
    · rw [List.take_of_length_le hshort, List.drop_of_length_le hshort, toList_nil]
      exact ⟨[⟨t, p⟩], carries_singleton t hne hshort, rfl⟩

/-- **The number announced is the number of frames that come**, whatever is left of the payload. -/
theorem remaining_eq (f : Fragments) : f.remaining = f.toList.length := by
  obtain ⟨t, p⟩ := f
  obtain ⟨fs, hfs, hl⟩ := exists_carries t p
  rw [hl, List.length_map, hfs.count, Nat.ceilDiv_eq_add_pred_div, remaining, Nat.add_sub_assoc (by decide)]

end Fragments

/-! ## Streams of messages -/

/-- the fragments of messages, each a type byte and a payload, one after the other -/
def messageBytes (ms : List (UInt8 × Bytes)) : Bytes :=
  (ms.flatMap fun m => (Frame.fragments m.1 m.2).toList).flatten

namespace Decoder

theorem feed_wires {d : Decoder} (h : d.phase = .magic1) {fs : List Frame} (hf : ∀ f ∈ fs, f.Fits) :
    (d.feed (fs.map Frame.wire).flatten).2 = fs ∧ (d.feed (fs.map Frame.wire).flatten).1.phase = .magic1 := by
  induction fs generalizing d with
  | nil => exact ⟨rfl, h⟩
  | cons f fs ih =>
    obtain ⟨hframes, hphase⟩ := ih (d := afterFrame f) rfl fun f hm => hf f (List.mem_cons_of_mem _ hm)
    rw [List.map_cons, List.flatten_cons, feed_append, feed_wire h (hf f List.mem_cons_self)]
    exact ⟨by rw [hframes]; rfl, hphase⟩

theorem feed_messages {d : Decoder} (h : d.phase = .magic1) (ms : List (UInt8 × Bytes)) :
    ∃ fss, List.Forall₂ (fun m fs => Carries m.1 m.2 fs) ms fss ∧ (d.feed (messageBytes ms)).2 = fss.flatten ∧
      (d.feed (messageBytes ms)).1.phase = .magic1 := by
  induction ms generalizing d with
  | nil => exact ⟨[], .nil, rfl, h⟩
  | cons m ms ih =>
    obtain ⟨fs, hfs, hl⟩ := Fragments.exists_carries m.1 m.2
    obtain ⟨hframes, hphase⟩ := feed_wires h fun f hf => (hfs.sizes f hf).2
    obtain ⟨fss, hfss, hrest, hidle⟩ := ih hphase
    have hbytes : messageBytes (m :: ms) = (fs.map Frame.wire).flatten ++ messageBytes ms := by
      rw [← hl, messageBytes, messageBytes, List.flatMap_cons, List.flatten_append]
      rfl
    rw [hbytes, feed_append]
    exact ⟨fs :: fss, .cons hfs hfss, by rw [hframes, hrest, List.flatten_cons], hidle⟩

/-- **Decoding undoes encoding.** Any reachable decoder that is idle, fed the fragments of any messages one after the
other, gives for each message frames that carry it, in order, gives nothing else and is idle again. And at every point
of the run of fragments of a payload the number announced is the number of frames still to come. -/
theorem decode_messages {d : Decoder} (hd : d.Reachable) (hi : d.isIdle = true) (ms : List (UInt8 × Bytes)) :
    (∃ fss, List.Forall₂ (fun m fs => Carries m.1 m.2 fs) ms fss ∧
      (d.decode (messageBytes ms)).2 = fss.flatten ∧ (d.decode (messageBytes ms)).1.isIdle = true) ∧
      ∀ f : Fragments, f.remaining = f.toList.length := by
  obtain ⟨fss, hfss, hframes, hphase⟩ := feed_messages ((isIdle_iff d).1 hi) ms
  rw [decode_eq_feed (reachable_wf hd)]
  exact ⟨⟨fss, hfss, hframes, (isIdle_iff _).2 hphase⟩, Fragments.remaining_eq⟩

/-- a decoder reset within a frame; payloads that hold a magic pair and a whole frame, and an empty one between them -/
theorem decode_messages_after_reset :
    let d := (fresh.run [.chunk [0x54, 0xF0, 9, 2, 0, 1], .reset]).1
    let ms : List (UInt8 × Bytes) := [(2, [0x54, 0xF0, 1]), (5, []), (3, [0x54, 0xF0, 4, 0, 0])]
    d.Reachable ∧ d.isIdle = true ∧
      (d.decode (messageBytes ms)).2 = [⟨2, [0x54, 0xF0, 1]⟩, ⟨3, [0x54, 0xF0, 4, 0, 0]⟩] ∧
      (d.decode (messageBytes ms)).1.isIdle = true := by
  intro d ms
  have hd : d.Reachable := ⟨[.chunk [0x54, 0xF0, 9, 2, 0, 1], .reset], rfl⟩
  obtain ⟨⟨fss, hfss, hframes, hidle⟩, -⟩ := decode_messages hd rfl ms
  rw [show ms = [(2, [0x54, 0xF0, 1]), (5, []), (3, [0x54, 0xF0, 4, 0, 0])] from rfl] at hfss
  obtain _ | ⟨h1, _ | ⟨h2, _ | ⟨h3, _ | _⟩⟩⟩ := hfss
  rw [hframes, h1.eq_singleton (by decide) (by decide), h2.eq_nil, h3.eq_singleton (by decide) (by decide)]
  exact ⟨hd, rfl, rfl, hidle⟩

end Decoder

end RemoteShutter
