/-
What an idle decoder does with the parts of a stream.

- `feed_garbage`: garbage leaves it as it is. Garbage is made of single bytes that begin no frame and of pairs that look
  like the beginning of one and are not.
- `feed_wire`: a frame comes out when its last byte is in, and leaves a decoder that remembers nothing but the type and
  the low size byte of that frame.
- `feed_incomplete`: the beginning of a frame gives nothing, and leaves a decoder that is not idle.
-/
import Mathlib.Tactic
import RemoteShutter.Proofs.Decoder.Feed

namespace RemoteShutter

/-! ## Frames on the wire -/

namespace Frame

/-- the payload size fits the two length bytes -/
def Fits (f : Frame) : Prop :=
  f.payload.length ≤ maxPayload

def wire (f : Frame) : Bytes :=
  encode f.typeByte f.payload

def sizeLow (f : Frame) : UInt8 := f.payload.length.toUInt8

def sizeHigh (f : Frame) : UInt8 := (f.payload.length / 256).toUInt8

theorem wire_eq (f : Frame) : f.wire = [magic1, magic2, f.typeByte, f.sizeLow, f.sizeHigh] ++ f.payload := rfl

/-- the two length bytes give the size back -/
theorem size_eq {f : Frame} (h : f.Fits) : f.sizeLow.toNat + 256 * f.sizeHigh.toNat = f.payload.length := by
  unfold Fits maxPayload at h
  simp only [sizeLow, sizeHigh, Nat.toUInt8, UInt8.toNat_ofNat']
  omega

/-- any two length bytes are those of a frame whose payload has as many bytes -/
theorem wire_of_length (t lo hi : UInt8) {p : Bytes} (h : p.length = lo.toNat + 256 * hi.toNat) :
    Fits ⟨t, p⟩ ∧ wire ⟨t, p⟩ = [magic1, magic2, t, lo, hi] ++ p := by
  have hlo := lo.toNat_lt
  have hhi := hi.toNat_lt
  refine ⟨by simp only [Fits, maxPayload]; omega, ?_⟩
  have h1 : sizeLow ⟨t, p⟩ = lo := by
    rw [← UInt8.toNat_inj]
    simp only [sizeLow, Nat.toUInt8, UInt8.toNat_ofNat']
    omega
  have h2 : sizeHigh ⟨t, p⟩ = hi := by
    rw [← UInt8.toNat_inj]
    simp only [sizeHigh, Nat.toUInt8, UInt8.toNat_ofNat']
    omega
  rw [wire_eq, h1, h2]

theorem length_toNat {f : Frame} (h : f.Fits) : f.length.toNat = f.payload.length := by
  unfold Fits maxPayload at h
  simp only [length, Nat.toUInt16, UInt16.toNat_ofNat']
  omega

/-- where a frame ends is told by its header -/
theorem wire_append_inj {f f' : Frame} (hf : f.Fits) (hf' : f'.Fits) {x x' : Bytes} (h : f.wire ++ x = f'.wire ++ x') :
    f = f' ∧ x = x' := by
  simp only [wire_eq, List.cons_append, List.nil_append, List.cons.injEq, true_and] at h
  obtain ⟨ht, hlo, hhi, hp⟩ := h
  have hlen : f.payload.length = f'.payload.length := by rw [← size_eq hf, ← size_eq hf', hlo, hhi]
  obtain ⟨hp, hx⟩ := List.append_inj hp hlen
  obtain ⟨t, p⟩ := f
  obtain ⟨t', p'⟩ := f'
  simp only at ht hp
  exact ⟨by rw [ht, hp], hx⟩

end Frame

/-! ## Garbage and beginnings of frames -/

/-- bytes between frames: single ones other than the first magic byte, and pairs of that byte with another one than the
second -/
inductive Garbage : Bytes → Prop where
  | nil : Garbage []
  | byte {b : UInt8} {g : Bytes} : b ≠ Frame.magic1 → Garbage g → Garbage (b :: g)
  | pair {b : UInt8} {g : Bytes} : b ≠ Frame.magic2 → Garbage g → Garbage (Frame.magic1 :: b :: g)

/-- the beginning of a frame, not empty and not the whole frame -/
def Incomplete (r : Bytes) : Prop :=
  r ≠ [] ∧ ∃ f : Frame, f.Fits ∧ r <+: f.wire ∧ r ≠ f.wire

namespace Decoder

theorem feed_garbage {d : Decoder} (h : d.phase = .magic1) {g : Bytes} (hg : Garbage g) : d.feed g = (d, []) := by
  obtain ⟨phase, t, lo, e, r⟩ := d
  obtain rfl : phase = .magic1 := h
  induction hg with
  | nil => rfl
  | byte hb _ ih => simp [feed_cons, byte, round, hb, ih]
  | pair hb _ ih => simp [feed_cons, byte, round, hb, ih]

/-- an idle decoder that has last seen this frame -/
def afterFrame (f : Frame) : Decoder :=
  { fresh with typeByte := f.typeByte, sizeLow := f.sizeLow }

/-- the decoder behind the header of a frame -/
theorem feed_header {d : Decoder} (h : d.phase = .magic1) {f : Frame} (hf : f.Fits) :
    d.feed [Frame.magic1, Frame.magic2, f.typeByte, f.sizeLow, f.sizeHigh] =
      if f.payload = [] then (afterFrame f, [f])
      else (⟨.payload, f.typeByte, f.sizeLow, f.payload.length, #[]⟩, []) := by
  obtain ⟨phase, t, lo, e, r⟩ := d
  obtain rfl : phase = .magic1 := h
  simp only [feed_cons, feed_nil, byte, round, if_true, Frame.size_eq hf, List.length_eq_zero_iff]
  split_ifs with hp
  · obtain ⟨t, p⟩ := f
    obtain rfl : p = [] := hp
    rfl
  · rfl

theorem feed_wire {d : Decoder} (h : d.phase = .magic1) {f : Frame} (hf : f.Fits) :
    d.feed f.wire = (afterFrame f, [f]) := by
  rw [Frame.wire_eq, feed_append, feed_header h hf]
  split_ifs with hp
  · rw [hp]; rfl
  · rw [feed_payload_all rfl hp (Nat.zero_add _)]
    rfl

/-- **The beginning of a frame** completes nothing and leaves a decoder that waits for the rest. -/
theorem feed_incomplete {d : Decoder} (h : d.phase = .magic1) {r : Bytes} (hr : Incomplete r) :
    (d.feed r).1.phase ≠ .magic1 ∧ (d.feed r).2 = [] := by
  obtain ⟨hne, f, hf, hpre, hpart⟩ := hr
  rw [Frame.wire_eq] at hpre hpart
  rcases Nat.lt_or_ge r.length 5 with hshort | hlong
  · -- within the header
    obtain ⟨phase, t, lo, e, a⟩ := d
    obtain rfl : phase = .magic1 := h
    rcases r with _ | ⟨b0, _ | ⟨b1, _ | ⟨b2, _ | ⟨b3, _ | ⟨b4, q⟩⟩⟩⟩⟩
    · exact absurd rfl hne
    · obtain rfl : b0 = Frame.magic1 := by simpa using hpre
      simp [feed_cons, byte, round]
    · obtain ⟨rfl, rfl⟩ : b0 = Frame.magic1 ∧ b1 = Frame.magic2 := by simpa using hpre
      simp [feed_cons, byte, round]
    · obtain ⟨rfl, rfl, -⟩ : b0 = Frame.magic1 ∧ b1 = Frame.magic2 ∧ b2 = f.typeByte := by simpa using hpre
      simp [feed_cons, byte, round]
    · obtain ⟨rfl, rfl, -⟩ : b0 = Frame.magic1 ∧ b1 = Frame.magic2 ∧ b2 = f.typeByte ∧ b3 = f.sizeLow := by
        simpa using hpre
      simp [feed_cons, byte, round]
    · simp only [List.length_cons] at hshort
      omega
  · -- within the payload
    obtain ⟨q, rfl⟩ : ∃ q, r = [Frame.magic1, Frame.magic2, f.typeByte, f.sizeLow, f.sizeHigh] ++ q := by
      obtain ⟨q, hq⟩ := List.prefix_of_prefix_length_le (List.prefix_append _ f.payload) hpre hlong
      exact ⟨q, hq.symm⟩
    rw [List.prefix_append_right_inj] at hpre
    have hq : q ≠ f.payload := fun heq => hpart (by rw [heq])
    have hlt : q.length < f.payload.length :=
      Nat.lt_of_le_of_ne hpre.length_le fun heq => hq (hpre.eq_of_length heq)
    rw [feed_append, feed_header h hf, if_neg (fun hnil => by simp [hnil] at hlt),
      feed_payload rfl q (by simpa using hlt)]
    exact ⟨fun hp => DecoderPhase.noConfusion hp, rfl⟩

end Decoder

end RemoteShutter
