/-
The decoder byte by byte.

`decode` takes payload bytes in bulk, as many as the chunk has. `feed` gives it one byte at a time, by rounds on chunks
of one byte. The two agree (`decode_eq_feed`), so a cut between chunks is a cut between bytes and nobody can see it.

- `Wf`: a size never exceeds the largest payload; while a payload is received some of it is missing, and otherwise
  nothing of one is there. Without the second point a round might take no byte at all.
- `round_takes`: a round takes at least one byte, and does what `feed` does with the bytes it takes.
- `reachable_wf`: whatever chunks and resets a decoder has seen, it is well-formed.
- `chunking_invisible`: two chunks are one, and any two ways of cutting a stream give the same frames and the same
  decoder.
-/
import Mathlib.Tactic
import RemoteShutter.Frame.Decoder

namespace RemoteShutter.Decoder

/-! ## One byte at a time -/

/-- a round on a chunk of one byte -/
def byte (d : Decoder) (b : UInt8) : Decoder × Option Frame :=
  ((d.round b []).decoder, (d.round b []).frame)

def feed (d : Decoder) : Bytes → Decoder × List Frame
  | [] => (d, [])
  | b :: bs =>
    let (d', f) := d.byte b
    let (d'', fs) := d'.feed bs
    (d'', f.toList ++ fs)

@[simp] theorem feed_nil (d : Decoder) : d.feed [] = (d, []) := rfl

theorem feed_cons (d : Decoder) (b : UInt8) (bs : Bytes) :
    d.feed (b :: bs) = (((d.byte b).1.feed bs).1, (d.byte b).2.toList ++ ((d.byte b).1.feed bs).2) := rfl

theorem feed_append (d : Decoder) (a b : Bytes) :
    d.feed (a ++ b) = (((d.feed a).1.feed b).1, (d.feed a).2 ++ ((d.feed a).1.feed b).2) := by
  induction a generalizing d with
  | nil => rfl
  | cons x a ih => rw [List.cons_append, feed_cons, feed_cons, ih, List.append_assoc]

/-- outside of a payload a round takes one byte, however long the chunk is -/
theorem round_of_ne_payload {d : Decoder} (h : d.phase ≠ .payload) (b : UInt8) (bs : Bytes) :
    d.round b bs = ⟨(d.byte b).1, (d.byte b).2, bs⟩ := by
  obtain ⟨phase, t, lo, e, r⟩ := d
  cases phase with
  | payload => exact absurd rfl h
  | sizeHigh => simp only [byte, round]; split_ifs <;> rfl
  | _ => rfl

theorem size_appendList (xs : Array UInt8) (bs : Bytes) : (xs ++ bs).size = xs.size + bs.length := by
  rw [← Array.length_toList, Array.toList_appendList, List.length_append, Array.length_toList]

/-- within a payload a round takes what is missing, or all there is -/
theorem round_payload {d : Decoder} (h : d.phase = .payload) (b : UInt8) (bs : Bytes) :
    d.round b bs =
      let taken := (b :: bs).take (d.expected - d.received.size)
      let rest := (b :: bs).drop (d.expected - d.received.size)
      if d.received.size + taken.length = d.expected then ⟨d.reset, some ⟨d.typeByte, d.received.toList ++ taken⟩, rest⟩
      else ⟨{ d with received := d.received ++ taken }, none, rest⟩ := by
  obtain ⟨phase, t, lo, e, r⟩ := d
  obtain rfl : phase = .payload := h
  simp only [round, size_appendList]
  split_ifs with hall
  · simp [finish, reset]
  · rfl

theorem byte_payload {d : Decoder} (h : d.phase = .payload) (hlt : d.received.size < d.expected) (b : UInt8) :
    d.byte b = if d.received.size + 1 = d.expected then (d.reset, some ⟨d.typeByte, d.received.toList ++ [b]⟩)
      else ({ d with received := d.received ++ [b] }, none) := by
  have htake : [b].take (d.expected - d.received.size) = [b] := List.take_of_length_le (by simp; omega)
  simp only [byte, round_payload h, htake, List.length_singleton]
  split_ifs <;> rfl

/-- payload bytes short of the last one -/
theorem feed_payload {d : Decoder} (h : d.phase = .payload) (p : Bytes)
    (hlt : d.received.size + p.length < d.expected) :
    d.feed p = ({ d with received := d.received ++ p }, []) := by
  induction p generalizing d with
  | nil => simp
  | cons b p ih =>
    rw [List.length_cons] at hlt
    rw [feed_cons, byte_payload h (by omega), if_neg (by omega)]
    have hsize := size_appendList d.received [b]
    rw [List.length_singleton] at hsize
    rw [ih (d := { d with received := d.received ++ [b] }) h (by dsimp only; omega)]
    simp

/-- payload bytes up to the last one complete the frame -/
theorem feed_payload_all {d : Decoder} (h : d.phase = .payload) {p : Bytes} (hne : p ≠ [])
    (heq : d.received.size + p.length = d.expected) :
    d.feed p = (d.reset, [⟨d.typeByte, d.received.toList ++ p⟩]) := by
  obtain ⟨init, last, rfl⟩ : ∃ init last, p = init ++ [last] :=
    ⟨p.dropLast, p.getLast hne, (List.dropLast_concat_getLast hne).symm⟩
  rw [List.length_append, List.length_singleton] at heq
  rw [feed_append, feed_payload h init (by omega), feed_cons]
  have hsize := size_appendList d.received init
  rw [byte_payload (d := { d with received := d.received ++ init }) h (by dsimp only; omega),
    if_pos (by dsimp only; omega)]
  simp [reset]

/-! ## Well-formed decoders -/

structure Wf (d : Decoder) : Prop where
  expected_le : d.expected ≤ Frame.maxPayload
  /-- some byte of the payload is missing -/
  receiving : d.phase = .payload → d.received.size < d.expected
  /-- nothing of a payload is there -/
  waiting : d.phase ≠ .payload → d.expected = 0 ∧ d.received = #[]

theorem wf_fresh : Wf fresh :=
  ⟨Nat.zero_le _, fun h => DecoderPhase.noConfusion h, fun _ => ⟨rfl, rfl⟩⟩

theorem wf_reset (d : Decoder) : Wf d.reset :=
  ⟨Nat.zero_le _, fun h => DecoderPhase.noConfusion h, fun _ => ⟨rfl, rfl⟩⟩

theorem wf_round {d : Decoder} (h : Wf d) (b : UInt8) (bs : Bytes) : Wf (d.round b bs).decoder := by
  by_cases hp : d.phase = .payload
  · have hlt := h.receiving hp
    have hle : ((b :: bs).take (d.expected - d.received.size)).length ≤ d.expected - d.received.size :=
      List.length_take_le _ _
    rw [round_payload hp]
    dsimp only
    split_ifs with hall
    · exact wf_reset d
    · refine ⟨h.expected_le, fun _ => ?_, fun hn => absurd hp hn⟩
      rw [size_appendList]
      exact Nat.lt_of_le_of_ne (by dsimp only; omega) hall
  · obtain ⟨he, hr⟩ := h.waiting hp
    obtain ⟨phase, t, lo, e, r⟩ := d
    obtain rfl : e = 0 := he
    obtain rfl : r = #[] := hr
    cases phase with
    | payload => exact absurd rfl hp
    | sizeHigh =>
      have hlo := lo.toNat_lt
      have hb := b.toNat_lt
      simp only [round]
      split_ifs with hz
      · exact wf_reset _
      · refine ⟨?_, fun _ => Nat.pos_of_ne_zero hz, fun hn => absurd rfl hn⟩
        simp only [Frame.maxPayload]; omega
    | magic1 | magic2 =>
      refine ⟨Nat.zero_le _, fun hn => ?_, fun _ => ⟨rfl, rfl⟩⟩
      simp only [round] at hn
      split_ifs at hn
    | typeByte | sizeLow => exact ⟨Nat.zero_le _, fun hn => DecoderPhase.noConfusion hn, fun _ => ⟨rfl, rfl⟩⟩

theorem wf_byte {d : Decoder} (h : Wf d) (b : UInt8) : Wf (d.byte b).1 := wf_round h b []

theorem wf_feed {d : Decoder} (h : Wf d) (bs : Bytes) : Wf (d.feed bs).1 := by
  induction bs generalizing d with
  | nil => exact h
  | cons b bs ih => exact ih (wf_byte h b)

/-! ## Rounds -/

/-- **A round does what `feed` does** with the bytes it takes, of which there is at least one. -/
theorem round_takes {d : Decoder} (h : Wf d) (b : UInt8) (bs : Bytes) :
    ∃ taken, taken ≠ [] ∧ b :: bs = taken ++ (d.round b bs).rest ∧
      d.feed taken = ((d.round b bs).decoder, (d.round b bs).frame.toList) := by
  by_cases hp : d.phase = .payload
  · have hlt := h.receiving hp
    set wanted := d.expected - d.received.size with hw
    set taken := (b :: bs).take wanted with ht
    have hlen : taken.length = min wanted (bs.length + 1) := by rw [ht, List.length_take, List.length_cons]
    have hne : taken ≠ [] := by
      rw [← List.length_pos_iff]
      omega
    have hsplit : b :: bs = taken ++ (b :: bs).drop wanted := (List.take_append_drop _ _).symm
    refine ⟨taken, hne, ?_⟩
    rw [round_payload hp, ← hw]
    dsimp only
    rw [← ht]
    split_ifs with hall
    · exact ⟨hsplit, feed_payload_all hp hne hall⟩
    · exact ⟨hsplit, feed_payload hp taken (by omega)⟩
  · rw [round_of_ne_payload hp]
    exact ⟨[b], List.cons_ne_nil _ _, rfl, by rw [feed_cons, feed_nil, List.append_nil]⟩

/-- what a round leaves is an end of the chunk, without the byte it began with -/
theorem rest_round {d : Decoder} (h : Wf d) (b : UInt8) (bs : Bytes) : (d.round b bs).rest <:+ bs := by
  obtain ⟨taken, hne, hsplit, -⟩ := round_takes h b bs
  cases taken with
  | nil => exact absurd rfl hne
  | cons x taken =>
    rw [List.cons_append] at hsplit
    exact ⟨taken, (List.cons.inj hsplit).2.symm⟩

theorem feed_round {d : Decoder} (h : Wf d) (b : UInt8) (bs : Bytes) :
    d.feed (b :: bs) = (((d.round b bs).decoder.feed (d.round b bs).rest).1,
      (d.round b bs).frame.toList ++ ((d.round b bs).decoder.feed (d.round b bs).rest).2) := by
  obtain ⟨taken, -, hsplit, hfeed⟩ := round_takes h b bs
  calc d.feed (b :: bs) = d.feed (taken ++ (d.round b bs).rest) := by rw [← hsplit]
    _ = _ := by rw [feed_append, hfeed]

theorem rounds_eq_feed {d : Decoder} (h : Wf d) {fuel : Nat} {bs : Bytes} (hf : bs.length ≤ fuel) (seen : Array Frame) :
    rounds fuel d bs seen = ((d.feed bs).1, seen ++ (d.feed bs).2) := by
  induction fuel generalizing d bs seen with
  | zero =>
    obtain rfl : bs = [] := List.length_eq_zero_iff.1 (by omega)
    simp [rounds]
  | succ fuel ih =>
    cases bs with
    | nil => simp [rounds]
    | cons b bs =>
      have hwf := wf_round h b bs
      have hle := (rest_round h b bs).length_le
      rw [List.length_cons] at hf
      rw [feed_round h, rounds]
      rcases hr : d.round b bs with ⟨d', _ | f, rest⟩
      · rw [hr] at hwf hle
        simp only [ih hwf (Nat.le_trans hle (by omega))]
        simp
      · rw [hr] at hwf hle
        simp only [ih hwf (Nat.le_trans hle (by omega))]
        simp

/-- **Taking payload bytes in bulk is taking them one by one.** -/
theorem decode_eq_feed {d : Decoder} (h : Wf d) (bs : Bytes) : d.decode bs = d.feed bs := by
  simp [decode, rounds_eq_feed h le_rfl]

/-! ## Reachable decoders -/

/-- what can happen to a decoder -/
inductive Event where
  | chunk (bs : Bytes)
  | reset
  deriving DecidableEq, Repr

def step (d : Decoder) : Event → Decoder × List Frame
  | .chunk bs => d.decode bs
  | .reset => (d.reset, [])

/-- the decoder after the events, and the frames that each of them completed -/
def run (d : Decoder) : List Event → Decoder × List (List Frame)
  | [] => (d, [])
  | e :: es =>
    let (d', fs) := d.step e
    let (d'', fss) := d'.run es
    (d'', fs :: fss)

def Reachable (d : Decoder) : Prop :=
  ∃ es, (fresh.run es).1 = d

theorem wf_decode {d : Decoder} (h : Wf d) (bs : Bytes) : Wf (d.decode bs).1 := by
  rw [decode_eq_feed h]
  exact wf_feed h bs

theorem wf_step {d : Decoder} (h : Wf d) (e : Event) : Wf (d.step e).1 := by
  cases e with
  | chunk bs => exact wf_decode h bs
  | reset => exact wf_reset d

theorem wf_run {d : Decoder} (h : Wf d) (es : List Event) : Wf (d.run es).1 := by
  induction es generalizing d with
  | nil => exact h
  | cons e es ih => exact ih (wf_step h e)

theorem reachable_wf {d : Decoder} (h : d.Reachable) : Wf d := by
  obtain ⟨es, rfl⟩ := h
  exact wf_run wf_fresh es

/-! ## Chunks -/

theorem decode_append {d : Decoder} (h : Wf d) (a b : Bytes) :
    d.decode (a ++ b) = (((d.decode a).1.decode b).1, (d.decode a).2 ++ ((d.decode a).1.decode b).2) := by
  rw [decode_eq_feed (wf_decode h a), decode_eq_feed h, decode_eq_feed h, feed_append]

theorem decodeAll_eq_decode {d : Decoder} (h : Wf d) (cs : List Bytes) : d.decodeAll cs = d.decode cs.flatten := by
  induction cs generalizing d with
  | nil => rw [List.flatten_nil, decode_eq_feed h]; rfl
  | cons c cs ih =>
    rw [List.flatten_cons, decode_append h, ← ih (wf_decode h c)]
    rfl

/-- **Chunking is invisible.** From every reachable decoder, a chunk and then another one give the frames of the two put
together, in the same order, and the same decoder; so do any two ways of cutting one stream, empty chunks included. -/
theorem chunking_invisible {d : Decoder} (hd : d.Reachable) :
    (∀ a b : Bytes, d.decode (a ++ b) =
        (((d.decode a).1.decode b).1, (d.decode a).2 ++ ((d.decode a).1.decode b).2)) ∧
      ∀ cs cs' : List Bytes, cs.flatten = cs'.flatten → d.decodeAll cs = d.decodeAll cs' := by
  have hw := reachable_wf hd
  refine ⟨decode_append hw, fun cs cs' heq => ?_⟩
  rw [decodeAll_eq_decode hw, decodeAll_eq_decode hw, heq]

/-- cuts within a payload, on the end of a frame and within the magic pair after it -/
theorem chunking_invisible_midway :
    let d := (fresh.decode [0x54, 0xF0, 7, 3, 0, 1]).1
    d.Reachable ∧ d.phase = .payload ∧
      d.decode ([2] ++ [3, 0x54]) =
        (((d.decode [2]).1.decode [3, 0x54]).1, (d.decode [2]).2 ++ ((d.decode [2]).1.decode [3, 0x54]).2) ∧
      d.decodeAll [[2, 3], [], [0x54], [0xF0]] = d.decodeAll [[2], [3, 0x54, 0xF0]] := by
  intro d
  have hd : d.Reachable := ⟨[.chunk [0x54, 0xF0, 7, 3, 0, 1]], rfl⟩
  obtain ⟨htwo, hcuts⟩ := chunking_invisible hd
  exact ⟨hd, rfl, htwo _ _, hcuts _ _ rfl⟩

end RemoteShutter.Decoder
