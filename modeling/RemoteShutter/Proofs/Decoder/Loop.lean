/-
The decoding loop ends, and never reaches outside its chunk.

- `pass?`: one pass of the loop at a place of the chunk, with a guard at each byte and each piece that is taken and at
  each difference. `loop?`: the passes one after the other, as long as there are bytes, with a record of them. Both stop
  with `none` where a guard does, and the loop also does if it takes more passes than it is allowed.
- `pass?_eq`: a well-formed decoder gets through a pass, which does what a round does and takes the same bytes.
- `exists_pass`, `loop?_eq`: so each pass comes to a place further on, and the loop goes through and does what `feed`
  does. The passes take all places in their order (`Covers`).
- `decode_within_bounds`: so `decode` is the guarded loop, for every reachable decoder and every chunk.
-/
import Mathlib.Tactic
import RemoteShutter.Proofs.Decoder.Feed
import RemoteShutter.Proofs.Ring.BoundedQueue

namespace RemoteShutter.Decoder

open RemoteShutter.Ring (sub? sub?_of_le piece? piece?_of_le)

/-! ## The loop with its guards -/

/-- one pass at place `i`: the decoder behind it, the frame it completed if any, and the next place -/
def pass? (d : Decoder) (chunk : Bytes) (i : Nat) : Option (Decoder × Option Frame × Nat) :=
  match d.phase with
  | .magic1 => do
    let b ← chunk[i]?
    return (if b = Frame.magic1 then { d with phase := .magic2 } else d, none, i + 1)
  | .magic2 => do
    let b ← chunk[i]?
    return ({ d with phase := if b = Frame.magic2 then .typeByte else .magic1 }, none, i + 1)
  | .typeByte => do
    let b ← chunk[i]?
    return ({ d with phase := .sizeLow, typeByte := b }, none, i + 1)
  | .sizeLow => do
    let b ← chunk[i]?
    return ({ d with phase := .sizeHigh, sizeLow := b }, none, i + 1)
  | .sizeHigh => do
    let b ← chunk[i]?
    let size := d.sizeLow.toNat + 256 * b.toNat
    let d' := { d with expected := size, received := #[] }
    if size = 0 then
      let (d'', f) := d'.finish
      return (d'', f, i + 1)
    else return ({ d' with phase := .payload }, none, i + 1)
  | .payload => do
    let wanted ← sub? d.expected d.received.size
    let count := min wanted (← sub? chunk.length i)
    let d' := { d with received := d.received ++ (← piece? chunk i (i + count)) }
    if d'.received.size = d.expected then
      let (d'', f) := d'.finish
      return (d'', f, i + count)
    else return (d', none, i + count)

/-- a pass that was made: the decoder in front of it, and the places it took, from `start` up to `stop` -/
structure Pass where
  decoder : Decoder
  start : Nat
  stop : Nat
  deriving DecidableEq, Repr

def Pass.places (p : Pass) : List Nat :=
  List.range' p.start (p.stop - p.start)

/-- passes from place `i` to the end of the chunk, at most `limit` of them -/
def loop? (chunk : Bytes) : Nat → Decoder → Nat → Option (Decoder × List Frame × List Pass)
  | limit, d, i =>
    if i < chunk.length then
      match limit with
      | 0 => none
      | limit + 1 => do
        let (d', f, j) ← d.pass? chunk i
        let (d'', fs, passes) ← loop? chunk limit d' j
        return (d'', f.toList ++ fs, ⟨d, i, j⟩ :: passes)
    else some (d, [], [])

/-! ## No guard stops -/

variable {d : Decoder} {chunk : Bytes} {i : Nat} {b : UInt8} {bs : Bytes}

theorem getElem?_of_drop (hdrop : chunk.drop i = b :: bs) : chunk[i]? = some b := by
  rw [← List.head?_drop, hdrop]
  rfl

theorem length_of_drop (hdrop : chunk.drop i = b :: bs) : chunk.length = i + (b :: bs).length := by
  have hlength := congrArg List.length hdrop
  rw [List.length_drop, List.length_cons] at hlength
  rw [List.length_cons]
  omega

/-- a pass takes what is missing of the payload, or all that is left of the chunk -/
theorem pass?_payload (h : Wf d) (hp : d.phase = .payload) (hdrop : chunk.drop i = b :: bs) :
    d.pass? chunk i = some ((d.round b bs).decoder, (d.round b bs).frame,
      i + ((b :: bs).length - (d.round b bs).rest.length)) := by
  have hmissing := h.receiving hp
  have hlength := length_of_drop hdrop
  set wanted := d.expected - d.received.size with hw
  have hwanted : sub? d.expected d.received.size = some wanted := sub?_of_le hmissing.le
  have hleft : sub? chunk.length i = some (b :: bs).length := by
    rw [sub?_of_le (by omega), hlength, Nat.add_sub_cancel_left]
  have hpiece : piece? chunk i (i + min wanted (b :: bs).length) = some ((b :: bs).take wanted) := by
    rw [piece?_of_le (by omega) (by omega), hdrop, Nat.add_sub_cancel_left, ← List.take_eq_take_min]
  have hcount : (b :: bs).length - ((b :: bs).drop wanted).length = min wanted (b :: bs).length := by
    rw [List.length_drop]
    omega
  simp only [pass?, hp, hwanted, hleft, hpiece, Option.bind_eq_bind, Option.bind_some, size_appendList]
  rw [round_payload hp, ← hw]
  dsimp only
  split_ifs
  · rw [hcount]
    simp [finish, reset]
  · rw [hcount, hp]
    rfl

/-- **A pass of a well-formed decoder goes through**, and does what a round does on the bytes that are left. -/
theorem pass?_eq (h : Wf d) (hdrop : chunk.drop i = b :: bs) :
    d.pass? chunk i = some ((d.round b bs).decoder, (d.round b bs).frame,
      i + ((b :: bs).length - (d.round b bs).rest.length)) := by
  by_cases hp : d.phase = .payload
  · exact pass?_payload h hp hdrop
  · have hbyte := getElem?_of_drop hdrop
    have hone : (b :: bs).length - bs.length = 1 := Nat.add_sub_cancel_left bs.length 1
    obtain ⟨phase, t, lo, e, r⟩ := d
    cases phase with
    | payload => exact absurd rfl hp
    | magic1 =>
      simp only [pass?, round, hbyte, Option.bind_eq_bind, Option.bind_some, hone]
      split_ifs <;> rfl
    | magic2 | typeByte | sizeLow =>
      simp only [pass?, round, hbyte, Option.bind_eq_bind, Option.bind_some, hone]
      rfl
    | sizeHigh =>
      simp only [pass?, round, hbyte, Option.bind_eq_bind, Option.bind_some]
      split_ifs
      · simp only [hone]
        rfl
      · simp only [hone]
        rfl

/-! ## The loop -/

theorem run_concat (d : Decoder) (es : List Event) (e : Event) : (d.run (es ++ [e])).1 = ((d.run es).1.step e).1 := by
  induction es generalizing d with
  | nil => rfl
  | cons e' es ih => exact ih (d.step e').1

theorem Reachable.feed (hd : d.Reachable) (bs : Bytes) : (d.feed bs).1.Reachable := by
  have hw := reachable_wf hd
  obtain ⟨es, rfl⟩ := hd
  refine ⟨es ++ [.chunk bs], ?_⟩
  rw [run_concat, step, decode_eq_feed hw]

/-- the passes take the places from `i` up to `n`, each place once and some in each pass, and begin with decoders that
chunks and resets can bring about -/
structure Covers (passes : List Pass) (i n : Nat) : Prop where
  length_le : passes.length ≤ n - i
  each : ∀ p ∈ passes, p.start < p.stop ∧ p.decoder.Reachable
  places : passes.flatMap Pass.places = List.range' i (n - i)

theorem covers_nil (i : Nat) : Covers [] i i :=
  ⟨Nat.zero_le _, nofun, by rw [Nat.sub_self]; rfl⟩

theorem covers_cons {passes : List Pass} {j n : Nat} (hd : d.Reachable) (hij : i < j) (hjn : j ≤ n)
    (h : Covers passes j n) : Covers (⟨d, i, j⟩ :: passes) i n := by
  refine ⟨?_, ?_, ?_⟩
  · have hle := h.length_le
    rw [List.length_cons]
    omega
  · intro p hp
    rcases List.mem_cons.1 hp with rfl | hp
    · exact ⟨hij, hd⟩
    · exact h.each p hp
  · have hstop : i + (j - i) = j := Nat.add_sub_of_le hij.le
    have hall : (j - i) + (n - j) = n - i := by omega
    calc (⟨d, i, j⟩ :: passes : List Pass).flatMap Pass.places
        = List.range' i (j - i) ++ List.range' (i + (j - i)) (n - j) := by
          rw [List.flatMap_cons, h.places, hstop]
          rfl
      _ = List.range' i (n - i) := by rw [List.range'_append_1, hall]

/-- what a pass leaves: a place further on in the chunk, with the bytes that a round leaves behind it -/
theorem exists_pass (hd : d.Reachable) (hdrop : chunk.drop i = b :: bs) :
    ∃ j, d.pass? chunk i = some ((d.round b bs).decoder, (d.round b bs).frame, j) ∧ i < j ∧ j ≤ chunk.length ∧
      chunk.drop j = (d.round b bs).rest ∧ (d.round b bs).decoder.Reachable := by
  have hw := reachable_wf hd
  have hlength := length_of_drop hdrop
  have hpass := pass?_eq hw hdrop
  obtain ⟨taken, hne, hsplit, hfeed⟩ := round_takes hw b bs
  have hsome : 0 < taken.length := List.length_pos_iff.2 hne
  have hall : (b :: bs).length = taken.length + (d.round b bs).rest.length := by
    rw [← List.length_append, ← hsplit]
  have htaken : (b :: bs).length - (d.round b bs).rest.length = taken.length := by omega
  rw [htaken] at hpass
  refine ⟨i + taken.length, hpass, by omega, by omega, ?_, ?_⟩
  · rw [← List.drop_drop, hdrop, hsplit, List.drop_left]
  · have hreachable := hd.feed taken
    rwa [hfeed] at hreachable

theorem loop?_end (chunk : Bytes) (limit : Nat) (d : Decoder) : loop? chunk limit d chunk.length = some (d, [], []) := by
  cases limit <;> simp [loop?]

/-- **The loop goes through** if it may take as many passes as there are bytes left, or more, and does what `feed` does. -/
theorem loop?_eq (hd : d.Reachable) (hi : i ≤ chunk.length) :
    ∃ passes, Covers passes i chunk.length ∧ ∀ limit, chunk.length - i ≤ limit →
      loop? chunk limit d i = some ((d.feed (chunk.drop i)).1, (d.feed (chunk.drop i)).2, passes) := by
  induction hn : chunk.length - i using Nat.strong_induction_on generalizing d i with
  | _ n ih =>
    subst hn
    rcases hdrop : chunk.drop i with _ | ⟨b, bs⟩
    · obtain rfl : i = chunk.length := Nat.le_antisymm hi (List.drop_eq_nil_iff.1 hdrop)
      exact ⟨[], covers_nil _, fun limit _ => loop?_end chunk limit d⟩
    · obtain ⟨j, hpass, hij, hj, hrest, hnext⟩ := exists_pass hd hdrop
      obtain ⟨passes, hcovers, hloop⟩ := ih _ (by omega) hnext hj rfl
      refine ⟨⟨d, i, j⟩ :: passes, covers_cons hd hij hj hcovers, ?_⟩
      intro limit hlimit
      obtain ⟨limit, rfl⟩ : ∃ fewer, limit = fewer + 1 := ⟨limit - 1, by omega⟩
      rw [hrest] at hloop
      rw [loop?, if_pos (by omega)]
      simp only [hpass, hloop limit (by omega), Option.bind_eq_bind, Option.bind_some]
      rw [feed_round (reachable_wf hd)]
      rfl

/-- **The decoding loop ends, and never reaches outside its chunk.** Take any decoder that chunks and resets can bring
about, and any chunk. The size that the decoder expects is at most 65535; while it receives a payload some of it is
missing, and otherwise nothing of one is there. The loop, with a guard at each byte, each piece and each difference, goes
through and does what `decode` does. It makes as many passes as the chunk has bytes, or fewer, and the same ones if it is
allowed more. Each pass takes some bytes, and begins with a decoder that chunks and resets can bring about. The places that
the passes take are those of the chunk, in their order and each of them once. -/
theorem decode_within_bounds {d : Decoder} (hd : d.Reachable) :
    (d.expected ≤ 65535 ∧ (d.phase = .payload → d.received.size < d.expected) ∧
        (d.phase ≠ .payload → d.received = #[])) ∧
      ∀ chunk : Bytes, ∃ passes : List Pass,
        (∀ limit, chunk.length ≤ limit →
          loop? chunk limit d 0 = some ((d.decode chunk).1, (d.decode chunk).2, passes)) ∧
        passes.length ≤ chunk.length ∧ (∀ p ∈ passes, p.start < p.stop ∧ p.decoder.Reachable) ∧
        passes.flatMap Pass.places = List.range chunk.length := by
  have hw := reachable_wf hd
  refine ⟨⟨hw.expected_le, hw.receiving, fun h => (hw.waiting h).2⟩, ?_⟩
  intro chunk
  obtain ⟨passes, hcovers, hloop⟩ := loop?_eq hd (Nat.zero_le chunk.length)
  refine ⟨passes, ?_, hcovers.length_le, hcovers.each, ?_⟩
  · intro limit hlimit
    rw [decode_eq_feed hw]
    exact hloop limit hlimit
  · rw [hcovers.places, Nat.sub_zero, List.range_eq_range']

/-- the end of a payload, a magic byte too many, a frame without payload, and a header that promises more than ever comes -/
theorem decode_within_bounds_hostile :
    let d := (fresh.decode [0x54, 0xF0, 7, 3, 0, 1]).1
    let chunk : Bytes := [2, 3, 0x54, 0x54, 0x54, 0xF0, 9, 0, 0, 0x54, 0xF0, 1, 0xFF, 0xFF, 5, 6]
    d.Reachable ∧ d.phase = .payload ∧ d.received.size < d.expected ∧
      (d.decode chunk).2 = [⟨7, [1, 2, 3]⟩, ⟨9, []⟩] ∧ (d.decode chunk).1.expected = 65535 ∧
      ∃ passes : List Pass, loop? chunk 16 d 0 = some ((d.decode chunk).1, (d.decode chunk).2, passes) ∧
        passes.map Pass.start = [0, 2, 3, 4, 5, 6, 7, 8, 9, 10, 11, 12, 13, 14] ∧
        passes.flatMap Pass.places = List.range 16 := by
  intro d chunk
  have hd : d.Reachable := ⟨[.chunk [0x54, 0xF0, 7, 3, 0, 1]], rfl⟩
  obtain ⟨⟨-, hmissing, -⟩, hloops⟩ := decode_within_bounds hd
  obtain ⟨passes, hloop, -, -, hplaces⟩ := hloops chunk
  have hrun := hloop 16 le_rfl
  have hstarts : (loop? chunk 16 d 0).map (·.2.2.map Pass.start) =
      some [0, 2, 3, 4, 5, 6, 7, 8, 9, 10, 11, 12, 13, 14] := by decide +kernel
  rw [hrun] at hstarts
  exact ⟨hd, rfl, hmissing rfl, by decide +kernel, by decide +kernel, passes, hrun, Option.some.inj hstarts, hplaces⟩

end RemoteShutter.Decoder
