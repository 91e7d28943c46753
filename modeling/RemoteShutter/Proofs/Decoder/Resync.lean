/-
How soon a decoder finds frames again.

A damaged header may announce a payload that never comes, and the decoder swallows what follows as if it were that
payload. Bytes other than the first magic byte bring it back: they can end what was begun, and begin nothing.
- `owed`: the most such bytes that a decoder can take before it is idle. It is least when idle and greatest between the
  two magic bytes, where such bytes may still make up a whole frame of the largest size.
- `owed_byte`, `owed_feed`: each of them takes one off, and a frame comes out only with the last of what is owed.
- `incomplete_almostLargest`: all but the last byte of the largest frame leave a decoder that is not idle.
- `least_resynchronising`: 65539 of them bring every decoder back, and no smaller number does.
-/
import Mathlib.Tactic
import RemoteShutter.Proofs.Decoder.RoundTrip

namespace RemoteShutter.Decoder

variable {d : Decoder} {b : UInt8} {pad : Bytes}

/-! ## Bytes that begin nothing -/

/-- how many bytes other than the first magic byte the decoder can take at most before it is idle -/
def owed (d : Decoder) : Nat :=
  match d.phase with
  | .magic1 => 0
  | .magic2 => 4 + Frame.maxPayload
  | .typeByte => 3 + Frame.maxPayload
  | .sizeLow => 2 + Frame.maxPayload
  | .sizeHigh => 1 + (d.sizeLow.toNat + 256 * 255)
  | .payload => d.expected - d.received.size

/-- a frame is under way -/
def underWay (d : Decoder) : Nat :=
  (!d.isIdle).toNat

theorem underWay_le (d : Decoder) : d.underWay ≤ 1 :=
  Bool.toNat_le _

theorem owed_le (h : Wf d) : d.owed ≤ 65539 := by
  obtain ⟨phase, t, lo, e, r⟩ := d
  have hlo := lo.toNat_lt
  have hexpected : e ≤ Frame.maxPayload := h.expected_le
  cases phase <;> simp only [owed, Frame.maxPayload] at hexpected ⊢ <;> omega

/-- who owes nothing is idle -/
theorem isIdle_of_owed (h : Wf d) (hd : d.owed = 0) : d.isIdle = true := by
  obtain ⟨phase, t, lo, e, r⟩ := d
  cases phase with
  | magic1 => rfl
  | payload =>
    have hmissing : r.size < e := h.receiving rfl
    simp only [owed] at hd
    omega
  | _ =>
    simp only [owed] at hd
    omega

/-- **A byte that begins nothing takes one off what is owed.** It completes a frame only if one was under way and is not
any more. -/
theorem owed_byte (h : Wf d) (hb : b ≠ Frame.magic1) :
    (d.byte b).1.owed ≤ d.owed - 1 ∧ (d.byte b).2.toList.length + (d.byte b).1.underWay ≤ d.underWay := by
  by_cases hp : d.phase = .payload
  · have hmissing := h.receiving hp
    have howed : d.owed = d.expected - d.received.size := by rw [owed, hp]
    have hbusy : d.underWay = 1 := by rw [underWay, isIdle, hp]; rfl
    rw [byte_payload hp hmissing]
    split_ifs
    · exact ⟨Nat.zero_le _, by rw [hbusy]; rfl⟩
    · have hsize := size_appendList d.received [b]
      rw [List.length_singleton] at hsize
      refine ⟨?_, ?_⟩
      · simp only [owed, hp, hsize]
        omega
      · rw [hbusy]
        exact (Nat.zero_add _).trans_le (underWay_le _)
  · obtain ⟨phase, t, lo, e, r⟩ := d
    have hlo := lo.toNat_lt
    have hhigh := b.toNat_lt
    cases phase with
    | payload => exact absurd rfl hp
    | magic1 =>
      simp only [byte, round, if_neg hb]
      exact ⟨Nat.zero_le _, le_rfl⟩
    | magic2 =>
      simp only [byte, round]
      split_ifs
      · exact ⟨by simp only [owed]; omega, le_rfl⟩
      · exact ⟨Nat.zero_le _, Nat.zero_le _⟩
    | typeByte => exact ⟨by simp only [byte, round, owed]; omega, le_rfl⟩
    | sizeLow =>
      have hnew := b.toNat_lt
      exact ⟨by simp only [byte, round, owed, Frame.maxPayload]; omega, le_rfl⟩
    | sizeHigh =>
      simp only [byte, round]
      split_ifs
      · exact ⟨Nat.zero_le _, le_rfl⟩
      · refine ⟨?_, le_rfl⟩
        simp only [owed, Array.size_empty]
        omega

theorem owed_feed (h : Wf d) (hpad : Frame.magic1 ∉ pad) :
    (d.feed pad).1.owed ≤ d.owed - pad.length ∧ (d.feed pad).2.length + (d.feed pad).1.underWay ≤ d.underWay := by
  induction pad generalizing d with
  | nil => exact ⟨le_rfl, (Nat.zero_add _).le⟩
  | cons b pad ih =>
    rw [List.mem_cons, not_or] at hpad
    obtain ⟨howed, hframes⟩ := owed_byte h (Ne.symm hpad.1)
    obtain ⟨howeds, hframess⟩ := ih (wf_byte h b) hpad.2
    rw [feed_cons, List.length_cons]
    dsimp only
    rw [List.length_append]
    exact ⟨by omega, by omega⟩

/-! ## The longest swallow -/

/-- the largest frame, without the first magic byte and the last byte of its payload -/
def almostLargest : Bytes :=
  [Frame.magic2, 1, 0xFF, 0xFF] ++ List.replicate 65534 0

theorem length_almostLargest : almostLargest.length = 65538 := by
  rw [almostLargest, List.length_append, List.length_replicate]
  rfl

theorem magic1_notMem_almostLargest : Frame.magic1 ∉ almostLargest := by
  intro h
  rw [almostLargest, List.mem_append, List.mem_replicate] at h
  rcases h with h | ⟨-, h⟩
  · revert h
    decide
  · revert h
    decide

theorem incomplete_almostLargest : Incomplete (Frame.magic1 :: almostLargest) := by
  have hlength : (List.replicate 65535 (0 : UInt8)).length = (0xFF : UInt8).toNat + 256 * (0xFF : UInt8).toNat := by
    rw [List.length_replicate]
    rfl
  obtain ⟨hfits, hwire⟩ := Frame.wire_of_length 1 0xFF 0xFF hlength
  have hlast : List.replicate 65535 (0 : UInt8) = List.replicate 65534 0 ++ [0] := List.replicate_succ'
  have hsplit : Frame.wire ⟨1, List.replicate 65535 0⟩ = Frame.magic1 :: almostLargest ++ [0] := by
    rw [hwire, hlast, almostLargest]
    rfl
  refine ⟨List.cons_ne_nil _ _, _, hfits, ?_, ?_⟩
  · rw [hsplit]
    exact List.prefix_append _ _
  · rw [hsplit]
    intro h
    have hcount := congrArg List.length h
    rw [List.length_append, List.length_singleton] at hcount
    omega

/-! ## Resynchronisation -/

/-- `n` bytes or more other than the first magic byte bring every decoder back, in whatever chunks they come: they
complete one frame at most, the decoder is idle behind them, and it finds all frames that follow -/
def Resynchronises (n : Nat) : Prop :=
  ∀ d : Decoder, d.Reachable → ∀ pad : Bytes, n ≤ pad.length → Frame.magic1 ∉ pad →
    (d.decode pad).2.length ≤ 1 ∧ (d.decode pad).1.isIdle = true ∧
      ∀ (fs : List Frame) (cs : List Bytes), (∀ f ∈ fs, f.Fits) → cs.flatten = pad ++ (fs.map Frame.wire).flatten →
        (d.decodeAll cs).2 = (d.decode pad).2 ++ fs ∧ (d.decodeAll cs).1.isIdle = true

theorem resynchronises {n : Nat} (hn : 65539 ≤ n) : Resynchronises n := by
  intro d hd pad hlength hpad
  have hw := reachable_wf hd
  obtain ⟨howed, hframes⟩ := owed_feed hw hpad
  have hbound := owed_le hw
  have hidle : (d.feed pad).1.isIdle = true := isIdle_of_owed (wf_feed hw pad) (by omega)
  have hone := underWay_le d
  rw [decode_eq_feed hw]
  refine ⟨by omega, hidle, ?_⟩
  intro fs cs hfs hcs
  obtain ⟨hfound, hphase⟩ := feed_wires ((isIdle_iff _).1 hidle) hfs
  rw [decodeAll_eq_decode hw, decode_eq_feed hw, hcs, feed_append, hfound]
  exact ⟨rfl, (isIdle_iff _).2 hphase⟩

/-- a decoder that has seen the first magic byte waits for the rest of the frame -/
theorem not_idle_of_incomplete {bs : Bytes} (h : Incomplete (Frame.magic1 :: bs)) :
    ((fresh.decode [Frame.magic1]).1.decode bs).1.isIdle = false := by
  obtain ⟨hphase, -⟩ := feed_incomplete (d := fresh) rfl h
  have happend := congrArg Prod.fst (decode_append wf_fresh [Frame.magic1] bs)
  dsimp only at happend
  rw [← happend, ← Bool.not_eq_true, isIdle_iff, decode_eq_feed wf_fresh, List.singleton_append]
  exact hphase

/-- **Resynchronisation is bounded.** From every reachable decoder, in any chunks, 65539 bytes or more none of which is
the first magic byte complete at most one frame and leave the decoder idle, so that it finds every frame behind them.
No smaller number of bytes will do: behind the first magic byte 65538 others may leave a decoder that is not idle. -/
theorem least_resynchronising :
    IsLeast {n | Resynchronises n} 65539 ∧
      ∃ (d : Decoder) (pad : Bytes), d.Reachable ∧ pad.length = 65538 ∧ Frame.magic1 ∉ pad ∧
        (d.decode pad).1.isIdle = false := by
  have hreachable : (fresh.decode [Frame.magic1]).1.Reachable := ⟨[.chunk [Frame.magic1]], rfl⟩
  refine ⟨⟨resynchronises le_rfl, fun n hn => ?_⟩, _, almostLargest, hreachable, length_almostLargest,
    magic1_notMem_almostLargest, not_idle_of_incomplete incomplete_almostLargest⟩
  by_contra hlt
  have hle : n ≤ almostLargest.length := by
    rw [length_almostLargest]
    omega
  have hidle := (hn _ hreachable almostLargest hle magic1_notMem_almostLargest).2.1
  rw [not_idle_of_incomplete incomplete_almostLargest] at hidle
  cases hidle

end RemoteShutter.Decoder
