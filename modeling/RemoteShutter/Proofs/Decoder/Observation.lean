/-
What can be seen of a decoder.

Who feeds a decoder and resets it sees the frames that come out, and whether the decoder is idle after each event.
Fields that the phase does not need are not seen: a reset leaves the type byte and the low size byte of the last header
where they are, and so does the end of a frame.
- `live`: a decoder without the fields that are dead in its phase. An idle decoder has no others.
- `round_congr`, `decode_congr`: decoders with the same live fields take the same bytes and give the same frames, and
  have the same live fields again.
- `idle_as_good_as_new`: an idle decoder cannot be told from a fresh one, and so a reset one cannot.
-/
import Mathlib.Tactic
import RemoteShutter.Proofs.Decoder.Feed

namespace RemoteShutter.Decoder

variable {d d' : Decoder}

/-! ## Live fields -/

/-- the decoder without the fields that are dead in its phase: a header is filled in from the left, and all that is
known of it when a payload begins is used until the payload ends, but for the low size byte -/
def live : Decoder → Decoder
  | ⟨.magic1, _, _, _, _⟩ => fresh
  | ⟨.magic2, _, _, _, _⟩ => { fresh with phase := .magic2 }
  | ⟨.typeByte, _, _, _, _⟩ => { fresh with phase := .typeByte }
  | ⟨.sizeLow, t, _, _, _⟩ => { fresh with phase := .sizeLow, typeByte := t }
  | ⟨.sizeHigh, t, lo, _, _⟩ => { fresh with phase := .sizeHigh, typeByte := t, sizeLow := lo }
  | ⟨.payload, t, _, e, r⟩ => ⟨.payload, t, 0, e, r⟩

@[simp] theorem phase_live (d : Decoder) : d.live.phase = d.phase := by
  obtain ⟨phase, t, lo, e, r⟩ := d
  cases phase <;> rfl

theorem live_of_isIdle (h : d.isIdle = true) : d.live = fresh := by
  obtain ⟨phase, t, lo, e, r⟩ := d
  obtain rfl : phase = .magic1 := beq_iff_eq.1 h
  rfl

theorem live_reset (d : Decoder) : d.reset.live = fresh := rfl

theorem isIdle_congr (h : d.live = d'.live) : d.isIdle = d'.isIdle := by
  have hphase := congrArg phase h
  rw [phase_live, phase_live] at hphase
  rw [isIdle, isIdle, hphase]

/-! ## Rounds -/

/-- a round needs the live fields only, and leaves the live fields of the same decoder -/
theorem round_live (d : Decoder) (b : UInt8) (bs : Bytes) :
    (d.live.round b bs).decoder.live = (d.round b bs).decoder.live ∧
      (d.live.round b bs).frame = (d.round b bs).frame ∧ (d.live.round b bs).rest = (d.round b bs).rest := by
  obtain ⟨phase, t, lo, e, r⟩ := d
  cases phase with
  | magic1 | magic2 =>
    refine ⟨?_, rfl, rfl⟩
    simp only [live, round]
    split_ifs <;> rfl
  | typeByte | sizeLow | sizeHigh => exact ⟨rfl, rfl, rfl⟩
  | payload =>
    simp only [live, round]
    split_ifs <;> exact ⟨rfl, rfl, rfl⟩

theorem round_congr (h : d.live = d'.live) (b : UInt8) (bs : Bytes) :
    (d.round b bs).decoder.live = (d'.round b bs).decoder.live ∧ (d.round b bs).frame = (d'.round b bs).frame ∧
      (d.round b bs).rest = (d'.round b bs).rest := by
  obtain ⟨hlive, hframe, hrest⟩ := round_live d b bs
  obtain ⟨hlive', hframe', hrest'⟩ := round_live d' b bs
  rw [← hlive, ← hframe, ← hrest, h]
  exact ⟨hlive', hframe', hrest'⟩

theorem rounds_congr (h : d.live = d'.live) (fuel : Nat) (bs : Bytes) (seen : Array Frame) :
    (rounds fuel d bs seen).1.live = (rounds fuel d' bs seen).1.live ∧
      (rounds fuel d bs seen).2 = (rounds fuel d' bs seen).2 := by
  induction fuel generalizing d d' bs seen with
  | zero => exact ⟨h, rfl⟩
  | succ fuel ih =>
    cases bs with
    | nil => exact ⟨h, rfl⟩
    | cons b bs =>
      obtain ⟨hlive, hframe, hrest⟩ := round_congr h b bs
      rw [rounds, rounds]
      rcases hr : d.round b bs with ⟨after, frame, rest⟩
      rcases hr' : d'.round b bs with ⟨after', frame', rest'⟩
      rw [hr, hr'] at hlive hframe hrest
      obtain rfl : frame = frame' := hframe
      obtain rfl : rest = rest' := hrest
      cases frame with
      | none => exact ih hlive rest seen
      | some f => exact ih hlive rest (seen.push f)

theorem decode_congr (h : d.live = d'.live) (chunk : Bytes) :
    (d.decode chunk).1.live = (d'.decode chunk).1.live ∧ (d.decode chunk).2 = (d'.decode chunk).2 := by
  obtain ⟨hlive, hframes⟩ := rounds_congr h chunk.length chunk #[]
  exact ⟨hlive, congrArg Array.toList hframes⟩

/-! ## Observations -/

/-- what is seen of the events: for each of them the frames that it completes, and whether the decoder is idle then -/
def observe (d : Decoder) : List Event → List (List Frame × Bool)
  | [] => []
  | e :: es => ((d.step e).2, (d.step e).1.isIdle) :: (d.step e).1.observe es

/-- **An event treats decoders with the same live fields alike.** -/
theorem step_congr (h : d.live = d'.live) (e : Event) :
    (d.step e).1.live = (d'.step e).1.live ∧ (d.step e).2 = (d'.step e).2 := by
  cases e with
  | chunk bs => exact decode_congr h bs
  | reset => exact ⟨rfl, rfl⟩

theorem observe_congr (h : d.live = d'.live) (es : List Event) : d.observe es = d'.observe es := by
  induction es generalizing d d' with
  | nil => rfl
  | cons e es ih =>
    obtain ⟨hlive, hframes⟩ := step_congr h e
    rw [observe, observe, hframes, isIdle_congr hlive, ih hlive]

/-- **An idle decoder is as good as new.** Whatever chunks and resets a decoder has seen, if it is idle then it gives the
same frames as a fresh decoder at each of any further chunks and resets, and is idle after just the same of them. So is
a decoder that is reset in whatever state it is: nobody can see what it had received. -/
theorem idle_as_good_as_new (d : Decoder) :
    (d.isIdle = true → ∀ es : List Event, d.observe es = fresh.observe es) ∧
      ∀ es : List Event, d.reset.observe es = fresh.observe es :=
  ⟨fun h => observe_congr (live_of_isIdle h), observe_congr (live_reset d)⟩

/-- behind a frame the decoder still holds the type and the size of it, and is told from a fresh one by nothing else -/
theorem idle_as_good_as_new_behind_frame :
    let d := (fresh.decode [0x54, 0xF0, 7, 1, 0, 0xAA]).1
    let es : List Event := [.chunk [0x54, 0xF0, 9], .reset, .chunk [0x54, 0xF0, 3, 0], .chunk [0, 0x54]]
    d ≠ fresh ∧ d.isIdle = true ∧ d.observe es = fresh.observe es ∧
      fresh.observe es = [([], false), ([], true), ([], false), ([⟨3, []⟩], false)] := by
  intro d es
  have hidle : d.isIdle = true := by decide
  exact ⟨by decide, hidle, (idle_as_good_as_new d).1 hidle es, by decide⟩

end RemoteShutter.Decoder
