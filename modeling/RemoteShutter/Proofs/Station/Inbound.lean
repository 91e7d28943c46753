/-
From the bytes of a client to commands.

A client sends telecommands, and among them frames of other types, telecommand frames that cannot be read, and garbage.
- `InboundItem`, `InboundStream`: what is sent. The parts are what they should be by construction.
- `silent_onFrame`: a frame makes the station carry out the command that it has, if any, and else only say something.
- `receiveAll_batches`: in whatever pieces bytes arrive, the commands of their frames are carried out in order.
- `inbound_commands`: of the stream, the station carries out the commands, once each and in order, and nothing else. A
  command that has to wait for the camera waits until the capture is over, and those behind it follow.
-/
import RemoteShutter.Control.Handler
import RemoteShutter.Proofs.Decoder.RoundTrip
import RemoteShutter.Proofs.Station.Silent
import RemoteShutter.Proofs.Telecommand.ReadBack

namespace RemoteShutter

/-- the command that a frame has, if it is a telecommand frame that can be read -/
def Frame.command? (f : Frame) : Option Telecommand :=
  match f.kind with
  | .ok .telecommand => (Telecommand.ofBytes f.payload).toOption
  | _ => none

/-! ## What a client sends -/

inductive InboundItem where
  | command (c : Telecommand)
  /-- a frame of another type -/
  | foreign (f : Frame) (fits : f.Fits) (kind : f.typeByte ≠ FrameKind.telecommand.toByte)
  /-- a telecommand frame that cannot be read -/
  | rejected (payload : Bytes) (fits : payload.length ≤ Frame.maxPayload)
      (unread : ∀ c, Telecommand.ofBytes payload ≠ .ok c)

namespace InboundItem

def bytes : InboundItem → Bytes
  | command c => (Frame.fragments FrameKind.telecommand.toByte c.toBytes).toList.flatten
  | foreign f _ _ => Frame.encode f.typeByte f.payload
  | rejected payload _ _ => Frame.encode FrameKind.telecommand.toByte payload

def command? : InboundItem → Option Telecommand
  | command c => some c
  | _ => none

def frame : InboundItem → Frame
  | command c => ⟨FrameKind.telecommand.toByte, c.toBytes⟩
  | foreign f _ _ => f
  | rejected payload _ _ => ⟨FrameKind.telecommand.toByte, payload⟩

theorem fits_frame (i : InboundItem) : i.frame.Fits := by
  cases i with
  | command c => exact c.toBytes_fits.2
  | foreign f hf => exact hf
  | rejected p hp => exact hp

/-- every item is one frame; the text of a command needs no more -/
theorem bytes_eq_wire (i : InboundItem) : i.bytes = i.frame.wire := by
  cases i with
  | command c =>
    obtain ⟨hne, hfits⟩ := c.toBytes_fits
    obtain ⟨fs, hfs, hl⟩ := Fragments.exists_carries FrameKind.telecommand.toByte c.toBytes
    rw [hfs.eq_singleton hne hfits] at hl
    rw [bytes, Frame.fragments, hl]
    exact List.append_nil _
  | foreign | rejected => rfl

/-- its frame has the command that was sent, and no other -/
theorem command?_frame (i : InboundItem) : i.frame.command? = i.command? := by
  cases i with
  | command c =>
    simp only [Frame.command?, frame, Frame.kind, FrameKind.ofByte?_toByte, Telecommand.ofBytes_toBytes]
    rfl
  | foreign f hf hkind =>
    have hnone : FrameKind.ofByte? f.typeByte ≠ some .telecommand := fun h => hkind (FrameKind.ofByte?_eq_some_iff.1 h)
    simp only [Frame.command?, frame, Frame.kind]
    rcases hkind' : FrameKind.ofByte? f.typeByte with _ | _ | _ | _ | _
    · rfl
    · rfl
    · exact absurd hkind' hnone
    · rfl
    · rfl
  | rejected p hp hunread =>
    simp only [Frame.command?, frame, Frame.kind, FrameKind.ofByte?_toByte]
    cases hread : Telecommand.ofBytes p with
    | error e => rfl
    | ok c => exact absurd hread (hunread c)

end InboundItem

/-- items with garbage in front of the first one and behind each -/
structure InboundStream where
  first : Bytes
  items : List (InboundItem × Bytes)
  first_garbage : Garbage first
  items_garbage : ∀ p ∈ items, Garbage p.2

namespace InboundStream

def bytes (s : InboundStream) : Bytes :=
  s.first ++ s.items.flatMap fun p => p.1.bytes ++ p.2

/-- the commands among the items -/
def commands (s : InboundStream) : List Telecommand :=
  s.items.filterMap (·.1.command?)

/-- the same stream, as the decoder sees it -/
def segments (s : InboundStream) : Segments where
  first := s.first
  tail := s.items.map fun p => (p.1.frame, p.2)
  rest := []
  first_garbage := s.first_garbage
  tail_ok := by
    intro q hq
    obtain ⟨p, hp, rfl⟩ := List.mem_map.1 hq
    exact ⟨p.1.fits_frame, s.items_garbage p hp⟩
  rest_ok := .inl rfl

theorem bytes_segments (s : InboundStream) : s.segments.bytes = s.bytes := by
  simp only [Segments.bytes, Segments.tailBytes, segments, bytes, List.flatMap_map, List.append_nil,
    InboundItem.bytes_eq_wire]

theorem commands_eq (s : InboundStream) : s.segments.frames.filterMap Frame.command? = s.commands := by
  simp only [Segments.frames, segments, commands, List.map_map, List.filterMap_map]
  exact List.filterMap_congr fun p _ => p.1.command?_frame

end InboundStream

namespace Station

/-! ## Frames -/

/-- carries commands out, one after the other -/
def obeyAll (s : Station) (cs : List Telecommand) : Station :=
  cs.foldl (fun s c => (s.dispatch c).2) s

variable {s t : Station}

theorem silent_obey (h : s.silent = t.silent) (c : Telecommand) :
    (s.dispatch c).2.silent = (t.dispatch c).2.silent := by
  rw [(silent_dispatch s c).1, h, ← (silent_dispatch t c).1]

theorem silent_onTelecommand (h : s.silent = t.silent) (peer : Option Address) (payload : Bytes) :
    (s.onTelecommand peer payload).silent =
      (t.obeyAll (Telecommand.ofBytes payload).toOption.toList).silent := by
  cases hread : Telecommand.ofBytes payload with
  | error e =>
    simp only [onTelecommand, hread]
    exact h
  | ok c =>
    have hobeyed : (s.onTelecommand peer payload).silent = (s.dispatch c).2.silent := by
      simp only [onTelecommand, hread]
      rcases s.dispatch c with ⟨_ | _ | _, u⟩ <;> rfl
    exact hobeyed.trans (silent_obey h c)

/-- **A frame makes the station carry out its command**, if it has one. -/
theorem silent_onFrame (h : s.silent = t.silent) (peer : Option Address) (f : Frame) :
    (s.onFrame peer f).silent = (t.obeyAll f.command?.toList).silent := by
  rcases hkind : f.kind with e | _ | _ | _ | _
  · simp only [onFrame, Frame.command?, hkind]
    exact h
  · simp only [onFrame, Frame.command?, hkind]
    exact h
  · simp only [onFrame, Frame.command?, hkind]
    exact silent_onTelecommand h peer f.payload
  · simp only [onFrame, Frame.command?, hkind]
    exact h
  · simp only [onFrame, Frame.command?, hkind]
    exact h

theorem obeyAll_append (s : Station) (cs cs' : List Telecommand) : s.obeyAll (cs ++ cs') = (s.obeyAll cs).obeyAll cs' :=
  List.foldl_append

theorem silent_onFrames (h : s.silent = t.silent) (peer : Option Address) (fs : List Frame) :
    (fs.foldl (fun s f => s.onFrame peer f) s).silent = (t.obeyAll (fs.filterMap Frame.command?)).silent := by
  induction fs generalizing s t with
  | nil => exact h
  | cons f fs ih =>
    have hsplit : (f :: fs).filterMap Frame.command? = f.command?.toList ++ fs.filterMap Frame.command? := by
      rw [List.filterMap_cons]
      cases f.command? <;> rfl
    rw [hsplit, obeyAll_append]
    exact ih (silent_onFrame h peer f)

/-! ## Chunks -/

/-- takes in chunks; after each of them, events happen -/
def receiveAll (peer : Option Address) (d : Decoder) (s : Station) : List (Bytes × List Event) → Decoder × Station
  | [] => (d, s)
  | (chunk, es) :: rest =>
    let (d, s) := s.receive peer d chunk
    receiveAll peer d (s.steps es) rest

/-- carries out batches of commands; after each of them, events happen -/
def obeyBatches (s : Station) : List (List Telecommand × List Event) → Station
  | [] => s
  | (cs, es) :: rest => obeyBatches ((s.obeyAll cs).steps es) rest

theorem silent_steps_congr (h : s.silent = t.silent) (es : List Event) : (s.steps es).silent = (t.steps es).silent := by
  rw [silent_steps s, h, ← silent_steps]

/-- **In whatever pieces bytes arrive, the commands of their frames are carried out**, in order, each with its chunk. -/
theorem receiveAll_batches {d : Decoder} (hw : d.Wf) (h : s.silent = t.silent) (peer : Option Address)
    (chunks : List (Bytes × List Event)) :
    let stream := (chunks.map Prod.fst).flatten
    ∃ batches : List (List Telecommand), batches.length = chunks.length ∧
      batches.flatten = (d.feed stream).2.filterMap Frame.command? ∧
      (receiveAll peer d s chunks).1 = (d.feed stream).1 ∧
      (receiveAll peer d s chunks).2.silent = (t.obeyBatches (batches.zip (chunks.map Prod.snd))).silent := by
  induction chunks generalizing d s t with
  | nil => exact ⟨[], rfl, rfl, rfl, h⟩
  | cons p chunks ih =>
    obtain ⟨chunk, es⟩ := p
    have hfeed := Decoder.decode_eq_feed hw chunk
    have hobeyed := silent_onFrames h peer (d.decode chunk).2
    obtain ⟨batches, hlen, hflat, hd, hs⟩ :=
      ih (Decoder.wf_decode hw chunk) (silent_steps_congr hobeyed es)
    refine ⟨(d.decode chunk).2.filterMap Frame.command? :: batches, congrArg (· + 1) hlen, ?_, ?_, hs⟩
    · rw [List.flatten_cons, hflat, List.map_cons, List.flatten_cons, Decoder.feed_append, List.filterMap_append, hfeed]
    · rw [List.map_cons, List.flatten_cons, Decoder.feed_append, ← hfeed]
      exact hd

/-- batches with nothing in between are one -/
theorem obeyBatches_of_nil (s : Station) {batches : List (List Telecommand)} {n : Nat} (h : batches.length = n) :
    s.obeyBatches (batches.zip (List.replicate n [])) = s.obeyAll batches.flatten := by
  induction batches generalizing s n with
  | nil => rfl
  | cons cs batches ih =>
    subst h
    rw [List.length_cons, List.replicate_succ, List.zip_cons_cons, List.flatten_cons, obeyAll_append]
    exact ih (s.obeyAll cs) rfl

/-- **Of what a client sends, the station carries out the commands.** Take any station, any reachable decoder that is
idle, and any stream of telecommands, frames of other types, telecommand frames that cannot be read, and garbage in
front of them, between them and behind them. In whatever pieces it arrives, the station is left, but for what it has
said, as if the commands had been carried out one after the other, once each; and the decoder is idle. If other things
happen between the pieces, they happen between the commands of these pieces. Every command comes to its outcome,
whatever it finds the station at: one that needs the camera waits for the capture that holds it. -/
theorem inbound_commands (s : Station) (peer : Option Address) {d : Decoder} (hd : d.Reachable) (hi : d.isIdle = true)
    (stream : InboundStream) :
    (∀ chunks : List Bytes, chunks.flatten = stream.bytes →
      let r := receiveAll peer d s (chunks.map fun chunk => (chunk, []))
      r.1.isIdle = true ∧ r.2.silent = (s.obeyAll stream.commands).silent) ∧
    (∀ chunks : List (Bytes × List Event), (chunks.map Prod.fst).flatten = stream.bytes →
      let r := receiveAll peer d s chunks
      r.1.isIdle = true ∧ ∃ batches : List (List Telecommand), batches.length = chunks.length ∧
        batches.flatten = stream.commands ∧
        r.2.silent = (s.obeyBatches (batches.zip (chunks.map Prod.snd))).silent) ∧
    ∀ c ∈ stream.commands, ∀ t : Station, ∃ o, (t.dispatch c).1 = some o := by
  have hall : ∀ chunks : List (Bytes × List Event), (chunks.map Prod.fst).flatten = stream.bytes →
      let r := receiveAll peer d s chunks
      r.1.isIdle = true ∧ ∃ batches : List (List Telecommand), batches.length = chunks.length ∧
        batches.flatten = stream.commands ∧
        r.2.silent = (s.obeyBatches (batches.zip (chunks.map Prod.snd))).silent := by
    intro chunks hchunks
    obtain ⟨batches, hlen, hflat, hdecoder, hstation⟩ :=
      receiveAll_batches (Decoder.reachable_wf hd) (s := s) rfl peer chunks
    obtain ⟨hframes, hidle⟩ := Decoder.feed_segments ((Decoder.isIdle_iff d).1 hi) stream.segments
    rw [hchunks, ← stream.bytes_segments] at hflat hdecoder
    refine ⟨?_, batches, hlen, ?_, hstation⟩
    · rw [hdecoder, Decoder.isIdle_iff]
      exact hidle.2 rfl
    · rw [hflat, hframes, stream.commands_eq]
  refine ⟨fun chunks hchunks => ?_, hall, fun c _ t => t.dispatch_answers c⟩
  have hfst : (chunks.map fun chunk => (chunk, ([] : List Event))).map Prod.fst = chunks := by
    rw [List.map_map]
    exact List.map_id chunks
  have hsnd : (chunks.map fun chunk => (chunk, ([] : List Event))).map Prod.snd = List.replicate chunks.length [] := by
    rw [List.map_map]
    exact List.map_const'
  obtain ⟨hidle, batches, hlen, hflat, hstation⟩ := hall (chunks.map fun chunk => (chunk, [])) (by rw [hfst, hchunks])
  rw [List.length_map] at hlen
  rw [hsnd, obeyBatches_of_nil s hlen, hflat] at hstation
  exact ⟨hidle, hstation⟩

/-- a decoder reset within a frame, and a station whose camera a capture holds; a false magic pair, a reconnect, which
waits until the shot is taken, a telemetry frame that holds a magic pair, an object that is no command, a reboot and a
stop, cut within the first header and within a later frame -/
theorem inbound_commands_hostile :
    let d := (Decoder.fresh.run [.chunk [0x54, 0xF0, 9, 2, 0, 1], .reset]).1
    let s := ({ folder := "pictures" } : Station).steps [.call (.sequencerSetup ⟨-1, 1000, true⟩), .proceed, .proceed,
      .call .start, .proceed, .proceed, .proceed, .proceed, .run 0, .run 0]
    ∃ stream : InboundStream, stream.items.length = 5 ∧ stream.commands = [.reconnect, .reboot, .stop] ∧
      let chunks := [stream.bytes.take 3, (stream.bytes.drop 3).take 60, stream.bytes.drop 63]
      s.isCameraHeld = true ∧ d.Reachable ∧ d.isIdle = true ∧ chunks.flatten = stream.bytes ∧
        let r := receiveAll none d s (chunks.map fun chunk => (chunk, []))
        r.1.isIdle = true ∧ r.2.studio.camera.captures = 1 ∧ r.2.studio.camera.disconnects = 1 ∧
          r.2.requests = [.reboot] ∧ r.2.functions.map (·.life.isAborted) = [true] := by
  intro d s
  have hunread : ∀ c, Telecommand.ofBytes [0x7b, 0x7d] ≠ .ok c := by
    intro c hc
    have herror : Telecommand.ofBytes [0x7b, 0x7d] = .error .missingId := rfl
    rw [herror] at hc
    cases hc
  let stream : InboundStream :=
    { first := [0x54, 0x54]
      items := [(.command .reconnect, [7]), (.foreign ⟨3, [0x54, 0xF0]⟩ (by unfold Frame.Fits; decide) (by decide), []),
        (.rejected [0x7b, 0x7d] (by decide) hunread, [0x54, 0]), (.command .reboot, []), (.command .stop, [])]
      first_garbage := .pair (by decide) .nil
      items_garbage := by
        simp only [List.forall_mem_cons]
        exact ⟨.byte (by decide) .nil, .nil, .pair (by decide) .nil, .nil, .nil, by simp⟩ }
  have hd : d.Reachable := ⟨[.chunk [0x54, 0xF0, 9, 2, 0, 1], .reset], rfl⟩
  have hcut : [stream.bytes.take 3, (stream.bytes.drop 3).take 60, stream.bytes.drop 63].flatten = stream.bytes := by
    have hdrop : stream.bytes.drop 63 = (stream.bytes.drop 3).drop 60 := by rw [List.drop_drop]
    simp only [List.flatten_cons, List.flatten_nil, List.append_nil, hdrop, List.take_append_drop]
  have hcommands : stream.commands = [.reconnect, .reboot, .stop] := rfl
  obtain ⟨hidle, hstation⟩ := (inbound_commands s none hd rfl stream).1 _ hcut
  rw [hcommands] at hstation
  have hcaptures : (s.obeyAll [.reconnect, .reboot, .stop]).silent.studio.camera.captures = 1 := by decide +kernel
  have hdisconnects : (s.obeyAll [.reconnect, .reboot, .stop]).silent.studio.camera.disconnects = 1 := by
    decide +kernel
  have hrequests : (s.obeyAll [.reconnect, .reboot, .stop]).silent.requests = [.reboot] := by decide +kernel
  have haborted : (s.obeyAll [.reconnect, .reboot, .stop]).silent.functions.map (·.life.isAborted) = [true] := by
    decide +kernel
  rw [← hstation] at hcaptures hdisconnects hrequests haborted
  exact ⟨stream, rfl, hcommands, by decide +kernel, hd, rfl, hcut, hidle, hcaptures, hdisconnects, hrequests, haborted⟩

end Station

end RemoteShutter
