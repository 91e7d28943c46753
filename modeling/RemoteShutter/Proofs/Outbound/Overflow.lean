/-
What a decoder finds behind a ring that overflows.

A push drops the oldest bytes that do not fit, wherever the frames end. So of a frame the beginning may be gone, or the
rest behind a header that was popped already, and a decoder may take for a frame what nobody pushed.
- `Origin`: how a frame that a decoder finds came about. It was pushed; or it begins within a pushed frame, at a byte
  that looks like a beginning and behind a byte that was dropped; or it begins as a frame does of which a later byte was
  dropped.
- `origin_of_mem`: there is no other way.
- `Traffic.record`: a record of the queue beside producers, clients and takers.
- `Traffic.overflow_origins`: what this says of any interleaving of them, and when no frame is forged.
-/
import Mathlib.Tactic
import RemoteShutter.Proofs.Decoder.Cuts
import RemoteShutter.Proofs.Outbound.Integrity
import RemoteShutter.Proofs.Outbound.Takers

namespace RemoteShutter

open scoped List

/-! ## Positions -/

/-- what picks two parts one after the other consists of what picks each of them -/
theorem exists_of_pick_eq {stream : Bytes} {ps : List Nat} (h : ∀ p ∈ ps, p < stream.length) {a b : Bytes}
    (heq : pick stream ps = a ++ b) :
    ∃ front back, ps = front ++ back ∧ pick stream front = a ∧ pick stream back = b := by
  have hfront : pick stream (ps.take a.length) = a := by rw [pick_take h, heq, List.take_left]
  refine ⟨ps.take a.length, ps.drop a.length, (List.take_append_drop _ _).symm, hfront, ?_⟩
  have hsplit : pick stream (ps.take a.length) ++ pick stream (ps.drop a.length) = a ++ b := by
    rw [← pick_append, List.take_append_drop, heq]
  rwa [hfront, List.append_cancel_left_eq] at hsplit

/-- positions in order that leave none out begin with as many as one likes -/
theorem range'_prefix {ps : List Nat} {p n : Nat} (hs : ps.Pairwise (· < ·)) (hlow : ∀ q ∈ ps, p ≤ q)
    (hall : ∀ q, p ≤ q → q < p + n → q ∈ ps) : List.range' p n <+: ps := by
  induction n generalizing p ps with
  | zero => exact List.nil_prefix
  | succ n ih =>
    cases ps with
    | nil => exact absurd (hall p le_rfl (by omega)) List.not_mem_nil
    | cons q ps =>
      rw [List.pairwise_cons] at hs
      have hq : q = p := by
        rcases List.mem_cons.1 (hall p le_rfl (by omega)) with hp | hp
        · exact hp.symm
        · exact absurd (hs.1 p hp) (Nat.not_lt.2 (hlow q List.mem_cons_self))
      subst hq
      rw [List.range'_succ, List.cons_prefix_cons]
      refine ⟨rfl, ih hs.2 (fun r hr => hs.1 r hr) fun r hle hlt => ?_⟩
      exact (List.mem_cons.1 (hall r (by omega) (by omega))).resolve_left (by omega)

/-! ## Frames among what was popped -/

/-- how a frame `g` came about that a decoder finds at position `p` of a stream of frames, some of whose bytes were
dropped -/
inductive Origin (fs : List Frame) (dropped : List Nat) (g : Frame) (p : Nat) : Prop where
  /-- it was pushed -/
  | sent {earlier later : List Frame} (split : fs = earlier ++ g :: later)
      (position : p = (earlier.map Frame.wire).flatten.length)
  /-- it begins within a frame that was pushed, at a byte that looks like a beginning, and behind a dropped byte -/
  | within {earlier later : List Frame} {f : Frame} {i : Nat} (split : fs = earlier ++ f :: later)
      (position : p = (earlier.map Frame.wire).flatten.length + i) (pos : 0 < i)
      (magic : f.wire[i]? = some Frame.magic1) (lost : ∃ d ∈ dropped, d < p)
  /-- it begins as a frame does that was pushed and of which a later byte was dropped -/
  | torn {earlier later : List Frame} {f : Frame} (split : fs = earlier ++ f :: later)
      (position : p = (earlier.map Frame.wire).flatten.length) (lost : ∃ d ∈ dropped, p < d ∧ d < p + f.wire.length)

namespace Ledger

variable {a : Ledger} {r : Ring} {fs : List Frame} {g : Frame} {front back : List Nat} {p : Nat}

/-- popped in front of a popped position is what lies in front of it and was not dropped -/
theorem front_eq_range (h : Holds a r) (hsplit : a.popped = front ++ p :: back) (hkept : ∀ d ∈ a.dropped, p ≤ d) :
    front = List.range' 0 p := by
  have hordered := h.ordered
  rw [hsplit, List.pairwise_append] at hordered
  obtain ⟨hfront, hback, hlt⟩ := hordered
  have hp : p < a.front r := h.lt_of_mem_popped (by rw [hsplit]; simp)
  refine List.Pairwise.eq_of_mem_iff hfront (List.pairwise_lt_range' _) fun q => ?_
  rw [List.mem_range'_1]
  constructor
  · exact fun hq => ⟨Nat.zero_le q, by have := hlt q hq p List.mem_cons_self; omega⟩
  · rintro ⟨-, hq⟩
    rcases (h.gone q).1 (by omega) with hm | hm
    · rw [hsplit] at hm
      rcases List.mem_append.1 hm with hm | hm
      · exact hm
      · rcases List.mem_cons.1 hm with rfl | hm
        · omega
        · have := (List.pairwise_cons.1 hback).1 q hm
          omega
    · have := hkept q hm
      omega

/-- what is popped from a position on, with what waits, begins with what was pushed there, as far as none of that was
dropped -/
theorem take_prefix (h : Holds a r) (hsplit : a.popped = front ++ p :: back) {n : Nat} (hn : p + n ≤ a.pushed.length)
    (hkept : ∀ d ∈ a.dropped, p < d → p + n ≤ d) :
    (a.pushed.drop p).take n <+: pick a.pushed (p :: back ++ a.waiting r) := by
  have hmem : ∀ q, q ∈ a.popped ++ a.waiting r ↔ q < a.pushed.length ∧ q ∉ a.dropped := fun q => by
    rw [popped_append_waiting h]
    simp
  have hordered : (front ++ (p :: back ++ a.waiting r)).Pairwise (· < ·) := by
    rw [← List.append_assoc, ← hsplit, popped_append_waiting h]
    exact List.pairwise_lt_range.filter _
  obtain ⟨-, hback, hlt⟩ := List.pairwise_append.1 hordered
  have hp : p ∉ a.dropped := h.apart p (by rw [hsplit]; simp)
  obtain ⟨rest, hrest⟩ : List.range' p n <+: p :: back ++ a.waiting r := by
    refine range'_prefix hback (fun q hq => ?_) fun q hle hq => ?_
    · rcases List.mem_cons.1 hq with rfl | hq
      · exact le_rfl
      · exact ((List.pairwise_cons.1 hback).1 q hq).le
    · have hq' : q ∈ a.popped ++ a.waiting r := by
        refine (hmem q).2 ⟨by omega, fun hd => ?_⟩
        rcases Nat.eq_or_lt_of_le hle with rfl | hlt
        · exact hp hd
        · have := hkept q hd hlt
          omega
      rw [hsplit, List.append_assoc] at hq'
      refine (List.mem_append.1 hq').resolve_left fun hf => ?_
      have := hlt q hf p List.mem_cons_self
      omega
  rw [← hrest, pick_append, pick_range']
  exact List.prefix_append _ _

/-- where a frame begins that has lost no byte, no other one is found -/
theorem eq_of_kept (h : Holds a r) {f : Frame} (hf : f.Fits) (hg : g.Fits) (hsplit : a.popped = front ++ p :: back)
    {x post : Bytes} (hdrop : a.pushed.drop p = f.wire ++ x) (hback : pick a.pushed (p :: back) = g.wire ++ post)
    (hkept : ∀ d ∈ a.dropped, p < d → p + f.wire.length ≤ d) : f = g := by
  have hn : p + f.wire.length ≤ a.pushed.length := by
    have hlen := congrArg List.length hdrop
    have hlt : p < a.pushed.length := h.lt_length (by rw [hsplit]; simp)
    rw [List.length_drop, List.length_append] at hlen
    omega
  have hpre := take_prefix h hsplit hn hkept
  rw [hdrop, List.take_left, pick_append, hback, List.append_assoc] at hpre
  obtain ⟨y, hy⟩ := hpre
  exact (Frame.wire_append_inj hf hg hy).1

/-- a decoder is idle within a frame only behind a dropped byte -/
theorem exists_dropped (h : Holds a r) (hsplit : a.popped = front ++ p :: back) {earlier : List Frame} {part : Bytes}
    (hf : ∀ f ∈ earlier, f.Fits) (hpart : Incomplete part)
    (htake : a.pushed.take p = (earlier.map Frame.wire).flatten ++ part)
    (hidle : (Decoder.fresh.feed (pick a.pushed front)).1.phase = .magic1) : ∃ d ∈ a.dropped, d < p := by
  by_contra hkept
  have hfront : front = List.range' 0 p := front_eq_range h hsplit fun d hd => by
    by_contra hlt
    exact hkept ⟨d, hd, by omega⟩
  rw [hfront, pick_range', List.drop_zero, htake, Decoder.feed_append] at hidle
  exact (Decoder.feed_incomplete (Decoder.feed_wires rfl hf).2 hpart).1 hidle

/-- where a frame is found the first magic byte was pushed -/
theorem head?_drop_of_found (hlt : p < a.pushed.length) {post : Bytes}
    (hback : pick a.pushed (p :: back) = g.wire ++ post) : (a.pushed.drop p).head? = some Frame.magic1 := by
  have hfirst := congrArg List.head? hback
  rw [pick, List.filterMap_cons, List.getElem?_eq_getElem hlt] at hfirst
  rw [List.head?_drop, List.getElem?_eq_getElem hlt]
  exact hfirst

/-- **What a decoder finds among popped bytes** was pushed, or is due to bytes that were dropped. -/
theorem origin_of_mem (h : Holds a r) (hf : ∀ f ∈ fs, f.Fits) (hpushed : a.pushed = (fs.map Frame.wire).flatten)
    (hg : g ∈ (Decoder.fresh.feed (pick a.pushed a.popped)).2) : ∃ p ∈ a.popped, Origin fs a.dropped g p := by
  obtain ⟨pre, post, hpopped, hidle, hfits⟩ := Decoder.exists_of_mem_frames hg
  obtain ⟨front, back, hsplit, rfl, hback⟩ := exists_of_pick_eq (fun _ hp => h.lt_length hp) hpopped
  obtain ⟨p, back, rfl⟩ : ∃ p rest, back = p :: rest := List.exists_cons_of_ne_nil (by rintro rfl; cases hback)
  have hp : p ∈ a.popped := by rw [hsplit]; simp
  have hlt : p < a.pushed.length := h.lt_length hp
  refine ⟨p, hp, ?_⟩
  obtain ⟨earlier, later, part, rfl, hcut⟩ := Frame.exists_cut
    (hpushed.symm.trans (List.take_append_drop p a.pushed).symm)
  have hposition : p = (earlier.map Frame.wire).flatten.length + part.length := by
    rw [← List.length_append, ← hcut.taken, List.length_take]
    omega
  obtain ⟨f, later, rfl⟩ : ∃ f rest, later = f :: rest := List.exists_cons_of_ne_nil (by
    rintro rfl
    have hnil := (List.append_eq_nil_iff.1 hcut.rest.symm).2
    rw [List.drop_eq_nil_iff] at hnil
    omega)
  by_cases hpart : part = []
  · subst hpart
    by_cases hlost : ∃ d ∈ a.dropped, p < d ∧ d < p + f.wire.length
    · exact .torn rfl hposition hlost
    · obtain rfl := eq_of_kept h (hf f (by simp)) hfits hsplit hcut.rest.symm hback fun d hd hpd => by
        by_contra hnot
        exact hlost ⟨d, hd, hpd, by omega⟩
      exact .sent rfl hposition
  · obtain ⟨f', hhead, hpre, hne⟩ := hcut.within.resolve_left hpart
    obtain rfl := Option.some.inj hhead
    have hincomplete : Incomplete part := ⟨hpart, f, hf f (by simp), hpre, hne⟩
    have hinside : part.length < f.wire.length :=
      Nat.lt_of_le_of_ne hpre.length_le fun heq => hne (hpre.eq_of_length heq)
    have hmagic : f.wire[part.length]? = some Frame.magic1 :=
      (hcut.head?_eq hhead hinside).symm.trans (head?_drop_of_found hlt hback)
    exact .within rfl hposition (List.length_pos_iff.2 hpart) hmagic
      (exists_dropped h hsplit (fun f hm => hf f (List.mem_append_left _ hm)) hincomplete hcut.taken hidle)

end Ledger

namespace Traffic

/-! ## Producers, clients and takers -/

/-- what an event does at the queue, if anything -/
def queueEvent? (t : Traffic) : Event → Option QueueEvent
  | .send _ => none
  | .push i => (t.next? i).map fun (bs, _) => .push bs
  | .setConnected b => some (.setConnected b)
  | .close => some .close
  | .arrive n => some (.arrive n)
  | .look i => some (.look i)

def queueEvents (t : Traffic) : List Event → List QueueEvent
  | [] => []
  | e :: es => (t.queueEvent? e).toList ++ (t.step e).queueEvents es

/-- the record of a queue that nobody has used before, beside the events -/
def record (q : Outbound) (es : List Event) : QueueRecord :=
  (QueueRecord.start q).steps ((start q).queueEvents es)

variable {t : Traffic}

theorem queue_step (t : Traffic) (e : Event) : (t.step e).queue = t.queue.run (t.queueEvent? e).toList := by
  cases e with
  | push i =>
    cases hnext : t.next? i with
    | none => simp [step, queueEvent?, hnext, QueueHistory.run]
    | some next => simp [step, queueEvent?, hnext, QueueHistory.run, onQueue]
  | send | setConnected | close | arrive | look => rfl

theorem queue_steps (t : Traffic) (es : List Event) : (t.steps es).queue = t.queue.run (t.queueEvents es) := by
  induction es generalizing t with
  | nil => rfl
  | cons e es ih => rw [steps_cons, ih, queueEvents, queue_step, QueueHistory.run, QueueHistory.run, QueueHistory.run,
      List.foldl_append]

/-- what is pushed is a frame, and goes into the queue -/
theorem pushed_step (t : Traffic) (e : Event) :
    ∃ fs : List Frame, (∀ f ∈ fs, f.Fits) ∧
      (t.step e).pushed.map Prod.snd = t.pushed.map Prod.snd ++ fs.map Frame.wire ∧
      (t.queueEvent? e).toList.flatMap QueueHistory.pushedBy = (fs.map Frame.wire).flatten := by
  cases e with
  | push i =>
    cases hnext : t.next? i with
    | none => exact ⟨[], by simp, by simp [step, hnext], by simp [queueEvent?, hnext]⟩
    | some next =>
      obtain ⟨bs, s⟩ := next
      obtain ⟨before, -, hs⟩ := Option.bind_eq_some_iff.1 hnext
      obtain ⟨⟨bytes, rest⟩, hrest, heq⟩ := Option.map_eq_some_iff.1 hs
      obtain ⟨rfl, -⟩ := Prod.mk.inj heq
      obtain ⟨f, hf, rfl⟩ := Fragments.exists_frame_of_next? hrest
      refine ⟨[f], List.forall_mem_singleton.2 hf, by simp [step_push hnext], ?_⟩
      simp [queueEvent?, hnext, QueueHistory.pushedBy]
  | send | setConnected | close | arrive | look =>
    exact ⟨[], by simp, by simp [step, onQueue], by simp [queueEvent?, QueueHistory.pushedBy]⟩

theorem pushed_steps (t : Traffic) (es : List Event) :
    ∃ fs : List Frame, (∀ f ∈ fs, f.Fits) ∧
      (t.steps es).pushed.map Prod.snd = t.pushed.map Prod.snd ++ fs.map Frame.wire ∧
      (t.queueEvents es).flatMap QueueHistory.pushedBy = (fs.map Frame.wire).flatten := by
  induction es generalizing t with
  | nil => exact ⟨[], by simp, by simp [steps], rfl⟩
  | cons e es ih =>
    obtain ⟨fs, hfs, hpushed, hstream⟩ := pushed_step t e
    obtain ⟨fs', hfs', hpushed', hstream'⟩ := ih (t.step e)
    refine ⟨fs ++ fs', List.forall_mem_append.2 ⟨hfs, hfs'⟩, ?_, ?_⟩
    · rw [steps_cons, hpushed', hpushed, List.map_append, List.append_assoc]
    · rw [queueEvents, List.flatMap_append, hstream, hstream', List.map_append, List.flatten_append]

/-- a frame is pushed unless a byte looks like the beginning of one, or one has lost bytes behind its beginning -/
theorem mem_of_origin {fs : List Frame} {dropped popped : List Nat} {g : Frame} {p : Nat}
    (h : Origin fs dropped g p) (hp : p ∈ popped) (hplain : ∀ f ∈ fs, Frame.magic1 ∉ f.wire.tail)
    (hwhole : ∀ earlier f later, fs = earlier ++ f :: later →
      let first := (earlier.map Frame.wire).flatten.length
      first ∈ popped → ∀ d ∈ dropped, first < d → first + f.wire.length ≤ d) : g ∈ fs := by
  cases h with
  | sent hsplit => simp [hsplit]
  | @within earlier later f i hsplit hposition hpos hmagic =>
    have hf : f ∈ fs := by simp [hsplit]
    obtain ⟨i, rfl⟩ := Nat.exists_eq_succ_of_ne_zero hpos.ne'
    rw [Nat.succ_eq_add_one, ← List.getElem?_tail] at hmagic
    exact absurd (List.mem_of_getElem? hmagic) (hplain f hf)
  | torn hsplit hposition hlost =>
    obtain ⟨d, hd, hlow, hhigh⟩ := hlost
    have := hwhole _ _ _ hsplit (hposition ▸ hp) d hd (hposition ▸ hlow)
    omega

/-- **Overflow forges a frame only out of what looks like one or is torn.** Take a queue of any capacity that is not
zero, and any interleaving of producers that push payloads, reports and log text frame by frame, of clients that come
and go, and of takers with buffers of any size. What was popped are bytes at increasing positions of the stream of the
frames that were pushed, and none that a push has dropped. Every frame that a fresh decoder finds among them was pushed,
or begins within a pushed frame, at a first magic byte and behind a dropped byte, or begins as a pushed frame does of
which a later byte was dropped. So all of them were pushed if no pushed frame has a first magic byte behind its
beginning, and none loses bytes once its first byte was popped. -/
theorem overflow_origins {capacity : Nat} (hc : 0 < capacity) (es : List Event) :
    ∃ q, Outbound.ofCapacity? capacity = some q ∧
      let t := (start q).steps es
      let r := record q es
      let found := (Decoder.fresh.decodeAll t.queue.popped).2
      r.history = t.queue ∧ ∃ fs : List Frame,
        (∀ f ∈ fs, f.Fits) ∧ t.pushed.map Prod.snd = fs.map Frame.wire ∧
        r.ledger.pushed = (fs.map Frame.wire).flatten ∧
        t.queue.popped.flatten = pick r.ledger.pushed r.ledger.popped ∧ r.ledger.popped.Pairwise (· < ·) ∧
        (∀ p ∈ r.ledger.popped, p ∉ r.ledger.dropped) ∧
        (∀ g ∈ found, ∃ p ∈ r.ledger.popped, Origin fs r.ledger.dropped g p) ∧
        ((∀ f ∈ fs, Frame.magic1 ∉ f.wire.tail) →
          (∀ earlier f later, fs = earlier ++ f :: later →
            let first := (earlier.map Frame.wire).flatten.length
            first ∈ r.ledger.popped → ∀ d ∈ r.ledger.dropped, first < d → first + f.wire.length ≤ d) →
          ∀ g ∈ found, g ∈ fs) := by
  obtain ⟨q, hq⟩ : ∃ q, Outbound.ofCapacity? capacity = some q :=
    ⟨_, by rw [Outbound.ofCapacity?, Ring.ofCapacity?, if_neg hc.ne']; rfl⟩
  refine ⟨q, hq, ?_⟩
  intro t r found
  have hhistory : r.history = t.queue :=
    (QueueRecord.history_steps _ _).trans (queue_steps (start q) es).symm
  obtain ⟨fs, hf, hframes, hstream⟩ := pushed_steps (start q) es
  have hbooks : r.Books := QueueRecord.books_steps (QueueRecord.books_start hq) _
  have hpushed : r.ledger.pushed = (fs.map Frame.wire).flatten := (QueueRecord.pushed_steps _ _).trans hstream
  have hpopped : t.queue.popped.flatten = pick r.ledger.pushed r.ledger.popped := hhistory ▸ hbooks.popped
  have horigin : ∀ g ∈ found, ∃ p ∈ r.ledger.popped, Origin fs r.ledger.dropped g p := fun g hg => by
    refine Ledger.origin_of_mem hbooks.ledger hf hpushed ?_
    rwa [← hpopped, ← Decoder.decode_eq_feed Decoder.wf_fresh, ← Decoder.decodeAll_eq_decode Decoder.wf_fresh]
  refine ⟨hhistory, fs, hf, hframes, hpushed, hpopped, hbooks.ledger.ordered, hbooks.ledger.apart, horigin,
    fun hplain hwhole g hg => ?_⟩
  obtain ⟨p, hp, h⟩ := horigin g hg
  exact mem_of_origin h hp hplain hwhole

/-- the header of a log frame is popped, and the next frame drops a byte of the text; so the text that is found ends
with the first byte of the next frame -/
theorem overflow_origins_torn :
    let q : Outbound := { ring := ⟨Array.replicate 7 0, 0, 0, true⟩ }
    let es : List Event := [.send (.log [7, 8]), .push 0, .setConnected true, .arrive 5, .look 0, .send (.log [9]),
      .push 1, .arrive 64, .look 0]
    let t := (start q).steps es
    let r := record q es
    0 < 7 ∧ Outbound.ofCapacity? 7 = some q ∧ r.ledger.dropped = [5] ∧
      (Decoder.fresh.decodeAll t.queue.popped).2 = [⟨1, [8, 0x54]⟩] ∧
      ∃ fs : List Frame, t.pushed.map Prod.snd = fs.map Frame.wire ∧
        ∃ p ∈ r.ledger.popped, Origin fs r.ledger.dropped ⟨1, [8, 0x54]⟩ p := by
  intro q es t r
  obtain ⟨q', hq, -, fs, -, hframes, -, -, -, -, horigin, -⟩ := overflow_origins (show 0 < 7 by decide) es
  obtain rfl : q = q' := Option.some.inj hq
  have hfound : (Decoder.fresh.decodeAll t.queue.popped).2 = [⟨1, [8, 0x54]⟩] := by decide +kernel
  exact ⟨by decide, rfl, by decide +kernel, hfound, fs, hframes, horigin _ (hfound ▸ List.mem_singleton_self _)⟩

/-- **Overflow may forge a frame.** A ring of twelve bytes has room for a log frame, whose text has the wire form of a
command. A second log frame drops just the header of the first. -/
theorem overflow_forges :
    let es : List Event := [.send (.log [0x54, 0xF0, 2, 1, 0, 0x41]), .send (.log [0x42]), .push 0, .push 1,
      .setConnected true, .arrive 64, .look 0]
    0 < 12 ∧ ∃ q, Outbound.ofCapacity? 12 = some q ∧
      let t := (start q).steps es
      t.pushed.map Prod.snd = [⟨1, [0x54, 0xF0, 2, 1, 0, 0x41]⟩, ⟨1, [0x42]⟩].map Frame.wire ∧
        t.queue.popped = [[0x54, 0xF0, 2, 1, 0, 0x41, 0x54, 0xF0, 1, 1, 0, 0x42]] ∧
        (Decoder.fresh.decodeAll t.queue.popped).2 = [⟨2, [0x41]⟩, ⟨1, [0x42]⟩] ∧
        Frame.wire ⟨2, [0x41]⟩ ∉ t.pushed.map Prod.snd := by
  intro es
  exact ⟨by decide, _, rfl, by decide +kernel⟩

end Traffic

end RemoteShutter
