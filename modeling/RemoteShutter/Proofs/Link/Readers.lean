/-
What clients read, and where their streams end.

A client reads its stream in pieces, at times of its own, while the sender goes on writing behind it.
- `read_step`: what an event lets a client read is what follows on what it has read; nothing else moves its place.
- `read_steps`: after any run, what the client has read and what it may still read are together what was written to it,
  in this order.
- `end_behind_last_byte`: a client finds its stream at the end once the server has shut it and no written byte is left,
  and not before.
-/
import Mathlib.Tactic
import RemoteShutter.Proofs.Link.Delivery
import RemoteShutter.Proofs.Link.Shutdown

namespace RemoteShutter

namespace Stream

@[simp] theorem consumed_read (s : Stream) (n : Nat) : (s.read n).2.consumed = s.consumed := by
  unfold read
  split
  · rfl
  · split_ifs <;> rfl

theorem consumed_writeAll_go (s : Stream) (bs : Bytes) (fs : List WriteFault) :
    (writeAll.go s bs fs).2.consumed = s.consumed := by
  induction fs generalizing s bs with
  | nil => rfl
  | cons f fs ih =>
    rw [writeAll.go]
    split_ifs
    exacts [rfl, ih _ _, rfl]

@[simp] theorem consumed_writeAll (s : Stream) (bs : Bytes) : (s.writeAll bs).2.consumed = s.consumed := by
  unfold writeAll
  split_ifs
  exacts [rfl, consumed_writeAll_go s bs s.writeFaults]

end Stream

namespace Link

/-- how many bytes a client has read -/
def consumed (l : Link) (client : Nat) : Nat :=
  (l.streams[client]?.map (·.consumed)).getD 0

/-- what was written to a client and it has not read -/
def unread (l : Link) (client : Nat) : Bytes :=
  (l.written client).drop (l.consumed client)

/-- a client finds its stream at its end -/
def seesEnd (l : Link) (client : Nat) : Bool :=
  l.streams[client]?.any Stream.seesEnd

/-- what an event lets a client read -/
def reads (l : Link) (client : Nat) : Event → Bytes
  | .consume c n => if c = client then (l.unread client).take n else []
  | _ => []

/-- all that a client reads in a run -/
def readBy (l : Link) (client : Nat) : List Event → Bytes
  | [] => []
  | e :: es => l.reads client e ++ (l.step e).readBy client es

variable {l l' : Link} {client : Nat}

/-! ## The place of a client -/

theorem consumed_updateStream {c : Nat} {f : Stream → Stream}
    (hf : ∀ s, l.streams[c]? = some s → (f s).consumed = s.consumed) :
    (l.updateStream c f).consumed = l.consumed :=
  funext (getD_updateStream (·.consumed) 0 hf)

theorem consumed_dial (l : Link) : l.dial.consumed = l.consumed :=
  funext (getD_dial (·.consumed) l)

theorem consumed_read {c : Nat} {s : Stream} (hs : l.streams[c]? = some s) (n : Nat) :
    (l.updateStream c fun _ => (s.read n).2).consumed = l.consumed :=
  consumed_updateStream fun s' hs' => by rw [Stream.consumed_read, Option.some.inj (hs.symm.trans hs')]

theorem consumed_received (h : Received l l') : l'.consumed = l.consumed := by
  cases h with
  | reads hp hs | interrupted hp hs | ends hp hs => exact consumed_read hs l.recvChunk
  | shuts => exact consumed_updateStream fun _ _ => rfl
  | _ => rfl

theorem consumed_sent (h : Sent l l') : l'.consumed = l.consumed := by
  cases h with
  | @writes bs c s hp hs =>
    exact consumed_updateStream fun s' hs' => by
      rw [Stream.consumed_writeAll, Option.some.inj (hs.symm.trans hs')]
  | shuts => exact consumed_updateStream (f := Stream.shut) fun _ _ => rfl
  | _ => rfl

theorem consumed_halted (h : Halted l l') : l'.consumed = l.consumed := by
  cases h with
  | takes => exact consumed_updateStream (f := Stream.shut) fun _ _ => rfl
  | wakes => exact (consumed_updateStream (f := Stream.endSending) fun _ _ => rfl).trans (consumed_dial l)
  | _ => rfl

/-- a read moves its client on, as far as something is there, and nobody else -/
theorem consumed_consume (l : Link) (client c n : Nat) :
    (l.step (.consume c n)).consumed client =
      if c = client then min (l.consumed client + n) (l.written client).length else l.consumed client := by
  simp only [step, consumed, written, updateStream, List.getElem?_modify]
  split_ifs with hc
  · cases hs : l.streams[client]? with
    | none => simp
    | some s => simp [Stream.consume]
  · simp

/-- only its own reads move a client on -/
theorem consumed_step (l : Link) {e : Event} (he : ∀ c n, e ≠ .consume c n) : (l.step e).consumed = l.consumed := by
  cases e with
  | consume c n => exact absurd rfl (he c n)
  | receive => exact keeps_receive (P := (·.consumed = l.consumed)) rfl consumed_received
  | send => exact keeps_send (P := (·.consumed = l.consumed)) rfl consumed_sent
  | halt => exact keeps_halt (P := (·.consumed = l.consumed)) rfl consumed_halted
  | dial => exact consumed_dial l
  | arrive | endSending | reset | failRead | failWrite => exact consumed_updateStream fun _ _ => rfl
  | push | failAccept => rfl

/-! ## Reading -/

/-- nothing that was written is taken back -/
theorem written_prefix_step (l : Link) (client : Nat) (e : Event) : l.written client <+: (l.step e).written client := by
  by_cases he : e = .send
  · subst he
    refine keeps_send (P := (l.written client <+: ·.written client)) (List.prefix_refl _) fun hs => ?_
    cases hs with
    | @writes bs c s hp hs =>
      obtain ⟨⟨k, hk⟩, hothers⟩ := Delivery.written_write hs bs
      by_cases hc : client = c
      · subst hc
        exact ⟨bs.take k, hk.symm⟩
      · exact ⟨[], (List.append_nil _).trans (hothers client hc).symm⟩
    | shuts =>
      exact ⟨[], (List.append_nil _).trans
        (congrFun (written_updateStream (f := Stream.shut) fun _ _ => rfl) client).symm⟩
    | _ => exact List.prefix_refl _
  · rw [(l.kept_step he).1]

/-- what a client has read -/
def readSoFar (l : Link) (client : Nat) : Bytes :=
  (l.written client).take (l.consumed client)

/-- no client has read what was not written -/
def ReadsWritten (l : Link) : Prop :=
  ∀ client, l.consumed client ≤ (l.written client).length

/-- **A client reads on where it has come to**, and only its reads move it. -/
theorem read_step (h : l.ReadsWritten) (e : Event) :
    (l.step e).ReadsWritten ∧
      ∀ client, (l.step e).readSoFar client = l.readSoFar client ++ l.reads client e := by
  by_cases he : ∀ c n, e ≠ .consume c n
  · have hplace := consumed_step l he
    refine ⟨fun client => ?_, fun client => ?_⟩
    · rw [hplace]
      exact (h client).trans (written_prefix_step l client e).length_le
    · have hreads : l.reads client e = [] := by
        cases e with
        | consume c n => exact absurd rfl (he c n)
        | _ => rfl
      obtain ⟨more, hmore⟩ := written_prefix_step l client e
      rw [readSoFar, hplace, ← hmore, List.take_append_of_le_length (h client), hreads, List.append_nil]
      rfl
  · push Not at he
    obtain ⟨c, n, rfl⟩ := he
    have hwritten : (l.step (.consume c n)).written = l.written := (l.kept_step (by simp)).1
    refine ⟨fun client => ?_, fun client => ?_⟩
    · rw [hwritten, consumed_consume]
      split_ifs
      exacts [Nat.min_le_right _ _, h client]
    · rw [readSoFar, hwritten, consumed_consume, reads]
      split_ifs with hc
      · rw [← List.take_eq_take_min, List.take_add]
        rfl
      · exact (List.append_nil _).symm

/-- **What a client has read and what it may still read is what was written to it.** -/
theorem read_steps (h : l.ReadsWritten) (es : List Event) (client : Nat) :
    (l.steps es).ReadsWritten ∧
      (l.steps es).written client = l.readSoFar client ++ l.readBy client es ++ (l.steps es).unread client := by
  induction es generalizing l with
  | nil => exact ⟨h, by rw [readBy, List.append_nil]; exact (List.take_append_drop _ _).symm⟩
  | cons e es ih =>
    obtain ⟨hnext, hread⟩ := read_step h e
    obtain ⟨hend, hsplit⟩ := ih hnext
    refine ⟨hend, hsplit.trans ?_⟩
    rw [hread client, readBy, List.append_assoc _ (l.reads client e)]
    rfl

theorem seesEnd_iff (l : Link) (client : Nat) :
    l.seesEnd client = true ↔ l.isShut client = true ∧ l.unread client = [] := by
  cases hs : l.streams[client]? with
  | none => simp [seesEnd, isShut, hs]
  | some s =>
    simp only [seesEnd, isShut, unread, written, consumed, hs, Option.any_some, Stream.seesEnd, Bool.and_eq_true,
      List.isEmpty_iff]
    rfl

/-- **The end of a stream lies behind its last byte.** A client of a server that has just been set up finds the end
exactly when the server has shut its stream and it has read all that was written to it. -/
theorem end_behind_last_byte {config : LinkConfig} (hl : Link.ofConfig? config = some l) (es : List Event)
    (client : Nat) :
    (l.steps es).seesEnd client = true ↔
      (l.steps es).isShut client = true ∧ l.readBy client es = (l.steps es).written client := by
  have hnobody : l.streams = [] := by
    obtain ⟨q, -, rfl⟩ := Option.map_eq_some_iff.1 hl
    rfl
  have hplace (c : Nat) : l.consumed c = 0 := by simp [consumed, hnobody]
  obtain ⟨-, hsplit⟩ := read_steps (fun c => hplace c ▸ Nat.zero_le _) es client
  rw [seesEnd_iff, hsplit]
  simp [readSoFar, hplace]

end Link

end RemoteShutter
