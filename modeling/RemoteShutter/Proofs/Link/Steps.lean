/-
What the receiver, the sender and a stop can do in one step.

`Received`, `Sent` and `Halted` list the steps of the three, each with the point at which it is made and the link that
it leaves. Invariants of the link go through these lists.
- `received_of_receive?`, `sent_of_send?`, `halted_of_halt?`: there are no other steps.
- `Stream.length_of_read`, `Stream.writeAll_through`: a read gives no more than asked for; of a chunk the beginning gets
  through.
- `keeps_receive`, `keeps_send`, `keeps_halt`, `keeps_steps`: what all steps of the three keep, their turns keep, and
  what all events keep, every run keeps.
- `kept_step`: only the sender writes to clients, takes from the queue and moves itself on.
-/
import Mathlib.Tactic
import RemoteShutter.Link.Server

namespace RemoteShutter

/-! ## Streams -/

/-- the bytes that a read gives -/
def ReadResult.got : ReadResult → Bytes
  | bytes bs => bs
  | _ => []

namespace Stream

/-- a read that gives bytes gives at least one, and no more than asked for -/
theorem length_of_read {s : Stream} {n : Nat} {bs : Bytes} (hn : 0 < n) (h : (s.read n).1 = .bytes bs) :
    1 ≤ bs.length ∧ bs.length ≤ n := by
  unfold read at h
  split at h
  · cases h
  · split_ifs at h with hshut hreset hempty hended
    obtain rfl : s.inbound.take n = bs := ReadResult.bytes.inj h
    have hpos : 0 < s.inbound.length := by
      rw [List.length_pos_iff]
      exact fun hnil => hempty (List.isEmpty_iff.2 hnil)
    rw [List.length_take]
    omega

@[simp] theorem written_read (s : Stream) (n : Nat) : (s.read n).2.written = s.written := by
  unfold read
  split
  · rfl
  · split_ifs <;> rfl

theorem writeAll_go_through (s : Stream) (bs : Bytes) (fs : List WriteFault) :
    ∃ k, (writeAll.go s bs fs).2.written.toList = s.written.toList ++ bs.take k := by
  induction fs generalizing s bs with
  | nil => exact ⟨bs.length, by simp [writeAll.go]⟩
  | cons f fs ih =>
    rw [writeAll.go]
    split_ifs with hempty hinterrupted
    · exact ⟨0, by simp⟩
    · -- the rest is tried again
      obtain ⟨k, hk⟩ := ih { s with written := s.written ++ bs.take f.through, writeFaults := fs } (bs.drop f.through)
      refine ⟨f.through + k, ?_⟩
      rw [hk, List.take_add]
      simp
    · exact ⟨f.through, by simp⟩

/-- **Of a chunk the beginning gets through**, and nothing else. -/
theorem writeAll_through (s : Stream) (bs : Bytes) :
    ∃ k, (s.writeAll bs).2.written.toList = s.written.toList ++ bs.take k := by
  unfold writeAll
  split_ifs
  · exact ⟨0, by simp⟩
  · exact writeAll_go_through s bs s.writeFaults

end Stream

namespace Link

/-! ## The receiver -/

/-- what the receiver does in one step -/
inductive Received (l : Link) : Link → Prop where
  | acceptFails {e : SocketFault} {es : List SocketFault} (point : l.receiver = .accept)
      (faults : l.acceptFaults = e :: es) : Received l { l with acceptFaults := es, receiver := .retry }
  | accepts {client : Nat} {rest : List Nat} (point : l.receiver = .accept) (backlog : l.backlog = client :: rest) :
      Received l { l with backlog := rest, receiver := .store client }
  /-- it looks at the flag, and goes back to the next client -/
  | returns (point : l.receiver = .retry ∨ l.receiver = .check) (running : l.isStopped = false) :
      Received l (l.receiveAt .accept)
  /-- it looks at the flag, and is done -/
  | exits (point : l.receiver = .retry ∨ l.receiver = .check ∨ ∃ client, l.receiver = .store client)
      (stopped : l.isStopped = true) : Received l (l.receiveAt .exited)
  | stores {client : Nat} (point : l.receiver = .store client) (running : l.isStopped = false) :
      Received l { l with slot := some client, receiver := .attach client }
  | attaches {client : Nat} (point : l.receiver = .attach client) :
      Received l { l with queue := l.queue.setConnected true, receiver := .greet client }
  | greets {client : Nat} (point : l.receiver = .greet client) :
      Received l ((l.tell .connected).receiveAt (.read client))
  | reads {client : Nat} {s : Stream} {bs : Bytes} (point : l.receiver = .read client)
      (stream : l.streams[client]? = some s) (result : (s.read l.recvChunk).1 = .bytes bs) :
      Received l { l.updateStream client fun _ => (s.read l.recvChunk).2 with
        decoder := (l.decoder.decode bs).1, receiver := .hand client (l.decoder.decode bs).2 }
  /-- a read was interrupted, and is tried again -/
  | interrupted {client : Nat} {s : Stream} (point : l.receiver = .read client)
      (stream : l.streams[client]? = some s) (result : (s.read l.recvChunk).1 = .failed .interrupted) :
      Received l (l.updateStream client fun _ => (s.read l.recvChunk).2)
  /-- the stream has ended, or a read has failed for good -/
  | ends {client : Nat} {s : Stream} (point : l.receiver = .read client) (stream : l.streams[client]? = some s)
      (result : (s.read l.recvChunk).1.got = []) :
      Received l ((l.updateStream client fun _ => (s.read l.recvChunk).2).receiveAt (.detach client))
  | misses {client : Nat} (point : l.receiver = .read client) (stream : l.streams[client]? = none) :
      Received l (l.receiveAt (.detach client))
  | hands {client : Nat} {f : Frame} {fs : List Frame} (point : l.receiver = .hand client (f :: fs)) :
      Received l ((l.tell (.frame f)).receiveAt (.hand client fs))
  | handed {client : Nat} (point : l.receiver = .hand client []) : Received l (l.receiveAt (.read client))
  | detaches {client : Nat} (point : l.receiver = .detach client) :
      Received l { l with queue := l.queue.setConnected false, receiver := .vacate client }
  | vacates {client : Nat} (point : l.receiver = .vacate client) :
      Received l { l with slot := none, receiver := .shut client }
  | shuts {client : Nat} (point : l.receiver = .shut client) :
      Received l ((l.updateStream client Stream.shut).receiveAt (.farewell client))
  | leaves {client : Nat} (point : l.receiver = .farewell client) :
      Received l { l.tell .disconnected with decoder := l.decoder.reset, receiver := .check }

variable {l l' : Link}

/-- looking at the flag -/
theorem received_of_check (hp : l.receiver = .retry ∨ l.receiver = .check) :
    Received l (l.receiveAt (if l.isStopped then .exited else .accept)) := by
  split_ifs with hs
  · exact .exits (hp.imp_right .inl) hs
  · exact .returns hp (Bool.eq_false_of_not_eq_true hs)

theorem received_of_read {client : Nat} (hp : l.receiver = .read client) (h : l.receive? = some l') :
    Received l l' := by
  rw [receive?, hp] at h
  cases hs : l.streams[client]? with
  | none =>
    simp only [hs, Option.some.injEq] at h
    exact h ▸ .misses hp hs
  | some s =>
    simp only [hs] at h
    cases hr : (s.read l.recvChunk).1 with
    | waits => simp only [hr, reduceCtorEq] at h
    | bytes bs =>
      simp only [hr, Option.some.injEq] at h
      exact h ▸ .reads hp hs hr
    | ended =>
      simp only [hr, Option.some.injEq] at h
      exact h ▸ .ends hp hs (by rw [hr]; rfl)
    | failed e =>
      cases e with
      | interrupted =>
        simp only [hr, Option.some.injEq] at h
        exact h ▸ .interrupted hp hs hr
      | wouldBlock | reset | broken =>
        simp only [hr, Option.some.injEq] at h
        exact h ▸ .ends hp hs (by rw [hr]; rfl)

/-- **The receiver makes no other steps.** -/
theorem received_of_receive? (h : l.receive? = some l') : Received l l' := by
  cases hp : l.receiver with
  | read client => exact received_of_read hp h
  | accept =>
    simp only [receive?, hp] at h
    split at h
    · next hf => exact Option.some.inj h ▸ .acceptFails hp hf
    · next hb => exact Option.some.inj h ▸ .accepts hp hb
    · cases h
  | retry =>
    simp only [receive?, hp, Option.some.injEq] at h
    exact h ▸ received_of_check (.inl hp)
  | check =>
    simp only [receive?, hp, Option.some.injEq] at h
    exact h ▸ received_of_check (.inr hp)
  | store client =>
    simp only [receive?, hp] at h
    split_ifs at h with hs
    · exact Option.some.inj h ▸ .exits (.inr (.inr ⟨client, hp⟩)) hs
    · exact Option.some.inj h ▸ .stores hp (Bool.eq_false_of_not_eq_true hs)
  | attach client =>
    simp only [receive?, hp, Option.some.injEq] at h
    exact h ▸ .attaches hp
  | greet client =>
    simp only [receive?, hp, Option.some.injEq] at h
    exact h ▸ .greets hp
  | hand client fs =>
    cases fs with
    | nil =>
      simp only [receive?, hp, Option.some.injEq] at h
      exact h ▸ .handed hp
    | cons f fs =>
      simp only [receive?, hp, Option.some.injEq] at h
      exact h ▸ .hands hp
  | detach client =>
    simp only [receive?, hp, Option.some.injEq] at h
    exact h ▸ .detaches hp
  | vacate client =>
    simp only [receive?, hp, Option.some.injEq] at h
    exact h ▸ .vacates hp
  | shut client =>
    simp only [receive?, hp, Option.some.injEq] at h
    exact h ▸ .shuts hp
  | farewell client =>
    simp only [receive?, hp, Option.some.injEq] at h
    exact h ▸ .leaves hp
  | exited => simp only [receive?, hp, reduceCtorEq] at h

/-! ## The sender -/

/-- what the sender does in one step -/
inductive Sent (l : Link) : Link → Prop where
  | exits (point : l.sender = .take) (closed : l.queue.isClosed = true) : Sent l { l with sender := .exited }
  | pops (point : l.sender = .take) (isOpen : l.queue.isClosed = false) (connected : l.queue.isConnected = true) :
      Sent l { l with
        queue := { l.queue with ring := (l.queue.ring.get l.sendChunk).2 }
        sender := .look (l.queue.ring.get l.sendChunk).1 }
  /-- there is no client for the chunk -/
  | drops {bs : Bytes} (point : l.sender = .look bs) (slot : l.slot = none) : Sent l { l with sender := .take }
  | finds {bs : Bytes} {client : Nat} (point : l.sender = .look bs) (slot : l.slot = some client) :
      Sent l { l with sender := .write bs client }
  | misses {bs : Bytes} {client : Nat} (point : l.sender = .write bs client) (stream : l.streams[client]? = none) :
      Sent l { l with sender := .take }
  | writes {bs : Bytes} {client : Nat} {s : Stream} (point : l.sender = .write bs client)
      (stream : l.streams[client]? = some s) :
      Sent l { l.updateStream client fun _ => (s.writeAll bs).2 with
        sender := if (s.writeAll bs).1 then .take else .shut client }
  | shuts {client : Nat} (point : l.sender = .shut client) :
      Sent l { l.updateStream client Stream.shut with sender := .take }

/-- **The sender makes no other steps.** -/
theorem sent_of_send? (h : l.send? = some l') : Sent l l' := by
  cases hp : l.sender with
  | take =>
    simp only [send?, hp, Outbound.take] at h
    split_ifs at h with hc hr
    · exact Option.some.inj h ▸ .exits hp hc
    · rw [Bool.and_eq_true] at hr
      exact Option.some.inj h ▸ .pops hp (Bool.eq_false_of_not_eq_true hc) hr.1
  | look bs =>
    simp only [send?, hp] at h
    split at h
    · next hs => exact Option.some.inj h ▸ .drops hp hs
    · next hs => exact Option.some.inj h ▸ .finds hp hs
  | write bs client =>
    simp only [send?, hp] at h
    split at h
    · next hs => exact Option.some.inj h ▸ .misses hp hs
    · next hs => exact Option.some.inj h ▸ .writes hp hs
  | shut client =>
    simp only [send?, hp, Option.some.injEq] at h
    exact h ▸ .shuts hp
  | exited => simp only [send?, hp, reduceCtorEq] at h

/-! ## A stop -/

/-- what a stop does in one step -/
inductive Halted (l : Link) : Link → Prop where
  | raises (point : l.stop = .running) : Halted l { l with isStopped := true, stop := .raised }
  | closes (point : l.stop = .raised) : Halted l { l with queue := l.queue.close, stop := .closed }
  | takes {client : Nat} (point : l.stop = .closed) (slot : l.slot = some client) :
      Halted l { l.updateStream client Stream.shut with slot := none, stop := .taken }
  | takesNone (point : l.stop = .closed) (slot : l.slot = none) : Halted l { l with stop := .taken }
  | wakes (point : l.stop = .taken) :
      Halted l { l.dial.updateStream l.streams.length Stream.endSending with stop := .woken }

/-- **A stop makes no other steps.** -/
theorem halted_of_halt? (h : l.halt? = some l') : Halted l l' := by
  cases hp : l.stop with
  | running =>
    simp only [halt?, hp, Option.some.injEq] at h
    exact h ▸ .raises hp
  | raised =>
    simp only [halt?, hp, Option.some.injEq] at h
    exact h ▸ .closes hp
  | closed =>
    simp only [halt?, hp] at h
    split at h
    · next hs => exact Option.some.inj h ▸ .takes hp hs
    · next hs => exact Option.some.inj h ▸ .takesNone hp hs
  | taken =>
    simp only [halt?, hp, Option.some.injEq] at h
    exact h ▸ .wakes hp
  | woken => simp only [halt?, hp, reduceCtorEq] at h

/-! ## Events -/

/-- the receiver waits only for a client or for its bytes -/
theorem waits_of_receive? (h : l.receive? = none) :
    l.receiver = .accept ∨ l.receiver = .exited ∨ ∃ client, l.receiver = .read client := by
  cases hp : l.receiver with
  | accept => exact .inl rfl
  | exited => exact .inr (.inl rfl)
  | read client => exact .inr (.inr ⟨client, rfl⟩)
  | hand client fs => cases fs <;> simp only [receive?, hp, reduceCtorEq] at h
  | store client =>
    simp only [receive?, hp] at h
    split_ifs at h
  | retry | attach | greet | detach | vacate | shut | farewell | check => simp only [receive?, hp, reduceCtorEq] at h

theorem step_receive (l : Link) :
    (l.step .receive = l ∧ (l.receiver = .accept ∨ l.receiver = .exited ∨ ∃ client, l.receiver = .read client)) ∨
      Received l (l.step .receive) := by
  simp only [step]
  cases h : l.receive? with
  | none => exact .inl ⟨rfl, waits_of_receive? h⟩
  | some l' => exact .inr (received_of_receive? h)

/-- the sender waits only for the queue -/
theorem waits_of_send? (h : l.send? = none) : l.sender = .take ∨ l.sender = .exited := by
  cases hp : l.sender with
  | take => exact .inl rfl
  | exited => exact .inr rfl
  | look bs | write bs client =>
    simp only [send?, hp] at h
    split at h <;> cases h
  | shut client => simp only [send?, hp, reduceCtorEq] at h

theorem step_send (l : Link) :
    (l.step .send = l ∧ (l.sender = .take ∨ l.sender = .exited)) ∨ Sent l (l.step .send) := by
  simp only [step]
  cases h : l.send? with
  | none => exact .inl ⟨rfl, waits_of_send? h⟩
  | some l' => exact .inr (sent_of_send? h)

theorem step_halt (l : Link) : l.step .halt = l ∨ Halted l (l.step .halt) := by
  simp only [step]
  cases h : l.halt? with
  | none => exact .inl rfl
  | some l' => exact .inr (halted_of_halt? h)

/-! ## What stays -/

variable {P : Link → Prop}

/-- what the receiver's steps keep, its turn keeps, whether it makes a step or waits -/
theorem keeps_receive (h : P l) (hs : ∀ {l'}, Received l l' → P l') : P (l.step .receive) :=
  (step_receive l).elim (fun hwaits => hwaits.1.symm ▸ h) hs

theorem keeps_send (h : P l) (hs : ∀ {l'}, Sent l l' → P l') : P (l.step .send) :=
  (step_send l).elim (fun hwaits => hwaits.1.symm ▸ h) hs

theorem keeps_halt (h : P l) (hs : ∀ {l'}, Halted l l' → P l') : P (l.step .halt) :=
  (step_halt l).elim (fun hover => hover.symm ▸ h) hs

/-- **What every event keeps, every run keeps.** -/
theorem keeps_steps (hstep : ∀ {l}, P l → ∀ e, P (l.step e)) (h : P l) (es : List Event) : P (l.steps es) := by
  induction es generalizing l with
  | nil => exact h
  | cons e es ih => exact ih (hstep h e)

theorem steps_append (l : Link) (es es' : List Event) : l.steps (es ++ es') = (l.steps es).steps es' :=
  List.foldl_append

theorem steps_concat (l : Link) (es : List Event) (e : Event) : l.steps (es ++ [e]) = (l.steps es).step e :=
  steps_append l es [e]

/-- only the receiver uses the decoder, tells the handler and moves itself on -/
theorem kept_of_ne_receive (l : Link) {e : Event} (he : e ≠ .receive) :
    (l.step e).receiver = l.receiver ∧ (l.step e).decoder = l.decoder ∧ (l.step e).events = l.events ∧
      (l.step e).recvChunk = l.recvChunk := by
  let Same (l' : Link) : Prop := l'.receiver = l.receiver ∧ l'.decoder = l.decoder ∧ l'.events = l.events ∧
    l'.recvChunk = l.recvChunk
  have hsame : Same l := ⟨rfl, rfl, rfl, rfl⟩
  cases e with
  | receive => exact absurd rfl he
  | send => exact keeps_send (P := Same) hsame fun hs => by cases hs <;> exact hsame
  | halt => exact keeps_halt (P := Same) hsame fun hs => by cases hs <;> exact hsame
  | push | dial | arrive | consume | endSending | reset | failAccept | failRead | failWrite =>
    exact ⟨rfl, rfl, rfl, rfl⟩

/-- the size of a read stays -/
theorem recvChunk_step (l : Link) (e : Event) : (l.step e).recvChunk = l.recvChunk := by
  by_cases he : e = .receive
  · subst he
    exact keeps_receive (P := (·.recvChunk = l.recvChunk)) rfl fun hs => by cases hs <;> rfl
  · exact (kept_of_ne_receive l he).2.2.2

theorem recvChunk_steps (l : Link) (es : List Event) : (l.steps es).recvChunk = l.recvChunk :=
  keeps_steps (P := (·.recvChunk = l.recvChunk)) (fun h e => (recvChunk_step _ e).trans h) rfl es

/-! ## What has been written -/

/-- all that has been written to a client -/
def written (l : Link) (client : Nat) : Bytes :=
  (l.streams[client]?.map (·.written.toList)).getD []

/-- what stays the same in the stream of one client stays the same for all -/
theorem getD_updateStream {α : Type} (view : Stream → α) (d : α) {client : Nat} {f : Stream → Stream}
    (hf : ∀ s, l.streams[client]? = some s → view (f s) = view s) (c : Nat) :
    ((l.updateStream client f).streams[c]?.map view).getD d = (l.streams[c]?.map view).getD d := by
  simp only [updateStream, List.getElem?_modify]
  split_ifs with hc
  · subst hc
    cases hs : l.streams[client]? with
    | none => rfl
    | some s => simp [hf s hs]
  · simp

/-- a new client begins where nobody stood -/
theorem getD_dial {α : Type} (view : Stream → α) (l : Link) (c : Nat) :
    (l.dial.streams[c]?.map view).getD (view {}) = (l.streams[c]?.map view).getD (view {}) := by
  simp only [dial]
  rcases Nat.lt_trichotomy c l.streams.length with hc | rfl | hc
  · rw [List.getElem?_append_left hc]
  · rw [List.getElem?_concat_length, List.getElem?_eq_none le_rfl]
    rfl
  · rw [List.getElem?_eq_none hc.le, List.getElem?_append_right hc.le, List.getElem?_eq_none]
    rw [List.length_singleton]
    omega

theorem written_updateStream {client : Nat} {f : Stream → Stream}
    (hf : ∀ s, l.streams[client]? = some s → (f s).written = s.written) :
    (l.updateStream client f).written = l.written :=
  funext fun c => getD_updateStream (·.written.toList) [] (fun s hs => congrArg Array.toList (hf s hs)) c

/-- a new client has got nothing yet -/
theorem written_dial (l : Link) : l.dial.written = l.written :=
  funext fun c => getD_dial (·.written.toList) l c

/-- a read writes nothing -/
theorem written_read {client : Nat} {s : Stream} (hs : l.streams[client]? = some s) (n : Nat) :
    (l.updateStream client fun _ => (s.read n).2).written = l.written :=
  written_updateStream fun s' hs' => by rw [Stream.written_read, Option.some.inj (hs.symm.trans hs')]

theorem kept_received (h : Received l l') :
    l'.written = l.written ∧ l'.sender = l.sender ∧ l'.queue.ring = l.queue.ring := by
  cases h with
  | reads hp hs | interrupted hp hs | ends hp hs => exact ⟨written_read hs l.recvChunk, rfl, rfl⟩
  | shuts => exact ⟨written_updateStream fun _ _ => rfl, rfl, rfl⟩
  | _ => exact ⟨rfl, rfl, rfl⟩

theorem kept_halted (h : Halted l l') :
    l'.written = l.written ∧ l'.sender = l.sender ∧ l'.queue.ring = l.queue.ring := by
  cases h with
  | takes => exact ⟨written_updateStream fun _ _ => rfl, rfl, rfl⟩
  | wakes =>
    have hdial : (l.dial.updateStream l.streams.length Stream.endSending).written = l.written :=
      (written_updateStream (f := Stream.endSending) fun _ _ => rfl).trans (written_dial l)
    exact ⟨hdial, rfl, rfl⟩
  | _ => exact ⟨rfl, rfl, rfl⟩

/-- **Only the sender writes to clients**, takes from the queue and moves itself on. -/
theorem kept_step (l : Link) {e : Event} (he : e ≠ .send) :
    (l.step e).written = l.written ∧ (l.step e).sender = l.sender ∧
      ((∀ bs, e ≠ .push bs) → (l.step e).queue.ring = l.queue.ring) := by
  cases e with
  | send => exact absurd rfl he
  | push bs => exact ⟨rfl, rfl, fun hpush => absurd rfl (hpush bs)⟩
  | dial => exact ⟨written_dial l, rfl, fun _ => rfl⟩
  | failAccept => exact ⟨rfl, rfl, fun _ => rfl⟩
  | arrive | consume | endSending | reset | failRead | failWrite =>
    exact ⟨written_updateStream fun _ _ => rfl, rfl, fun _ => rfl⟩
  | receive =>
    rcases step_receive l with ⟨hs, -⟩ | hs
    · exact ⟨congrArg written hs, congrArg sender hs, fun _ => congrArg (·.queue.ring) hs⟩
    · obtain ⟨hwritten, hsender, hring⟩ := kept_received hs
      exact ⟨hwritten, hsender, fun _ => hring⟩
  | halt =>
    rcases step_halt l with hs | hs
    · exact ⟨congrArg written hs, congrArg sender hs, fun _ => congrArg (·.queue.ring) hs⟩
    · obtain ⟨hwritten, hsender, hring⟩ := kept_halted hs
      exact ⟨hwritten, hsender, fun _ => hring⟩

end Link

end RemoteShutter
