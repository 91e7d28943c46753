/-
Stopping a link with clients about.

A stop raises the flag, closes the queue, takes the slot and shuts the stream that it finds there, and wakes the
receiver. The receiver may stand anywhere at that: it may have a client in hand that is not stored yet, read from one,
or part with one.
- `isShut_steps`: a stream that was shut stays shut.
- `exists_take`: the slot is taken by one step of the stop.
- `Closing`: from that step on the flag is up, and what the receiver may still read from is shut.
- `closing_step`: an event keeps this, whatever it is.
- `rank_session`, `rank_received`: in a session whose stream was shut, and once the stop has woken the receiver, each step
  of the receiver leaves less for it to do.
- `Reception.calls_of_done`: a receiver that comes to look at the flag with a new client tells the handler nothing more.
- `stop_misses_no_client`: what holds of the link, and of the calls of the handler, after the slot was taken.
-/
import Mathlib.Tactic
import RemoteShutter.Proofs.Link.Delivery
import RemoteShutter.Proofs.Link.Reception

namespace RemoteShutter

/-! ## Streams that were shut -/

namespace Stream

/-- a read leaves a stream shut or not, as it was -/
@[simp] theorem isShut_read (s : Stream) (n : Nat) : (s.read n).2.isShut = s.isShut := by
  unfold read
  split
  · rfl
  · split_ifs <;> rfl

theorem isShut_writeAll_go (s : Stream) (bs : Bytes) (fs : List WriteFault) :
    (writeAll.go s bs fs).2.isShut = s.isShut := by
  induction fs generalizing s bs with
  | nil => rfl
  | cons f fs ih =>
    rw [writeAll.go]
    split_ifs
    · rfl
    · rw [ih]
    · rfl

@[simp] theorem isShut_writeAll (s : Stream) (bs : Bytes) : (s.writeAll bs).2.isShut = s.isShut := by
  unfold writeAll
  split_ifs
  · rfl
  · exact isShut_writeAll_go s bs s.writeFaults

/-- a read from a stream that was shut gives no bytes and does not wait: it fails, and uses a fault up, or the stream
has ended -/
theorem read_of_isShut {s : Stream} (h : s.isShut = true) (n : Nat) :
    (∃ e es, s.readFaults = e :: es ∧ s.read n = (.failed e, { s with readFaults := es })) ∨
      s.read n = (.ended, s) := by
  unfold read
  cases hf : s.readFaults with
  | nil => exact .inr (if_pos h)
  | cons e es => exact .inl ⟨e, es, rfl, rfl⟩

end Stream

namespace Link

/-- the server has shut the client's stream -/
def isShut (l : Link) (client : Nat) : Bool :=
  l.streams[client]?.any (·.isShut)

variable {l l' : Link} {client : Nat}

theorem isShut_updateStream {f : Stream → Stream} {c : Nat}
    (hf : ∀ s, l.streams[c]? = some s → s.isShut = true → (f s).isShut = true) (h : l.isShut client = true) :
    (l.updateStream c f).isShut client = true := by
  simp only [isShut, updateStream, List.getElem?_modify] at h ⊢
  split_ifs with hc
  · subst hc
    obtain ⟨s, hs, hshut⟩ := (Option.any_eq_true _ _).1 h
    rw [hs]
    exact hf s hs hshut
  · simpa using h

theorem isShut_dial (h : l.isShut client = true) : l.dial.isShut client = true := by
  obtain ⟨s, hs, hshut⟩ := (Option.any_eq_true _ _).1 h
  have hlt := (List.getElem?_eq_some_iff.1 hs).1
  simp only [isShut, dial, List.getElem?_append_left hlt, hs]
  exact hshut

theorem isShut_read {s : Stream} {c : Nat} (hs : l.streams[c]? = some s) (n : Nat) (h : l.isShut client = true) :
    (l.updateStream c fun _ => (s.read n).2).isShut client = true :=
  isShut_updateStream (fun s' hs' hshut => by
    rw [Stream.isShut_read, Option.some.inj (hs.symm.trans hs'), hshut]) h

theorem isShut_received (h : l.isShut client = true) (hs : Received l l') : l'.isShut client = true := by
  cases hs with
  | reads _ hs | interrupted _ hs | ends _ hs => exact isShut_read hs l.recvChunk h
  | shuts => exact isShut_updateStream (fun _ _ _ => rfl) h
  | _ => exact h

theorem isShut_sent (h : l.isShut client = true) (hs : Sent l l') : l'.isShut client = true := by
  cases hs with
  | @writes bs c s _ hs =>
    exact isShut_updateStream (fun s' hs' hshut => by
      rw [Stream.isShut_writeAll, Option.some.inj (hs.symm.trans hs'), hshut]) h
  | shuts => exact isShut_updateStream (fun _ _ _ => rfl) h
  | _ => exact h

theorem isShut_halted (h : l.isShut client = true) (hs : Halted l l') : l'.isShut client = true := by
  cases hs with
  | takes => exact isShut_updateStream (f := Stream.shut) (fun _ _ _ => rfl) h
  | wakes => exact isShut_updateStream (f := Stream.endSending) (fun _ _ => id) (isShut_dial h)
  | _ => exact h

/-- nothing opens a stream again -/
theorem isShut_step (h : l.isShut client = true) (e : Event) : (l.step e).isShut client = true := by
  cases e with
  | receive => exact keeps_receive (P := (·.isShut client = true)) h (isShut_received h)
  | send => exact keeps_send (P := (·.isShut client = true)) h (isShut_sent h)
  | halt => exact keeps_halt (P := (·.isShut client = true)) h (isShut_halted h)
  | dial => exact isShut_dial h
  | arrive | consume | endSending | reset | failRead | failWrite => exact isShut_updateStream (fun _ _ => id) h
  | push | failAccept => exact h

theorem isShut_steps (h : l.isShut client = true) (es : List Event) : (l.steps es).isShut client = true :=
  keeps_steps (P := (·.isShut client = true)) isShut_step h es

/-! ## The step that takes the slot -/

/-- only the stop moves itself on and raises the flag -/
theorem kept_of_ne_halt (l : Link) {e : Event} (he : e ≠ .halt) :
    (l.step e).stop = l.stop ∧ (l.step e).isStopped = l.isStopped := by
  let Same (l' : Link) : Prop := l'.stop = l.stop ∧ l'.isStopped = l.isStopped
  have hsame : Same l := ⟨rfl, rfl⟩
  cases e with
  | halt => exact absurd rfl he
  | receive => exact keeps_receive (P := Same) hsame fun hs => by cases hs <;> exact hsame
  | send => exact keeps_send (P := Same) hsame fun hs => by cases hs <;> exact hsame
  | push | dial | arrive | consume | endSending | reset | failAccept | failRead | failWrite => exact ⟨rfl, rfl⟩

theorem hasTaken_step (h : l.stop.hasTaken = true) (e : Event) : (l.step e).stop.hasTaken = true := by
  by_cases he : e = .halt
  · subst he
    refine keeps_halt (P := (·.stop.hasTaken = true)) h fun hs => ?_
    cases hs with
    | raises hp | closes hp => rw [hp] at h; cases h
    | takes | takesNone | wakes => rfl
  · rw [(kept_of_ne_halt l he).1, h]

theorem hasTaken_steps (h : l.stop.hasTaken = true) (es : List Event) : (l.steps es).stop.hasTaken = true :=
  keeps_steps (P := (·.stop.hasTaken = true)) hasTaken_step h es

/-- a stop that stands before the slot takes it -/
theorem hasTaken_of_closed (h : l.stop = .closed) : (l.step .halt).stop.hasTaken = true := by
  simp only [step, halt?, h]
  split <;> rfl

/-- **The slot is taken by one step of the stop.** -/
theorem exists_take (hl : l.stop.hasTaken = false) {es : List Event} (ht : (l.steps es).stop.hasTaken = true) :
    ∃ before after, es = before ++ .halt :: after ∧ (l.steps before).stop = .closed := by
  induction es using List.reverseRecOn with
  | nil => exact absurd (hl.symm.trans ht) Bool.false_ne_true
  | append_singleton es e ih =>
    cases hbefore : (l.steps es).stop.hasTaken with
    | true =>
      obtain ⟨before, after, rfl, hp⟩ := ih hbefore
      exact ⟨before, after ++ [e], by simp, hp⟩
    | false =>
      rw [steps_concat] at ht
      by_cases he : e = .halt
      · subst he
        refine ⟨es, [], rfl, ?_⟩
        rcases step_halt (l.steps es) with hs | hs
        · rw [hs, hbefore] at ht
          cases ht
        · generalize (l.steps es).step .halt = l' at hs ht
          cases hs with
          | takes hp | takesNone hp => exact hp
          | raises hp | closes hp => cases ht
          | wakes hp => rw [hp] at hbefore; cases hbefore
      · rw [(kept_of_ne_halt _ he).1, hbefore] at ht
        cases ht

/-! ## After that step -/

/-- the flag is up, and what the receiver may still read from is shut; the wake connection waits, unless the receiver
has somebody in hand already -/
structure Closing (l : Link) : Prop where
  taken : l.stop.hasTaken = true
  stopped : l.isStopped = true
  shut : ∀ client, l.receiver.tenant? = some client → l.isShut client = true
  wake : l.stop = .woken → l.receiver = .accept → l.backlog ≠ []

/-- the client in the slot has a stream -/
theorem exists_stream_of_slot {c : LinkConfig} (hl : ofConfig? c = some l) {es : List Event}
    (hs : (l.steps es).slot = some client) : ∃ s, (l.steps es).streams[client]? = some s := by
  have hroster := (Delivery.inv_steps (Delivery.inv_start hl) es).roster
  rw [Delivery.link_steps] at hroster
  exact ⟨_, List.getElem?_eq_getElem (hroster.lt_length (hroster.le_slot hs).1)⟩

/-- the step that takes the slot shuts what it finds there -/
theorem isShut_take (hp : l.stop = .closed) (hs : l.slot = some client) (hstream : ∃ s, l.streams[client]? = some s) :
    (l.step .halt).isShut client = true := by
  obtain ⟨s, hstream⟩ := hstream
  simp [step, halt?, hp, hs, isShut, updateStream, hstream, Stream.shut]

/-- and that is all that the receiver may read from -/
theorem closing_take (h : Agrees l) (hp : l.stop = .closed)
    (hstream : ∀ client, l.slot = some client → ∃ s, l.streams[client]? = some s) : Closing (l.step .halt) := by
  have hraised : l.isStopped = true := by rw [h.raised, hp]; rfl
  have hslot : l.slot = l.receiver.tenant? := by rw [h.slot, hp]; rfl
  have hmoves : (l.step .halt).receiver = l.receiver ∧ (l.step .halt).isStopped = l.isStopped ∧
      (l.step .halt).stop = .taken := by
    simp only [step, halt?, hp]
    split <;> exact ⟨rfl, rfl, rfl⟩
  obtain ⟨hreceiver, hstopped, htaken⟩ := hmoves
  refine ⟨hasTaken_of_closed hp, hstopped.trans hraised, fun client hc => ?_, fun hn => ?_⟩
  · rw [hreceiver, ← hslot] at hc
    exact isShut_take hp hc (hstream client hc)
  · cases htaken.symm.trans hn

/-- the receiver has moved within its session, or out of it -/
theorem Closing.moves (h : Closing l) (hshut : ∀ {c}, l.isShut c = true → l'.isShut c = true)
    (hp : ∀ c, l'.receiver.tenant? = some c → l.receiver.tenant? = some c) (hstop : l'.stop = l.stop)
    (hf : l'.isStopped = l.isStopped) (ha : l'.receiver = .accept → l.receiver = .accept ∧ l'.backlog = l.backlog) :
    Closing l' := by
  refine ⟨hstop ▸ h.taken, hf ▸ h.stopped, fun c hc => hshut (h.shut c (hp c hc)), fun hw hr => ?_⟩
  obtain ⟨hr, hb⟩ := ha hr
  exact hb ▸ h.wake (hstop ▸ hw) hr

theorem closing_received (h : Closing l) (hs : Received l l') : Closing l' := by
  have hshut : ∀ {c}, l.isShut c = true → l'.isShut c = true := (isShut_received · hs)
  cases hs with
  | stores hp hr => exact absurd (hr.symm.trans h.stopped) Bool.false_ne_true
  | returns hp hr => exact absurd (hr.symm.trans h.stopped) Bool.false_ne_true
  | interrupted hp => exact h.moves hshut (fun _ => id) rfl rfl fun hr => ⟨hr, rfl⟩
  | acceptFails hp | accepts hp | exits hp | shuts hp | leaves hp | vacates hp =>
    exact h.moves hshut (fun _ hc => by cases hc) rfl rfl fun hr => by cases hr
  | attaches hp | greets hp | reads hp | ends hp | misses hp | hands hp | handed hp | detaches hp =>
    exact h.moves hshut (fun _ hc => by rw [hp]; exact hc) rfl rfl fun hr => by cases hr

theorem closing_sent (h : Closing l) (hs : Sent l l') : Closing l' := by
  have hshut : ∀ {c}, l.isShut c = true → l'.isShut c = true := (isShut_sent · hs)
  cases hs <;> exact h.moves hshut (fun _ => id) rfl rfl fun hr => ⟨hr, rfl⟩

theorem closing_halted (h : Closing l) (hs : Halted l l') : Closing l' := by
  have hshut : ∀ {c}, l.isShut c = true → l'.isShut c = true := (isShut_halted · hs)
  have htaken := h.taken
  cases hs with
  | wakes hp => exact ⟨rfl, h.stopped, fun c hc => hshut (h.shut c hc), fun _ _ => by simp [updateStream, dial]⟩
  | raises hp | closes hp | takes hp | takesNone hp => rw [hp] at htaken; cases htaken

/-- **An event keeps what the stop has brought about.** -/
theorem closing_step (h : Closing l) (e : Event) : Closing (l.step e) := by
  cases e with
  | receive => exact keeps_receive h (closing_received h)
  | send => exact keeps_send h (closing_sent h)
  | halt => exact keeps_halt h (closing_halted h)
  | dial =>
    exact ⟨h.taken, h.stopped, fun c hc => isShut_dial (h.shut c hc), fun _ _ => by simp [step, dial]⟩
  | arrive | consume | endSending | reset | failRead | failWrite | push | failAccept =>
    exact h.moves (fun hc => isShut_step hc _) (fun _ => id) rfl rfl fun hr => ⟨hr, rfl⟩

theorem closing_steps (h : Closing l) (es : List Event) : Closing (l.steps es) :=
  keeps_steps closing_step h es

/-! ## What is left to do -/

/-- the faults that reads from the client's stream will report -/
def readFaults (l : Link) (client : Nat) : Nat :=
  (l.streams[client]?.map (·.readFaults.length)).getD 0

/-- a bound on the steps that the receiver makes before it is gone, if nothing else happens -/
def rank (l : Link) : Nat :=
  match l.receiver with
  | .exited => 0
  | .retry | .store _ | .check => 1
  | .accept | .farewell _ => 2
  | .shut _ => 3
  | .vacate _ => 4
  | .detach _ => 5
  | .read client => 6 + l.readFaults client
  | .hand client fs => 7 + l.readFaults client + fs.length
  | .greet client => 7 + l.readFaults client
  | .attach client => 8 + l.readFaults client

/-- a read from a stream that was shut does not wait -/
theorem receives_of_isShut (hshut : l.isShut client = true) (hp : l.receiver = .read client) :
    l.receive?.isSome = true := by
  obtain ⟨s, hs, hshut⟩ := (Option.any_eq_true _ _).1 hshut
  simp only [receive?, hp, hs]
  rcases Stream.read_of_isShut hshut l.recvChunk with ⟨e, es, -, hr⟩ | hr
  · rw [hr]
    cases e <;> rfl
  · rw [hr]
    rfl

/-- **Within a session whose stream was shut, each step of the receiver leaves less for it to do**: a read gives no
bytes. -/
theorem rank_session (hc : l.receiver.tenant? = some client) (hshut : l.isShut client = true) (hs : Received l l') :
    l'.rank < l.rank := by
  have hread : ∀ {c s}, l.receiver = .read c → l.streams[c]? = some s → s.isShut = true := by
    intro c s hp hs
    rw [hp] at hc
    obtain rfl := Option.some.inj hc
    obtain ⟨s', hs', hshut⟩ := (Option.any_eq_true _ _).1 hshut
    rwa [Option.some.inj (hs.symm.trans hs')]
  cases hs with
  | reads hp hs hr =>
    rcases Stream.read_of_isShut (hread hp hs) l.recvChunk with ⟨e, es, -, hr'⟩ | hr' <;> rw [hr'] at hr <;> cases hr
  | @interrupted c s hp hs hr =>
    rcases Stream.read_of_isShut (hread hp hs) l.recvChunk with ⟨e, es, hf, hr'⟩ | hr'
    · simp [rank, hp, updateStream, readFaults, hs, hr', hf]
    · rw [hr'] at hr
      cases hr
  | ends hp | misses hp =>
    simp only [rank, hp, receiveAt]
    omega
  | attaches hp | greets hp | hands hp | handed hp | detaches hp | vacates hp =>
    simp [rank, hp, receiveAt, tell, readFaults]
  | acceptFails hp | accepts hp | stores hp | shuts hp | leaves hp => rw [hp] at hc; cases hc
  | returns hp => rcases hp with hp | hp <;> rw [hp] at hc <;> cases hc
  | exits hp => rcases hp with hp | hp | ⟨c, hp⟩ <;> rw [hp] at hc <;> cases hc

/-- **The receiver is never left waiting for bytes.** -/
theorem Closing.receives_of_read (h : Closing l) (hp : l.receiver = .read client) : l.receive?.isSome = true :=
  receives_of_isShut (h.shut client (by rw [hp]; rfl)) hp

theorem rank_received (h : Closing l) (hs : Received l l') : l'.rank < l.rank := by
  cases hc : l.receiver.tenant? with
  | some client => exact rank_session hc (h.shut client hc) hs
  | none =>
    cases hs with
    | stores hp hr => exact absurd (hr.symm.trans h.stopped) Bool.false_ne_true
    | returns hp hr => exact absurd (hr.symm.trans h.stopped) Bool.false_ne_true
    | exits hp => rcases hp with hp | hp | ⟨client, hp⟩ <;> simp [rank, hp, receiveAt]
    | acceptFails hp | accepts hp | shuts hp | leaves hp => simp [rank, hp, receiveAt, updateStream]
    | attaches hp | greets hp | reads hp | interrupted hp | ends hp | misses hp | hands hp | handed hp | detaches hp
    | vacates hp => rw [hp] at hc; cases hc

/-- the receiver waits neither for bytes nor for a client -/
theorem Closing.received (h : Closing l) (hw : l.stop = .woken) (hp : l.receiver ≠ .exited) :
    Received l (l.step .receive) := by
  cases hr : l.receive? with
  | some l' =>
    simp only [step, hr]
    exact received_of_receive? hr
  | none =>
    rcases waits_of_receive? hr with ha | he | ⟨client, hc⟩
    · have hbacklog := h.wake hw ha
      simp only [receive?, ha] at hr
      split at hr
      · cases hr
      · cases hr
      · next hb => exact absurd hb hbacklog
    · exact absurd he hp
    · have hsome := h.receives_of_read hc
      rw [hr] at hsome
      cases hsome

/-- **A receiver that was woken gets away by its own steps.** -/
theorem Closing.exists_exited (h : Closing l) (hw : l.stop = .woken) :
    ∃ n, (l.steps (List.replicate n .receive)).receiver = .exited := by
  induction hn : l.rank using Nat.strong_induction_on generalizing l with
  | _ n ih =>
    by_cases hp : l.receiver = .exited
    · exact ⟨0, hp⟩
    · have hlt := rank_received h (h.received hw hp)
      have hstop := (kept_of_ne_halt l (e := .receive) Event.noConfusion).1.trans hw
      obtain ⟨k, hk⟩ := ih _ (hn ▸ hlt) (closing_step h .receive) hstop rfl
      exact ⟨k + 1, hk⟩

/-! ## Who was in the slot -/

/-- **Who was in the slot was shut by the stop, or had been left before.** -/
theorem shut_or_left {c : LinkConfig} (hl : ofConfig? c = some l) {before after : List Event}
    (hs : (l.steps before).slot = some client) (ht : (l.steps (before ++ after)).stop.hasTaken = true) :
    (∃ b a, before ++ after = b ++ .halt :: a ∧ (l.steps b).stop = .closed ∧ (l.steps b).slot = some client ∧
        (l.steps (before ++ after)).isShut client = true) ∨
      ∃ b a, before ++ after = b ++ a ∧ (l.steps b).receiver = .vacate client := by
  have hagrees := agrees_steps (agrees_ofConfig? hl)
  have hgone : ((l.steps before).steps after).slot ≠ some client := by
    rw [← steps_append, (hagrees _).slot, ht]
    exact Option.some_ne_none client ∘ Eq.symm
  obtain ⟨between, e, later, rfl, hslot, hempties⟩ := emptied_of_slot (hagrees before) hs hgone
  rw [← steps_append] at hslot hempties
  cases hempties with
  | detach hp => exact .inr ⟨before ++ between, .receive :: later, by simp, hp⟩
  | stop hp =>
    refine .inl ⟨before ++ between, later, by simp, hp, hslot, ?_⟩
    have hsteps : l.steps (before ++ (between ++ .halt :: later)) =
        ((l.steps (before ++ between)).step .halt).steps later := by
      rw [← List.append_assoc, steps_append]
      rfl
    rw [hsteps]
    exact isShut_steps (isShut_take hp hslot (exists_stream_of_slot hl hslot)) later

/-- every run that has taken the slot is closing -/
theorem closing_of_hasTaken {c : LinkConfig} (hl : ofConfig? c = some l) {es : List Event}
    (ht : (l.steps es).stop.hasTaken = true) : Closing (l.steps es) := by
  have hstart : l.stop.hasTaken = false := by
    obtain ⟨q, -, rfl⟩ := Option.map_eq_some_iff.1 hl
    rfl
  obtain ⟨before, after, rfl, hp⟩ := exists_take hstart ht
  rw [steps_append]
  exact closing_steps (closing_take (agrees_steps (agrees_ofConfig? hl) before) hp
    fun client hs => exists_stream_of_slot hl hs) after

/-! ## The handler -/

/-- the receiver is gone, or about to find the flag up with a new client in hand -/
def IsDone (l : Link) : Prop :=
  l.receiver = .exited ∨ l.isStopped = true ∧ ∃ client, l.receiver = .store client

theorem isStopped_step (h : l.isStopped = true) (e : Event) : (l.step e).isStopped = true := by
  by_cases he : e = .halt
  · subst he
    refine keeps_halt (P := (·.isStopped = true)) h fun hs => ?_
    cases hs with
    | raises => rfl
    | closes | takes | takesNone | wakes => exact h
  · rw [(kept_of_ne_halt l he).2, h]

theorem isDone_step (h : l.IsDone) (e : Event) : (l.step e).IsDone := by
  by_cases he : e = .receive
  · subst he
    rcases h with hp | ⟨hup, client, hp⟩
    · have hstays : l.step .receive = l := by simp only [step, receive?, hp, Option.getD_none]
      exact .inl (by rw [hstays, hp])
    · have hexits : l.step .receive = l.receiveAt .exited := by
        simp only [step, receive?, hp, hup, if_true, Option.getD_some]
      exact .inl (by rw [hexits]; rfl)
  · rw [IsDone, (kept_of_ne_receive l he).1]
    rcases h with hp | ⟨hup, hp⟩
    · exact .inl hp
    · exact .inr ⟨isStopped_step hup e, hp⟩

end Link

namespace Reception

open Delivery (storing)

variable {t : Reception} {attached : List Nat}

theorem calls_step_of_done (h : t.link.IsDone) (e : Link.Event) : (t.step e).calls = t.calls := by
  cases e with
  | receive => rcases h with hp | ⟨-, client, hp⟩ <;> simp only [step, receive, hp]
  | _ => rfl

/-- **A receiver that comes to the flag with a new client tells the handler nothing more.** -/
theorem calls_of_done (h : t.link.IsDone) (es : List Link.Event) : (t.steps es).calls = t.calls := by
  induction es generalizing t with
  | nil => rfl
  | cons e es ih =>
    have hnext : (t.step e).link.IsDone := link_step t e ▸ Link.isDone_step h e
    exact (ih hnext).trans (calls_step_of_done h e)

/-- who was greeted, or may be next, has been stored in the slot -/
structure Stored (t : Reception) (attached : List Nat) : Prop where
  tenant : ∀ client, t.link.receiver.tenant? = some client → client ∈ attached
  greeted : ∀ client, .connected client ∈ t.calls → client ∈ attached

theorem tenant_received {l l' : Link} (hs : Link.Received l l') {client : Nat}
    (hc : l'.receiver.tenant? = some client) : l.receiver.tenant? = some client ∨ client ∈ storing l l' := by
  cases hs with
  | stores hp =>
    obtain rfl := Option.some.inj hc
    exact .inr (by simp [storing, hp])
  | interrupted => exact .inl hc
  | attaches hp | greets hp | reads hp | ends hp | misses hp | hands hp | handed hp | detaches hp =>
    exact .inl (by rw [hp]; exact hc)
  | acceptFails | accepts | returns | exits | vacates | shuts | leaves => cases hc

theorem tenant_step {client : Nat} (e : Link.Event) (hc : (t.link.step e).receiver.tenant? = some client) :
    t.link.receiver.tenant? = some client ∨
      client ∈ if e = .receive then storing t.link (t.link.step e) else [] := by
  by_cases he : e = .receive
  · subst he
    rw [if_pos rfl]
    rcases Link.step_receive t.link with ⟨hs, -⟩ | hs
    · exact .inl (hs ▸ hc)
    · exact tenant_received hs hc
  · exact .inl ((t.link.kept_of_ne_receive he).1 ▸ hc)

theorem greeted_step {client : Nat} (e : Link.Event) (hc : .connected client ∈ (t.step e).calls) :
    .connected client ∈ t.calls ∨ t.link.receiver.tenant? = some client := by
  cases e with
  | receive =>
    have hs : Receives t (t.step .receive) := receives t
    generalize t.step .receive = t' at hs hc
    cases hs with
    | greets hp =>
      rcases List.mem_append.1 hc with hc | hc
      · exact .inl hc
      · obtain rfl := Call.connected.inj (List.mem_singleton.1 hc)
        exact .inr (by rw [hp]; rfl)
    | hands | leaves => exact .inl (by simpa using hc)
    | reads | moves => exact .inl hc
  | _ => exact .inl hc

theorem stored_step (h : Stored t attached) (e : Link.Event) :
    Stored (t.step e) (attached ++ if e = .receive then storing t.link (t.link.step e) else []) := by
  refine ⟨fun client hc => ?_, fun client hc => ?_⟩
  · rw [link_step] at hc
    exact List.mem_append.2 ((tenant_step e hc).imp_left (h.tenant client))
  · exact List.mem_append_left _ ((greeted_step e hc).elim (h.greeted client) (h.tenant client))

/-- **Who comes to be stored has not been greeted.** -/
theorem not_greeted_of_store {c : LinkConfig} {l : Link} (hl : Link.ofConfig? c = some l) {es : List Link.Event}
    {client : Nat} (hp : (l.steps es).receiver = .store client) :
    .connected client ∉ (steps { link := l } es).calls := by
  have hstored : Stored (steps { link := l } es) (Delivery.steps { link := l } es).attached := by
    clear hp
    induction es using List.reverseRecOn with
    | nil =>
      obtain ⟨q, -, rfl⟩ := Option.map_eq_some_iff.1 hl
      exact ⟨fun client hc => (by cases hc), fun client hc => absurd hc List.not_mem_nil⟩
    | append_singleton es e ih =>
      have hlink : (Delivery.steps { link := l } es).link = (steps { link := l } es).link :=
        (Delivery.link_steps { link := l } es).trans (link_steps { link := l } es).symm
      simp only [steps, Delivery.steps, List.foldl_append, List.foldl_cons, List.foldl_nil] at ih hlink ⊢
      rw [Delivery.attached_step, hlink]
      exact stored_step ih e
  have hroster := (Delivery.inv_steps (Delivery.inv_start hl) es).roster
  rw [Delivery.link_steps] at hroster
  intro hc
  have hmem := hstored.greeted client hc
  have hcoming : client ∈ (l.steps es).coming := by simp [Link.coming, hp]
  have hordered := (List.pairwise_append.1 hroster.ordered).1
  exact Nat.lt_irrefl client ((List.pairwise_append.1 hordered).2.2 client hmem client hcoming)

/-- **No client is missed by a stop.** Take a new link, any events at it, and the calls of the handler; and let a stop
have taken the slot. Then the slot stays empty, whatever follows. Every client that was ever in the slot was found there
by the stop, which has shut its stream, or its session had left it before; so the receiver is never left reading from a
stream that nobody has shut, and never waits there. A client with which the receiver comes to look at the flag has not
been greeted, and neither it nor anybody else is told of afterwards. Once the receiver is gone the calls are those of
whole sessions, each from greeting to farewell, and the queue is not connected. And once the stop has woken the
receiver, its own steps are enough for that. -/
theorem stop_misses_no_client {c : LinkConfig} {l : Link} (hl : Link.ofConfig? c = some l) (es : List Link.Event)
    (ht : (l.steps es).stop.hasTaken = true) :
    let t := steps { link := l } es
    t.link = l.steps es ∧
      (∀ es', (l.steps (es ++ es')).slot = none) ∧
      (∀ before after client, es = before ++ after → (l.steps before).slot = some client →
        (∃ b a, es = b ++ .halt :: a ∧ (l.steps b).stop = .closed ∧ (l.steps b).slot = some client ∧
            t.link.isShut client = true) ∨
          ∃ b a, es = b ++ a ∧ (l.steps b).receiver = .vacate client) ∧
      (∀ client, t.link.receiver = .read client → t.link.isShut client = true ∧ t.link.receive?.isSome = true) ∧
      (∀ es' client, (l.steps (es ++ es')).receiver = .store client →
        .connected client ∉ (t.steps es').calls ∧ ∀ es'', (t.steps (es' ++ es'')).calls = (t.steps es').calls) ∧
      (t.link.receiver = .exited → t.calls = t.past.flatMap Session.calls ∧ t.link.queue.isConnected = false) ∧
      (t.link.stop = .woken → ∃ n, (t.steps (List.replicate n .receive)).link.receiver = .exited) := by
  intro t
  have hlink : t.link = l.steps es := link_steps { link := l } es
  have hagrees := Link.agrees_steps (Link.agrees_ofConfig? hl)
  have hclosing : Link.Closing t.link := hlink ▸ Link.closing_of_hasTaken hl ht
  have hsteps : ∀ es', t.steps es' = steps { link := l } (es ++ es') := fun _ => List.foldl_append.symm
  refine ⟨hlink, fun es' => ?_, ?_, fun client hp => ?_, fun es' client hp => ⟨?_, fun es'' => ?_⟩, fun hp => ⟨?_, ?_⟩,
    fun hw => ?_⟩
  · have htaken : (l.steps (es ++ es')).stop.hasTaken = true := Link.steps_append l es es' ▸ Link.hasTaken_steps ht es'
    rw [(hagrees _).slot, htaken, if_pos rfl]
  · rintro before after client rfl hs
    exact hlink ▸ Link.shut_or_left hl hs ht
  · exact ⟨hclosing.shut client (by rw [hp]; rfl), hclosing.receives_of_read hp⟩
  · rw [hsteps]
    exact not_greeted_of_store hl hp
  · have hup : (l.steps (es ++ es')).isStopped = true := by
      rw [Link.steps_append, ← hlink]
      exact (Link.closing_steps hclosing es').stopped
    have hdone : (t.steps es').link.IsDone := by
      rw [hsteps, link_steps]
      exact .inr ⟨hup, client, hp⟩
    have happend : t.steps (es' ++ es'') = (t.steps es').steps es'' := List.foldl_append
    rw [happend]
    exact calls_of_done hdone es''
  · have hserving : Serving t := (inv_steps (inv_start hl) es).serving
    cases hserving with
    | between _ _ _ hcalls => exact hcalls
    | within hp' => rw [hp] at hp'; cases hp'
  · rw [hlink, (hagrees es).connected, ← hlink, hp]
    rfl
  · obtain ⟨n, hn⟩ := hclosing.exists_exited hw
    exact ⟨n, by rw [link_steps]; exact hn⟩

/-- the stop takes the slot when the first client has been stored and not yet been greeted; another one comes before the
wake connection -/
theorem stop_misses_no_client_between_store_and_greeting :
    let config : LinkConfig := { sendBuffer := 4 }
    let es : List Link.Event := [.dial, .receive, .receive, .halt, .halt, .halt, .receive, .receive, .dial, .halt]
    ∃ l, Link.ofConfig? config = some l ∧ (l.steps es).stop.hasTaken = true ∧
      let t := steps { link := l } es
      t.link.receiver = .read 0 ∧ t.calls = [.connected 0] ∧ t.link.backlog = [1, 2] ∧
        (∀ es', (l.steps (es ++ es')).slot = none) ∧ t.link.isShut 0 = true ∧
        ∃ n, (t.steps (List.replicate n .receive)).link.receiver = .exited := by
  intro config es
  obtain ⟨l, hl⟩ : ∃ l, Link.ofConfig? config = some l := ⟨_, rfl⟩
  have hall := stop_misses_no_client hl es
  obtain rfl := Option.some.inj hl
  obtain ⟨-, hslot, -, hread, -, -, hexits⟩ := hall (by decide)
  exact ⟨_, rfl, by decide, by decide, by decide, by decide, hslot, (hread 0 (by decide)).1, hexits (by decide)⟩

end Reception

end RemoteShutter
