/-
Which client is attached.

The slot, the flag of the queue and the flag of a stop are changed by different parties, but each of them at fixed
points, so the points tell what they hold.
- `Agrees`: the slot has the client that the receiver has stored, until a stop takes it; the queue is connected while
  the receiver is between its attach and its detach, and closed from the second step of a stop on.
- `agrees_step`: an event keeps this, whatever it is.
- `Agrees.exists_tenant`: at a queue that is connected and not closed, the slot has the client of the session.
- `emptied_of_slot`: a client leaves the slot only by the detach of its session or by a stop.
-/
import Mathlib.Tactic
import RemoteShutter.Proofs.Link.Steps

namespace RemoteShutter

/-! ## What the points tell -/

namespace ReceiverPoint

/-- the client that has been stored in the slot, until the receiver takes it out again -/
def tenant? : ReceiverPoint → Option Nat
  | attach c | greet c | read c | hand c _ | detach c | vacate c => some c
  | _ => none

/-- the link has been declared connected -/
def isAttached : ReceiverPoint → Bool
  | greet _ | read _ | hand _ _ | detach _ => true
  | _ => false

theorem exists_tenant_of_isAttached {p : ReceiverPoint} (h : p.isAttached = true) : ∃ c, p.tenant? = some c := by
  cases p with
  | greet c | read c | hand c | detach c => exact ⟨c, rfl⟩
  | accept | retry | store | attach | vacate | shut | farewell | check | exited => cases h

end ReceiverPoint

namespace StopPoint

/-- the flag is up -/
def hasRaised : StopPoint → Bool
  | running => false
  | _ => true

/-- the queue has been closed -/
def hasClosed : StopPoint → Bool
  | running | raised => false
  | _ => true

/-- the slot has been emptied for good -/
def hasTaken : StopPoint → Bool
  | taken | woken => true
  | _ => false

theorem hasClosed_of_hasTaken {p : StopPoint} (h : p.hasTaken = true) : p.hasClosed = true := by
  cases p with
  | taken | woken => rfl
  | running | raised | closed => cases h

theorem hasRaised_of_hasClosed {p : StopPoint} (h : p.hasClosed = true) : p.hasRaised = true := by
  cases p with
  | raised | closed | taken | woken => rfl
  | running => cases h

end StopPoint

namespace Link

structure Agrees (l : Link) : Prop where
  slot : l.slot = if l.stop.hasTaken then none else l.receiver.tenant?
  connected : l.queue.isConnected = l.receiver.isAttached
  closed : l.queue.isClosed = l.stop.hasClosed
  raised : l.isStopped = l.stop.hasRaised

variable {l l' : Link}

theorem agrees_ofConfig? {c : LinkConfig} (h : ofConfig? c = some l) : Agrees l := by
  obtain ⟨q, hq, rfl⟩ := Option.map_eq_some_iff.1 h
  obtain ⟨r, -, rfl⟩ := Option.map_eq_some_iff.1 hq
  exact ⟨rfl, rfl, rfl, rfl⟩

/-! ## Steps -/

/-- before the flag is up nothing has been taken -/
theorem Agrees.hasTaken_of_running (h : Agrees l) (hr : l.isStopped = false) : l.stop.hasTaken = false := by
  by_contra ht
  rw [h.raised, StopPoint.hasRaised_of_hasClosed (StopPoint.hasClosed_of_hasTaken (by simpa using ht))] at hr
  cases hr

/-- the receiver has moved to a point that tells the same -/
theorem Agrees.moves (h : Agrees l) {p : ReceiverPoint} (ht : p.tenant? = l.receiver.tenant?)
    (ha : p.isAttached = l.receiver.isAttached) (hs : l'.slot = l.slot) (hstop : l'.stop = l.stop)
    (hq : l'.queue = l.queue) (hp : l'.receiver = p) (hf : l'.isStopped = l.isStopped) : Agrees l' := by
  refine ⟨?_, ?_, ?_, ?_⟩
  · rw [hs, hstop, hp, ht, h.slot]
  · rw [hq, hp, ha, h.connected]
  · rw [hq, hstop, h.closed]
  · rw [hf, hstop, h.raised]

theorem agrees_received (h : Agrees l) (hs : Received l l') : Agrees l' := by
  cases hs with
  | acceptFails hp | accepts hp | greets hp | reads hp | ends hp | misses hp | hands hp | handed hp | shuts hp
  | leaves hp =>
    exact h.moves (by rw [hp]; rfl) (by rw [hp]; rfl) rfl rfl rfl rfl rfl
  | interrupted => exact ⟨h.slot, h.connected, h.closed, h.raised⟩
  | returns hp => rcases hp with hp | hp <;> exact h.moves (by rw [hp]; rfl) (by rw [hp]; rfl) rfl rfl rfl rfl rfl
  | exits hp =>
    rcases hp with hp | hp | ⟨c, hp⟩ <;> exact h.moves (by rw [hp]; rfl) (by rw [hp]; rfl) rfl rfl rfl rfl rfl
  | @stores c hp hr =>
    -- the flag is down, so no stop has come as far as the slot
    refine ⟨?_, ?_, h.closed, h.raised⟩
    · show some c = if l.stop.hasTaken then none else some c
      rw [h.hasTaken_of_running hr]
      rfl
    · exact h.connected.trans (by rw [hp]; rfl)
  | attaches hp => exact ⟨h.slot.trans (by rw [hp]; rfl), rfl, h.closed, h.raised⟩
  | detaches hp => exact ⟨h.slot.trans (by rw [hp]; rfl), rfl, h.closed, h.raised⟩
  | vacates hp => exact ⟨(ite_self none).symm, h.connected.trans (by rw [hp]; rfl), h.closed, h.raised⟩

theorem agrees_sent (h : Agrees l) (hs : Sent l l') : Agrees l' := by
  cases hs <;> exact ⟨h.slot, h.connected, h.closed, h.raised⟩

theorem agrees_halted (h : Agrees l) (hs : Halted l l') : Agrees l' := by
  have hslot := h.slot
  have hclosed := h.closed
  have hraised := h.raised
  cases hs with
  | raises hp =>
    rw [hp] at hslot hclosed
    exact ⟨hslot, h.connected, hclosed, rfl⟩
  | closes hp =>
    rw [hp] at hslot hraised
    exact ⟨hslot, h.connected, rfl, hraised⟩
  | takes hp =>
    rw [hp] at hclosed hraised
    exact ⟨rfl, h.connected, hclosed, hraised⟩
  | takesNone hp hnone =>
    rw [hp] at hclosed hraised
    exact ⟨hnone, h.connected, hclosed, hraised⟩
  | wakes hp =>
    rw [hp] at hslot hclosed hraised
    exact ⟨hslot, h.connected, hclosed, hraised⟩

/-- **An event keeps slot, queue and flag in step with the points.** -/
theorem agrees_step (h : Agrees l) (e : Event) : Agrees (l.step e) := by
  cases e with
  | receive => exact keeps_receive h (agrees_received h)
  | send => exact keeps_send h (agrees_sent h)
  | halt => exact keeps_halt h (agrees_halted h)
  | push | dial | arrive | consume | endSending | reset | failAccept | failRead | failWrite =>
    exact ⟨h.slot, h.connected, h.closed, h.raised⟩

theorem agrees_steps (h : Agrees l) (es : List Event) : Agrees (l.steps es) :=
  keeps_steps agrees_step h es

/-! ## Who is in the slot -/

/-- **At a queue that is connected and not closed, the slot has the client of the session.** -/
theorem Agrees.exists_tenant (h : Agrees l) (hc : l.queue.isConnected = true) (ho : l.queue.isClosed = false) :
    ∃ c, l.receiver.tenant? = some c ∧ l.slot = some c := by
  obtain ⟨c, hp⟩ := ReceiverPoint.exists_tenant_of_isAttached (h.connected ▸ hc)
  refine ⟨c, hp, ?_⟩
  have htaken : l.stop.hasTaken = false := by
    by_contra ht
    rw [h.closed, StopPoint.hasClosed_of_hasTaken (by simpa using ht)] at ho
    cases ho
  rw [h.slot, htaken, hp]
  rfl

/-- a connected link has its client in the slot, unless a stop has begun -/
theorem Agrees.tenant_or_stopped (h : Agrees l) (hc : l.queue.isConnected = true) :
    (∃ c, l.receiver.tenant? = some c ∧ l.slot = some c) ∨ l.isStopped = true := by
  by_cases ho : l.queue.isClosed = true
  · rw [h.closed] at ho
    exact .inr (h.raised.trans (StopPoint.hasRaised_of_hasClosed ho))
  · exact .inl (h.exists_tenant hc (Bool.eq_false_of_not_eq_true ho))

/-- the event takes the client out of the slot: the detach of its session, or a stop -/
inductive Empties (l : Link) (client : Nat) : Event → Prop where
  | detach (point : l.receiver = .vacate client) : Empties l client .receive
  | stop (point : l.stop = .closed) : Empties l client .halt

theorem slot_step (h : Agrees l) {client : Nat} (hs : l.slot = some client) (e : Event) :
    (l.step e).slot = some client ∨ Empties l client e := by
  have htenant : l.receiver.tenant? = some client := by
    have hslot := h.slot
    rw [hs] at hslot
    split_ifs at hslot
    exact hslot.symm
  cases e with
  | receive =>
    rcases step_receive l with ⟨hstep, -⟩ | hstep
    · exact .inl (by rw [hstep, hs])
    · generalize l.step .receive = l' at hstep
      cases hstep with
      | stores hp => rw [hp] at htenant; cases htenant
      | vacates hp =>
        rw [hp] at htenant
        obtain rfl := Option.some.inj htenant
        exact .inr (.detach hp)
      | _ => exact .inl hs
  | send => exact .inl (keeps_send (P := (·.slot = some client)) hs fun hstep => by cases hstep <;> exact hs)
  | halt =>
    rcases step_halt l with hstep | hstep
    · exact .inl (by rw [hstep, hs])
    · generalize l.step .halt = l' at hstep
      cases hstep with
      | takes hp => exact .inr (.stop hp)
      | _ => exact .inl hs
  | push | dial | arrive | consume | endSending | reset | failAccept | failRead | failWrite => exact .inl hs

/-- **A client leaves the slot only by the detach of its session or by a stop.** -/
theorem emptied_of_slot (h : Agrees l) {client : Nat} (hs : l.slot = some client) {es : List Event}
    (hgone : (l.steps es).slot ≠ some client) :
    ∃ before e after, es = before ++ e :: after ∧ (l.steps before).slot = some client ∧
      Empties (l.steps before) client e := by
  induction es generalizing l with
  | nil => exact absurd hs hgone
  | cons e es ih =>
    rcases slot_step h hs e with hstays | hempties
    · obtain ⟨before, e', after, rfl, he'⟩ := ih (agrees_step h e) hstays hgone
      exact ⟨e :: before, e', after, rfl, he'⟩
    · exact ⟨[], e, es, rfl, hs, hempties⟩

end Link

end RemoteShutter
