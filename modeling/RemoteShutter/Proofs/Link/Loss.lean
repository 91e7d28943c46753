/-
What is left for the next client.

When a write fails, the sender shuts the stream and goes on. The link stays declared connected until the receiver comes
to detach the client, which it does as soon as it reads, but it may be in a call of the handler. Meanwhile the sender
takes more bytes, which nobody gets; from the detach on, the queue is left alone until the next client is stored.
- `Lost`: the client's stream was shut, and nobody has been stored since; `lost_steps`: then nobody gets anything.
- `Lost.removes`: bytes leave the queue only in the client's session; `exists_left`: the receiver's own steps end it.
- `waiting_steps`: after the session what waits in the queue stays, and what is pushed comes behind it.
- `exists_drained`: the sender's own steps bring everything to a client whose stream is sound.
- `next_client_gets_queue`: all of this together; `taken_after_failed_write`: a chunk that is lost in the session.
-/
import RemoteShutter.Proofs.Link.Pieces

namespace RemoteShutter

/-- the client's session goes on: it has been stored, and the link not yet been declared disconnected -/
def ReceiverPoint.serves (client : Nat) : ReceiverPoint → Bool
  | attach c | greet c | read c | hand c _ | detach c => c = client
  | _ => false

namespace ReceiverPoint

variable {p : ReceiverPoint} {client : Nat}

theorem tenant_of_serves (h : p.serves client = true) : p.tenant? = some client := by
  cases p with
  | attach c | greet c | read c | hand c | detach c => exact congrArg some (of_decide_eq_true h)
  | accept | retry | store | vacate | shut | farewell | check | exited => cases h

theorem serves_of_isAttached (ha : p.isAttached = true) (ht : p.tenant? = some client) : p.serves client = true := by
  cases p with
  | greet c | read c | hand c | detach c => exact decide_eq_true (Option.some.inj ht)
  | accept | retry | store | attach | vacate | shut | farewell | check | exited => cases ha

end ReceiverPoint

namespace Link

variable {l l' : Link} {client : Nat}

/-! ## The end of a session -/

theorem received_of_serves (hshut : l.isShut client = true) (hs : l.receiver.serves client = true) :
    Received l (l.step .receive) := by
  rcases step_receive l with ⟨-, hp | hp | ⟨c, hp⟩⟩ | hreceived
  · rw [hp] at hs
    cases hs
  · rw [hp] at hs
    cases hs
  · obtain rfl : c = client := by
      rw [hp] at hs
      exact of_decide_eq_true hs
    obtain ⟨l', hl'⟩ := Option.isSome_iff_exists.1 (receives_of_isShut hshut hp)
    have hstep : l.step .receive = l' := by simp only [step, hl', Option.getD_some]
    exact hstep ▸ received_of_receive? hl'
  · exact hreceived

/-- **The receiver leaves a session whose stream was shut by its own steps.** -/
theorem exists_left (hshut : l.isShut client = true) :
    ∃ n, (l.steps (List.replicate n .receive)).receiver.serves client = false := by
  induction hn : l.rank using Nat.strong_induction_on generalizing l with
  | _ n ih =>
    cases hs : l.receiver.serves client with
    | false => exact ⟨0, hs⟩
    | true =>
      have hlt : (l.step .receive).rank < l.rank :=
        rank_session (ReceiverPoint.tenant_of_serves hs) hshut (received_of_serves hshut hs)
      obtain ⟨k, hk⟩ := ih _ (hn ▸ hlt) (isShut_step hshut .receive) rfl
      exact ⟨k + 1, hk⟩

/-- a session begins only with a storing -/
theorem serves_received (hs : Received l l') (h : l.receiver.serves client = false)
    (hnone : Delivery.storing l l' = []) : l'.receiver.serves client = false := by
  cases hs with
  | stores hp => simp [Delivery.storing, hp] at hnone
  | attaches hp | greets hp | reads hp | ends hp | misses hp | hands hp | handed hp =>
    rw [hp] at h
    exact h
  | interrupted => exact h
  | acceptFails | accepts | returns | exits | detaches | vacates | shuts | leaves => rfl

/-! ## Bringing everything -/

/-- the link is declared connected, and the client's stream takes what is written to it -/
structure IsSound (l : Link) (client : Nat) : Prop where
  slot : l.slot = some client
  connected : l.queue.isConnected = true
  isOpen : l.queue.isClosed = false
  stream : ∃ s, l.streams[client]? = some s ∧ s.isShut = false ∧ s.isReset = false ∧ s.writeFaults = []
  /-- no write has failed -/
  sender : l.sender ≠ .shut client

/-- the sender is there, and takes at least one byte at a time -/
structure HasSender (l : Link) : Prop where
  chunk : 0 < l.sendChunk
  stays : l.sender = .exited → l.queue.isClosed = true

theorem hasSender_ofConfig? {config : LinkConfig} (hl : ofConfig? config = some l) : l.HasSender := by
  obtain ⟨q, -, rfl⟩ := Option.map_eq_some_iff.1 hl
  exact ⟨Nat.le_max_right _ _, fun hp => by cases hp⟩

theorem hasSender_step (h : l.HasSender) (e : Event) : (l.step e).HasSender := by
  cases e with
  | receive => exact keeps_receive h fun hs => by cases hs <;> exact ⟨h.chunk, h.stays⟩
  | send =>
    refine keeps_send h fun hs => ?_
    cases hs with
    | exits hp hclosed => exact ⟨h.chunk, fun _ => hclosed⟩
    | writes =>
      refine ⟨h.chunk, fun hp => ?_⟩
      dsimp only at hp
      split_ifs at hp
    | pops | drops | finds | misses | shuts => exact ⟨h.chunk, fun hp => by cases hp⟩
  | halt =>
    refine keeps_halt h fun hs => ?_
    cases hs with
    | closes => exact ⟨h.chunk, fun _ => rfl⟩
    | raises | takes | takesNone | wakes => exact ⟨h.chunk, h.stays⟩
  | push | dial | arrive | consume | endSending | reset | failAccept | failRead | failWrite => exact ⟨h.chunk, h.stays⟩

theorem hasSender_steps (h : l.HasSender) (es : List Event) : (l.steps es).HasSender :=
  keeps_steps hasSender_step h es

/-- a bound on the steps that the sender makes before the queue is empty, if nothing else happens -/
def todo (l : Link) : Nat :=
  4 * l.queue.ring.toList.length + match l.sender with
    | .take | .exited => 0
    | .shut _ => 1
    | .write _ _ => 2
    | .look _ => 3

/-- the chunk in hand that no client has been found for yet -/
def hand (l : Link) : Bytes :=
  match l.sender with
  | .look bs => bs
  | _ => []

/-- a write to a sound stream goes through -/
theorem writeAll_of_isSound {s : Stream} (hshut : s.isShut = false) (hreset : s.isReset = false)
    (hfaults : s.writeFaults = []) (bs : Bytes) : s.writeAll bs = (true, { s with written := s.written ++ bs }) := by
  simp [Stream.writeAll, Stream.writeAll.go, hshut, hreset, hfaults]

/-- the sender takes a chunk -/
theorem todo_take (h : l.IsSound client) (hp : l.HasSender) (hw : l.queue.ring.Wf) (hsender : l.sender = .take)
    (hne : l.queue.ring.toList ≠ []) : (l.step .send).IsSound client ∧ (l.step .send).todo < l.todo := by
  have hsome : l.queue.ring.isEmpty = false := by
    rw [← Bool.not_eq_true, ← Ring.toList_eq_nil_iff hw]
    exact hne
  have hstep : l.step .send = { l with
      queue := { l.queue with ring := (l.queue.ring.get l.sendChunk).2 }
      sender := .look (l.queue.ring.get l.sendChunk).1 } := by
    simp [step, send?, hsender, Outbound.take, h.isOpen, h.connected, hsome]
  have hlength : 0 < l.queue.ring.toList.length := List.length_pos_iff.2 hne
  have hchunk := hp.chunk
  rw [hstep]
  refine ⟨⟨h.slot, h.connected, h.isOpen, h.stream, by simp⟩, ?_⟩
  simp only [todo, hsender, Ring.toList_get hw, List.length_drop]
  omega

/-- it writes the chunk to the client, or to one before -/
theorem todo_write (h : l.IsSound client) {bs : Bytes} {c : Nat} (hsender : l.sender = .write bs c) :
    (l.step .send).IsSound client ∧ (l.step .send).todo < l.todo := by
  obtain ⟨s, hs, hshut, hreset, hfaults⟩ := h.stream
  have hsent : Sent l (l.step .send) := by
    refine (step_send l).resolve_left ?_
    rintro ⟨-, hwaits | hwaits⟩ <;> cases hsender.symm.trans hwaits
  generalize l.step .send = l' at hsent
  cases hsent with
  | misses => exact ⟨⟨h.slot, h.connected, h.isOpen, h.stream, by simp⟩, by simp [todo, hsender]⟩
  | @writes bs c s' hp hs' =>
    by_cases hc : c = client
    · subst hc
      obtain rfl : s = s' := Option.some.inj (hs.symm.trans hs')
      rw [writeAll_of_isSound hshut hreset hfaults]
      refine ⟨⟨h.slot, h.connected, h.isOpen, ⟨{ s with written := s.written ++ bs }, ?_, hshut, hreset, hfaults⟩,
        by simp⟩, ?_⟩
      · simp [updateStream, hs]
      · simp [todo, hsender, updateStream]
    · -- the write to a client before may have failed
      refine ⟨⟨h.slot, h.connected, h.isOpen, ⟨s, ?_, hshut, hreset, hfaults⟩, ?_⟩, ?_⟩
      · simp [updateStream, hc, hs]
      · dsimp only
        split_ifs <;> simp [hc]
      · simp only [todo, hsender, updateStream]
        split_ifs <;> simp
  | exits hp | pops hp | drops hp | finds hp | shuts hp => cases hsender.symm.trans hp

/-- **Each step of the sender leaves less for it to do**, and the stream sound. -/
theorem todo_send (h : l.IsSound client) (hp : l.HasSender) (hw : l.queue.ring.Wf)
    (hmore : l.sender = .take → l.queue.ring.toList ≠ []) :
    (l.step .send).IsSound client ∧ (l.step .send).todo < l.todo := by
  cases hsender : l.sender with
  | take => exact todo_take h hp hw hsender (hmore hsender)
  | look bs =>
    have hstep : l.step .send = { l with sender := .write bs client } := by
      simp only [step, send?, hsender, h.slot, Option.getD_some]
    rw [hstep]
    refine ⟨⟨h.slot, h.connected, h.isOpen, h.stream, by simp⟩, ?_⟩
    simp only [todo, hsender]
    omega
  | write bs c => exact todo_write h hsender
  | shut c =>
    obtain ⟨s, hs, hshut, hreset, hfaults⟩ := h.stream
    have hc : client ≠ c := by
      rintro rfl
      exact h.sender hsender
    have hstep : l.step .send = { l.updateStream c Stream.shut with sender := .take } := by
      simp only [step, send?, hsender, Option.getD_some]
    rw [hstep]
    refine ⟨⟨h.slot, h.connected, h.isOpen, ⟨s, ?_, hshut, hreset, hfaults⟩, by simp⟩, ?_⟩
    · simp [updateStream, Ne.symm hc, hs]
    · simp only [todo, hsender, updateStream]
      omega
  | exited =>
    have hclosed := hp.stays hsender
    rw [h.isOpen] at hclosed
    cases hclosed

/-- a client whose stream is sound goes on -/
theorem IsSound.rest {due : Bytes} (h : l.IsSound client) (hc : l.Course client due) :
    l.written client ++ l.ahead client = due := by
  obtain ⟨s, hs, hshut, -, -⟩ := h.stream
  cases hc with
  | goesOn _ rest => exact rest
  | past isPast _ =>
    cases isPast with
    | shut isShut => simp [Link.isShut, hs, hshut] at isShut
    | failed sender => exact absurd sender h.sender
    | left slot _ => exact absurd h.slot slot

/-- **The sender's own steps bring everything to a client whose stream is sound.** -/
theorem exists_drained (h : l.IsSound client) (hp : l.HasSender) (hw : l.queue.ring.Wf) :
    ∃ n, (l.steps (List.replicate n .send)).written client = l.written client ++ l.ahead client := by
  induction hn : l.todo using Nat.strong_induction_on generalizing l with
  | _ n ih =>
    by_cases hdone : l.sender = .take ∧ l.queue.ring.toList = []
    · refine ⟨0, ?_⟩
      simp [steps, ahead, hdone.1, hdone.2]
    · rw [not_and] at hdone
      obtain ⟨hsound, hlt⟩ := todo_send h hp hw hdone
      obtain ⟨s, hs, -⟩ := h.stream
      have hcourse : (l.step .send).Course client (l.written client ++ l.ahead client) :=
        keeps_send (P := (Course · client _)) (.goesOn (.inl h.slot) rfl)
          (course_sent hw (List.getElem?_eq_some_iff.1 hs).1 (.inl h.slot) rfl)
      have hwf : (l.step .send).queue.ring.Wf := by
        refine keeps_send (P := (·.queue.ring.Wf)) hw fun hs => ?_
        cases hs with
        | pops => exact Ring.wf_get hw _
        | exits | drops | finds | misses | writes | shuts => exact hw
      obtain ⟨k, hk⟩ := ih _ (hn ▸ hlt) hsound (hasSender_step hp .send) hwf rfl
      exact ⟨k + 1, hk.trans (hsound.rest hcourse)⟩

end Link

namespace Delivery

open Link (ahead isRoomy pushedBy)

variable {t : Delivery} {client : Nat}

/-! ## Nobody new -/

theorem attached_prefix_steps (t : Delivery) (es : List Link.Event) : t.attached <+: (t.steps es).attached := by
  induction es generalizing t with
  | nil => exact List.prefix_rfl
  | cons e es ih =>
    have hstep : t.attached <+: (t.step e).attached := by
      rw [attached_step]
      exact List.prefix_append _ _
    exact hstep.trans (ih (t.step e))

/-- if nobody was stored in a run, nobody was in its first step, nor in the others -/
theorem attached_of_cons {e : Link.Event} {es : List Link.Event} (h : (t.steps (e :: es)).attached = t.attached) :
    (t.step e).attached = t.attached ∧ ((t.step e).steps es).attached = (t.step e).attached := by
  have hfirst : t.attached <+: (t.step e).attached := attached_prefix_steps t [e]
  have hrest : (t.step e).attached <+: (t.steps (e :: es)).attached := attached_prefix_steps (t.step e) es
  rw [h] at hrest
  have hsame : (t.step e).attached = t.attached := hrest.eq_of_length_le hfirst.length_le
  exact ⟨hsame, h.trans hsame.symm⟩

/-- nobody is stored by a step -/
theorem storing_of_attached {e : Link.Event} (h : (t.step e).attached = t.attached) (he : e = .receive) :
    storing t.link (t.link.step e) = [] := by
  rw [attached_step, if_pos he] at h
  exact List.append_right_eq_self.1 h

/-- the receiver is in the session of the client that was stored last -/
def TenantIsLast (t : Delivery) : Prop :=
  ∀ c, t.link.receiver.tenant? = some c → t.attached.getLast? = some c

theorem tenantIsLast_step (h : TenantIsLast t) (e : Link.Event) : TenantIsLast (t.step e) := by
  intro c hc
  rw [link_step] at hc
  rw [attached_step]
  rcases Reception.tenant_step (t := { link := t.link }) e hc with hold | hnew
  · -- a receiver that stores somebody has no tenant before
    have hnone : (if e = .receive then storing t.link (t.link.step e) else []) = [] := by
      split_ifs
      · by_contra hne
        obtain ⟨c', hc'⟩ := List.exists_mem_of_ne_nil _ hne
        rw [(eq_of_mem_storing hc').2] at hold
        cases hold
      · rfl
    rw [hnone, List.append_nil]
    exact h c hold
  · split_ifs at hnew ⊢
    · rw [(eq_of_mem_storing hnew).1]
      exact List.getLast?_concat
    · cases hnew

theorem tenantIsLast_steps {config : LinkConfig} {l : Link} (hl : Link.ofConfig? config = some l)
    (es : List Link.Event) : TenantIsLast (steps { link := l } es) := by
  induction es using List.reverseRecOn with
  | nil =>
    obtain ⟨q, -, rfl⟩ := Option.map_eq_some_iff.1 hl
    intro c hc
    cases hc
  | append_singleton es e ih =>
    rw [steps, List.foldl_append]
    exact tenantIsLast_step ih e

/-! ## The lost client -/

/-- the client's stream was shut, and nobody has been stored since -/
structure Lost (t : Delivery) (client : Nat) : Prop where
  shut : t.link.isShut client = true
  last : t.attached.getLast? = some client
  tenant : ∀ c, t.link.receiver.tenant? = some c → c = client
  target : ∀ bs c, t.link.sender = .write bs c → c = client

/-- the sender shuts a stream after a failed write -/
theorem lost_of_failed (hi : Inv t) (ht : TenantIsLast t) (hp : t.link.sender = .shut client)
    (hlast : t.attached.getLast? = some client) :
    Lost (t.step .send) client ∧ (t.step .send).link.written = t.link.written := by
  have hstep : t.link.step .send = { t.link.updateStream client Stream.shut with sender := .take } := by
    simp only [Link.step, Link.send?, hp, Option.getD_some]
  have hlt : client < t.link.streams.length := hi.roster.lt_length (List.mem_of_getLast? hlast)
  have hattached : (t.step .send).attached = t.attached := by
    rw [attached_step, if_neg (by decide), List.append_nil]
  refine ⟨⟨?_, ?_, fun c hc => ?_, fun bs c hw => ?_⟩, ?_⟩
  · rw [link_step, hstep]
    simp [Link.isShut, Link.updateStream, hlt, Stream.shut]
  · rw [hattached, hlast]
  · rw [link_step, hstep] at hc
    exact Option.some.inj ((ht c hc).symm.trans hlast)
  · rw [link_step, hstep] at hw
    cases hw
  · rw [link_step, hstep]
    exact Link.written_updateStream fun _ _ => rfl

/-- what the sender writes is for the lost client, who does not get it -/
theorem Lost.sent (h : Lost t client) (hi : Inv t) {l' : Link} (hs : t.link.Sent l') :
    (∀ bs c, l'.sender = .write bs c → c = client) ∧ l'.written = t.link.written := by
  refine ⟨fun bs c hw => ?_, funext fun c => ?_⟩
  · cases hs with
    | finds _ hslot =>
      cases hw
      exact Option.some.inj ((hi.roster.slot c hslot).symm.trans h.last)
    | writes =>
      dsimp only at hw
      split_ifs at hw
    | exits | pops | drops | misses | shuts => cases hw
  · by_cases hc : c = client
    · subst hc
      exact Link.written_sent_of_past (.shut h.shut) hs
    · cases hs with
      | writes hp hstream =>
        obtain rfl := h.target _ _ hp
        exact (written_write hstream _).2 c hc
      | shuts => exact congrFun (Link.written_updateStream (f := Stream.shut) fun _ _ => rfl) c
      | exits | pops | drops | finds | misses => rfl

/-- the receiver stays with the lost client, unless it stores somebody -/
theorem Lost.tenant_step (h : Lost t client) {e : Link.Event} (hsame : (t.step e).attached = t.attached) :
    ∀ c, (t.link.step e).receiver.tenant? = some c → c = client := by
  intro c hc
  rcases Reception.tenant_step (t := { link := t.link }) e hc with hold | hnew
  · exact h.tenant c hold
  · split_ifs at hnew with he
    · rw [storing_of_attached hsame he] at hnew
      cases hnew
    · cases hnew

/-- **Nobody gets anything until the next client is stored.** -/
theorem lost_step (hi : Inv t) (h : Lost t client) {e : Link.Event} (hsame : (t.step e).attached = t.attached) :
    Lost (t.step e) client ∧ (t.step e).link.written = t.link.written := by
  have hsent : (∀ bs c, (t.link.step e).sender = .write bs c → c = client) ∧
      (t.link.step e).written = t.link.written := by
    by_cases he : e = .send
    · subst he
      exact Link.keeps_send (P := fun l => (∀ bs c, l.sender = .write bs c → c = client) ∧
        l.written = t.link.written) ⟨h.target, rfl⟩ (h.sent hi)
    · obtain ⟨hwritten, hsender, -⟩ := t.link.kept_step he
      exact ⟨fun bs c hw => h.target bs c (hsender ▸ hw), hwritten⟩
  have htenant := h.tenant_step hsame
  rw [link_step]
  refine ⟨⟨?_, ?_, ?_, ?_⟩, hsent.2⟩
  · rw [link_step]
    exact Link.isShut_step h.shut e
  · rw [hsame, h.last]
  · rwa [link_step]
  · rw [link_step]
    exact hsent.1

theorem lost_steps (hi : Inv t) (h : Lost t client) {es : List Link.Event}
    (hsame : (t.steps es).attached = t.attached) :
    Lost (t.steps es) client ∧ (t.steps es).link.written = t.link.written := by
  induction es generalizing t with
  | nil => exact ⟨h, rfl⟩
  | cons e es ih =>
    obtain ⟨hfirst, hrest⟩ := attached_of_cons hsame
    obtain ⟨hnext, hwritten⟩ := lost_step hi h hfirst
    obtain ⟨hend, hwrittens⟩ := ih (inv_step hi e) hnext hrest
    exact ⟨hend, hwrittens.trans hwritten⟩

/-! ## The queue -/

/-- **Bytes leave the queue only in the client's session.** -/
theorem Lost.removes (h : Lost t client) (hi : Inv t) {e : Link.Event}
    (hring : (t.link.step e).queue.ring ≠ t.link.queue.ring) :
    (∃ bs, e = .push bs) ∨ e = .send ∧ t.link.receiver.serves client = true := by
  by_cases he : e = .send
  · subst he
    refine .inr ⟨rfl, ?_⟩
    rcases Link.step_send t.link with ⟨hs, -⟩ | hs
    · rw [hs] at hring
      exact absurd rfl hring
    · generalize t.link.step .send = l' at hs hring
      cases hs with
      | pops _ _ hconnected =>
        rw [hi.agrees.connected] at hconnected
        obtain ⟨c, hc⟩ := ReceiverPoint.exists_tenant_of_isAttached hconnected
        obtain rfl := h.tenant c hc
        exact ReceiverPoint.serves_of_isAttached hconnected hc
      | exits | drops | finds | misses | writes | shuts => exact absurd rfl hring
  · by_contra hno
    rw [not_or, not_exists] at hno
    exact hring ((t.link.kept_step he).2.2 hno.1)

theorem serves_step {e : Link.Event} (hleft : t.link.receiver.serves client = false)
    (hsame : (t.step e).attached = t.attached) : (t.link.step e).receiver.serves client = false := by
  by_cases he : e = .receive
  · have hnone := storing_of_attached hsame he
    subst he
    rcases Link.step_receive t.link with ⟨hs, -⟩ | hs
    · rw [hs, hleft]
    · exact Link.serves_received hs hleft hnone
  · rw [(t.link.kept_of_ne_receive he).1, hleft]

/-- **After the session what waits in the queue stays, and what is pushed comes behind it.** -/
theorem waiting_steps (hi : Inv t) (h : Lost t client) (hleft : t.link.receiver.serves client = false)
    {es : List Link.Event} (hsame : (t.steps es).attached = t.attached) (hroom : t.link.isRoomy es = true) :
    (t.link.steps es).receiver.serves client = false ∧
      (t.link.steps es).queue.ring.toList = t.link.queue.ring.toList ++ es.flatMap pushedBy := by
  induction es generalizing t with
  | nil => exact ⟨hleft, (List.append_nil _).symm⟩
  | cons e es ih =>
    rw [isRoomy, Bool.and_eq_true, ← link_step] at hroom
    obtain ⟨hfirst, hrest⟩ := attached_of_cons hsame
    have hstep : (t.link.step e).queue.ring.toList = t.link.queue.ring.toList ++ pushedBy e := by
      by_cases he : e = .send
      · subst he
        have hkept : (t.link.step .send).queue.ring = t.link.queue.ring := by
          by_contra hring
          rcases h.removes hi hring with ⟨bs, hpush⟩ | ⟨-, hserves⟩
          · cases hpush
          · rw [hleft] at hserves
            cases hserves
        rw [hkept]
        exact (List.append_nil _).symm
      · exact toList_step hi he hroom.1
    have hnext : (t.step e).link.receiver.serves client = false := by
      rw [link_step]
      exact serves_step hleft hfirst
    obtain ⟨hleft', hring⟩ := ih (inv_step hi e) (lost_step hi h hfirst).1 hnext hrest hroom.2
    rw [link_step] at hleft' hring
    refine ⟨hleft', ?_⟩
    calc ((t.link.step e).steps es).queue.ring.toList
      _ = (t.link.step e).queue.ring.toList ++ es.flatMap pushedBy := hring
      _ = t.link.queue.ring.toList ++ (pushedBy e ++ es.flatMap pushedBy) := by rw [hstep, List.append_assoc]
      _ = t.link.queue.ring.toList ++ (e :: es).flatMap pushedBy := by rw [List.flatMap_cons]

/-! ## The next client -/

/-- who comes to be stored has not been stored before -/
theorem not_attached_of_store (hi : Inv t) {next : Nat} (hp : t.link.receiver = .store next) : next ∉ t.attached := by
  intro hmem
  have hcoming : next ∈ t.link.coming := by simp [Link.coming, hp]
  have hordered := (List.pairwise_append.1 hi.roster.ordered).1
  exact Nat.lt_irrefl next ((List.pairwise_append.1 hordered).2.2 next hmem next hcoming)

/-- what the sender is about to write to the lost client is ahead of nobody else -/
theorem Lost.ahead (h : Lost t client) {next : Nat} (hne : next ≠ client) :
    t.link.ahead next = t.link.hand ++ t.link.queue.ring.toList := by
  cases hp : t.link.sender with
  | write bs c =>
    obtain rfl := h.target bs c hp
    simp [Link.ahead, Link.hand, hp, Ne.symm hne]
  | take | look | shut | exited => simp [Link.ahead, Link.hand, hp]

/-- the next client goes on with what the sender has found no client for, what waits, and what is pushed -/
theorem course_of_lost (hi : Inv t) (h : Lost t client) {next : Nat} (hs : Stores t.link next [])
    {later : List Link.Event} (hroom : t.link.isRoomy (.receive :: later) = true) :
    (t.link.steps (.receive :: later)).Course next
      (t.link.hand ++ t.link.queue.ring.toList ++ later.flatMap pushedBy) := by
  have hnew : next ∉ t.attached := not_attached_of_store hi hs.point
  have hne : next ≠ client := by
    rintro rfl
    exact hnew (List.mem_of_getLast? h.last)
  have hroom' : t.link.isRoomy ([] ++ .receive :: later) = true := hroom
  rw [← h.ahead hne]
  exact course_of_stores hi hs hnew hroom'

/-- **What waits after a client's session goes to the next client.** Take a new link and any events at it, up to the
moment when a write to the client in the slot has failed and the sender is about to shut its stream, and any events
behind that, in which nobody is stored. Nothing more is written to anybody. Bytes leave the queue only by steps of the
sender in the client's session, which lasts until the receiver declares the link disconnected; the receiver's own steps
are enough for that. After the session, until somebody is stored, what waits in the queue stays, and what is pushed
comes behind it, if there is room. The client stored next is due a chunk that the sender may have in hand for nobody yet,
then what waits, then what is pushed: of that it gets the beginning, and as long as its stream is sound the rest lies
ahead of it, and the sender's own steps bring it. -/
theorem next_client_gets_queue {config : LinkConfig} {l : Link} (hl : Link.ofConfig? config = some l)
    {before between : List Link.Event} {client : Nat} (hfail : (l.steps before).sender = .shut client)
    (hlast : (steps { link := l } before).attached.getLast? = some client)
    (hsame : (steps { link := l } (before ++ .send :: between)).attached = (steps { link := l } before).attached) :
    let t := steps { link := l } (before ++ .send :: between)
    t.link = l.steps (before ++ .send :: between) ∧ t.link.isShut client = true ∧
      t.link.written = (l.steps before).written ∧
      (∀ e, (t.link.step e).queue.ring ≠ t.link.queue.ring →
        (∃ bs, e = .push bs) ∨ e = .send ∧ t.link.receiver.serves client = true) ∧
      (∃ n, (t.link.steps (List.replicate n .receive)).receiver.serves client = false) ∧
      (t.link.receiver.serves client = false → ∀ after, (t.steps after).attached = t.attached →
        t.link.isRoomy after = true →
          let u := t.link.steps after
          u.receiver.serves client = false ∧
            u.queue.ring.toList = t.link.queue.ring.toList ++ after.flatMap pushedBy ∧
            ∀ next later, Stores u next [] → u.isRoomy (.receive :: later) = true →
              let v := u.steps (.receive :: later)
              let due := u.hand ++ u.queue.ring.toList ++ later.flatMap pushedBy
              v.Course next due ∧
                (v.IsSound next → ∃ n, (v.steps (List.replicate n .send)).written next = due)) := by
  intro t
  have hlink : t.link = l.steps (before ++ .send :: between) := link_steps { link := l } _
  have hinv₀ : Inv (steps { link := l } before) := inv_steps (inv_start hl) before
  have hlink₀ : (steps { link := l } before).link = l.steps before := link_steps { link := l } before
  have hinv : Inv t := inv_steps (inv_start hl) (before ++ .send :: between)
  have hsteps : t = ((steps { link := l } before).step .send).steps between := by
    rw [show t = steps { link := l } (before ++ .send :: between) from rfl, steps, List.foldl_append]
    rfl
  obtain ⟨hlost₁, hwritten₁⟩ := lost_of_failed hinv₀ (tenantIsLast_steps hl before) (hlink₀ ▸ hfail) hlast
  have hsame₁ : (((steps { link := l } before).step .send).steps between).attached =
      ((steps { link := l } before).step .send).attached := by
    rw [← hsteps, show t.attached = _ from hsame, attached_step, if_neg (by decide), List.append_nil]
  obtain ⟨hlost, hwritten⟩ := lost_steps (inv_step hinv₀ .send) hlost₁ hsame₁
  rw [← hsteps] at hlost hwritten
  refine ⟨hlink, hlost.shut, ?_, fun e => hlost.removes hinv, Link.exists_left hlost.shut, ?_⟩
  · rw [hwritten, hwritten₁, hlink₀]
  · intro hleft after hnobody hroom u
    obtain ⟨hleft', hwaiting⟩ := waiting_steps hinv hlost hleft hnobody hroom
    refine ⟨hleft', hwaiting, ?_⟩
    intro next later hs hroom' v due
    have hu : (t.steps after).link = u := link_steps t after
    have hinv' : Inv (t.steps after) := inv_steps hinv after
    have hcourse : v.Course next due := by
      have hrun := course_of_lost hinv' (lost_steps hinv hlost hnobody).1 (hu ▸ hs) (hu ▸ hroom')
      rwa [hu] at hrun
    refine ⟨hcourse, fun hsound => ?_⟩
    have hv : v = l.steps (before ++ .send :: between ++ after ++ .receive :: later) := by
      rw [Link.steps_append, Link.steps_append, ← hlink]
    have hsender : v.HasSender := hv ▸ Link.hasSender_steps (Link.hasSender_ofConfig? hl) _
    have hwf : v.queue.ring.Wf := by
      have hend := (inv_steps (inv_start hl) (before ++ .send :: between ++ after ++ .receive :: later)).account.ledger.wf
      rw [link_steps] at hend
      exact hv ▸ hend
    obtain ⟨n, hn⟩ := Link.exists_drained hsound hsender hwf
    exact ⟨n, hn.trans (hsound.rest hcourse)⟩

/-- of six bytes the first chunk is lost with its write; the receiver parts with the client before the sender takes
another one, and the next client gets the rest and what was pushed in between -/
theorem next_client_gets_queue_after_failed_write :
    let config : LinkConfig := { sendBuffer := 16, sendChunk := 2 }
    let before : List Link.Event := [.dial, .receive, .receive, .receive, .receive, .push [1, 2, 3, 4, 5, 6],
      .failWrite 0 ⟨0, .reset⟩, .send, .send, .send]
    let between : List Link.Event := [.receive, .receive]
    let after : List Link.Event := [.push [7], .dial, .receive, .receive, .receive, .receive, .receive]
    ∃ l, Link.ofConfig? config = some l ∧ (l.steps before).sender = .shut 0 ∧
      (steps { link := l } before).attached.getLast? = some 0 ∧
      (steps { link := l } (before ++ .send :: between)).attached = (steps { link := l } before).attached ∧
      (steps { link := l } (before ++ .send :: between)).link.receiver.serves 0 = false ∧
      ∃ n, ((((steps { link := l } (before ++ .send :: between)).link.steps after).steps
        [.receive, .receive]).steps (List.replicate n .send)).written 1 = [3, 4, 5, 6, 7] := by
  intro config before between after
  obtain ⟨l, hl⟩ : ∃ l, Link.ofConfig? config = some l := ⟨_, rfl⟩
  have hfacts : (l.steps before).sender = .shut 0 ∧ (steps { link := l } before).attached.getLast? = some 0 ∧
      (steps { link := l } (before ++ .send :: between)).attached = (steps { link := l } before).attached := by
    obtain rfl := Option.some.inj hl
    decide +kernel
  obtain ⟨hfail, hlast, hsame⟩ := hfacts
  obtain ⟨-, -, -, -, -, hnext⟩ := next_client_gets_queue hl hfail hlast hsame
  have hleft : (steps { link := l } (before ++ .send :: between)).link.receiver.serves 0 = false ∧
      ((steps { link := l } (before ++ .send :: between)).steps after).attached =
        (steps { link := l } (before ++ .send :: between)).attached ∧
      (steps { link := l } (before ++ .send :: between)).link.isRoomy after = true := by
    obtain rfl := Option.some.inj hl
    decide +kernel
  obtain ⟨hleft, hnobody, hroom⟩ := hleft
  obtain ⟨-, -, hgets⟩ := hnext hleft after hnobody hroom
  have hstores : Stores ((steps { link := l } (before ++ .send :: between)).link.steps after) 1 [] := by
    obtain rfl := Option.some.inj hl
    exact ⟨by decide +kernel, by decide +kernel⟩
  have hlater : ((steps { link := l } (before ++ .send :: between)).link.steps after).isRoomy [.receive, .receive] =
      true := by
    obtain rfl := Option.some.inj hl
    decide +kernel
  have hsound : (((steps { link := l } (before ++ .send :: between)).link.steps after).steps
      [.receive, .receive]).IsSound 1 := by
    obtain rfl := Option.some.inj hl
    exact ⟨by decide +kernel, by decide +kernel, by decide +kernel, ⟨{}, by decide +kernel, rfl, rfl, rfl⟩,
      by decide +kernel⟩
  have hdue : ((steps { link := l } (before ++ .send :: between)).link.steps after).hand ++
      ((steps { link := l } (before ++ .send :: between)).link.steps after).queue.ring.toList ++
        [Link.Event.receive].flatMap pushedBy = [3, 4, 5, 6, 7] := by
    obtain rfl := Option.some.inj hl
    decide +kernel
  obtain ⟨-, hbrings⟩ := hgets 1 [.receive] hstores hlater
  obtain ⟨n, hn⟩ := hbrings hsound
  exact ⟨l, hl, hfail, hlast, hsame, hleft, n, hn.trans hdue⟩

/-- **The sender goes on taking bytes from a link that is still declared connected.** The write of the first chunk fails
while the receiver is in a call of the handler; the sender shuts the stream and takes the next chunk, which nobody
gets. -/
theorem taken_after_failed_write :
    let config : LinkConfig := { sendBuffer := 16, sendChunk := 2 }
    let before : List Link.Event := [.dial, .receive, .receive, .receive, .receive, .arrive 0 [0x54, 0xF0, 2, 0, 0],
      .receive, .push [1, 2, 3, 4, 5, 6], .failWrite 0 ⟨0, .reset⟩, .send, .send, .send]
    let rest : List Link.Event := [.send, .send, .send, .receive, .receive, .receive, .receive, .receive, .receive,
      .receive, .receive, .dial, .receive, .receive, .receive, .send, .send, .send]
    let closed := before ++ [Link.Event.send]
    let taken := closed ++ [Link.Event.send]
    let all := taken ++ rest
    ∃ l, Link.ofConfig? config = some l ∧ (l.steps before).sender = .shut 0 ∧
      (steps { link := l } before).attached = [0] ∧ (l.steps before).receiver = .hand 0 [⟨2, []⟩] ∧
      (l.steps closed).isShut 0 = true ∧ (l.steps closed).queue.ring.toList = [3, 4, 5, 6] ∧
      (l.steps taken).queue.ring.toList = [5, 6] ∧ (steps { link := l } taken).attached = [0] ∧
      (steps { link := l } all).attached = [0, 1] ∧ (l.steps all).written 0 = [] ∧ (l.steps all).written 1 = [5, 6] ∧
      (l.steps all).queue.ring.toList = [] := by
  intro config before rest closed taken all
  refine ⟨_, rfl, ?_⟩
  decide +kernel

end Delivery

end RemoteShutter
