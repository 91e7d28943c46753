/-
What reaches the clients.

Taking a chunk, looking for a client and writing to it are three steps of the sender, between which clients come and go.
A `Delivery` notes, next to a link, which bytes were popped, which clients were stored in the slot, and which byte was
written to whom; bytes are named by their positions in the stream of all that was pushed.
- `Roster`: clients are stored in the order of their numbers, and the slot has the last one, if any.
- `Routed`: who gets a byte has been stored, and nobody who was stored earlier gets a later byte.
- `Account`: what was written are positions out of those that were popped, in their order.
- `delivery_in_order`: what the clients got, one after the other, is a part of the stream of pushed bytes, each of them
  at most once. A chunk is dropped for want of a client only when one was there at its pop and has left since.
-/
import RemoteShutter.Proofs.Link.Attachment
import RemoteShutter.Proofs.Outbound.Ledger

namespace RemoteShutter

open scoped List

/-- the bytes that the sender has taken and not yet written -/
def SenderPoint.chunk : SenderPoint → Bytes
  | look bs | write bs _ => bs
  | _ => []

namespace Link

/-- clients that have connected and are not yet stored -/
def coming (l : Link) : List Nat :=
  match l.receiver with
  | .store client => client :: l.backlog
  | _ => l.backlog

/-- the bytes that an event pushes -/
def pushedBy : Event → Bytes
  | .push bs => bs
  | _ => []

/-! ## A chunk without a client -/

/-- a chunk that has no client yet comes from the last step of the sender, a pop -/
theorem popped_of_look {l : Link} (hl : l.sender = .take) {es : List Event} {bs : Bytes}
    (h : (l.steps es).sender = .look bs) :
    ∃ before rest, es = before ++ .send :: rest ∧ .send ∉ rest ∧ (l.steps before).sender = .take ∧
      (l.steps before).queue.isConnected = true ∧ (l.steps before).queue.isClosed = false ∧
      ((l.steps before).step .send).sender = .look bs := by
  induction es using List.reverseRecOn with
  | nil => cases hl.symm.trans h
  | append_singleton es e ih =>
    rw [steps_concat] at h
    by_cases he : e = .send
    · subst he
      rcases step_send (l.steps es) with ⟨hs, hp⟩ | hs
      · rw [hs] at h
        rcases hp with hp | hp <;> cases hp.symm.trans h
      · refine ⟨es, [], rfl, List.not_mem_nil, ?_⟩
        generalize (l.steps es).step .send = l' at hs h
        cases hs with
        | pops hp ho hc => exact ⟨hp, hc, ho, h⟩
        | writes hp hs =>
          simp only at h
          split_ifs at h
        | exits | drops | finds | misses | shuts => cases h
    · rw [(kept_step _ he).2.1] at h
      obtain ⟨before, rest, rfl, hrest, hpop⟩ := ih h
      refine ⟨before, rest ++ [e], by simp, ?_, hpop⟩
      rw [List.mem_append, List.mem_singleton]
      exact fun hm => hm.elim hrest fun hm => he hm.symm

/-- **A chunk is without a client only when one has left.** There was one in the slot at the pop, and the detach of its
session or a stop has taken it out since. -/
theorem emptied_of_look {c : LinkConfig} {l : Link} (hl : ofConfig? c = some l) {es : List Event} {bs : Bytes}
    (h : (l.steps es).sender = .look bs) (hslot : (l.steps es).slot = none) :
    ∃ before between client e after, es = before ++ .send :: (between ++ e :: after) ∧
      .send ∉ between ++ e :: after ∧ (l.steps before).sender = .take ∧ (l.steps before).slot = some client ∧
      ((l.steps before).step .send).sender = .look bs ∧ Empties (l.steps (before ++ .send :: between)) client e := by
  have hsender : l.sender = .take := by
    obtain ⟨q, -, rfl⟩ := Option.map_eq_some_iff.1 hl
    rfl
  obtain ⟨before, rest, rfl, hrest, htake, hconnected, hopen, hpop⟩ := popped_of_look hsender h
  have hagrees := agrees_steps (agrees_ofConfig? hl) before
  obtain ⟨client, -, hclient⟩ := hagrees.exists_tenant hconnected hopen
  have hstays : ((l.steps before).step .send).slot = some client :=
    (slot_step hagrees hclient .send).resolve_right fun hempties => by cases hempties
  have hgone : (((l.steps before).step .send).steps rest).slot ≠ some client := by
    rw [steps_append] at hslot
    exact fun hs => Option.some_ne_none client (hs.symm.trans hslot)
  obtain ⟨between, e, after, rfl, -, he⟩ := emptied_of_slot (agrees_step hagrees .send) hstays hgone
  refine ⟨before, between, client, e, after, rfl, hrest, htake, hclient, hpop, ?_⟩
  rw [steps_append]
  exact he

end Link

/-! ## The record -/

structure Delivery where
  link : Link
  ledger : Ledger := {}
  /-- the clients that were stored in the slot, in their order -/
  attached : List Nat := []
  /-- the positions of the chunk that the sender has -/
  held : List Nat := []
  /-- every byte written: to whom, and its position -/
  delivered : List (Nat × Nat) := []

namespace Delivery

/-- the positions of the bytes that were written to one client -/
def deliveredTo (client : Nat) (delivered : List (Nat × Nat)) : List Nat :=
  (delivered.filter (·.1 = client)).map Prod.snd

/-- the client that a step of the receiver from `l` to `l'` stores -/
def storing (l l' : Link) : List Nat :=
  match l.receiver, l'.receiver with
  | .store client, .attach _ => [client]
  | _, _ => []

/-- a step of the sender: of the chunk that it writes, the client has got as much as its stream has grown by -/
def send (t : Delivery) : Delivery :=
  let next := t.link.step .send
  match t.link.sender, next.sender with
  | .take, .look _ =>
    { t with
      link := next
      ledger := t.ledger.pop t.link.queue.ring t.link.sendChunk
      held := t.ledger.next t.link.queue.ring t.link.sendChunk }
  | .write _ client, _ =>
    let through := (next.written client).length - (t.link.written client).length
    { t with link := next, held := [], delivered := t.delivered ++ (t.held.take through).map (client, ·) }
  | .look _, .take => { t with link := next, held := [] }
  | _, _ => { t with link := next }

def step (t : Delivery) : Link.Event → Delivery
  | .send => t.send
  | .push bs => { t with link := t.link.step (.push bs), ledger := t.ledger.push t.link.queue.ring bs }
  | .receive => { t with link := t.link.step .receive, attached := t.attached ++ storing t.link (t.link.step .receive) }
  | e => { t with link := t.link.step e }

def steps (t : Delivery) (es : List Link.Event) : Delivery :=
  es.foldl step t

variable {t : Delivery}

theorem link_step (t : Delivery) (e : Link.Event) : (t.step e).link = t.link.step e := by
  cases e with
  | send =>
    simp only [step, send]
    split <;> rfl
  | _ => rfl

theorem attached_step (t : Delivery) (e : Link.Event) :
    (t.step e).attached = t.attached ++ if e = .receive then storing t.link (t.link.step e) else [] := by
  cases e with
  | send =>
    simp only [step, send, reduceCtorEq, if_false, List.append_nil]
    split <;> rfl
  | receive => rfl
  | _ => exact (List.append_nil _).symm

theorem kept_step (t : Delivery) {e : Link.Event} (hs : e ≠ .send) (hp : ∀ bs, e ≠ .push bs) :
    (t.step e).ledger = t.ledger ∧ (t.step e).held = t.held ∧ (t.step e).delivered = t.delivered := by
  cases e with
  | send => exact absurd rfl hs
  | push bs => exact absurd rfl (hp bs)
  | _ => exact ⟨rfl, rfl, rfl⟩

/-- what a step of the sender does to the record -/
inductive Sends (t : Delivery) : Delivery → Prop where
  /-- it waits, has found a client, has shut one, or leaves -/
  | moves {l' : Link} (written : l'.written = t.link.written) (ring : l'.queue.ring = t.link.queue.ring)
      (chunk : l'.sender.chunk = t.link.sender.chunk)
      (found : ∀ bs client, l'.sender = .write bs client → t.link.slot = some client) : Sends t { t with link := l' }
  | pops {l' : Link} (written : l'.written = t.link.written)
      (ring : l'.queue.ring = (t.link.queue.ring.get t.link.sendChunk).2)
      (sender : l'.sender = .look (t.link.queue.ring.get t.link.sendChunk).1) :
      Sends t { t with
        link := l'
        ledger := t.ledger.pop t.link.queue.ring t.link.sendChunk
        held := t.ledger.next t.link.queue.ring t.link.sendChunk }
  | drops {l' : Link} (written : l'.written = t.link.written) (ring : l'.queue.ring = t.link.queue.ring)
      (sender : l'.sender = .take) : Sends t { t with link := l', held := [] }
  /-- of the chunk the beginning gets through to the client, and nothing to the others -/
  | writes {l' : Link} {bs : Bytes} {client k : Nat} (point : t.link.sender = .write bs client)
      (ring : l'.queue.ring = t.link.queue.ring) (sender : l'.sender = .take ∨ l'.sender = .shut client)
      (through : l'.written client = t.link.written client ++ bs.take k)
      (others : ∀ c, c ≠ client → l'.written c = t.link.written c) :
      Sends t { t with
        link := l'
        held := []
        delivered := t.delivered ++
          (t.held.take ((l'.written client).length - (t.link.written client).length)).map (client, ·) }

/-- of a chunk the beginning gets through -/
theorem written_write {l : Link} {client : Nat} {s : Stream} (hs : l.streams[client]? = some s) (bs : Bytes) :
    let l' := l.updateStream client fun _ => (s.writeAll bs).2
    (∃ k, l'.written client = l.written client ++ bs.take k) ∧ ∀ c, c ≠ client → l'.written c = l.written c := by
  intro l'
  obtain ⟨k, hk⟩ := s.writeAll_through bs
  refine ⟨⟨k, ?_⟩, fun c hc => ?_⟩
  · simp [l', Link.written, Link.updateStream, hs, hk]
  · simp [l', Link.written, Link.updateStream, Ne.symm hc]

theorem sends (t : Delivery) : Sends t t.send := by
  rcases Link.step_send t.link with ⟨hstep, hp⟩ | hs
  · have hsend : t.send = { t with link := t.link } := by
      rcases hp with hp | hp <;> simp only [send, hstep, hp]
    rw [hsend]
    refine .moves rfl rfl rfl fun bs client hw => ?_
    rcases hp with hp | hp <;> cases hp.symm.trans hw
  · generalize hstep : t.link.step .send = l' at hs
    simp only [send, hstep]
    cases hs with
    | exits hp =>
      simp only [hp]
      exact .moves rfl rfl (by rw [hp]; rfl) fun bs client hw => by cases hw
    | pops hp =>
      simp only [hp]
      exact .pops rfl rfl rfl
    | drops hp =>
      simp only [hp]
      exact .drops rfl rfl rfl
    | finds hp hslot =>
      simp only [hp]
      exact .moves rfl rfl (by rw [hp]; rfl) fun bs client hw => by cases hw; exact hslot
    | misses hp =>
      simp only [hp]
      exact .writes (k := 0) hp rfl (.inl rfl) (by simp; rfl) fun c hc => rfl
    | @writes bs client s hp hs =>
      simp only [hp]
      obtain ⟨⟨k, hk⟩, hothers⟩ := written_write hs bs
      exact .writes hp rfl (by dsimp only; split_ifs <;> simp) hk hothers
    | shuts hp =>
      simp only [hp]
      exact .moves (Link.written_updateStream fun _ _ => rfl) rfl (by rw [hp]; rfl) fun bs client hw => by cases hw

/-! ## Bytes -/

structure Account (t : Delivery) : Prop where
  ledger : t.ledger.Holds t.link.queue.ring
  chunk : t.link.sender.chunk = pick t.ledger.pushed t.held
  ordered : t.delivered.map Prod.snd ++ t.held <+ t.ledger.popped
  written : ∀ client, t.link.written client = pick t.ledger.pushed (deliveredTo client t.delivered)

/-- a position that was written or is held lies within the stream -/
theorem Account.lt_length (h : Account t) {p : Nat} (hp : p ∈ t.delivered.map Prod.snd ++ t.held) :
    p < t.ledger.pushed.length :=
  h.ledger.lt_length (h.ordered.subset hp)

theorem Account.held_lt (h : Account t) : ∀ p ∈ t.held, p < t.ledger.pushed.length :=
  fun _ hp => h.lt_length (List.mem_append_right _ hp)

theorem Account.delivered_lt (h : Account t) : ∀ p ∈ t.delivered.map Prod.snd, p < t.ledger.pushed.length :=
  fun _ hp => h.lt_length (List.mem_append_left _ hp)

theorem deliveredTo_sublist (client : Nat) (ds : List (Nat × Nat)) : deliveredTo client ds <+ ds.map Prod.snd :=
  List.filter_sublist.map _

/-- what is written to one client leaves the others as they are -/
theorem deliveredTo_append (client : Nat) (ds : List (Nat × Nat)) (ps : List Nat) (c : Nat) :
    deliveredTo c (ds ++ ps.map (client, ·)) = deliveredTo c ds ++ if client = c then ps else [] := by
  simp only [deliveredTo, List.filter_append, List.map_append, List.append_cancel_left_eq]
  split_ifs with hc
  · rw [List.filter_eq_self.2 (by simp [hc]), List.map_map]
    exact List.map_id ps
  · rw [List.filter_eq_nil_iff.2 (by simp [hc]), List.map_nil]

theorem account_push (h : Account t) (bs : Bytes) : Account (t.step (.push bs)) where
  ledger := Ledger.holds_push h.ledger bs
  chunk := h.chunk.trans (pick_append_left h.held_lt bs).symm
  ordered := h.ordered
  written client := by
    refine (h.written client).trans (pick_append_left (fun p hp => ?_) bs).symm
    exact h.delivered_lt p ((deliveredTo_sublist client _).subset hp)

/-- what a stream grows by is the beginning of the chunk -/
theorem account_write (h : Account t) {bs : Bytes} {client k : Nat} {l' : Link}
    (hp : t.link.sender = .write bs client) (hring : l'.queue.ring = t.link.queue.ring) (hdone : l'.sender.chunk = [])
    (hk : l'.written client = t.link.written client ++ bs.take k)
    (hothers : ∀ c, c ≠ client → l'.written c = t.link.written c) :
    let through := (l'.written client).length - (t.link.written client).length
    Account { t with link := l', held := [], delivered := t.delivered ++ (t.held.take through).map (client, ·) } := by
  intro through
  have hchunk : bs = pick t.ledger.pushed t.held := h.chunk ▸ congrArg SenderPoint.chunk hp.symm
  have hthrough : bs.take k = bs.take through := by
    rw [List.take_eq_take_iff]
    simp only [through, hk, List.length_append, List.length_take]
    omega
  refine ⟨hring ▸ h.ledger, hdone, ?_, fun c => ?_⟩
  · have hsub : t.delivered.map Prod.snd ++ t.held.take through <+ t.ledger.popped :=
      ((List.take_sublist through t.held).append_left _).trans h.ordered
    simpa using hsub
  · simp only [deliveredTo_append, pick_append, ← h.written c]
    split_ifs with hc
    · subst hc
      rw [pick_take h.held_lt, ← hchunk, ← hthrough, hk]
    · rw [hothers c (Ne.symm hc), pick_nil, List.append_nil]

theorem account_sends (h : Account t) {t' : Delivery} (hs : Sends t t') : Account t' := by
  have hdelivered : t.delivered.map Prod.snd <+ t.ledger.popped := (List.sublist_append_left _ _).trans h.ordered
  cases hs with
  | moves hwritten hring hchunk =>
    exact ⟨hring ▸ h.ledger, hchunk.trans h.chunk, h.ordered, fun c => hwritten ▸ h.written c⟩
  | pops hwritten hring hsender =>
    refine ⟨hring ▸ Ledger.holds_pop h.ledger _, ?_, hdelivered.append_right _, fun c => hwritten ▸ h.written c⟩
    rw [hsender]
    exact (Ledger.pick_next h.ledger _).symm
  | drops hwritten hring hsender =>
    refine ⟨hring ▸ h.ledger, by rw [hsender]; rfl, ?_, fun c => hwritten ▸ h.written c⟩
    rw [List.append_nil]
    exact hdelivered
  | writes hp hring hsender hthrough hothers =>
    exact account_write h hp hring (by rcases hsender with hs | hs <;> rw [hs] <;> rfl) hthrough hothers

theorem account_step (h : Account t) (e : Link.Event) : Account (t.step e) := by
  by_cases hsend : e = .send
  · exact hsend ▸ account_sends h (sends t)
  by_cases hpush : ∃ bs, e = .push bs
  · obtain ⟨bs, rfl⟩ := hpush
    exact account_push h bs
  · obtain ⟨hwritten, hsender, hring⟩ := t.link.kept_step hsend
    obtain ⟨hledger, hheld, hdelivered⟩ := kept_step t hsend (not_exists.1 hpush)
    refine ⟨?_, ?_, ?_, fun c => ?_⟩
    · rw [link_step, hledger, hring (not_exists.1 hpush)]
      exact h.ledger
    · rw [link_step, hledger, hheld, hsender]
      exact h.chunk
    · rw [hledger, hheld, hdelivered]
      exact h.ordered
    · rw [link_step, hledger, hdelivered, hwritten]
      exact h.written c

/-! ## Clients -/

/-- who was stored, and who is coming -/
structure Roster (l : Link) (attached : List Nat) : Prop where
  ordered : (attached ++ l.coming ++ [l.streams.length]).Pairwise (· < ·)
  slot : ∀ client, l.slot = some client → attached.getLast? = some client

theorem Roster.attached_lt {l : Link} {attached : List Nat} (h : Roster l attached) : attached.Pairwise (· < ·) :=
  (List.pairwise_append.1 (List.append_assoc _ _ _ ▸ h.ordered)).1

/-- who was stored has a stream -/
theorem Roster.lt_length {l : Link} {attached : List Nat} (h : Roster l attached) {client : Nat}
    (hc : client ∈ attached) : client < l.streams.length :=
  (List.pairwise_append.1 h.ordered).2.2 client (List.mem_append_left _ hc) _ (List.mem_singleton_self _)

/-- nobody was stored after the client in the slot -/
theorem Roster.le_slot {l : Link} {attached : List Nat} (h : Roster l attached) {client : Nat}
    (hs : l.slot = some client) : client ∈ attached ∧ ∀ c ∈ attached, c ≤ client := by
  obtain ⟨earlier, rfl⟩ := List.getLast?_eq_some_iff.1 (h.slot client hs)
  refine ⟨by simp, fun c hc => ?_⟩
  rcases List.mem_append.1 hc with hc | hc
  · exact (List.pairwise_append.1 h.attached_lt).2.2 c hc client (List.mem_singleton_self client) |>.le
  · exact (List.mem_singleton.1 hc).le

/-- some of those who were coming have left, and the slot was not filled -/
theorem Roster.keeps {l l' : Link} {attached : List Nat} (h : Roster l attached) (hc : l'.coming <+ l.coming)
    (hn : l'.streams.length = l.streams.length) (hs : l'.slot = l.slot ∨ l'.slot = none) : Roster l' attached := by
  refine ⟨h.ordered.sublist ?_, fun client hclient => ?_⟩
  · rw [hn]
    exact (hc.append_left attached).append_right _
  · rcases hs with hs | hs
    · exact h.slot client (hs ▸ hclient)
    · cases hs.symm.trans hclient

/-- the newcomer has the next number -/
theorem Roster.grows {l l' : Link} {attached : List Nat} (h : Roster l attached)
    (hc : l'.coming = l.coming ++ [l.streams.length]) (hn : l'.streams.length = l.streams.length + 1)
    (hs : l'.slot = l.slot) : Roster l' attached := by
  refine ⟨?_, fun client hclient => h.slot client (hs ▸ hclient)⟩
  rw [hc, hn, ← List.append_assoc]
  refine List.pairwise_append.2 ⟨h.ordered, List.pairwise_singleton _ _, fun c hc n hn => ?_⟩
  rw [List.mem_singleton] at hn
  rcases List.mem_append.1 hc with hc | hc
  · have := (List.pairwise_append.1 h.ordered).2.2 c hc _ (List.mem_singleton_self _)
    omega
  · rw [List.mem_singleton] at hc
    omega

/-- the receiver stores the next client, or nobody -/
theorem stored_of_received {l l' : Link} (h : Link.Received l l') :
    l'.streams.length = l.streams.length ∧
      ((storing l l' = [] ∧ l'.coming <+ l.coming ∧ (l'.slot = l.slot ∨ l'.slot = none)) ∨
        ∃ client, storing l l' = [client] ∧ l.coming = client :: l'.coming ∧ l'.slot = some client) := by
  cases h with
  | stores hp => exact ⟨rfl, .inr ⟨_, by simp [storing, hp], by simp [Link.coming, hp], rfl⟩⟩
  | accepts hp hb => exact ⟨rfl, .inl ⟨by simp [storing, hp], by simp [Link.coming, hp, hb], .inl rfl⟩⟩
  | vacates hp => exact ⟨rfl, .inl ⟨by simp [storing, hp], by simp [Link.coming, hp], .inr rfl⟩⟩
  | returns hp =>
    rcases hp with hp | hp <;>
      exact ⟨rfl, .inl ⟨by simp [storing, hp], by simp [Link.coming, hp, Link.receiveAt], .inl rfl⟩⟩
  | exits hp =>
    rcases hp with hp | hp | ⟨client, hp⟩ <;>
      exact ⟨rfl, .inl ⟨by simp [storing, hp, Link.receiveAt], by simp [Link.coming, hp, Link.receiveAt], .inl rfl⟩⟩
  | acceptFails hp | attaches hp | greets hp | reads hp | interrupted hp | ends hp | misses hp | hands hp | handed hp
  | detaches hp | shuts hp | leaves hp =>
    refine ⟨?_, .inl ⟨by simp [storing, hp], ?_, .inl rfl⟩⟩
    · simp [Link.updateStream, Link.tell, Link.receiveAt]
    · simp [Link.coming, hp, Link.updateStream, Link.tell, Link.receiveAt]

theorem roster_sent {l l' : Link} {attached : List Nat} (h : Roster l attached) (hs : Link.Sent l l') :
    Roster l' attached := by
  cases hs with
  | writes | shuts => exact h.keeps (List.Sublist.refl _) (List.length_modify _ _ _) (.inl rfl)
  | _ => exact h.keeps (List.Sublist.refl _) rfl (.inl rfl)

theorem roster_dial {l : Link} {attached : List Nat} (h : Roster l attached) : Roster l.dial attached := by
  refine h.grows ?_ (by simp [Link.dial]) rfl
  simp only [Link.coming, Link.dial]
  split <;> rfl

theorem roster_halted {l l' : Link} {attached : List Nat} (h : Roster l attached) (hs : Link.Halted l l') :
    Roster l' attached := by
  cases hs with
  | takes => exact h.keeps (List.Sublist.refl _) (List.length_modify _ _ _) (.inr rfl)
  | wakes => exact (roster_dial h).keeps (List.Sublist.refl _) (List.length_modify _ _ _) (.inl rfl)
  | _ => exact h.keeps (List.Sublist.refl _) rfl (.inl rfl)

theorem roster_received {l l' : Link} {attached : List Nat} (h : Roster l attached) (hs : Link.Received l l') :
    Roster l' (attached ++ storing l l') := by
  obtain ⟨hn, ⟨hnone, hc, hslot⟩ | ⟨client, hstores, hc, hslot⟩⟩ := stored_of_received hs
  · rw [hnone, List.append_nil]
    exact h.keeps hc hn hslot
  · rw [hstores]
    refine ⟨?_, fun c hclient => ?_⟩
    · have hordered := h.ordered
      rw [hc, ← hn] at hordered
      simpa using hordered
    · obtain rfl : client = c := Option.some.inj (hslot.symm.trans hclient)
      exact List.getLast?_concat

theorem roster_step (h : Roster t.link t.attached) (e : Link.Event) : Roster (t.step e).link (t.step e).attached := by
  rw [link_step, attached_step]
  cases e with
  | receive =>
    rw [if_pos rfl]
    rcases Link.step_receive t.link with ⟨hstep, -⟩ | hs
    · have hnone : storing t.link t.link = [] := by cases hp : t.link.receiver <;> simp [storing, hp]
      rw [hstep, hnone, List.append_nil]
      exact h
    · exact roster_received h hs
  | send =>
    rw [if_neg (by decide), List.append_nil]
    exact Link.keeps_send (P := (Roster · t.attached)) h (roster_sent h)
  | halt =>
    rw [if_neg (by decide), List.append_nil]
    exact Link.keeps_halt (P := (Roster · t.attached)) h (roster_halted h)
  | dial =>
    rw [if_neg (by decide), List.append_nil]
    exact roster_dial h
  | push | failAccept =>
    rw [if_neg (by simp), List.append_nil]
    exact h.keeps (List.Sublist.refl _) rfl (.inl rfl)
  | arrive | consume | endSending | reset | failRead | failWrite =>
    rw [if_neg (by simp), List.append_nil]
    exact h.keeps (List.Sublist.refl _) (List.length_modify _ _ _) (.inl rfl)

/-! ## Who gets what -/

structure Routed (t : Delivery) : Prop where
  sorted : (t.delivered.map Prod.fst).Pairwise (· ≤ ·)
  known : ∀ d ∈ t.delivered, d.1 ∈ t.attached
  /-- the client that the sender is about to write to is no earlier one -/
  target : ∀ bs client, t.link.sender = .write bs client → client ∈ t.attached ∧ ∀ d ∈ t.delivered, d.1 ≤ client

theorem routed_sends (h : Routed t) (hr : Roster t.link t.attached) {t' : Delivery} (hs : Sends t t') : Routed t' := by
  cases hs with
  | moves hwritten hring hchunk hfound =>
    refine ⟨h.sorted, h.known, fun bs client hw => ?_⟩
    obtain ⟨hmem, hle⟩ := hr.le_slot (hfound bs client hw)
    exact ⟨hmem, fun d hd => hle d.1 (h.known d hd)⟩
  | pops hwritten hring hsender | drops hwritten hring hsender =>
    exact ⟨h.sorted, h.known, fun bs client hw => by cases hsender.symm.trans hw⟩
  | @writes l' bs client k hp hring hsender =>
    obtain ⟨hmem, hle⟩ := h.target _ _ hp
    refine ⟨?_, fun d hd => ?_, fun bs' c hw => ?_⟩
    · rw [List.map_append, List.map_map, List.pairwise_append]
      refine ⟨h.sorted, ?_, fun c hc c' hc' => ?_⟩
      · simp
      · obtain ⟨d, hd, rfl⟩ := List.mem_map.1 hc
        obtain ⟨p, -, rfl⟩ := List.mem_map.1 hc'
        exact hle d hd
    · rcases List.mem_append.1 hd with hd | hd
      · exact h.known d hd
      · obtain ⟨p, -, rfl⟩ := List.mem_map.1 hd
        exact hmem
    · rcases hsender with hs | hs <;> cases hs.symm.trans hw

theorem routed_step (h : Routed t) (hr : Roster t.link t.attached) (e : Link.Event) : Routed (t.step e) := by
  by_cases hsend : e = .send
  · exact hsend ▸ routed_sends h hr (sends t)
  · have hdelivered : (t.step e).delivered = t.delivered := by
      cases e with
      | send => exact absurd rfl hsend
      | _ => rfl
    have hattached : t.attached ⊆ (t.step e).attached := by
      rw [attached_step]
      exact List.subset_append_left _ _
    refine ⟨hdelivered ▸ h.sorted, fun d hd => hattached (h.known d (hdelivered ▸ hd)), fun bs client hw => ?_⟩
    rw [link_step, (t.link.kept_step hsend).2.1] at hw
    obtain ⟨hmem, hle⟩ := h.target bs client hw
    exact ⟨hattached hmem, fun d hd => hle d (hdelivered ▸ hd)⟩

/-- bytes that went to the clients one after the other are what each of them got, one after the other -/
theorem flatMap_deliveredTo {clients : List Nat} {ds : List (Nat × Nat)} (hc : clients.Pairwise (· < ·))
    (hf : (ds.map Prod.fst).Pairwise (· ≤ ·)) (hs : (ds.map Prod.snd).Pairwise (· < ·))
    (hm : ∀ d ∈ ds, d.1 ∈ clients) : clients.flatMap (fun client => deliveredTo client ds) = ds.map Prod.snd := by
  have hlex : ds.Pairwise (Prod.Lex (· < ·) (· < ·)) := by
    refine ((List.pairwise_map.1 hf).and (List.pairwise_map.1 hs)).imp fun {d d'} h => ?_
    rw [Prod.lex_def]
    exact (Nat.lt_or_eq_of_le h.1).imp_right fun he => ⟨he, h.2⟩
  have hflat : clients.flatMap (fun client => ds.filter (·.1 = client)) = ds := by
    refine List.Pairwise.eq_of_mem_iff (List.pairwise_flatMap.2 ⟨fun client _ => hlex.filter _, ?_⟩) hlex fun d => ?_
    · refine hc.imp fun {c c'} hlt d hd d' hd' => ?_
      rw [List.mem_filter, decide_eq_true_eq] at hd hd'
      rw [Prod.lex_def, hd.2, hd'.2]
      exact .inl hlt
    · simp only [List.mem_flatMap, List.mem_filter, decide_eq_true_eq, exists_eq_right_right']
      exact and_iff_right_of_imp (hm d)
  conv_rhs => rw [← hflat, List.map_flatMap]
  rfl

/-! ## Any events -/

structure Inv (t : Delivery) : Prop where
  agrees : t.link.Agrees
  roster : Roster t.link t.attached
  routed : Routed t
  account : Account t

theorem inv_start {c : LinkConfig} {l : Link} (hl : Link.ofConfig? c = some l) : Inv { link := l } := by
  have hagrees := Link.agrees_ofConfig? hl
  obtain ⟨q, hq, rfl⟩ := Option.map_eq_some_iff.1 hl
  obtain ⟨r, hr, rfl⟩ := Option.map_eq_some_iff.1 hq
  obtain ⟨hw, -, hempty⟩ := Ring.wf_ofCapacity? hr
  refine ⟨hagrees, ⟨List.pairwise_singleton _ _, ?_⟩, ⟨.nil, ?_, ?_⟩, ⟨Ledger.holds_new hw hempty, rfl, .slnil, ?_⟩⟩
  · rintro client ⟨⟩
  · exact fun d hd => absurd hd List.not_mem_nil
  · rintro bs client ⟨⟩
  · exact fun client => rfl

theorem inv_step (h : Inv t) (e : Link.Event) : Inv (t.step e) :=
  ⟨link_step t e ▸ Link.agrees_step h.agrees e, roster_step h.roster e, routed_step h.routed h.roster e,
    account_step h.account e⟩

theorem inv_steps (h : Inv t) (es : List Link.Event) : Inv (t.steps es) := by
  induction es generalizing t with
  | nil => exact h
  | cons e es ih => exact ih (inv_step h e)

theorem link_steps (t : Delivery) (es : List Link.Event) : (t.steps es).link = t.link.steps es :=
  (List.foldl_hom link fun t e => (link_step t e).symm).symm

theorem pushed_step (t : Delivery) (e : Link.Event) :
    (t.step e).ledger.pushed = t.ledger.pushed ++ Link.pushedBy e := by
  cases e with
  | push bs => rfl
  | send =>
    rw [show Link.pushedBy .send = [] from rfl, List.append_nil]
    have hs : Sends t (t.step .send) := sends t
    generalize t.step .send = t' at hs
    cases hs <;> rfl
  | _ => exact (List.append_nil _).symm

theorem pushed_steps (t : Delivery) (es : List Link.Event) :
    (t.steps es).ledger.pushed = t.ledger.pushed ++ es.flatMap Link.pushedBy := by
  induction es generalizing t with
  | nil => exact (List.append_nil _).symm
  | cons e es ih =>
    rw [List.flatMap_cons, ← List.append_assoc, ← pushed_step]
    exact ih (t.step e)

/-- who was never stored has got nothing -/
theorem written_of_not_attached (h : Inv t) {client : Nat} (hc : client ∉ t.attached) : t.link.written client = [] := by
  have hnone : t.delivered.filter (·.1 = client) = [] := by
    rw [List.filter_eq_nil_iff]
    exact fun d hd he => hc (of_decide_eq_true he ▸ h.routed.known d hd)
  rw [h.account.written, deliveredTo, hnone]
  rfl

/-- what was popped stays popped -/
theorem popped_steps (t : Delivery) (es : List Link.Event) : t.ledger.popped <+: (t.steps es).ledger.popped := by
  induction es generalizing t with
  | nil => exact List.prefix_rfl
  | cons e es ih =>
    refine List.IsPrefix.trans ?_ (ih (t.step e))
    cases e with
    | send =>
      have hs : Sends t (t.step .send) := sends t
      generalize t.step .send = t' at hs
      cases hs with
      | pops => exact List.prefix_append _ _
      | moves | drops | writes => exact List.prefix_rfl
    | _ => exact List.prefix_rfl

/-- **The clients get the pushed bytes in order, each at most once.** Take a new link and any events at it, in any
order: pushes, clients that come, send, fail and go, and steps of the receiver, of the sender and of a stop. What the
clients got, taken in the order in which they were stored in the slot, are bytes at increasing positions of the stream
of all that was pushed; who was never stored has got nothing. These positions are some of the popped ones, which are
increasing as well, stay popped, and never wait in the queue again. While the queue is connected the slot has the client
of the session, unless a stop has begun. And a chunk has no client only when, at its pop, one was in the slot, which the
detach of its session or a stop has emptied since. -/
theorem delivery_in_order {c : LinkConfig} {l : Link} (hl : Link.ofConfig? c = some l) (es : List Link.Event) :
    let t := steps { link := l } es
    let pushed := es.flatMap Link.pushedBy
    t.link = l.steps es ∧ t.attached.Pairwise (· < ·) ∧
      (∀ client, t.link.slot = some client → t.attached.getLast? = some client) ∧
      t.attached.flatMap t.link.written = pick pushed (t.delivered.map Prod.snd) ∧
      (t.delivered.map Prod.snd).Pairwise (· < ·) ∧ t.attached.flatMap t.link.written <+ pushed ∧
      (∀ client, t.link.written client = pick pushed (deliveredTo client t.delivered)) ∧
      (∀ client, client ∉ t.attached → t.link.written client = []) ∧
      t.delivered.map Prod.snd <+ t.ledger.popped ∧ t.ledger.popped.Pairwise (· < ·) ∧
      t.link.queue.ring.toList = pick pushed (t.ledger.waiting t.link.queue.ring) ∧
      (∀ p ∈ t.ledger.popped, p ∉ t.ledger.waiting t.link.queue.ring) ∧
      (∀ es', t.ledger.popped <+: (t.steps es').ledger.popped) ∧
      (t.link.queue.isConnected = true →
        (∃ client, t.link.receiver.tenant? = some client ∧ t.link.slot = some client) ∨ t.link.isStopped = true) ∧
      (∀ bs, t.link.sender = .look bs → t.link.slot = none →
        ∃ before between client e after, es = before ++ .send :: (between ++ e :: after) ∧
          .send ∉ between ++ e :: after ∧ (l.steps before).sender = .take ∧ (l.steps before).slot = some client ∧
          ((l.steps before).step .send).sender = .look bs ∧
          Link.Empties (l.steps (before ++ .send :: between)) client e) := by
  intro t pushed
  have hstart := inv_start hl
  obtain ⟨hagrees, hroster, hrouted, haccount⟩ : Inv t := inv_steps hstart es
  have hlink : t.link = l.steps es := link_steps { link := l } es
  have hpushed : t.ledger.pushed = pushed := pushed_steps { link := l } es
  have hsub : t.delivered.map Prod.snd <+ t.ledger.popped :=
    (List.sublist_append_left _ _).trans haccount.ordered
  have hpositions : (t.delivered.map Prod.snd).Pairwise (· < ·) := haccount.ledger.ordered.sublist hsub
  have hwritten : ∀ client, t.link.written client = pick pushed (deliveredTo client t.delivered) :=
    hpushed ▸ haccount.written
  have hall : t.attached.flatMap t.link.written = pick pushed (t.delivered.map Prod.snd) := by
    rw [← flatMap_deliveredTo hroster.attached_lt hrouted.sorted hpositions hrouted.known, funext hwritten]
    exact List.filterMap_flatMap.symm
  refine ⟨hlink, hroster.attached_lt, hroster.slot, hall, hpositions, ?_, hwritten, fun client hclient => ?_, hsub,
    haccount.ledger.ordered, ?_, fun p hp hw => ?_, popped_steps t, hagrees.tenant_or_stopped, fun bs hlook hslot => ?_⟩
  · rw [hall]
    exact pick_sublist hpositions (hpushed ▸ haccount.delivered_lt)
  · exact written_of_not_attached ⟨hagrees, hroster, hrouted, haccount⟩ hclient
  · rw [Ledger.waiting, pick_range', ← hpushed, haccount.ledger.waiting, List.take_of_length_le]
    rw [List.length_drop, ← haccount.ledger.front_add_length]
    omega
  · exact absurd (haccount.ledger.lt_of_mem_popped hp) (Nat.not_lt.2 (List.mem_range'_1.1 hw).1)
  · rw [hlink] at hlook hslot
    exact Link.emptied_of_look hl hlook hslot

/-- two bytes of six are dropped in the queue; of the next two the first client gets one, and the two behind them,
popped in its session, go to the second client, which has left when a last one is popped -/
theorem delivery_in_order_two_clients :
    let config : LinkConfig := { sendBuffer := 4, sendChunk := 2 }
    let es : List Link.Event := [.dial, .receive, .receive, .receive, .push [1, 2, 3, 4, 5, 6], .send, .send,
      .failWrite 0 ⟨1, .reset⟩, .send, .send, .send, .receive, .receive, .receive, .receive, .receive, .receive,
      .receive, .dial, .receive, .receive, .receive, .send, .send, .push [7], .send, .reset 1, .receive, .receive,
      .receive, .receive]
    ∃ l, Link.ofConfig? config = some l ∧
      let t := steps { link := l } es
      t.attached = [0, 1] ∧ t.link.written 0 = [3] ∧ t.link.written 1 = [5, 6] ∧
        t.delivered = [(0, 2), (1, 4), (1, 5)] ∧
        t.attached.flatMap t.link.written <+ es.flatMap Link.pushedBy ∧
        ∃ before between client e after, es = before ++ .send :: (between ++ e :: after) ∧
          (l.steps before).slot = some client ∧ Link.Empties (l.steps (before ++ .send :: between)) client e := by
  intro config es
  obtain ⟨l, hl⟩ : ∃ l, Link.ofConfig? config = some l := ⟨_, rfl⟩
  obtain ⟨-, -, -, -, -, hsub, -, -, -, -, -, -, -, -, hdrop⟩ := delivery_in_order hl es
  obtain rfl := Option.some.inj hl
  refine ⟨_, rfl, by decide, by decide, by decide, by decide, hsub, ?_⟩
  obtain ⟨before, between, client, e, after, hes, -, -, hslot, -, hempties⟩ := hdrop [7] (by decide) (by decide)
  exact ⟨before, between, client, e, after, hes, hslot, hempties⟩

end Delivery

end RemoteShutter
