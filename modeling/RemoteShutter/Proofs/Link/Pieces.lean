/-
Where the bytes of a client begin.

The sender takes chunks without looking at frames, and clients come and go between any two of its steps. What lies ahead
of a client is the chunk that the sender has in hand, unless somebody else is to get it, and what waits in the queue.
- `Course`: of what lay ahead of it when it was stored, and of what was pushed since, a client has got the beginning.
  The rest still lies ahead of it, or it gets nothing more.
- `course_step`, `course_steps`: an event for which there is room keeps this, and so does every such run.
- `Tailed`: what lies ahead is the end of the stream of pushed bytes, and all of it as long as nobody was stored.
- `client_continues_stream`: every client goes on where the sender has come to. If that is between two frames it gets
  whole frames; otherwise it begins within a frame, whose beginning the sender has taken before.
-/
import Mathlib.Tactic
import RemoteShutter.Proofs.Decoder.Cuts
import RemoteShutter.Proofs.Link.Shutdown
import RemoteShutter.Proofs.Outbound.Stream

namespace RemoteShutter

/-! ## Writing -/

namespace Stream

theorem writeAll_go_of_done {s : Stream} {bs : Bytes} {fs : List WriteFault} (h : (writeAll.go s bs fs).1 = true) :
    (writeAll.go s bs fs).2.written.toList = s.written.toList ++ bs := by
  induction fs generalizing s bs with
  | nil => simp [writeAll.go]
  | cons f fs ih =>
    rw [writeAll.go] at h ⊢
    split_ifs at h ⊢ with hempty hinterrupted
    · simp [List.isEmpty_iff.1 hempty]
    · rw [ih h]
      simp

/-- a write that is done has written everything -/
theorem writeAll_of_done {s : Stream} {bs : Bytes} (h : (s.writeAll bs).1 = true) :
    (s.writeAll bs).2.written.toList = s.written.toList ++ bs := by
  unfold writeAll at h ⊢
  split_ifs at h ⊢ with hgone
  · simp [List.isEmpty_iff.1 h]
  · exact writeAll_go_of_done h

/-- nothing is written to a stream that was shut -/
theorem written_writeAll_of_isShut {s : Stream} (h : s.isShut = true) (bs : Bytes) :
    (s.writeAll bs).2.written = s.written := by
  rw [writeAll, h, Bool.true_or, if_pos rfl]

end Stream

namespace Link

/-- the ring has as many free bytes as are pushed, if any are -/
def hasRoom (l : Link) : Event → Bool
  | .push bs => bs.length + l.queue.pending ≤ l.queue.ring.capacity
  | _ => true

/-- every push finds room -/
def isRoomy (l : Link) : List Event → Bool
  | [] => true
  | e :: es => l.hasRoom e && (l.step e).isRoomy es

theorem isRoomy_append (l : Link) (es es' : List Event) :
    l.isRoomy (es ++ es') = (l.isRoomy es && (l.steps es).isRoomy es') := by
  induction es generalizing l with
  | nil => rfl
  | cons e es ih =>
    rw [List.cons_append, isRoomy, isRoomy, ih, Bool.and_assoc]
    rfl

/-- what was pushed, push by push -/
def pushes (es : List Event) : List Bytes :=
  es.filterMap fun
    | .push bs => some bs
    | _ => none

theorem flatMap_pushedBy (es : List Event) : es.flatMap pushedBy = (pushes es).flatten := by
  induction es with
  | nil => rfl
  | cons e es ih =>
    rw [List.flatMap_cons, ih]
    cases e <;> rfl

/-- what lies ahead of a client: the chunk in hand, unless somebody else is to get it, and what waits -/
def ahead (l : Link) (client : Nat) : Bytes :=
  (match l.sender with
    | .look bs => bs
    | .write bs c => if c = client then bs else []
    | _ => []) ++ l.queue.ring.toList

/-- nothing more is written to the client -/
inductive IsPast (l : Link) (client : Nat) : Prop where
  | shut (isShut : l.isShut client = true)
  /-- a write has failed -/
  | failed (sender : l.sender = .shut client)
  | left (slot : l.slot ≠ some client) (sender : ∀ bs, l.sender ≠ .write bs client)

/-- how a client stands to the bytes that are due to it from its storing on -/
inductive Course (l : Link) (client : Nat) (due : Bytes) : Prop where
  | goesOn (reach : l.slot = some client ∨ ∃ bs, l.sender = .write bs client)
      (rest : l.written client ++ l.ahead client = due)
  | past (isPast : l.IsPast client) (part : l.written client <+: due)

variable {l l' : Link} {client : Nat} {attached : List Nat} {due : Bytes}

/-! ## Who gets nothing more -/

/-- nobody is stored a second time -/
theorem slot_ne_step (h : Delivery.Roster l attached) (hc : client ∈ attached) (hs : l.slot ≠ some client) (e : Event) :
    (l.step e).slot ≠ some client := by
  cases e with
  | receive =>
    refine keeps_receive (P := (·.slot ≠ some client)) hs fun {l'} hstep => ?_
    obtain ⟨-, ⟨-, -, hslot | hslot⟩ | ⟨next, -, hcoming, hslot⟩⟩ := Delivery.stored_of_received hstep
    · rwa [hslot]
    · simp [hslot]
    · -- the next client has a larger number
      have hordered := h.ordered
      rw [List.append_assoc, hcoming] at hordered
      have hlt := (List.pairwise_append.1 hordered).2.2 client hc next (by simp)
      rw [hslot, Ne, Option.some.injEq]
      omega
  | send => exact keeps_send (P := (·.slot ≠ some client)) hs fun hstep => by cases hstep <;> exact hs
  | halt =>
    refine keeps_halt (P := (·.slot ≠ some client)) hs fun hstep => ?_
    cases hstep with
    | takes => simp
    | _ => exact hs
  | push | dial | arrive | consume | endSending | reset | failAccept | failRead | failWrite => exact hs

theorem past_sent (hn : client < l.streams.length) (h : l.IsPast client) (hs : Sent l l') : l'.IsPast client := by
  cases h with
  | shut hshut => exact .shut (isShut_sent hshut hs)
  | failed hp =>
    cases hs with
    | shuts hp' =>
      obtain rfl := SenderPoint.shut.inj (hp.symm.trans hp')
      exact .shut (by simp [isShut, updateStream, hn, Stream.shut])
    | exits hp' | pops hp' | drops hp' | finds hp' | misses hp' | writes hp' => cases hp.symm.trans hp'
  | left hslot hsender =>
    cases hs with
    | finds hp' hs' =>
      refine .left hslot fun bs hw => ?_
      cases hw
      exact hslot hs'
    | writes =>
      refine .left hslot fun bs hw => ?_
      dsimp only at hw
      split_ifs at hw
    | exits | pops | drops | misses | shuts => exact .left hslot fun bs hw => by cases hw

theorem past_step (h : Delivery.Roster l attached) (hc : client ∈ attached) (hp : l.IsPast client) (e : Event) :
    (l.step e).IsPast client := by
  by_cases he : e = .send
  · subst he
    exact keeps_send (P := (·.IsPast client)) hp (past_sent (h.lt_length hc) hp)
  · have hsender : (l.step e).sender = l.sender := (l.kept_step he).2.1
    cases hp with
    | shut hshut => exact .shut (isShut_step hshut e)
    | failed hp => exact .failed (hsender.trans hp)
    | left hslot hw => exact .left (slot_ne_step h hc hslot e) fun bs => hsender ▸ hw bs

theorem written_sent_of_past (h : l.IsPast client) (hs : Sent l l') : l'.written client = l.written client := by
  cases hs with
  | @writes bs c s hp hstream =>
    by_cases hc : client = c
    · subst hc
      cases h with
      | failed hp' => cases hp.symm.trans hp'
      | left _ hw => exact absurd hp (hw bs)
      | shut hshut =>
        obtain ⟨s', hs', hshut⟩ := (Option.any_eq_true _ _).1 hshut
        obtain rfl := Option.some.inj (hstream.symm.trans hs')
        exact congrFun (written_updateStream fun s' hs' => by
          rw [Stream.written_writeAll_of_isShut hshut, Option.some.inj (hstream.symm.trans hs')]) client
    · exact (Delivery.written_write hstream bs).2 client hc
  | shuts => exact congrFun (written_updateStream (f := Stream.shut) fun _ _ => rfl) client
  | exits | pops | drops | finds | misses => rfl

/-- nothing more is written, whatever happens -/
theorem written_step_of_past (h : l.IsPast client) (e : Event) : (l.step e).written client = l.written client := by
  by_cases he : e = .send
  · subst he
    exact keeps_send (P := (·.written client = l.written client)) rfl (written_sent_of_past h)
  · rw [(l.kept_step he).1]

/-! ## Who gets more -/

/-- a client that nobody goes on writing to gets nothing more -/
theorem course_of_rest (h : l.written client ++ l.ahead client = due) : Course l client due := by
  by_cases hreach : l.slot = some client ∨ ∃ bs, l.sender = .write bs client
  · exact .goesOn hreach h
  · rw [not_or, not_exists] at hreach
    exact .past (.left hreach.1 hreach.2) ⟨_, h⟩

/-- a write to the client: of the chunk all gets through, or the beginning, and then the stream is to be shut -/
theorem course_write {bs : Bytes} {s : Stream} (hp : l.sender = .write bs client)
    (hs : l.streams[client]? = some s) (h : l.written client ++ l.ahead client = due) :
    Course { l.updateStream client fun _ => (s.writeAll bs).2 with
      sender := if (s.writeAll bs).1 then .take else .shut client } client due := by
  have hahead : l.ahead client = bs ++ l.queue.ring.toList := by simp [ahead, hp]
  rw [hahead] at h
  by_cases hdone : (s.writeAll bs).1 = true
  · refine course_of_rest (h ▸ ?_)
    simp [written, ahead, updateStream, hs, hdone, Stream.writeAll_of_done hdone]
  · refine .past (.failed (if_neg hdone)) ?_
    obtain ⟨⟨k, hk⟩, -⟩ := Delivery.written_write hs bs
    have hpart : l.written client ++ bs.take k <+: l.written client ++ (bs ++ l.queue.ring.toList) :=
      (List.prefix_append_right_inj _).2 ((List.take_prefix k bs).trans (List.prefix_append _ _))
    rwa [← hk, h] at hpart

theorem course_sent (hw : l.queue.ring.Wf) (hn : client < l.streams.length)
    (hreach : l.slot = some client ∨ ∃ bs, l.sender = .write bs client)
    (h : l.written client ++ l.ahead client = due) (hs : Sent l l') : Course l' client due := by
  cases hs with
  | exits hp => exact course_of_rest (h ▸ by simp [written, ahead, hp])
  | pops hp =>
    -- what was in front in the queue is in hand now
    refine course_of_rest (h ▸ ?_)
    simp [written, ahead, hp, Ring.get_fst hw, Ring.toList_get hw]
  | drops hp hslot =>
    rcases hreach with hreach | ⟨bs, hreach⟩
    · cases hslot.symm.trans hreach
    · cases hp.symm.trans hreach
  | finds hp hslot =>
    rcases hreach with hreach | ⟨bs, hreach⟩
    · obtain rfl := Option.some.inj (hslot.symm.trans hreach)
      exact course_of_rest (h ▸ by simp [written, ahead, hp])
    · cases hp.symm.trans hreach
  | @misses bs c hp hnone =>
    have hc : c ≠ client := by
      rintro rfl
      exact absurd (List.getElem?_eq_none_iff.1 hnone) (Nat.not_le.2 hn)
    exact course_of_rest (h ▸ by simp [written, ahead, hp, hc])
  | @writes bs c s hp hstream =>
    by_cases hc : c = client
    · subst hc
      exact course_write hp hstream h
    · refine course_of_rest (h ▸ ?_)
      have hwritten := (Delivery.written_write hstream bs).2 client (Ne.symm hc)
      refine congrArg₂ _ hwritten ?_
      simp only [ahead, hp, if_neg hc]
      split_ifs <;> rfl
  | @shuts c hp =>
    refine course_of_rest (h ▸ congrArg₂ _ ?_ ?_)
    · exact congrFun (written_updateStream (f := Stream.shut) fun _ _ => rfl) client
    · simp [ahead, hp, updateStream]

end Link

namespace Delivery

open Link (ahead isRoomy pushedBy pushes)

variable {t : Delivery} {client : Nat} {due : Bytes}

/-- what waits grows by what is pushed, if there is room -/
theorem toList_step (h : Inv t) {e : Link.Event} (he : e ≠ .send) (hroom : t.link.hasRoom e = true) :
    (t.link.step e).queue.ring.toList = t.link.queue.ring.toList ++ pushedBy e := by
  by_cases hpush : ∃ bs, e = .push bs
  · obtain ⟨bs, rfl⟩ := hpush
    exact Ring.toList_put_of_room h.account.ledger.wf (of_decide_eq_true hroom)
  · have hnone : pushedBy e = [] := by
      cases e with
      | push bs => exact absurd ⟨bs, rfl⟩ hpush
      | _ => rfl
    rw [(t.link.kept_step he).2.2 (not_exists.1 hpush), hnone, List.append_nil]

/-- and so does what lies ahead of a client -/
theorem ahead_step (h : Inv t) {e : Link.Event} (he : e ≠ .send) (hroom : t.link.hasRoom e = true) (client : Nat) :
    (t.link.step e).ahead client = t.link.ahead client ++ pushedBy e := by
  rw [ahead, ahead, (t.link.kept_step he).2.1, toList_step h he hroom, List.append_assoc]

/-- **An event for which there is room keeps the course of a client.** -/
theorem course_step (h : Inv t) (hc : client ∈ t.attached) (hcourse : t.link.Course client due) (e : Link.Event)
    (hroom : t.link.hasRoom e = true) : (t.link.step e).Course client (due ++ pushedBy e) := by
  cases hcourse with
  | past isPast part =>
    refine .past (Link.past_step h.roster hc isPast e) ?_
    rw [Link.written_step_of_past isPast e]
    exact part.trans (List.prefix_append _ _)
  | goesOn reach rest =>
    by_cases he : e = .send
    · subst he
      rw [show pushedBy .send = [] from rfl, List.append_nil]
      exact Link.keeps_send (P := (Link.Course · client due)) (.goesOn reach rest)
        (Link.course_sent h.account.ledger.wf (h.roster.lt_length hc) reach rest)
    · refine Link.course_of_rest ?_
      rw [(t.link.kept_step he).1, ahead_step h he hroom, ← List.append_assoc, rest]

theorem course_steps (h : Inv t) (hc : client ∈ t.attached) (hcourse : t.link.Course client due)
    {es : List Link.Event} (hroom : t.link.isRoomy es = true) :
    (t.link.steps es).Course client (due ++ es.flatMap pushedBy) := by
  induction es generalizing t due with
  | nil => exact (List.append_nil due).symm ▸ hcourse
  | cons e es ih =>
    rw [isRoomy, Bool.and_eq_true] at hroom
    have hattached : client ∈ (t.step e).attached := by
      rw [attached_step]
      exact List.mem_append_left _ hc
    have hstep := course_step h hc hcourse e hroom.1
    rw [← link_step] at hstep hroom
    rw [List.flatMap_cons, ← List.append_assoc]
    have hrun := ih (inv_step h e) hattached hstep hroom.2
    rw [link_step] at hrun
    exact hrun

/-! ## What lies ahead -/

/-- what the sender has in hand and what waits are the end of the stream, and all of it waits until a client comes -/
structure Tailed (l : Link) (attached : List Nat) (stream : Bytes) : Prop where
  suffix : l.sender.chunk ++ l.queue.ring.toList <:+ stream
  whole : attached = [] → l.queue.ring.toList = stream

/-- the chunk in hand is gone -/
theorem Tailed.puts {l l' : Link} {attached : List Nat} {stream : Bytes} (h : Tailed l attached stream)
    (hc : l'.sender.chunk = []) (hr : l'.queue.ring = l.queue.ring) : Tailed l' attached stream := by
  refine ⟨?_, hr ▸ h.whole⟩
  rw [hc, hr, List.nil_append]
  exact (List.suffix_append _ _).trans h.suffix

theorem tailed_start {config : LinkConfig} {l : Link} (hl : Link.ofConfig? config = some l) : Tailed l [] [] := by
  obtain ⟨q, hq, rfl⟩ := Option.map_eq_some_iff.1 hl
  obtain ⟨r, hr, rfl⟩ := Option.map_eq_some_iff.1 hq
  obtain ⟨hw, -, hempty⟩ := Ring.wf_ofCapacity? hr
  have hnil : r.toList = [] := (Ring.toList_eq_nil_iff hw).2 hempty
  exact ⟨by simp [SenderPoint.chunk, hnil], fun _ => hnil⟩

theorem tailed_sent {l l' : Link} {attached : List Nat} {stream : Bytes} (ha : l.Agrees) (hr : Roster l attached)
    (hw : l.queue.ring.Wf) (h : Tailed l attached stream) (hs : Link.Sent l l') : Tailed l' attached stream := by
  cases hs with
  | pops hp hopen hconnected =>
    refine ⟨?_, ?_⟩
    · have hsuffix := h.suffix
      rw [hp] at hsuffix
      simpa [SenderPoint.chunk, Ring.get_fst hw, Ring.toList_get hw] using hsuffix
    · -- chunks are taken only for somebody
      rintro rfl
      obtain ⟨client, -, hslot⟩ := ha.exists_tenant hconnected hopen
      cases hr.slot client hslot
  | finds hp =>
    have hsuffix := h.suffix
    rw [hp] at hsuffix
    exact ⟨hsuffix, h.whole⟩
  | writes => exact h.puts (by dsimp only; split_ifs <;> rfl) rfl
  | exits | drops | misses | shuts => exact h.puts rfl rfl

theorem tailed_step (hi : Inv t) (h : Tailed t.link t.attached t.ledger.pushed) (e : Link.Event)
    (hroom : t.link.hasRoom e = true) :
    Tailed (t.step e).link (t.step e).attached (t.step e).ledger.pushed := by
  have hattached : (t.step e).attached = [] → t.attached = [] := by
    rw [attached_step]
    exact fun hnil => (List.append_eq_nil_iff.1 hnil).1
  rw [link_step, pushed_step]
  by_cases he : e = .send
  · subst he
    have hsent : Tailed (t.link.step .send) t.attached t.ledger.pushed :=
      Link.keeps_send (P := (Tailed · t.attached t.ledger.pushed)) h
        (tailed_sent hi.agrees hi.roster hi.account.ledger.wf h)
    rw [show pushedBy .send = [] from rfl, List.append_nil]
    exact ⟨hsent.suffix, fun hnil => hsent.whole (hattached hnil)⟩
  · obtain ⟨-, hsender, -⟩ := t.link.kept_step he
    have hring : (t.link.step e).queue.ring.toList = t.link.queue.ring.toList ++ pushedBy e :=
      toList_step hi he hroom
    refine ⟨?_, fun hnil => ?_⟩
    · obtain ⟨taken, htaken⟩ := h.suffix
      exact ⟨taken, by rw [hsender, hring, ← htaken, List.append_assoc, List.append_assoc]⟩
    · rw [hring, h.whole (hattached hnil)]

theorem tailed_steps (hi : Inv t) (h : Tailed t.link t.attached t.ledger.pushed) {es : List Link.Event}
    (hroom : t.link.isRoomy es = true) :
    Tailed (t.steps es).link (t.steps es).attached (t.steps es).ledger.pushed := by
  induction es generalizing t with
  | nil => exact h
  | cons e es ih =>
    rw [isRoomy, Bool.and_eq_true, ← link_step] at hroom
    exact ih (inv_step hi e) (tailed_step hi h e hroom.1) hroom.2

/-- what lies ahead of a client is the end of the stream, and all of it if nobody was stored before -/
theorem Tailed.exists_taken {l : Link} {attached : List Nat} {stream : Bytes} (h : Tailed l attached stream)
    (client : Nat) : ∃ taken, stream = taken ++ l.ahead client ∧ (attached = [] → taken = []) := by
  obtain ⟨taken, htaken⟩ : l.ahead client <:+ stream := by
    refine List.IsSuffix.trans ?_ h.suffix
    rw [ahead]
    cases hp : l.sender with
    | write bs c =>
      by_cases hc : c = client
      · simp [SenderPoint.chunk, hc]
      · simp [hc]
    | take | look | shut | exited => exact List.suffix_rfl
  refine ⟨taken, htaken.symm, fun hnil => ?_⟩
  have hlen := congrArg List.length htaken
  rw [← h.whole hnil, ahead, List.length_append, List.length_append] at hlen
  rw [← List.length_eq_zero_iff]
  omega

/-! ## From the storing on -/

/-- behind the events `before` the receiver stores the client -/
structure Stores (l : Link) (client : Nat) (before : List Link.Event) : Prop where
  point : (l.steps before).receiver = .store client
  slot : ((l.steps before).step .receive).slot = some client

theorem eq_of_mem_storing {l l' : Link} (h : client ∈ storing l l') :
    storing l l' = [client] ∧ l.receiver = .store client := by
  unfold storing at h ⊢
  split at h
  · next hp _ =>
    obtain rfl := List.mem_singleton.1 h
    exact ⟨rfl, hp⟩
  · cases h

theorem stores_of_mem_storing {l : Link} {before : List Link.Event}
    (h : client ∈ storing (l.steps before) ((l.steps before).step .receive)) : Stores l client before := by
  obtain ⟨hstoring, hpoint⟩ := eq_of_mem_storing h
  refine ⟨hpoint, ?_⟩
  rcases Link.step_receive (l.steps before) with ⟨-, hp | hp | ⟨c, hp⟩⟩ | hs
  · cases hpoint.symm.trans hp
  · cases hpoint.symm.trans hp
  · cases hpoint.symm.trans hp
  · obtain ⟨-, ⟨hnone, -⟩ | ⟨next, hnext, -, hslot⟩⟩ := stored_of_received hs
    · cases hnone.symm.trans hstoring
    · rw [hslot, List.singleton_inj.1 (hnext.symm.trans hstoring)]

/-- whoever was stored was stored at some step, behind those who were stored before -/
theorem exists_stores (t : Delivery) {es : List Link.Event} (hc : client ∈ (t.steps es).attached) :
    client ∈ t.attached ∨ ∃ before after next, es = before ++ .receive :: after ∧ Stores t.link client before ∧
      (t.steps es).attached = (t.steps before).attached ++ client :: next := by
  induction es using List.reverseRecOn with
  | nil => exact .inl hc
  | append_singleton es e ih =>
    have hstep : (t.steps (es ++ [e])).attached =
        (t.steps es).attached ++ if e = .receive then storing (t.link.steps es) ((t.link.steps es).step e) else [] := by
      rw [steps, List.foldl_append, ← link_steps]
      exact attached_step (t.steps es) e
    rw [hstep, List.mem_append] at hc
    rcases hc with hc | hc
    · refine (ih hc).imp_right ?_
      rintro ⟨before, after, next, rfl, hstores, hattached⟩
      exact ⟨before, after ++ [e], _, by simp, hstores, by rw [hstep, hattached, List.append_assoc]; rfl⟩
    · split_ifs at hc with he
      · subst he
        rw [if_pos rfl, (eq_of_mem_storing hc).1] at hstep
        exact .inr ⟨es, [], [], rfl, stores_of_mem_storing hc, hstep⟩
      · cases hc

/-- **From its storing on a client stands to what lay ahead of it, and to what is pushed since.** -/
theorem course_of_stores (hi : Inv t) {before after : List Link.Event} (hs : Stores t.link client before)
    (hnew : client ∉ (t.steps before).attached) (hroom : t.link.isRoomy (before ++ .receive :: after) = true) :
    (t.link.steps (before ++ .receive :: after)).Course client
      ((t.link.steps before).ahead client ++ after.flatMap pushedBy) := by
  have hinv : Inv (t.steps before) := inv_steps hi before
  have hlink : (t.steps before).link = t.link.steps before := link_steps t before
  rw [Link.isRoomy_append, isRoomy, Bool.and_eq_true, Bool.and_eq_true] at hroom
  have hslot : ((t.steps before).step .receive).link.slot = some client := by
    rw [link_step, hlink]
    exact hs.slot
  have hinv' := inv_step hinv .receive
  have hcourse : ((t.steps before).step .receive).link.Course client ((t.link.steps before).ahead client) := by
    refine .goesOn (.inl hslot) ?_
    rw [link_step, ahead_step hinv (by decide) rfl, (Link.kept_step _ (by decide)).1,
      written_of_not_attached hinv hnew, hlink]
    exact List.append_nil _
  have hafter : ((t.steps before).step .receive).link.isRoomy after = true := by
    rw [link_step, hlink]
    exact hroom.2.2
  have hrun := course_steps hinv' (hinv'.roster.le_slot hslot).1 hcourse hafter
  rw [link_step, hlink] at hrun
  rw [Link.steps_append]
  exact hrun

/-- so it gets the beginning of that -/
theorem written_of_stores (hi : Inv t) {before after : List Link.Event} (hs : Stores t.link client before)
    (hnew : client ∉ (t.steps before).attached) (hroom : t.link.isRoomy (before ++ .receive :: after) = true) :
    (t.link.steps (before ++ .receive :: after)).written client <+:
      (t.link.steps before).ahead client ++ after.flatMap pushedBy := by
  cases course_of_stores hi hs hnew hroom with
  | goesOn _ rest => exact ⟨_, rest⟩
  | past _ part => exact part

/-- **Every client goes on where the sender has come to.** Take a new link and any events at it, in any order, such that
whole frames are pushed and no push finds less room than it needs. Who was never stored in the slot has got nothing. Who
was stored has got the beginning of what lay ahead of it then and of what was pushed since; that is the stream of pushed
bytes without what the sender had taken before, and for the first client the sender had taken nothing. The cut between
what was taken and the rest is one between two frames, or it is within one frame, of which the sender had taken the
beginning. In the first case a fresh decoder, however the bytes of the client come in, finds the frames behind the cut,
in order, as far as they are whole, and nothing else. In the second case a decoder to which the rest of the frame is
garbage finds the frames behind that one. -/
theorem client_continues_stream {config : LinkConfig} {l : Link} (hl : Link.ofConfig? config = some l)
    {es : List Link.Event} {fs : List Frame} (hf : ∀ f ∈ fs, f.Fits) (hpushes : pushes es = fs.map Frame.wire)
    (hroom : l.isRoomy es = true) :
    let t := steps { link := l } es
    (∀ client, client ∉ t.attached → (l.steps es).written client = []) ∧
      ∀ client ∈ t.attached, ∃ before after prior next, es = before ++ .receive :: after ∧ Stores l client before ∧
        t.attached = prior ++ client :: next ∧ ∃ taken earlier later part,
          let due := (l.steps before).ahead client ++ after.flatMap pushedBy
          before.flatMap pushedBy = taken ++ (l.steps before).ahead client ∧ (prior = [] → taken = []) ∧
            (l.steps es).written client <+: due ∧ fs = earlier ++ later ∧ Frame.Cut earlier later part taken due ∧
            ∀ pieces, pieces.flatten = (l.steps es).written client →
              (part = [] → (Decoder.fresh.decodeAll pieces).2 <+: later) ∧
              ∀ f ∈ later.head?, Garbage (f.wire.drop part.length) →
                (Decoder.fresh.decodeAll pieces).2 <+: later.tail := by
  intro t
  have hinv : Inv { link := l } := inv_start hl
  have hend : Inv t := inv_steps hinv es
  have hlink : t.link = l.steps es := link_steps { link := l } es
  refine ⟨fun client hc => hlink ▸ written_of_not_attached hend hc, fun client hc => ?_⟩
  obtain hc | ⟨before, after, next, rfl, hstores, hattached⟩ := exists_stores { link := l } hc
  · cases hc
  refine ⟨before, after, _, next, rfl, hstores, hattached, ?_⟩
  have hnew : client ∉ (steps { link := l } before).attached := by
    have hordered : t.attached.Pairwise (· < ·) := hend.roster.attached_lt
    rw [hattached, List.pairwise_append] at hordered
    exact fun hm => absurd (hordered.2.2 client hm client List.mem_cons_self) (Nat.lt_irrefl _)
  have hwritten := written_of_stores hinv hstores hnew hroom
  rw [Link.isRoomy_append, Bool.and_eq_true] at hroom
  have htailed := tailed_steps hinv (tailed_start hl) hroom.1
  obtain ⟨taken, hpushed, hfirst⟩ := htailed.exists_taken client
  rw [pushed_steps, link_steps] at hpushed
  have htaken : before.flatMap pushedBy = taken ++ (l.steps before).ahead client := hpushed
  have hstream : (fs.map Frame.wire).flatten = taken ++ ((l.steps before).ahead client ++ after.flatMap pushedBy) :=
    calc (fs.map Frame.wire).flatten
      _ = (before ++ .receive :: after).flatMap pushedBy := by rw [Link.flatMap_pushedBy, hpushes]
      _ = before.flatMap pushedBy ++ after.flatMap pushedBy := by
        rw [List.flatMap_append, List.flatMap_cons]
        rfl
      _ = taken ++ ((l.steps before).ahead client ++ after.flatMap pushedBy) := by rw [htaken, List.append_assoc]
  obtain ⟨earlier, later, part, rfl, hcut⟩ := Frame.exists_cut hstream
  refine ⟨taken, earlier, later, part, htaken, hfirst, hwritten, rfl, hcut, fun pieces hpieces => ?_⟩
  exact Decoder.frames_of_cut hcut (fun f hm => hf f (List.mem_append_right _ hm)) (hpieces ▸ hwritten)

/-- of two frames the first client gets six bytes and leaves; the second one gets the rest of the first frame, which is
garbage, and the second frame -/
theorem client_continues_stream_after_leaver :
    let config : LinkConfig := { sendBuffer := 32, sendChunk := 6 }
    let fs : List Frame := [⟨3, [7, 8, 9]⟩, ⟨1, [0x41]⟩]
    let es : List Link.Event := [.dial, .receive, .receive, .receive, .push [0x54, 0xF0, 3, 3, 0, 7, 8, 9], .send,
      .send, .send, .endSending 0, .receive, .receive, .receive, .receive, .receive, .receive, .receive,
      .push [0x54, 0xF0, 1, 1, 0, 0x41], .dial, .receive, .receive, .receive, .send, .send, .send, .send, .send, .send]
    ∃ l, Link.ofConfig? config = some l ∧ (∀ f ∈ fs, f.Fits) ∧ pushes es = fs.map Frame.wire ∧ l.isRoomy es = true ∧
      (steps { link := l } es).attached = [0, 1] ∧ (l.steps es).written 1 = [8, 9, 0x54, 0xF0, 1, 1, 0, 0x41] ∧
      ∃ (before after : List Link.Event) (taken : Bytes) (earlier later : List Frame) (part : Bytes),
        let due := (l.steps before).ahead 1 ++ after.flatMap pushedBy
        Stores l 1 before ∧ (l.steps es).written 1 <+: due ∧ fs = earlier ++ later ∧
          Frame.Cut earlier later part taken due := by
  intro config fs es
  obtain ⟨l, hl⟩ : ∃ l, Link.ofConfig? config = some l := ⟨_, rfl⟩
  have hf : ∀ f ∈ fs, f.Fits := by simp [fs, Frame.Fits, Frame.maxPayload]
  have hpushes : pushes es = fs.map Frame.wire := by decide
  have hroom : l.isRoomy es = true := by
    obtain rfl := Option.some.inj hl
    decide
  obtain ⟨-, hall⟩ := client_continues_stream hl hf hpushes hroom
  have hattached : (steps { link := l } es).attached = [0, 1] := by
    obtain rfl := Option.some.inj hl
    decide
  obtain ⟨before, after, -, -, -, hstores, -, taken, earlier, later, part, -, -, hwritten, hfs, hcut, -⟩ :=
    hall 1 (by rw [hattached]; decide)
  refine ⟨l, hl, hf, hpushes, hroom, hattached, ?_, before, after, taken, earlier, later, part, hstores, hwritten, hfs,
    hcut⟩
  obtain rfl := Option.some.inj hl
  decide

/-- **A client may begin within a frame, and see a frame there that nobody sent.** The first client leaves after four
bytes of a log frame whose text has the wire form of a command; the second one goes on behind them. -/
theorem client_begins_within_frame :
    let config : LinkConfig := { sendBuffer := 32, sendChunk := 4 }
    let fs : List Frame := [⟨1, [0x54, 0xF0, 2, 1, 0, 0x41]⟩]
    let es : List Link.Event := [.dial, .receive, .receive, .receive,
      .push [0x54, 0xF0, 1, 6, 0, 0x54, 0xF0, 2, 1, 0, 0x41], .send, .send, .send, .endSending 0, .receive, .receive,
      .receive, .receive, .receive, .receive, .receive, .dial, .receive, .receive, .receive, .send, .send, .send, .send,
      .send, .send]
    ∃ l, Link.ofConfig? config = some l ∧ (∀ f ∈ fs, f.Fits) ∧ pushes es = fs.map Frame.wire ∧ l.isRoomy es = true ∧
      (l.steps es).written 0 = [0x54, 0xF0, 1, 6] ∧ (l.steps es).written 1 = [0, 0x54, 0xF0, 2, 1, 0, 0x41] ∧
      (∀ f ∈ fs, ((l.steps es).written 1).head? ≠ f.wire.head?) ∧
      (Decoder.fresh.decode ((l.steps es).written 1)).2 = [⟨2, [0x41]⟩] ∧ (⟨2, [0x41]⟩ : Frame) ∉ fs := by
  intro config fs es
  refine ⟨_, rfl, by simp [fs, Frame.Fits, Frame.maxPayload], ?_⟩
  decide

end Delivery

end RemoteShutter
