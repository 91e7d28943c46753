/-
What the handler is told.

A `Reception` notes, next to a link, the calls of the handler and the bytes that were read in each session. A session is
open from the greeting of its client to the farewell.
- `Session.calls`: what the handler should be told of a session, out of the client and the bytes read alone.
- `Serving`: between sessions the decoder is idle, and the calls are those of the sessions so far. Within a session the
  calls go on with the greeting and with the frames that are already handed over.
- `sessions_apart`: the calls are, session by session, those of `Session.calls`.

A decoder that is reset keeps the type and the low size byte of the last header. It is `Decoder.frames_of_idle` that
makes this no matter.
-/
import RemoteShutter.Proofs.Decoder.Grammar
import RemoteShutter.Proofs.Link.Steps

namespace RemoteShutter

/-! ## Sessions -/

/-- a call of the handler; a greeting names the client -/
inductive Call where
  | connected (client : Nat)
  | frame (f : Frame)
  | disconnected
  deriving DecidableEq, Repr

def Call.event : Call → LinkEvent
  | connected _ => .connected
  | frame f => .frame f
  | disconnected => .disconnected

structure Session where
  client : Nat
  /-- what each read has given -/
  reads : List Bytes := []
  deriving DecidableEq, Repr

namespace Session

def received (s : Session) : Bytes :=
  s.reads.flatten

/-- the frames that a fresh decoder finds in what was received -/
def frames (s : Session) : List Frame :=
  (Decoder.fresh.decode s.received).2

/-- what the handler is told of the session -/
def calls (s : Session) : List Call :=
  .connected s.client :: s.frames.map .frame ++ [.disconnected]

/-- the client, and what it was heard to say -/
def seen (s : Session) : Nat × Bytes :=
  (s.client, s.received)

def read (s : Session) (bs : Bytes) : Session :=
  { s with reads := s.reads ++ [bs] }

theorem received_read (s : Session) (bs : Bytes) : (s.read bs).received = s.received ++ bs := by
  simp [received, read]

theorem frames_eq_feed (s : Session) : s.frames = (Decoder.fresh.feed s.received).2 := by
  rw [frames, Decoder.decode_eq_feed Decoder.wf_fresh]

end Session

/-- the client that is served, with the frames that are still to be handed over -/
def ReceiverPoint.serving? : ReceiverPoint → Option (Nat × List Frame)
  | hand client fs => some (client, fs)
  | read client | detach client | vacate client | shut client | farewell client => some (client, [])
  | _ => none

/-- what a read of the client's stream would give -/
def Link.offered (l : Link) (client : Nat) : Bytes :=
  (l.streams[client]?.map fun s => (s.read l.recvChunk).1.got).getD []

/-! ## The record -/

structure Reception where
  link : Link
  /-- the sessions that are over -/
  past : List Session := []
  current : Option Session := none
  calls : List Call := []

namespace Reception

def receive (t : Reception) : Reception :=
  let next := t.link.step .receive
  match t.link.receiver, next.receiver with
  | .greet client, _ =>
    { t with link := next, current := some { client := client }, calls := t.calls ++ [.connected client] }
  | .read client, .hand _ _ => { t with link := next, current := t.current.map (·.read (t.link.offered client)) }
  | .hand _ (f :: _), _ => { t with link := next, calls := t.calls ++ [.frame f] }
  | .farewell _, _ =>
    { t with link := next, past := t.past ++ t.current.toList, current := none, calls := t.calls ++ [.disconnected] }
  | _, _ => { t with link := next }

def step (t : Reception) : Link.Event → Reception
  | .receive => t.receive
  | e => { t with link := t.link.step e }

def steps (t : Reception) (es : List Link.Event) : Reception :=
  es.foldl step t

/-- what a step of the receiver does to the record -/
inductive Receives (t : Reception) : Reception → Prop where
  | greets {l' : Link} {client : Nat} (point : t.link.receiver = .greet client) (now : l'.receiver = .read client)
      (decoder : l'.decoder = t.link.decoder) (events : l'.events = t.link.events ++ [.connected]) :
      Receives t { t with link := l', current := some { client := client }, calls := t.calls ++ [.connected client] }
  | reads {l' : Link} {client : Nat} {bs : Bytes} (point : t.link.receiver = .read client)
      (now : l'.receiver = .hand client (t.link.decoder.decode bs).2)
      (decoder : l'.decoder = (t.link.decoder.decode bs).1) (events : l'.events = t.link.events)
      (room : 0 < t.link.recvChunk → 1 ≤ bs.length ∧ bs.length ≤ t.link.recvChunk) :
      Receives t { t with link := l', current := t.current.map (·.read bs) }
  | hands {l' : Link} {client : Nat} {f : Frame} {fs : List Frame} (point : t.link.receiver = .hand client (f :: fs))
      (now : l'.receiver = .hand client fs) (decoder : l'.decoder = t.link.decoder)
      (events : l'.events = t.link.events ++ [.frame f]) :
      Receives t { t with link := l', calls := t.calls ++ [.frame f] }
  | leaves {l' : Link} {client : Nat} (point : t.link.receiver = .farewell client) (now : l'.receiver = .check)
      (decoder : l'.decoder = t.link.decoder.reset) (events : l'.events = t.link.events ++ [.disconnected]) :
      Receives t { t with
        link := l', past := t.past ++ t.current.toList, current := none, calls := t.calls ++ [.disconnected] }
  /-- it waits, or moves on where the handler is not told anything -/
  | moves {l' : Link} (now : l'.receiver.serving? = t.link.receiver.serving?) (decoder : l'.decoder = t.link.decoder)
      (events : l'.events = t.link.events) : Receives t { t with link := l' }

theorem receives_of_received {t : Reception} {l' : Link} (hstep : t.link.step .receive = l')
    (hs : Link.Received t.link l') : Receives t t.receive := by
  simp only [receive, hstep]
  cases hs with
  | greets hp =>
    simp only [hp]
    exact .greets hp rfl rfl rfl
  | @reads client s bs hp hstream hresult =>
    have hoffered : t.link.offered client = bs := by simp [Link.offered, hstream, hresult, ReadResult.got]
    simp only [hp, hoffered]
    exact .reads hp rfl rfl rfl fun hroom => Stream.length_of_read hroom hresult
  | hands hp =>
    simp only [hp]
    exact .hands hp rfl rfl rfl
  | leaves hp =>
    simp only [hp]
    exact .leaves hp rfl rfl rfl
  | returns hp =>
    rcases hp with hp | hp <;> simp only [hp] <;> exact .moves (by rw [hp]; rfl) rfl rfl
  | exits hp =>
    rcases hp with hp | hp | ⟨client, hp⟩ <;> simp only [hp] <;> exact .moves (by rw [hp]; rfl) rfl rfl
  | interrupted hp =>
    simp only [hp, Link.updateStream]
    exact .moves (by rw [hp]) rfl rfl
  | acceptFails hp | accepts hp | stores hp | attaches hp | ends hp | misses hp | handed hp | detaches hp | vacates hp
  | shuts hp =>
    simp only [hp]
    exact .moves (by rw [hp]; rfl) rfl rfl

theorem receives (t : Reception) : Receives t t.receive := by
  rcases Link.step_receive t.link with ⟨hstep, hp⟩ | hs
  · have hreceive : t.receive = { t with link := t.link } := by
      rcases hp with hp | hp | ⟨client, hp⟩ <;> simp only [receive, hstep, hp]
    rw [hreceive]
    exact .moves rfl rfl rfl
  · exact receives_of_received rfl hs

theorem link_step (t : Reception) (e : Link.Event) : (t.step e).link = t.link.step e := by
  cases e with
  | receive =>
    simp only [step, receive]
    split <;> rfl
  | _ => rfl

/-! ## Within and between sessions -/

variable {t : Reception}

inductive Serving (t : Reception) : Prop where
  | between (point : t.link.receiver.serving? = none) (current : t.current = none)
      (idle : t.link.decoder.phase = .magic1) (calls : t.calls = t.past.flatMap Session.calls)
  /-- `told` are the frames handed over; `d` is the decoder that the session began with -/
  | within {s : Session} {d : Decoder} {told unhanded : List Frame}
      (point : t.link.receiver.serving? = some (s.client, unhanded)) (current : t.current = some s)
      (idle : d.phase = .magic1) (decoder : t.link.decoder = (d.feed s.received).1)
      (frames : told ++ unhanded = (d.feed s.received).2)
      (calls : t.calls = t.past.flatMap Session.calls ++ .connected s.client :: told.map .frame)

structure Inv (t : Reception) : Prop where
  wf : t.link.decoder.Wf
  room : 0 < t.link.recvChunk
  events : t.link.events = t.calls.map Call.event
  reads : ∀ s ∈ t.past ++ t.current.toList, ∀ bs ∈ s.reads, 1 ≤ bs.length ∧ bs.length ≤ t.link.recvChunk
  serving : Serving t

/-- what was handed over, with what is still to be, is what a fresh decoder finds -/
theorem told_append_unhanded {s : Session} {d : Decoder} {told unhanded : List Frame} (hd : d.phase = .magic1)
    (h : told ++ unhanded = (d.feed s.received).2) : told ++ unhanded = s.frames := by
  rw [h, Decoder.frames_of_idle hd, s.frames_eq_feed]

/-- **A step of the receiver keeps to the sessions.** -/
theorem serving_receives (hw : t.link.decoder.Wf) (h : Serving t) {t' : Reception} (hs : Receives t t') :
    Serving t' := by
  cases hs with
  | moves hnow hdecoder =>
    cases h with
    | between hp hc hidle hcalls => exact .between (hnow.trans hp) hc (hdecoder ▸ hidle) hcalls
    | within hp hc hidle hd hframes hcalls => exact .within (hnow.trans hp) hc hidle (hdecoder.trans hd) hframes hcalls
  | @greets l' client hp hnow hdecoder =>
    cases h with
    | between _ hc hidle hcalls =>
      -- the decoder may remember a header of an earlier session
      have hframes : [] ++ [] = (t.link.decoder.feed (Session.received { client := client })).2 := rfl
      refine .within (by rw [hnow]; rfl) rfl hidle hdecoder hframes ?_
      exact congrArg (· ++ [Call.connected client]) hcalls
    | within hp' => rw [hp] at hp'; cases hp'
  | @reads l' client bs hp hnow hdecoder =>
    cases h with
    | between hp' => rw [hp] at hp'; cases hp'
    | @within s d told unhanded hp' hc hidle hd hframes hcalls =>
      rw [hp] at hp'
      obtain ⟨rfl, rfl⟩ : client = s.client ∧ [] = unhanded := Prod.mk.inj (Option.some.inj hp')
      have hfed : d.feed (s.read bs).received =
          ((t.link.decoder.decode bs).1, told ++ (t.link.decoder.decode bs).2) := by
        rw [s.received_read, Decoder.feed_append, ← hd, ← hframes, List.append_nil, Decoder.decode_eq_feed hw]
      have hnext : t.current.map (·.read bs) = some (s.read bs) := by rw [hc]; rfl
      exact .within (by rw [hnow]; rfl) hnext hidle (hdecoder.trans (congrArg Prod.fst hfed).symm)
        (congrArg Prod.snd hfed).symm hcalls
  | @hands l' client f fs hp hnow hdecoder =>
    cases h with
    | between hp' => rw [hp] at hp'; cases hp'
    | @within s d told unhanded hp' hc hidle hd hframes hcalls =>
      rw [hp] at hp'
      obtain ⟨rfl, rfl⟩ : client = s.client ∧ f :: fs = unhanded := Prod.mk.inj (Option.some.inj hp')
      have htold : (told ++ [f]) ++ fs = (d.feed s.received).2 := by
        rw [List.append_assoc]
        exact hframes
      refine .within (by rw [hnow]; rfl) hc hidle (hdecoder.trans hd) htold ?_
      rw [hcalls]
      simp
  | @leaves l' client hp hnow hdecoder =>
    cases h with
    | between hp' => rw [hp] at hp'; cases hp'
    | @within s d told unhanded hp' hc hidle hd hframes hcalls =>
      rw [hp] at hp'
      obtain ⟨-, rfl⟩ : client = s.client ∧ [] = unhanded := Prod.mk.inj (Option.some.inj hp')
      have htold : told = s.frames := by rw [← told_append_unhanded hidle hframes, List.append_nil]
      refine .between ?_ rfl ?_ ?_
      · rw [hnow]; rfl
      · rw [hdecoder]; rfl
      · rw [hcalls, hc, htold]
        simp [Session.calls]

theorem inv_receives (h : Inv t) {t' : Reception} (hs : Receives t t') (hn : t'.link.recvChunk = t.link.recvChunk) :
    Inv t' := by
  have hserving := serving_receives h.wf h.serving hs
  cases hs with
  | moves hnow hdecoder hevents =>
    exact ⟨hdecoder ▸ h.wf, hn ▸ h.room, hevents.trans h.events, hn ▸ h.reads, hserving⟩
  | greets hp hnow hdecoder hevents =>
    refine ⟨hdecoder ▸ h.wf, hn ▸ h.room, ?_, fun s hm => ?_, hserving⟩
    · rw [hevents, h.events, List.map_append]
      rfl
    · rcases List.mem_append.1 hm with hm | hm
      · exact hn ▸ h.reads s (List.mem_append_left _ hm)
      · obtain rfl := List.mem_singleton.1 hm
        exact fun bs hbs => absurd hbs List.not_mem_nil
  | @reads l' client bs hp hnow hdecoder hevents hroom =>
    refine ⟨hdecoder ▸ Decoder.wf_decode h.wf bs, hn ▸ h.room, hevents.trans h.events, fun s hm => ?_, hserving⟩
    rcases List.mem_append.1 hm with hm | hm
    · exact hn ▸ h.reads s (List.mem_append_left _ hm)
    · obtain ⟨s', hs', rfl⟩ := Option.map_eq_some_iff.1 (Option.mem_toList.1 hm)
      intro bs' hbs'
      rw [show l'.recvChunk = t.link.recvChunk from hn]
      rcases List.mem_append.1 hbs' with hbs' | hbs'
      · exact h.reads s' (List.mem_append_right _ (Option.mem_toList.2 hs')) bs' hbs'
      · exact List.mem_singleton.1 hbs' ▸ hroom h.room
  | hands hp hnow hdecoder hevents =>
    refine ⟨hdecoder ▸ h.wf, hn ▸ h.room, ?_, hn ▸ h.reads, hserving⟩
    rw [hevents, h.events, List.map_append]
    rfl
  | leaves hp hnow hdecoder hevents =>
    refine ⟨hdecoder ▸ Decoder.wf_reset _, hn ▸ h.room, ?_, fun s hm => ?_, hserving⟩
    · rw [hevents, h.events, List.map_append]
      rfl
    · rw [Option.toList_none, List.append_nil] at hm
      exact hn ▸ h.reads s hm

theorem inv_step (h : Inv t) (e : Link.Event) : Inv (t.step e) := by
  by_cases he : e = .receive
  · subst he
    exact inv_receives h (receives t) (by rw [← t.link.recvChunk_step .receive, ← link_step])
  · obtain ⟨hreceiver, hdecoder, hevents, hchunk⟩ := t.link.kept_of_ne_receive he
    have hstep : t.step e = { t with link := t.link.step e } := by
      cases e with
      | receive => exact absurd rfl he
      | _ => rfl
    exact inv_receives h (hstep ▸ .moves (by rw [hreceiver]) hdecoder hevents) (by rw [link_step, hchunk])

theorem inv_steps (h : Inv t) (es : List Link.Event) : Inv (t.steps es) := by
  induction es generalizing t with
  | nil => exact h
  | cons e es ih => exact ih (inv_step h e)

theorem inv_start {c : LinkConfig} {l : Link} (hl : Link.ofConfig? c = some l) : Inv { link := l } := by
  obtain ⟨q, -, rfl⟩ := Option.map_eq_some_iff.1 hl
  exact ⟨Decoder.wf_fresh, Nat.le_max_right _ _, rfl, fun s hs => absurd hs List.not_mem_nil, .between rfl rfl rfl rfl⟩

theorem link_steps (t : Reception) (es : List Link.Event) : (t.steps es).link = t.link.steps es :=
  (List.foldl_hom link fun t e => (link_step t e).symm).symm

/-! ## Brackets -/

/-- greetings and farewells alternate, and frames come within; `isOpen` tells where the calls begin -/
def Bracketed (isOpen : Bool) : List Call → Prop
  | [] => True
  | .connected _ :: cs => isOpen = false ∧ Bracketed true cs
  | .frame _ :: cs => isOpen = true ∧ Bracketed true cs
  | .disconnected :: cs => isOpen = true ∧ Bracketed false cs

theorem bracketed_frames (fs : List Frame) (cs : List Call) :
    Bracketed true (fs.map Call.frame ++ cs) ↔ Bracketed true cs := by
  induction fs with
  | nil => rfl
  | cons f fs ih => exact (and_iff_right rfl).trans ih

theorem bracketed_sessions (ss : List Session) (cs : List Call) :
    Bracketed false (ss.flatMap Session.calls ++ cs) ↔ Bracketed false cs := by
  induction ss with
  | nil => rfl
  | cons s ss ih =>
    have hcalls : (s :: ss).flatMap Session.calls ++ cs =
        .connected s.client :: (s.frames.map .frame ++ .disconnected :: (ss.flatMap Session.calls ++ cs)) := by
      simp [Session.calls]
    rw [hcalls]
    simpa only [Bracketed, true_and, bracketed_frames] using ih

theorem Serving.calls_eq (h : Serving t) (hnone : t.current = none) : t.calls = t.past.flatMap Session.calls := by
  cases h with
  | between _ _ _ hcalls => exact hcalls
  | within _ hc => cases hnone.symm.trans hc

/-- of an open session the handler has been told the beginning -/
theorem Serving.open_session (h : Serving t) {s : Session} (hs : t.current = some s) :
    ∃ told unhanded, t.link.receiver.serving? = some (s.client, unhanded) ∧ told ++ unhanded = s.frames ∧
      t.calls = t.past.flatMap Session.calls ++ .connected s.client :: told.map .frame := by
  cases h with
  | between _ hc => cases hc.symm.trans hs
  | within hp hc hidle _ hframes hcalls =>
    obtain rfl := Option.some.inj (hc.symm.trans hs)
    exact ⟨_, _, hp, told_append_unhanded hidle hframes, hcalls⟩

theorem Serving.bracketed (h : Serving t) : Bracketed false t.calls := by
  cases h with
  | between _ _ _ hcalls =>
    rw [hcalls, ← List.append_nil (t.past.flatMap _), bracketed_sessions]
    trivial
  | @within s d told unhanded _ _ _ _ _ hcalls =>
    rw [hcalls, bracketed_sessions, ← List.append_nil (told.map _)]
    exact ⟨rfl, (bracketed_frames told []).2 trivial⟩

/-- the calls of sessions are told by who was served and what was received -/
theorem calls_congr {ss ss' : List Session} (h : ss.map Session.seen = ss'.map Session.seen) :
    ss.flatMap Session.calls = ss'.flatMap Session.calls := by
  have hcalls : ∀ ss : List Session, ss.flatMap Session.calls = (ss.map Session.seen).flatMap fun p =>
      .connected p.1 :: (Decoder.fresh.decode p.2).2.map .frame ++ [.disconnected] := by
    intro ss
    rw [List.flatMap_map]
    rfl
  rw [hcalls, hcalls, h]

/-- a session that gets no more bytes is over after four steps of the receiver -/
theorem past_of_detach (h : Serving t) {client : Nat} (hp : t.link.receiver = .detach client) :
    ∃ s, t.current = some s ∧ s.client = client ∧
      let t' := t.steps (List.replicate 4 .receive)
      t'.past = t.past ++ [s] ∧ t'.current = none := by
  cases h with
  | between hp' => rw [hp] at hp'; cases hp'
  | @within s d told unhanded hp' hc =>
    rw [hp] at hp'
    obtain ⟨rfl, -⟩ : client = s.client ∧ [] = unhanded := Prod.mk.inj (Option.some.inj hp')
    refine ⟨s, hc, rfl, ?_⟩
    simp [List.replicate, steps, step, receive, Link.step, Link.receive?, hp, hc, Link.receiveAt, Link.updateStream]

/-- **Sessions do not leak into each other.** Take a new link and any events at it: clients that come, send in any
pieces, stop and fail in any way, reads that are interrupted, and a stop at any time. The calls of the handler are,
session by session, the greeting of the client, the frames that a fresh decoder finds in the bytes read in that session,
and the farewell; of the session that is open, the beginning of these. Each read gives at least one byte, and no more
than it may. Greetings and farewells alternate, with the frames between them. A session whose reading is over gets its
farewell by the next four steps of the receiver. And what is told of sessions is the same in two runs where the same
clients have sent the same bytes, whatever came before, in whichever pieces the bytes were read, and whatever the size
of a read. -/
theorem sessions_apart {c : LinkConfig} {l : Link} (hl : Link.ofConfig? c = some l) (es : List Link.Event) :
    let t := steps { link := l } es
    t.link = l.steps es ∧ t.link.events = t.calls.map Call.event ∧
      (t.current = none → t.calls = t.past.flatMap Session.calls) ∧
      (∀ s, t.current = some s → ∃ told unhanded, t.link.receiver.serving? = some (s.client, unhanded) ∧
        told ++ unhanded = s.frames ∧
        t.calls = t.past.flatMap Session.calls ++ .connected s.client :: told.map .frame) ∧
      (∀ s ∈ t.past ++ t.current.toList, ∀ bs ∈ s.reads, 1 ≤ bs.length ∧ bs.length ≤ max c.recvChunk 1) ∧
      Bracketed false t.calls ∧
      (∀ client, t.link.receiver = .detach client → ∃ s, t.current = some s ∧ s.client = client ∧
        let t' := t.steps (List.replicate 4 .receive)
        t'.past = t.past ++ [s] ∧ t'.current = none) ∧
      ∀ {c' : LinkConfig} {l' : Link}, Link.ofConfig? c' = some l' → ∀ es',
        let t' := steps { link := l' } es'
        t.current = none → t'.current = none →
          ∀ earlier ss earlier' ss', t.past = earlier ++ ss → t'.past = earlier' ++ ss' →
            ss.map Session.seen = ss'.map Session.seen →
              ∃ later, t.calls = earlier.flatMap Session.calls ++ later ∧
                t'.calls = earlier'.flatMap Session.calls ++ later := by
  intro t
  have hinv : Inv t := inv_steps (inv_start hl) es
  have hlink : t.link = l.steps es := link_steps { link := l } es
  have hchunk : t.link.recvChunk = max c.recvChunk 1 := by
    obtain ⟨q, -, rfl⟩ := Option.map_eq_some_iff.1 hl
    rw [hlink, Link.recvChunk_steps]
  refine ⟨hlink, hinv.events, hinv.serving.calls_eq, fun s hs => hinv.serving.open_session hs, hchunk ▸ hinv.reads,
    hinv.serving.bracketed, fun client hp => past_of_detach hinv.serving hp, ?_⟩
  intro c' l' hl' es' t' hnone hnone' earlier ss earlier' ss' hpast hpast' hseen
  have hinv' : Inv t' := inv_steps (inv_start hl') es'
  refine ⟨ss.flatMap Session.calls, ?_, ?_⟩
  · rw [hinv.serving.calls_eq hnone, hpast, List.flatMap_append]
  · rw [hinv'.serving.calls_eq hnone', hpast', List.flatMap_append, calls_congr hseen]

/-- a client leaves in the middle of a frame, with a read interrupted before, and the next one sends a whole frame;
another server, with other reads, whose first client has sent nothing, is told the same of the second one -/
theorem sessions_apart_cut_frame :
    let config : LinkConfig := { sendBuffer := 4, recvChunk := 4 }
    let config' : LinkConfig := { sendBuffer := 4, recvChunk := 9 }
    let frame : Bytes := [0x54, 0xF0, 6, 1, 0, 0x62]
    let es : List Link.Event := [.dial, .receive, .receive, .receive, .receive,
      .arrive 0 [0x54, 0xF0, 5, 2, 0, 0x61], .receive, .receive, .failRead 0 .interrupted, .receive, .receive, .receive,
      .endSending 0, .receive, .receive, .receive, .receive, .receive, .receive, .dial, .receive, .receive, .receive,
      .receive, .arrive 1 frame, .receive, .receive, .receive, .receive, .receive, .reset 1, .receive, .receive,
      .receive, .receive, .receive]
    let es' : List Link.Event := [.dial, .receive, .receive, .receive, .receive, .reset 0, .receive, .receive, .receive,
      .receive, .receive, .receive, .dial, .receive, .receive, .receive, .receive, .arrive 1 frame, .receive, .receive,
      .receive, .endSending 1, .receive, .receive, .receive, .receive, .receive]
    ∃ l l', Link.ofConfig? config = some l ∧ Link.ofConfig? config' = some l' ∧
      let t := steps { link := l } es
      let t' := steps { link := l' } es'
      t.calls = [.connected 0, .disconnected, .connected 1, .frame ⟨6, [0x62]⟩, .disconnected] ∧
        t.calls = t.past.flatMap Session.calls ∧
        ∃ later, t.calls = (t.past.take 1).flatMap Session.calls ++ later ∧
          t'.calls = (t'.past.take 1).flatMap Session.calls ++ later := by
  intro config config' frame es es'
  obtain ⟨l, hl⟩ : ∃ l, Link.ofConfig? config = some l := ⟨_, rfl⟩
  obtain ⟨l', hl'⟩ : ∃ l, Link.ofConfig? config' = some l := ⟨_, rfl⟩
  obtain ⟨-, -, hcalls, -, -, -, -, htwo⟩ := sessions_apart hl es
  have hsame := htwo hl' es'
  obtain rfl := Option.some.inj hl
  obtain rfl := Option.some.inj hl'
  exact ⟨_, _, rfl, rfl, by decide, hcalls (by decide), hsame (by decide) (by decide) _ _ _ _
    (List.take_append_drop 1 _).symm (List.take_append_drop 1 _).symm (by decide)⟩

end Reception

end RemoteShutter
