import BlinkerFluid.MachChannel

/-! The way of the packets between two ends. All that an end has sent to the other one was
received there or is in the queue of its port, and what was dispatched is what was received. -/

namespace BlinkerFluid.MachChannel
open MachFrame MachWriter StepRun

variable {l : Layout}

/-- The messages of a channel go to the other end. -/
def Peer (e : End) (c : ChannelMac) : Prop :=
  e = .client ∨ c.peerAuditToken = some (.channel .client)

instance (e : End) (c : ChannelMac) : Decidable (Peer e c) := by
  unfold Peer
  infer_instance

def destination (e : End) (c : ChannelMac) : Option Token :=
  match e with
  | .client => some (.channel .server)
  | .server => c.peerAuditToken

def from_ (e : End) (packets : List Packet) : List Packet :=
  packets.filter fun packet => packet.sender = .channel e

def sentTo (e : End) (c : ChannelMac) : List Packet :=
  if Peer e c then c.writer.sent.map fun f => ⟨.channel e, .frame f⟩ else []

def greeting (e : End) (c : ChannelMac) : List Packet :=
  if e = .client ∧ c.writer.handshakeDone = true then [handshakePacket] else []

def link (e : End) (c : ChannelMac) : List Packet := greeting e c ++ sentTo e c

def readMessage (l : Layout) (packet : Packet) : Option Message :=
  match packet.content with
  | .frame f => (readFrame f).bind fun read => tryDispatchMessage l true read.1 read.2
  | _ => none

def dispatchedFrom (e : End) (c : ChannelMac) : List Message :=
  c.dispatched.filterMap fun pair => if pair.1 = .channel e then some pair.2 else none

def readable (l : Layout) (e : End) (packets : List Packet) : List Message :=
  (from_ e packets).filterMap (readMessage l)

def Hears (e : End) (c : ChannelMac) : Prop :=
  c.peerAuditToken = none ∨ c.peerAuditToken = some (.channel e)

structure Unstarted (e : End) (c : ChannelMac) : Prop where
  early : c.writer.handshakeDone = false
  unwatched : c.watching = false
  sendPort : c.sendPort = (create e).sendPort
  empty : e = .client → c.receivePort = none ∧ c.received = []

/-- An end by itself, beside an other end of which only the port matters. -/
structure Own (l : Layout) (e : End) (c : ChannelMac) (peerAlive : Prop) : Prop where
  good : Good l (Peer e c) peerAlive c.writer
  wellFormed : ∀ m ∈ c.writer.accepted, WellFormed l m
  client : e = .client → c.peerAuditToken = none
  greeted : e = .server → (c.writer.handshakeDone = true ↔ c.peerAuditToken ≠ none)
  connected : c.writer.handshakeDone = true → c.writer.rejectWrites = false →
    c.sendPort = destination e c
  allocated : c.started = true → c.writer.rejectWrites = false →
    c.writer.sendBufferAllocated = true
  unstarted : c.started = false → Unstarted e c

/-- The way from an end to the port of the other one and through it. -/
structure Linked (l : Layout) (e : End) (c d : ChannelMac) : Prop where
  waiting : ∀ queue, d.receivePort = some queue → from_ e (d.received ++ queue) = link e c
  gone : d.receivePort = none → from_ e d.received <+: link e c
  inOrder : d.unopened = false → dispatchedFrom e d <+: readable l e d.received
  whole : d.unopened = false → Hears e d → dispatchedFrom e d = readable l e d.received

/-- What reaches the client, whose port nobody else knows. -/
def FromServer (packet : Packet) : Prop :=
  packet.content = .deadName ∨ ∃ f, packet = ⟨.channel .server, .frame f⟩

structure Inv (l : Layout) (s : System) : Prop where
  own : ∀ e, Own l e (s e) ((s e.other).receivePort ≠ none)
  linked : ∀ e, Linked l e (s e) (s e.other)
  adopted : (s .server).peerAuditToken = some (.channel .client) →
    (s .client).writer.handshakeDone = true
  queue : ∀ queue, (s .client).receivePort = some queue → ∀ packet ∈ queue, FromServer packet

@[simp] theorem other_other (e : End) : e.other.other = e := by cases e <;> rfl

theorem other_ne (e : End) : e.other ≠ e := by cases e <;> decide

theorem destination_iff (e : End) (c : ChannelMac) :
    destination e c = some (.channel e.other) ↔ Peer e c := by
  cases e with
  | client => exact iff_of_true rfl (.inl rfl)
  | server => exact (or_iff_right (by decide)).symm

@[simp] theorem from_append (e : End) (packets packets' : List Packet) :
    from_ e (packets ++ packets') = from_ e packets ++ from_ e packets' :=
  List.filter_append _ _

@[simp] theorem from_other {e : End} {packet : Packet} (other : packet.sender ≠ .channel e) :
    from_ e [packet] = [] :=
  List.filter_cons_of_neg (by simpa using other)

theorem readable_append (e : End) (packets packets' : List Packet) :
    readable l e (packets ++ packets') = readable l e packets ++ readable l e packets' := by
  rw [readable, from_append, List.filterMap_append]
  rfl

theorem dispatchedFrom_append (e : End) (c : ChannelMac) (sender : Token) (m : Message) :
    dispatchedFrom e { c with dispatched := c.dispatched ++ [(sender, m)] } =
      dispatchedFrom e c ++ if sender = .channel e then [m] else [] := by
  rw [dispatchedFrom, List.filterMap_append]
  refine congrArg (_ ++ ·) ?_
  split_ifs with ours <;> simp [ours]

theorem readMessage_serialize {m : Message} (wellFormed : WellFormed l m) (sender : Token) :
    readMessage l ⟨sender, .frame (serialize l m)⟩ = some m := by
  simp only [readMessage, readFrame_serialize wellFormed.data, Option.bind_some]
  exact tryDispatchMessage_inTransit wellFormed

theorem inv_create : Inv l create where
  own := by
    intro e
    have good : Good l (Peer e (create e)) ((create e.other).receivePort ≠ none) idle := good_idle
    cases e
    all_goals exact ⟨good, by rintro _ ⟨⟩, by simp [create], by simp [create, idle],
      by rintro ⟨⟩, by rintro ⟨⟩, fun _ => ⟨rfl, rfl, rfl, by simp [create]⟩⟩
  linked := by
    intro e
    cases e
    all_goals refine ⟨?_, ?_, fun _ => List.prefix_rfl, fun _ _ => rfl⟩
    all_goals simp [create, End.other, from_, link, greeting, sentTo, idle, Peer]
  adopted := by rintro ⟨⟩
  queue := by rintro _ ⟨⟩

theorem put_self (s : System) (e : End) (c : ChannelMac) (greeting : List Packet) :
    put s e c greeting e = c := by
  rw [put, Function.update_of_ne (other_ne e).symm, Function.update_self]

theorem put_other (s : System) (e : End) (c : ChannelMac) (greeting : List Packet) :
    put s e c greeting e.other =
      enqueue (s e.other) (greeting ++ freshPackets e (s e) c) := Function.update_self _ _ _

theorem enqueue_port (c : ChannelMac) (packets : List Packet) :
    (enqueue c packets).receivePort ≠ none ↔ c.receivePort ≠ none := by
  rw [enqueue, ne_eq, Option.map_eq_none_iff]

/-! The way between the ends. -/

theorem Linked.enqueue {e : End} {c c' d : ChannelMac} (linked : Linked l e c d)
    {packets : List Packet} (grows : link e c' = link e c ++ from_ e packets) :
    Linked l e c' (enqueue d packets) where
  waiting := by
    intro queue waits
    obtain ⟨old, known, rfl⟩ := Option.map_eq_some_iff.mp waits
    rw [grows, ← linked.waiting old known, ← from_append, List.append_assoc]
    rfl
  gone := by
    intro none
    rw [grows]
    exact (linked.gone (Option.map_eq_none_iff.mp none)).trans (List.prefix_append _ _)
  inOrder := linked.inOrder
  whole := linked.whole

/-- A packet that is taken from the queue is dispatched, or its sender is not heard. -/
theorem Linked.receive {e : End} {c c' d : ChannelMac} (linked : Linked l e d c) {packet : Packet}
    {packets : List Packet} (port : c.receivePort = some (packet :: packets))
    (port' : c'.receivePort = some packets) (received : c'.received = c.received ++ [packet])
    (hears : Hears e c' → Hears e c)
    (arrives : c'.unopened = false → c.unopened = false ∧
      (dispatchedFrom e c' = dispatchedFrom e c ++ readable l e [packet] ∧
          (Hears e c ∨ readable l e [packet] = []) ∨
        dispatchedFrom e c' = dispatchedFrom e c ∧ ¬Hears e c')) : Linked l e d c' where
  waiting := by
    intro queue waits
    obtain rfl : packets = queue := Option.some.inj (port'.symm.trans waits)
    rw [received, List.append_assoc]
    exact linked.waiting _ port
  gone := by
    intro none
    rw [port'] at none
    cases none
  inOrder := by
    intro opened
    obtain ⟨before, ⟨more, heard | nothing⟩ | ⟨same, -⟩⟩ := arrives opened
    · rw [more, received, readable_append, linked.whole before heard]
    · rw [more, received, readable_append, nothing, List.append_nil, List.append_nil]
      exact linked.inOrder before
    · rw [same, received, readable_append]
      exact (linked.inOrder before).trans (List.prefix_append _ _)
  whole := by
    intro opened heard
    obtain ⟨before, ⟨more, -⟩ | ⟨-, deaf⟩⟩ := arrives opened
    · rw [more, received, readable_append, linked.whole before (hears heard)]
    · exact absurd heard deaf

theorem from_frames (e : End) (frames : List Frame) :
    from_ e (frames.map fun f => ⟨.channel e, .frame f⟩) =
      frames.map fun f => ⟨.channel e, .frame f⟩ := by
  rw [from_, List.filter_eq_self]
  intro packet mem
  obtain ⟨f, -, rfl⟩ := List.mem_map.mp mem
  exact decide_eq_true rfl

theorem from_freshPackets (e : End) (before after : ChannelMac) :
    from_ e (freshPackets e before after) = freshPackets e before after := by
  unfold freshPackets
  split_ifs
  · exact from_frames _ _
  · rfl

theorem sentTo_grows {e : End} {c c' : ChannelMac} (grows : c.writer.sent <+: c'.writer.sent)
    (port : c'.writer.sent ≠ c.writer.sent → c'.sendPort = destination e c')
    (peer : (Peer e c' ↔ Peer e c) ∨ c.writer.sent = []) :
    sentTo e c' = sentTo e c ++ freshPackets e c c' := by
  obtain ⟨rest, more⟩ := grows
  have fresh : freshPackets e c c' =
      if Peer e c' then rest.map fun f => ⟨.channel e, .frame f⟩ else [] := by
    have dropped : c'.writer.sent.drop c.writer.sent.length = rest := by
      rw [← more, List.drop_left]
    rw [freshPackets, dropped]
    cases rest with
    | nil => simp
    | cons f rest =>
      have moved : c'.writer.sent ≠ c.writer.sent := by simp [← more]
      rw [port moved]
      exact if_congr (destination_iff e c') rfl rfl
  rw [fresh, sentTo, sentTo, ← more]
  obtain same | none := peer
  · by_cases ours : Peer e c
    · rw [if_pos (same.mpr ours), if_pos ours, if_pos (same.mpr ours), List.map_append]
    · have theirs : ¬Peer e c' := fun now => ours (same.mp now)
      rw [if_neg theirs, if_neg ours, if_neg theirs]
      rfl
  · rw [none]
    simp

theorem link_grows {e : End} {c c' : ChannelMac} {greets : List Packet}
    (greeted : greeting e c' = greeting e c ++ greets) (sent : greets = [] ∨ sentTo e c = [])
    (ours : from_ e greets = greets)
    (grows : sentTo e c' = sentTo e c ++ freshPackets e c c') :
    link e c' = link e c ++ from_ e (greets ++ freshPackets e c c') := by
  rw [link, link, greeted, grows, from_append, ours, from_freshPackets]
  obtain none | none := sent <;> simp [none]

/-! An end by itself. -/

section Own

variable {e : End} {c : ChannelMac} {alive : Prop}

theorem Own.enqueue (own : Own l e c alive) (packets : List Packet) :
    Own l e (enqueue c packets) alive :=
  { own with
    unstarted := fun still => by
      obtain ⟨early, unwatched, sendPort, empty⟩ := own.unstarted still
      refine ⟨early, unwatched, sendPort, fun isClient => ⟨?_, (empty isClient).2⟩⟩
      rw [MachChannel.enqueue, (empty isClient).1]
      rfl }

theorem Own.mono (own : Own l e c alive) {alive' : Prop} (appears : alive' → alive ∨ ¬Peer e c) :
    Own l e c alive' :=
  { own with
    good := ⟨own.good.sound, own.good.inOrder, fun ours lives => by
      obtain before | theirs := appears lives
      · exact own.good.whole ours before
      · exact absurd ours theirs⟩ }

theorem Own.writer (own : Own l e c alive) {w : Writer} (good : Good l (Peer e c) alive w)
    (wellFormed : ∀ m ∈ w.accepted, WellFormed l m)
    (handshakeDone : w.handshakeDone = c.writer.handshakeDone)
    (allocated : w.sendBufferAllocated = c.writer.sendBufferAllocated)
    (closed : c.writer.rejectWrites = true → w.rejectWrites = true) :
    Own l e { c with writer := w } alive := by
  have open_ : w.rejectWrites = false → c.writer.rejectWrites = false := fun still => by
    cases before : c.writer.rejectWrites with
    | false => rfl
    | true =>
      rw [closed before] at still
      cases still
  refine ⟨good, wellFormed, own.client, fun isServer => ?_, fun ready still => ?_,
    fun started still => ?_, fun unstarted => ?_⟩
  · rw [← own.greeted isServer, ← handshakeDone]
  · exact own.connected (handshakeDone ▸ ready) (open_ still)
  · exact allocated.trans (own.allocated started (open_ still))
  · obtain ⟨early, unwatched, sendPort, empty⟩ := own.unstarted unstarted
    exact ⟨handshakeDone.trans early, unwatched, sendPort, empty⟩

theorem Own.sends (own : Own l e c alive) {w : Writer} (sound : Sound w)
    (handshakeDone : w.handshakeDone = c.writer.handshakeDone)
    (closed : c.writer.rejectWrites = true → w.sent = c.writer.sent)
    (moved : w.sent ≠ c.writer.sent) : c.sendPort = destination e c := by
  have open_ : c.writer.rejectWrites = false :=
    Bool.eq_false_iff.mpr fun shut => moved (closed shut)
  have ready : c.writer.handshakeDone = true := by
    by_contra early
    have early := Bool.eq_false_iff.mpr early
    refine moved ((sound.early (handshakeDone.trans early)).2.1.trans ?_)
    exact (own.good.sound.early early).2.1.symm
  exact own.connected ready open_

end Own

/-! One event. -/

/-- What one end may become in an event, with the packets that it sends. -/
structure Advance (l : Layout) (s : System) (e : End) (c : ChannelMac) (greets : List Packet) :
    Prop where
  own : Own l e c ((s e.other).receivePort ≠ none)
  grows : link e c = link e (s e) ++ from_ e (greets ++ freshPackets e (s e) c)
  linked : Linked l e.other (s e.other) c
  appears : c.receivePort ≠ none → (s e).receivePort ≠ none ∨ ¬Peer e.other (s e.other)
  stays : e = .client → (s e).writer.handshakeDone = true → c.writer.handshakeDone = true
  adopted : e = .server → c.peerAuditToken = some (.channel .client) →
    (s .client).writer.handshakeDone = true
  queue : e = .client → ∀ queue, c.receivePort = some queue → ∀ packet ∈ queue, FromServer packet
  greets : e = .server → ∀ packet ∈ greets, FromServer packet

theorem fromServer_freshPackets (before after : ChannelMac) :
    ∀ packet ∈ freshPackets .server before after, FromServer packet := by
  intro packet mem
  unfold freshPackets at mem
  split_ifs at mem
  · obtain ⟨f, -, rfl⟩ := List.mem_map.mp mem
    exact .inr ⟨f, rfl⟩
  · cases mem

theorem end_cases (e e' : End) : e' = e ∨ e' = e.other := by
  cases e <;> cases e' <;> decide

variable {s : System} {e : End} {c : ChannelMac}

theorem Inv.put (inv : Inv l s) {greets : List Packet} (advance : Advance l s e c greets) :
    Inv l (put s e c greets) where
  own := by
    intro e'
    obtain rfl | rfl := end_cases e e'
    · rw [put_self, put_other]
      exact advance.own.mono fun lives => .inl ((enqueue_port _ _).mp lives)
    · rw [put_other, other_other, put_self]
      have own := inv.own e.other
      rw [other_other] at own
      exact (own.mono advance.appears).enqueue _
  linked := by
    intro e'
    obtain rfl | rfl := end_cases e e'
    · rw [put_self, put_other]
      exact (inv.linked e').enqueue advance.grows
    · rw [put_other, other_other, put_self]
      have linked := advance.linked
      exact ⟨linked.waiting, linked.gone, linked.inOrder, linked.whole⟩
  adopted := by
    cases e with
    | client =>
      have other := put_other s .client c greets
      rw [End.other] at other
      rw [put_self, other]
      exact fun adopts => advance.stays rfl (inv.adopted adopts)
    | server =>
      have other := put_other s .server c greets
      rw [End.other] at other
      rw [put_self, other]
      exact advance.adopted rfl
  queue := by
    intro queue
    cases e with
    | client =>
      rw [put_self]
      exact advance.queue rfl queue
    | server =>
      have other := put_other s .server c greets
      rw [End.other] at other
      rw [other]
      intro waits packet mem
      obtain ⟨old, known, rfl⟩ := Option.map_eq_some_iff.mp waits
      obtain before | mem := List.mem_append.mp mem
      · exact inv.queue old known packet before
      · obtain greets | fresh := List.mem_append.mp mem
        · exact advance.greets rfl packet greets
        · exact fromServer_freshPackets _ _ packet fresh

theorem Inv.advance_writer (inv : Inv l s) {w : Writer}
    (good : Good l (Peer e (s e)) ((s e.other).receivePort ≠ none) w)
    (wellFormed : ∀ m ∈ w.accepted, WellFormed l m)
    (handshakeDone : w.handshakeDone = (s e).writer.handshakeDone)
    (allocated : w.sendBufferAllocated = (s e).writer.sendBufferAllocated)
    (grows : (s e).writer.sent <+: w.sent)
    (closed : (s e).writer.rejectWrites = true →
      w.rejectWrites = true ∧ w.sent = (s e).writer.sent) :
    Advance l s e { s e with writer := w } [] where
  own := (inv.own e).writer good wellFormed handshakeDone allocated fun shut => (closed shut).1
  grows := by
    refine link_grows ?_ (.inl rfl) rfl (sentTo_grows grows (fun moved => ?_) (.inl Iff.rfl))
    · rw [greeting, greeting, List.append_nil, handshakeDone]
    · exact (inv.own e).sends good.sound handshakeDone (fun shut => (closed shut).2) moved
  linked := by
    have linked := inv.linked e.other
    rw [other_other] at linked
    exact ⟨linked.waiting, linked.gone, linked.inOrder, linked.whole⟩
  appears := .inl
  stays := fun _ ready => handshakeDone.trans ready
  adopted := by
    rintro rfl
    exact inv.adopted
  queue := by
    rintro rfl
    exact inv.queue
  greets := by rintro _ _ ⟨⟩

theorem Inv.writes (inv : Inv l s) {m : Message} {answers : List KernelAnswer}
    (wellFormed : WellFormed l m)
    (consistent : Peer e (s e) → Consistent ((s e.other).receivePort ≠ none) answers) :
    Advance l s e { s e with writer := write l (s e).writer m answers } [] := by
  obtain ⟨writes, good⟩ := write_good (inv.own e).good m consistent
  refine inv.advance_writer good (fun m' mem => ?_) writes.handshakeDone writes.allocated
    writes.grows writes.closed
  rw [writes.accepted] at mem
  split_ifs at mem
  · exact (inv.own e).wellFormed m' mem
  · obtain old | new := List.mem_append.mp mem
    · exact (inv.own e).wellFormed m' old
    · rwa [List.mem_singleton.mp new]

theorem ready_of_retryTasks {w : Writer} (sound : Sound w) (posted : w.retryTasks ≠ 0) :
    w.handshakeDone = true := by
  by_contra early
  obtain ⟨-, -, unscheduled, -⟩ := sound.early (Bool.eq_false_iff.mpr early)
  rw [sound.scheduled, unscheduled] at posted
  exact posted rfl

theorem Inv.retries (inv : Inv l s) {answers : List KernelAnswer}
    (posted : (s e).writer.retryTasks ≠ 0)
    (consistent : Peer e (s e) → Consistent ((s e.other).receivePort ≠ none) answers) :
    Advance l s e { s e with writer := retrySendPendingMessages l (s e).writer answers } [] := by
  have ready := ready_of_retryTasks (inv.own e).good.sound posted
  obtain ⟨sends, good⟩ := retry_good (inv.own e).good ready consistent
  exact inv.advance_writer good (fun m mem => (inv.own e).wellFormed m (sends.accepted ▸ mem))
    sends.handshakeDone sends.allocated sends.grows sends.closed

theorem Inv.linked_other (inv : Inv l s) (e : End) : Linked l e.other (s e.other) (s e) := by
  have linked := inv.linked e.other
  rwa [other_other] at linked

theorem Inv.shutsDown (inv : Inv l s) (started : (s e).started = true) :
    Advance l s e (shutDownOnIOThread (s e)) (deadNames s e) where
  own := by
    have own := inv.own e
    refine ⟨releaseBuffer_good own.good, own.wellFormed, own.client, own.greeted,
      by rintro - ⟨⟩, by rintro - ⟨⟩, fun unstarted => ?_⟩
    rw [shutDownOnIOThread, started] at unstarted
    cases unstarted
  grows := by
    have told : from_ e (deadNames s e) = [] := by
      unfold deadNames
      split_ifs
      · exact from_other (by rintro ⟨⟩)
      · rfl
    rw [from_append, told, from_freshPackets]
    exact (List.append_nil _).symm
  linked := by
    have linked := inv.linked_other e
    refine ⟨fun queue waits => ?_, fun _ => ?_, linked.inOrder, linked.whole⟩
    · simp only [shutDownOnIOThread] at waits ⊢
      split_ifs at waits
      exact linked.waiting queue waits
    · cases port : (s e).receivePort with
      | none => exact linked.gone port
      | some queue =>
        rw [← linked.waiting queue port, from_append]
        exact List.prefix_append _ _
  appears := by
    intro stays
    refine .inl fun none => stays ?_
    rw [shutDownOnIOThread, none]
    exact ite_self _
  stays := fun _ ready => ready
  adopted := by
    rintro rfl
    exact inv.adopted
  queue := by
    rintro rfl queue waits
    simp only [shutDownOnIOThread] at waits
    split_ifs at waits
    exact inv.queue queue waits
  greets := by
    intro _ packet mem
    unfold deadNames at mem
    split_ifs at mem
    · exact .inl (congrArg Packet.content (List.mem_singleton.mp mem))
    · cases mem

theorem Inv.starts_client (inv : Inv l s) (unstarted : (s .client).started = false) {w : Writer}
    {watching : Bool} {errors : List Error} {greets : List Packet}
    (good : Good l (Peer .client (s .client)) ((s .server).receivePort ≠ none) w)
    (accepted : w.accepted = (s .client).writer.accepted)
    (allocated : w.rejectWrites = false → w.sendBufferAllocated = true)
    (greeted : greets = if w.handshakeDone then [handshakePacket] else []) :
    Advance l s .client
      { s .client with
        writer := w
        receivePort := some []
        started := true
        watching := watching
        errors := errors } greets := by
  obtain ⟨early, -, sendPort, empty⟩ := (inv.own .client).unstarted unstarted
  obtain ⟨noPort, nothing⟩ := empty rfl
  have unsent := ((inv.own .client).good.sound.early early).2.1
  have theirs : ¬Peer .server (s .server) := by
    rintro (⟨⟨⟩⟩ | adopts)
    rw [inv.adopted adopts] at early
    cases early
  refine ⟨⟨good, fun m mem => ?_, (inv.own .client).client, by rintro ⟨⟩, fun _ _ => sendPort,
    fun _ => allocated, by rintro ⟨⟩⟩, ?_, ?_, fun _ => .inr theirs, ?_, by rintro ⟨⟩, ?_,
    by rintro ⟨⟩⟩
  · exact (inv.own .client).wellFormed m (accepted ▸ mem)
  · refine link_grows ?_ (.inr ?_) ?_ (sentTo_grows ?_ (fun _ => sendPort) (.inr unsent))
    · rw [greeting, greeting, greeted, early]
      simp
    · rw [sentTo, unsent]
      exact ite_self _
    · rw [greeted]
      split_ifs <;> rfl
    · rw [unsent]
      exact List.nil_prefix
  · have linked := inv.linked .server
    refine ⟨?_, by rintro ⟨⟩, linked.inOrder, linked.whole⟩
    have silent : link .server (s .server) = [] := by
      rw [link, greeting, sentTo, if_neg theirs]
      rfl
    rintro queue ⟨⟩
    exact (congrArg (fun packets => from_ .server (packets ++ [])) nothing).trans silent.symm
  · intro _ ready
    rw [early] at ready
    cases ready
  · rintro _ _ ⟨⟩ packet ⟨⟩

theorem Inv.starts_server (inv : Inv l s) :
    Advance l s .server
      { s .server with
        writer := allocateBuffer (s .server).writer
        started := true
        watching := true } [] where
  own := by
    have own := inv.own .server
    exact ⟨allocateBuffer_good own.good, own.wellFormed, own.client, own.greeted, own.connected,
      fun _ _ => rfl, by rintro ⟨⟩⟩
  grows := link_grows rfl (.inl rfl) rfl
    (sentTo_grows List.prefix_rfl (fun moved => absurd rfl moved) (.inl Iff.rfl))
  linked := by
    have linked := inv.linked .client
    exact ⟨linked.waiting, linked.gone, linked.inOrder, linked.whole⟩
  appears := .inl
  stays := by rintro ⟨⟩
  adopted := fun _ => inv.adopted
  queue := by rintro ⟨⟩
  greets := by rintro _ _ ⟨⟩

theorem Inv.starts (inv : Inv l s) (unstarted : (s e).started = false) {handshakeSent : Bool}
    {peerAlive : Bool} {answers : List KernelAnswer}
    (consistent : Consistent ((s e.other).receivePort ≠ none) answers) {started : ChannelMac × Bool}
    (starts : startOnIOThread l (s e) peerAlive handshakeSent answers = started) :
    Advance l s e started.1 (if started.2 then [handshakePacket] else []) := by
  have sendPort := ((inv.own e).unstarted unstarted).sendPort
  have good := allocateBuffer_good (inv.own e).good
  have early : (allocateBuffer (s e).writer).handshakeDone = false :=
    ((inv.own e).unstarted unstarted).early
  unfold startOnIOThread at starts
  dsimp only at starts
  subst starts
  cases e with
  | server =>
    have without : ¬(s .server).sendPort ≠ none := not_not.mpr sendPort
    rw [if_neg without]
    exact inv.starts_server
  | client =>
    have with_ : (s .client).sendPort ≠ none := by
      rw [sendPort]
      rintro ⟨⟩
    rw [if_pos with_]
    cases peerAlive with
    | false => exact inv.starts_client unstarted good rfl (fun _ => rfl) (by rw [early]; rfl)
    | true =>
      cases handshakeSent with
      | true =>
        obtain ⟨sends, done⟩ := finishHandshake_good good.sound early (fun _ => rfl)
          fun _ => consistent
        refine inv.starts_client unstarted done sends.accepted (fun _ => sends.allocated) ?_
        rw [sends.handshakeDone]
        rfl
      | false =>
        exact inv.starts_client unstarted (onWriteErrorLocked_good good _) rfl (fun _ => rfl)
          (by rw [onWriteErrorLocked, early]; rfl)

/-! A packet that is received. -/

theorem readable_nil {packet : Packet} (unread : readMessage l packet = none) :
    readable l e [packet] = [] := by
  unfold readable from_
  by_cases ours : packet.sender = .channel e
  · rw [List.filter_cons_of_pos (by simpa using ours), List.filterMap_cons_none unread]
    rfl
  · rw [List.filter_cons_of_neg (by simpa using ours)]
    rfl

theorem receiveFrame_cases (c : ChannelMac) (sender : Token) (f : Frame) (opens : Bool) :
    ∃ errors dispatched unopened, receiveFrame l c sender f opens =
        { c with errors := errors, dispatched := dispatched, unopened := unopened } ∧
      (unopened = false → c.unopened = false) ∧
      (dispatched = c.dispatched ∨ (∃ m, dispatched = c.dispatched ++ [(sender, m)]) ∧
        (c.peerAuditToken = none ∨ c.peerAuditToken = some sender)) := by
  have refused : ∀ errors, ∃ errors' dispatched unopened, { c with errors := errors } =
        { c with errors := errors', dispatched := dispatched, unopened := unopened } ∧
      (unopened = false → c.unopened = false) ∧
      (dispatched = c.dispatched ∨ (∃ m, dispatched = c.dispatched ++ [(sender, m)]) ∧
        (c.peerAuditToken = none ∨ c.peerAuditToken = some sender)) :=
    fun errors => ⟨errors, c.dispatched, c.unopened, rfl, id, .inl rfl⟩
  unfold receiveFrame
  split_ifs with large small rejected
  · exact refused _
  · exact refused _
  · exact refused c.errors
  · have heard : c.peerAuditToken = none ∨ c.peerAuditToken = some sender := by
      by_contra deaf
      exact rejected (not_or.mp deaf)
    cases read : readFrame f with
    | none => exact refused _
    | some parts =>
      obtain ⟨data, handles⟩ := parts
      dsimp only
      cases dispatch : tryDispatchMessage l opens data handles with
      | some m => exact ⟨_, _, _, rfl, id, .inr ⟨⟨m, rfl⟩, heard⟩⟩
      | none => exact ⟨_, _, _, rfl, fun opened => (Bool.or_eq_false_iff.mp opened).1, .inl rfl⟩

/-- A message that was sent passes the checks of an end that hears its sender. -/
theorem receiveFrame_serialize {m : Message} (wellFormed : WellFormed l m) {c : ChannelMac}
    {sender : Token} (heard : c.peerAuditToken = none ∨ c.peerAuditToken = some sender)
    (opens : Bool) :
    receiveFrame l c sender (serialize l m) opens =
        { c with dispatched := c.dispatched ++ [(sender, m)] } ∨
      opens = false ∧ (receiveFrame l c sender (serialize l m) opens).unopened = true := by
  obtain ⟨small, large⟩ := serialize_fits wellFormed
  have accepted : ¬(c.peerAuditToken ≠ none ∧ c.peerAuditToken ≠ some sender) :=
    fun deaf => heard.elim deaf.1 deaf.2
  have whole := tryDispatchMessage_inTransit wellFormed
  unfold receiveFrame
  rw [if_neg (not_lt.mpr large), if_neg (not_lt.mpr small), if_neg accepted,
    readFrame_serialize wellFormed.data]
  dsimp only
  cases opens with
  | true =>
    rw [whole]
    exact .inl rfl
  | false =>
    cases dispatch : tryDispatchMessage l false m.data (m.handles.map inTransit) with
    | none =>
      refine .inr ⟨rfl, ?_⟩
      rw [whole]
      exact Bool.or_true _
    | some m' =>
      have same := tryDispatchMessage_opens dispatch
      rw [whole, Option.some.injEq] at same
      rw [same]
      exact .inl rfl

theorem receiveFrame_rejected {m : Message} (wellFormed : WellFormed l m) {c : ChannelMac}
    {sender : Token} (deaf : c.peerAuditToken ≠ none ∧ c.peerAuditToken ≠ some sender)
    (opens : Bool) : receiveFrame l c sender (serialize l m) opens = c := by
  obtain ⟨small, large⟩ := serialize_fits wellFormed
  rw [receiveFrame, if_neg (not_lt.mpr large), if_neg (not_lt.mpr small), if_pos deaf]

theorem Inv.frame_of_message (inv : Inv l s) {f : Frame} {packets : List Packet}
    (port : (s e).receivePort = some (⟨.channel e.other, .frame f⟩ :: packets)) :
    ∃ m, WellFormed l m ∧ f = serialize l m := by
  have mem : (⟨.channel e.other, .frame f⟩ : Packet) ∈ link e.other (s e.other) := by
    rw [← (inv.linked_other e).waiting _ port]
    exact List.mem_filter.mpr ⟨List.mem_append_right _ List.mem_cons_self, decide_eq_true rfl⟩
  obtain greets | sent := List.mem_append.mp mem
  · unfold greeting at greets
    split_ifs at greets
    · cases congrArg Packet.content (List.mem_singleton.mp greets)
    · cases greets
  · unfold sentTo at sent
    split_ifs at sent with ours
    · obtain ⟨f', mem, same⟩ := List.mem_map.mp sent
      obtain ⟨rest, order⟩ := (inv.own e.other).good.inOrder ours
      have first := List.mem_append_left rest mem
      rw [order] at first
      obtain ⟨m, accepted, rfl⟩ := List.mem_map.mp first
      refine ⟨m, (inv.own e.other).wellFormed m accepted, ?_⟩
      exact (Content.frame.inj (congrArg Packet.content same)).symm
    · cases sent

theorem Inv.advance_received (inv : Inv l s) {packet : Packet} {packets received : List Packet}
    (port : (s e).receivePort = some (packet :: packets)) (watching : (s e).watching = true)
    {errors : List Error} {dispatched : List (Token × Message)} {unopened : Bool}
    (linked : Linked l e.other (s e.other)
      { s e with
        receivePort := some packets
        received := received
        errors := errors
        dispatched := dispatched
        unopened := unopened }) :
    Advance l s e
      { s e with
        receivePort := some packets
        received := received
        errors := errors
        dispatched := dispatched
        unopened := unopened } [] where
  own := by
    obtain ⟨good, wellFormed, client, greeted, connected, allocated, unstarted⟩ := inv.own e
    refine ⟨good, wellFormed, client, greeted, connected, allocated, fun still => ?_⟩
    have unwatched := (unstarted still).unwatched
    rw [watching] at unwatched
    cases unwatched
  grows := link_grows (List.append_nil _).symm (.inl rfl) rfl
    (sentTo_grows List.prefix_rfl (fun moved => absurd rfl moved) (.inl Iff.rfl))
  linked := linked
  appears := fun _ => .inl (by rw [port]; rintro ⟨⟩)
  stays := fun _ ready => ready
  adopted := by
    rintro rfl
    exact inv.adopted
  queue := by
    rintro rfl _ ⟨⟩ packet' mem
    exact inv.queue _ port packet' (List.mem_cons_of_mem _ mem)
  greets := by rintro _ _ ⟨⟩

theorem Inv.receives_notice (inv : Inv l s) {packet : Packet} {packets : List Packet}
    (port : (s e).receivePort = some (packet :: packets)) (watching : (s e).watching = true)
    (unread : readMessage l packet = none) (errors : List Error) :
    Advance l s e
      { s e with
        receivePort := some packets
        received := (s e).received ++ [packet]
        errors := errors } [] := by
  refine inv.advance_received port watching ?_
  refine (inv.linked_other e).receive port rfl rfl id fun opened => ⟨opened, .inl ⟨?_, .inr ?_⟩⟩
  · rw [readable_nil unread, List.append_nil]
    rfl
  · exact readable_nil unread

theorem Inv.receives_frame (inv : Inv l s) {sender : Token} {f : Frame} {packets : List Packet}
    (port : (s e).receivePort = some (⟨sender, .frame f⟩ :: packets))
    (watching : (s e).watching = true) (opens : Bool) {c : ChannelMac}
    (receives : receiveFrame l
      { s e with
        receivePort := some packets
        received := (s e).received ++ [⟨sender, .frame f⟩] } sender f opens = c) :
    Advance l s e c [] := by
  obtain ⟨errors, dispatched, unopened, result, before, delivers⟩ := receiveFrame_cases (l := l)
    { s e with
      receivePort := some packets
      received := (s e).received ++ [⟨sender, .frame f⟩] } sender f opens
  rw [receives] at result
  subst result
  refine inv.advance_received port watching ?_
  refine (inv.linked_other e).receive port rfl rfl id fun opened => ⟨before opened, ?_⟩
  by_cases ours : sender = .channel e.other
  · subst ours
    obtain ⟨m, wellFormed, rfl⟩ := inv.frame_of_message port
    have read : readable l e.other [⟨.channel e.other, .frame (serialize l m)⟩] = [m] := by
      rw [readable, from_, List.filter_cons_of_pos (by simp), List.filter_nil,
        List.filterMap_cons_some (readMessage_serialize wellFormed _), List.filterMap_nil]
    rw [read]
    by_cases heard : Hears e.other (s e)
    · refine .inl ⟨?_, .inl heard⟩
      obtain whole | ⟨-, lost⟩ := receiveFrame_serialize wellFormed (c :=
        { s e with
          receivePort := some packets
          received := (s e).received ++ [⟨.channel e.other, .frame (serialize l m)⟩] }) heard opens
      · have dispatched' := congrArg ChannelMac.dispatched (receives.symm.trans whole)
        simp only at dispatched'
        rw [dispatched']
        exact (dispatchedFrom_append e.other (s e) _ m).trans (by rw [if_pos rfl])
      · have unopened' := congrArg ChannelMac.unopened receives
        rw [lost] at unopened'
        simp only at unopened' opened
        rw [opened] at unopened'
        cases unopened'
    · refine .inr ⟨?_, heard⟩
      have same := receiveFrame_rejected wellFormed (c :=
        { s e with
          receivePort := some packets
          received := (s e).received ++ [⟨.channel e.other, .frame (serialize l m)⟩] })
        (not_or.mp heard) opens
      have dispatched' := congrArg ChannelMac.dispatched (receives.symm.trans same)
      simp only at dispatched'
      rw [dispatched']
      rfl
  · have nothing : readable l e.other [⟨sender, .frame f⟩] = [] := by
      rw [readable, from_other ours]
      rfl
    refine .inl ⟨?_, .inr nothing⟩
    rw [nothing, List.append_nil]
    obtain rfl | ⟨⟨m, rfl⟩, -⟩ := delivers
    · rfl
    · refine (dispatchedFrom_append e.other (s e) sender m).trans ?_
      rw [if_neg ours, List.append_nil]

/-- The first handshake with a live port settles who is heard from then on. -/
theorem Inv.receives_handshake (inv : Inv l s) {sender : Token} {alive : Bool}
    {packets : List Packet}
    (port : (s .server).receivePort = some (⟨sender, .handshake alive⟩ :: packets))
    (watching : (s .server).watching = true) (early : (s .server).writer.handshakeDone = false)
    {answers : List KernelAnswer} (consistent : sender = .channel .client →
      Consistent ((s .client).receivePort ≠ none) answers) :
    Advance l s .server
      { s .server with
        writer := finishHandshake l (s .server).writer answers
        receivePort := some packets
        sendPort := some sender
        peerAuditToken := some sender
        received := (s .server).received ++ [⟨sender, .handshake alive⟩] } [] := by
  have own := inv.own .server
  have strange : (s .server).peerAuditToken = none := by
    by_contra known
    rw [(own.greeted rfl).mpr known] at early
    cases early
  have started : (s .server).started = true := by
    by_contra still
    have unwatched := (own.unstarted (Bool.eq_false_iff.mpr still)).unwatched
    rw [watching] at unwatched
    cases unwatched
  have theirs : some sender = some (.channel .client) → sender = .channel .client :=
    Option.some.inj
  have tells : End.server = .client ∨ some sender = some (.channel .client) →
      Consistent ((s .client).receivePort ≠ none) answers := by
    rintro (⟨⟨⟩⟩ | adopts)
    exact consistent (theirs adopts)
  obtain ⟨sends, good⟩ := finishHandshake_good (l := l) own.good.sound early
    (own.allocated started) tells
  have unsent := (own.good.sound.early early).2.1
  refine ⟨⟨good, fun m mem => own.wellFormed m (sends.accepted ▸ mem), by rintro ⟨⟩,
    fun _ => iff_of_true sends.handshakeDone (by rintro ⟨⟩), fun _ _ => rfl, fun _ open_ => ?_,
    fun still => ?_⟩, ?_, ?_, fun _ => .inl (by rw [port]; rintro ⟨⟩), by rintro ⟨⟩,
    fun _ adopts => ?_, by rintro ⟨⟩, by rintro _ _ ⟨⟩⟩
  · refine sends.allocated.trans (own.allocated started ?_)
    by_contra shut
    rw [(sends.closed (Bool.ne_false_iff.mp shut)).1] at open_
    cases open_
  · rw [started] at still
    cases still
  · exact link_grows rfl (.inl rfl) rfl (sentTo_grows sends.grows (fun _ => rfl) (.inr unsent))
  · refine (inv.linked .client).receive port rfl rfl (fun _ => .inl strange) fun opened =>
      ⟨opened, .inl ⟨?_, .inr (readable_nil rfl)⟩⟩
    rw [readable_nil rfl, List.append_nil]
    rfl
  · have mem : (⟨sender, .handshake alive⟩ : Packet) ∈ link .client (s .client) := by
      rw [← (inv.linked .client).waiting _ port]
      refine List.mem_filter.mpr ⟨List.mem_append_right _ List.mem_cons_self, ?_⟩
      exact decide_eq_true (theirs adopts)
    obtain greets | sent := List.mem_append.mp mem
    · unfold greeting at greets
      split_ifs at greets with done
      · exact done.2
      · cases greets
    · unfold sentTo at sent
      split_ifs at sent
      · obtain ⟨f, -, same⟩ := List.mem_map.mp sent
        cases congrArg Packet.content same
      · cases sent

theorem Inv.receives (inv : Inv l s) {packet : Packet} {packets : List Packet}
    (port : (s e).receivePort = some (packet :: packets)) (watching : (s e).watching = true)
    {portAlive opens : Bool} {answers : List KernelAnswer}
    (consistent : packet.sender = .channel .client → (s e).peerAuditToken = none →
      Consistent ((s e.other).receivePort ≠ none) answers) :
    Advance l s e
      (onMachMessageReceived l
        { s e with receivePort := some packets, received := (s e).received ++ [packet] } packet
        portAlive opens answers) [] := by
  obtain ⟨sender, content⟩ := packet
  unfold onMachMessageReceived
  cases content with
  | deadName => exact inv.receives_notice port watching rfl _
  | sendOnce => exact inv.receives_notice port watching rfl _
  | frame f => exact inv.receives_frame port watching opens rfl
  | handshake alive =>
    dsimp only
    unfold receiveHandshake
    by_cases done : (s e).writer.handshakeDone = true
    · rw [if_pos done]
      exact inv.receives_notice port watching rfl _
    rw [if_neg done]
    have early := Bool.eq_false_iff.mpr done
    cases portAlive with
    | false => exact inv.receives_notice port watching rfl _
    | true =>
      cases e with
      | client =>
        obtain ⟨⟨⟩⟩ | ⟨f, frame⟩ := inv.queue _ port _ List.mem_cons_self
        cases congrArg Packet.content frame
      | server =>
        refine inv.receives_handshake port watching early fun ours => consistent ours ?_
        by_contra known
        exact done (((inv.own .server).greeted rfl).mpr known)

theorem Inv.update (inv : Inv l s) (errors : List Error) (leakHandles : Bool) :
    Inv l (Function.update s e { s e with errors := errors, leakHandles := leakHandles }) := by
  have same : ∀ e', ∃ errors' leakHandles',
      Function.update s e { s e with errors := errors, leakHandles := leakHandles } e' =
        { s e' with errors := errors', leakHandles := leakHandles' } := by
    intro e'
    by_cases ours : e' = e
    · subst ours
      exact ⟨_, _, Function.update_self _ _ _⟩
    · exact ⟨(s e').errors, (s e').leakHandles, Function.update_of_ne ours _ _⟩
  refine ⟨fun e' => ?_, fun e' => ?_, ?_, ?_⟩
  · obtain ⟨first, _, here⟩ := same e'
    obtain ⟨second, _, there⟩ := same e'.other
    rw [here, there]
    have own := inv.own e'
    exact ⟨own.good, own.wellFormed, own.client, own.greeted, own.connected, own.allocated,
      fun still => ⟨(own.unstarted still).early, (own.unstarted still).unwatched,
        (own.unstarted still).sendPort, (own.unstarted still).empty⟩⟩
  · obtain ⟨first, _, here⟩ := same e'
    obtain ⟨second, _, there⟩ := same e'.other
    rw [here, there]
    have linked := inv.linked e'
    exact ⟨linked.waiting, linked.gone, linked.inOrder, linked.whole⟩
  · obtain ⟨first, _, here⟩ := same .server
    obtain ⟨second, _, there⟩ := same .client
    rw [here, there]
    exact inv.adopted
  · obtain ⟨first, _, here⟩ := same .client
    rw [here]
    exact inv.queue

theorem Inv.othersSend (inv : Inv l s) (n : ℕ) (content : Content) :
    Inv l (Function.update s .server (enqueue (s .server) [⟨.other n, content⟩])) := by
  have client : Function.update s .server (enqueue (s .server) [⟨.other n, content⟩]) .client =
      s .client := Function.update_of_ne (by decide) _ _
  have server : Function.update s .server (enqueue (s .server) [⟨.other n, content⟩]) .server =
      enqueue (s .server) [⟨.other n, content⟩] := Function.update_self _ _ _
  refine ⟨fun e' => ?_, fun e' => ?_, ?_, ?_⟩
  · cases e' with
    | client =>
      rw [client, End.other, server]
      exact (inv.own .client).mono fun lives => .inl ((enqueue_port _ _).mp lives)
    | server =>
      rw [End.other, client, server]
      exact (inv.own .server).enqueue _
  · cases e' with
    | client =>
      rw [client, End.other, server]
      refine (inv.linked .client).enqueue ?_
      rw [from_other (by rintro ⟨⟩), List.append_nil]
    | server =>
      rw [End.other, client, server]
      have linked := inv.linked .server
      exact ⟨linked.waiting, linked.gone, linked.inOrder, linked.whole⟩
  · rw [client, server]
    exact inv.adopted
  · rw [client]
    exact inv.queue

theorem inv_step (s : System) (event : Event) (inv : Inv l s) (proper : Proper l s event) :
    Inv l (step l s event) := by
  cases event with
  | starts e handshakeSent answers => exact inv.put (inv.starts proper.1 proper.2 rfl)
  | writes e m answers =>
    exact inv.put (inv.writes proper.1 fun ours => proper.2 (ours.imp_right .inl))
  | retries e answers =>
    unfold step
    dsimp only
    split_ifs with none
    · exact inv
    · exact inv.put (inv.retries none fun ours => proper (ours.imp_right .inl))
  | receives e opens answers =>
    unfold step
    dsimp only
    split
    · exact inv
    · exact inv
    case _ packet packets port =>
      split_ifs with watching
      · refine inv.put (inv.receives port watching fun ours strange => proper ?_)
        rw [port]
        exact .inr (.inr ⟨strange, packet, rfl, ours⟩)
      · exact inv
  | receiveFails e =>
    unfold step
    dsimp only
    split_ifs
    · exact inv.update _ _
    · exact inv
  | leaksHandle e => exact inv.update _ _
  | shutsDown e => exact inv.put (inv.shutsDown proper)
  | othersSend n content => exact inv.othersSend n content

end BlinkerFluid.MachChannel
