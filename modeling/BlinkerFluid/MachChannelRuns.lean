import BlinkerFluid.MachLinks

/-! What arrives over a channel. Whatever the two ends, the kernel and other processes do, an end
dispatches the messages that the other end wrote, in their order and none twice. No message is
stuck: a task to send it again is posted as long as one waits. -/

namespace BlinkerFluid.MachChannel
open MachFrame MachWriter StepRun

variable {l : Layout} {s : System} {e : End} {c : ChannelMac}

def reached (l : Layout) (events : List Event) : System := events.foldl (step l) create

theorem inv_reached {events : List Event} (proper : Permitted (Proper l) (step l) create events) :
    Inv l (reached l events) :=
  invariant_run inv_step create events inv_create proper

/-- Sizes on a device, for messages that come without handles. -/
def deviceLayout : Layout where
  header := 24
  body := 4
  portDescriptor := 12
  outOfLineDescriptor := 16
  trailer := 52
  bufferSize := 16384
  maxAttachedHandles := 128
  extraHeader := fun data => if data = [] then none else some none
  trailer_dvd := by decide
  attached := by decide

theorem wellFormed_device {data : List UInt8} (some : data ≠ []) :
    WellFormed deviceLayout ⟨data, []⟩ :=
  ⟨some, by rintro _ ⟨⟩, Nat.zero_le _, .inl ⟨if_neg some, rfl⟩⟩

/-- The client writes before the server knows it, and the kernel has no room. -/
def greetedRun : List Event :=
  [.starts .client true [], .writes .client ⟨[1], []⟩ [⟨true, .timedOut⟩],
    .starts .server false [], .receives .server true []]

theorem greetedRun_proper :
    Permitted (Proper deviceLayout) (step deviceLayout) create greetedRun :=
  ⟨⟨rfl, by decide⟩, ⟨wellFormed_device (by decide), fun _ => by decide⟩, ⟨rfl, by decide⟩,
    fun _ => by decide, trivial⟩

theorem reached_append (past future : List Event) :
    reached l (past ++ future) = future.foldl (step l) (reached l past) :=
  List.foldl_append

theorem filterMap_readMessage {messages : List Message}
    (wellFormed : ∀ m ∈ messages, WellFormed l m) (sender : Token) :
    ((messages.map (serialize l)).map fun f => (⟨sender, .frame f⟩ : Packet)).filterMap
      (readMessage l) = messages := by
  induction messages with
  | nil => rfl
  | cons m messages ih =>
    rw [List.map_cons, List.map_cons,
      List.filterMap_cons_some (readMessage_serialize (wellFormed m List.mem_cons_self) sender),
      ih fun m' mem => wellFormed m' (List.mem_cons_of_mem _ mem)]

theorem filterMap_greeting (e : End) (c : ChannelMac) :
    (greeting e c).filterMap (readMessage l) = [] := by
  unfold greeting
  split_ifs <;> rfl

theorem Own.filterMap_link {alive : Prop} (own : Own l e c alive) :
    (link e c).filterMap (readMessage l) <+: c.writer.accepted := by
  rw [link, List.filterMap_append, filterMap_greeting, List.nil_append]
  unfold sentTo
  split_ifs with ours
  · have sent := List.prefix_iff_eq_take.mp (own.good.inOrder ours)
    rw [← List.map_take] at sent
    rw [sent, filterMap_readMessage fun m mem => own.wellFormed m (List.mem_of_mem_take mem)]
    exact List.take_prefix _ _
  · exact List.nil_prefix

theorem Inv.dispatched_first (inv : Inv l s) (opened : (s e.other).unopened = false) :
    dispatchedFrom e (s e.other) <+: (s e).writer.accepted := by
  have linked := inv.linked e
  have arrived : from_ e (s e.other).received <+: link e (s e) := by
    cases port : (s e.other).receivePort with
    | none => exact linked.gone port
    | some queue =>
      rw [← linked.waiting queue port, from_append]
      exact List.prefix_append _ _
  exact (linked.inOrder opened).trans ((arrived.filterMap _).trans (inv.own e).filterMap_link)

/-- Whatever the ends, the kernel and other processes do, what an end dispatches of the other end
are the first messages that were accepted there. A message that waits has a task posted, at most
one, and the send buffer is not used when it is gone. -/
theorem messages_in_order (events : List Event)
    (proper : Permitted (Proper l) (step l) create events) (e : End) :
    ((reached l events e.other).unopened = false →
        dispatchedFrom e (reached l events e.other) <+: (reached l events e).writer.accepted) ∧
      (reached l events e).writer.crashed = false ∧
      (reached l events e).writer.retryTasks ≤ 1 ∧
      ((reached l events e).writer.sendBuffer ≠ none →
        (reached l events e).writer.rejectWrites = false →
          (reached l events e).writer.retryTasks = 1) := by
  have inv := inv_reached proper
  have sound := (inv.own e).good.sound
  refine ⟨inv.dispatched_first, sound.crashed, ?_, fun waits open_ => ?_⟩
  · rw [sound.scheduled]
    split_ifs <;> decide
  · rw [sound.scheduled, if_pos (sound.retried waits open_)]

def retriedRun : List Event :=
  [.writes .client ⟨[2], []⟩ [], .retries .client (taken 2), .receives .server true [],
    .receives .server true []]

theorem messages_in_order_retried :
    dispatchedFrom .client (reached deviceLayout (greetedRun ++ retriedRun) .server) =
        [⟨[1], []⟩, ⟨[2], []⟩] ∧
      dispatchedFrom .client (reached deviceLayout (greetedRun ++ retriedRun) .server) <+:
        (reached deviceLayout (greetedRun ++ retriedRun) .client).writer.accepted := by
  have proper : Permitted (Proper deviceLayout) (step deviceLayout) create
      (greetedRun ++ retriedRun) := by
    refine (permitted_append _ _ _).mpr ⟨greetedRun_proper, ?_⟩
    exact ⟨⟨wellFormed_device (by decide), fun _ => by decide⟩, fun _ => by decide,
      fun _ => by decide, fun _ => by decide, trivial⟩
  exact ⟨rfl, (messages_in_order _ proper .client).1 rfl⟩

/-! Who is heard. -/

/-- A peer that is known stays the peer, and only its messages are dispatched. -/
structure Follows (e : End) (c c' : ChannelMac) : Prop where
  settled : ∀ t, c.peerAuditToken = some t → c'.peerAuditToken = some t
  dispatched : ∃ more, c'.dispatched = c.dispatched ++ more ∧ ∀ pair ∈ more,
    (c.peerAuditToken = none ∨ c.peerAuditToken = some pair.1) ∧
      (e = .client → pair.1 = .channel .server)

theorem Follows.still {c c' : ChannelMac} (settled : c'.peerAuditToken = c.peerAuditToken)
    (dispatched : c'.dispatched = c.dispatched) : Follows e c c' where
  settled := fun t known => settled.trans known
  dispatched := ⟨[], by rw [dispatched, List.append_nil], by rintro _ ⟨⟩⟩

theorem Follows.put {c : ChannelMac} (follows : Follows e (s e) c) (greets : List Packet)
    (e' : End) : Follows e' (s e') (put s e c greets e') := by
  obtain rfl | rfl := end_cases e e'
  · rwa [put_self]
  · rw [put_other]
    exact .still rfl rfl

theorem startOnIOThread_follows (c : ChannelMac) (peerAlive handshakeSent : Bool)
    (answers : List KernelAnswer) :
    Follows e c (startOnIOThread l c peerAlive handshakeSent answers).1 := by
  unfold startOnIOThread
  dsimp only
  split_ifs <;> exact .still rfl rfl

theorem receiveFrame_follows (c : ChannelMac) {sender : Token} (f : Frame) (opens : Bool)
    (ours : e = .client → sender = .channel .server) :
    Follows e c (receiveFrame l c sender f opens) := by
  obtain ⟨errors, dispatched, unopened, result, -, delivers⟩ :=
    receiveFrame_cases (l := l) c sender f opens
  rw [result]
  obtain rfl | ⟨⟨m, rfl⟩, heard⟩ := delivers
  · exact .still rfl rfl
  · refine ⟨fun t known => known, [(sender, m)], rfl, fun pair mem => ?_⟩
    obtain rfl := List.mem_singleton.mp mem
    exact ⟨heard, ours⟩

theorem receiveHandshake_follows {c : ChannelMac} (sender : Token) (portAlive : Bool)
    (answers : List KernelAnswer)
    (known : c.peerAuditToken ≠ none → c.writer.handshakeDone = true) :
    Follows e c (receiveHandshake l c sender portAlive answers) := by
  unfold receiveHandshake
  split_ifs with done
  · exact .still rfl rfl
  · exact .still rfl rfl
  · refine ⟨fun t before => absurd (known ?_) done, [], (List.append_nil _).symm, by rintro _ ⟨⟩⟩
    rw [before]
    rintro ⟨⟩

theorem Inv.receives_follows (inv : Inv l s) {packet : Packet} {packets : List Packet}
    (port : (s e).receivePort = some (packet :: packets)) (portAlive opens : Bool)
    (answers : List KernelAnswer) :
    Follows e (s e) (onMachMessageReceived l
      { s e with receivePort := some packets, received := (s e).received ++ [packet] } packet
      portAlive opens answers) := by
  have known : (s e).peerAuditToken ≠ none → (s e).writer.handshakeDone = true := by
    intro known
    cases e with
    | client => exact absurd ((inv.own .client).client rfl) known
    | server => exact ((inv.own .server).greeted rfl).mpr known
  obtain ⟨sender, content⟩ := packet
  unfold onMachMessageReceived
  cases content with
  | deadName => exact .still rfl rfl
  | sendOnce => exact .still rfl rfl
  | handshake alive =>
    obtain ⟨settled, dispatched⟩ := receiveHandshake_follows (l := l) (e := e) (c :=
      { s e with
        receivePort := some packets
        received := (s e).received ++ [⟨sender, .handshake alive⟩] }) sender portAlive answers known
    exact ⟨settled, dispatched⟩
  | frame f =>
    have ours : e = .client → sender = .channel .server := by
      rintro rfl
      obtain ⟨⟨⟩⟩ | ⟨f', frame⟩ := inv.queue _ port _ List.mem_cons_self
      exact congrArg Packet.sender frame
    obtain ⟨settled, dispatched⟩ := receiveFrame_follows (l := l)
      { s e with
        receivePort := some packets
        received := (s e).received ++ [⟨sender, .frame f⟩] } f opens ours
    exact ⟨settled, dispatched⟩

theorem step_follows (inv : Inv l s) (event : Event) (e : End) :
    Follows e (s e) (step l s event e) := by
  have still : ∀ {e : End}, Follows e (s e) (s e) := .still rfl rfl
  cases event with
  | starts e' handshakeSent answers => exact (startOnIOThread_follows _ _ _ _).put _ e
  | writes e' m answers =>
    refine Follows.put (s := s) (e := e') ?_ _ e
    exact .still rfl rfl
  | retries e' answers =>
    unfold step
    dsimp only
    split_ifs
    · exact still
    · refine Follows.put (s := s) (e := e') ?_ _ e
      exact .still rfl rfl
  | receives e' opens answers =>
    unfold step
    dsimp only
    cases port : (s e').receivePort with
    | none => exact still
    | some queue =>
      cases queue with
      | nil => exact still
      | cons packet packets =>
        dsimp only
        split_ifs
        · exact (inv.receives_follows port _ _ _).put _ e
        · exact still
  | receiveFails e' =>
    unfold step
    dsimp only
    split_ifs
    · by_cases ours : e = e'
      · subst ours
        rw [Function.update_self]
        exact .still rfl rfl
      · rw [Function.update_of_ne ours]
        exact still
    · exact still
  | leaksHandle e' =>
    unfold step
    dsimp only
    by_cases ours : e = e'
    · subst ours
      rw [Function.update_self]
      exact .still rfl rfl
    · rw [Function.update_of_ne ours]
      exact still
  | shutsDown e' =>
    refine Follows.put (s := s) (e := e') ?_ _ e
    exact .still rfl rfl
  | othersSend n content =>
    unfold step
    dsimp only
    by_cases ours : e = .server
    · subst ours
      rw [Function.update_self]
      exact .still rfl rfl
    · rw [Function.update_of_ne ours]
      exact still

structure ServerOnly (l : Layout) (s : System) : Prop where
  inv : Inv l s
  heard : ∀ pair ∈ (s .client).dispatched, pair.1 = .channel .server

theorem serverOnly_step (s : System) (event : Event) (only : ServerOnly l s)
    (proper : Proper l s event) : ServerOnly l (step l s event) where
  inv := inv_step s event only.inv proper
  heard := by
    obtain ⟨more, dispatched, theirs⟩ := (step_follows only.inv event .client).dispatched
    intro pair mem
    rw [dispatched] at mem
    exact (List.mem_append.mp mem).elim (only.heard pair) fun new => (theirs pair new).2 rfl

/-- A server that knows its peer, behind what it dispatched before. -/
structure Settled (l : Layout) (t : Token) (before : List (Token × Message)) (s : System) :
    Prop where
  inv : Inv l s
  token : (s .server).peerAuditToken = some t
  dispatched : ∃ more, (s .server).dispatched = before ++ more ∧ ∀ pair ∈ more, pair.1 = t

theorem settled_step {t : Token} {before : List (Token × Message)} (s : System) (event : Event)
    (settled : Settled l t before s) (proper : Proper l s event) :
    Settled l t before (step l s event) := by
  obtain ⟨inv, token, more, dispatched, ours⟩ := settled
  obtain ⟨stays, next, added, theirs⟩ := step_follows inv event .server
  refine ⟨inv_step s event inv proper, stays t token, more ++ next, ?_, fun pair mem => ?_⟩
  · rw [added, dispatched, List.append_assoc]
  · refine (List.mem_append.mp mem).elim (ours pair) fun new => ?_
    obtain unknown | same := (theirs pair new).1
    · rw [token] at unknown
      cases unknown
    · rw [token] at same
      exact (Option.some.inj same).symm

/-- Behind its first handshake a server dispatches messages of one sender only, who cannot change.
The client hears nobody but the server. -/
theorem peer_is_settled (past future : List Event)
    (proper : Permitted (Proper l) (step l) create (past ++ future)) {t : Token}
    (known : (reached l past .server).peerAuditToken = some t) :
    (reached l (past ++ future) .server).peerAuditToken = some t ∧
      (∃ more, (reached l (past ++ future) .server).dispatched =
          (reached l past .server).dispatched ++ more ∧ ∀ pair ∈ more, pair.1 = t) ∧
      ∀ pair ∈ (reached l (past ++ future) .client).dispatched, pair.1 = .channel .server := by
  have only := invariant_run serverOnly_step create (past ++ future)
    ⟨inv_create, by rintro _ ⟨⟩⟩ proper
  rw [permitted_append] at proper
  have settled := invariant_run settled_step (reached l past) future
    ⟨inv_reached proper.1, known, [], (List.append_nil _).symm, by rintro _ ⟨⟩⟩ proper.2
  rw [← reached_append] at settled
  exact ⟨settled.token, settled.dispatched, only.heard⟩

def strangerRun : List Event :=
  [.othersSend 7 (.frame (serialize deviceLayout ⟨[3], []⟩)), .receives .server true []]

theorem peer_is_settled_stranger :
    (reached deviceLayout (greetedRun ++ strangerRun) .server).received.length = 2 ∧
      ∃ more, (reached deviceLayout (greetedRun ++ strangerRun) .server).dispatched =
        (reached deviceLayout greetedRun .server).dispatched ++ more ∧
        ∀ pair ∈ more, pair.1 = .channel .client := by
  have proper : Permitted (Proper deviceLayout) (step deviceLayout) create
      (greetedRun ++ strangerRun) :=
    (permitted_append _ _ _).mpr ⟨greetedRun_proper, trivial, fun _ => by decide, trivial⟩
  exact ⟨rfl, (peer_is_settled greetedRun strangerRun proper rfl).2.1⟩

/-! Nothing is stuck. -/

theorem freshPackets_same {c c' : ChannelMac} (same : c'.writer.sent = c.writer.sent) :
    freshPackets e c c' = [] := by
  unfold freshPackets
  rw [same, List.drop_length]
  exact ite_self _

theorem enqueue_nil (c : ChannelMac) : enqueue c [] = c := by
  unfold enqueue
  cases port : c.receivePort <;> simp [← port]

/-- Behind the handshake a packet changes nothing but what was dispatched and the errors. -/
theorem onMachMessageReceived_done (c : ChannelMac) (done : c.writer.handshakeDone = true)
    (packet : Packet) (portAlive : Bool) (answers : List KernelAnswer) :
    ∃ errors dispatched, onMachMessageReceived l c packet portAlive true answers =
      { c with errors := errors, dispatched := dispatched } := by
  obtain ⟨sender, content⟩ := packet
  unfold onMachMessageReceived
  cases content with
  | deadName => exact ⟨_, c.dispatched, rfl⟩
  | sendOnce => exact ⟨c.errors, c.dispatched, rfl⟩
  | handshake alive =>
    dsimp only
    rw [receiveHandshake, if_pos done]
    exact ⟨_, c.dispatched, rfl⟩
  | frame f =>
    dsimp only
    unfold receiveFrame
    split_ifs
    · exact ⟨_, c.dispatched, rfl⟩
    · exact ⟨_, c.dispatched, rfl⟩
    · exact ⟨c.errors, c.dispatched, rfl⟩
    · cases readFrame f with
      | none => exact ⟨_, c.dispatched, rfl⟩
      | some parts =>
        dsimp only
        cases tryDispatchMessage l true parts.1 parts.2 with
        | some m => exact ⟨c.errors, _, rfl⟩
        | none =>
          refine ⟨c.errors ++ [.kReceivedMalformedData], c.dispatched, ?_⟩
          rw [Option.isSome_none, Bool.or_false]
          rfl

/-- An end that takes its packets, each in turn. -/
structure Takes (s : System) (e : End) (queue : List Packet) : Prop where
  port : (s e).receivePort = some queue
  watching : (s e).watching = true
  ready : (s e).writer.handshakeDone = true
  opened : (s e).unopened = false

theorem takes_step {packet : Packet} {queue : List Packet} (takes : Takes s e (packet :: queue)) :
    Takes (step l s (.receives e true [])) e queue ∧
      (step l s (.receives e true []) e).peerAuditToken = (s e).peerAuditToken ∧
      step l s (.receives e true []) e.other = s e.other := by
  obtain ⟨port, watching, ready, opened⟩ := takes
  obtain ⟨errors, dispatched, received⟩ := onMachMessageReceived_done (l := l)
    { s e with receivePort := some queue, received := (s e).received ++ [packet] } ready packet
    (answerable s packet) []
  have after : step l s (.receives e true []) = put s e
      { s e with
        receivePort := some queue
        received := (s e).received ++ [packet]
        errors := errors
        dispatched := dispatched } [] := by
    unfold step
    dsimp only
    rw [port]
    dsimp only
    rw [if_pos watching, received]
  rw [after]
  refine ⟨⟨?_, ?_, ?_, ?_⟩, ?_, ?_⟩
  · rw [put_self]
  · rwa [put_self]
  · rwa [put_self]
  · rwa [put_self]
  · rw [put_self]
  · rw [put_other]
    exact (congrArg (enqueue (s e.other)) (freshPackets_same rfl)).trans (enqueue_nil _)

theorem takes_run {queue : List Packet} (takes : Takes s e queue) :
    Permitted (Proper l) (step l) s (List.replicate queue.length (.receives e true [])) ∧
      Takes ((List.replicate queue.length (.receives e true [])).foldl (step l) s) e [] ∧
      ((List.replicate queue.length (.receives e true [])).foldl (step l) s e).peerAuditToken =
        (s e).peerAuditToken ∧
      (List.replicate queue.length (.receives e true [])).foldl (step l) s e.other = s e.other := by
  induction queue generalizing s with
  | nil => exact ⟨trivial, takes, rfl, rfl⟩
  | cons packet queue ih =>
    obtain ⟨next, token, other⟩ := takes_step (l := l) takes
    obtain ⟨permitted, last, token', other'⟩ := ih next
    rw [List.length_cons, List.replicate_succ]
    exact ⟨⟨fun _ => by rintro _ ⟨⟩, permitted⟩, last, token'.trans token, other'.trans other⟩

theorem Inv.clears (inv : Inv l s) (ours : Peer e (s e)) (lives : (s e.other).receivePort ≠ none)
    (ready : (s e).writer.handshakeDone = true) (open_ : (s e).writer.rejectWrites = false)
    {after : System}
    (retried : after = step l s
      (.retries e (taken ((s e).writer.pendingMessages.length + 1)))) :
    Clear (after e).writer ∧ (after e).writer.accepted = (s e).writer.accepted ∧
      (after e).peerAuditToken = (s e).peerAuditToken ∧
      ∃ packets, after e.other = enqueue (s e.other) packets := by
  have good := (inv.own e).good
  subst retried
  unfold step
  dsimp only
  split_ifs with none
  · exact ⟨good.clear ours lives ready open_ none, rfl, rfl, [], (enqueue_nil _).symm⟩
  · have allocated := good.sound.allocated ready open_
    obtain ⟨sends, -⟩ := retry_good good ready fun _ =>
      consistent_taken lives ((s e).writer.pendingMessages.length + 1)
    have clear : Clear (retrySendPendingMessages l (s e).writer
        (taken ((s e).writer.pendingMessages.length + 1))) :=
      sendPendingMessagesLocked_taken (Nat.lt_succ_self _) allocated open_
    rw [put_self, put_other]
    exact ⟨clear, sends.accepted, rfl, _, rfl⟩

/-- When nothing waits on the way, all has arrived. -/
theorem Inv.delivered (inv : Inv l s) (ours : Peer e (s e)) (clear : Clear (s e).writer)
    (hears : Hears e (s e.other)) (takes : Takes s e.other []) :
    dispatchedFrom e (s e.other) = (s e).writer.accepted := by
  have lives : (s e.other).receivePort ≠ none := by
    rw [takes.port]
    rintro ⟨⟩
  have received := (inv.linked e).waiting [] takes.port
  rw [List.append_nil] at received
  rw [(inv.linked e).whole takes.opened hears, readable, received, link, List.filterMap_append,
    filterMap_greeting, List.nil_append, sentTo, if_pos ours,
    (inv.own e).good.sent_eq ours lives clear]
  exact filterMap_readMessage (inv.own e).wellFormed _

/-- From every state in which both ends know each other, the messages that were accepted can
still arrive: one more task to send again, and the receiver takes what is in its queue. -/
theorem messages_can_arrive (events : List Event)
    (proper : Permitted (Proper l) (step l) create events) (e : End)
    (adopted : (reached l events .server).peerAuditToken = some (.channel .client))
    (open_ : (reached l events e).writer.rejectWrites = false)
    (port : (reached l events e.other).receivePort ≠ none)
    (watching : (reached l events e.other).watching = true)
    (opened : (reached l events e.other).unopened = false) :
    ∃ tries packets, Permitted (Proper l) (step l) create
        (events ++ .retries e (taken tries) ::
          List.replicate packets (.receives e.other true [])) ∧
      dispatchedFrom e (reached l (events ++ .retries e (taken tries) ::
          List.replicate packets (.receives e.other true [])) e.other) =
        (reached l events e).writer.accepted := by
  have inv := inv_reached proper
  have known : ∀ e', Peer e' (reached l events e') ∧
      (reached l events e').writer.handshakeDone = true ∧
      Hears e'.other (reached l events e') := by
    intro e'
    cases e' with
    | client => exact ⟨.inl rfl, inv.adopted adopted, .inl ((inv.own .client).client rfl)⟩
    | server =>
      refine ⟨.inr adopted, ((inv.own .server).greeted rfl).mpr ?_, .inr adopted⟩
      rw [adopted]
      rintro ⟨⟩
  obtain ⟨ours, ready, -⟩ := known e
  obtain ⟨-, ready', hears⟩ := known e.other
  rw [other_other] at hears
  let tries := (reached l events e).writer.pendingMessages.length + 1
  have permitted : Proper l (reached l events) (.retries e (taken tries)) :=
    fun _ => consistent_taken port _
  obtain ⟨clear, accepted, token, packets, other⟩ := inv.clears ours port ready open_ rfl
  have inv' := inv_step _ _ inv permitted
  obtain ⟨old, known⟩ := Option.ne_none_iff_exists'.mp port
  have takes : Takes (step l (reached l events) (.retries e (taken tries))) e.other
      (old ++ packets) := by
    refine ⟨?_, ?_, ?_, ?_⟩
    all_goals rw [other]
    · rw [enqueue, known]
      rfl
    · exact watching
    · exact ready'
    · exact opened
  obtain ⟨permitted', empty, token', other'⟩ := takes_run (l := l) takes
  rw [other_other] at other'
  refine ⟨tries, (old ++ packets).length, ?_, ?_⟩
  · exact (permitted_append _ _ _).mpr ⟨proper, permitted, permitted'⟩
  · rw [reached_append, List.foldl_cons, ← accepted, ← other']
    refine Inv.delivered (invariant_run inv_step _ _ inv' permitted') ?_ ?_ ?_ empty
    · rw [other', Peer, token]
      exact ours
    · rwa [other']
    · rw [Hears, token', other]
      exact hears

theorem messages_can_arrive_waiting : ∃ tries packets,
    Permitted (Proper deviceLayout) (step deviceLayout) create
        (greetedRun ++ .retries .client (taken tries) ::
          List.replicate packets (.receives .server true [])) ∧
      dispatchedFrom .client (reached deviceLayout (greetedRun ++ .retries .client (taken tries) ::
          List.replicate packets (.receives .server true [])) .server) = [⟨[1], []⟩] :=
  messages_can_arrive greetedRun greetedRun_proper .client rfl rfl (by decide) rfl rfl

end BlinkerFluid.MachChannel
