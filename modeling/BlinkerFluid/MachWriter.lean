import BlinkerFluid.MachFrame

/-! The sending side of a channel. A message that the kernel has no room for stays in the send
buffer, later messages wait behind it, and a task is posted that tries again. -/

namespace BlinkerFluid.MachWriter
open MachFrame

inductive Error
  | kConnectionFailed
  | kReceivedMalformedData
  | kDisconnected
deriving DecidableEq

inductive SendResult
  | success
  | timedOut
  | invalidDest
  | failed
deriving DecidableEq

/-- Whether files can be made into ports, and how the message is taken. -/
structure KernelAnswer where
  makesPorts : Bool
  result : SendResult
deriving DecidableEq

/-- What the lock for writing protects, the tasks that were posted, and what was written and
sent so far. -/
structure Writer where
  handshakeDone : Bool
  rejectWrites : Bool
  sendBufferAllocated : Bool
  sendBuffer : Option Frame
  isRetryScheduled : Bool
  pendingMessages : List Message
  retryTasks : ℕ
  postedErrors : List Error
  accepted : List Message
  sent : List Frame
  crashed : Bool

def idle : Writer := ⟨false, false, false, none, false, [], 0, [], [], [], false⟩

def onWriteErrorLocked (w : Writer) (error : Error) : Writer :=
  { w with rejectWrites := true, postedErrors := w.postedErrors ++ [error] }

def scheduleRetry (w : Writer) : Writer :=
  if w.isRetryScheduled then w
  else { w with isRetryScheduled := true, retryTasks := w.retryTasks + 1 }

/-- The send buffer is written to and read by the kernel, so it must not be released. -/
def machMessageSendLocked (w : Writer) (frame : Frame) (result : SendResult) : Writer × Bool :=
  if w.sendBufferAllocated then
    match result with
    | .success => ({ w with sendBuffer := none, sent := w.sent ++ [frame] }, true)
    | .timedOut => (scheduleRetry { w with sendBuffer := some frame }, false)
    | .invalidDest => ({ w with sendBuffer := none }, false)
    | .failed => (onWriteErrorLocked { w with sendBuffer := none } .kDisconnected, false)
  else ({ w with crashed := true }, false)

variable (l : Layout)

/-- The message is written into the send buffer before its files are made ports. -/
def sendMessageLocked (w : Writer) (m : Message) (answer : KernelAnswer) : Writer × Bool :=
  if w.sendBufferAllocated = false then ({ w with crashed := true }, false)
  else if (∃ handle ∈ m.handles, handle.type = .kFd) ∧ answer.makesPorts = false then
    (onWriteErrorLocked w .kDisconnected, false)
  else machMessageSendLocked w (serialize l m) answer.result

/-- The kernel has no room as long as nothing else is known. -/
def next (answers : List KernelAnswer) : KernelAnswer := answers.headD ⟨true, .timedOut⟩

/-- A message leaves the queue whether it was sent or not. -/
def sendEach (w : Writer) : List Message → List KernelAnswer → Writer
  | [], _ => { w with pendingMessages := [] }
  | m :: messages, answers =>
    if w.rejectWrites then { w with pendingMessages := m :: messages }
    else
      let (w, didSend) := sendMessageLocked l w m (next answers)
      if didSend then sendEach w messages answers.tail else { w with pendingMessages := messages }

def sendPendingMessagesLocked (w : Writer) (answers : List KernelAnswer) : Writer :=
  match w.sendBuffer with
  | none => sendEach l w w.pendingMessages answers
  | some frame =>
    if w.rejectWrites then w
    else
      let (w, didSend) := machMessageSendLocked w frame (next answers).result
      if didSend then sendEach l w w.pendingMessages answers.tail else w

def write (w : Writer) (m : Message) (answers : List KernelAnswer) : Writer :=
  if w.rejectWrites then w
  else
    let w := { w with accepted := w.accepted ++ [m] }
    if w.handshakeDone = false then { w with pendingMessages := w.pendingMessages ++ [m] }
    else if w.sendBuffer ≠ none ∨ w.pendingMessages ≠ [] then
      sendPendingMessagesLocked l { w with pendingMessages := w.pendingMessages ++ [m] } answers
    else (sendMessageLocked l w m (next answers)).1

def retrySendPendingMessages (w : Writer) (answers : List KernelAnswer) : Writer :=
  sendPendingMessagesLocked l
    { w with isRetryScheduled := false, retryTasks := w.retryTasks - 1 } answers

def finishHandshake (w : Writer) (answers : List KernelAnswer) : Writer :=
  sendPendingMessagesLocked l { w with handshakeDone := true } answers

def allocateBuffer (w : Writer) : Writer := { w with sendBufferAllocated := true }

def releaseBuffer (w : Writer) : Writer :=
  { w with sendBufferAllocated := false, rejectWrites := true }

/-! What holds of a writer. -/

structure Sound (w : Writer) : Prop where
  crashed : w.crashed = false
  allocated : w.handshakeDone = true → w.rejectWrites = false → w.sendBufferAllocated = true
  early : w.handshakeDone = false → w.sendBuffer = none ∧ w.sent = [] ∧
    w.isRetryScheduled = false ∧ (w.rejectWrites = false → w.accepted = w.pendingMessages)
  scheduled : w.retryTasks = if w.isRetryScheduled then 1 else 0
  retried : w.sendBuffer ≠ none → w.rejectWrites = false → w.isRetryScheduled = true

/-- Every message that was accepted was sent, is in the buffer, or is pending. -/
structure Whole (w : Writer) : Prop where
  conserved : w.rejectWrites = false → w.accepted.map (serialize l) =
    w.sent ++ w.sendBuffer.toList ++ w.pendingMessages.map (serialize l)
  waiting : w.rejectWrites = false → w.handshakeDone = true → w.sendBuffer = none →
    w.pendingMessages = []

def InOrder (w : Writer) : Prop := w.sent <+: w.accepted.map (serialize l)

/-- A message is lost only if the other port is gone, and then none is sent. -/
def Consistent (alive : Prop) (answers : List KernelAnswer) : Prop :=
  ∀ answer ∈ answers, (answer.result = .invalidDest → ¬alive) ∧ (answer.result = .success → alive)

instance (alive : Prop) [Decidable alive] (answers : List KernelAnswer) :
    Decidable (Consistent alive answers) := by
  unfold Consistent
  infer_instance

/-- A writer whose messages go to the port of the peer, or to that of somebody else. -/
structure Good (peer alive : Prop) (w : Writer) : Prop where
  sound : Sound w
  inOrder : peer → InOrder l w
  whole : peer → alive → Whole l w

structure Sends (w w' : Writer) : Prop where
  handshakeDone : w'.handshakeDone = w.handshakeDone
  accepted : w'.accepted = w.accepted
  allocated : w'.sendBufferAllocated = w.sendBufferAllocated
  grows : w.sent <+: w'.sent
  closed : w.rejectWrites = true → w'.rejectWrites = true ∧ w'.sent = w.sent

variable {l} {peer alive : Prop} {w : Writer}

theorem Consistent.next {answers : List KernelAnswer} (consistent : Consistent alive answers) :
    ((next answers).result = .invalidDest → ¬alive) ∧
      ((next answers).result = .success → alive) := by
  cases answers with
  | nil => exact ⟨by rintro ⟨⟩, by rintro ⟨⟩⟩
  | cons answer answers => exact consistent answer List.mem_cons_self

theorem Consistent.tail {answers : List KernelAnswer} (consistent : Consistent alive answers) :
    Consistent alive answers.tail :=
  fun answer mem => consistent answer (List.mem_of_mem_tail mem)

theorem good_idle : Good l peer alive idle where
  sound := ⟨rfl, by rintro ⟨⟩, fun _ => ⟨rfl, rfl, rfl, fun _ => rfl⟩, rfl,
    fun some => absurd rfl some⟩
  inOrder := fun _ => List.nil_prefix
  whole := fun _ _ => ⟨fun _ => rfl, by rintro - ⟨⟩⟩

theorem Sends.refl : Sends w w := ⟨rfl, rfl, rfl, List.prefix_rfl, fun closed => ⟨closed, rfl⟩⟩

theorem Sends.trans {w' w'' : Writer} (first : Sends w w') (second : Sends w' w'') : Sends w w'' :=
  ⟨second.handshakeDone.trans first.handshakeDone, second.accepted.trans first.accepted,
    second.allocated.trans first.allocated, first.grows.trans second.grows, fun closed => by
      obtain ⟨closed', sent⟩ := first.closed closed
      obtain ⟨closed'', sent'⟩ := second.closed closed'
      exact ⟨closed'', sent'.trans sent⟩⟩

theorem scheduleRetry_cases (w : Writer) : ∃ tasks, scheduleRetry w =
      { w with isRetryScheduled := true, retryTasks := tasks } ∧
    (w.retryTasks = (if w.isRetryScheduled then 1 else 0) → tasks = 1) := by
  unfold scheduleRetry
  split_ifs with scheduled
  · exact ⟨w.retryTasks, by rw [← scheduled], id⟩
  · exact ⟨w.retryTasks + 1, rfl, fun none => by rw [none]⟩

/-! Sending one message. -/

/-- How a message leaves the hands of the channel. -/
inductive Attempted (peer alive : Prop) (w : Writer) (frame : Frame) : Writer × Bool → Prop
  | sent : (peer → alive) →
    Attempted peer alive w frame ({ w with sendBuffer := none, sent := w.sent ++ [frame] }, true)
  | kept : Attempted peer alive w frame (scheduleRetry { w with sendBuffer := some frame }, false)
  | lost : (peer → ¬alive) → Attempted peer alive w frame ({ w with sendBuffer := none }, false)
  | failed {buffer : Option Frame} : Attempted peer alive w frame
    (onWriteErrorLocked { w with sendBuffer := buffer } .kDisconnected, false)

theorem machMessageSendLocked_attempted (allocated : w.sendBufferAllocated = true)
    (frame : Frame) {result : SendResult}
    (consistent : peer → (result = .invalidDest → ¬alive) ∧ (result = .success → alive)) :
    Attempted peer alive w frame (machMessageSendLocked w frame result) := by
  unfold machMessageSendLocked
  rw [if_pos allocated]
  cases result with
  | success => exact .sent fun ours => (consistent ours).2 rfl
  | timedOut => exact .kept
  | invalidDest => exact .lost fun ours => (consistent ours).1 rfl
  | failed => exact .failed

theorem sendMessageLocked_attempted (allocated : w.sendBufferAllocated = true) (m : Message)
    {answer : KernelAnswer} (consistent : peer →
      (answer.result = .invalidDest → ¬alive) ∧ (answer.result = .success → alive)) :
    Attempted peer alive w (serialize l m) (sendMessageLocked l w m answer) := by
  rw [sendMessageLocked, if_neg (by simp [allocated])]
  split_ifs
  · exact .failed
  · exact machMessageSendLocked_attempted allocated _ consistent

/-- A writer that is about to send some frames. -/
structure Holds (l : Layout) (peer alive : Prop) (w : Writer) (frames : List Frame) : Prop where
  crashed : w.crashed = false
  allocated : w.rejectWrites = false → w.sendBufferAllocated = true
  scheduled : w.retryTasks = if w.isRetryScheduled then 1 else 0
  ready : w.handshakeDone = true
  inOrder : peer → InOrder l w
  left : peer → alive → w.rejectWrites = false →
    w.accepted.map (serialize l) = w.sent ++ frames

theorem Holds.not_early {frames : List Frame} (holds : Holds l peer alive w frames) {p : Prop}
    (early : w.handshakeDone = false) : p := by
  rw [holds.ready] at early
  cases early

theorem Holds.sound {frames : List Frame} (holds : Holds l peer alive w frames)
    (still : w.sendBuffer ≠ none → w.rejectWrites = false → w.isRetryScheduled = true) :
    Sound w :=
  ⟨holds.crashed, fun _ => holds.allocated, holds.not_early, holds.scheduled, still⟩

/-- What comes of an attempt: the frame was sent, or the writer is good with the rest pending. -/
theorem Holds.attempted {frame : Frame} {messages : List Message}
    (holds : Holds l peer alive w (frame :: messages.map (serialize l)))
    (open_ : w.rejectWrites = false) {after : Writer × Bool}
    (attempted : Attempted peer alive w frame after) :
    Sends w after.1 ∧ after.1.pendingMessages = w.pendingMessages ∧
      (after.2 = true → after.1.sendBuffer = none ∧
        Holds l peer alive after.1 (messages.map (serialize l))) ∧
      (after.2 = false → Good l peer alive { after.1 with pendingMessages := messages }) := by
  have early : ∀ {p : Prop}, w.handshakeDone = false → p := holds.not_early
  obtain ⟨crashed, allocated, scheduled, ready, inOrder, left⟩ := holds
  have open' : ∀ {p : Prop}, w.rejectWrites = true → p := fun closed => by
    rw [open_] at closed
    cases closed
  cases attempted with
  | sent reached =>
    refine ⟨⟨rfl, rfl, rfl, List.prefix_append _ _, open'⟩, rfl, fun _ => ⟨rfl, crashed,
      allocated, scheduled, ready, fun ours => ?_, fun ours lives _ => ?_⟩, by rintro ⟨⟩⟩
    · rw [InOrder, left ours (reached ours) open_]
      exact ⟨messages.map (serialize l), by simp⟩
    · rw [left ours lives open_]
      simp
  | kept =>
    obtain ⟨tasks, retried, one⟩ := scheduleRetry_cases { w with sendBuffer := some frame }
    rw [retried]
    refine ⟨⟨rfl, rfl, rfl, List.prefix_rfl, open'⟩, rfl, by rintro ⟨⟩, fun _ =>
      ⟨⟨crashed, fun _ => allocated, early, one scheduled, fun _ _ => rfl⟩, inOrder,
        fun ours lives => ⟨fun _ => ?_, by rintro - - ⟨⟩⟩⟩⟩
    rw [left ours lives open_]
    simp
  | lost gone =>
    exact ⟨⟨rfl, rfl, rfl, List.prefix_rfl, open'⟩, rfl, by rintro ⟨⟩, fun _ =>
      ⟨⟨crashed, fun _ => allocated, early, scheduled, fun some => absurd rfl some⟩, inOrder,
        fun ours lives => absurd lives (gone ours)⟩⟩
  | failed =>
    exact ⟨⟨rfl, rfl, rfl, List.prefix_rfl, open'⟩, rfl, by rintro ⟨⟩, fun _ =>
      ⟨⟨crashed, by rintro - ⟨⟩, early, scheduled, by rintro - ⟨⟩⟩, inOrder,
        fun _ _ => ⟨by rintro ⟨⟩, by rintro ⟨⟩⟩⟩⟩

theorem sendEach_good {messages : List Message} {answers : List KernelAnswer}
    (holds : Holds l peer alive w (messages.map (serialize l))) (empty : w.sendBuffer = none)
    (consistent : peer → Consistent alive answers) :
    Sends w (sendEach l w messages answers) ∧
      Good l peer alive (sendEach l w messages answers) := by
  have still : w.sendBuffer ≠ none → w.rejectWrites = false → w.isRetryScheduled = true :=
    fun some => absurd empty some
  induction messages generalizing w answers with
  | nil =>
    obtain ⟨crashed, allocated, -, scheduled, retried⟩ := holds.sound still
    refine ⟨⟨rfl, rfl, rfl, List.prefix_rfl, Sends.refl.closed⟩,
      ⟨crashed, allocated, holds.not_early, scheduled, retried⟩, holds.inOrder,
      fun ours lives => ⟨fun open_ => ?_, fun _ _ _ => rfl⟩⟩
    rw [sendEach, holds.left ours lives open_, empty]
    simp
  | cons m messages ih =>
    unfold sendEach
    split_ifs with closed
    · obtain ⟨crashed, allocated, -, scheduled, retried⟩ := holds.sound still
      refine ⟨⟨rfl, rfl, rfl, List.prefix_rfl, Sends.refl.closed⟩,
        ⟨crashed, allocated, holds.not_early, scheduled, retried⟩, holds.inOrder,
        fun _ _ => ⟨fun open_ => ?_, fun open_ => ?_⟩⟩
      all_goals
        rw [closed] at open_
        cases open_
    · have open_ : w.rejectWrites = false := Bool.eq_false_iff.mpr closed
      have attempted := sendMessageLocked_attempted (l := l) (holds.allocated open_) m
        fun ours => (consistent ours).next
      obtain ⟨sends, -, went, stayed⟩ := holds.attempted open_ attempted
      cases done : sendMessageLocked l w m (next answers) with
      | mk after didSend =>
        rw [done] at sends went stayed
        cases didSend with
        | true =>
          obtain ⟨empty', holds'⟩ := went rfl
          obtain ⟨sends', good⟩ := ih holds' empty' (fun ours => (consistent ours).tail)
            fun some => absurd empty' some
          exact ⟨sends.trans sends', good⟩
        | false =>
          exact ⟨⟨sends.handshakeDone, sends.accepted, sends.allocated, sends.grows,
            sends.closed⟩, stayed rfl⟩

theorem sendPendingMessagesLocked_good {answers : List KernelAnswer}
    (holds : Holds l peer alive w
      (w.sendBuffer.toList ++ w.pendingMessages.map (serialize l)))
    (consistent : peer → Consistent alive answers) :
    Sends w (sendPendingMessagesLocked l w answers) ∧
      Good l peer alive (sendPendingMessagesLocked l w answers) := by
  unfold sendPendingMessagesLocked
  cases buffered : w.sendBuffer with
  | none =>
    rw [buffered] at holds
    exact sendEach_good holds buffered consistent
  | some frame =>
    rw [buffered] at holds
    simp only
    by_cases closed : w.rejectWrites = true
    · have shut : ∀ {p : Prop}, w.rejectWrites = false → p := fun open_ => by
        rw [closed] at open_
        cases open_
      rw [if_pos closed]
      exact ⟨Sends.refl, holds.sound fun _ => shut, holds.inOrder, fun _ _ => ⟨shut, shut⟩⟩
    · have open_ : w.rejectWrites = false := Bool.eq_false_iff.mpr closed
      have attempted := machMessageSendLocked_attempted (holds.allocated open_) frame
        fun ours => (consistent ours).next
      obtain ⟨sends, pending, went, stayed⟩ := holds.attempted open_ attempted
      rw [if_neg closed]
      cases done : machMessageSendLocked w frame (next answers).result with
      | mk after didSend =>
        rw [done] at sends pending went stayed
        cases didSend with
        | true =>
          obtain ⟨empty, holds'⟩ := went rfl
          rw [← pending] at holds'
          obtain ⟨sends', good⟩ := sendEach_good holds' empty fun ours => (consistent ours).tail
          exact ⟨sends.trans sends', good⟩
        | false =>
          have good := stayed rfl
          rw [← pending] at good
          exact ⟨sends, good⟩

/-! The calls. -/

theorem Good.left (good : Good l peer alive w) (ours : peer) (lives : alive)
    (open_ : w.rejectWrites = false) : w.accepted.map (serialize l) =
      w.sent ++ (w.sendBuffer.toList ++ w.pendingMessages.map (serialize l)) := by
  rw [(good.whole ours lives).conserved open_, List.append_assoc]

structure Writes (m : Message) (w w' : Writer) : Prop where
  handshakeDone : w'.handshakeDone = w.handshakeDone
  accepted : w'.accepted = if w.rejectWrites then w.accepted else w.accepted ++ [m]
  allocated : w'.sendBufferAllocated = w.sendBufferAllocated
  grows : w.sent <+: w'.sent
  closed : w.rejectWrites = true → w'.rejectWrites = true ∧ w'.sent = w.sent

theorem write_good (good : Good l peer alive w) (m : Message) {answers : List KernelAnswer}
    (consistent : peer → Consistent alive answers) :
    Writes m w (write l w m answers) ∧
      Good l peer alive (write l w m answers) := by
  have sound := good.sound
  unfold write
  by_cases closed : w.rejectWrites = true
  · rw [if_pos closed]
    exact ⟨⟨rfl, by rw [if_pos closed], rfl, List.prefix_rfl, fun _ => ⟨closed, rfl⟩⟩, good⟩
  have open_ : w.rejectWrites = false := Bool.eq_false_iff.mpr closed
  have longer : peer → w.sent <+: (w.accepted ++ [m]).map (serialize l) := fun ours => by
    rw [List.map_append]
    exact (good.inOrder ours).trans (List.prefix_append _ _)
  have left : peer → alive → (w.accepted ++ [m]).map (serialize l) = w.sent ++
      (w.sendBuffer.toList ++ (w.pendingMessages ++ [m]).map (serialize l)) := fun ours lives => by
    rw [List.map_append, good.left ours lives open_, List.map_append]
    simp only [List.append_assoc]
  have accepted : w.accepted ++ [m] =
      if w.rejectWrites = true then w.accepted else w.accepted ++ [m] := (if_neg closed).symm
  rw [if_neg closed]
  simp only
  split_ifs with early waiting
  · obtain ⟨empty, unsent, unscheduled, pending⟩ := sound.early early
    refine ⟨⟨rfl, accepted, rfl, List.prefix_rfl, fun shut => ⟨shut, rfl⟩⟩,
      ⟨⟨sound.crashed, sound.allocated, fun _ => ⟨empty, unsent, unscheduled,
        fun _ => congrArg (· ++ [m]) (pending open_)⟩, sound.scheduled, sound.retried⟩, longer,
        fun ours lives => ⟨fun _ => ?_, fun _ ready => ?_⟩⟩⟩
    · rw [left ours lives, ← List.append_assoc]
    · rw [early] at ready
      cases ready
  · have ready : w.handshakeDone = true := Bool.ne_false_iff.mp early
    obtain ⟨sends, after⟩ := sendPendingMessagesLocked_good (l := l)
      (w := { w with accepted := w.accepted ++ [m], pendingMessages := w.pendingMessages ++ [m] })
      ⟨sound.crashed, sound.allocated ready, sound.scheduled, ready, longer,
        fun ours lives _ => left ours lives⟩ consistent
    exact ⟨⟨sends.handshakeDone, sends.accepted.trans accepted, sends.allocated, sends.grows,
      sends.closed⟩, after⟩
  · have ready : w.handshakeDone = true := Bool.ne_false_iff.mp early
    obtain ⟨empty, nothing⟩ := not_or.mp waiting
    rw [not_not] at empty nothing
    have holds : Holds l peer alive { w with accepted := w.accepted ++ [m] }
        (serialize l m :: ([] : List Message).map (serialize l)) :=
      ⟨sound.crashed, sound.allocated ready, sound.scheduled, ready, longer, fun ours lives _ => by
        have all := left ours lives
        rw [empty, nothing] at all
        exact all⟩
    have attempted := sendMessageLocked_attempted (l := l) (holds.allocated open_) m
      fun ours => (consistent ours).next
    obtain ⟨sends, pending, went, stayed⟩ := holds.attempted open_ attempted
    cases done : sendMessageLocked l { w with accepted := w.accepted ++ [m] } m (next answers) with
    | mk after didSend =>
      rw [done] at sends pending went stayed
      have still : after.pendingMessages = [] := pending.trans nothing
      refine ⟨⟨sends.handshakeDone, sends.accepted.trans accepted, sends.allocated, sends.grows,
        sends.closed⟩, ?_⟩
      cases didSend with
      | true =>
        obtain ⟨empty', holds'⟩ := went rfl
        refine ⟨holds'.sound fun some => absurd empty' some, holds'.inOrder, fun ours lives =>
          ⟨fun open' => ?_, fun _ _ _ => still⟩⟩
        rw [holds'.left ours lives open', empty', still]
        simp
      | false =>
        have good' := stayed rfl
        rwa [← still] at good'

theorem retry_good (good : Good l peer alive w) (ready : w.handshakeDone = true)
    {answers : List KernelAnswer} (consistent : peer → Consistent alive answers) :
    Sends w (retrySendPendingMessages l w answers) ∧
      Good l peer alive (retrySendPendingMessages l w answers) := by
  have tasks : w.retryTasks - 1 = 0 := by
    have := good.sound.scheduled
    split_ifs at this <;> omega
  have holds : Holds l peer alive
      { w with isRetryScheduled := false, retryTasks := w.retryTasks - 1 }
      (w.sendBuffer.toList ++ w.pendingMessages.map (serialize l)) :=
    ⟨good.sound.crashed, good.sound.allocated ready, tasks, ready, good.inOrder, good.left⟩
  obtain ⟨sends, after⟩ := sendPendingMessagesLocked_good holds consistent
  exact ⟨⟨sends.handshakeDone, sends.accepted, sends.allocated, sends.grows, sends.closed⟩, after⟩

theorem finishHandshake_good (sound : Sound w) (early : w.handshakeDone = false)
    (allocated : w.rejectWrites = false → w.sendBufferAllocated = true)
    {answers : List KernelAnswer} (consistent : peer → Consistent alive answers) :
    Sends { w with handshakeDone := true } (finishHandshake l w answers) ∧
      Good l peer alive (finishHandshake l w answers) := by
  obtain ⟨empty, unsent, -, pending⟩ := sound.early early
  have holds : Holds l peer alive { w with handshakeDone := true }
      (w.sendBuffer.toList ++ w.pendingMessages.map (serialize l)) :=
    ⟨sound.crashed, allocated, sound.scheduled, rfl, fun _ => unsent ▸ List.nil_prefix,
      fun _ _ open_ => by rw [pending open_, unsent, empty]; rfl⟩
  exact sendPendingMessagesLocked_good holds consistent

theorem releaseBuffer_good (good : Good l peer alive w) : Good l peer alive (releaseBuffer w) where
  sound := ⟨good.sound.crashed, by rintro - ⟨⟩, fun early =>
      ⟨(good.sound.early early).1, (good.sound.early early).2.1, (good.sound.early early).2.2.1,
        by rintro ⟨⟩⟩, good.sound.scheduled, by rintro - ⟨⟩⟩
  inOrder := good.inOrder
  whole := fun _ _ => ⟨by rintro ⟨⟩, by rintro ⟨⟩⟩

theorem onWriteErrorLocked_good (good : Good l peer alive w) (error : Error) :
    Good l peer alive (onWriteErrorLocked w error) where
  sound := ⟨good.sound.crashed, by rintro - ⟨⟩, fun early =>
      ⟨(good.sound.early early).1, (good.sound.early early).2.1, (good.sound.early early).2.2.1,
        by rintro ⟨⟩⟩, good.sound.scheduled, by rintro - ⟨⟩⟩
  inOrder := good.inOrder
  whole := fun _ _ => ⟨by rintro ⟨⟩, by rintro ⟨⟩⟩

theorem allocateBuffer_good (good : Good l peer alive w) :
    Good l peer alive (allocateBuffer w) where
  sound := ⟨good.sound.crashed, fun _ _ => rfl, good.sound.early, good.sound.scheduled,
    good.sound.retried⟩
  inOrder := good.inOrder
  whole := fun ours lives => ⟨(good.whole ours lives).conserved, (good.whole ours lives).waiting⟩

theorem Good.mono (good : Good l peer alive w) {alive' : Prop} (still : alive' → alive) :
    Good l peer alive' w :=
  ⟨good.sound, good.inOrder, fun ours lives => good.whole ours (still lives)⟩

/-! A kernel with room. -/

def taken (count : ℕ) : List KernelAnswer := List.replicate count ⟨true, .success⟩

theorem consistent_taken (lives : alive) (count : ℕ) : Consistent alive (taken count) := by
  intro answer mem
  obtain ⟨-, rfl⟩ := List.mem_replicate.mp mem
  exact ⟨by rintro ⟨⟩, fun _ => lives⟩

structure Clear (w : Writer) : Prop where
  open_ : w.rejectWrites = false
  empty : w.sendBuffer = none
  nothing : w.pendingMessages = []

theorem machMessageSendLocked_taken (allocated : w.sendBufferAllocated = true) (frame : Frame)
    (count : ℕ) : machMessageSendLocked w frame (next (taken (count + 1))).result =
      ({ w with sendBuffer := none, sent := w.sent ++ [frame] }, true) :=
  if_pos allocated

theorem sendMessageLocked_taken (allocated : w.sendBufferAllocated = true) (m : Message)
    (count : ℕ) : sendMessageLocked l w m (next (taken (count + 1))) =
      ({ w with sendBuffer := none, sent := w.sent ++ [serialize l m] }, true) := by
  have makes : ¬((∃ handle ∈ m.handles, handle.type = .kFd) ∧
      (next (taken (count + 1))).makesPorts = false) := by
    rintro ⟨-, ⟨⟩⟩
  rw [sendMessageLocked, if_neg (by simp [allocated]), if_neg makes]
  exact machMessageSendLocked_taken allocated _ count

theorem sendEach_taken {messages : List Message} {count : ℕ} (enough : messages.length ≤ count)
    (allocated : w.sendBufferAllocated = true) (open_ : w.rejectWrites = false)
    (empty : w.sendBuffer = none) : Clear (sendEach l w messages (taken count)) := by
  induction messages generalizing w count with
  | nil => exact ⟨open_, empty, rfl⟩
  | cons m messages ih =>
    cases count with
    | zero => cases enough
    | succ count =>
      rw [sendEach, if_neg (Bool.eq_false_iff.mp open_), sendMessageLocked_taken allocated]
      exact ih (Nat.le_of_succ_le_succ enough) allocated open_ rfl

theorem sendPendingMessagesLocked_taken {count : ℕ} (enough : w.pendingMessages.length < count)
    (allocated : w.sendBufferAllocated = true) (open_ : w.rejectWrites = false) :
    Clear (sendPendingMessagesLocked l w (taken count)) := by
  unfold sendPendingMessagesLocked
  cases buffered : w.sendBuffer with
  | none => exact sendEach_taken enough.le allocated open_ buffered
  | some frame =>
    cases count with
    | zero => cases enough
    | succ count =>
      simp only
      rw [if_neg (Bool.eq_false_iff.mp open_), machMessageSendLocked_taken allocated]
      exact sendEach_taken (Nat.le_of_lt_succ enough) allocated open_ rfl

theorem Good.clear (good : Good l peer alive w) (ours : peer) (lives : alive)
    (ready : w.handshakeDone = true) (open_ : w.rejectWrites = false) (none : w.retryTasks = 0) :
    Clear w := by
  have empty : w.sendBuffer = .none := by
    by_contra some
    have scheduled := good.sound.scheduled
    rw [good.sound.retried some open_, none] at scheduled
    cases scheduled
  exact ⟨open_, empty, (good.whole ours lives).waiting open_ ready empty⟩

theorem Good.sent_eq (good : Good l peer alive w) (ours : peer) (lives : alive) (clear : Clear w) :
    w.sent = w.accepted.map (serialize l) := by
  rw [(good.whole ours lives).conserved clear.open_, clear.empty, clear.nothing]
  simp

end BlinkerFluid.MachWriter
