import BlinkerFluid.MachWriter
import BlinkerFluid.StepRun

/-! A channel between two processes. One end begins with the right to send and tells the other
end, in its first message, where to answer. Both ends then write and receive in any order,
other processes may send to the second end, and each end may go at any time. -/

namespace BlinkerFluid.MachChannel
open MachFrame MachWriter StepRun

/-- The end that begins with the right to send, and the one that begins with the port. -/
inductive End
  | client
  | server
deriving DecidableEq

def End.other : End → End
  | .client => .server
  | .server => .client

/-- Who sent a packet: an end of the channel, or somebody else. -/
inductive Token
  | channel (e : End)
  | other (n : ℕ)
deriving DecidableEq

/-- A handshake carries the port for answers, which may be gone. -/
inductive Content
  | handshake (portAlive : Bool)
  | deadName
  | sendOnce
  | frame (f : Frame)
deriving DecidableEq

structure Packet where
  sender : Token
  content : Content
deriving DecidableEq

/-- The ports, the peer, the errors that were reported, and what has arrived so far. -/
structure ChannelMac where
  writer : Writer
  receivePort : Option (List Packet)
  sendPort : Option Token
  leakHandles : Bool
  peerAuditToken : Option Token
  started : Bool
  watching : Bool
  errors : List Error
  received : List Packet
  dispatched : List (Token × Message)
  unopened : Bool

/-- A channel is made with a send right or with a receive right. -/
def create : End → ChannelMac
  | .client => ⟨idle, none, some (.channel .server), false, none, false, false, [], [], [], false⟩
  | .server => ⟨idle, some [], none, false, none, false, false, [], [], [], false⟩

variable (l : Layout)

def onError (c : ChannelMac) (error : Error) : ChannelMac :=
  { c with errors := c.errors ++ [error] }

/-- The channel behind its start, and whether a handshake was sent. -/
def startOnIOThread (c : ChannelMac) (peerAlive handshakeSent : Bool)
    (answers : List KernelAnswer) : ChannelMac × Bool :=
  let c := { c with writer := allocateBuffer c.writer, started := true }
  if c.sendPort ≠ none then
    let c := { c with receivePort := some [] }
    if peerAlive = false then (onError c .kConnectionFailed, false)
    else if handshakeSent then
      ({ c with writer := finishHandshake l c.writer answers, watching := true }, true)
    else
      ({ c with writer := onWriteErrorLocked c.writer .kConnectionFailed, watching := true }, false)
  else ({ c with watching := true }, false)

def receiveHandshake (c : ChannelMac) (sender : Token) (portAlive : Bool)
    (answers : List KernelAnswer) : ChannelMac :=
  if c.writer.handshakeDone then onError c .kReceivedMalformedData
  else if portAlive = false then onError c .kConnectionFailed
  else
    { c with
      sendPort := some sender
      peerAuditToken := some sender
      writer := finishHandshake l c.writer answers }

def receiveFrame (c : ChannelMac) (sender : Token) (f : Frame) (opens : Bool) : ChannelMac :=
  if l.bufferSize < f.size + l.trailer then onError c .kDisconnected
  else if f.size < l.header + l.body then onError c .kReceivedMalformedData
  else if c.peerAuditToken ≠ none ∧ c.peerAuditToken ≠ some sender then c
  else
    match readFrame f with
    | none => onError c .kReceivedMalformedData
    | some (data, incomingHandles) =>
      match tryDispatchMessage l opens data incomingHandles with
      | some m => { c with dispatched := c.dispatched ++ [(sender, m)] }
      | none =>
        onError { c with
          unopened := c.unopened || (tryDispatchMessage l true data incomingHandles).isSome }
          .kReceivedMalformedData

def onMachMessageReceived (c : ChannelMac) (packet : Packet) (portAlive opens : Bool)
    (answers : List KernelAnswer) : ChannelMac :=
  match packet.content with
  | .handshake _ => receiveHandshake l c packet.sender portAlive answers
  | .deadName => onError c .kDisconnected
  | .sendOnce => c
  | .frame f => receiveFrame l c packet.sender f opens

def shutDownOnIOThread (c : ChannelMac) : ChannelMac :=
  { c with
    writer := releaseBuffer c.writer
    watching := false
    receivePort := if c.leakHandles then c.receivePort else none
    sendPort := none }

/-! The two ends and the kernel between them. -/

abbrev System := End → ChannelMac

def enqueue (c : ChannelMac) (packets : List Packet) : ChannelMac :=
  { c with receivePort := c.receivePort.map (· ++ packets) }

/-- The frames that an end has sent since arrive at the port it sends to. -/
def freshPackets (e : End) (before after : ChannelMac) : List Packet :=
  if after.sendPort = some (.channel e.other) then
    (after.writer.sent.drop before.writer.sent.length).map fun f => ⟨.channel e, .frame f⟩
  else []

def put (s : System) (e : End) (c : ChannelMac) (greeting : List Packet) : System :=
  Function.update (Function.update s e c) e.other
    (enqueue (s e.other) (greeting ++ freshPackets e (s e) c))

def handshakePacket : Packet := ⟨.channel .client, .handshake true⟩

def answerable (s : System) (packet : Packet) : Bool :=
  match packet.sender, packet.content with
  | .channel e, _ => (s e).receivePort.isSome
  | .other _, .handshake portAlive => portAlive
  | .other _, _ => false

def deadNames (s : System) (e : End) : List Packet :=
  if (s e).leakHandles = false ∧ (s e).receivePort.isSome ∧
      (s e.other).sendPort = some (.channel e) then [⟨.other 0, .deadName⟩]
  else []

inductive Event
  | starts (e : End) (handshakeSent : Bool) (answers : List KernelAnswer)
  | writes (e : End) (m : Message) (answers : List KernelAnswer)
  | retries (e : End) (answers : List KernelAnswer)
  | receives (e : End) (opens : Bool) (answers : List KernelAnswer)
  | receiveFails (e : End)
  | leaksHandle (e : End)
  | shutsDown (e : End)
  | othersSend (n : ℕ) (content : Content)

def step (s : System) : Event → System
  | .starts e handshakeSent answers =>
    let started := startOnIOThread l (s e) (s e.other).receivePort.isSome handshakeSent answers
    put s e started.1 (if started.2 then [handshakePacket] else [])
  | .writes e m answers =>
    put s e { s e with writer := write l (s e).writer m answers } []
  | .retries e answers =>
    if (s e).writer.retryTasks = 0 then s
    else put s e { s e with writer := retrySendPendingMessages l (s e).writer answers } []
  | .receives e opens answers =>
    match (s e).receivePort with
    | none => s
    | some [] => s
    | some (packet :: packets) =>
      if (s e).watching then
        put s e (onMachMessageReceived l
          { s e with receivePort := some packets, received := (s e).received ++ [packet] } packet
          (answerable s packet) opens answers) []
      else s
  | .receiveFails e =>
    if (s e).watching then Function.update s e (onError (s e) .kDisconnected) else s
  | .leaksHandle e => Function.update s e { s e with leakHandles := true }
  | .shutsDown e => put s e (shutDownOnIOThread (s e)) (deadNames s e)
  | .othersSend n content =>
    Function.update s .server (enqueue (s .server) [⟨.other n, content⟩])

/-- The end whose port the messages go to when the event is over, if it is an end at all. -/
def Towards (s : System) (e : End) (packet : Option Packet) : Prop :=
  e = .client ∨ (s e).peerAuditToken = some (.channel .client) ∨
    ((s e).peerAuditToken = none ∧ ∃ p ∈ packet, p.sender = .channel .client)

/-- What is left to the callers and to the kernel. -/
def Proper (s : System) : Event → Prop
  | .starts e _ answers => (s e).started = false ∧
      Consistent ((s e.other).receivePort ≠ none) answers
  | .writes e m answers => WellFormed l m ∧
      (Towards s e none → Consistent ((s e.other).receivePort ≠ none) answers)
  | .retries e answers => Towards s e none → Consistent ((s e.other).receivePort ≠ none) answers
  | .receives e _ answers => Towards s e ((s e).receivePort.bind List.head?) →
      Consistent ((s e.other).receivePort ≠ none) answers
  | .shutsDown e => (s e).started = true
  | .receiveFails _ | .leaksHandle _ | .othersSend _ _ => True

end BlinkerFluid.MachChannel
