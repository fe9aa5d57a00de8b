import Ustunet.PollQueue

/-!
# A connection, as the loop sees it

`stream/internal.rs`: a `Connection` is the loop's end of a stream. It shares with the two
halves of the stream the socket behind a lock and one waker slot for each half; the model puts
what is shared in `Shared`, and a `Connection` refers to it by number.

The body of `process`, `dispatch` and `drop_half` holds the lock from the first use of the
socket to its last and never waits in between, so each is one atomic step on `Shared`.
-/

namespace Ustunet

/-! ## What the halves and the loop share -/

/-- A task's waker. -/
abbrev Waker := ℕ

/-- `SharedState`: the waker slot of one half. `woken` records the calls of `Waker::wake`,
latest first. -/
structure SharedState where
  waker : Option Waker
  woken : List Waker
deriving DecidableEq

def SharedState.new : SharedState := ⟨none, []⟩

def SharedState.wakeOnce (s : SharedState) : SharedState :=
  match s.waker with
  | some w => ⟨none, w :: s.woken⟩
  | none => s

/-- The number of a connection: what the references to one lock have in common. -/
abbrev ConnId := ℕ

/-- What is behind the references of one connection: `Inner`, with the socket and
`polling_active`, and the two waker slots. `eofReached` is the reader's own flag. -/
structure Shared (T : Type) where
  tcp : T
  /-- Whether the connection is in queue to be dispatched: the writer notifies the queue only
  if not. -/
  pollingActive : Bool
  readReadiness : SharedState
  writeReadiness : SharedState
  eofReached : Bool

/-- `TcpStream::new` around a socket. -/
def Shared.new {T : Type} (tcp : T) : Shared T :=
  { tcp, pollingActive := false, readReadiness := .new, writeReadiness := .new,
    eofReached := false }

/-- The side of a stream: `Close::Read` and `Close::Write`. -/
inductive Close
  | read | write
deriving DecidableEq, Repr

structure RwStatus where
  handle : SocketHandle
  readerDropped : Bool
  writerDropped : Bool
deriving DecidableEq

structure Connection where
  socket : ConnId
  inner : RwStatus
deriving DecidableEq

variable {T Q : Type} [TcpSocket T] [DelayQueue AddrPair Q]

namespace RwStatus

/-- The flag that `drop_half` sets for a side. -/
def dropped (r : RwStatus) : Close → Bool
  | .read => r.readerDropped
  | .write => r.writerDropped

def bothDropped (r : RwStatus) : Bool := r.writerDropped && r.readerDropped

def wakeReader (r : RwStatus) (s : Shared T) : Shared T :=
  if !r.readerDropped then { s with readReadiness := s.readReadiness.wakeOnce } else s

def wakeWriter (r : RwStatus) (s : Shared T) : Shared T :=
  if !r.writerDropped then { s with writeReadiness := s.writeReadiness.wakeOnce } else s

/-- Notify the reader or the writer after reaching the end. -/
def wakeToClose (r : RwStatus) (s : Shared T) : Shared T :=
  let s := if !TcpSocket.mayRecv s.tcp then r.wakeReader s else s
  if !TcpSocket.maySend s.tcp then r.wakeWriter s else s

end RwStatus

/-- Whether a packet is for this socket; the checks are made in the order of the source. -/
def checkAcceptability (tcp : T) (ipRepr : IpRepr) (repr : TcpRepr) : Except Error Unit :=
  let localEndpoint := TcpSocket.localEndpoint tcp
  let remoteEndpoint := TcpSocket.remoteEndpoint tcp
  if TcpSocket.state tcp = .closed then .error .dropped
  -- still listening for a SYN, and the packet has an ACK
  else if TcpSocket.state tcp = .listen ∧ repr.ackNumber.isSome then .error .dropped
  -- a wrong destination
  else if localEndpoint.port ≠ repr.dstPort then .error .dropped
  else if ¬ localEndpoint.addr.isUnspecified ∧ localEndpoint.addr ≠ ipRepr.dstAddr then
    .error .dropped
  -- a source to which we aren't connected
  else if remoteEndpoint.port ≠ 0 ∧ remoteEndpoint.port ≠ repr.srcPort then .error .dropped
  else if ¬ remoteEndpoint.addr.isUnspecified ∧ remoteEndpoint.addr ≠ ipRepr.srcAddr then
    .error .dropped
  else .ok ()

namespace Connection

def new (socket : ConnId) (addr : SocketHandle) : Connection :=
  ⟨socket, ⟨addr, false, false⟩⟩

def handle (c : Connection) : SocketHandle := c.inner.handle

/-- Process an incoming packet and queue for polling: the reply, what is shared, the queue. -/
def process (c : Connection) (s : Shared T) (timestamp : SmolInstant) (ipRepr : IpRepr)
    (tcpRepr : TcpRepr) (sendPoll : DispatchQueue AddrPair Q) :
    Except Error (Option Packet) × Shared T × DispatchQueue AddrPair Q :=
  match checkAcceptability s.tcp ipRepr tcpRepr with
  | .error e => (.error e, s, sendPoll)
  | .ok () =>
    let (reply, tcp) := TcpSocket.process s.tcp timestamp ipRepr tcpRepr
    let s := { s with tcp }
    let s := if TcpSocket.canRecv tcp then c.inner.wakeReader s else s
    -- `process` does not look at `can_send`: space that an ACK makes wakes nobody here
    let s := c.inner.wakeToClose s
    let pollAt := TcpSocket.pollAt tcp
    let pollAt :=
      -- nobody is left to write, so a dispatch is what will remove the connection
      if c.inner.bothDropped && pollAt == .ingress && !sendPoll.contains c.handle then .now
      else pollAt
    (reply, s, sendPoll.send c.handle pollAt)

/-- `if let Err(smoltcp::Error::Exhausted) = r`. -/
def isExhausted : Except Error Unit → Bool
  | .error .exhausted => true
  | _ => false

/-- Serialise an outgoing packet into an empty buffer and queue for the next dispatch:
whether the connection is to be removed, the buffer, what is shared, the queue. -/
def dispatch (wire : Wire) (c : Connection) (s : Shared T) (timestamp : SmolInstant)
    (sendPoll : DispatchQueue AddrPair Q) :
    Bool × List UInt8 × Shared T × DispatchQueue AddrPair Q :=
  let (r, buf, tcp) := TcpSocket.dispatchTo wire s.tcp timestamp
  let s := { s with tcp }
  let s := c.inner.wakeToClose s
  let s := if TcpSocket.canSend tcp then c.inner.wakeWriter s else s
  let pollAt := TcpSocket.pollAt tcp
  -- three reasons to give up a connection that nobody uses: it has no peer, it had nothing to
  -- send, or it would wait for packets indefinitely
  if c.inner.bothDropped && (!(TcpSocket.remoteEndpoint tcp).isSpecified
      || isExhausted r || pollAt == .ingress) then
    (true, buf, s, sendPoll)
  else
    (false, buf, { s with pollingActive := pollAt == .now }, sendPoll.send c.handle pollAt)

/-- Mark the reader or the writer as dropped; close the socket once the writer is. -/
def dropHalf (c : Connection) (s : Shared T) (rw : Close)
    (dispatchQueue : DispatchQueue AddrPair Q) :
    Connection × Shared T × DispatchQueue AddrPair Q :=
  let inner := match rw with
    | .read => { c.inner with readerDropped := true }
    | .write => { c.inner with writerDropped := true }
  let c := { c with inner }
  -- a dropped reader alone changes neither the socket nor the queue
  if !inner.writerDropped then (c, s, dispatchQueue)
  else
    let tcp := TcpSocket.close s.tcp
    let pollAt := TcpSocket.pollAt tcp
    let pollAt := if inner.bothDropped && pollAt == .ingress then .now else pollAt
    (c, { s with tcp }, dispatchQueue.send c.handle pollAt)

end Connection

end Ustunet
