import Ustunet.Stream

/-!
# The pool, the streams and what passes between them

`World` is everything the loop and the application's tasks share: the pool of connections
(`sockets/mod.rs`), the dispatch queue, what is behind the locks, the halves that are alive,
and the three channels (half-close messages, poll updates, accepted streams). `Event` lists
the atomic steps that change it, and `World.step` is what each does.

The application runs on other threads, so its actions come between any two steps of the loop.
`create_syn` hands a stream over before it puts the connection in the pool; `creating` is the
connection in between.
-/

namespace Ustunet

/-- Where the code panics. -/
inductive Panic
  /-- "Dispatching should not happen after dropping." -/
  | dispatchAfterDropping
  /-- "Socket only gets removed after dropping both reader and writer." -/
  | dropHalfOfUnknown
  /-- `self.sockets.get_mut(&pair).unwrap()` in `SocketPool::process`. -/
  | processUnknown
  /-- `assert!(prev.is_none())` in `create_syn`. -/
  | insertTwice
  /-- `unwrap` of a send of a poll update. -/
  | pollChannelClosed
  /-- `unwrap` of a send of a half-close message. -/
  | closeChannelClosed
  /-- `assert!(self.a.is_none())` and its like in `Selector::insert_a` to `insert_d`. -/
  | slotFilled
  /-- `assert!(selector.b().is_some())`. -/
  | slotEmpty
  /-- "Given buffer should be empty." -/
  | bufferNotEmpty
  /-- `unwrap` of `packet_to_bytes` of a reply. -/
  | serialise
  /-- `packet[0]` of an empty packet. -/
  | emptyPacket
deriving DecidableEq, Repr

/-- Why a step is not taken. -/
inductive Stop
  /-- The state does not allow it. -/
  | disabled
  | panic (p : Panic)
deriving DecidableEq, Repr

/-- A half of a stream that is alive, by the `HalfCloseSender` in it, and the message that it
sends when it is dropped. The message in the channel is `(socket, rw)`: `conn` says whose half
it was, and the loop never reads it. -/
structure Half where
  socket : SocketHandle
  rw : Close
  conn : ConnId
deriving DecidableEq

/-- `PollUpdate`. -/
abbrev PollUpdate := SocketHandle × PollAt

/-- A connection on its way into the pool; `handed` once the accept channel has the stream or
has refused it. -/
structure Creation where
  pair : AddrPair
  conn : ConnId
  handed : Bool
deriving DecidableEq

structure World (T Q : Type) [DelayQueue AddrPair Q] where
  clock : Clock
  now : Instant
  /-- `SocketPool::sockets`. -/
  sockets : AddrPair → Option Connection
  /-- `SocketPool::queue`. -/
  queue : DispatchQueue AddrPair Q
  /-- The socket that `io_loop` dispatches next. -/
  nextPoll : Option AddrPair
  /-- What is behind the references of each connection made so far. -/
  shared : ConnId → Option (Shared T)
  nextConn : ConnId
  halves : List Half
  /-- The undelivered half-close messages, oldest first. -/
  closing : List Half
  /-- The undelivered poll updates, oldest first. -/
  polls : List PollUpdate
  /-- The streams in the accept channel, oldest first. -/
  incoming : List ConnId
  /-- Whether the receiver of the accept channel exists. -/
  listening : Bool
  creating : Option Creation
  /-- Whether `io_loop`, which owns the receivers of the other two channels, has neither returned
  nor panicked. -/
  running : Bool

/-- What the application does. -/
inductive Action
  /-- Take a stream out of the accept channel. -/
  | accept
  /-- Drop the receiver of the accept channel, with the streams in it. -/
  | closeListener
  | read (half : Half) (lock : Bool) (waker : Waker) (len : ℕ)
  | write (half : Half) (lock : Bool) (waker : Waker) (buf : List UInt8)
  | close (half : Half) (lock : Bool)
  | drop (half : Half)
deriving DecidableEq

/-- The steps that change the world. -/
inductive Event
  | elapse (nanos : ℕ)
  | app (a : Action)
  /-- `Connection::process` of a packet, on the connection of the pair. -/
  | process (pair : AddrPair) (timestamp : SmolInstant) (ipRepr : IpRepr) (tcpRepr : TcpRepr)
  /-- `SocketPool::dispatch` of the socket in `next_poll`. -/
  | dispatch (addr : AddrPair)
  /-- `SocketPool::drop_tcp_half` for the oldest half-close message. -/
  | dropHalf (half : Half)
  /-- `DispatchQueue::send` for the oldest poll update. -/
  | update (socket : SocketHandle) (pollAt : PollAt)
  /-- A deadline passes: its socket goes from the queue to `next_poll`. -/
  | expire (addr : AddrPair)
  /-- `create_syn` up to the send of the stream. -/
  | create (pair : AddrPair)
  /-- The accept channel takes the stream. -/
  | handOver
  /-- The accept channel has no receiver: the stream is dropped. -/
  | refuse
  /-- The end of `create_syn`. -/
  | insert
  /-- `io_loop` returns, or its task panics. -/
  | stop
deriving DecidableEq

variable {T Q : Type} [TcpSocket T] [DelayQueue AddrPair Q]

/-- `RX_BUF_SIZE` and `TX_BUF_SIZE`. -/
def rxBufSize : ℕ := 32768

def txBufSize : ℕ := rxBufSize

def createTcpSocket : T := TcpSocket.new rxBufSize txBufSize

/-- `sockets::open_socket`. -/
def openSocket (addr : SocketAddr) : Except Error T := do
  let socket : T := createTcpSocket
  let socket ← if !TcpSocket.isOpen socket then TcpSocket.listen socket addr else .ok socket
  return TcpSocket.setAckDelay socket (some 0)

/-- The capacity of the accept channel, `mpsc::channel(1)`. -/
def acceptCapacity : ℕ := 1

namespace World

def init (clock : Clock) : World T Q where
  clock := clock
  now := clock.startTime
  sockets := fun _ => none
  queue := .new clock
  nextPoll := none
  shared := fun _ => none
  nextConn := 0
  halves := []
  closing := []
  polls := []
  incoming := []
  listening := true
  creating := none
  running := true

def setShared (w : World T Q) (id : ConnId) (s : Shared T) : World T Q :=
  { w with shared := Function.update w.shared id (some s) }

def setSocket (w : World T Q) (p : AddrPair) (c : Option Connection) : World T Q :=
  { w with sockets := Function.update w.sockets p c }

/-- Whether the application has the stream: it is neither with `create_syn` nor in the accept
channel. -/
def accepted (w : World T Q) (id : ConnId) : Bool :=
  !w.incoming.contains id &&
    match w.creating with
    | some k => !(k.conn == id && !k.handed)
    | none => true

/-- The halves of these streams are dropped, the writer of each first: their messages go to
the half-close channel. -/
def dropStreams (w : World T Q) (ids : List ConnId) : World T Q :=
  { w with
    halves := w.halves.filter fun h => !ids.contains h.conn
    closing := w.closing ++ w.halves.filter fun h => ids.contains h.conn }

/-- What is shared by a half that the application holds. -/
def useHalf (w : World T Q) (half : Half) (rw : Close) : Except Stop (Shared T) :=
  if half ∈ w.halves ∧ half.rw = rw ∧ w.accepted half.conn then
    match w.shared half.conn with
    | some s => .ok s
    | none => .error .disabled
  else .error .disabled

/-- `QueueUpdater::send`, where there is something to send. -/
def notify (w : World T Q) (update : Option PollUpdate) : Except Stop (World T Q) :=
  match update with
  | none => .ok w
  | some u =>
    if w.running then .ok { w with polls := w.polls ++ [u] }
    else .error (.panic .pollChannelClosed)

/-- An action of the application. -/
def act (w : World T Q) (a : Action) : Except Stop (World T Q) :=
  match a with
  | .accept =>
    match w.incoming with
    | [] => .error .disabled
    | _ :: rest => .ok { w with incoming := rest }
  | .closeListener =>
    -- the halves of the streams in the channel notify the loop, which must be there
    if w.incoming = [] ∨ w.running then
      .ok { w.dropStreams w.incoming with incoming := [], listening := false }
    else .error (.panic .closeChannelClosed)
  | .read half lock waker len => do
    let s ← w.useHalf half .read
    return w.setShared half.conn (ReadHalf.pollReadInner lock s waker len).2
  | .write half lock waker buf => do
    let s ← w.useHalf half .write
    let (_, s, update) := WriteHalf.pollWriteInner lock s half.socket waker buf
    (w.setShared half.conn s).notify update
  | .close half lock => do
    let s ← w.useHalf half .write
    let (_, s, update) := WriteHalf.pollCloseInner lock s half.socket
    (w.setShared half.conn s).notify update
  | .drop half =>
    if half ∈ w.halves ∧ w.accepted half.conn then
      if w.running then
        .ok { w with halves := w.halves.erase half, closing := w.closing ++ [half] }
      else .error (.panic .closeChannelClosed)
    else .error .disabled

/-- `Connection::process` on the connection of a pair: the reply and the world after it. -/
def process (w : World T Q) (pair : AddrPair) (timestamp : SmolInstant) (ipRepr : IpRepr)
    (tcpRepr : TcpRepr) : Except Stop (Except Error (Option Packet) × World T Q) :=
  match w.sockets pair with
  | none => .error (.panic .processUnknown)
  | some c =>
    match w.shared c.socket with
    | none => .error .disabled
    | some s =>
      let (reply, s, queue) := c.process s timestamp ipRepr tcpRepr w.queue
      .ok (reply, { w.setShared c.socket s with queue })

/-- `SocketPool::dispatch` of the socket taken out of `next_poll`, into an empty buffer: the
buffer and the world after it. -/
def dispatch (wire : Wire) (w : World T Q) (addr : AddrPair) :
    Except Stop (List UInt8 × World T Q) :=
  let timestamp := w.clock.timestamp w.now
  match w.sockets addr with
  | none => .error (.panic .dispatchAfterDropping)
  | some c =>
    match w.shared c.socket with
    | none => .error .disabled
    | some s =>
      let (drop, buf, s, queue) := c.dispatch wire s timestamp w.queue
      let w := { w.setShared c.socket s with queue, nextPoll := none }
      -- the updates that are under way for the pair stay under way
      if drop then .ok (buf, { w.setSocket addr none with queue := w.queue.remove addr })
      else .ok (buf, w)

/-- `SocketPool::drop_tcp_half`. -/
def dropTcpHalf (w : World T Q) (socket : SocketHandle) (rw : Close) :
    Except Stop (World T Q) :=
  match w.sockets socket with
  | none => .error (.panic .dropHalfOfUnknown)
  | some c =>
    match w.shared c.socket with
    | none => .error .disabled
    | some s =>
      let (c', s, queue) := c.dropHalf s rw w.queue
      .ok { (w.setShared c.socket s).setSocket socket (some c') with queue }

/-- `create_syn` for a pair that has no connection, up to the send of the stream. -/
def create (w : World T Q) (pair : AddrPair) : Except Error (World T Q) := do
  let socket ← openSocket pair.localAddr
  let id := w.nextConn
  -- the writer is the first field of `TcpStream`, so it is dropped first
  return { w.setShared id (.new socket) with
    nextConn := id + 1
    halves := w.halves ++ [⟨pair, .write, id⟩, ⟨pair, .read, id⟩]
    creating := some ⟨pair, id, false⟩ }

/-- One step of the world. -/
def step (wire : Wire) (w : World T Q) (e : Event) : Except Stop (World T Q) :=
  match e with
  | .elapse nanos => .ok { w with now := w.now + nanos }
  | .app a => w.act a
  -- the reply is the loop's
  | .process pair timestamp ipRepr tcpRepr =>
    (w.process pair timestamp ipRepr tcpRepr).map Prod.snd
  | .dispatch addr =>
    if w.nextPoll = some addr then (w.dispatch wire addr).map Prod.snd else .error .disabled
  | .dropHalf half =>
    match w.closing with
    | [] => .error .disabled
    | m :: rest =>
      if m = half then { w with closing := rest }.dropTcpHalf half.socket half.rw
      else .error .disabled
  | .update socket pollAt =>
    match w.polls with
    | [] => .error .disabled
    | u :: rest =>
      if u = (socket, pollAt) then
        .ok { w with polls := rest, queue := w.queue.send socket pollAt }
      else .error .disabled
  | .expire addr =>
    if w.nextPoll = none then
      match w.queue.poll w.now with
      | some (s, queue) =>
        if s = addr then .ok { w with queue, nextPoll := some addr } else .error .disabled
      | none => .error .disabled
    else .error .disabled
  | .create pair =>
    if w.sockets pair = none ∧ w.creating = none ∧ w.running then
      match w.create pair with
      | .ok w => .ok w
      | .error _ => .error .disabled
    else .error .disabled
  | .handOver =>
    match w.creating with
    | some k =>
      if !k.handed ∧ w.listening ∧ w.incoming.length < acceptCapacity then
        .ok { w with
          incoming := w.incoming ++ [k.conn], creating := some { k with handed := true } }
      else .error .disabled
    | none => .error .disabled
  | .refuse =>
    match w.creating with
    | some k =>
      if !k.handed ∧ !w.listening then
        .ok { w.dropStreams [k.conn] with creating := some { k with handed := true } }
      else .error .disabled
    | none => .error .disabled
  | .insert =>
    match w.creating with
    | some k =>
      if k.handed then
        -- `assert!(prev.is_none())`
        if w.sockets k.pair = none then
          .ok { w.setSocket k.pair (some (.new k.conn k.pair)) with creating := none }
        else .error (.panic .insertTwice)
      else .error .disabled
    | none => .error .disabled
  | .stop =>
    -- the halves live on; what they send then panics
    if w.creating = none then
      .ok { w with
        sockets := fun _ => none, queue := .new w.clock, nextPoll := none, closing := [],
        polls := [], running := false }
    else .error .disabled

end World

end Ustunet
