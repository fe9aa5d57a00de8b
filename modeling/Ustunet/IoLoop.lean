import Ustunet.World
import Ustunet.Selector

/-!
# The loop

`dispatch/mod.rs`: `io_loop` as a machine. A label is a choice of the surroundings: what the
device's futures are ready with, which task runs, how much time passes. Each step of the loop
runs from one point where it can be held up to the next:

* `turn`: the head of the loop, up to the selector;
* `poll`: one poll of the selector and of the queue, and the handling of what it returned;
* `resume`: `create_syn` goes on, from the send of the stream to the accept channel, over the
  insertion in the pool, to the processing of the SYN.

A step that panics is an error. The task of `io_loop` does not stay where it is then: `unwind` is
what becomes of it, while the application goes on.

`event` says which event of the world a step is, if any; `world_of_step` proves it, so a run of
the loop is a run of the world in which the loop chooses the order of its own events.
-/

namespace Ustunet

/-! ## The four futures -/

/-- What the futures of the selector can see: the device and the two receivers. -/
structure Cx where
  /-- The result of the device's write, once it is done. -/
  written : Option (Except IoError ℕ)
  /-- The result of the device's read, once it is done: the bytes read. -/
  read : Option (Except IoError (List UInt8))
  closing : List Half
  polls : List PollUpdate

/-- `write_future(writer, buf)`: it gives the buffer back. -/
structure WriteFuture where
  buf : List UInt8
deriving DecidableEq

/-- `read_future(reader, buf)`. -/
structure ReadFuture where
deriving DecidableEq

/-- `recv_close(chan)`. -/
structure RecvClose where
deriving DecidableEq

/-- `recv_poll(chan)`. -/
structure RecvPoll where
deriving DecidableEq

instance : Future WriteFuture Cx (Except IoError ℕ × List UInt8) where
  poll f w :=
    match w.written with
    | some n => (.ready (n, f.buf), f, { w with written := none })
    | none => (.pending, f, w)

instance : Future ReadFuture Cx (Except IoError (List UInt8)) where
  poll f w :=
    match w.read with
    | some r => (.ready r, f, { w with read := none })
    | none => (.pending, f, w)

instance : Future RecvClose Cx Half where
  poll f w :=
    match w.closing with
    | m :: rest => (.ready m, f, { w with closing := rest })
    | [] => (.pending, f, w)

instance : Future RecvPoll Cx PollUpdate where
  poll f w :=
    match w.polls with
    | u :: rest => (.ready u, f, { w with polls := rest })
    | [] => (.pending, f, w)

abbrev IoSelector := Selector WriteFuture ReadFuture RecvClose RecvPoll

abbrev IoSelected :=
  Selected (Except IoError ℕ × List UInt8) (Except IoError (List UInt8)) Half PollUpdate

/-- Fill a slot of the selector: `assert!(slot.is_none())`. -/
def fillSlot {F : Type} (slot : Option F) (f : F) : Except Stop (Option F) :=
  match slot with
  | none => .ok (some f)
  | some _ => .error (.panic .slotFilled)

/-! ## The state of the loop -/

/-- A packet that `SocketPool::process` has found a pair for. -/
structure Arrival where
  pair : AddrPair
  timestamp : SmolInstant
  ipRepr : IpRepr
  tcpRepr : TcpRepr
deriving DecidableEq

/-- Where the loop is. -/
inductive Pc
  /-- At the head of the loop. -/
  | top
  /-- Waiting on the selector. -/
  | select
  /-- `create_syn` waits for the accept channel to take the stream. -/
  | sending (a : Arrival)
  /-- `create_syn` has sent the stream. -/
  | inserting (a : Arrival)
  /-- The new connection is in the pool, its SYN not processed. -/
  | processing (a : Arrival)
  /-- `io_loop` has returned an error, or its task has panicked. -/
  | halted
deriving DecidableEq

structure State (T Q : Type) [DelayQueue AddrPair Q] where
  world : World T Q
  selector : IoSelector
  /-- The device's writer, with its buffer, while no write is in flight. -/
  writing : Option (List UInt8)
  /-- A stack, the last reply pushed first. -/
  ingressReplies : List Packet
  pc : Pc

/-- What the device's futures are ready with when the selector is polled. -/
structure Device where
  written : Option (Except IoError ℕ)
  read : Option (Except IoError (List UInt8))
deriving DecidableEq

inductive Label
  | elapse (nanos : ℕ)
  | app (a : Action)
  | turn
  | poll (dev : Device)
  | resume
  /-- The step that the loop is at panics, and its task is dropped. -/
  | unwind (dev : Device)
deriving DecidableEq

variable {T Q : Type} [TcpSocket T] [DelayQueue AddrPair Q]

namespace State

def init (clock : Clock) : State T Q where
  world := .init clock
  selector := ⟨none, some ⟨⟩, some ⟨⟩, some ⟨⟩⟩
  writing := some []
  ingressReplies := []
  pc := .top

/-! ## The head of the loop -/

/-- Pop replies until one is serialised into the empty buffer. -/
def drainReplies (wire : Wire) : List Packet → Except Stop (List UInt8 × List Packet)
  | [] => .ok ([], [])
  | r :: rest =>
    match packetToBytes wire r with
    | .error _ => .error (.panic .serialise)
    -- nothing was written: the next reply has its turn
    | .ok [] => drainReplies wire rest
    | .ok (b :: bytes) => .ok (b :: bytes, rest)

/-- The buffer after the replies have had their turn, and the replies left. -/
def serialised (wire : Wire) (s : State T Q) (writeBuf : List UInt8) :
    Except Stop (List UInt8 × List Packet) :=
  if writeBuf = [] then drainReplies wire s.ingressReplies
  else .ok (writeBuf, s.ingressReplies)

/-- Dispatch the socket in `next_poll`, if there is one and the buffer is free for it. -/
def dispatchNext (wire : Wire) (s : State T Q) (writeBuf : List UInt8) :
    Except Stop (List UInt8 × World T Q) :=
  match writeBuf, s.world.nextPoll with
  | [], some addr => s.world.dispatch wire addr
  -- a reply goes first, and the pair stays in `next_poll`
  | _, _ => .ok (writeBuf, s.world)

/-- From the head of the loop to the selector. -/
def turn (wire : Wire) (s : State T Q) : Except Stop (State T Q) := do
  if s.pc ≠ .top then throw .disabled
  if s.selector.b.isNone then throw (.panic .slotEmpty)
  match s.writing with
  -- the device still writes the last buffer
  | none => return { s with pc := .select }
  | some writeBuf =>
    let (writeBuf, replies) ← s.serialised wire writeBuf
    let (writeBuf, world) ← s.dispatchNext wire writeBuf
    if writeBuf ≠ [] then
      let a ← fillSlot s.selector.a ⟨writeBuf⟩
      return { s with
        world, selector := { s.selector with a }, writing := none, ingressReplies := replies,
        pc := .select }
    else
      return { s with world, writing := some writeBuf, ingressReplies := replies, pc := .select }

/-! ## A packet from the device -/

/-- The parsing in `Interface::process`, `process_ipv4`, `process_ipv6` and `process_tcp`;
`none` is a packet that is not TCP. -/
def parse (wire : Wire) (packet : List UInt8) : Except Error (Option Packet) :=
  let tcp (ipRepr : IpRepr) (payload : List UInt8) : Except Error (Option Packet) := do
    let tcpRepr ← wire.parseTcp payload ipRepr.srcAddr ipRepr.dstAddr
    return some (ipRepr, tcpRepr)
  match packet.head? with
  -- not reached: `io_loop` checks `n > 0`
  | none => .error .dropped
  | some b =>
    if b / 16 = 4 then do
      let (repr, payload) ← wire.parseIpv4 packet
      if !wire.isUnicastV4 repr.srcAddr then throw .malformed
      if repr.protocol = .tcp then tcp (.ipv4 repr) payload else return none
    else if b / 16 = 6 then do
      let (repr, payload) ← wire.parseIpv6 packet
      if !wire.isUnicastV6 repr.srcAddr then throw .malformed
      if repr.nextHeader = .tcp then tcp (.ipv6 repr) payload else return none
    else .error .dropped

/-- The head of `SocketPool::process`: the pair the packet belongs to. -/
def arrival (w : World T Q) (ipRepr : IpRepr) (tcpRepr : TcpRepr) : Except Error Arrival := do
  let src ← convertToSocketAddress ipRepr.srcAddr tcpRepr.srcPort
  let dst ← convertToSocketAddress ipRepr.dstAddr tcpRepr.dstPort
  if tcpRepr.control = .syn ∧ tcpRepr.ackNumber.isSome then throw .dropped
  return ⟨⟨src, dst⟩, w.clock.timestamp w.now, ipRepr, tcpRepr⟩

/-- The end of `Selected::B`: push the reply, read on. -/
def finishRead (s : State T Q) (result : Except Error (Option Packet)) :
    Except Stop (State T Q) := do
  let replies := match result with
    | .ok (some reply) => reply :: s.ingressReplies
    | _ => s.ingressReplies
  let b ← fillSlot s.selector.b ⟨⟩
  return { s with ingressReplies := replies, selector := { s.selector with b }, pc := .top }

/-- `Selected::B` with at least one byte: up to its end, or, for the SYN of a new pair, to the
send of the stream in `create_syn`. -/
def ingress (wire : Wire) (s : State T Q) (packet : List UInt8) : Except Stop (State T Q) :=
  match parse wire packet with
  | .error e => s.finishRead (.error e)
  | .ok none => s.finishRead (.ok none)
  | .ok (some (ipRepr, tcpRepr)) =>
    match arrival s.world ipRepr tcpRepr with
    | .error e => s.finishRead (.error e)
    | .ok a =>
      match s.world.sockets a.pair with
      -- a SYN for a known pair is only logged
      | some _ => do
        let (reply, world) ← s.world.process a.pair a.timestamp a.ipRepr a.tcpRepr
        { s with world }.finishRead reply
      | none =>
        if tcpRepr.control = .syn then
          match s.world.create a.pair with
          | .ok world => .ok { s with world, pc := .sending a }
          | .error e => s.finishRead (.error e)
        -- no known socket
        else s.finishRead (.error .dropped)

/-! ## The selector and what it returns -/

def cx (s : State T Q) (dev : Device) : Cx :=
  { written := dev.written, read := dev.read, closing := s.world.closing, polls := s.world.polls }

/-- `io_loop` returns: the pool, the queue, the receivers and the sender of the accept channel are
dropped. -/
def ret (wire : Wire) (s : State T Q) : Except Stop (State T Q) := do
  let world ← s.world.step wire .stop
  return { s with world, pc := .halted }

/-- `match s { ... }` of `io_loop`. -/
def handle (wire : Wire) (s : State T Q) (x : IoSelected) : Except Stop (State T Q) :=
  match x with
  -- `let n = n?`
  | .a (.error _, _) => s.ret wire
  | .a (.ok _, _) => .ok { s with writing := some [], pc := .top }
  | .b (.error _) => s.ret wire
  | .b (.ok []) => s.finishRead (.ok none)
  | .b (.ok (b :: bytes)) => s.ingress wire (b :: bytes)
  | .c half => do
    let world ← s.world.dropTcpHalf half.socket half.rw
    let c ← fillSlot s.selector.c ⟨⟩
    return { s with world, selector := { s.selector with c }, pc := .top }
  | .d (socket, pollAt) => do
    let d ← fillSlot s.selector.d ⟨⟩
    return { s with
      world := { s.world with queue := s.world.queue.send socket pollAt }
      selector := { s.selector with d }, pc := .top }

/-- One poll while the loop waits: the selector first, then, if nothing is to be dispatched
yet, the queue. -/
def poll (wire : Wire) (s : State T Q) (dev : Device) : Except Stop (State T Q) :=
  if s.pc = .select then
    match s.selector.poll (s.cx dev) with
    | (.ready x, selector, w) =>
      handle wire { s with
        selector, world := { s.world with closing := w.closing, polls := w.polls } } x
    | (.pending, selector, _) =>
      -- while a pair is in `next_poll` the queue is not polled
      if s.world.nextPoll = none then
        match s.world.queue.poll s.world.now with
        | some (addr, queue) =>
          .ok { s with
            selector, world := { s.world with queue, nextPoll := some addr }, pc := .top }
        | none => .ok { s with selector }
      else .ok { s with selector }
  else .error .disabled

/-- `create_syn` goes on. -/
def resume (wire : Wire) (s : State T Q) : Except Stop (State T Q) :=
  match s.pc with
  | .sending a => do
    -- a send to a channel without a receiver is logged, and the stream dropped
    let world ← s.world.step wire (if s.world.listening then .handOver else .refuse)
    return { s with world, pc := .inserting a }
  | .inserting a => do
    let world ← s.world.step wire .insert
    return { s with world, pc := .processing a }
  | .processing a => do
    -- with the timestamp taken before the stream was sent
    let (reply, world) ← s.world.process a.pair a.timestamp a.ipRepr a.tcpRepr
    { s with world }.finishRead reply
  | _ => .error .disabled

/-- The step that the loop is at. -/
def advance (wire : Wire) (s : State T Q) (dev : Device) : Except Stop (State T Q) :=
  match s.pc with
  | .top => s.turn wire
  | .select => s.poll wire dev
  | _ => s.resume wire

/-- The step that the loop is at panics. `start_io` has spawned `io_loop` as a task of its own: the
executor catches the panic, and what the loop owns is dropped, as when it returns. -/
def unwind (wire : Wire) (s : State T Q) (dev : Device) : Except Stop (State T Q) :=
  match s.advance wire dev with
  | .error (.panic _) => s.ret wire
  | _ => .error .disabled

/-- One step of the loop or of what surrounds it. -/
def step (wire : Wire) (s : State T Q) (l : Label) : Except Stop (State T Q) :=
  match l with
  | .elapse nanos => do
    let world ← s.world.step wire (.elapse nanos)
    return { s with world }
  | .app a => do
    let world ← s.world.step wire (.app a)
    return { s with world }
  | .turn => s.turn wire
  | .poll dev => s.poll wire dev
  | .resume => s.resume wire
  | .unwind dev => s.unwind wire dev

end State

end Ustunet
