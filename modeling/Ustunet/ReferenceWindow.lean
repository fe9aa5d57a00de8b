import Ustunet.Reference

/-!
# A reference socket with windows

`Reference.Socket` sends its packets when a SYN, data, a FIN or an ACK is due. `Windowed` adds the
two other things that make smoltcp's socket send: it remembers the window in the last packet it
sent and owes the peer an update once the window has grown, and it answers an ACK of what was
never sent at once, with the reply that `process` returns. Its runs show what the loop does with
them.
-/

namespace Ustunet
namespace Reference

/-- The reference socket, the number of bytes received and not read, and the window that the peer
knows (`remote_last_win`). The bytes are not kept: in the runs here they are all zero. -/
structure Windowed where
  base : Socket
  queued : ℕ
  lastWin : ℕ

namespace Windowed

/-- The free part of the receive buffer. -/
def window (t : Windowed) : ℕ := t.base.rxCap - t.queued

/-- The states in which the peer is told of a larger window. -/
def updates : TcpState → Bool
  | .synSent | .synReceived | .established | .finWait1 | .finWait2 => true
  | _ => false

/-- `window_to_update`: the window has grown since the peer heard of it. -/
def windowToUpdate (t : Windowed) : Bool :=
  updates t.base.state && decide (t.lastWin < t.window)

/-- Whether a packet is due only to tell the peer the window; an ACK that is owed does that too. -/
def owesUpdate (t : Windowed) : Bool :=
  t.base.remoteEndpoint.isSpecified && t.windowToUpdate && t.base.ackAt.isNone

def pollAt (t : Windowed) : PollAt := if t.owesUpdate then .now else t.base.pollAt

/-- A packet with the window in it. -/
def stamp (t : Windowed) (packet : Packet) : Packet :=
  (packet.1, { packet.2 with windowLen := UInt16.ofNat t.window })

/-- A packet that has been sent tells the peer the window. -/
def sent (t : Windowed) (r : Except Error Unit × Socket) : Except Error Unit × Windowed :=
  match r with
  | (.ok (), base) => (.ok (), { t with base, lastWin := t.window })
  | (.error e, base) => (.error e, { t with base })

def dispatch (t : Windowed) (ts : SmolInstant) : Egress Windowed :=
  match t.base.dispatch ts with
  | .emit packet resume => .emit (t.stamp packet) fun r => t.sent (resume r)
  | .quiet r base =>
    let t := { t with base }
    if t.owesUpdate then
      .emit (t.stamp (base.packet .none [])) fun r => t.sent (Socket.resume base base r)
    else .quiet r t

/-- The states of a connection whose SYNs have been acknowledged. -/
def synchronised : TcpState → Bool
  | .closed | .listen | .synSent | .synReceived => false
  | _ => true

/-- The bytes have no numbers here: an ACK acknowledges all that was sent, with the number 0. -/
def unacceptable (t : Windowed) (repr : TcpRepr) : Bool :=
  synchronised t.base.state && repr.control != .syn && repr.control != .rst
    && repr.ackNumber.any (· != 0)

def process (t : Windowed) (ts : SmolInstant) (ip : IpRepr) (repr : TcpRepr) :
    Except Error (Option Packet) × Windowed :=
  if t.unacceptable repr then
    -- `ack_reply`, which is also the ACK that may be owed
    (.ok (some (t.stamp (t.base.packet .none []))),
      { t with base := { t.base with ackAt := none }, lastWin := t.window })
  else
    let (reply, base) := t.base.process ts ip repr
    -- what `base` has received is counted, as far as there is room, and forgotten
    (reply, { t with
      base := { base with rx := [] }, queued := min base.rxCap (t.queued + base.rx.length) })

def mayRecv (t : Windowed) : Bool := t.base.state.receives || decide (0 < t.queued)

def canRecv (t : Windowed) : Bool := t.mayRecv && decide (0 < t.queued)

def recvSlice (t : Windowed) (len : ℕ) : Except Error (List UInt8 × Windowed) :=
  if t.mayRecv then
    let n := min len t.queued
    .ok (List.replicate n 0, { t with queued := t.queued - n })
  else .error .illegal

instance : TcpSocket Windowed where
  new rx tx := ⟨.new rx tx, 0, 0⟩
  isOpen t := t.base.isOpen
  listen t addr := do
    let base ← t.base.listen addr
    return ⟨base, 0, 0⟩
  setAckDelay t d := { t with base := { t.base with ackDelay := d } }
  state t := t.base.state
  localEndpoint t := t.base.localEndpoint
  remoteEndpoint t := t.base.remoteEndpoint
  canSend t := t.base.canSend
  maySend t := t.base.maySend
  canRecv := canRecv
  mayRecv := mayRecv
  recvQueue t := t.queued
  pollAt := pollAt
  process := process
  dispatch := dispatch
  sendSlice t buf := do
    let (n, base) ← t.base.sendSlice buf
    return (n, { t with base })
  recvSlice := recvSlice
  close t := { t with base := t.base.close }

/-- A socket that has just been opened has nobody to tell its window. -/
lemma freshQuiet : FreshQuiet Windowed := by
  intro addr t h
  change ((do
    let base ← Socket.listen (.new rxBufSize txBufSize) addr
    return ⟨base, 0, 0⟩ : Except Error Windowed) >>= fun s =>
      .ok { s with base := { s.base with ackDelay := some 0 } }) = .ok t at h
  unfold Socket.listen at h
  split at h
  · cases h
  · split at h
    · cases h
    · cases h
      rfl

lemma emptyRecvQuiet : EmptyRecvQuiet Windowed := by
  intro t len t' h
  change t.recvSlice len = .ok ([], t') at h
  unfold recvSlice at h
  split at h
  · dsimp only at h
    rw [Except.ok.injEq, Prod.mk.injEq] at h
    obtain ⟨hnil, rfl⟩ := h
    have hzero : min len t.queued = 0 := by
      have hlen := congrArg List.length hnil
      rw [List.length_replicate] at hlen
      exact hlen
    rw [hzero]
    rfl
  · cases h

end Windowed

/-- A packet of the client with an ACK of what was never sent. -/
def strayAck : Label :=
  .poll ⟨none, some (.ok (emit (.ipv4 ⟨clientIp, serverIp, .tcp, 20, 64⟩)
    { srcPort := 40000, dstPort := 80, control := .none, seqNumber := 0, ackNumber := some 9
      windowLen := 65535, windowScale := none, maxSegSize := none, sackPermitted := false
      sackRanges := [], payload := [] }))⟩

/-- While the device is busy the client sends two stray ACKs, with a byte of data in between; then
the device has written. -/
def twoReplies : List Label :=
  handshake ++
    [.turn, strayAck, .turn, receive .psh true [0], .turn, strayAck, .turn, written, .turn]

/-- A packet of the client with `n` bytes of data, all zero: they add nothing to the checksum. -/
def zeros (n : ℕ) : List UInt8 :=
  let ip : Ipv4Repr := ⟨clientIp, serverIp, .tcp, 20 + n, 64⟩
  let tcp : TcpRepr :=
    { srcPort := 40000, dstPort := 80, control := .psh, seqNumber := 0, ackNumber := some 0
      windowLen := 65535, windowScale := none, maxSegSize := none, sackPermitted := false
      sackRanges := [], payload := [] }
  let pseudo := [ip.srcAddr.o₀, ip.srcAddr.o₁, ip.srcAddr.o₂, ip.srcAddr.o₃,
    ip.dstAddr.o₀, ip.dstAddr.o₁, ip.dstAddr.o₂, ip.dstAddr.o₃, 0, 6]
    ++ bytes16 (UInt16.ofNat ip.payloadLen)
  emitIpv4 ip (checksum (emitIpv4 ip 0))
    ++ emitTcp tcp (checksum (pseudo ++ emitTcp tcp 0)) ++ List.replicate n 0

/-- The client fills the receive buffer to the last byte; the ACK of the last packet says so. -/
def fullBuffer : List Label :=
  handshake ++ [.turn, written]
    ++ (List.replicate 16 [.turn, .poll ⟨none, some (.ok (zeros 2008))⟩]).flatten
    ++ [.turn, .poll ⟨none, some (.ok (zeros 640))⟩] ++ dispatchDue ++ [written]

abbrev WindowedLoop := State Windowed (Queue AddrPair)

/-- Whether the labels make a run with the given property. -/
def windowed (ls : List Label) (f : List (WindowedLoop × Label) → WindowedLoop → Bool) : Bool :=
  Transition.tests (State.step wire) (State.init clock) ls f

lemma run_of_windowed (ls : List Label) (f : List (WindowedLoop × Label) → WindowedLoop → Bool)
    (h : windowed ls f = true) : ∃ hist s, State.LoopRun wire clock hist s ∧ f hist s = true :=
  Transition.run_of_tests ls f h

end Reference
end Ustunet
