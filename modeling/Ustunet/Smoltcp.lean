import Ustunet.World
import Ustunet.ConnectionTheorems

/-!
# What is assumed of smoltcp

The results about the loop hold for every `TcpSocket`, or for those with the behaviour stated
here, each part under its own name:

* `FreshQuiet`: a socket that has just been opened has nobody to talk to;
* `DispatchesWhenDue`: `dispatch` and `poll_at` agree on when there is something to do;
* `SendSide` and `RecvSide`: the buffers, and what ends the two directions;
* `Buffers`: what is in the two buffers;
* `Slices`: how many bytes `recv_slice` and `send_slice` move;
* `EmptyRecvQuiet`: a `recv_slice` that takes nothing gives the socket nothing to send;
* `OpensListening`, `SlicesKeepState`, `CloseMoves` and `Transitions`: the state of a socket that
  was opened by `listen`, and what moves it;
* `MaySend`: the states in which the application may send;
* `Endpoints`: what sets the endpoints of a socket.
-/

namespace Ustunet

variable (T : Type) [TcpSocket T]

/-- An open socket without a peer waits for packets only. -/
def FreshQuiet : Prop :=
  ∀ (addr : SocketAddr) (tcp : T), openSocket addr = .ok tcp → TcpSocket.pollAt tcp = .ingress

/-- Whether `poll_at` asks for a dispatch at the given time. -/
def PollAt.isDue (p : PollAt) (timestamp : SmolInstant) : Bool :=
  match p with
  | .now => true
  | .time t => t.millis ≤ timestamp.millis
  | .ingress => false

/-- `poll_at` mirrors `dispatch`. -/
structure DispatchesWhenDue (wire : Wire) : Prop where
  /-- With nothing due, `dispatch` returns `Exhausted` and changes neither the timers nor the
  remote endpoint. -/
  early : ∀ (tcp : T) (ts : SmolInstant), (TcpSocket.pollAt tcp).isDue ts = false →
    (TcpSocket.dispatchTo wire tcp ts).1 = .error .exhausted ∧
      TcpSocket.pollAt (TcpSocket.dispatchTo wire tcp ts).2.2 = TcpSocket.pollAt tcp ∧
      TcpSocket.remoteEndpoint (TcpSocket.dispatchTo wire tcp ts).2.2
        = TcpSocket.remoteEndpoint tcp
  /-- With something due, `dispatch` sends it, or it was the end of the socket's last wait. -/
  due : ∀ (tcp : T) (ts : SmolInstant), (TcpSocket.pollAt tcp).isDue ts = true →
    (TcpSocket.dispatchTo wire tcp ts).1 = .error .exhausted →
    (TcpSocket.remoteEndpoint (TcpSocket.dispatchTo wire tcp ts).2.2).isSpecified = false ∨
      TcpSocket.pollAt (TcpSocket.dispatchTo wire tcp ts).2.2 = .ingress

/-- The transmit buffer. -/
structure SendSide : Prop where
  /-- `send_slice` takes at least one byte where there is space. -/
  send_some : ∀ (tcp : T) (buf : List UInt8), TcpSocket.canSend tcp = true → buf ≠ [] →
    ∃ n tcp', TcpSocket.sendSlice tcp buf = .ok (n, tcp') ∧ 0 < n
  /-- `recv_slice` leaves the transmit buffer and the state alone. -/
  recv_keeps : ∀ (tcp : T) (len : ℕ) (bytes : List UInt8) (tcp' : T),
    TcpSocket.recvSlice tcp len = .ok (bytes, tcp') →
    TcpSocket.canSend tcp' = TcpSocket.canSend tcp ∧
      TcpSocket.maySend tcp' = TcpSocket.maySend tcp
  /-- `close` ends the transmit direction. -/
  close_ends : ∀ tcp : T, TcpSocket.maySend (TcpSocket.close tcp) = false

/-- The two buffers are queues of bytes: `rx` are those received and not read, `tx` those sent and
not acknowledged by the peer. -/
structure Buffers (wire : Wire) (rx tx : T → List UInt8) : Prop where
  recv_queue : ∀ tcp : T, TcpSocket.recvQueue tcp = (rx tcp).length
  open_empty : ∀ (addr : SocketAddr) (tcp : T), openSocket addr = .ok tcp →
    rx tcp = [] ∧ tx tcp = []
  recv : ∀ (tcp : T) (len : ℕ) (bytes : List UInt8) (tcp' : T),
    TcpSocket.recvSlice tcp len = .ok (bytes, tcp') → rx tcp = bytes ++ rx tcp' ∧ tx tcp' = tx tcp
  send : ∀ (tcp : T) (buf : List UInt8) (n : ℕ) (tcp' : T),
    TcpSocket.sendSlice tcp buf = .ok (n, tcp') → tx tcp' = tx tcp ++ buf.take n ∧ rx tcp' = rx tcp
  /-- A packet may add to what was received, and acknowledge the oldest of what was sent. -/
  process : ∀ (tcp : T) (ts : SmolInstant) (ip : IpRepr) (repr : TcpRepr),
    rx tcp <+: rx (TcpSocket.process tcp ts ip repr).2 ∧
      tx (TcpSocket.process tcp ts ip repr).2 <:+ tx tcp
  /-- The end of TIME-WAIT resets the socket; else `dispatch` leaves the buffers alone. -/
  dispatch : ∀ (tcp : T) (ts : SmolInstant),
    (rx (TcpSocket.dispatchTo wire tcp ts).2.2 = rx tcp ∧
        tx (TcpSocket.dispatchTo wire tcp ts).2.2 = tx tcp) ∨
      (TcpSocket.state (TcpSocket.dispatchTo wire tcp ts).2.2 = .closed ∧
        rx (TcpSocket.dispatchTo wire tcp ts).2.2 = [] ∧
        tx (TcpSocket.dispatchTo wire tcp ts).2.2 = [])
  close : ∀ tcp : T, rx (TcpSocket.close tcp) = rx tcp ∧ tx (TcpSocket.close tcp) = tx tcp
  /-- A closed socket takes nothing more, and stays closed. -/
  closed : ∀ tcp : T, TcpSocket.state tcp = .closed → TcpSocket.canSend tcp = false ∧
    TcpSocket.state (TcpSocket.close tcp) = .closed ∧
    (∀ ts : SmolInstant, TcpSocket.state (TcpSocket.dispatchTo wire tcp ts).2.2 = .closed) ∧
    ∀ (len : ℕ) (bytes : List UInt8) (tcp' : T),
      TcpSocket.recvSlice tcp len = .ok (bytes, tcp') → TcpSocket.state tcp' = .closed

/-- `recv_slice` and `send_slice` move as many bytes as both sides have, and moving none ends no
direction. -/
structure Slices : Prop where
  recv : ∀ (tcp : T) (len : ℕ), TcpSocket.canRecv tcp = true →
    ∃ (available : ℕ) (bytes : List UInt8) (tcp' : T), 0 < available ∧
      TcpSocket.recvSlice tcp len = .ok (bytes, tcp') ∧ bytes.length = min len available ∧
      (bytes = [] → TcpSocket.mayRecv tcp' = true)
  send : ∀ (tcp : T) (buf : List UInt8), TcpSocket.canSend tcp = true →
    ∃ (space n : ℕ) (tcp' : T), 0 < space ∧
      TcpSocket.sendSlice tcp buf = .ok (n, tcp') ∧ n = min buf.length space ∧
      (n = 0 → TcpSocket.maySend tcp' = true)

/-- Taking no bytes out of the receive buffer leaves the window, and so the timers, alone. -/
def EmptyRecvQuiet : Prop :=
  ∀ (tcp : T) (len : ℕ) (tcp' : T), TcpSocket.recvSlice tcp len = .ok ([], tcp') →
    TcpSocket.pollAt tcp' = TcpSocket.pollAt tcp

/-- The states in which more may come from the peer. -/
def TcpState.receives (s : TcpState) : Bool :=
  match s with
  | .established | .finWait1 | .finWait2 => true
  | _ => false

/-- The state after `close`. -/
def TcpState.afterClose (s : TcpState) : TcpState :=
  match s with
  | .listen | .synSent => .closed
  | .synReceived | .established => .finWait1
  | .closeWait => .lastAck
  | s => s

/-- The receive buffer, and the effect of `close`. -/
structure RecvSide (wire : Wire) : Prop where
  mayRecv_eq : ∀ tcp : T, TcpSocket.mayRecv tcp
    = ((TcpSocket.state tcp).receives || decide (0 < TcpSocket.recvQueue tcp))
  canRecv_eq : ∀ tcp : T, TcpSocket.canRecv tcp
    = (TcpSocket.mayRecv tcp && decide (0 < TcpSocket.recvQueue tcp))
  /-- `recv_slice` takes at least one byte where there is one. -/
  recv_some : ∀ (tcp : T) (len : ℕ), TcpSocket.canRecv tcp = true → 0 < len →
    ∃ b bytes tcp', TcpSocket.recvSlice tcp len = .ok (b :: bytes, tcp')
  send_keeps : ∀ (tcp : T) (buf : List UInt8) (n : ℕ) (tcp' : T),
    TcpSocket.sendSlice tcp buf = .ok (n, tcp') →
    TcpSocket.state tcp' = TcpSocket.state tcp ∧
      TcpSocket.recvQueue tcp' = TcpSocket.recvQueue tcp
  close_state : ∀ tcp : T,
    TcpSocket.state (TcpSocket.close tcp) = (TcpSocket.state tcp).afterClose
  close_recv : ∀ tcp : T, TcpSocket.recvQueue (TcpSocket.close tcp) = TcpSocket.recvQueue tcp
  /-- `dispatch` receives nothing. -/
  dispatch_recv : ∀ (tcp : T) (ts : SmolInstant), TcpSocket.recvQueue tcp = 0 →
    TcpSocket.recvQueue (TcpSocket.dispatchTo wire tcp ts).2.2 = 0

/-- The states a packet may lead to. A FIN that does not start at the start of the window is
disregarded, and the packet handled as an ACK. -/
def TcpState.onPacket (control : TcpControl) (s : TcpState) : List TcpState :=
  match s, control with
  | .closed, _ => [.closed]
  | .listen, .syn => [.listen, .synReceived]
  | .listen, _ => [.listen]
  | .synSent, _ => [.synSent, .synReceived, .established, .closed]
  | .synReceived, .rst => [.synReceived, .listen]
  | .synReceived, .fin => [.synReceived, .established, .closeWait]
  | .synReceived, _ => [.synReceived, .established]
  | s, .rst => [s, .closed]
  | .established, .fin => [.established, .closeWait]
  | .established, _ => [.established]
  | .finWait1, .fin => [.finWait1, .finWait2, .closing, .timeWait]
  | .finWait1, _ => [.finWait1, .finWait2]
  | .finWait2, .fin => [.finWait2, .timeWait]
  | .finWait2, _ => [.finWait2]
  | .closeWait, _ => [.closeWait]
  | .closing, _ => [.closing, .timeWait]
  | .lastAck, _ => [.lastAck, .closed]
  | .timeWait, _ => [.timeWait]

/-- The states in which the peer has ended its direction, or the connection is gone. -/
def TcpState.over (s : TcpState) : Bool :=
  match s with
  | .closed | .closeWait | .closing | .lastAck | .timeWait => true
  | _ => false

/-- A socket that has been opened listens. -/
def OpensListening : Prop :=
  ∀ (addr : SocketAddr) (tcp : T), openSocket addr = .ok tcp → TcpSocket.state tcp = .listen

/-- `send_slice` and `recv_slice` leave the state alone. -/
structure SlicesKeepState : Prop where
  send : ∀ (tcp : T) (buf : List UInt8) (n : ℕ) (tcp' : T),
    TcpSocket.sendSlice tcp buf = .ok (n, tcp') → TcpSocket.state tcp' = TcpSocket.state tcp
  recv : ∀ (tcp : T) (len : ℕ) (bytes : List UInt8) (tcp' : T),
    TcpSocket.recvSlice tcp len = .ok (bytes, tcp') → TcpSocket.state tcp' = TcpSocket.state tcp

/-- `close` moves the state. -/
def CloseMoves : Prop :=
  ∀ tcp : T, TcpSocket.state (TcpSocket.close tcp) = (TcpSocket.state tcp).afterClose

/-- What the loop does to the state. -/
structure Transitions (wire : Wire) : Prop where
  process : ∀ (tcp : T) (ts : SmolInstant) (ip : IpRepr) (repr : TcpRepr),
    TcpSocket.state (TcpSocket.process tcp ts ip repr).2
      ∈ (TcpSocket.state tcp).onPacket repr.control
  /-- A timer or an abort closes the socket; `dispatch` changes its state in no other way. -/
  dispatch : ∀ (tcp : T) (ts : SmolInstant),
    TcpSocket.state (TcpSocket.dispatchTo wire tcp ts).2.2 = TcpSocket.state tcp ∨
      TcpSocket.state (TcpSocket.dispatchTo wire tcp ts).2.2 = .closed

/-- The states in which the application may send. -/
structure MaySend : Prop where
  maySend_eq : ∀ tcp : T, TcpSocket.maySend tcp
    = decide (TcpSocket.state tcp = .established ∨ TcpSocket.state tcp = .closeWait)
  canSend_may : ∀ tcp : T, TcpSocket.canSend tcp = true → TcpSocket.maySend tcp = true

section

variable {T} (listenAddress : T → IpAddress)

/-- The endpoints stay, and so does the address to listen on, unless the socket ends closed. -/
def KeepsEndpoints (tcp tcp' : T) : Prop :=
  TcpSocket.state tcp' = .closed ∨
    (TcpSocket.state tcp ≠ .closed ∧
      TcpSocket.localEndpoint tcp' = TcpSocket.localEndpoint tcp ∧
      TcpSocket.remoteEndpoint tcp' = TcpSocket.remoteEndpoint tcp ∧
      listenAddress tcp' = listenAddress tcp)

/-- What a packet does to the endpoints of a socket. -/
inductive PacketEndpoints (tcp : T) (ipRepr : IpRepr) (tcpRepr : TcpRepr) (tcp' : T) : Prop
  | keeps (h : KeepsEndpoints listenAddress tcp tcp')
  /-- A SYN connects a listening socket. The address to listen on again stays as it is; it may
  also become the one that the SYN went to. -/
  | syn (hs : TcpSocket.state tcp = .listen) (hc : tcpRepr.control = .syn)
      (hlocal : TcpSocket.localEndpoint tcp' = ⟨ipRepr.dstAddr, tcpRepr.dstPort⟩)
      (hremote : TcpSocket.remoteEndpoint tcp' = ⟨ipRepr.srcAddr, tcpRepr.srcPort⟩)
      (haddr : listenAddress tcp' = listenAddress tcp ∨ listenAddress tcp' = ipRepr.dstAddr)
  /-- A RST before the handshake is finished makes the socket listen again. -/
  | rst (hs : TcpSocket.state tcp = .synReceived) (hc : tcpRepr.control = .rst)
      (hs' : TcpSocket.state tcp' = .listen)
      (hlocal : TcpSocket.localEndpoint tcp'
        = ⟨listenAddress tcp, (TcpSocket.localEndpoint tcp).port⟩)
      (hremote : TcpSocket.remoteEndpoint tcp' = .unspecified)
      (haddr : listenAddress tcp' = listenAddress tcp)

end

/-- The endpoints of a socket and its `listen_address`. -/
structure Endpoints (wire : Wire) (listenAddress : T → IpAddress) : Prop where
  new_closed : ∀ rx tx : ℕ, TcpSocket.isOpen (TcpSocket.new rx tx : T) = false
  listen_sets : ∀ (tcp : T) (addr : SocketAddr) (tcp' : T),
    TcpSocket.listen tcp addr = .ok tcp' →
    TcpSocket.localEndpoint tcp' = .fromSocketAddr addr ∧
      TcpSocket.remoteEndpoint tcp' = .unspecified ∧
      listenAddress tcp' = (IpEndpoint.fromSocketAddr addr).addr
  ackDelay_keeps : ∀ (tcp : T) (delay : Option ℕ),
    KeepsEndpoints listenAddress tcp (TcpSocket.setAckDelay tcp delay)
  process_sets : ∀ (tcp : T) (ts : SmolInstant) (ip : IpRepr) (repr : TcpRepr),
    PacketEndpoints listenAddress tcp ip repr (TcpSocket.process tcp ts ip repr).2
  dispatch_keeps : ∀ (tcp : T) (ts : SmolInstant),
    KeepsEndpoints listenAddress tcp (TcpSocket.dispatchTo wire tcp ts).2.2
  send_keeps : ∀ (tcp : T) (buf : List UInt8) (n : ℕ) (tcp' : T),
    TcpSocket.sendSlice tcp buf = .ok (n, tcp') → KeepsEndpoints listenAddress tcp tcp'
  recv_keeps : ∀ (tcp : T) (len : ℕ) (bytes : List UInt8) (tcp' : T),
    TcpSocket.recvSlice tcp len = .ok (bytes, tcp') → KeepsEndpoints listenAddress tcp tcp'
  close_keeps : ∀ tcp : T, KeepsEndpoints listenAddress tcp (TcpSocket.close tcp)

/-! ## The calls of the application and the state of the socket -/

section

variable {T} {wire : Wire} {lock : Bool} {s s' : Shared T} {waker : Waker}

/-- A read does not change the state. -/
lemma ReadHalf.pollReadInner_state (hT : SlicesKeepState T) {len : ℕ}
    {r : Poll (Except IoError (List UInt8))} (h : pollReadInner lock s waker len = (r, s')) :
    TcpSocket.state s'.tcp = TcpSocket.state s.tcp := by
  rcases pollReadInner_recv h with htcp | ⟨bytes, hrecv⟩
  · rw [htcp]
  · exact hT.recv _ _ _ _ hrecv

/-- Nor does a write. -/
lemma WriteHalf.pollWriteInner_state (hT : SlicesKeepState T) {handle : SocketHandle}
    {buf : List UInt8} {r : Poll (Except IoError ℕ)} {update : Option PollUpdate}
    (h : pollWriteInner lock s handle waker buf = (r, s', update)) :
    TcpSocket.state s'.tcp = TcpSocket.state s.tcp := by
  rcases pollWriteInner_send h with htcp | ⟨n, hsend⟩
  · rw [htcp]
  · exact hT.send _ _ _ _ hsend

/-- And it does not add to the receive buffer, nor take from it. -/
lemma WriteHalf.pollWriteInner_keeps (hT : RecvSide T wire) {handle : SocketHandle}
    {buf : List UInt8} {r : Poll (Except IoError ℕ)} {update : Option PollUpdate}
    (h : pollWriteInner lock s handle waker buf = (r, s', update)) :
    TcpSocket.state s'.tcp = TcpSocket.state s.tcp ∧
      TcpSocket.recvQueue s'.tcp = TcpSocket.recvQueue s.tcp := by
  rcases pollWriteInner_send h with htcp | ⟨n, hsend⟩
  · rw [htcp]
    exact ⟨rfl, rfl⟩
  · exact hT.send_keeps _ _ _ _ hsend

end

end Ustunet
