import Ustunet.Net

/-!
# The TCP socket

`smoltcp::socket::TcpSocket` is not part of the repository: it is a parameter of the model, a
type `T` with the operations that the loop and the streams call. Nothing is assumed of them
here; each result names what it needs of the socket as a hypothesis. Two things are built into
the signatures:

* `dispatch` calls its `emit` closure at most once (`Egress`);
* `send_slice` and `recv_slice` leave the socket as it was when they fail.
-/

namespace Ustunet

/-- `smoltcp::socket::TcpState`. -/
inductive TcpState
  | closed | listen | synSent | synReceived | established | finWait1 | finWait2
  | closeWait | closing | lastAck | timeWait
deriving DecidableEq, Repr

/-- `smoltcp::socket::PollAt`: when a socket wants to be polled for egress. -/
inductive PollAt
  | now
  | time (t : SmolInstant)
  | ingress
deriving DecidableEq

/-- What `TcpSocket::dispatch` does: return without a packet, or hand one packet to its `emit`
closure and go on with the closure's answer. -/
inductive Egress (T : Type)
  | quiet (r : Except Error Unit) (tcp : T)
  | emit (packet : Packet) (resume : Except Error Unit → Except Error Unit × T)

/-- The operations of `smoltcp::socket::TcpSocket`. The capabilities of the device, which
never change, are part of `dispatch`. -/
class TcpSocket (T : Type) where
  /-- `TcpSocket::new`, given the sizes of the receive and transmit buffers. -/
  new : ℕ → ℕ → T
  isOpen : T → Bool
  listen : T → SocketAddr → Except Error T
  /-- `set_ack_delay`, in milliseconds. -/
  setAckDelay : T → Option ℕ → T
  state : T → TcpState
  localEndpoint : T → IpEndpoint
  remoteEndpoint : T → IpEndpoint
  canSend : T → Bool
  maySend : T → Bool
  canRecv : T → Bool
  mayRecv : T → Bool
  /-- `recv_queue`: the number of bytes in the receive buffer. -/
  recvQueue : T → ℕ
  pollAt : T → PollAt
  process : T → SmolInstant → IpRepr → TcpRepr → Except Error (Option Packet) × T
  dispatch : T → SmolInstant → Egress T
  /-- The number of bytes taken from the slice. -/
  sendSlice : T → List UInt8 → Except Error (ℕ × T)
  /-- The bytes put into a slice of the given length. -/
  recvSlice : T → ℕ → Except Error (List UInt8 × T)
  close : T → T

namespace TcpSocket

variable {T : Type} [TcpSocket T]

/-- `tcp.dispatch(timestamp, caps, emit)` with the closure that serialises into the buffer:
the result, what the buffer then holds, and the socket. -/
def dispatchTo (wire : Wire) (tcp : T) (timestamp : SmolInstant) :
    Except Error Unit × List UInt8 × T :=
  match dispatch tcp timestamp with
  | .quiet r tcp => (r, [], tcp)
  | .emit packet resume =>
    match packetToBytes wire packet with
    | .ok bytes =>
      let (r, tcp) := resume (.ok ())
      (r, bytes, tcp)
    | .error e =>
      let (r, tcp) := resume (.error e)
      (r, [], tcp)

end TcpSocket

end Ustunet
