import Ustunet.Connection

/-!
# The two halves of a stream

`stream/mod.rs`: what the application does with a connection. Each function starts with
`ready!(self.mutex.poll_lock(cx))`; `lock` says whether that got the lock. A call that did not
has no effect here and is woken by the lock.
-/

namespace Ustunet

/-- `std::task::Poll`. -/
inductive Poll (α : Type)
  | ready (a : α)
  | pending
deriving DecidableEq

/-- `std::io::Error`, as far as the streams and the device make one. -/
inductive IoError
  /-- `ErrorKind::Other`, with the text of an error of smoltcp. -/
  | other (e : Error)
  | connectionAborted
  /-- An error of the device. -/
  | device
deriving DecidableEq

variable {T : Type} [TcpSocket T]

namespace ReadHalf

/-- The end of `poll_read_inner`, when no bytes were read. -/
def blocked (s : Shared T) (waker : Waker) : Poll (Except IoError (List UInt8)) × Shared T :=
  -- the reader could be used before the handshake is finished
  if TcpSocket.mayRecv s.tcp || TcpSocket.state s.tcp == .synReceived then
    (.pending, { s with readReadiness := { s.readReadiness with waker := some waker } })
  -- the end is reported once, and is an error from then on
  else if s.eofReached then (.ready (.error .connectionAborted), s)
  else (.ready (.ok []), { s with eofReached := true })

/-- `ReadHalf::poll_read_inner` with a buffer of `len` bytes: the bytes read, whose number is
what the source returns. -/
def pollReadInner (lock : Bool) (s : Shared T) (waker : Waker) (len : ℕ) :
    Poll (Except IoError (List UInt8)) × Shared T :=
  if !lock then (.pending, s)
  else if TcpSocket.canRecv s.tcp then
    match TcpSocket.recvSlice s.tcp len with
    | .error e => (.ready (.error (.other e)), s)
    | .ok (bytes, tcp) =>
      if 0 < bytes.length then (.ready (.ok bytes), { s with tcp })
      -- the source logs an error here and goes on
      else blocked { s with tcp } waker
  else blocked s waker

end ReadHalf

namespace WriteHalf

/-- `WriteHalf::poll_write_inner`: the number of bytes taken, what is shared, and the update
sent to the dispatch queue. -/
def pollWriteInner (lock : Bool) (s : Shared T) (handle : SocketHandle) (waker : Waker)
    (buf : List UInt8) :
    Poll (Except IoError ℕ) × Shared T × Option (SocketHandle × PollAt) :=
  if !lock then (.pending, s, none)
  else
    let inactive := !s.pollingActive
    let sent :=
      if TcpSocket.canSend s.tcp then TcpSocket.sendSlice s.tcp buf else .ok (0, s.tcp)
    match sent with
    | .error e => (.ready (.error (.other e)), s, none)
    | .ok (n, tcp) =>
      -- sent whatever the call returns, also when no byte was taken
      let update := if inactive then some (handle, TcpSocket.pollAt tcp) else none
      let s := { s with tcp }
      if 0 < n then (.ready (.ok n), s, update)
      else if !TcpSocket.maySend tcp then (.ready (.error .connectionAborted), s, update)
      else
        (.pending, { s with writeReadiness := { s.writeReadiness with waker := some waker } },
          update)

/-- `WriteHalf::poll_close_inner`. -/
def pollCloseInner (lock : Bool) (s : Shared T) (handle : SocketHandle) :
    Poll Unit × Shared T × Option (SocketHandle × PollAt) :=
  if !lock then (.pending, s, none)
  else
    let tcp := TcpSocket.close s.tcp
    let update := if !s.pollingActive then some (handle, TcpSocket.pollAt tcp) else none
    (.ready (), { s with tcp }, update)

end WriteHalf

end Ustunet
