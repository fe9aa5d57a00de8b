import Ustunet.Reference

/-!
# A reference socket with the bytes it sends

`Reference.Socket` only counts the bytes in its transmit buffer. `Holding` keeps them, and sends
them.
-/

namespace Ustunet
namespace Reference

/-- The reference socket and the bytes that the peer has not acknowledged. -/
structure Holding where
  base : Socket
  data : List UInt8

namespace Holding

/-- The bytes of the next segment: those after the ones that have been sent. -/
def payload (t : Holding) (ts : SmolInstant) (len : ℕ) : List UInt8 :=
  let base := if t.base.seqToTransmit then t.base else t.base.rewound ts
  (t.data.drop base.sent).take len

def fill (t : Holding) (ts : SmolInstant) (packet : Packet) : Packet :=
  (packet.1, { packet.2 with payload := t.payload ts packet.2.payload.length })

def dispatch (t : Holding) (ts : SmolInstant) : Egress Holding :=
  match t.base.dispatch ts with
  | .emit packet resume =>
    .emit (t.fill ts packet) fun r => ((resume r).1, { t with base := (resume r).2 })
  | .quiet r base =>
    -- without a packet the state changes by a reset only
    .quiet r ⟨base, if base.state = t.base.state then t.data else []⟩

def process (t : Holding) (ts : SmolInstant) (ip : IpRepr) (repr : TcpRepr) :
    Except Error (Option Packet) × Holding :=
  let (reply, base) := t.base.process ts ip repr
  (reply, ⟨base, t.data.drop (t.base.tx - base.tx)⟩)

def sendSlice (t : Holding) (buf : List UInt8) : Except Error (ℕ × Holding) := do
  let (n, base) ← t.base.sendSlice buf
  return (n, ⟨base, t.data ++ buf.take n⟩)

def recvSlice (t : Holding) (len : ℕ) : Except Error (List UInt8 × Holding) := do
  let (bytes, base) ← t.base.recvSlice len
  return (bytes, { t with base })

def listen (t : Holding) (addr : SocketAddr) : Except Error Holding := do
  let base ← t.base.listen addr
  return ⟨base, []⟩

instance : TcpSocket Holding where
  new rx tx := ⟨.new rx tx, []⟩
  isOpen t := t.base.isOpen
  listen := listen
  setAckDelay t d := { t with base := { t.base with ackDelay := d } }
  state t := t.base.state
  localEndpoint t := t.base.localEndpoint
  remoteEndpoint t := t.base.remoteEndpoint
  canSend t := t.base.canSend
  maySend t := t.base.maySend
  canRecv t := t.base.canRecv
  mayRecv t := t.base.mayRecv
  recvQueue t := t.base.rx.length
  pollAt t := t.base.pollAt
  process := process
  dispatch := dispatch
  sendSlice := sendSlice
  recvSlice := recvSlice
  close t := { t with base := t.base.close }

/-- The bytes received and not read. -/
def rx (t : Holding) : List UInt8 := t.base.rx

lemma recvSlice_ok {t t' : Holding} {len : ℕ} {bytes : List UInt8}
    (h : t.recvSlice len = .ok (bytes, t')) :
    t.base.recvSlice len = .ok (bytes, t'.base) ∧ t'.data = t.data := by
  obtain ⟨⟨bytes', base⟩, hbase, h⟩ := Transition.bind_ok h
  cases h
  exact ⟨hbase, rfl⟩

lemma sendSlice_ok {t t' : Holding} {buf : List UInt8} {n : ℕ}
    (h : t.sendSlice buf = .ok (n, t')) :
    t.base.sendSlice buf = .ok (n, t'.base) ∧ t'.data = t.data ++ buf.take n := by
  obtain ⟨⟨n', base⟩, hbase, h⟩ := Transition.bind_ok h
  cases h
  exact ⟨hbase, rfl⟩

/-- A dispatch that sends nothing keeps the state and the bytes received, or ends TIME-WAIT. -/
lemma quiet_keeps {t base : Socket} {ts : SmolInstant} {r : Except Error Unit}
    (h : t.dispatch ts = .quiet r base) :
    t.Keeps base ∨ (t.state = .timeWait ∧ base = t.reset) := by
  unfold Socket.dispatch at h
  split at h
  · cases h
    exact Or.inl ⟨rfl, rfl⟩
  · have ht' : t.Keeps (if t.seqToTransmit then t else t.rewound ts) ∧
        (if t.seqToTransmit then t else t.rewound ts).reset = t.reset := by
      unfold Socket.rewound
      split
      · exact ⟨⟨rfl, rfl⟩, rfl⟩
      · split <;> exact ⟨⟨rfl, rfl⟩, rfl⟩
    generalize (if t.seqToTransmit then t else t.rewound ts) = t' at ht' h
    obtain ⟨hk, hreset⟩ := ht'
    dsimp only at h
    split at h
    · cases h
    · split at h
      · cases h
      · split at h
        · cases h
        · split at h
          · next htw =>
            cases h
            rw [Bool.and_eq_true, beq_iff_eq] at htw
            exact Or.inr ⟨hk.1 ▸ htw.1, hreset⟩
          · cases h
            exact Or.inl hk

/-- A dispatch keeps the state and the bytes, or resets the socket. -/
lemma dispatchTo_keeps (t : Holding) (ts : SmolInstant) :
    (t.base.Keeps (TcpSocket.dispatchTo wire t ts).2.2.base ∧
        (TcpSocket.dispatchTo wire t ts).2.2.data = t.data) ∨
      (TcpSocket.dispatchTo wire t ts).2.2 = ⟨t.base.reset, []⟩ := by
  unfold TcpSocket.dispatchTo
  have hd : TcpSocket.dispatch t ts = t.dispatch ts := rfl
  rw [hd, dispatch]
  cases h : t.base.dispatch ts with
  | quiet r base =>
    rcases quiet_keeps h with hk | ⟨htw, rfl⟩
    · refine Or.inl ⟨hk, ?_⟩
      dsimp only
      rw [if_pos hk.1]
    · refine Or.inr ?_
      dsimp only
      rw [htw, if_neg nofun]
  | emit p resume =>
    rcases t.base.dispatch_keeps ts with h' | ⟨base, -, h'⟩ | ⟨p', before, done, -, hdone, h'⟩
    · rw [h] at h'
      cases h'
    · rw [h] at h'
      cases h'
    · rw [h] at h'
      cases h'
      exact Or.inl ⟨hdone, rfl⟩

lemma open_ok {addr : SocketAddr} {t : Holding} (h : openSocket addr = .ok t) :
    t.base.rx = [] ∧ t.data = [] := by
  change (listen ⟨.new rxBufSize txBufSize, []⟩ addr >>= fun s =>
    (.ok { s with base := { s.base with ackDelay := some 0 } } : Except Error Holding)) = .ok t at h
  obtain ⟨t', hlisten, h⟩ := Transition.bind_ok h
  obtain ⟨base, hbase, hlisten⟩ := Transition.bind_ok hlisten
  cases hlisten
  cases h
  unfold Socket.listen at hbase
  split at hbase
  · cases hbase
  · split at hbase
    · cases hbase
    · cases hbase
      exact ⟨rfl, rfl⟩

/-- A packet adds to the bytes received. -/
lemma process_rx (t : Socket) (ts : SmolInstant) (ip : IpRepr) (repr : TcpRepr) :
    t.rx <+: (t.process ts ip repr).2.rx := by
  unfold Socket.process
  split <;> first | exact List.prefix_rfl | skip
  split
  · unfold Socket.processSegment
    split
    · exact List.prefix_rfl
    · exact List.prefix_append _ _
  · exact List.prefix_rfl

lemma close_rx (t : Socket) : t.close.rx = t.rx := by
  unfold Socket.close
  split <;> rfl

lemma buffers : Buffers Holding wire rx data where
  recv_queue _ := rfl
  open_empty _ _ h := open_ok h
  recv t len bytes t' h := by
    obtain ⟨hbase, hdata⟩ := recvSlice_ok h
    unfold Socket.recvSlice at hbase
    split at hbase
    · rw [Except.ok.injEq, Prod.mk.injEq] at hbase
      have hrx : rx t' = t.base.rx.drop len := by rw [rx, ← hbase.2]
      rw [hrx, ← hbase.1]
      exact ⟨(List.take_append_drop len t.base.rx).symm, hdata⟩
    · cases hbase
  send t buf n t' h := by
    obtain ⟨hbase, hdata⟩ := sendSlice_ok h
    refine ⟨hdata, ?_⟩
    unfold Socket.sendSlice at hbase
    split at hbase
    · rw [Except.ok.injEq, Prod.mk.injEq] at hbase
      rw [rx, ← hbase.2]
      rfl
    · cases hbase
  process t ts ip repr := ⟨process_rx t.base ts ip repr, List.drop_suffix _ _⟩
  dispatch t ts := by
    rcases dispatchTo_keeps t ts with ⟨hk, hdata⟩ | hreset
    · exact Or.inl ⟨hk.2, hdata⟩
    · rw [hreset]
      exact Or.inr ⟨rfl, rfl, rfl⟩
  close t := ⟨close_rx t.base, rfl⟩
  closed t hcl := by
    change t.base.state = .closed at hcl
    refine ⟨?_, ?_, fun ts => ?_, fun len bytes t' h => ?_⟩
    · show t.base.canSend = false
      simp [Socket.canSend, Socket.maySend, hcl]
    · show t.base.close.state = .closed
      simp [Socket.close, hcl, TcpState.afterClose]
    · rcases dispatchTo_keeps t ts with ⟨hk, -⟩ | hreset
      · exact hk.1.trans hcl
      · rw [hreset]
        rfl
    · obtain ⟨hbase, -⟩ := recvSlice_ok h
      exact (Socket.slicesKeepState.recv _ _ _ _ hbase).trans hcl

lemma recvSide : RecvSide Holding wire where
  mayRecv_eq _ := rfl
  canRecv_eq _ := rfl
  recv_some t len hcan hlen := by
    obtain ⟨b, bytes, base, h⟩ := Socket.recvSide.recv_some t.base len hcan hlen
    have h : t.base.recvSlice len = .ok (b :: bytes, base) := h
    refine ⟨b, bytes, { t with base }, ?_⟩
    show t.recvSlice len = _
    rw [recvSlice, h]
    rfl
  send_keeps t buf n t' h :=
    Socket.recvSide.send_keeps t.base buf n t'.base (sendSlice_ok h).1
  close_state t := Socket.recvSide.close_state t.base
  close_recv t := Socket.recvSide.close_recv t.base
  dispatch_recv t ts h := by
    show (TcpSocket.dispatchTo wire t ts).2.2.base.rx.length = 0
    rcases dispatchTo_keeps t ts with ⟨hk, -⟩ | hreset
    · rw [hk.2]
      exact h
    · rw [hreset]
      rfl

end Holding

abbrev HoldingLoop := State Holding (Queue AddrPair)

/-- Whether the labels make a run with the given property. -/
def holding (ls : List Label) (f : List (HoldingLoop × Label) → HoldingLoop → Bool) : Bool :=
  Transition.tests (State.step wire) (State.init clock) ls f

lemma run_of_holding (ls : List Label) (f : List (HoldingLoop × Label) → HoldingLoop → Bool)
    (h : holding ls f = true) : ∃ hist s, State.LoopRun wire clock hist s ∧ f hist s = true :=
  Transition.run_of_tests ls f h

/-- A second stream stays in the accept channel. The application reads three of the four bytes that
the client sends in two packets, and writes three; the client acknowledges the first two before the
third is sent. -/
def exchange : List Label :=
  handshake ++ [.turn, synFrom 40001, .resume, .resume, .resume, .turn, written, .turn,
    receive .psh true [1, 2], .app (.read reader true 7 1),
    .app (.write writer true 8 [11, 12]), .turn, idle] ++ dispatchDue ++
    [receive .psh true [3, 4], .app (.read reader true 7 2), .app (.write writer true 8 [13])]

/-- The client sends two bytes and a FIN; the application has read the bytes. -/
def lastBytes : List Label :=
  handshake ++ [.turn, written, .turn, receive .psh true [1, 2], .turn, receive .fin true [],
    .app (.read reader true 7 10)]

end Reference
end Ustunet
