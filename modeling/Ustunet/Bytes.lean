import Ustunet.Projection
import Ustunet.ReferenceBytes

/-!
# The bytes of a stream

What the application reads is what the peer's packets brought, and what the peer acknowledges is
what the application wrote: each byte once, in order, whatever the other connections do and
whatever order the tasks run in. Of the socket this needs `Buffers`: its buffers are queues.

Bytes are lost in one way only. At the end of TIME-WAIT smoltcp resets the socket, with what was
not read; the socket is closed from then on.
-/

namespace Ustunet

variable {T Q : Type} [TcpSocket T] [DelayQueue AddrPair Q]

/-! ## What goes in and what comes out -/

/-- The bytes in the answer of `poll_read_inner`. -/
def Poll.bytes : Poll (Except IoError (List UInt8)) → List UInt8
  | .ready (.ok bytes) => bytes
  | _ => []

/-- The bytes of `buf` that the answer of `poll_write_inner` reports as taken. -/
def Poll.taken (buf : List UInt8) : Poll (Except IoError ℕ) → List UInt8
  | .ready (.ok n) => buf.take n
  | _ => []

/-- The bytes that a read returned. -/
def bytesRead (s : Option (Shared T)) : SoloEvent → List UInt8
  | .read lock waker len =>
    match s with
    | some s => (ReadHalf.pollReadInner lock s waker len).1.bytes
    | none => []
  | _ => []

/-- The bytes that a write took. -/
def bytesWritten (s : Option (Shared T)) : SoloEvent → List UInt8
  | .write handle lock waker buf =>
    match s with
    | some s => (WriteHalf.pollWriteInner lock s handle waker buf).1.taken buf
    | none => []
  | _ => []

/-- The socket after a packet, if it is one for it. -/
def afterPacket (s : Option (Shared T)) : SoloEvent → Option (T × T)
  | .process timestamp ipRepr tcpRepr =>
    match s with
    | some s =>
      match checkAcceptability s.tcp ipRepr tcpRepr with
      | .ok () => some (s.tcp, (TcpSocket.process s.tcp timestamp ipRepr tcpRepr).2)
      | .error _ => none
    | none => none
  | _ => none

/-- The bytes that a packet adds to the receive buffer. -/
def bytesReceived (rx : T → List UInt8) (s : Option (Shared T)) (e : SoloEvent) : List UInt8 :=
  match afterPacket s e with
  | some (tcp, tcp') => (rx tcp').drop (rx tcp).length
  | none => []

/-- The bytes of the transmit buffer that a packet acknowledges. -/
def bytesAcked (tx : T → List UInt8) (s : Option (Shared T)) (e : SoloEvent) : List UInt8 :=
  match afterPacket s e with
  | some (tcp, tcp') => (tx tcp).take ((tx tcp).length - (tx tcp').length)
  | none => []

/-- The bytes of a buffer that a dispatch throws away. -/
def bytesLost (wire : Wire) (buf : T → List UInt8) (s : Option (Shared T)) : SoloEvent → List UInt8
  | .dispatch timestamp =>
    match s with
    | some s =>
      if buf (TcpSocket.dispatchTo wire s.tcp timestamp).2.2 = buf s.tcp then [] else buf s.tcp
    | none => []
  | _ => []

/-- What is in a buffer. -/
def buffered (buf : T → List UInt8) (s : Option (Shared T)) : List UInt8 :=
  match s with
  | some s => buf s.tcp
  | none => []

namespace Solo

variable {wire : Wire} {rx tx : T → List UInt8} {c c' : Solo T} {e : SoloEvent}

def Closed (c : Solo T) : Prop := ∃ s, c.shared = some s ∧ TcpSocket.state s.tcp = .closed

/-- The two buffers at a step: bytes go in at one end and come out at the other, and nothing goes
into a closed socket. -/
structure Moves (wire : Wire) (rx tx : T → List UInt8) (c : Solo T) (e : SoloEvent) (c' : Solo T) :
    Prop where
  receive : buffered rx c.shared ++ bytesReceived rx c.shared e
    = bytesRead c.shared e ++ buffered rx c'.shared
  send : buffered tx c.shared ++ bytesWritten c.shared e
    = bytesAcked tx c.shared e ++ buffered tx c'.shared
  rx_kept : bytesLost wire rx c.shared e = []
  tx_kept : bytesLost wire tx c.shared e = []
  closed : c.Closed → c'.Closed ∧ bytesReceived rx c.shared e = [] ∧
    bytesWritten c.shared e = []

/-- The socket is closed and its buffers are thrown away. -/
structure Resets (wire : Wire) (rx tx : T → List UInt8) (c : Solo T) (e : SoloEvent) (c' : Solo T) :
    Prop where
  received : bytesReceived rx c.shared e = []
  read : bytesRead c.shared e = []
  written : bytesWritten c.shared e = []
  acked : bytesAcked tx c.shared e = []
  rx_lost : bytesLost wire rx c.shared e = buffered rx c.shared
  tx_lost : bytesLost wire tx c.shared e = buffered tx c.shared
  rx_empty : buffered rx c'.shared = []
  tx_empty : buffered tx c'.shared = []
  closed : c'.Closed

lemma closed_some {s : Shared T} (hs : c.shared = some s) :
    c.Closed ↔ TcpSocket.state s.tcp = .closed := by
  simp [Closed, hs]

/-- A step that is no read, write or packet, and leaves the buffers. -/
lemma Moves.of_quiet (hread : bytesRead c.shared e = []) (hwritten : bytesWritten c.shared e = [])
    (hpacket : afterPacket c.shared e = none) (hrx : buffered rx c'.shared = buffered rx c.shared)
    (htx : buffered tx c'.shared = buffered tx c.shared)
    (hrx_kept : bytesLost wire rx c.shared e = []) (htx_kept : bytesLost wire tx c.shared e = [])
    (hclosed : c.Closed → c'.Closed) : Moves wire rx tx c e c' := by
  have hreceived : bytesReceived rx c.shared e = [] := by rw [bytesReceived, hpacket]
  have hacked : bytesAcked tx c.shared e = [] := by rw [bytesAcked, hpacket]
  refine ⟨?_, ?_, hrx_kept, htx_kept, fun h => ⟨hclosed h, hreceived, hwritten⟩⟩
  · rw [hreceived, hread, hrx, List.append_nil, List.nil_append]
  · rw [hwritten, hacked, htx, List.append_nil, List.nil_append]

/-- Also one that leaves the socket alone. -/
lemma Moves.of_tcp {s s' : Shared T} (hs : c.shared = some s) (hs' : c'.shared = some s')
    (htcp : s'.tcp = s.tcp) (hread : bytesRead c.shared e = [])
    (hwritten : bytesWritten c.shared e = []) (hpacket : afterPacket c.shared e = none)
    (hkept : ∀ buf, bytesLost wire buf c.shared e = []) : Moves wire rx tx c e c' := by
  have hbuf : ∀ buf : T → List UInt8, buffered buf c'.shared = buffered buf c.shared := by
    intro buf
    rw [hs, hs']
    exact congrArg buf htcp
  refine .of_quiet hread hwritten hpacket (hbuf rx) (hbuf tx) (hkept rx) (hkept tx) ?_
  rw [closed_some hs, closed_some hs', htcp]
  exact id

/-- And one that closes the socket. -/
lemma Moves.of_close (hT : Buffers T wire rx tx) {s s' : Shared T} (hs : c.shared = some s)
    (hs' : c'.shared = some s') (htcp : s'.tcp = TcpSocket.close s.tcp)
    (hread : bytesRead c.shared e = []) (hwritten : bytesWritten c.shared e = [])
    (hpacket : afterPacket c.shared e = none)
    (hkept : ∀ buf, bytesLost wire buf c.shared e = []) : Moves wire rx tx c e c' := by
  refine .of_quiet hread hwritten hpacket ?_ ?_ (hkept rx) (hkept tx) ?_
  · rw [hs, hs', buffered, htcp]
    exact (hT.close _).1
  · rw [hs, hs', buffered, htcp]
    exact (hT.close _).2
  · rw [closed_some hs, closed_some hs', htcp]
    exact fun hcl => (hT.closed _ hcl).2.1

/-- A read takes the bytes that it returns out of the receive buffer. -/
lemma moves_read (hT : Buffers T wire rx tx) {s s' : Shared T} {lock : Bool} {waker : Waker}
    {len : ℕ} {r : Poll (Except IoError (List UInt8))} (hs : c.shared = some s)
    (h : ReadHalf.pollReadInner lock s waker len = (r, s')) :
    Moves wire rx tx c (.read lock waker len) { c with shared := some s' } := by
  have hread : bytesRead c.shared (.read lock waker len) = r.bytes := by
    simp only [bytesRead, hs, h]
  have hblocked : ∀ {s₁ : Shared T}, ReadHalf.Blocked s₁ waker r s' → r.bytes = [] := by
    intro s₁ hb
    rcases hb.result with ⟨-, rfl, -⟩ | ⟨-, -, rfl, -⟩
    · rfl
    · cases s₁.eofReached <;> rfl
  -- without bytes in the answer the socket is the same, or `recv_slice` has taken none
  have hcases : (s'.tcp = s.tcp ∧ r.bytes = []) ∨
      TcpSocket.recvSlice s.tcp len = .ok (r.bytes, s'.tcp) := by
    rcases ReadHalf.pollReadInner_cases h with ⟨-, rfl, rfl⟩ |
      ⟨-, -, b, bytes, tcp, hrecv, rfl, rfl⟩ | ⟨-, -, _, -, rfl, rfl⟩ | ⟨-, -, tcp, hrecv, hb⟩ |
      ⟨-, -, hb⟩
    · exact Or.inl ⟨rfl, rfl⟩
    · exact Or.inr hrecv
    · exact Or.inl ⟨rfl, rfl⟩
    · rw [hblocked hb, hb.tcp_eq]
      exact Or.inr hrecv
    · exact Or.inl ⟨hb.tcp_eq, hblocked hb⟩
  rcases hcases with ⟨htcp, hnil⟩ | hrecv
  · exact .of_tcp hs rfl htcp (hread.trans hnil) rfl rfl fun _ => rfl
  · obtain ⟨hrx, htx⟩ := hT.recv _ _ _ _ hrecv
    refine ⟨?_, ?_, rfl, rfl, fun hcl => ⟨⟨s', rfl, ?_⟩, rfl, rfl⟩⟩
    · rw [hread, hs]
      exact (List.append_nil _).trans hrx
    · rw [hs]
      exact (List.append_nil _).trans htx.symm
    · exact (hT.closed _ ((closed_some hs).mp hcl)).2.2.2 _ _ _ hrecv

/-- A write adds the bytes that it reports as taken to the transmit buffer. -/
lemma moves_write (hT : Buffers T wire rx tx) {s s' : Shared T} {handle : SocketHandle}
    {lock : Bool} {waker : Waker} {buf : List UInt8} {r : Poll (Except IoError ℕ)}
    {update : Option PollUpdate} (hs : c.shared = some s)
    (h : WriteHalf.pollWriteInner lock s handle waker buf = (r, s', update)) :
    Moves wire rx tx c (.write handle lock waker buf) { c with shared := some s' } := by
  have hwritten : bytesWritten c.shared (.write handle lock waker buf) = r.taken buf := by
    simp only [bytesWritten, hs, h]
  have htaken : ∀ {n : ℕ}, WriteHalf.Written s handle waker n r s' update →
      r.taken buf = buf.take n := by
    intro n hwr
    rcases hwr.result with ⟨-, rfl, -⟩ | ⟨rfl, -, rfl, -⟩ | ⟨rfl, -, rfl, -⟩
    · rfl
    · exact List.take_zero.symm
    · exact List.take_zero.symm
  have hcases : (s'.tcp = s.tcp ∧ r.taken buf = []) ∨ (TcpSocket.canSend s.tcp = true ∧
      ∃ n, TcpSocket.sendSlice s.tcp buf = .ok (n, s'.tcp) ∧ r.taken buf = buf.take n) := by
    rcases WriteHalf.pollWriteInner_cases h with ⟨-, rfl, rfl, -⟩ | ⟨-, -, _, -, rfl, rfl, -⟩ |
      ⟨-, hcan, n, hsend, hwr⟩ | ⟨-, -, htcp, hwr⟩
    · exact Or.inl ⟨rfl, rfl⟩
    · exact Or.inl ⟨rfl, rfl⟩
    · exact Or.inr ⟨hcan, n, hsend, htaken hwr⟩
    · exact Or.inl ⟨htcp, (htaken hwr).trans List.take_zero⟩
  rcases hcases with ⟨htcp, hnil⟩ | ⟨hcan, n, hsend, htake⟩
  · exact .of_tcp hs rfl htcp rfl (hwritten.trans hnil) rfl fun _ => rfl
  · obtain ⟨htx, hrx⟩ := hT.send _ _ _ _ hsend
    refine ⟨?_, ?_, rfl, rfl, fun hcl => ?_⟩
    · rw [hs]
      exact (List.append_nil _).trans hrx.symm
    · rw [hwritten, htake, hs]
      exact htx.symm
    · rw [(hT.closed _ ((closed_some hs).mp hcl)).1] at hcan
      cases hcan

/-- A packet adds to the receive buffer, and takes what it acknowledges off the transmit buffer. -/
lemma moves_process (hT : Buffers T wire rx tx) {s : Shared T} (inner : RwStatus)
    (ts : SmolInstant) (ip : IpRepr) (tcp : TcpRepr) (hs : c.shared = some s) :
    Moves wire rx tx c (.process ts ip tcp)
      { c with shared := some (inner.processed s ts ip tcp) } := by
  cases hacc : checkAcceptability s.tcp ip tcp with
  | error e =>
    refine .of_tcp hs rfl (by rw [inner.processed_refused ts hacc]) rfl rfl ?_ fun _ => rfl
    simp only [afterPacket, hs, hacc]
  | ok =>
    have htcp := inner.processed_tcp ts hacc
    have hpacket : afterPacket c.shared (.process ts ip tcp)
        = some (s.tcp, (TcpSocket.process s.tcp ts ip tcp).2) := by
      simp only [afterPacket, hs, hacc]
    obtain ⟨⟨more, hrx⟩, ⟨acked, htx⟩⟩ := hT.process s.tcp ts ip tcp
    refine ⟨?_, ?_, rfl, rfl, fun hcl => ?_⟩
    · rw [bytesReceived, hpacket, hs]
      dsimp only [buffered]
      rw [htcp, ← hrx, List.drop_left]
      rfl
    · rw [bytesAcked, hpacket, hs]
      dsimp only [buffered]
      rw [htcp, ← htx, List.length_append, Nat.add_sub_cancel, List.take_left]
      exact List.append_nil _
    · -- a closed socket accepts no packets
      unfold checkAcceptability at hacc
      rw [if_pos ((closed_some hs).mp hcl)] at hacc
      cases hacc

/-- A dispatch leaves the buffers alone, or resets the socket. -/
lemma moves_dispatch (hT : Buffers T wire rx tx) {s s' : Shared T} {inner : RwStatus}
    {ts : SmolInstant} {drop : Bool} (hs : c.shared = some s) (hs' : c'.shared = some s')
    (hd : inner.dispatched wire s ts = (drop, s')) :
    Moves wire rx tx c (.dispatch ts) c' ∨ Resets wire rx tx c (.dispatch ts) c' := by
  have htcp : s'.tcp = (TcpSocket.dispatchTo wire s.tcp ts).2.2 := by
    rw [← inner.dispatched_tcp ts, hd]
  have hlost : ∀ buf : T → List UInt8, bytesLost wire buf c.shared (.dispatch ts)
      = if buf s'.tcp = buf s.tcp then [] else buf s.tcp := by
    intro buf
    rw [hs, htcp]
    rfl
  have hemptied : ∀ buf : T → List UInt8, buf s'.tcp = [] →
      bytesLost wire buf c.shared (.dispatch ts) = buffered buf c.shared := by
    intro buf hnil
    rw [hlost, hnil, hs]
    split
    · next h => exact h
    · rfl
  rcases hT.dispatch s.tcp ts with ⟨hrx, htx⟩ | ⟨hstate, hrx, htx⟩
  · rw [← htcp] at hrx htx
    refine Or.inl (.of_quiet rfl rfl rfl ?_ ?_ ?_ ?_ ?_)
    · rw [hs, hs']
      exact hrx
    · rw [hs, hs']
      exact htx
    · rw [hlost, if_pos hrx]
    · rw [hlost, if_pos htx]
    · rw [closed_some hs, closed_some hs', htcp]
      exact fun hcl => (hT.closed _ hcl).2.2.1 ts
  · rw [← htcp] at hstate hrx htx
    refine Or.inr ⟨rfl, rfl, rfl, rfl, hemptied rx hrx, hemptied tx htx, ?_, ?_, ?_⟩
    · rw [hs']
      exact hrx
    · rw [hs']
      exact htx
    · rw [closed_some hs', hstate]

/-- **The buffers at each step.** -/
theorem moves_step (hT : Buffers T wire rx tx) (hc : c.Blank) (h : c.step wire e = .ok c') :
    Moves wire rx tx c e c' ∨ Resets wire rx tx c e c' := by
  cases steps_of_step h with
  | @create pair tcp hstage hopen =>
    have hnone := hc hstage
    obtain ⟨hrx, htx⟩ := hT.open_empty _ _ hopen
    refine Or.inl (.of_quiet rfl rfl rfl ?_ ?_ rfl rfl ?_)
    · rw [hnone]
      exact hrx
    · rw [hnone]
      exact htx
    · rintro ⟨s, hs, -⟩
      rw [hnone] at hs
      cases hs
  | accept | discard | insert | drop | stop =>
    exact Or.inl (.of_quiet rfl rfl rfl rfl rfl rfl rfl id)
  | read lock waker len _ hs hr => exact Or.inl (moves_read hT hs hr)
  | write handle lock waker buf _ hs hw => exact Or.inl (moves_write hT hs hw)
  | close handle lock _ hs hw =>
    rcases WriteHalf.pollCloseInner_cases hw with ⟨-, -, rfl, -⟩ | ⟨-, -, rfl, -⟩
    · exact Or.inl (.of_tcp hs rfl rfl rfl rfl rfl fun _ => rfl)
    · exact Or.inl (.of_close hT hs rfl rfl rfl rfl rfl fun _ => rfl)
  | @told inner s rw hstage hs =>
    have htcp := inner.halfDropped_tcp (s := s) rw
    split at htcp
    · exact Or.inl (.of_close hT hs rfl htcp rfl rfl rfl fun _ => rfl)
    · exact Or.inl (.of_tcp hs rfl htcp rfl rfl rfl fun _ => rfl)
  | process ts ip tcp _ hs => exact Or.inl (moves_process hT _ ts ip tcp hs)
  | dispatch _ hs hd => exact moves_dispatch hT hs rfl hd

variable {hist : List (Solo T × SoloEvent)}

/-! ### Runs -/

open Transition

/-- What was received is what was read, what a reset threw away, and what is in the buffer. -/
theorem run_received (hT : Buffers T wire rx tx) (r : Run (step wire) init hist c) :
    collect (fun c e => bytesReceived rx c.shared e) hist
        = collect (fun c e => bytesRead c.shared e) hist
          ++ collect (fun c e => bytesLost wire rx c.shared e) hist ++ buffered rx c.shared ∧
      (collect (fun c e => bytesLost wire rx c.shared e) hist ≠ [] →
        c.Closed ∧ buffered rx c.shared = []) := by
  refine r.conserves_until (c := fun c => buffered rx c.shared) (I := Blank) (fun _ => rfl) rfl
    blank_step fun hc h => ?_
  rcases moves_step hT hc h with hm | hm
  · exact Or.inl ⟨hm.receive, hm.rx_kept, fun hcl => ⟨(hm.closed hcl).1, (hm.closed hcl).2.1⟩⟩
  · exact Or.inr ⟨hm.received, hm.read, hm.rx_empty, hm.rx_lost, hm.closed⟩

/-- What was written is what was acknowledged, what a reset threw away, and what is in the
buffer. -/
theorem run_written (hT : Buffers T wire rx tx) (r : Run (step wire) init hist c) :
    collect (fun c e => bytesWritten c.shared e) hist
        = collect (fun c e => bytesAcked tx c.shared e) hist
          ++ collect (fun c e => bytesLost wire tx c.shared e) hist ++ buffered tx c.shared ∧
      (collect (fun c e => bytesLost wire tx c.shared e) hist ≠ [] →
        c.Closed ∧ buffered tx c.shared = []) := by
  refine r.conserves_until (c := fun c => buffered tx c.shared) (I := Blank) (fun _ => rfl) rfl
    blank_step fun hc h => ?_
  rcases moves_step hT hc h with hm | hm
  · exact Or.inl ⟨hm.send, hm.tx_kept, fun hcl => ⟨(hm.closed hcl).1, (hm.closed hcl).2.2⟩⟩
  · exact Or.inr ⟨hm.written, hm.acked, hm.tx_empty, hm.tx_lost, hm.closed⟩

end Solo

/-- A read that reports the end of the stream finds the receive buffer empty. -/
lemma ReadHalf.pollReadInner_end {wire : Wire} {rx tx : T → List UInt8} (hT : Buffers T wire rx tx)
    (hR : RecvSide T wire) {lock : Bool} {s : Shared T} {waker : Waker} {len : ℕ}
    (h : (pollReadInner lock s waker len).1 = .ready (.ok [])) : rx s.tcp = [] := by
  generalize hr : pollReadInner lock s waker len = x at h
  obtain ⟨r, s'⟩ := x
  have hempty : ∀ {tcp : T}, TcpSocket.mayRecv tcp = false → rx tcp = [] := by
    intro tcp hmay
    rw [hR.mayRecv_eq, Bool.or_eq_false_iff, decide_eq_false_iff_not, hT.recv_queue] at hmay
    exact List.length_eq_zero_iff.mp (by omega)
  have hblocked : ∀ {s₁ : Shared T}, Blocked s₁ waker r s' → rx s₁.tcp = [] := by
    intro s₁ hb
    rcases hb.result with ⟨-, hp, -⟩ | ⟨hmay, -⟩
    · rw [hp] at h
      cases h
    · exact hempty hmay
  rcases pollReadInner_cases hr with ⟨-, rfl, -⟩ | ⟨-, -, b, bytes, tcp, -, rfl, -⟩ |
    ⟨-, -, _, -, rfl, -⟩ | ⟨-, -, tcp, hrecv, hb⟩ | ⟨-, -, hb⟩
  · cases h
  · cases h
  · cases h
  · -- `recv_slice` has taken nothing
    rw [(hT.recv _ _ _ _ hrecv).1, List.nil_append]
    exact hblocked hb
  · exact hblocked hb

namespace State

open World Transition

variable {wire : Wire} {clock : Clock} {s : State T Q} {hist : List (State T Q × Label)}
  {rx tx : T → List UInt8}

/-- **What is read is what was received.** In every run, for every connection: the bytes that the
peer's packets brought are those that the reads of the application returned, in order, then those
that a reset threw away, then those still in the receive buffer. A reset leaves the socket closed
and is the only way that bytes are lost. -/
theorem reads_in_order (hT : Buffers T wire rx tx) (r : LoopRun wire clock hist s) (id : ConnId) :
    collect (seen (bytesReceived rx) id) (events wire hist)
        = collect (seen bytesRead id) (events wire hist)
          ++ collect (seen (bytesLost wire rx) id) (events wire hist)
          ++ buffered rx (s.world.shared id) ∧
      (collect (seen (bytesLost wire rx) id) (events wire hist) ≠ [] →
        ∃ sh, s.world.shared id = some sh ∧ TcpSocket.state sh.tcp = .closed) := by
  rw [collect_seen, collect_seen, collect_seen]
  obtain ⟨hflow, hlost⟩ := Solo.run_received hT (LoopRun.solo r id)
  exact ⟨hflow, fun h => (hlost h).1⟩

/-- The application has read three of the four bytes that came in two packets. -/
theorem reads_in_order_exchange :
    ∃ hist s, LoopRun Reference.wire Reference.clock hist (s : Reference.HoldingLoop) ∧
      collect (seen bytesRead 0) (events Reference.wire hist) = [1, 2, 3] ∧
      collect (seen (bytesReceived Reference.Holding.rx) 0) (events Reference.wire hist)
        = [1, 2, 3, 4] := by
  obtain ⟨hist, s, r, hs⟩ := Reference.run_of_holding Reference.exchange
    (fun hist s =>
      decide (collect (seen bytesRead 0) (events Reference.wire hist) = [1, 2, 3]) &&
      decide (collect (seen (bytesLost Reference.wire Reference.Holding.rx) 0)
        (events Reference.wire hist) = []) &&
      decide (buffered Reference.Holding.rx (s.world.shared 0) = [4])) (by decide +kernel)
  simp only [Bool.and_eq_true, decide_eq_true_eq] at hs
  obtain ⟨⟨hread, hlost⟩, hbuf⟩ := hs
  have h := (reads_in_order Reference.Holding.buffers r 0).1
  rw [hread, hlost, hbuf] at h
  exact ⟨hist, s, r, hread, h⟩

/-- **What is acknowledged is what was written.** In every run, for every connection: the bytes that
the writes of the application reported as taken are those that the peer has acknowledged, in order,
then those that a reset threw away, then those still in the transmit buffer. -/
theorem writes_in_order (hT : Buffers T wire rx tx) (r : LoopRun wire clock hist s) (id : ConnId) :
    collect (seen bytesWritten id) (events wire hist)
        = collect (seen (bytesAcked tx) id) (events wire hist)
          ++ collect (seen (bytesLost wire tx) id) (events wire hist)
          ++ buffered tx (s.world.shared id) ∧
      (collect (seen (bytesLost wire tx) id) (events wire hist) ≠ [] →
        ∃ sh, s.world.shared id = some sh ∧ TcpSocket.state sh.tcp = .closed) := by
  rw [collect_seen, collect_seen, collect_seen]
  obtain ⟨hflow, hlost⟩ := Solo.run_written hT (LoopRun.solo r id)
  exact ⟨hflow, fun h => (hlost h).1⟩

/-- The peer has acknowledged two of the three bytes that the application has written. -/
theorem writes_in_order_exchange :
    ∃ hist s, LoopRun Reference.wire Reference.clock hist (s : Reference.HoldingLoop) ∧
      collect (seen (bytesAcked Reference.Holding.data) 0) (events Reference.wire hist)
        = [11, 12] ∧
      collect (seen bytesWritten 0) (events Reference.wire hist) = [11, 12, 13] := by
  obtain ⟨hist, s, r, hs⟩ := Reference.run_of_holding Reference.exchange
    (fun hist s =>
      decide (collect (seen (bytesAcked Reference.Holding.data) 0) (events Reference.wire hist)
        = [11, 12]) &&
      decide (collect (seen (bytesLost Reference.wire Reference.Holding.data) 0)
        (events Reference.wire hist) = []) &&
      decide (buffered Reference.Holding.data (s.world.shared 0) = [13])) (by decide +kernel)
  simp only [Bool.and_eq_true, decide_eq_true_eq] at hs
  obtain ⟨⟨hacked, hlost⟩, hbuf⟩ := hs
  have h := (writes_in_order Reference.Holding.buffers r 0).1
  rw [hacked, hlost, hbuf] at h
  exact ⟨hist, s, r, hacked, h⟩

/-- **The end of the stream comes after the last byte.** A read that returns `Ok(0)` does so when
every byte received has been read, but for those that a reset threw away. -/
theorem end_after_last_byte (hT : Buffers T wire rx tx) (hR : RecvSide T wire)
    (r : LoopRun wire clock hist s) {id : ConnId} {sh : Shared T} {lock : Bool} {waker : Waker}
    {len : ℕ} (hs : s.world.shared id = some sh)
    (hend : (ReadHalf.pollReadInner lock sh waker len).1 = .ready (.ok [])) :
    collect (seen (bytesReceived rx) id) (events wire hist)
        = collect (seen bytesRead id) (events wire hist)
          ++ collect (seen (bytesLost wire rx) id) (events wire hist) ∧
      (TcpSocket.state sh.tcp ≠ .closed →
        collect (seen (bytesReceived rx) id) (events wire hist)
          = collect (seen bytesRead id) (events wire hist)) := by
  rw [collect_seen, collect_seen, collect_seen]
  obtain ⟨hflow, hlost⟩ := Solo.run_received hT (LoopRun.solo r id)
  have hbuf : buffered rx (s.world.view id).shared = [] := by
    rw [show (s.world.view id).shared = some sh from hs]
    exact ReadHalf.pollReadInner_end hT hR hend
  rw [hbuf, List.append_nil] at hflow
  refine ⟨hflow, fun hopen => ?_⟩
  have hnil : collect (fun c e => bytesLost wire rx c.shared e) (soloEvents wire id hist) = [] := by
    by_contra hne
    exact hopen ((Solo.closed_some hs).mp (hlost hne).1)
  rw [hflow, hnil, List.append_nil]

/-- The client has sent two bytes and a FIN, and the application has read the bytes. -/
theorem end_after_last_byte_fin :
    ∃ hist s sh, LoopRun Reference.wire Reference.clock hist (s : Reference.HoldingLoop) ∧
      s.world.shared 0 = some sh ∧
      (ReadHalf.pollReadInner true sh 7 10).1 = .ready (.ok []) ∧
      collect (seen bytesRead 0) (events Reference.wire hist) = [1, 2] ∧
      collect (seen (bytesReceived Reference.Holding.rx) 0) (events Reference.wire hist)
        = [1, 2] := by
  obtain ⟨hist, s, r, hs⟩ := Reference.run_of_holding Reference.lastBytes
    (fun hist s =>
      decide (collect (seen bytesRead 0) (events Reference.wire hist) = [1, 2]) &&
      (s.world.shared 0).any fun sh => decide (TcpSocket.state sh.tcp ≠ .closed) &&
        decide ((ReadHalf.pollReadInner true sh 7 10).1 = .ready (.ok []))) (by decide +kernel)
  rw [Bool.and_eq_true, decide_eq_true_eq, Option.any_eq_true] at hs
  obtain ⟨hread, sh, hsh, hend⟩ := hs
  rw [Bool.and_eq_true, decide_eq_true_eq, decide_eq_true_eq] at hend
  have h := (end_after_last_byte Reference.Holding.buffers Reference.Holding.recvSide r hsh
    hend.2).2 hend.1
  rw [hread] at h
  exact ⟨hist, s, sh, r, hsh, hend.2, hread, h⟩

end State

end Ustunet
